/-
This file is about the instants the Gateway reads and writes by hand. The two conversions between
days and dates are each other's inverse, what is written is read as what it was written for, and
every RFC 3339 date and time is read as the second it says. What is not one is not always refused:
the fields are read at fixed places as integers that may carry a sign, whatever stands between them,
and a day is of some month or other.
-/

import Twalk.HermesAnswer
import Twalk.Library.Rfc3339

namespace Twalk.HermesAnswer

open Rfc3339 (Date dayNumber dateOf)

/-! ### What a text says -/

def IsFraction (text : List Char) : Prop :=
  text = [] ∨ ∃ digits, digits ≠ [] ∧ (∀ digit ∈ digits, digit.isDigit = true) ∧
    text = '.' :: digits

/-- The end of a date and time, and the seconds its own time is ahead by. -/
inductive IsOffset : List Char → Int → Prop where
  | zulu (letter : Char) (isZulu : letter = 'Z' ∨ letter = 'z') : IsOffset [letter] 0
  | ahead (hours minutes : Nat) (inDay : hours ≤ 23) (inHour : minutes ≤ 59) :
      IsOffset ('+' :: (Rfc3339.padded 2 hours ++ ':' :: Rfc3339.padded 2 minutes))
        (hours * 3600 + minutes * 60)
  | behind (hours minutes : Nat) (inDay : hours ≤ 23) (inHour : minutes ≤ 59) :
      IsOffset ('-' :: (Rfc3339.padded 2 hours ++ ':' :: Rfc3339.padded 2 minutes))
        (-(hours * 3600 + minutes * 60))

/-- The fields of an RFC 3339 date and time. -/
structure Fields where
  year : Nat
  month : Nat
  day : Nat
  hour : Nat
  minute : Nat
  second : Nat
  mark : Char
  fraction : List Char
  offset : List Char
  ahead : Int

namespace Fields

def date (fields : Fields) : Date := ⟨fields.year, fields.month, fields.day⟩

def text (fields : Fields) : List Char :=
  Rfc3339.padded 4 fields.year ++ '-' :: (Rfc3339.padded 2 fields.month ++ '-' ::
    (Rfc3339.padded 2 fields.day ++ fields.mark :: (Rfc3339.padded 2 fields.hour ++ ':' ::
      (Rfc3339.padded 2 fields.minute ++ ':' :: (Rfc3339.padded 2 fields.second ++
        (fields.fraction ++ fields.offset))))))

def instant (fields : Fields) : Int :=
  dayNumber fields.date * 86400 + fields.hour * 3600 + fields.minute * 60 + fields.second -
    fields.ahead

/-- What makes fields a date and time: a day of the calendar, a time of it, and a second that is
the sixtieth only where a leap second can be, at the end of a month of Coordinated Universal
Time. -/
structure Valid (fields : Fields) : Prop where
  year : fields.year < 10000
  date : fields.date.Valid
  hour : fields.hour ≤ 23
  minute : fields.minute ≤ 59
  second : fields.second ≤ 59 ∨ fields.second = 60 ∧ fields.instant % 86400 = 0 ∧
    (dateOf (fields.instant / 86400)).day = 1
  mark : fields.mark = 'T' ∨ fields.mark = 't'
  fraction : IsFraction fields.fraction
  offset : IsOffset fields.offset fields.ahead

end Fields

def Says (value : String) (instant : Int) : Prop :=
  ∃ fields : Fields, fields.Valid ∧ value.toList = fields.text ∧ fields.instant = instant

/-- The integer at a place of a text. -/
def fieldAt (value : String) (start width : Nat) : Option Int :=
  numberOf ((value.toList.drop start).take width)

/-- A text has integers at the places of the fields, a month and a day in range, and after the first
sign that follows the seconds, if there is one, two characters that are an integer. -/
structure Loose (value : String) : Prop where
  long : 20 ≤ value.utf8ByteSize
  ascii : ∀ character ∈ value.toList.take 19, character.toNat < 128
  fields : ∃ year month day hour minute second, fieldAt value 0 4 = some year ∧
    fieldAt value 5 2 = some month ∧ fieldAt value 8 2 = some day ∧
    fieldAt value 11 2 = some hour ∧ fieldAt value 14 2 = some minute ∧
    fieldAt value 17 2 = some second ∧ (1 ≤ month ∧ month ≤ 12) ∧ 1 ≤ day ∧ day ≤ 31
  offset : ∀ sign rest, ((value.toList.drop 19).dropWhile fun character =>
      character != '+' && character != '-') = sign :: rest →
    ∃ first second others hours, rest = first :: second :: others ∧
      numberOf [first, second] = some hours

/-- The reading and the writing of instants by hand are exact: what is written is read back, days
and dates are each other's inverse, and a text is read exactly as what it says. -/
structure Exact (value : String) : Prop where
  written : ∀ seconds : Nat, (seconds : Int) < Rfc3339.lastDay * 86400 →
    parseRfc3339Seconds (rfc3339Seconds seconds) = some (seconds : Int)
  days : ∀ number : Int, daysFromCivil (civilFromDays number).1 (civilFromDays number).2.1
    (civilFromDays number).2.2 = number
  dates : ∀ date : Date, date.Valid →
    civilFromDays (daysFromCivil date.year date.month date.day) = (date.year, date.month, date.day)
  read : ∀ instant, parseRfc3339Seconds value = some instant ↔ Says value instant

/-! ### Days and dates -/

theorem era_eq (year : Int) : (if 0 ≤ year then year else year - 399).tdiv 400 = year / 400 := by
  split
  · rename_i positive
    exact Int.tdiv_eq_ediv_of_nonneg positive
  · rename_i negative
    rw [show year - 399 = -(399 - year) by omega, Int.neg_tdiv,
      Int.tdiv_eq_ediv_of_nonneg (by omega)]
    omega

theorem eraOfDays_eq (days : Int) :
    (if 0 ≤ days then days else days - 146096).tdiv 146097 = days / 146097 := by
  split
  · rename_i positive
    exact Int.tdiv_eq_ediv_of_nonneg positive
  · rename_i negative
    rw [show days - 146096 = -(146096 - days) by omega, Int.neg_tdiv,
      Int.tdiv_eq_ediv_of_nonneg (by omega)]
    omega

theorem daysFromCivil_eq {date : Date} (month : 1 ≤ date.month ∧ date.month ≤ 12) :
    daysFromCivil date.year date.month date.day = dayNumber date := by
  have fromMarch : (if (2 : Int) < date.month then (date.month : Int) - 3 else date.month + 9) =
      ((date.month : Int) + 9) % 12 := by
    split <;> omega
  have marchYear : (if (date.month : Int) ≤ 2 then date.year - 1 else date.year) =
      if date.month ≤ 2 then date.year - 1 else date.year := by
    split <;> split <;> omega
  unfold daysFromCivil dayNumber Rfc3339.monthStart
  dsimp only
  rw [fromMarch, marchYear, era_eq]
  generalize (if date.month ≤ 2 then date.year - 1 else date.year) = year
  have inEra : 0 ≤ year - year / 400 * 400 := by omega
  rw [Int.tdiv_eq_ediv_of_nonneg inEra, Int.tdiv_eq_ediv_of_nonneg inEra,
    Int.tdiv_eq_ediv_of_nonneg (by omega)]
  omega

theorem yearOfEra_eq {century year day : Int} (centuryBounds : 0 ≤ century ∧ century ≤ 3)
    (yearBounds : 0 ≤ year ∧ year ≤ 99) (dayBounds : 0 ≤ day ∧ day ≤ 365)
    (leap : day = 365 → year % 4 = 3 ∧ (year = 99 → century = 3)) {dayOfEra : Int}
    (made : dayOfEra = 36524 * century + (365 * year + year / 4 + day)) :
    (dayOfEra - dayOfEra / 1460 + dayOfEra / 36524 - dayOfEra / 146096) / 365 =
      100 * century + year := by
  rcases eq_or_ne dayOfEra 146096 with isLast | notLast
  · rw [isLast] at made ⊢
    norm_num
    omega
  · -- All but the last day of an era are in its first four centuries.
    have inCentury : 0 ≤ 365 * year + year / 4 + day ∧ 365 * year + year / 4 + day < 36524 := by
      omega
    have ofEra : dayOfEra / 146096 = 0 := by omega
    have ofCentury : dayOfEra / 36524 = century := by omega
    -- The days of leap years before it, and whether it is among the last of its four years.
    have early : 0 ≤ (24 * century + year / 4 + 365 * (year % 4) + day) / 1460 ∧
        (24 * century + year / 4 + 365 * (year % 4) + day) / 1460 ≤ 1 := by omega
    have ofFours : dayOfEra / 1460 = 25 * century + year / 4 +
        (24 * century + year / 4 + 365 * (year % 4) + day) / 1460 := by omega
    have inYear : 0 ≤ day - (24 * century + year / 4 + 365 * (year % 4) + day) / 1460 ∧
        day - (24 * century + year / 4 + 365 * (year % 4) + day) / 1460 ≤ 364 := by omega
    rw [ofEra, ofCentury, ofFours]
    generalize (24 * century + year / 4 + 365 * (year % 4) + day) / 1460 = late at *
    omega

theorem dayOfYear_eq {century year day : Int} (yearBounds : 0 ≤ year ∧ year ≤ 99) :
    36524 * century + (365 * year + year / 4 + day) -
      (365 * (100 * century + year) + (100 * century + year) / 4 -
        (100 * century + year) / 100) = day := by
  omega

theorem yearDividend_nonneg {dayOfEra : Int} (positive : 0 ≤ dayOfEra) :
    0 ≤ dayOfEra - dayOfEra / 1460 + dayOfEra / 36524 - dayOfEra / 146096 := by
  omega

theorem era_of_parts {number century year day : Int}
    (parts : Rfc3339.Parts number century year day) :
    (number + 719468) / 146097 = century / 4 ∧
      number + 719468 - century / 4 * 146097 =
        36524 * (century % 4) + (365 * year + year / 4 + day) := by
  have made := parts.made
  have yearBounds := parts.yearBounds
  have dayBounds := parts.dayBounds
  have leap := parts.leap
  omega

theorem civilFromDays_eq (number : Int) : civilFromDays number =
    ((dateOf number).year, (dateOf number).month, (dateOf number).day) := by
  obtain ⟨century, year, day, parts, isDate⟩ := Rfc3339.parts_dateOf number
  obtain ⟨ofEra, dayOfEra⟩ := era_of_parts parts
  have yearBounds := parts.yearBounds
  have dayBounds := parts.dayBounds
  have yearOfEra := yearOfEra_eq (show 0 ≤ century % 4 ∧ century % 4 ≤ 3 by omega) yearBounds
    dayBounds parts.leap rfl
  have dayOfYear : 36524 * (century % 4) + (365 * year + year / 4 + day) -
      (365 * (100 * (century % 4) + year) + (100 * (century % 4) + year) / 4 -
        (100 * (century % 4) + year) / 100) = day := dayOfYear_eq yearBounds
  have positive : 0 ≤ 36524 * (century % 4) + (365 * year + year / 4 + day) := by omega
  have inEra : 0 ≤ 100 * (century % 4) + year := by omega
  have inCentury : 100 * (century % 4) + year + century / 4 * 400 = 100 * century + year := by omega
  have inMonth : 0 ≤ 5 * day + 2 := by omega
  have inDay : 0 ≤ 153 * ((5 * day + 2) / 153) + 2 := by omega
  rw [isDate]
  unfold civilFromDays
  dsimp only
  rw [eraOfDays_eq, ofEra, dayOfEra]
  generalize 36524 * (century % 4) + (365 * year + year / 4 + day) = days at *
  rw [Int.tdiv_eq_ediv_of_nonneg positive, Int.tdiv_eq_ediv_of_nonneg positive,
    Int.tdiv_eq_ediv_of_nonneg positive,
    Int.tdiv_eq_ediv_of_nonneg (yearDividend_nonneg positive), yearOfEra,
    Int.tdiv_eq_ediv_of_nonneg inEra, Int.tdiv_eq_ediv_of_nonneg inEra, dayOfYear,
    Int.tdiv_eq_ediv_of_nonneg inMonth, Int.tdiv_eq_ediv_of_nonneg inDay, inCentury]
  refine Prod.ext ?_ rfl
  unfold Rfc3339.dateOfParts Rfc3339.monthAfterMarch
  dsimp only
  generalize (if (5 * day + 2) / 153 < 10 then (5 * day + 2) / 153 + 3
    else (5 * day + 2) / 153 - 9).toNat = month
  split
  · rfl
  · rw [Int.add_zero]

theorem daysFromCivil_civilFromDays (number : Int) :
    daysFromCivil (civilFromDays number).1 (civilFromDays number).2.1
      (civilFromDays number).2.2 = number := by
  have valid := Rfc3339.valid_dateOf number
  rw [civilFromDays_eq, daysFromCivil_eq ⟨valid.1, valid.2.1⟩, Rfc3339.dayNumber_dateOf]

theorem civilFromDays_daysFromCivil {date : Date} (valid : date.Valid) :
    civilFromDays (daysFromCivil date.year date.month date.day) =
      (date.year, date.month, date.day) := by
  rw [daysFromCivil_eq ⟨valid.1, valid.2.1⟩, civilFromDays_eq, Rfc3339.dateOf_dayNumber valid]

/-! ### Digits -/

theorem foldl_padded (width before value : Nat) :
    (Rfc3339.padded width value).foldl (fun value digit => value * 10 + (digit.toNat - 48)) before =
      before * 10 ^ width + value % 10 ^ width := by
  induction width generalizing before with
  | zero => rw [Rfc3339.padded, List.foldl_nil, pow_zero, Nat.mul_one, Nat.mod_one, Nat.add_zero]
  | succ width inductionHypothesis =>
    have digit : ∀ small < 10, (Nat.digitChar small).toNat - 48 = small := by decide
    rw [Rfc3339.padded, List.foldl_cons, inductionHypothesis, Rfc3339.mod_pow_succ,
      digit _ (Nat.mod_lt _ (by decide))]
    ring

theorem numberOf_of_digits {characters : List Char} (nonempty : characters ≠ [])
    (digits : ∀ character ∈ characters, character.isDigit = true) : numberOf characters =
      some ((characters.foldl (fun value digit => value * 10 + (digit.toNat - 48)) 0 : Nat) :
        Int) := by
  unfold numberOf
  split
  · exact absurd (digits '-' List.mem_cons_self) (by decide)
  · exact absurd (digits '+' List.mem_cons_self) (by decide)
  · dsimp only
    rw [if_pos ⟨nonempty, List.all_eq_true.mpr digits⟩]
    rfl

theorem numberOf_padded {width value : Nat} (positive : width ≠ 0) (fits : value < 10 ^ width) :
    numberOf (Rfc3339.padded width value) = some (value : Int) := by
  have nonempty : Rfc3339.padded width value ≠ [] := by
    intro isEmpty
    have short := Rfc3339.length_padded width value
    rw [isEmpty] at short
    exact positive short.symm
  rw [numberOf_of_digits nonempty fun _ member => Rfc3339.isDigit_of_mem_padded member,
    foldl_padded, Nat.zero_mul, Nat.zero_add, Nat.mod_eq_of_lt fits]

theorem toList_padded {width value : Nat} (fits : value < 10 ^ (width + 1)) :
    (padded (width + 1) value).toList = Rfc3339.padded (width + 1) value := by
  have digits : (toString value).toList = Nat.toDigits 10 value := String.toList_ofList
  unfold padded
  dsimp only
  rw [String.toList_ofList, digits, Rfc3339.zeros_toDigits fits]

/-! ### Reading a date and time -/

theorem toNat_lt_of_isDigit {character : Char} (isDigit : character.isDigit = true) :
    character.toNat < 128 := by
  unfold Char.isDigit at isDigit
  rw [Bool.and_eq_true, decide_eq_true_eq, decide_eq_true_eq] at isDigit
  exact Nat.lt_of_le_of_lt (UInt32.le_iff_toNat_le.mp isDigit.2) (by decide)

theorem not_sign_of_isDigit {character : Char} (isDigit : character.isDigit = true) :
    (character == '+' || character == '-') = false := by
  by_contra isSign
  rw [Bool.not_eq_false, Bool.or_eq_true, beq_iff_eq, beq_iff_eq] at isSign
  rcases isSign with rfl | rfl <;> exact absurd isDigit (by decide)

theorem offsetOf_append {fraction offset : List Char} {ahead : Int}
    (isFraction : IsFraction fraction) (isOffset : IsOffset offset ahead) :
    offsetOf (fraction ++ offset) = some ahead := by
  have plain : ∀ character ∈ fraction, (character != '+' && character != '-') = true := by
    rcases isFraction with rfl | ⟨digits, -, areDigits, rfl⟩
    · exact fun _ member => absurd member List.not_mem_nil
    · refine List.forall_mem_cons.mpr ⟨by decide, fun character member => ?_⟩
      rw [bne, bne, ← Bool.not_or, not_sign_of_isDigit (areDigits character member)]
      rfl
  have hoursMinutes : ∀ hours minutes : Nat, hours ≤ 23 → minutes ≤ 59 →
      numberOf (Rfc3339.padded 2 hours) = some (hours : Int) ∧
        numberOf (Rfc3339.padded 2 minutes) = some (minutes : Int) :=
    fun hours minutes inDay inHour => ⟨numberOf_padded (by decide) (by omega),
      numberOf_padded (by decide) (by omega)⟩
  unfold offsetOf
  rw [List.dropWhile_append_of_pos plain]
  cases isOffset with
  | zulu letter isZulu => rcases isZulu with rfl | rfl <;> rfl
  | ahead hours minutes inDay inHour =>
    obtain ⟨readHours, readMinutes⟩ := hoursMinutes hours minutes inDay inHour
    rw [List.dropWhile_cons_of_neg (by decide)]
    refine Option.bind_eq_some_iff.mpr ⟨hours, readHours, ?_⟩
    change some (1 * ((hours : Int) * 3600 +
      (numberOf (Rfc3339.padded 2 minutes)).getD 0 * 60)) = _
    rw [readMinutes, Option.getD_some, one_mul]
  | behind hours minutes inDay inHour =>
    obtain ⟨readHours, readMinutes⟩ := hoursMinutes hours minutes inDay inHour
    rw [List.dropWhile_cons_of_neg (by decide)]
    refine Option.bind_eq_some_iff.mpr ⟨hours, readHours, ?_⟩
    change some (-1 * ((hours : Int) * 3600 +
      (numberOf (Rfc3339.padded 2 minutes)).getD 0 * 60)) = _
    rw [readMinutes, Option.getD_some, neg_one_mul]

theorem ne_nil_of_isOffset {offset : List Char} {ahead : Int} (isOffset : IsOffset offset ahead) :
    offset ≠ [] := by
  cases isOffset <;> exact List.cons_ne_nil _ _

namespace Fields

variable {fields : Fields} {value : String}

theorem Valid.bounds (valid : fields.Valid) : (1 ≤ fields.month ∧ fields.month ≤ 12) ∧
    (1 ≤ fields.day ∧ fields.day ≤ 31) ∧ fields.second ≤ 60 := by
  obtain ⟨firstMonth, lastMonth, firstOfMonth, lastOfMonth⟩ := valid.date
  have lastDay := Nat.le_trans lastOfMonth (Rfc3339.daysInMonth_le fields.date.year _)
  refine ⟨⟨firstMonth, lastMonth⟩, ⟨firstOfMonth, lastDay⟩, ?_⟩
  rcases valid.second with inMinute | ⟨leaps, -⟩ <;> omega

theorem fieldAt_text (isText : value.toList = fields.text) :
    fieldAt value 0 4 = numberOf (Rfc3339.padded 4 fields.year) ∧
    fieldAt value 5 2 = numberOf (Rfc3339.padded 2 fields.month) ∧
    fieldAt value 8 2 = numberOf (Rfc3339.padded 2 fields.day) ∧
    fieldAt value 11 2 = numberOf (Rfc3339.padded 2 fields.hour) ∧
    fieldAt value 14 2 = numberOf (Rfc3339.padded 2 fields.minute) ∧
    fieldAt value 17 2 = numberOf (Rfc3339.padded 2 fields.second) := by
  unfold fieldAt
  rw [isText]
  exact ⟨rfl, rfl, rfl, rfl, rfl, rfl⟩

theorem Valid.ascii (valid : fields.Valid) :
    ∀ character ∈ fields.text.take 19, character.toNat < 128 := by
  have front : fields.text.take 19 = Rfc3339.padded 4 fields.year ++ '-' ::
      (Rfc3339.padded 2 fields.month ++ '-' :: (Rfc3339.padded 2 fields.day ++ fields.mark ::
        (Rfc3339.padded 2 fields.hour ++ ':' :: (Rfc3339.padded 2 fields.minute ++ ':' ::
          Rfc3339.padded 2 fields.second)))) := rfl
  have ofDigits : ∀ {width number : Nat} {character : Char},
      character ∈ Rfc3339.padded width number → character.toNat < 128 :=
    fun member => toNat_lt_of_isDigit (Rfc3339.isDigit_of_mem_padded member)
  have ofMark : fields.mark.toNat < 128 := by
    rcases valid.mark with isMark | isMark <;> rw [isMark] <;> decide
  rw [front]
  simp only [List.forall_mem_append, List.forall_mem_cons]
  exact ⟨fun _ => ofDigits, by decide, fun _ => ofDigits, by decide, fun _ => ofDigits, ofMark,
    fun _ => ofDigits, by decide, fun _ => ofDigits, by decide, fun _ => ofDigits⟩

theorem Valid.long (valid : fields.Valid) (isText : value.toList = fields.text) :
    20 ≤ value.utf8ByteSize := by
  have ends : 0 < fields.offset.length := List.length_pos_iff.mpr (ne_nil_of_isOffset valid.offset)
  have inBytes := Text.length_le_utf8ByteSize value.toList
  rw [String.ofList_toList, isText] at inBytes
  refine le_trans ?_ inBytes
  unfold text
  simp only [List.length_append, List.length_cons, Rfc3339.length_padded]
  omega

theorem Valid.parse_eq (valid : fields.Valid) (isText : value.toList = fields.text) :
    parseRfc3339Seconds value = some fields.instant := by
  obtain ⟨⟨firstMonth, lastMonth⟩, ⟨firstDay, lastDay⟩, inMinute⟩ := valid.bounds
  have inDay := valid.hour
  have inHour := valid.minute
  obtain ⟨year, month, day, hour, minute, second⟩ := fieldAt_text isText
  rw [numberOf_padded (by decide) valid.year] at year
  rw [numberOf_padded (by decide) (by omega)] at month day hour minute second
  have afterSeconds : value.toList.drop 19 = fields.fraction ++ fields.offset := by
    rw [isText]
    rfl
  unfold parseRfc3339Seconds
  dsimp only
  rw [if_neg (not_or.mpr ⟨by have := valid.long isText; omega, not_not.mpr (List.all_eq_true.mpr
    fun character member => decide_eq_true (valid.ascii character (isText ▸ member)))⟩)]
  refine Option.bind_eq_some_iff.mpr ⟨_, year, ?_⟩
  refine Option.bind_eq_some_iff.mpr ⟨_, month, ?_⟩
  refine Option.bind_eq_some_iff.mpr ⟨_, day, ?_⟩
  refine Option.bind_eq_some_iff.mpr ⟨_, hour, ?_⟩
  refine Option.bind_eq_some_iff.mpr ⟨_, minute, ?_⟩
  refine Option.bind_eq_some_iff.mpr ⟨_, second, ?_⟩
  rw [if_pos (by omega), afterSeconds, offsetOf_append valid.fraction valid.offset]
  refine congrArg some ?_
  have days := daysFromCivil_eq (show 1 ≤ fields.date.month ∧ fields.date.month ≤ 12 from
    ⟨firstMonth, lastMonth⟩)
  unfold instant
  rw [← days]
  rfl

end Fields

theorem parse_of_saying {value : String} {instant : Int} (said : Says value instant) :
    parseRfc3339Seconds value = some instant := by
  obtain ⟨fields, valid, isText, rfl⟩ := said
  exact valid.parse_eq isText

/-! ### What is read at all -/

theorem exists_offsetOf_iff (tail : List Char) : (∃ ahead, offsetOf tail = some ahead) ↔
    ∀ sign rest, (tail.dropWhile fun character => character != '+' && character != '-') =
        sign :: rest →
      ∃ first second others hours, rest = first :: second :: others ∧
        numberOf [first, second] = some hours := by
  unfold offsetOf
  constructor
  · rintro ⟨ahead, isAhead⟩ sign rest isSigned
    rw [isSigned] at isAhead
    rcases rest with _ | ⟨first, _ | ⟨second, others⟩⟩
    · cases isAhead
    · cases isAhead
    · obtain ⟨hours, areHours, -⟩ := Option.bind_eq_some_iff.mp isAhead
      exact ⟨first, second, others, hours, rfl, areHours⟩
  · intro signed
    cases isSigned : tail.dropWhile fun character => character != '+' && character != '-' with
    | nil => exact ⟨0, rfl⟩
    | cons sign rest =>
      obtain ⟨first, second, others, hours, rfl, areHours⟩ := signed sign rest isSigned
      exact ⟨_, Option.bind_eq_some_iff.mpr ⟨hours, areHours, rfl⟩⟩

/-- What has integers in the places of the fields is read. -/
theorem exists_parse_iff (value : String) :
    (∃ instant, parseRfc3339Seconds value = some instant) ↔ Loose value := by
  have asciiIff : (value.toList.take 19).all (·.toNat < 128) = true ↔
      ∀ character ∈ value.toList.take 19, character.toNat < 128 := by
    rw [List.all_eq_true]
    simp only [decide_eq_true_eq]
  unfold parseRfc3339Seconds
  dsimp only
  constructor
  · rintro ⟨instant, isRead⟩
    split at isRead
    · cases isRead
    · rename_i shaped
      rw [not_or, not_not, asciiIff] at shaped
      obtain ⟨year, isYear, isRead⟩ := Option.bind_eq_some_iff.mp isRead
      obtain ⟨month, isMonth, isRead⟩ := Option.bind_eq_some_iff.mp isRead
      obtain ⟨day, isDay, isRead⟩ := Option.bind_eq_some_iff.mp isRead
      obtain ⟨hour, isHour, isRead⟩ := Option.bind_eq_some_iff.mp isRead
      obtain ⟨minute, isMinute, isRead⟩ := Option.bind_eq_some_iff.mp isRead
      obtain ⟨second, isSecond, isRead⟩ := Option.bind_eq_some_iff.mp isRead
      split at isRead
      · rename_i bounds
        obtain ⟨ahead, isAhead, -⟩ := Option.bind_eq_some_iff.mp isRead
        exact ⟨Nat.le_of_not_lt shaped.1, shaped.2, ⟨year, month, day, hour, minute, second,
          isYear, isMonth, isDay, isHour, isMinute, isSecond, ⟨bounds.1, bounds.2.1⟩,
          bounds.2.2⟩, (exists_offsetOf_iff _).mp ⟨ahead, isAhead⟩⟩
      · cases isRead
  · intro loose
    obtain ⟨year, month, day, hour, minute, second, isYear, isMonth, isDay, isHour, isMinute,
      isSecond, inYear, inMonth⟩ := loose.fields
    obtain ⟨ahead, isAhead⟩ := (exists_offsetOf_iff _).mpr loose.offset
    refine ⟨daysFromCivil year month day * 86400 + hour * 3600 + minute * 60 + second - ahead, ?_⟩
    rw [if_neg (not_or.mpr ⟨Nat.not_lt.mpr loose.long, not_not.mpr (asciiIff.mpr loose.ascii)⟩)]
    refine Option.bind_eq_some_iff.mpr ⟨_, isYear, ?_⟩
    refine Option.bind_eq_some_iff.mpr ⟨_, isMonth, ?_⟩
    refine Option.bind_eq_some_iff.mpr ⟨_, isDay, ?_⟩
    refine Option.bind_eq_some_iff.mpr ⟨_, isHour, ?_⟩
    refine Option.bind_eq_some_iff.mpr ⟨_, isMinute, ?_⟩
    refine Option.bind_eq_some_iff.mpr ⟨_, isSecond, ?_⟩
    rw [if_pos ⟨inYear.1, inYear.2, inMonth⟩]
    exact Option.bind_eq_some_iff.mpr ⟨_, isAhead, rfl⟩

/-! ### What is written -/

def fieldsOf (seconds : Nat) : Fields where
  year := (dateOf (seconds / 86400 : Nat)).year.toNat
  month := (dateOf (seconds / 86400 : Nat)).month
  day := (dateOf (seconds / 86400 : Nat)).day
  hour := seconds % 86400 / 3600
  minute := seconds % 86400 % 3600 / 60
  second := seconds % 86400 % 60
  mark := 'T'
  fraction := []
  offset := ['Z']
  ahead := 0

variable {seconds : Nat}

theorem year_of_seconds (before : (seconds : Int) < Rfc3339.lastDay * 86400) :
    0 ≤ (dateOf (seconds / 86400 : Nat)).year ∧ (dateOf (seconds / 86400 : Nat)).year < 10000 := by
  refine Rfc3339.year_dateOf ⟨?_, ?_⟩
  · unfold Rfc3339.firstDay
    omega
  · unfold Rfc3339.lastDay at *
    omega

theorem date_fieldsOf (before : (seconds : Int) < Rfc3339.lastDay * 86400) :
    (fieldsOf seconds).date = dateOf (seconds / 86400 : Nat) := by
  unfold Fields.date fieldsOf
  dsimp only
  rw [Int.toNat_of_nonneg (year_of_seconds before).1]

theorem instant_fieldsOf (before : (seconds : Int) < Rfc3339.lastDay * 86400) :
    (fieldsOf seconds).instant = seconds := by
  unfold Fields.instant
  rw [date_fieldsOf before, Rfc3339.dayNumber_dateOf]
  unfold fieldsOf
  dsimp only
  omega

theorem valid_fieldsOf (before : (seconds : Int) < Rfc3339.lastDay * 86400) :
    (fieldsOf seconds).Valid where
  year := by
    have fourDigits := (year_of_seconds before).2
    unfold fieldsOf
    dsimp only
    omega
  date := by
    rw [date_fieldsOf before]
    exact Rfc3339.valid_dateOf _
  hour := by
    unfold fieldsOf
    dsimp only
    omega
  minute := by
    unfold fieldsOf
    dsimp only
    omega
  second := Nat.lt_succ_iff.mp (Nat.mod_lt _ (by decide)) |> .inl
  mark := .inl rfl
  fraction := .inl rfl
  offset := .zulu 'Z' (.inl rfl)

theorem toList_rfc3339Seconds (before : (seconds : Int) < Rfc3339.lastDay * 86400) :
    (rfc3339Seconds seconds).toList = (fieldsOf seconds).text := by
  have valid := valid_fieldsOf before
  obtain ⟨⟨-, lastMonth⟩, ⟨-, lastDay⟩, inMinute⟩ := valid.bounds
  have year : (padded 4 (fieldsOf seconds).year).toList =
      Rfc3339.padded 4 (fieldsOf seconds).year := toList_padded valid.year
  have twoDigits : ∀ number : Nat, number ≤ 60 →
      (padded 2 number).toList = Rfc3339.padded 2 number :=
    fun number small => toList_padded (show number < 10 ^ (1 + 1) by omega)
  have month := twoDigits _ (show (fieldsOf seconds).month ≤ 60 by omega)
  have day := twoDigits _ (show (fieldsOf seconds).day ≤ 60 by omega)
  have hour := twoDigits _ (le_trans valid.hour (by decide))
  have minute := twoDigits _ (le_trans valid.minute (by decide))
  have second := twoDigits _ inMinute
  have written : rfc3339Seconds seconds = padded 4 (fieldsOf seconds).year ++ "-" ++
      padded 2 (fieldsOf seconds).month ++ "-" ++ padded 2 (fieldsOf seconds).day ++ "T" ++
        padded 2 (fieldsOf seconds).hour ++ ":" ++ padded 2 (fieldsOf seconds).minute ++ ":" ++
          padded 2 (fieldsOf seconds).second ++ "Z" := by
    unfold rfc3339Seconds
    rw [civilFromDays_eq]
    rfl
  have marks : "-".toList = ['-'] ∧ "T".toList = ['T'] ∧ ":".toList = [':'] ∧ "Z".toList = ['Z'] :=
    ⟨rfl, rfl, rfl, rfl⟩
  have isEnd : (fieldsOf seconds).mark = 'T' ∧ (fieldsOf seconds).fraction = [] ∧
      (fieldsOf seconds).offset = ['Z'] := ⟨rfl, rfl, rfl⟩
  unfold Fields.text
  rw [written, isEnd.1, isEnd.2.1, isEnd.2.2]
  simp only [String.toList_append, marks, year, month, day, hour, minute, second,
    List.append_assoc, List.cons_append, List.nil_append]

theorem saying_rfc3339Seconds (before : (seconds : Int) < Rfc3339.lastDay * 86400) :
    Says (rfc3339Seconds seconds) seconds :=
  ⟨fieldsOf seconds, valid_fieldsOf before, toList_rfc3339Seconds before, instant_fieldsOf before⟩

/-! ### Exactness -/

/-- A text is read exactly when it is a date and time, or has not even integers in the places of the
fields. -/
theorem exact_iff (value : String) :
    Exact value ↔ (∃ instant, Says value instant) ∨ ¬Loose value := by
  constructor
  · intro exactly
    by_cases loose : Loose value
    · obtain ⟨instant, isRead⟩ := (exists_parse_iff value).mpr loose
      exact .inl ⟨instant, (exactly.read instant).mp isRead⟩
    · exact .inr loose
  · intro isSaid
    refine ⟨fun seconds before => parse_of_saying (saying_rfc3339Seconds before),
      daysFromCivil_civilFromDays, fun date valid => civilFromDays_daysFromCivil valid,
      fun instant => ⟨fun isRead => ?_, parse_of_saying⟩⟩
    rcases isSaid with ⟨other, said⟩ | notLoose
    · obtain rfl : other = instant := Option.some.inj ((parse_of_saying said).symm.trans isRead)
      exact said
    · exact absurd ((exists_parse_iff value).mp ⟨instant, isRead⟩) notLoose

/-- The last of February is no longer than its month. -/
theorem february_not_exact : ¬Exact "2026-02-31T10:00:00Z" := by
  intro exactly
  have isRead : parseRfc3339Seconds "2026-02-31T10:00:00Z" = some 1772532000 := by decide +kernel
  obtain ⟨fields, valid, isText, -⟩ := (exactly.read _).mp isRead
  obtain ⟨⟨-, lastMonth⟩, ⟨-, lastDay⟩, -⟩ := valid.bounds
  obtain ⟨-, month, day, -⟩ := Fields.fieldAt_text isText
  rw [numberOf_padded (by decide) (by omega)] at month day
  have isMonth : fieldAt "2026-02-31T10:00:00Z" 5 2 = some 2 := by decide +kernel
  have isDay : fieldAt "2026-02-31T10:00:00Z" 8 2 = some 31 := by decide +kernel
  have isFebruary : fields.month = 2 :=
    Int.natCast_inj.mp (Option.some.inj (month.symm.trans isMonth))
  have isLast : fields.day = 31 := Int.natCast_inj.mp (Option.some.inj (day.symm.trans isDay))
  obtain ⟨-, -, -, inMonth⟩ := valid.date
  have short : Rfc3339.daysInMonth fields.year 2 ≤ 29 := by
    unfold Rfc3339.daysInMonth
    rw [if_pos rfl]
    split <;> omega
  unfold Fields.date at inMonth
  rw [isFebruary, isLast] at inMonth
  exact absurd (show 31 ≤ 29 from le_trans inMonth short) (by decide)

end Twalk.HermesAnswer
