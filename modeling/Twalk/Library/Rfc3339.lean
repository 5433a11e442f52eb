/-
This file is the theory of RFC 3339 texts: the calendar, the writing of an instant as a
text of Coordinated Universal Time, and the reading of such a text back. An instant is a
number of nanoseconds from the epoch. One whose year has four digits is written, with as
many digits of its second as it needs, and what was written is read as the instant it was
written for.
-/

import Mathlib.Data.List.DropRight
import Mathlib.Tactic.IntervalCases
import Mathlib.Tactic.Ring

namespace Twalk.Rfc3339

/-! ### The calendar -/

structure Date where
  year : Int
  month : Nat
  day : Nat
deriving DecidableEq, Repr

/-- The days of a year, counted from March, that come before a month of it. -/
def monthStart (fromMarch : Int) : Int := (153 * fromMarch + 2) / 5

/-- The days from the epoch to a day. Years are counted from March, so that the day a leap year
adds is a year's last. -/
def dayNumber (date : Date) : Int :=
  let year := if date.month ≤ 2 then date.year - 1 else date.year
  365 * year + year / 4 - year / 100 + year / 400 + monthStart ((date.month + 9) % 12) +
    date.day - 719469

def monthAfterMarch (fromMarch : Int) : Nat :=
  (if fromMarch < 10 then fromMarch + 3 else fromMarch - 9).toNat

def dateOfParts (century year day : Int) : Date :=
  let fromMarch := (5 * day + 2) / 153
  let month := monthAfterMarch fromMarch
  ⟨100 * century + year + (if month ≤ 2 then 1 else 0), month,
    (day - monthStart fromMarch + 1).toNat⟩

/-- The day that many days from the epoch. -/
def dateOf (number : Int) : Date :=
  let fourTimes := 4 * (number + 719468) + 3
  let inCentury := 4 * (fourTimes % 146097 / 4) + 3
  dateOfParts (fourTimes / 146097) (inCentury / 1461) (inCentury % 1461 / 4)

def isLeapYear (year : Int) : Bool := year % 4 = 0 ∧ (year % 100 ≠ 0 ∨ year % 400 = 0)

def daysInMonth (year : Int) (month : Nat) : Nat :=
  if month = 2 then (if isLeapYear year then 29 else 28)
  else if month = 4 ∨ month = 6 ∨ month = 9 ∨ month = 11 then 30
  else 31

theorem daysInMonth_le (year : Int) (month : Nat) : daysInMonth year month ≤ 31 := by
  unfold daysInMonth
  split
  · split <;> omega
  · split <;> omega

def firstDay : Int := -719528

def lastDay : Int := 2932897

theorem quarters_eq (number whole : Int) :
    number = whole * ((4 * number + 3) / (4 * whole + 1)) +
      (4 * number + 3) / (4 * whole + 1) / 4 + (4 * number + 3) % (4 * whole + 1) / 4 := by
  have divided := Int.mul_ediv_add_emod (4 * number + 3) (4 * whole + 1)
  have expanded : (4 * whole + 1) * ((4 * number + 3) / (4 * whole + 1)) =
      4 * (whole * ((4 * number + 3) / (4 * whole + 1))) +
        (4 * number + 3) / (4 * whole + 1) := by ring
  rw [expanded] at divided
  generalize whole * ((4 * number + 3) / (4 * whole + 1)) = product at divided ⊢
  generalize (4 * number + 3) / (4 * whole + 1) = quotient at divided ⊢
  generalize (4 * number + 3) % (4 * whole + 1) = rest at divided ⊢
  omega

structure Parts (number century year day : Int) : Prop where
  made : number + 719468 = 36524 * century + century / 4 + (365 * year + year / 4 + day)
  yearBounds : 0 ≤ year ∧ year ≤ 99
  dayBounds : 0 ≤ day ∧ day ≤ 365
  leap : day = 365 → year % 4 = 3 ∧ (year = 99 → century % 4 = 3)

theorem parts_of_number (number : Int) : Parts number ((4 * (number + 719468) + 3) / 146097)
    ((4 * ((4 * (number + 719468) + 3) % 146097 / 4) + 3) / 1461)
    ((4 * ((4 * (number + 719468) + 3) % 146097 / 4) + 3) % 1461 / 4) := by
  have centuries := quarters_eq (number + 719468) 36524
  have years := quarters_eq ((4 * (number + 719468) + 3) % 146097 / 4) 365
  norm_num only at centuries years
  have divided := Int.mul_ediv_add_emod (4 * (number + 719468) + 3) 146097
  have inRange : 0 ≤ (4 * (number + 719468) + 3) % 146097 ∧
      (4 * (number + 719468) + 3) % 146097 < 146097 := by omega
  generalize (4 * (number + 719468) + 3) / 146097 = century at *
  generalize (4 * (number + 719468) + 3) % 146097 = rest at *
  have dividedToo := Int.mul_ediv_add_emod (4 * (rest / 4) + 3) 1461
  have inRangeToo : 0 ≤ (4 * (rest / 4) + 3) % 1461 ∧ (4 * (rest / 4) + 3) % 1461 < 1461 := by omega
  generalize (4 * (rest / 4) + 3) / 1461 = year at *
  generalize (4 * (rest / 4) + 3) % 1461 = remainder at *
  refine ⟨by omega, by omega, by omega, ?_⟩
  intro last
  have full : remainder = 1460 := by omega
  refine ⟨by omega, ?_⟩
  intro atEnd
  have fullToo : rest = 146096 := by omega
  omega

def Date.Valid (date : Date) : Prop :=
  1 ≤ date.month ∧ date.month ≤ 12 ∧ 1 ≤ date.day ∧ date.day ≤ daysInMonth date.year date.month

instance (date : Date) : Decidable date.Valid := inferInstanceAs (Decidable (_ ∧ _))

theorem month_of_day {day : Int} (bounds : 0 ≤ day ∧ day ≤ 365) :
    0 ≤ (5 * day + 2) / 153 ∧ (5 * day + 2) / 153 ≤ 11 ∧
      monthStart ((5 * day + 2) / 153) ≤ day ∧ day < monthStart ((5 * day + 2) / 153 + 1) := by
  unfold monthStart
  omega

theorem monthAfterMarch_spec {fromMarch : Int} (bounds : 0 ≤ fromMarch ∧ fromMarch ≤ 11) :
    ((monthAfterMarch fromMarch : Int) + 9) % 12 = fromMarch ∧
      (monthAfterMarch fromMarch ≤ 2 ↔ 10 ≤ fromMarch) ∧
      1 ≤ monthAfterMarch fromMarch ∧ monthAfterMarch fromMarch ≤ 12 := by
  unfold monthAfterMarch
  split <;> omega

theorem days_before (century : Int) {year : Int} (bounds : 0 ≤ year ∧ year ≤ 99) :
    365 * (100 * century + year) + (100 * century + year) / 4 - (100 * century + year) / 100 +
      (100 * century + year) / 400 = 36524 * century + century / 4 + (365 * year + year / 4) := by
  omega

theorem dayNumber_dateOfParts {number century year day : Int}
    (parts : Parts number century year day) :
    dayNumber (dateOfParts century year day) = number := by
  obtain ⟨first, last, started, -⟩ := month_of_day parts.dayBounds
  obtain ⟨sameMonth, -, -⟩ := monthAfterMarch_spec ⟨first, last⟩
  have counted : (if monthAfterMarch ((5 * day + 2) / 153) ≤ 2 then
      100 * century + year + (if monthAfterMarch ((5 * day + 2) / 153) ≤ 2 then 1 else 0) - 1
    else 100 * century + year + (if monthAfterMarch ((5 * day + 2) / 153) ≤ 2 then 1 else 0)) =
      100 * century + year := by
    split <;> omega
  have made := parts.made
  have before := days_before century parts.yearBounds
  unfold dayNumber dateOfParts
  dsimp only
  rw [counted, sameMonth]
  omega

theorem isLeapYear_of_last {number century year day : Int}
    (parts : Parts number century year day) (isLast : day = 365) :
    isLeapYear (100 * century + year + 1) = true := by
  obtain ⟨fourth, atEnd⟩ := parts.leap isLast
  obtain ⟨atLeast, atMost⟩ := parts.yearBounds
  unfold isLeapYear
  rw [decide_eq_true_eq]
  refine ⟨by omega, ?_⟩
  rcases eq_or_ne year 99 with isEnd | within
  · have fourthToo := atEnd isEnd
    right
    omega
  · left
    omega

theorem valid_dateOfParts {number century year day : Int}
    (parts : Parts number century year day) : (dateOfParts century year day).Valid := by
  obtain ⟨first, last, started, ends⟩ := month_of_day parts.dayBounds
  obtain ⟨-, -, atLeast, atMost⟩ := monthAfterMarch_spec ⟨first, last⟩
  have dayBounds := parts.dayBounds
  have isLeap := isLeapYear_of_last parts
  refine ⟨atLeast, atMost, ?_, ?_⟩
  · unfold dateOfParts
    dsimp only
    omega
  · unfold dateOfParts daysInMonth monthAfterMarch
    dsimp only
    unfold monthStart at *
    generalize (5 * day + 2) / 153 = fromMarch at *
    rcases eq_or_ne fromMarch 11 with rfl | other
    · -- February has what is left of the year.
      norm_num at started ends ⊢
      rcases eq_or_ne day 365 with isLast | notLast
      · rw [isLeap isLast, isLast]
        decide
      · simp only [Int.reduceToNat, ↓reduceIte]
        split <;> omega
    · have before : fromMarch ≤ 10 := by omega
      interval_cases fromMarch <;> norm_num at started ends ⊢
      all_goals omega

theorem parts_dateOf (number : Int) : ∃ century year day, Parts number century year day ∧
    dateOf number = dateOfParts century year day :=
  ⟨_, _, _, parts_of_number number, rfl⟩

@[simp] theorem dayNumber_dateOf (number : Int) : dayNumber (dateOf number) = number := by
  obtain ⟨century, year, day, parts, isDate⟩ := parts_dateOf number
  rw [isDate]
  exact dayNumber_dateOfParts parts

theorem valid_dateOf (number : Int) : (dateOf number).Valid := by
  obtain ⟨century, year, day, parts, isDate⟩ := parts_dateOf number
  rw [isDate]
  exact valid_dateOfParts parts

theorem year_dateOf {number : Int} (bounds : firstDay ≤ number ∧ number < lastDay) :
    0 ≤ (dateOf number).year ∧ (dateOf number).year < 10000 := by
  obtain ⟨century, year, day, parts, isDate⟩ := parts_dateOf number
  obtain ⟨first, last, started, ends⟩ := month_of_day parts.dayBounds
  obtain ⟨-, early, -, -⟩ := monthAfterMarch_spec ⟨first, last⟩
  have made := parts.made
  have yearBounds := parts.yearBounds
  have dayBounds := parts.dayBounds
  unfold firstDay lastDay at bounds
  have firstCentury : -1 ≤ century := by omega
  have lastCentury : century ≤ 99 := by omega
  have months : (monthAfterMarch ((5 * day + 2) / 153) ≤ 2) ↔ 306 ≤ day := by
    rw [early]
    omega
  rw [isDate]
  unfold dateOfParts
  dsimp only
  rcases eq_or_ne century (-1) with isFirst | afterFirst
  · -- The first two months of the year 0 end a century of years from March.
    have isEnd : year = 99 ∧ 306 ≤ day := by
      rw [isFirst] at made
      omega
    rw [if_pos (months.mpr isEnd.2)]
    omega
  · rcases eq_or_ne century 99 with isLast | beforeLast
    · have within : year = 99 → day < 306 := by
        rw [isLast] at made
        omega
      split
      · rename_i inEarly
        have late := months.mp inEarly
        omega
      · omega
    · split <;> omega

theorem year_dateOf_iff {number : Int} :
    (0 ≤ (dateOf number).year ∧ (dateOf number).year < 10000) ↔
      firstDay ≤ number ∧ number < lastDay := by
  refine ⟨fun fourDigits => ?_, year_dateOf⟩
  obtain ⟨century, year, day, parts, isDate⟩ := parts_dateOf number
  obtain ⟨first, last, -, -⟩ := month_of_day parts.dayBounds
  obtain ⟨-, early, -, -⟩ := monthAfterMarch_spec ⟨first, last⟩
  have made := parts.made
  have yearBounds := parts.yearBounds
  have dayBounds := parts.dayBounds
  have months : (monthAfterMarch ((5 * day + 2) / 153) ≤ 2) ↔ 306 ≤ day := by
    rw [early]
    omega
  rw [isDate] at fourDigits
  unfold dateOfParts at fourDigits
  dsimp only at fourDigits
  unfold firstDay lastDay
  split at fourDigits
  · -- January and February belong to the year that is counted from the March before them.
    rename_i inEarly
    have late := months.mp inEarly
    omega
  · rename_i notEarly
    have before := mt months.mpr notEarly
    omega

/-! ### Days and their numbers -/

/-- The days that come before a year counted from March. -/
def yearStart (year : Int) : Int := 365 * year + year / 4 - year / 100 + year / 400

def Date.marchYear (date : Date) : Int := if date.month ≤ 2 then date.year - 1 else date.year

def Date.dayOfYear (date : Date) : Int := monthStart ((date.month + 9) % 12) + date.day - 1

theorem dayNumber_eq (date : Date) :
    dayNumber date = yearStart date.marchYear + date.dayOfYear - 719468 := by
  unfold dayNumber yearStart Date.marchYear Date.dayOfYear
  dsimp only
  omega

theorem yearStart_mono {first second : Int} (le : first ≤ second) :
    yearStart first ≤ yearStart second := by
  unfold yearStart
  omega

variable {date : Date}

theorem Date.Valid.inMonth (valid : date.Valid) :
    (date.day : Int) ≤ monthStart ((date.month + 9) % 12 + 1) - monthStart ((date.month + 9) % 12) := by
  obtain ⟨firstMonth, lastMonth, -, lastOfMonth⟩ := valid
  unfold daysInMonth at lastOfMonth
  unfold monthStart
  generalize date.month = month at *
  interval_cases month
  all_goals norm_num at lastOfMonth ⊢
  all_goals first | omega | (split at lastOfMonth <;> omega)

theorem Date.Valid.inYear (valid : date.Valid) :
    0 ≤ date.dayOfYear ∧ yearStart date.marchYear + date.dayOfYear < yearStart (date.marchYear + 1) := by
  obtain ⟨firstMonth, lastMonth, firstOfMonth, lastOfMonth⟩ := valid
  unfold daysInMonth isLeapYear at lastOfMonth
  unfold Date.dayOfYear Date.marchYear yearStart monthStart
  generalize date.month = month at *
  interval_cases month
  all_goals norm_num at lastOfMonth ⊢
  all_goals first | omega | (split at lastOfMonth <;> omega)

theorem monthStart_mono {first second : Int} (le : first ≤ second) :
    monthStart first ≤ monthStart second := by
  unfold monthStart
  omega

variable {first second : Date}

theorem marchYear_le (valid : first.Valid) (validToo : second.Valid)
    (le : dayNumber first ≤ dayNumber second) : first.marchYear ≤ second.marchYear := by
  refine le_of_not_gt fun later => ?_
  have starts := yearStart_mono (show second.marchYear + 1 ≤ first.marchYear from later)
  have inFirst := valid.inYear
  have inSecond := validToo.inYear
  rw [dayNumber_eq, dayNumber_eq] at le
  omega

theorem marchMonth_le (valid : first.Valid) (validToo : second.Valid)
    (le : first.dayOfYear ≤ second.dayOfYear) :
    ((first.month : Int) + 9) % 12 ≤ ((second.month : Int) + 9) % 12 := by
  refine le_of_not_gt fun later => ?_
  have starts := monthStart_mono
    (show ((second.month : Int) + 9) % 12 + 1 ≤ ((first.month : Int) + 9) % 12 from later)
  have inSecond := validToo.inMonth
  have firstOfMonth := valid.2.2.1
  unfold Date.dayOfYear at le
  omega

theorem dayNumber_injective (valid : first.Valid) (validToo : second.Valid)
    (same : dayNumber first = dayNumber second) : first = second := by
  have sameYear := le_antisymm (marchYear_le valid validToo same.le)
    (marchYear_le validToo valid same.ge)
  have sameDay : first.dayOfYear = second.dayOfYear := by
    rw [dayNumber_eq, dayNumber_eq, sameYear] at same
    omega
  have sameMonth := le_antisymm (marchMonth_le valid validToo sameDay.le)
    (marchMonth_le validToo valid sameDay.ge)
  obtain ⟨firstMonth, lastMonth, -, -⟩ := valid
  obtain ⟨firstMonthToo, lastMonthToo, -, -⟩ := validToo
  obtain ⟨year, month, day⟩ := first
  obtain ⟨yearToo, monthToo, dayToo⟩ := second
  unfold Date.dayOfYear at sameDay
  unfold Date.marchYear at sameYear
  dsimp only at *
  obtain rfl : month = monthToo := by omega
  obtain rfl : day = dayToo := by omega
  obtain rfl : year = yearToo := by
    split at sameYear <;> omega
  rfl

theorem dateOf_dayNumber (valid : date.Valid) : dateOf (dayNumber date) = date :=
  dayNumber_injective (valid_dateOf _) valid (dayNumber_dateOf _)

/-! ### Digits -/

def padded : Nat → Nat → List Char
  | 0, _ => []
  | width + 1, value => (value / 10 ^ width % 10).digitChar :: padded width value

def digitOf (character : Char) : Option Nat :=
  if character.isDigit then some (character.toNat - 48) else none

def number : Nat → Nat → List Char → Option (Nat × List Char)
  | 0, before, rest => some (before, rest)
  | _ + 1, _, [] => none
  | width + 1, before, character :: rest =>
    (digitOf character).bind fun digit => number width (before * 10 + digit) rest

theorem digitOf_digitChar {digit : Nat} (small : digit < 10) :
    digitOf digit.digitChar = some digit := by
  have each : ∀ other ∈ List.range 10, digitOf other.digitChar = some other := by decide
  exact each digit (List.mem_range.mpr small)

theorem mod_pow_succ (value width : Nat) :
    value % 10 ^ (width + 1) = value / 10 ^ width % 10 * 10 ^ width + value % 10 ^ width := by
  rw [Nat.mod_pow_succ, Nat.mul_comm, Nat.add_comm]

theorem number_padded (width before value : Nat) (rest : List Char) :
    number width before (padded width value ++ rest) =
      some (before * 10 ^ width + value % 10 ^ width, rest) := by
  induction width generalizing before with
  | zero => simp [number, padded, Nat.mod_one]
  | succ width inductionHypothesis =>
    have small : value / 10 ^ width % 10 < 10 := Nat.mod_lt _ (by decide)
    unfold padded
    rw [List.cons_append, number, digitOf_digitChar small, Option.bind_some, inductionHypothesis,
      mod_pow_succ]
    congr 2
    ring

variable {width value : Nat}

theorem number_padded_of_lt (fits : value < 10 ^ width) (rest : List Char) :
    number width 0 (padded width value ++ rest) = some (value, rest) := by
  rw [number_padded, Nat.zero_mul, Nat.zero_add, Nat.mod_eq_of_lt fits]

theorem padded_succ (width value : Nat) :
    padded (width + 1) value = padded width (value / 10) ++ [(value % 10).digitChar] := by
  induction width with
  | zero => rw [padded, padded, padded, pow_zero, Nat.div_one, List.nil_append]
  | succ width inductionHypothesis =>
    rw [padded, inductionHypothesis, padded, List.cons_append, Nat.div_div_eq_div_mul, ← pow_succ']

theorem zeros_toDigits (fits : value < 10 ^ (width + 1)) :
    List.replicate (width + 1 - (Nat.toDigits 10 value).length) '0' ++ Nat.toDigits 10 value =
      padded (width + 1) value := by
  induction width generalizing value with
  | zero =>
    have small : value < 10 := fits
    rw [padded_succ, Nat.mod_eq_of_lt small, Nat.toDigits_of_lt_base small]
    rfl
  | succ width inductionHypothesis =>
    have fewer := inductionHypothesis (show value / 10 < 10 ^ (width + 1) from
      Nat.div_lt_of_lt_mul (by rw [← pow_succ']; exact fits))
    rw [padded_succ, ← fewer]
    rcases Nat.lt_or_ge value 10 with small | large
    · rw [Nat.toDigits_of_lt_base small, Nat.div_eq_of_lt small, Nat.mod_eq_of_lt small,
        Nat.toDigits_zero]
      exact congrArg (· ++ [value.digitChar]) List.replicate_succ'
    · rw [Nat.toDigits_of_base_le (by decide) large, List.length_append, List.length_singleton,
        Nat.add_sub_add_right, List.append_assoc]

/-! ### Fractions -/

/-- The digits of a fraction, and what follows them; a digit beyond the places counts for
nothing. -/
def digits : Nat → List Char → Nat × List Char
  | _, [] => (0, [])
  | places, character :: rest =>
    match digitOf character with
    | none => (0, character :: rest)
    | some digit =>
      let (value, after) := digits (places - 1) rest
      (if places = 0 then value else digit * 10 ^ (places - 1) + value, after)

/-- A fraction's digits up to the last that is not zero. -/
def trimmed (characters : List Char) : List Char := characters.rdropWhile (· == '0')

/-- The fraction of a second, with no more digits than it needs. -/
def fraction (nanos : Nat) : List Char :=
  if nanos = 0 then [] else '.' :: trimmed (padded 9 nanos)

def Undigited (rest : List Char) : Prop := ∀ character, rest.head? = some character →
  digitOf character = none

variable {rest : List Char}

theorem digits_of_undigited (undigited : Undigited rest) (places : Nat) :
    digits places rest = (0, rest) := by
  cases rest with
  | nil => rfl
  | cons character others =>
    unfold digits
    rw [undigited character rfl]

theorem digits_padded (undigited : Undigited rest) (places value : Nat) :
    digits places (padded places value ++ rest) = (value % 10 ^ places, rest) := by
  induction places with
  | zero =>
    rw [padded, List.nil_append, digits_of_undigited undigited, pow_zero, Nat.mod_one]
  | succ places inductionHypothesis =>
    have small : value / 10 ^ places % 10 < 10 := Nat.mod_lt _ (by decide)
    unfold padded
    rw [List.cons_append, digits, digitOf_digitChar small]
    dsimp only
    rw [Nat.add_sub_cancel, inductionHypothesis, mod_pow_succ, if_neg (Nat.succ_ne_zero places)]

theorem digits_zeros (undigited : Undigited rest) (front : List Char)
    (digited : ∀ character ∈ front, (digitOf character).isSome) (places count : Nat) :
    digits places (front ++ (List.replicate count '0' ++ rest)) =
      digits places (front ++ rest) := by
  induction front generalizing places with
  | nil =>
    rw [List.nil_append, List.nil_append, digits_of_undigited undigited]
    induction count generalizing places with
    | zero => exact digits_of_undigited undigited places
    | succ count inductionHypothesis =>
      rw [List.replicate_succ, List.cons_append, digits]
      rw [show digitOf '0' = some 0 from rfl]
      dsimp only
      rw [inductionHypothesis]
      split <;> simp
  | cons character others inductionHypothesis =>
    obtain ⟨digit, isDigit⟩ := Option.isSome_iff_exists.mp (digited character List.mem_cons_self)
    rw [List.cons_append, List.cons_append, digits, digits, isDigit]
    dsimp only
    rw [inductionHypothesis fun other member => digited other (List.mem_cons_of_mem _ member)]

/-! ### Writing an instant -/

/-- An instant whose year has four digits. -/
def Writable (instant : Int) : Prop :=
  firstDay * 86400 * 1000000000 ≤ instant ∧ instant < lastDay * 86400 * 1000000000

instance (instant : Int) : Decidable (Writable instant) := inferInstanceAs (Decidable (_ ∧ _))

def written (instant : Int) : List Char :=
  let second := instant / 1000000000
  let date := dateOf (second / 86400)
  let inDay := (second % 86400).toNat
  padded 4 date.year.toNat ++ '-' :: (padded 2 date.month ++ '-' :: (padded 2 date.day ++ 'T' ::
    (padded 2 (inDay / 3600) ++ ':' :: (padded 2 (inDay / 60 % 60) ++ ':' ::
      (padded 2 (inDay % 60) ++ (fraction (instant % 1000000000).toNat ++ ['Z']))))))

def write (instant : Int) : String := String.ofList (written instant)

/-! ### Reading a text -/

def after (expected : Char → Bool) : List Char → Option (List Char)
  | [] => none
  | character :: rest => if expected character then some rest else none

/-- The fraction of a second, which may be left out, in nanoseconds. -/
def readFraction (text : List Char) : Option (Nat × List Char) :=
  match text with
  | '.' :: character :: rest =>
    if (digitOf character).isSome then some (digits 9 (character :: rest)) else none
  | rest => some (0, rest)

/-- The seconds a text's own time is ahead by. -/
def readOffset : List Char → Option (Int × List Char)
  | [] => none
  | character :: rest =>
    if character = 'Z' ∨ character = 'z' then some (0, rest)
    else if character = '+' ∨ character = '-' then do
      let (hours, rest) ← number 2 0 rest
      let rest ← after (· == ':') rest
      let (minutes, rest) ← number 2 0 rest
      if hours ≤ 23 ∧ minutes ≤ 59 then
        some ((if character = '+' then 1 else -1) * (hours * 3600 + minutes * 60), rest)
      else none
    else none

def read (text : String) : Option Int := do
  let (year, rest) ← number 4 0 text.toList
  let rest ← after (· == '-') rest
  let (month, rest) ← number 2 0 rest
  let rest ← after (· == '-') rest
  let (day, rest) ← number 2 0 rest
  let rest ← after (fun character => character == 'T' || character == 't') rest
  let (hour, rest) ← number 2 0 rest
  let rest ← after (· == ':') rest
  let (minute, rest) ← number 2 0 rest
  let rest ← after (· == ':') rest
  let (second, rest) ← number 2 0 rest
  let (nanos, rest) ← readFraction rest
  let (ahead, rest) ← readOffset rest
  let date : Date := ⟨year, month, day⟩
  if date.Valid ∧ hour ≤ 23 ∧ minute ≤ 59 ∧ second ≤ 59 ∧ rest = [] then
    some ((dayNumber date * 86400 + hour * 3600 + minute * 60 + second - ahead) * 1000000000 +
      nanos)
  else none

/-! ### What was written is read -/

theorem digited_padded (width value : Nat) :
    ∀ character ∈ padded width value, (digitOf character).isSome := by
  induction width with
  | zero => exact fun _ member => absurd member List.not_mem_nil
  | succ width inductionHypothesis =>
    refine List.forall_mem_cons.mpr ⟨?_, inductionHypothesis⟩
    rw [digitOf_digitChar (Nat.mod_lt _ (by decide))]
    rfl

theorem length_padded (width value : Nat) : (padded width value).length = width := by
  induction width with
  | zero => rfl
  | succ width inductionHypothesis =>
    rw [padded, List.length_cons, inductionHypothesis]

theorem isDigit_of_mem_padded {character : Char} (member : character ∈ padded width value) :
    character.isDigit = true := by
  have digited := digited_padded width value character member
  unfold digitOf at digited
  split at digited
  · rename_i isDigit
    exact isDigit
  · cases digited

theorem exists_zeros (characters : List Char) :
    ∃ count, characters = trimmed characters ++ List.replicate count '0' := by
  refine ⟨(characters.rtakeWhile (· == '0')).length, ?_⟩
  have zeros : characters.rtakeWhile (· == '0') =
      List.replicate (characters.rtakeWhile (· == '0')).length '0' := by
    refine List.eq_replicate_iff.mpr ⟨rfl, fun character member => ?_⟩
    have zero := List.mem_rtakeWhile_imp member
    exact eq_of_beq zero
  rw [← zeros]
  exact List.rdropWhile_append_rtakeWhile.symm

theorem digited_trimmed (width value : Nat) :
    ∀ character ∈ trimmed (padded width value), (digitOf character).isSome :=
  fun character member => digited_padded width value character
    ((List.rdropWhile_prefix _ _).subset member)

theorem digits_trimmed (undigited : Undigited rest) (places value : Nat) :
    digits places (trimmed (padded places value) ++ rest) = (value % 10 ^ places, rest) := by
  obtain ⟨count, isPadded⟩ := exists_zeros (padded places value)
  rw [← digits_padded undigited places value]
  conv_rhs => rw [isPadded]
  rw [List.append_assoc,
    digits_zeros undigited _ (digited_trimmed places value) places count]

theorem undigited_end (rest : List Char) : Undigited ('Z' :: rest) := by
  intro character isFirst
  cases isFirst
  decide

theorem readFraction_fraction {nanos : Nat} (small : nanos < 1000000000) (rest : List Char) :
    readFraction (fraction nanos ++ 'Z' :: rest) = some (nanos, 'Z' :: rest) := by
  unfold fraction
  split
  · rename_i isZero
    rw [isZero]
    rfl
  · rename_i nonzero
    have read := digits_trimmed (undigited_end rest) 9 nanos
    have digited := digited_trimmed 9 nanos
    rw [Nat.mod_eq_of_lt (show nanos < 10 ^ 9 from small)] at read
    cases isTrimmed : trimmed (padded 9 nanos) with
    | nil =>
      rw [isTrimmed, List.nil_append, digits_of_undigited (undigited_end rest)] at read
      exact absurd (congrArg Prod.fst read).symm nonzero
    | cons character others =>
      rw [isTrimmed] at read digited
      rw [List.cons_append] at read
      change (if (digitOf character).isSome then
        some (digits 9 (character :: (others ++ 'Z' :: rest))) else none) = _
      rw [if_pos (digited character List.mem_cons_self), read]

theorem read_parts {year month day hour minute second nanos : Nat} (fourDigits : year < 10000)
    (valid : (Date.mk year month day).Valid) (inDay : hour ≤ 23) (inHour : minute ≤ 59)
    (inMinute : second ≤ 59) (inSecond : nanos < 1000000000) :
    read (String.ofList (padded 4 year ++ '-' :: (padded 2 month ++ '-' :: (padded 2 day ++ 'T' ::
      (padded 2 hour ++ ':' :: (padded 2 minute ++ ':' :: (padded 2 second ++
        (fraction nanos ++ ['Z'])))))))) =
      some ((dayNumber ⟨year, month, day⟩ * 86400 + hour * 3600 + minute * 60 + second) *
        1000000000 + nanos) := by
  have twoDigits : month < 100 ∧ day < 100 := by
    obtain ⟨-, lastMonth, -, lastOfMonth⟩ := valid
    exact ⟨Nat.lt_of_le_of_lt lastMonth (by decide),
      Nat.lt_of_le_of_lt (Nat.le_trans lastOfMonth (daysInMonth_le year month)) (by decide)⟩
  have two : ∀ {value : Nat}, value < 100 → ∀ rest,
      number 2 0 (padded 2 value ++ rest) = some (value, rest) :=
    fun small rest => number_padded_of_lt small rest
  have follows : ∀ (expected : Char → Bool) (character : Char) (rest : List Char),
      expected character = true → after expected (character :: rest) = some rest :=
    fun expected character rest isExpected => if_pos isExpected
  have ends : readOffset ['Z'] = some (0, []) := rfl
  unfold read
  rw [String.toList_ofList]
  refine Option.bind_eq_some_iff.mpr ⟨_, number_padded_of_lt fourDigits _, ?_⟩
  refine Option.bind_eq_some_iff.mpr ⟨_, follows _ _ _ rfl, ?_⟩
  refine Option.bind_eq_some_iff.mpr ⟨_, two twoDigits.1 _, ?_⟩
  refine Option.bind_eq_some_iff.mpr ⟨_, follows _ _ _ rfl, ?_⟩
  refine Option.bind_eq_some_iff.mpr ⟨_, two twoDigits.2 _, ?_⟩
  refine Option.bind_eq_some_iff.mpr ⟨_, follows _ _ _ rfl, ?_⟩
  refine Option.bind_eq_some_iff.mpr ⟨_, two (show hour < 100 by omega) _, ?_⟩
  refine Option.bind_eq_some_iff.mpr ⟨_, follows _ _ _ rfl, ?_⟩
  refine Option.bind_eq_some_iff.mpr ⟨_, two (show minute < 100 by omega) _, ?_⟩
  refine Option.bind_eq_some_iff.mpr ⟨_, follows _ _ _ rfl, ?_⟩
  refine Option.bind_eq_some_iff.mpr ⟨_, two (show second < 100 by omega) _, ?_⟩
  refine Option.bind_eq_some_iff.mpr ⟨_, readFraction_fraction inSecond _, ?_⟩
  refine Option.bind_eq_some_iff.mpr ⟨_, ends, ?_⟩
  dsimp only
  rw [if_pos ⟨valid, inDay, inHour, inMinute, rfl⟩, sub_zero]

theorem read_write {instant : Int} (writable : Writable instant) :
    read (write instant) = some instant := by
  obtain ⟨first, last⟩ := writable
  have days : firstDay ≤ instant / 1000000000 / 86400 ∧
      instant / 1000000000 / 86400 < lastDay := by
    unfold firstDay lastDay at *
    omega
  obtain ⟨firstYear, lastYear⟩ := year_dateOf days
  have isYear : ((dateOf (instant / 1000000000 / 86400)).year.toNat : Int) =
      (dateOf (instant / 1000000000 / 86400)).year := Int.toNat_of_nonneg firstYear
  have valid := valid_dateOf (instant / 1000000000 / 86400)
  have isDay := dayNumber_dateOf (instant / 1000000000 / 86400)
  unfold write written
  dsimp only
  rw [read_parts (by omega) (by rw [isYear]; exact valid) (by omega) (by omega) (by omega)
    (by omega), isYear, isDay]
  congr 1
  omega

end Twalk.Rfc3339
