/-
This file is about the working day that a body sets and the journal that keeps it. A body is
accepted when its days are weekdays, its hours are times of day in order and its exceptions are
hours of those days, and what is accepted is read back from the journal as it was set. The keys of
the exceptions are read as integers are, though: a weekday has more than one spelling, and of the
hours that two spellings of one weekday are given, the last are kept.
-/

import Twalk.Library.Chronology
import Twalk.WorkingDays

namespace Twalk.WorkingDays

/-! ### What a working day is as given -/

/-- A time of day in its one spelling, and the minutes since midnight it names. -/
def Clock (value : String) (minutes : Nat) : Prop :=
  ∃ hour minute, hour ≤ 23 ∧ minute ≤ 59 ∧ minutes = hour * 60 + minute ∧
    value = String.ofList (Rfc3339.padded 2 hour ++ ':' :: Rfc3339.padded 2 minute)

def InOrder (span : Span) : Prop :=
  ∃ opens closes, Clock span.startsAt opens ∧ Clock span.endsAt closes ∧ opens < closes

def GivesHours (hours : Members) (span : Span) : Prop :=
  ∃ startsAt endsAt, hours.get? "starts_at" = some (.string startsAt) ∧
    hours.get? "ends_at" = some (.string endsAt) ∧
    span = ⟨Text.trim startsAt, Text.trim endsAt⟩ ∧ InOrder span

def IsWeekday (item : Json) (weekday : Nat) : Prop :=
  (monday ≤ weekday ∧ weekday ≤ sunday) ∧ item = .number weekday

def given (body : Option Json) (name : String) : Option Json :=
  (body.bind membersOf).bind fun object => object.get? name

def CanonicalKeys (body : Option Json) : Prop :=
  ∀ members, given body "exceptions" = some (.object members) →
    (members.map Prod.fst).Nodup ∧
      ∀ key ∈ members.map Prod.fst, ∃ weekday, monday ≤ weekday ∧ weekday ≤ sunday ∧
        key = toString weekday

structure AsGiven (body : Option Json) (day : WorkingDay) : Prop where
  days : ∃ items, given body "days" = some (.array items) ∧ day.days.Pairwise (· < ·) ∧
    (∀ item ∈ items, ∃ weekday ∈ day.days, IsWeekday item weekday) ∧
    ∀ weekday ∈ day.days, ∃ item ∈ items, IsWeekday item weekday
  hours : ∃ object, body.bind membersOf = some object ∧
    GivesHours object ⟨day.startsAt, day.endsAt⟩
  exceptions : ∀ entry ∈ day.exceptions.entries, entry.1 ∈ day.days ∧
    ∃ members hours, given body "exceptions" = some (.object members) ∧
      GivesHours hours entry.2 ∧
      ∃ member ∈ members, weekdayOf member.1 = some entry.1 ∧ membersOf member.2 = some hours
  keys : ∀ members, given body "exceptions" = some (.object members) →
    (members.map Prod.fst).Nodup ∧
      ∀ key ∈ members.map Prod.fst, ∃ weekday ∈ day.days, key = toString weekday
  journal : ∀ journal occurredAt actor reason, ∃ kept,
    (workingDayState (recordWorkingDayDecision journal (.set day reason) occurredAt actor).1).day =
      some kept ∧ kept = day ∧ ∀ weekday, kept.span weekday = day.span weekday

/-- What makes a body one that sets a working day, as it is checked. -/
structure Settable (object : Members) : Prop where
  reason : ∀ reason, object.get? "reason" = some reason → reason = .null ∨
    ∃ text, reason = .string text ∧ Text.count (Text.trim text) ≤ maxReasonChars
  days : ∃ items, object.get? "days" = some (.array items) ∧ items ≠ [] ∧
    ∀ item ∈ items, ∃ weekday, IsWeekday item weekday
  hours : ∃ span, GivesHours object span
  exceptions : ∀ exceptions, object.get? "exceptions" = some exceptions → exceptions = .null ∨
    ∃ members, exceptions = .object members ∧
      ∀ entry ∈ (SortedMap.ofList members).entries, ∃ weekday items hours span,
        weekdayOf entry.1 = some weekday ∧ object.get? "days" = some (.array items) ∧
        (∃ item ∈ items, IsWeekday item weekday) ∧ membersOf entry.2 = some hours ∧
        GivesHours hours span

def Sets (body : Option Json) : Prop :=
  ∃ object, body.bind membersOf = some object ∧ Settable object

/-! ### Times of day -/

variable {character : Char}

theorem digit_of_isDigit (isDigit : character.isDigit = true) :
    character.toNat - 48 < 10 ∧ (character.toNat - 48).digitChar = character := by
  unfold Char.isDigit at isDigit
  rw [Bool.and_eq_true, decide_eq_true_eq, decide_eq_true_eq] at isDigit
  have bounds : 48 ≤ character.toNat ∧ character.toNat ≤ 57 :=
    ⟨UInt32.le_iff_toNat_le.mp isDigit.1, UInt32.le_iff_toNat_le.mp isDigit.2⟩
  have each : ∀ code < 10, (code.digitChar).toNat = code + 48 := by decide
  have small : character.toNat - 48 < 10 := by omega
  refine ⟨small, Char.toNat_inj.mp ?_⟩
  rw [each _ small]
  omega

theorem utf8Size_of_isDigit (isDigit : character.isDigit = true) :
    character.utf8Size = 1 := by
  obtain ⟨small, isChar⟩ := digit_of_isDigit isDigit
  have each : ∀ digit < 10, (digit.digitChar).utf8Size = 1 := by decide
  rw [← isChar]
  exact each _ small

theorem padded_two_of_digits {tens units : Char} (tensDigit : tens.isDigit = true)
    (unitsDigit : units.isDigit = true) :
    (tens.toNat - 48) * 10 + (units.toNat - 48) < 100 ∧
      Rfc3339.padded 2 ((tens.toNat - 48) * 10 + (units.toNat - 48)) = [tens, units] := by
  obtain ⟨tensSmall, isTens⟩ := digit_of_isDigit tensDigit
  obtain ⟨unitsSmall, isUnits⟩ := digit_of_isDigit unitsDigit
  refine ⟨by omega, ?_⟩
  rw [Rfc3339.padded, Rfc3339.padded, Rfc3339.padded, pow_one, pow_zero, Nat.div_one,
    show ((tens.toNat - 48) * 10 + (units.toNat - 48)) / 10 % 10 = tens.toNat - 48 by omega,
    show ((tens.toNat - 48) * 10 + (units.toNat - 48)) % 10 = units.toNat - 48 by omega,
    isTens, isUnits]

theorem exists_of_twoDigits {part : String}
    (twoDigits : (part.utf8ByteSize = 2 && part.toList.all Char.isDigit) = true) :
    ∃ value < 100, part.toList = Rfc3339.padded 2 value ∧
      Text.parseUnsigned 256 part = some value := by
  rw [Bool.and_eq_true, decide_eq_true_eq, List.all_eq_true] at twoDigits
  obtain ⟨twoBytes, digits⟩ := twoDigits
  have size := Text.utf8ByteSize_of_narrow fun character member =>
    utf8Size_of_isDigit (digits character member)
  rw [String.ofList_toList, twoBytes] at size
  obtain ⟨tens, units, isPart⟩ := List.length_eq_two.mp size.symm
  rw [isPart] at digits
  obtain ⟨tensDigit, unitsDigit, -⟩ := List.forall_mem_cons.mp digits |>.imp_right
    List.forall_mem_cons.mp
  obtain ⟨small, areDigits⟩ := padded_two_of_digits tensDigit unitsDigit
  refine ⟨(tens.toNat - 48) * 10 + (units.toNat - 48), small, isPart.trans areDigits.symm, ?_⟩
  have read := Text.parseUnsigned_of_digits (List.cons_ne_nil tens [units]) digits
    (show Text.decimal [tens, units] < 256 by
      change (0 * 10 + (tens.toNat - 48)) * 10 + (units.toNat - 48) < 256
      omega)
  rw [← isPart, String.ofList_toList, isPart] at read
  rw [read]
  refine congrArg some ?_
  change (0 * 10 + (tens.toNat - 48)) * 10 + (units.toNat - 48) = _
  omega

theorem notMem_padded (notDigit : character.isDigit = false) (width value : Nat) :
    character ∉ Rfc3339.padded width value := by
  intro member
  rw [Rfc3339.isDigit_of_mem_padded member] at notDigit
  cases notDigit

theorem splitOnce_clock (hour minute : Nat) :
    Text.splitOnce ':' (String.ofList (Rfc3339.padded 2 hour ++ ':' :: Rfc3339.padded 2 minute)) =
      some (String.ofList (Rfc3339.padded 2 hour), String.ofList (Rfc3339.padded 2 minute)) :=
  Text.splitOnce_append (notMem_padded (by decide) 2 hour) _

theorem decimal_padded (width before value : Nat) :
    (Rfc3339.padded width value).foldl
      (fun value digit => value * 10 + (digit.toNat - '0'.toNat)) before =
      before * 10 ^ width + value % 10 ^ width := by
  induction width generalizing before with
  | zero => rw [Rfc3339.padded, List.foldl_nil, pow_zero, Nat.mul_one, Nat.mod_one, Nat.add_zero]
  | succ width inductionHypothesis =>
    have digit : ∀ small < 10, (Nat.digitChar small).toNat - '0'.toNat = small := by decide
    rw [Rfc3339.padded, List.foldl_cons, inductionHypothesis, Rfc3339.mod_pow_succ,
      digit _ (Nat.mod_lt _ (by decide))]
    ring

theorem twoDigits_padded {value : Nat} (small : value < 100) :
    ((String.ofList (Rfc3339.padded 2 value)).utf8ByteSize = 2 &&
        (String.ofList (Rfc3339.padded 2 value)).toList.all Char.isDigit) = true ∧
      Text.parseUnsigned 256 (String.ofList (Rfc3339.padded 2 value)) = some value := by
  have digits : ∀ character ∈ Rfc3339.padded 2 value, character.isDigit = true :=
    fun character member => Rfc3339.isDigit_of_mem_padded member
  have isValue : Text.decimal (Rfc3339.padded 2 value) = value := by
    unfold Text.decimal
    rw [decimal_padded, Nat.zero_mul, Nat.zero_add,
      Nat.mod_eq_of_lt (show value < 10 ^ 2 from small)]
  constructor
  · rw [Bool.and_eq_true, decide_eq_true_eq, String.toList_ofList, List.all_eq_true,
      Text.utf8ByteSize_of_narrow fun character member => utf8Size_of_isDigit
        (digits character member), Rfc3339.length_padded]
    exact ⟨rfl, digits⟩
  · have nonempty : Rfc3339.padded 2 value ≠ [] := List.cons_ne_nil _ _
    rw [Text.parseUnsigned_of_digits nonempty digits (by rw [isValue]; omega), isValue]

theorem isWallClock_iff (value : String) :
    isWallClock value = true ↔ ∃ minutes, Clock value minutes := by
  unfold isWallClock
  constructor
  · intro accepted
    split at accepted
    · cases accepted
    · rename_i hours minutes isSplit
      dsimp only at accepted
      split at accepted
      · cases accepted
      · rename_i twoDigits
        rw [Bool.or_eq_true, not_or, Bool.not_eq_true', Bool.not_eq_false, Bool.not_eq_true',
          Bool.not_eq_false] at twoDigits
        obtain ⟨hour, -, isHour, hourRead⟩ := exists_of_twoDigits twoDigits.1
        obtain ⟨minute, -, isMinute, minuteRead⟩ := exists_of_twoDigits twoDigits.2
        rw [hourRead, minuteRead] at accepted
        rw [Bool.and_eq_true, decide_eq_true_eq, decide_eq_true_eq] at accepted
        refine ⟨hour * 60 + minute, hour, minute, accepted.1, accepted.2, rfl, ?_⟩
        rw [← String.ofList_toList (s := value), Text.toList_of_splitOnce isSplit, isHour, isMinute]
  · rintro ⟨_, hour, minute, inDay, inHour, -, rfl⟩
    obtain ⟨twoDigits, hourRead⟩ := twoDigits_padded (show hour < 100 by omega)
    obtain ⟨twoDigitsToo, minuteRead⟩ := twoDigits_padded (show minute < 100 by omega)
    rw [splitOnce_clock]
    dsimp only
    rw [if_neg (by rw [twoDigits, twoDigitsToo]; decide), hourRead, minuteRead]
    exact Bool.and_eq_true_iff.mpr ⟨decide_eq_true inDay, decide_eq_true inHour⟩

theorem lt_iff_of_clock {value other : String} {minutes otherMinutes : Nat}
    (clock : Clock value minutes) (otherClock : Clock other otherMinutes) :
    value < other ↔ minutes < otherMinutes := by
  obtain ⟨hour, minute, inDay, inHour, rfl, rfl⟩ := clock
  obtain ⟨otherHour, otherMinute, otherInDay, otherInHour, rfl, rfl⟩ := otherClock
  have fits : ∀ number : Nat, number ≤ 59 → number < 10 ^ 2 := fun number small => by omega
  have units := Rfc3339.padded_append_lt_iff (fits minute inHour) (fits otherMinute otherInHour)
    [] []
  rw [List.append_nil, List.append_nil] at units
  rw [String.lt_iff_toList_lt, String.toList_ofList, String.toList_ofList,
    Rfc3339.padded_append_lt_iff (fits hour (by omega)) (fits otherHour (by omega)),
    List.cons_lt_cons_iff, units]
  simp only [lt_irrefl, false_or, true_and, and_false, or_false]
  omega

/-! ### What is accepted -/

theorem asStr_eq_some {document : Json} {text : String} :
    document.asStr = some text ↔ document = .string text := by
  cases document <;> simp [Json.asStr]

theorem asArray_eq_some {document : Json} {items : List Json} :
    document.asArray = some items ↔ document = .array items := by
  cases document <;> simp [Json.asArray]

theorem timeOf_eq_ok_iff {hours : Members} {weekday : Option Nat} {name time : String} :
    timeOf hours weekday name = .ok time ↔
      ∃ text, hours.get? name = some (.string text) ∧ time = Text.trim text ∧
        ∃ minutes, Clock time minutes := by
  have named : ∀ text, (hours.get? name).bind Json.asStr = some text ↔
      hours.get? name = some (.string text) := by
    intro text
    rw [Option.bind_eq_some_iff]
    simp only [asStr_eq_some, exists_eq_right]
  unfold timeOf
  cases isText : (hours.get? name).bind Json.asStr with
  | none =>
    refine ⟨nofun, ?_⟩
    rintro ⟨text, isNamed, -⟩
    rw [(named text).mpr isNamed] at isText
    cases isText
  | some text =>
    have isNamed := (named text).mp isText
    dsimp only
    by_cases isClock : isWallClock (Text.trim text) = true
    · rw [if_pos isClock, Except.ok.injEq]
      constructor
      · rintro rfl
        exact ⟨text, isNamed, rfl, (isWallClock_iff _).mp isClock⟩
      · rintro ⟨other, isOther, same, -⟩
        rw [same, Json.string.inj (Option.some.inj (isNamed.symm.trans isOther))]
    · rw [if_neg isClock]
      refine ⟨nofun, ?_⟩
      rintro ⟨other, isOther, rfl, isOtherClock⟩
      rw [← Json.string.inj (Option.some.inj (isNamed.symm.trans isOther))] at isOtherClock
      exact absurd ((isWallClock_iff _).mpr isOtherClock) isClock

theorem spanOf_eq_ok_iff {hours : Members} {weekday : Option Nat} {span : Span} :
    spanOf hours weekday = .ok span ↔ GivesHours hours span := by
  unfold spanOf
  constructor
  · intro accepted
    obtain ⟨startsAt, isStart, accepted⟩ := bind_eq_ok.mp accepted
    obtain ⟨endsAt, isEnd, accepted⟩ := bind_eq_ok.mp accepted
    obtain ⟨start, startGiven, rfl, opens, startClock⟩ := timeOf_eq_ok_iff.mp isStart
    obtain ⟨finish, endGiven, rfl, closes, endClock⟩ := timeOf_eq_ok_iff.mp isEnd
    obtain ⟨inOrder, isSpan⟩ := ite_error_eq_ok_iff.mp accepted
    exact ⟨start, finish, startGiven, endGiven, (Except.ok.inj isSpan).symm,
      Except.ok.inj isSpan ▸ ⟨opens, closes, startClock, endClock,
        (lt_iff_of_clock startClock endClock).mp (not_le.mp inOrder)⟩⟩
  · rintro ⟨start, finish, startGiven, endGiven, rfl, opens, closes, startClock, endClock, inOrder⟩
    refine bind_eq_ok.mpr ⟨_, timeOf_eq_ok_iff.mpr ⟨start, startGiven, rfl, opens, startClock⟩, ?_⟩
    refine bind_eq_ok.mpr ⟨_, timeOf_eq_ok_iff.mpr ⟨finish, endGiven, rfl, closes, endClock⟩, ?_⟩
    rw [if_neg (not_le.mpr ((lt_iff_of_clock startClock endClock).mpr inOrder))]

variable {object : Members}

theorem reasonOf_isOk_iff : (∃ reason, reasonOf object = .ok reason) ↔
    ∀ reason, object.get? "reason" = some reason → reason = .null ∨
      ∃ text, reason = .string text ∧ Text.count (Text.trim text) ≤ maxReasonChars := by
  unfold reasonOf
  cases isGiven : object.get? "reason" with
  | none => exact ⟨fun _ => nofun, fun _ => ⟨none, rfl⟩⟩
  | some given =>
    cases given with
    | null => exact ⟨fun _ reason same => .inl (Option.some.inj same).symm, fun _ => ⟨none, rfl⟩⟩
    | string text =>
      constructor
      · rintro ⟨reason, accepted⟩ other same
        cases same
        refine .inr ⟨text, rfl, ?_⟩
        dsimp only at accepted
        split at accepted
        · cases accepted
        · rename_i short
          exact Nat.le_of_not_lt short
      · intro allowed
        obtain isNull | ⟨other, same, short⟩ := allowed _ rfl
        · cases isNull
        · cases same
          exact ⟨_, if_neg (Nat.not_lt.mpr short)⟩
    | bool _ | number _ | float _ | array _ | object _ =>
      constructor
      · rintro ⟨reason, accepted⟩
        cases accepted
      · intro allowed
        obtain isNull | ⟨other, same, -⟩ := allowed _ rfl
        · cases isNull
        · cases same

/-! ### The days -/

theorem weekdayOfItem_eq_ok_iff {item : Json} {weekday : Nat} :
    weekdayOfItem item = .ok weekday ↔ IsWeekday item weekday := by
  unfold weekdayOfItem IsWeekday
  cases item with
  | number value =>
    constructor
    · intro accepted
      split at accepted
      · rename_i day isNat
        unfold Json.asNat at isNat
        obtain ⟨positive, isDay⟩ := Option.ite_none_right_eq_some.mp isNat
        split at accepted
        · rename_i inWeek
          cases accepted
          refine ⟨inWeek, congrArg Json.number ?_⟩
          rw [← Option.some.inj isDay, Int.toNat_of_nonneg positive]
        · cases accepted
      · cases accepted
    · rintro ⟨inWeek, same⟩
      cases same
      rw [Json.asNat_natCast]
      exact if_pos inWeek
  | null | bool _ | string _ | float _ | array _ | object _ =>
    exact ⟨nofun, fun isWeekday => nomatch isWeekday.2⟩

theorem foldl_once (found before : List Nat) (distinct : before.Nodup) :
    (found.foldl (fun parsed day => if parsed.contains day then parsed else parsed ++ [day])
        before).Nodup ∧
      ∀ day, day ∈ found.foldl (fun parsed day =>
        if parsed.contains day then parsed else parsed ++ [day]) before ↔
          day ∈ before ∨ day ∈ found := by
  induction found generalizing before with
  | nil => exact ⟨distinct, fun day => (or_iff_left List.not_mem_nil).symm⟩
  | cons head rest inductionHypothesis =>
    rw [List.foldl_cons]
    by_cases present : head ∈ before
    · rw [if_pos (List.contains_iff_mem.mpr present)]
      refine (inductionHypothesis before distinct).imp_right fun members day => ?_
      rw [members, List.mem_cons]
      constructor
      · exact Or.imp_right Or.inr
      · rintro (inBefore | rfl | inRest)
        · exact .inl inBefore
        · exact .inl present
        · exact .inr inRest
    · rw [if_neg (mt List.contains_iff_mem.mp present)]
      have distinctToo : (before ++ [head]).Nodup :=
        List.nodup_append.mpr ⟨distinct, List.nodup_singleton head, fun day inBefore other isHead
          same => present (List.mem_singleton.mp isHead ▸ same ▸ inBefore)⟩
      refine (inductionHypothesis _ distinctToo).imp_right fun members day => ?_
      rw [members, List.mem_append, List.mem_singleton, List.mem_cons, or_assoc]

variable {days : List Nat}

theorem daysOf_spec (accepted : daysOf object = .ok days) :
    ∃ items, object.get? "days" = some (.array items) ∧ items ≠ [] ∧ days.Pairwise (· < ·) ∧
      (∀ item ∈ items, ∃ weekday ∈ days, IsWeekday item weekday) ∧
      ∀ weekday ∈ days, ∃ item ∈ items, IsWeekday item weekday := by
  unfold daysOf at accepted
  split at accepted
  · cases accepted
  · rename_i items isGiven
    obtain ⟨document, isMember, isArray⟩ := Option.bind_eq_some_iff.mp isGiven
    cases asArray_eq_some.mp isArray
    obtain ⟨parsed, isParsed, accepted⟩ := bind_eq_ok.mp accepted
    obtain ⟨found, worked, rfl⟩ := foldlM_eq_ok_iff.mp isParsed
    have paired := forall₂_of_mapM_eq_ok worked
    obtain ⟨distinct, members⟩ := foldl_once found [] List.nodup_nil
    generalize found.foldl (fun parsed day =>
      if parsed.contains day then parsed else parsed ++ [day]) [] = parsed at *
    have memberOf : ∀ day, day ∈ parsed ↔ day ∈ found := fun day =>
      (members day).trans (or_iff_right List.not_mem_nil)
    split at accepted
    · cases accepted
    · rename_i nonempty
      cases accepted
      have sorted : ∀ day, day ∈ parsed.insertionSort (· ≤ ·) ↔ day ∈ found := fun day =>
        (List.perm_insertionSort (· ≤ ·) parsed).mem_iff.trans (memberOf day)
      refine ⟨items, isMember, ?_, ?_, fun item member => ?_, fun weekday member => ?_⟩
      · rintro rfl
        cases paired
        exact nonempty (List.isEmpty_iff.mpr (List.eq_nil_iff_forall_not_mem.mpr fun day member =>
          List.not_mem_nil ((memberOf day).mp member)))
      · have distinctToo := (List.perm_insertionSort (· ≤ ·) parsed).nodup_iff.mpr distinct
        refine List.Pairwise.imp ?_ ((List.pairwise_insertionSort (· ≤ ·) parsed).and distinctToo)
        exact fun both => lt_of_le_of_ne both.1 both.2
      · obtain ⟨weekday, isFound, isOk⟩ := exists_result_of_forall₂ paired member
        exact ⟨weekday, (sorted weekday).mpr isFound, weekdayOfItem_eq_ok_iff.mp isOk⟩
      · obtain ⟨item, isItem, isOk⟩ := exists_input_of_forall₂ paired ((sorted weekday).mp member)
        exact ⟨item, isItem, weekdayOfItem_eq_ok_iff.mp isOk⟩

theorem exists_daysOf {items : List Json} (isGiven : object.get? "days" = some (.array items))
    (nonempty : items ≠ []) (weekdays : ∀ item ∈ items, ∃ weekday, IsWeekday item weekday) :
    ∃ days, daysOf object = .ok days := by
  have eachRead : ∀ item ∈ items, ∃ weekday, weekdayOfItem item = .ok weekday :=
    fun item member => (weekdays item member).imp fun weekday isWeekday =>
      weekdayOfItem_eq_ok_iff.mpr isWeekday
  obtain ⟨found, worked⟩ := exists_mapM_eq_ok eachRead
  obtain ⟨-, members⟩ := foldl_once found [] List.nodup_nil
  obtain ⟨item, rest, rfl⟩ := List.exists_cons_of_ne_nil nonempty
  obtain ⟨day, isFound, -⟩ := exists_result_of_forall₂ (forall₂_of_mapM_eq_ok worked)
    List.mem_cons_self
  unfold daysOf
  rw [isGiven, Option.bind_some, Json.asArray_array]
  refine ⟨_, bind_eq_ok.mpr ⟨_, foldlM_eq_ok_iff.mpr ⟨found, worked, rfl⟩, if_neg ?_⟩⟩
  intro isEmpty
  have present := (members day).mpr (.inr isFound)
  rw [List.isEmpty_iff.mp isEmpty] at present
  exact List.not_mem_nil present

/-! ### The exceptions -/

theorem exceptionOf_eq_ok_iff {key : String} {hours : Json} {entry : Nat × Span} :
    exceptionOf days key hours = .ok entry ↔
      weekdayOf key = some entry.1 ∧ entry.1 ∈ days ∧
        ∃ object, membersOf hours = some object ∧ GivesHours object entry.2 := by
  unfold exceptionOf
  cases isWeekday : weekdayOf key with
  | none => exact ⟨nofun, fun accepted => nomatch accepted.1⟩
  | some weekday =>
    dsimp only
    by_cases present : weekday ∈ days
    · rw [if_neg (by rw [List.contains_iff_mem.mpr present]; exact Bool.false_ne_true)]
      cases isObject : membersOf hours with
      | none =>
        refine ⟨nofun, ?_⟩
        rintro ⟨-, -, object, isOther, -⟩
        cases isOther
      | some object =>
        constructor
        · intro accepted
          obtain ⟨span, isSpan, isEntry⟩ := bind_eq_ok.mp accepted
          cases isEntry
          exact ⟨rfl, present, object, rfl, spanOf_eq_ok_iff.mp isSpan⟩
        · rintro ⟨same, -, other, isOther, gives⟩
          cases same
          cases isOther
          exact bind_eq_ok.mpr ⟨entry.2, spanOf_eq_ok_iff.mpr gives, rfl⟩
    · rw [if_pos (by rw [Bool.not_eq_true', ← Bool.not_eq_true, List.contains_iff_mem]
                     exact present)]
      refine ⟨nofun, ?_⟩
      rintro ⟨same, inDays, -⟩
      exact absurd (Option.some.inj same ▸ inDays) present

theorem exceptionsOf_spec {exceptions : SortedMap Nat Span}
    (accepted : exceptionsOf object days = .ok exceptions) :
    (∀ entry ∈ exceptions.entries, entry.1 ∈ days ∧
      ∃ members hours, object.get? "exceptions" = some (.object members) ∧
        GivesHours hours entry.2 ∧
        ∃ member ∈ members, weekdayOf member.1 = some entry.1 ∧ membersOf member.2 = some hours) ∧
    ∀ members, object.get? "exceptions" = some (.object members) →
      ∀ key ∈ members.map Prod.fst, ∃ weekday ∈ days, weekdayOf key = some weekday := by
  unfold exceptionsOf at accepted
  split at accepted
  · rename_i isGiven
    cases accepted
    refine ⟨fun entry member => absurd member List.not_mem_nil, fun members isObject => ?_⟩
    rw [isGiven] at isObject
    cases isObject
  · rename_i isGiven
    cases accepted
    refine ⟨fun entry member => absurd member List.not_mem_nil, fun members isObject => ?_⟩
    rw [isGiven] at isObject
    cases isObject
  · rename_i members isGiven
    obtain ⟨found, worked, isMap⟩ := foldlM_eq_ok_iff.mp accepted
    have paired := forall₂_of_mapM_eq_ok worked
    constructor
    · intro entry member
      rw [← isMap] at member
      obtain ⟨given, isMember, isOk⟩ := exists_input_of_forall₂ paired
        (SortedMap.mem_of_mem_ofList member)
      obtain ⟨isWeekday, inDays, hours, areHours, gives⟩ := exceptionOf_eq_ok_iff.mp isOk
      exact ⟨inDays, members, hours, isGiven, gives, given,
        SortedMap.mem_of_mem_ofList isMember, isWeekday, areHours⟩
    · intro others isObject key isKey
      rw [isGiven] at isObject
      cases isObject
      obtain ⟨given, isMember, rfl⟩ := List.mem_map.mp (SortedMap.mem_keys_ofList.mpr isKey)
      obtain ⟨entry, -, isOk⟩ := exists_result_of_forall₂ paired isMember
      obtain ⟨isWeekday, inDays, -⟩ := exceptionOf_eq_ok_iff.mp isOk
      exact ⟨entry.1, inDays, isWeekday⟩
  · cases accepted

theorem exceptionsOf_isOk_iff :
    (∃ exceptions, exceptionsOf object days = .ok exceptions) ↔
      ∀ given, object.get? "exceptions" = some given → given = .null ∨
        ∃ members, given = .object members ∧
          ∀ entry ∈ (SortedMap.ofList members).entries, ∃ weekday hours span,
            weekdayOf entry.1 = some weekday ∧ weekday ∈ days ∧ membersOf entry.2 = some hours ∧
              GivesHours hours span := by
  unfold exceptionsOf
  cases isGiven : object.get? "exceptions" with
  | none => exact ⟨fun _ => nofun, fun _ => ⟨_, rfl⟩⟩
  | some given =>
    cases given with
    | null => exact ⟨fun _ given same => .inl (Option.some.inj same).symm, fun _ => ⟨_, rfl⟩⟩
    | object members =>
      constructor
      · rintro ⟨exceptions, accepted⟩ other same
        cases same
        obtain ⟨found, worked, -⟩ := foldlM_eq_ok_iff.mp accepted
        refine .inr ⟨members, rfl, fun entry isMember => ?_⟩
        obtain ⟨found, -, isOk⟩ := exists_result_of_forall₂ (forall₂_of_mapM_eq_ok worked) isMember
        obtain ⟨isWeekday, inDays, hours, areHours, gives⟩ := exceptionOf_eq_ok_iff.mp isOk
        exact ⟨found.1, hours, found.2, isWeekday, inDays, areHours, gives⟩
      · intro allowed
        obtain isNull | ⟨others, same, each⟩ := allowed _ rfl
        · cases isNull
        · cases same
          have eachRead : ∀ entry ∈ (SortedMap.ofList members).entries,
              ∃ result, exceptionOf days entry.1 entry.2 = .ok result := by
            intro entry isMember
            obtain ⟨weekday, hours, span, isWeekday, inDays, areHours, gives⟩ := each entry isMember
            exact ⟨(weekday, span),
              exceptionOf_eq_ok_iff.mpr ⟨isWeekday, inDays, hours, areHours, gives⟩⟩
          obtain ⟨found, worked⟩ := exists_mapM_eq_ok eachRead
          exact ⟨_, foldlM_eq_ok_iff.mpr ⟨found, worked, rfl⟩⟩
    | bool _ | number _ | float _ | string _ | array _ =>
      constructor
      · rintro ⟨exceptions, accepted⟩
        cases accepted
      · intro allowed
        obtain isNull | ⟨others, same, -⟩ := allowed _ rfl
        · cases isNull
        · cases same

/-! ### A body -/

variable {day : WorkingDay} {reason : Option String}

theorem parseUpdate_eq_set_iff {body : Option Json} :
    parseUpdate body = .ok (.set day reason) ↔
      ∃ object, body.bind membersOf = some object ∧ reasonOf object = .ok reason ∧
        daysOf object = .ok day.days ∧ spanOf object none = .ok ⟨day.startsAt, day.endsAt⟩ ∧
        exceptionsOf object day.days = .ok day.exceptions := by
  unfold parseUpdate
  cases body with
  | none =>
    refine ⟨nofun, ?_⟩
    rintro ⟨object, isObject, -⟩
    cases isObject
  | some document =>
    rw [Option.bind_some]
    dsimp only
    cases isObject : membersOf document with
    | none =>
      refine ⟨nofun, ?_⟩
      rintro ⟨object, isOther, -⟩
      cases isOther
    | some object =>
      dsimp only
      constructor
      · intro accepted
        obtain ⟨given, isReason, accepted⟩ := bind_eq_ok.mp accepted
        split at accepted
        · cases accepted
        · obtain ⟨days, areDays, accepted⟩ := bind_eq_ok.mp accepted
          obtain ⟨span, isSpan, accepted⟩ := bind_eq_ok.mp accepted
          obtain ⟨exceptions, areExceptions, accepted⟩ := bind_eq_ok.mp accepted
          cases accepted
          exact ⟨object, rfl, isReason, areDays, isSpan, areExceptions⟩
      · rintro ⟨other, same, isReason, areDays, isSpan, areExceptions⟩
        cases same
        refine bind_eq_ok.mpr ⟨_, isReason, ?_⟩
        split
        · rename_i isNull
          unfold daysOf at areDays
          rw [isNull] at areDays
          cases areDays
        · exact bind_eq_ok.mpr ⟨_, areDays, bind_eq_ok.mpr ⟨_, isSpan,
            bind_eq_ok.mpr ⟨_, areExceptions, rfl⟩⟩⟩

/-- What a working day that is set has: weekdays in order, and hours in order for all of them and
for some of them. -/
structure WellFormed (day : WorkingDay) : Prop where
  nonempty : day.days ≠ []
  sorted : day.days.Pairwise (· < ·)
  inWeek : ∀ weekday ∈ day.days, monday ≤ weekday ∧ weekday ≤ sunday
  hours : InOrder ⟨day.startsAt, day.endsAt⟩
  exceptions : ∀ entry ∈ day.exceptions.entries, entry.1 ∈ day.days ∧ InOrder entry.2

theorem wellFormed_of_set {body : Option Json} (accepted : parseUpdate body = .ok (.set day reason))
    : WellFormed day := by
  obtain ⟨object, -, -, areDays, isSpan, areExceptions⟩ := parseUpdate_eq_set_iff.mp accepted
  obtain ⟨items, -, nonempty, sorted, weekdays, daysGiven⟩ := daysOf_spec areDays
  obtain ⟨-, -, -, -, -, inOrder⟩ := spanOf_eq_ok_iff.mp isSpan
  refine ⟨?_, sorted, fun weekday inDays => ?_, inOrder, fun entry isEntry => ?_⟩
  · obtain ⟨item, rest, rfl⟩ := List.exists_cons_of_ne_nil nonempty
    obtain ⟨weekday, inDays, -⟩ := weekdays item List.mem_cons_self
    exact List.ne_nil_of_mem inDays
  · obtain ⟨item, -, isItem⟩ := daysGiven weekday inDays
    exact isItem.1
  · obtain ⟨inDays, members, hours, -, gives, -⟩ :=
      (exceptionsOf_spec areExceptions).1 entry isEntry
    obtain ⟨-, -, -, -, -, ordered⟩ := gives
    exact ⟨inDays, ordered⟩

theorem exists_parseUpdate_iff (body : Option Json) :
    (∃ day reason, parseUpdate body = .ok (.set day reason)) ↔ Sets body := by
  constructor
  · rintro ⟨day, reason, accepted⟩
    obtain ⟨object, isObject, isReason, areDays, isSpan, areExceptions⟩ :=
      parseUpdate_eq_set_iff.mp accepted
    obtain ⟨items, areItems, nonempty, -, weekdays, daysGiven⟩ := daysOf_spec areDays
    refine ⟨object, isObject, reasonOf_isOk_iff.mp ⟨reason, isReason⟩, ⟨items, areItems, nonempty,
      fun item member => ?_⟩, ⟨_, spanOf_eq_ok_iff.mp isSpan⟩, fun exceptions isGiven => ?_⟩
    · obtain ⟨weekday, -, isWeekday⟩ := weekdays item member
      exact ⟨weekday, isWeekday⟩
    · refine (exceptionsOf_isOk_iff.mp ⟨_, areExceptions⟩ exceptions isGiven).imp_right ?_
      rintro ⟨members, same, each⟩
      refine ⟨members, same, fun entry member => ?_⟩
      obtain ⟨weekday, hours, span, isWeekday, inDays, areHours, gives⟩ := each entry member
      exact ⟨weekday, items, hours, span, isWeekday, areItems, daysGiven weekday inDays, areHours,
        gives⟩
  · rintro ⟨object, isObject, settable⟩
    obtain ⟨reason, isReason⟩ := reasonOf_isOk_iff.mpr settable.reason
    obtain ⟨items, areItems, nonempty, weekdays⟩ := settable.days
    obtain ⟨days, areDays⟩ := exists_daysOf areItems nonempty weekdays
    obtain ⟨span, isSpan⟩ := settable.hours
    obtain ⟨others, areOthers, -, -, given, -⟩ := daysOf_spec areDays
    rw [areItems] at areOthers
    cases areOthers
    have exceptionsAllowed : ∃ exceptions, exceptionsOf object days = .ok exceptions := by
      refine exceptionsOf_isOk_iff.mpr fun exceptions isGiven => ?_
      refine (settable.exceptions exceptions isGiven).imp_right ?_
      rintro ⟨members, same, each⟩
      refine ⟨members, same, fun entry member => ?_⟩
      obtain ⟨weekday, others, hours, span, isWeekday, areOthers, ⟨item, isItem, ofItem⟩, areHours,
        gives⟩ := each entry member
      rw [areItems] at areOthers
      cases areOthers
      obtain ⟨other, inDays, ofItemToo⟩ := given item isItem
      have sameDay : weekday = other := by
        have sameItem := ofItem.2.symm.trans ofItemToo.2
        exact Int.natCast_inj.mp (Json.number.inj sameItem)
      exact ⟨weekday, hours, span, isWeekday, sameDay ▸ inDays, areHours, gives⟩
    obtain ⟨exceptions, areExceptions⟩ := exceptionsAllowed
    exact ⟨⟨days, span.startsAt, span.endsAt, exceptions⟩, reason, parseUpdate_eq_set_iff.mpr
      ⟨object, isObject, isReason, areDays, spanOf_eq_ok_iff.mpr isSpan, areExceptions⟩⟩

/-! ### The journal -/

theorem split_intercalate {parts : List String} (nonempty : parts ≠ [])
    (absent : ∀ part ∈ parts, ',' ∉ part.toList) :
    Text.split ',' (",".intercalate parts) = parts := by
  unfold Text.split
  rw [String.toList_intercalate, show ",".toList = [','] from rfl,
    List.splitOn_intercalate ',' ?_ ?_, List.map_map]
  · refine (List.map_congr_left fun part _ => ?_).trans (List.map_id parts)
    exact String.ofList_toList
  · intro characters member
    obtain ⟨part, isPart, rfl⟩ := List.mem_map.mp member
    exact absent part isPart
  · exact fun none => nonempty (List.map_eq_nil_iff.mp none)

def IsPlain (character : Char) : Prop := character.isDigit = true ∨ character = ':'

theorem not_isWhiteSpace_of_isPlain (plain : IsPlain character) :
    Text.isWhiteSpace character = false := by
  rcases plain with isDigit | rfl
  · obtain ⟨small, isChar⟩ := digit_of_isDigit isDigit
    have each : ∀ digit < 10, Text.isWhiteSpace digit.digitChar = false := by decide
    rw [← isChar]
    exact each _ small
  · rfl

theorem isPlain_of_clock {value : String} {minutes : Nat} (clock : Clock value minutes) :
    ∀ character ∈ value.toList, IsPlain character := by
  obtain ⟨hour, minute, -, -, -, rfl⟩ := clock
  rw [String.toList_ofList]
  intro character member
  rcases List.mem_append.mp member with inHours | later
  · exact .inl (Rfc3339.isDigit_of_mem_padded inHours)
  · rcases List.mem_cons.mp later with isColon | inMinutes
    · exact .inr isColon
    · exact .inl (Rfc3339.isDigit_of_mem_padded inMinutes)

theorem trim_of_clock {value : String} {minutes : Nat} (clock : Clock value minutes) :
    Text.trim value = value :=
  Text.trim_of_visible fun character member =>
    not_isWhiteSpace_of_isPlain (isPlain_of_clock clock character member)

theorem toList_toString {digit : Nat} (small : digit < 10) :
    (toString digit).toList = [digit.digitChar] := by
  have digits : (toString digit).toList = Nat.toDigits 10 digit := String.toList_ofList
  rw [digits, Nat.toDigits_of_lt_base small]

theorem weekday_spec {weekday : Nat} (inWeek : monday ≤ weekday ∧ weekday ≤ sunday) :
    Text.parseUnsigned 256 (Text.trim (toString weekday)) = some weekday ∧
      weekdayOf (toString weekday) = some weekday ∧
      ∀ character ∈ (toString weekday).toList, character.isDigit = true := by
  have small : weekday < 10 := Nat.lt_of_le_of_lt inWeek.2 (by decide)
  have digit : ∀ digit < 10, digit.digitChar.isDigit = true ∧
      Text.decimal [digit.digitChar] = digit := by decide
  have digits : ∀ character ∈ (toString weekday).toList, character.isDigit = true := by
    rw [toList_toString small]
    exact List.forall_mem_singleton.mpr (digit weekday small).1
  have isNumber : Text.parseUnsigned 256 (Text.trim (toString weekday)) = some weekday := by
    have isValue : Text.decimal (toString weekday).toList = weekday := by
      rw [toList_toString small]
      exact (digit weekday small).2
    have nonempty : (toString weekday).toList ≠ [] := by
      rw [toList_toString small]
      exact List.cons_ne_nil _ _
    have read := Text.parseUnsigned_of_digits nonempty digits
      (show Text.decimal (toString weekday).toList < 256 by
        rw [isValue]
        omega)
    rw [String.ofList_toList, isValue] at read
    rw [Text.trim_of_visible fun character member =>
      not_isWhiteSpace_of_isPlain (.inl (digits character member)), read]
  refine ⟨isNumber, ?_, digits⟩
  unfold weekdayOf
  rw [isNumber, Option.filter_some]
  exact if_pos (Bool.and_eq_true_iff.mpr ⟨decide_eq_true inWeek.1, decide_eq_true inWeek.2⟩)

theorem notMem_of_plain {characters : List Char} {separator : Char}
    (plain : ∀ character ∈ characters, IsPlain character) (other : ¬IsPlain separator) :
    separator ∉ characters :=
  fun member => other (plain separator member)

theorem entryOf_entryText {entry : Nat × Span} (inWeek : monday ≤ entry.1 ∧ entry.1 ≤ sunday)
    (inOrder : InOrder entry.2) :
    entryOf (entryText entry) = some entry ∧ ',' ∉ (entryText entry).toList := by
  obtain ⟨opens, closes, startClock, endClock, early⟩ := inOrder
  obtain ⟨-, isWeekday, digits⟩ := weekday_spec inWeek
  have startPlain := isPlain_of_clock startClock
  have endPlain := isPlain_of_clock endClock
  have weekdayPlain : ∀ character ∈ (toString entry.1).toList, IsPlain character :=
    fun character member => .inl (digits character member)
  have characters : (entryText entry).toList = (toString entry.1).toList ++ '=' ::
      (entry.2.startsAt.toList ++ '-' :: entry.2.endsAt.toList) := by
    unfold entryText
    rw [String.toList_append, String.toList_append, String.toList_append, String.toList_append,
      show "=".toList = ['='] from rfl, show "-".toList = ['-'] from rfl]
    simp only [List.append_assoc, List.cons_append, List.nil_append]
  have hoursVisible : ∀ character ∈ entry.2.startsAt.toList ++ '-' :: entry.2.endsAt.toList,
      Text.isWhiteSpace character = false :=
    List.forall_mem_append.mpr ⟨fun character member =>
      not_isWhiteSpace_of_isPlain (startPlain character member), List.forall_mem_cons.mpr
        ⟨rfl, fun character member => not_isWhiteSpace_of_isPlain (endPlain character member)⟩⟩
  have visible : ∀ character ∈ (entryText entry).toList, Text.isWhiteSpace character = false := by
    rw [characters]
    exact List.forall_mem_append.mpr ⟨fun character member =>
      not_isWhiteSpace_of_isPlain (weekdayPlain character member),
      List.forall_mem_cons.mpr ⟨rfl, hoursVisible⟩⟩
  have written : entryText entry = String.ofList ((toString entry.1).toList ++ '=' ::
      (entry.2.startsAt.toList ++ '-' :: entry.2.endsAt.toList)) := by
    rw [← characters, String.ofList_toList]
  constructor
  · unfold entryOf
    rw [Text.trim_of_visible visible, written,
      Text.splitOnce_append (notMem_of_plain weekdayPlain (by unfold IsPlain; decide)),
      String.ofList_toList]
    refine Option.bind_eq_some_iff.mpr ⟨_, rfl, ?_⟩
    refine Option.bind_eq_some_iff.mpr ⟨_, isWeekday, ?_⟩
    rw [Text.trim_of_visible (by rw [String.toList_ofList]; exact hoursVisible),
      Text.splitOnce_append (notMem_of_plain startPlain (by unfold IsPlain; decide)),
      String.ofList_toList, String.ofList_toList]
    refine Option.bind_eq_some_iff.mpr ⟨_, rfl, ?_⟩
    exact if_pos ⟨(isWallClock_iff _).mpr ⟨opens, startClock⟩,
      (isWallClock_iff _).mpr ⟨closes, endClock⟩, (lt_iff_of_clock startClock endClock).mpr early⟩
  · rw [characters, List.mem_append, List.mem_cons, List.mem_append, List.mem_cons]
    rintro (inWeekday | isEquals | inStart | isDash | inEnd)
    · exact notMem_of_plain weekdayPlain (by unfold IsPlain; decide) inWeekday
    · exact absurd isEquals (by decide)
    · exact notMem_of_plain startPlain (by unfold IsPlain; decide) inStart
    · exact absurd isDash (by decide)
    · exact notMem_of_plain endPlain (by unfold IsPlain; decide) inEnd

theorem filterMap_map_eq_self {Value : Type} {write : Value → String}
    {read : String → Option Value} {values : List Value}
    (each : ∀ value ∈ values, read (write value) = some value) :
    (values.map write).filterMap read = values := by
  rw [List.filterMap_map]
  exact (List.filterMap_congr each).trans (List.filterMap_some)

theorem exceptionsFromColumn_exceptionsColumn {exceptions : SortedMap Nat Span}
    (each : ∀ entry ∈ exceptions.entries, (monday ≤ entry.1 ∧ entry.1 ≤ sunday) ∧
      InOrder entry.2) :
    exceptionsFromColumn (exceptionsColumn exceptions) = exceptions := by
  unfold exceptionsColumn
  split
  · rename_i isEmpty
    exact SortedMap.ext_entries (List.isEmpty_iff.mp isEmpty).symm
  · rename_i nonempty
    have someEntry : exceptions.entries.map entryText ≠ [] :=
      fun none => nonempty (List.isEmpty_iff.mpr (List.map_eq_nil_iff.mp none))
    unfold exceptionsFromColumn
    dsimp only
    rw [split_intercalate someEntry, filterMap_map_eq_self, SortedMap.ofList_entries]
    · exact fun entry member =>
        (entryOf_entryText (each entry member).1 (each entry member).2).1
    · intro part isPart
      obtain ⟨entry, member, rfl⟩ := List.mem_map.mp isPart
      exact (entryOf_entryText (each entry member).1 (each entry member).2).2

theorem day_row (wellFormed : WellFormed day) (occurredAt actor : String) (reason : Option String) :
    ((Update.set day reason).row occurredAt actor).day = some day := by
  have columns : exceptionsFromColumn (exceptionsColumn day.exceptions) = day.exceptions :=
    exceptionsFromColumn_exceptionsColumn fun entry member =>
      ⟨wellFormed.inWeek entry.1 (wellFormed.exceptions entry member).1,
        (wellFormed.exceptions entry member).2⟩
  have days : (Text.split ',' (",".intercalate (day.days.map toString))).filterMap
      (fun day => Text.parseUnsigned 256 (Text.trim day)) = day.days := by
    rw [split_intercalate fun none => wellFormed.nonempty (List.map_eq_nil_iff.mp none)]
    · exact filterMap_map_eq_self fun weekday member =>
        (weekday_spec (wellFormed.inWeek weekday member)).1
    · intro part isPart isComma
      obtain ⟨weekday, member, rfl⟩ := List.mem_map.mp isPart
      exact absurd ((weekday_spec (wellFormed.inWeek weekday member)).2.2 ',' isComma) (by decide)
  unfold Update.row Row.day
  dsimp only
  rw [if_pos rfl, days, columns,
    if_neg fun isEmpty => wellFormed.nonempty (List.isEmpty_iff.mp isEmpty)]

theorem workingDayState_record (journal : List Row) (update : Update) (occurredAt actor : String) :
    (workingDayState (recordWorkingDayDecision journal update occurredAt actor).1).day =
      (update.row occurredAt actor).day := by
  unfold recordWorkingDayDecision workingDayState
  rw [List.getLast?_concat]

/-! ### What is accepted is as given -/

theorem weekdayOf_toString {key : String} {weekday other : Nat}
    (inWeek : monday ≤ weekday ∧ weekday ≤ sunday) (isKey : key = toString weekday)
    (isRead : weekdayOf key = some other) : other = weekday := by
  rw [isKey, (weekday_spec inWeek).2.1] at isRead
  exact (Option.some.inj isRead).symm

theorem asGiven_iff {body : Option Json} (accepted : parseUpdate body = .ok (.set day reason)) :
    AsGiven body day ↔ CanonicalKeys body := by
  obtain ⟨object, isObject, -, areDays, isSpan, areExceptions⟩ :=
    parseUpdate_eq_set_iff.mp accepted
  obtain ⟨items, areItems, -, sorted, weekdays, daysGiven⟩ := daysOf_spec areDays
  obtain ⟨exceptionsGiven, keysRead⟩ := exceptionsOf_spec areExceptions
  have member : ∀ name, given body name = object.get? name := fun name => by
    unfold given
    rw [isObject, Option.bind_some]
  have wellFormed := wellFormed_of_set accepted
  constructor
  · intro asGiven members isMembers
    obtain ⟨distinct, each⟩ := asGiven.keys members isMembers
    refine ⟨distinct, fun key isKey => ?_⟩
    obtain ⟨weekday, inDays, same⟩ := each key isKey
    obtain ⟨first, last⟩ := wellFormed.inWeek weekday inDays
    exact ⟨weekday, first, last, same⟩
  · intro canonical
    refine ⟨⟨items, by rw [member, areItems], sorted, weekdays, daysGiven⟩,
      ⟨object, isObject, spanOf_eq_ok_iff.mp isSpan⟩, ?_, ?_, ?_⟩
    · simp only [member]
      exact exceptionsGiven
    · intro members isMembers
      obtain ⟨distinct, each⟩ := canonical members isMembers
      refine ⟨distinct, fun key isKey => ?_⟩
      obtain ⟨weekday, first, last, same⟩ := each key isKey
      obtain ⟨other, inDays, isRead⟩ := keysRead members (by rw [← member, isMembers]) key isKey
      rw [weekdayOf_toString ⟨first, last⟩ same isRead] at inDays
      exact ⟨weekday, inDays, same⟩
    · intro journal occurredAt actor reason
      refine ⟨day, ?_, rfl, fun _ => rfl⟩
      rw [workingDayState_record, day_row wellFormed]

/-- A working day is refused rather than repaired, exactly where the body is refused for something
else, or the keys of its exceptions are in their one spelling and each written once. -/
theorem refusedRatherThanRepaired_iff (body : Option Json) :
    (∀ day reason, parseUpdate body = .ok (.set day reason) → AsGiven body day) ↔
      (Sets body → CanonicalKeys body) := by
  constructor
  · intro refused sets
    obtain ⟨day, reason, accepted⟩ := (exists_parseUpdate_iff body).mpr sets
    exact (asGiven_iff accepted).mp (refused day reason accepted)
  · intro canonical day reason accepted
    exact (asGiven_iff accepted).mpr
      (canonical ((exists_parseUpdate_iff body).mp ⟨day, reason, accepted⟩))

/-! ### Two spellings of a Wednesday -/

namespace Wednesday

def hours (startsAt endsAt : String) : Json :=
  .object [("starts_at", .string startsAt), ("ends_at", .string endsAt)]

def exceptions : List (String × Json) :=
  [("03", hours "09:00" "12:00"), ("3", hours "14:00" "16:00")]

def body : Json := .object [("days", .array [.number 3]), ("starts_at", .string "09:00"),
  ("ends_at", .string "18:00"), ("exceptions", .object exceptions)]

def wednesday : Except Invalid Update → Option (String × String)
  | .ok (.set day _) => some (day.span 3)
  | _ => none

theorem wednesday_body : wednesday (parseUpdate (some body)) = some ("14:00", "16:00") := by
  decide +kernel

/-- A key that is no spelling of a weekday's own is not refused. -/
theorem body_not_asGiven : ¬∀ day reason, parseUpdate (some body) = .ok (.set day reason) →
    AsGiven (some body) day := by
  intro refused
  have accepted := wednesday_body
  unfold wednesday at accepted
  split at accepted
  · rename_i day reason isSet
    have isGiven : given (some body) "exceptions" = some (.object exceptions) := rfl
    obtain ⟨-, canonical⟩ := (refused day reason isSet).keys exceptions isGiven
    obtain ⟨items, areItems, -, -, daysGiven⟩ := (refused day reason isSet).days
    obtain ⟨weekday, inDays, isKey⟩ := canonical "03" List.mem_cons_self
    obtain ⟨item, -, ⟨first, last⟩, -⟩ := daysGiven weekday inDays
    have oneDigit := toList_toString (Nat.lt_of_le_of_lt last (show sunday < 10 by decide))
    rw [← isKey] at oneDigit
    cases congrArg List.length oneDigit
  · cases accepted

end Wednesday

end Twalk.WorkingDays
