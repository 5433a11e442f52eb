/-
This file is about the form in which the owner says their working day, `companion/src/lib/settings/
model.ts`, and the Gateway that keeps what it says. The form holds the days that are ticked and the
hours of single days, which it keeps for a day that is no longer ticked; what it sends leaves those
out. The two sides check what is sent in their own ways, and agree: what the form lets through sets
the working day it shows, and a working day that is served and sent back untouched is set again.
-/

import Twalk.Library.Schema
import Twalk.WorkingDayJournal

namespace Twalk.WorkingDays

/-! ### The form -/

/-- One day's own hours, while the user edits them. -/
structure DayHours where
  startsAt : String
  endsAt : String
deriving DecidableEq, Repr

structure WorkingDayForm where
  days : List Int
  startsAt : String
  endsAt : String
  exceptions : SortedMap Int DayHours

/-- The working day as the Gateway's document has it, where a day's own hours are keyed by text. -/
structure ServedDay where
  days : List Nat
  startsAt : String
  endsAt : String
  exceptions : Option (SortedMap String Span)

/-- The document that the working day is answered with. -/
structure ServedState where
  day : Option ServedDay
  since : Option String
  actor : Option String
  reason : Option String

def dayJson (day : WorkingDay) : ServedDay :=
  ⟨day.days, day.startsAt, day.endsAt,
    if day.exceptions.entries.isEmpty then none
    else some (SortedMap.ofList (day.exceptions.entries.map fun entry =>
      (toString entry.1, entry.2)))⟩

def workingDayJson (state : State) : ServedState :=
  ⟨state.day.map dayJson, state.since, state.actor, state.reason⟩

def digitsOf (digits : List Char) : Option Int :=
  if digits ≠ [] ∧ digits.all Char.isDigit then some (Text.decimal digits) else none

/-- The integer that a key is as a number, of the spellings in decimal digits. Those with a
fraction, an exponent or another base are the keys of no document that is served. -/
def integerOf (key : String) : Option Int :=
  match (key.toList.dropWhile isPatternSpace).rdropWhile isPatternSpace with
  | [] => some 0
  | '-' :: digits => (digitsOf digits).map fun value => -value
  | '+' :: digits => digitsOf digits
  | digits => digitsOf digits

def workingDayForm (state : Option ServedState) : WorkingDayForm :=
  match state.bind ServedState.day with
  | none => ⟨[1, 2, 3, 4, 5], "09:00", "18:00", SortedMap.empty⟩
  | some day =>
    ⟨day.days.map Int.ofNat, day.startsAt, day.endsAt,
      SortedMap.ofList ((day.exceptions.getD SortedMap.empty).entries.filterMap fun entry =>
        (integerOf entry.1).map fun weekday => (weekday, ⟨entry.2.startsAt, entry.2.endsAt⟩))⟩

/-- The ticked days that have hours of their own, in the order a week runs. -/
def exceptionDays (form : WorkingDayForm) : List Int :=
  ((form.exceptions.entries.map Prod.fst).filter fun day =>
    form.days.contains day).insertionSort (· ≤ ·)

def hoursJson (hours : DayHours) : Json :=
  .object [("starts_at", .string hours.startsAt), ("ends_at", .string hours.endsAt)]

def exceptionsJson (form : WorkingDayForm) : List (String × Json) :=
  (exceptionDays form).filterMap fun day =>
    (form.exceptions.get? day).map fun hours => (toString day, hoursJson hours)

def workingDayBody (form : WorkingDayForm) : Json :=
  .object ([("days", .array ((form.days.insertionSort (· ≤ ·)).map Json.number)),
      ("starts_at", .string form.startsAt), ("ends_at", .string form.endsAt)] ++
    if exceptionDays form = [] then [] else [("exceptions", .object (exceptionsJson form))])

/-- Two digits up to 23, a colon and two digits up to 59. -/
def matchesWallClock (value : String) : Bool :=
  match value.toList with
  | [tens, units, colon, tensOfMinutes, unitsOfMinutes] =>
    ((tens == '0' || tens == '1') && ('0' ≤ units && units ≤ '9') ||
        tens == '2' && ('0' ≤ units && units ≤ '3')) &&
      colon == ':' && ('0' ≤ tensOfMinutes && tensOfMinutes ≤ '5') &&
      ('0' ≤ unitsOfMinutes && unitsOfMinutes ≤ '9')
  | _ => false

inductive Trouble where
  | days
  | time
  | order
deriving DecidableEq, Repr

def troubleOfHours (startsAt endsAt : String) : Option Trouble :=
  if !matchesWallClock startsAt || !matchesWallClock endsAt then some .time
  -- Both are times of day here, so that their texts are in the order of their characters.
  else if endsAt ≤ startsAt then some .order
  else none

/-- Why a form cannot be sent, or nothing when it can. -/
def workingDayTrouble (form : WorkingDayForm) : Option Trouble :=
  if form.days.length = 0 then some .days
  else
    (troubleOfHours form.startsAt form.endsAt).or
      ((exceptionDays form).findSome? fun day =>
        (form.exceptions.get? day).bind fun hours => troubleOfHours hours.startsAt hours.endsAt)

/-! ### What the two sides agree on -/

/-- A working day is what a form shows: its ticked days, its default hours, and the hours of those
of the ticked days that have their own. -/
structure Shows (form : WorkingDayForm) (day : WorkingDay) : Prop where
  sorted : day.days.Pairwise (· < ·)
  days : ∀ weekday : Int, weekday ∈ form.days ↔ ∃ number ∈ day.days, weekday = (number : Int)
  startsAt : day.startsAt = form.startsAt
  endsAt : day.endsAt = form.endsAt
  exceptions : ∀ weekday span, day.exceptions.get? weekday = some span ↔
    (weekday : Int) ∈ form.days ∧
      form.exceptions.get? (weekday : Int) = some ⟨span.startsAt, span.endsAt⟩

inductive Recorded : List Row → Prop
  | empty : Recorded []
  | decision {journal : List Row} {body : Option Json} {update : Update}
      (before : Recorded journal) (accepted : parseUpdate body = .ok update)
      (occurredAt actor : String) :
      Recorded (recordWorkingDayDecision journal update occurredAt actor).1

structure FormAgrees : Prop where
  /-- What the form lets through is set as it is shown. -/
  sets : ∀ form : WorkingDayForm, (∀ day ∈ form.days, 1 ≤ day ∧ day ≤ 7) →
    workingDayTrouble form = none →
      ∃ day, parseUpdate (some (workingDayBody form)) = .ok (.set day none) ∧ Shows form day
  /-- A working day that is served is set again by the form it reads back into. -/
  untouched : ∀ journal, Recorded journal → ∀ day, (workingDayState journal).day = some day →
    parseUpdate (some (workingDayBody
      (workingDayForm (some (workingDayJson (workingDayState journal)))))) = .ok (.set day none)
  /-- Saving it records that same working day. -/
  saved : ∀ journal, Recorded journal → ∀ day, (workingDayState journal).day = some day →
    ∀ occurredAt actor,
      (recordWorkingDayDecision journal (.set day none) occurredAt actor).2.day = some day

/-! ### Times of day in the form -/

theorem isDigit_of_between {character last : Char} (isLast : last.isDigit = true)
    (between : (decide ('0' ≤ character) && decide (character ≤ last)) = true) :
    character.isDigit = true ∧ character.toNat ≤ last.toNat := by
  rw [Bool.and_eq_true, decide_eq_true_eq, decide_eq_true_eq] at between
  unfold Char.isDigit at isLast ⊢
  rw [Bool.and_eq_true, decide_eq_true_eq, decide_eq_true_eq] at isLast ⊢
  exact ⟨⟨between.1, UInt32.le_trans between.2 isLast.2⟩, UInt32.le_iff_toNat_le.mp between.2⟩

theorem hours_of_matches {tens units : Char}
    (isHour : ((tens == '0' || tens == '1') && (decide ('0' ≤ units) && decide (units ≤ '9')) ||
      tens == '2' && (decide ('0' ≤ units) && decide (units ≤ '3'))) = true) :
    ∃ hour ≤ 23, Rfc3339.padded 2 hour = [tens, units] := by
  have cases : (tens = '0' ∨ tens = '1') ∧
      (decide ('0' ≤ units) && decide (units ≤ '9')) = true ∨
      tens = '2' ∧ (decide ('0' ≤ units) && decide (units ≤ '3')) = true := by
    refine (Bool.or_eq_true_iff.mp isHour).imp (fun low => ?_) fun high => ?_
    · refine (Bool.and_eq_true_iff.mp low).imp_left fun isTens => ?_
      exact (Bool.or_eq_true_iff.mp isTens).imp eq_of_beq eq_of_beq
    · exact (Bool.and_eq_true_iff.mp high).imp_left eq_of_beq
  rcases cases with ⟨rfl | rfl, isUnits⟩ | ⟨rfl, isUnits⟩
  · obtain ⟨isDigit, most⟩ := isDigit_of_between (by decide) isUnits
    refine ⟨_, ?_, (padded_two_of_digits (by decide) isDigit).2⟩
    change (48 - 48) * 10 + (units.toNat - 48) ≤ 23
    change units.toNat ≤ 57 at most
    omega
  · obtain ⟨isDigit, most⟩ := isDigit_of_between (by decide) isUnits
    refine ⟨_, ?_, (padded_two_of_digits (by decide) isDigit).2⟩
    change (49 - 48) * 10 + (units.toNat - 48) ≤ 23
    change units.toNat ≤ 57 at most
    omega
  · obtain ⟨isDigit, most⟩ := isDigit_of_between (by decide) isUnits
    refine ⟨_, ?_, (padded_two_of_digits (by decide) isDigit).2⟩
    change (50 - 48) * 10 + (units.toNat - 48) ≤ 23
    change units.toNat ≤ 51 at most
    omega

theorem minutes_of_matches {tens units : Char}
    (isTens : (decide ('0' ≤ tens) && decide (tens ≤ '5')) = true)
    (isUnits : (decide ('0' ≤ units) && decide (units ≤ '9')) = true) :
    ∃ minute ≤ 59, Rfc3339.padded 2 minute = [tens, units] := by
  obtain ⟨tensDigit, tensMost⟩ := isDigit_of_between (by decide) isTens
  obtain ⟨unitsDigit, unitsMost⟩ := isDigit_of_between (by decide) isUnits
  refine ⟨_, ?_, (padded_two_of_digits tensDigit unitsDigit).2⟩
  change tens.toNat ≤ 53 at tensMost
  change units.toNat ≤ 57 at unitsMost
  omega

/-- The form's times of day are the Gateway's. -/
theorem matchesWallClock_iff (value : String) :
    matchesWallClock value = true ↔ ∃ minutes, Clock value minutes := by
  unfold matchesWallClock
  constructor
  · intro isMatch
    split at isMatch
    · rename_i tens units colon tensOfMinutes unitsOfMinutes areCharacters
      rw [Bool.and_eq_true, Bool.and_eq_true, Bool.and_eq_true, beq_iff_eq] at isMatch
      obtain ⟨⟨⟨isHour, rfl⟩, isTens⟩, isUnits⟩ := isMatch
      obtain ⟨hour, inDay, areHours⟩ := hours_of_matches isHour
      obtain ⟨minute, inHour, areMinutes⟩ := minutes_of_matches isTens isUnits
      refine ⟨hour * 60 + minute, hour, minute, inDay, inHour, rfl, ?_⟩
      rw [areHours, areMinutes, ← String.ofList_toList (s := value), areCharacters]
      rfl
    · cases isMatch
  · rintro ⟨_, hour, minute, inDay, inHour, -, rfl⟩
    have hours : ∀ hour < 24, (((hour / 10 % 10).digitChar == '0' ||
        (hour / 10 % 10).digitChar == '1') && (decide ('0' ≤ (hour % 10).digitChar) &&
          decide ((hour % 10).digitChar ≤ '9')) || (hour / 10 % 10).digitChar == '2' &&
        (decide ('0' ≤ (hour % 10).digitChar) && decide ((hour % 10).digitChar ≤ '3'))) = true := by
      decide
    have minutes : ∀ minute < 60, (decide ('0' ≤ (minute / 10 % 10).digitChar) &&
        decide ((minute / 10 % 10).digitChar ≤ '5')) = true ∧
        (decide ('0' ≤ (minute % 10).digitChar) && decide ((minute % 10).digitChar ≤ '9')) =
          true := by
      decide
    have twoDigits : ∀ value, Rfc3339.padded 2 value =
        [(value / 10 % 10).digitChar, (value % 10).digitChar] := fun value => by
      rw [Rfc3339.padded, Rfc3339.padded, Rfc3339.padded, pow_one, pow_zero, Nat.div_one]
    rw [String.toList_ofList, twoDigits, twoDigits]
    dsimp only [List.cons_append, List.nil_append]
    rw [hours hour (by omega), (minutes minute (by omega)).1, (minutes minute (by omega)).2]
    rfl

variable {startsAt endsAt : String}

theorem troubleOfHours_eq_none_iff :
    troubleOfHours startsAt endsAt = none ↔ InOrder ⟨startsAt, endsAt⟩ := by
  unfold troubleOfHours InOrder
  by_cases areClocks : matchesWallClock startsAt = true ∧ matchesWallClock endsAt = true
  · obtain ⟨startMatches, endMatches⟩ := areClocks
    obtain ⟨opens, startClock⟩ := (matchesWallClock_iff startsAt).mp startMatches
    obtain ⟨closes, endClock⟩ := (matchesWallClock_iff endsAt).mp endMatches
    rw [startMatches, endMatches, if_neg (by decide)]
    by_cases late : endsAt ≤ startsAt
    · rw [if_pos late]
      refine ⟨nofun, ?_⟩
      rintro ⟨other, otherCloses, otherStart, otherEnd, early⟩
      exact absurd ((lt_iff_of_clock otherStart otherEnd).mpr early) (not_lt.mpr late)
    · rw [if_neg late]
      exact ⟨fun _ => ⟨opens, closes, startClock, endClock,
        (lt_iff_of_clock startClock endClock).mp (not_le.mp late)⟩, fun _ => rfl⟩
  · have refused : (!matchesWallClock startsAt || !matchesWallClock endsAt) = true := by
      rw [Bool.or_eq_true, Bool.not_eq_true', Bool.not_eq_true', ← Bool.not_eq_true,
        ← Bool.not_eq_true]
      exact not_and_or.mp areClocks
    rw [if_pos refused]
    refine ⟨nofun, ?_⟩
    rintro ⟨opens, closes, startClock, endClock, -⟩
    exact absurd ⟨(matchesWallClock_iff startsAt).mpr ⟨opens, startClock⟩,
      (matchesWallClock_iff endsAt).mpr ⟨closes, endClock⟩⟩ areClocks

/-! ### What a form sends -/

variable {weekday : Nat}

section

variable {form : WorkingDayForm}

theorem mem_exceptionDays {day : Int} :
    day ∈ exceptionDays form ↔
      day ∈ form.days ∧ ∃ hours, form.exceptions.get? day = some hours := by
  unfold exceptionDays
  rw [(List.perm_insertionSort (· ≤ ·) _).mem_iff, List.mem_filter, List.contains_iff_mem,
    List.mem_map, and_comm]
  refine and_congr_right fun _ => ?_
  constructor
  · rintro ⟨⟨_, hours⟩, isEntry, rfl⟩
    exact ⟨hours, SortedMap.get?_eq_some_iff.mpr isEntry⟩
  · rintro ⟨hours, isRead⟩
    exact ⟨(day, hours), SortedMap.get?_eq_some_iff.mp isRead, rfl⟩

theorem mem_exceptionsJson {member : String × Json} :
    member ∈ exceptionsJson form ↔ ∃ day hours, day ∈ form.days ∧
      form.exceptions.get? day = some hours ∧ member = (toString day, hoursJson hours) := by
  unfold exceptionsJson
  rw [List.mem_filterMap]
  constructor
  · rintro ⟨day, isDay, isMember⟩
    obtain ⟨hours, areHours, rfl⟩ := Option.map_eq_some_iff.mp isMember
    exact ⟨day, hours, (mem_exceptionDays.mp isDay).1, areHours, rfl⟩
  · rintro ⟨day, hours, ticked, areHours, rfl⟩
    refine ⟨day, mem_exceptionDays.mpr ⟨ticked, hours, areHours⟩, ?_⟩
    rw [areHours, Option.map_some]

theorem workingDayTrouble_eq_none_iff : workingDayTrouble form = none ↔
    form.days ≠ [] ∧ InOrder ⟨form.startsAt, form.endsAt⟩ ∧
      ∀ day ∈ form.days, ∀ hours, form.exceptions.get? day = some hours →
        InOrder ⟨hours.startsAt, hours.endsAt⟩ := by
  unfold workingDayTrouble
  by_cases isEmpty : form.days.length = 0
  · rw [if_pos isEmpty]
    exact ⟨nofun, fun sendable => absurd (List.length_eq_zero_iff.mp isEmpty) sendable.1⟩
  · rw [if_neg isEmpty, Option.or_eq_none_iff, troubleOfHours_eq_none_iff,
      List.findSome?_eq_none_iff]
    refine ⟨fun sendable => ⟨fun none => isEmpty (List.length_eq_zero_iff.mpr none), sendable.1,
      fun day ticked hours areHours => ?_⟩, fun sendable => ⟨sendable.2.1, fun day isDay => ?_⟩⟩
    · have none := sendable.2 day (mem_exceptionDays.mpr ⟨ticked, hours, areHours⟩)
      rw [areHours, Option.bind_some] at none
      exact troubleOfHours_eq_none_iff.mp none
    · obtain ⟨ticked, hours, areHours⟩ := mem_exceptionDays.mp isDay
      rw [areHours, Option.bind_some]
      exact troubleOfHours_eq_none_iff.mpr (sendable.2.2 day ticked hours areHours)

theorem get?_workingDayBody : ∃ object, membersOf (workingDayBody form) = some object ∧
    object.get? "days" = some (.array ((form.days.insertionSort (· ≤ ·)).map Json.number)) ∧
    object.get? "starts_at" = some (.string form.startsAt) ∧
    object.get? "ends_at" = some (.string form.endsAt) ∧ object.get? "reason" = none ∧
    (object.get? "exceptions" = none ∧ exceptionsJson form = [] ∨
      object.get? "exceptions" = some (.object (exceptionsJson form))) := by
  refine ⟨_, rfl, SortedMap.get?_ofList_of_unique (by simp) fun other isOther => ?_,
    SortedMap.get?_ofList_of_unique (by simp) fun other isOther => ?_,
    SortedMap.get?_ofList_of_unique (by simp) fun other isOther => ?_,
    SortedMap.get?_ofList_of_notMem ?_, ?_⟩
  · split at isOther <;> simpa using isOther
  · split at isOther <;> simpa using isOther
  · split at isOther <;> simpa using isOther
  · split <;> simp
  · by_cases isEmpty : exceptionDays form = []
    · have none : exceptionsJson form = [] := by
        unfold exceptionsJson
        rw [isEmpty, List.filterMap_nil]
      rw [if_pos isEmpty]
      exact .inl ⟨SortedMap.get?_ofList_of_notMem (by simp), none⟩
    · rw [if_neg isEmpty]
      exact .inr (SortedMap.get?_ofList_of_unique (by simp) (by simp))

variable {object : Members}

theorem hours_hoursJson {hours : DayHours} {span : Span}
    (areHours : membersOf (hoursJson hours) = some object) :
    GivesHours object span ↔
      span = ⟨Text.trim hours.startsAt, Text.trim hours.endsAt⟩ ∧ InOrder span := by
  have startsAt : object.get? "starts_at" = some (.string hours.startsAt) := by
    rw [← Option.some.inj areHours]
    exact SortedMap.get?_ofList_of_unique (by simp) (by simp)
  have endsAt : object.get? "ends_at" = some (.string hours.endsAt) := by
    rw [← Option.some.inj areHours]
    exact SortedMap.get?_ofList_of_unique (by simp) (by simp)
  unfold GivesHours
  rw [startsAt, endsAt]
  constructor
  · rintro ⟨start, finish, isStart, isEnd, isSpan⟩
    cases isStart
    cases isEnd
    exact isSpan
  · exact fun isSpan => ⟨_, _, rfl, rfl, isSpan⟩

theorem trim_of_inOrder (inOrder : InOrder ⟨startsAt, endsAt⟩) :
    (⟨Text.trim startsAt, Text.trim endsAt⟩ : Span) = ⟨startsAt, endsAt⟩ := by
  obtain ⟨opens, closes, startClock, endClock, -⟩ := inOrder
  rw [trim_of_clock startClock, trim_of_clock endClock]

/-! ### What is sent is accepted -/

theorem exists_weekday {day : Int} (inWeek : 1 ≤ day ∧ day ≤ 7) :
    ∃ weekday : Nat, day = weekday ∧ (monday ≤ weekday ∧ weekday ≤ sunday) ∧
      weekdayOf (toString day) = some weekday := by
  obtain ⟨weekday, rfl⟩ := Int.eq_ofNat_of_zero_le (show 0 ≤ day by omega)
  have ofWeek : monday ≤ weekday ∧ weekday ≤ sunday := by
    unfold monday sunday
    omega
  exact ⟨weekday, rfl, ofWeek, (weekday_spec ofWeek).2.1⟩

theorem isWeekday_number {day : Int} :
    IsWeekday (.number day) weekday ↔ (monday ≤ weekday ∧ weekday ≤ sunday) ∧ day = weekday := by
  unfold IsWeekday
  rw [Json.number.injEq]

variable {days : List Nat}

theorem exists_exception {exceptions : SortedMap Nat Span}
    (accepted : exceptionsOf object days = .ok exceptions) {members : List (String × Json)}
    (isGiven : object.get? "exceptions" = some (.object members)) {key : String}
    (isKey : key ∈ members.map Prod.fst) (isRead : weekdayOf key = some weekday) :
    ∃ span, exceptions.get? weekday = some span := by
  unfold exceptionsOf at accepted
  rw [isGiven] at accepted
  obtain ⟨found, worked, isMap⟩ := foldlM_eq_ok_iff.mp accepted
  obtain ⟨given, isMember, rfl⟩ := List.mem_map.mp (SortedMap.mem_keys_ofList.mpr isKey)
  obtain ⟨entry, isFound, isOk⟩ :=
    exists_result_of_forall₂ (forall₂_of_mapM_eq_ok worked) isMember
  have isWeekday := (exceptionOf_eq_ok_iff.mp isOk).1
  rw [isRead] at isWeekday
  cases isWeekday
  obtain ⟨kept, isKept, sameKey⟩ :=
    List.mem_map.mp (SortedMap.mem_keys_ofList.mpr (List.mem_map_of_mem isFound))
  refine ⟨kept.2, SortedMap.get?_eq_some_iff.mpr ?_⟩
  rw [← isMap, ← sameKey]
  exact isKept

theorem exists_days (inWeek : ∀ day ∈ form.days, 1 ≤ day ∧ day ≤ 7) (someDay : form.days ≠ [])
    (areItems : object.get? "days" =
      some (.array ((form.days.insertionSort (· ≤ ·)).map Json.number))) :
    ∃ days, daysOf object = .ok days ∧ days.Pairwise (· < ·) ∧
      ∀ day : Int, day ∈ form.days ↔ ∃ weekday ∈ days, day = (weekday : Int) := by
  have ticked : ∀ day, day ∈ form.days.insertionSort (· ≤ ·) ↔ day ∈ form.days := fun day =>
    (List.perm_insertionSort (· ≤ ·) form.days).mem_iff
  obtain ⟨first, rest, isForm⟩ := List.exists_cons_of_ne_nil someDay
  have isFirst : first ∈ form.days.insertionSort (· ≤ ·) :=
    (ticked first).mpr (isForm ▸ List.mem_cons_self)
  obtain ⟨days, areDays⟩ := exists_daysOf areItems
    (List.ne_nil_of_mem (List.mem_map_of_mem isFirst))
    fun item isItem => by
      obtain ⟨day, isDay, rfl⟩ := List.mem_map.mp isItem
      obtain ⟨weekday, isWeekday, ofWeek, -⟩ := exists_weekday (inWeek day ((ticked day).mp isDay))
      exact ⟨weekday, isWeekday_number.mpr ⟨ofWeek, isWeekday⟩⟩
  obtain ⟨items, areItemsToo, -, sorted, given, fromGiven⟩ := daysOf_spec areDays
  rw [areItems] at areItemsToo
  cases areItemsToo
  refine ⟨days, areDays, sorted, fun day => ⟨fun isTicked => ?_, ?_⟩⟩
  · obtain ⟨weekday, inDays, isWeekday⟩ :=
      given _ (List.mem_map_of_mem ((ticked day).mpr isTicked))
    exact ⟨weekday, inDays, (isWeekday_number.mp isWeekday).2⟩
  · rintro ⟨weekday, inDays, rfl⟩
    obtain ⟨item, isItem, isWeekday⟩ := fromGiven weekday inDays
    obtain ⟨day, isDay, rfl⟩ := List.mem_map.mp isItem
    rw [← (isWeekday_number.mp isWeekday).2]
    exact (ticked day).mp isDay

def GivesOwn (days : List Nat) (day : Int) (hours : DayHours) : Prop :=
  ∃ weekday : Nat, day = weekday ∧ weekday ∈ days ∧ weekdayOf (toString day) = some weekday ∧
    ∃ object, membersOf (hoursJson hours) = some object ∧
      ∀ span, GivesHours object span ↔ span = ⟨hours.startsAt, hours.endsAt⟩

theorem givesOwn_of_sendable (inWeek : ∀ day ∈ form.days, 1 ≤ day ∧ day ≤ 7)
    (ownOrdered : ∀ day ∈ form.days, ∀ hours, form.exceptions.get? day = some hours →
      InOrder ⟨hours.startsAt, hours.endsAt⟩)
    (shown : ∀ day : Int, day ∈ form.days ↔ ∃ weekday ∈ days, day = (weekday : Int)) {day : Int}
    {hours : DayHours} (isTicked : day ∈ form.days)
    (areHours : form.exceptions.get? day = some hours) : GivesOwn days day hours := by
  obtain ⟨weekday, isWeekday, -, isKey⟩ := exists_weekday (inWeek day isTicked)
  obtain ⟨other, inDays, same⟩ := (shown day).mp isTicked
  have sameDay : weekday = other := Int.natCast_inj.mp (isWeekday.symm.trans same)
  have inOrder := ownOrdered day isTicked hours areHours
  refine ⟨weekday, isWeekday, sameDay ▸ inDays, isKey, _, rfl, fun span => ?_⟩
  rw [hours_hoursJson rfl, trim_of_inOrder inOrder]
  exact and_iff_left_of_imp fun isSpan => isSpan ▸ inOrder

theorem exists_exceptions
    (ownHours : ∀ {day hours}, day ∈ form.days → form.exceptions.get? day = some hours →
      GivesOwn days day hours) (sent : object.get? "exceptions" = none ∧ exceptionsJson form = [] ∨
      object.get? "exceptions" = some (.object (exceptionsJson form))) :
    ∃ exceptions, exceptionsOf object days = .ok exceptions ∧
      ∀ weekday span, exceptions.get? weekday = some span ↔ (weekday : Int) ∈ form.days ∧
        form.exceptions.get? (weekday : Int) = some ⟨span.startsAt, span.endsAt⟩ := by
  have isSent : ∀ {members}, object.get? "exceptions" = some members →
      members = .object (exceptionsJson form) := by
    intro members isGiven
    rcases sent with ⟨none, -⟩ | isObject
    · rw [none] at isGiven
      cases isGiven
    · exact Option.some.inj (isGiven.symm.trans isObject)
  obtain ⟨exceptions, areRead⟩ : ∃ exceptions, exceptionsOf object days = .ok exceptions := by
    refine exceptionsOf_isOk_iff.mpr fun members isGiven => .inr ⟨_, isSent isGiven, ?_⟩
    intro entry isEntry
    obtain ⟨day, hours, isTicked, areHours, rfl⟩ :=
      mem_exceptionsJson.mp (SortedMap.mem_of_mem_ofList isEntry)
    obtain ⟨weekday, -, inDays, isKey, object, isObject, gives⟩ := ownHours isTicked areHours
    exact ⟨weekday, object, _, isKey, inDays, isObject, (gives _).mpr rfl⟩
  have readHours : ∀ {weekday span}, exceptions.get? weekday = some span →
      (weekday : Int) ∈ form.days ∧
        form.exceptions.get? (weekday : Int) = some ⟨span.startsAt, span.endsAt⟩ := by
    intro weekday span isRead
    obtain ⟨-, members, object, isGiven, gives, member, isMember, isWeekday, isObject⟩ :=
      (exceptionsOf_spec areRead).1 _ (SortedMap.get?_eq_some_iff.mp isRead)
    cases isSent isGiven
    obtain ⟨day, hours, isTicked, areHours, rfl⟩ := mem_exceptionsJson.mp isMember
    obtain ⟨other, sameDay, -, isKey, own, isOwn, ownGives⟩ := ownHours isTicked areHours
    cases isKey.symm.trans isWeekday
    cases isOwn.symm.trans isObject
    rw [← sameDay, (ownGives span).mp gives]
    exact ⟨isTicked, areHours⟩
  refine ⟨exceptions, areRead, fun weekday span => ⟨readHours, ?_⟩⟩
  rintro ⟨isTicked, areHours⟩
  have isMember := mem_exceptionsJson.mpr ⟨_, _, isTicked, areHours, rfl⟩
  obtain ⟨other, sameDay, -, isKey, -⟩ := ownHours isTicked areHours
  cases Int.natCast_inj.mp sameDay
  have isGiven : object.get? "exceptions" = some (.object (exceptionsJson form)) := by
    refine sent.resolve_left fun nothing => ?_
    rw [nothing.2] at isMember
    exact List.not_mem_nil isMember
  obtain ⟨kept, isKept⟩ := exists_exception areRead isGiven (List.mem_map_of_mem isMember) isKey
  have same := (readHours isKept).2
  rw [areHours] at same
  cases kept
  cases span
  cases same
  exact isKept

theorem exists_shown (inWeek : ∀ day ∈ form.days, 1 ≤ day ∧ day ≤ 7)
    (sendable : workingDayTrouble form = none) :
    ∃ day, parseUpdate (some (workingDayBody form)) = .ok (.set day none) ∧ Shows form day := by
  obtain ⟨someDay, ordered, ownOrdered⟩ := workingDayTrouble_eq_none_iff.mp sendable
  obtain ⟨object, isObject, areItems, isStart, isEnd, noReason, sent⟩ :=
    @get?_workingDayBody form
  have isReason : reasonOf object = .ok none := by
    unfold reasonOf
    rw [noReason]
  have isSpan : spanOf object none = .ok ⟨form.startsAt, form.endsAt⟩ :=
    spanOf_eq_ok_iff.mpr ⟨_, _, isStart, isEnd, (trim_of_inOrder ordered).symm, ordered⟩
  obtain ⟨days, areDays, sorted, shown⟩ := exists_days inWeek someDay areItems
  obtain ⟨exceptions, areRead, shownToo⟩ :=
    exists_exceptions (givesOwn_of_sendable inWeek ownOrdered shown) sent
  exact ⟨⟨days, form.startsAt, form.endsAt, exceptions⟩,
    parseUpdate_eq_set_iff.mpr ⟨object, isObject, isReason, areDays, isSpan, areRead⟩,
    sorted, shown, rfl, rfl, shownToo⟩

theorem Shows.unique {day other : WorkingDay} (shows : Shows form day)
    (showsToo : Shows form other) : day = other := by
  obtain ⟨days, startsAt, endsAt, exceptions⟩ := day
  obtain ⟨otherDays, otherStartsAt, otherEndsAt, otherExceptions⟩ := other
  have member : ∀ weekday : Nat, weekday ∈ days ↔ weekday ∈ otherDays := by
    have ofDays : ∀ {those : List Nat} {weekday : Nat},
        (∃ number ∈ those, (weekday : Int) = number) ↔ weekday ∈ those := by
      intro those weekday
      simp only [Int.natCast_inj, exists_eq_right']
    exact fun weekday => ofDays.symm.trans
      ((shows.days weekday).symm.trans ((showsToo.days weekday).trans ofDays))
  have distinct : ∀ {those : List Nat}, those.Pairwise (· < ·) → those.Nodup :=
    fun sorted => sorted.imp Nat.ne_of_lt
  cases ((List.perm_ext_iff_of_nodup (distinct shows.sorted) (distinct showsToo.sorted)).mpr
    member).eq_of_pairwise (fun one another _ _ before after => absurd before (Nat.lt_asymm after))
    shows.sorted showsToo.sorted
  cases shows.startsAt.trans showsToo.startsAt.symm
  cases shows.endsAt.trans showsToo.endsAt.symm
  cases SortedMap.ext_get? fun weekday span =>
    (shows.exceptions weekday span).trans (showsToo.exceptions weekday span).symm
  rfl

end

/-! ### What is served -/

variable {day : WorkingDay}

theorem wellFormed_of_recorded {journal : List Row} (recorded : Recorded journal)
    (isServed : (workingDayState journal).day = some day) : WellFormed day := by
  cases recorded with
  | empty => cases isServed
  | @decision before body update _ accepted occurredAt actor =>
    rw [workingDayState_record] at isServed
    cases update with
    | clear reason => cases isServed
    | set given reason =>
      have wellFormed := wellFormed_of_set accepted
      rw [day_row wellFormed] at isServed
      cases isServed
      exact wellFormed

theorem integerOf_toString (inWeek : monday ≤ weekday ∧ weekday ≤ sunday) :
    integerOf (toString weekday) = some (weekday : Int) := by
  have each : ∀ weekday : Nat, weekday < 8 →
      integerOf (toString weekday) = some (weekday : Int) := by
    decide +kernel
  exact each weekday (Nat.lt_succ_of_le inWeek.2)

theorem mem_served (wellFormed : WellFormed day) {key : String} {span : Span} :
    (key, span) ∈ ((dayJson day).exceptions.getD SortedMap.empty).entries ↔
      ∃ weekday, (weekday, span) ∈ day.exceptions.entries ∧ key = toString weekday := by
  have inWeek : ∀ {entry}, entry ∈ day.exceptions.entries → monday ≤ entry.1 ∧ entry.1 ≤ sunday :=
    fun isEntry => wellFormed.inWeek _ (wellFormed.exceptions _ isEntry).1
  unfold dayJson
  dsimp only
  split
  · rename_i isEmpty
    rw [List.isEmpty_iff.mp isEmpty]
    exact ⟨nofun, fun ⟨_, isEntry, _⟩ => absurd isEntry List.not_mem_nil⟩
  · rw [Option.getD_some]
    constructor
    · intro isServed
      obtain ⟨entry, isEntry, same⟩ := List.mem_map.mp (SortedMap.mem_of_mem_ofList isServed)
      cases same
      exact ⟨entry.1, isEntry, rfl⟩
    · rintro ⟨weekday, isEntry, rfl⟩
      refine SortedMap.get?_eq_some_iff.mp (SortedMap.get?_ofList_of_unique
        (List.mem_map.mpr ⟨_, isEntry, rfl⟩) fun other isOther => ?_)
      obtain ⟨⟨otherDay, span⟩, isOtherEntry, same⟩ := List.mem_map.mp isOther
      obtain ⟨sameKey, rfl⟩ := Prod.mk.inj same
      have isRead := (weekday_spec (inWeek isOtherEntry)).2.1
      rw [sameKey, (weekday_spec (inWeek isEntry)).2.1] at isRead
      cases isRead
      exact Option.some.inj ((SortedMap.get?_eq_some_iff.mpr isOtherEntry).symm.trans
        (SortedMap.get?_eq_some_iff.mpr isEntry))

theorem shows_workingDayForm (wellFormed : WellFormed day) {state : ServedState}
    (isServed : state.day = some (dayJson day)) :
    Shows (workingDayForm (some state)) day := by
  have isForm : workingDayForm (some state) = ⟨day.days.map Int.ofNat, day.startsAt, day.endsAt,
      SortedMap.ofList (((dayJson day).exceptions.getD SortedMap.empty).entries.filterMap
        fun entry => (integerOf entry.1).map fun weekday =>
          (weekday, ⟨entry.2.startsAt, entry.2.endsAt⟩))⟩ := by
    unfold workingDayForm
    rw [Option.bind_some, isServed]
    rfl
  have read : ∀ {entry : Int × DayHours},
      entry ∈ ((dayJson day).exceptions.getD SortedMap.empty).entries.filterMap (fun entry =>
        (integerOf entry.1).map fun weekday => (weekday, ⟨entry.2.startsAt, entry.2.endsAt⟩)) ↔
      ∃ weekday span, (weekday, span) ∈ day.exceptions.entries ∧
        entry = ((weekday : Int), ⟨span.startsAt, span.endsAt⟩) := by
    intro entry
    rw [List.mem_filterMap]
    constructor
    · rintro ⟨⟨key, span⟩, isServed, isRead⟩
      obtain ⟨weekday, isEntry, rfl⟩ := (mem_served wellFormed).mp isServed
      dsimp only at isRead
      rw [integerOf_toString (wellFormed.inWeek _ (wellFormed.exceptions _ isEntry).1),
        Option.map_some] at isRead
      exact ⟨weekday, span, isEntry, (Option.some.inj isRead).symm⟩
    · rintro ⟨weekday, span, isEntry, rfl⟩
      refine ⟨(toString weekday, span), (mem_served wellFormed).mpr ⟨weekday, isEntry, rfl⟩, ?_⟩
      dsimp only
      rw [integerOf_toString (wellFormed.inWeek _ (wellFormed.exceptions _ isEntry).1),
        Option.map_some]
  rw [isForm]
  refine ⟨wellFormed.sorted, fun weekday => ?_, rfl, rfl,
    fun weekday span => ⟨fun isRead => ?_, ?_⟩⟩
  · dsimp only
    rw [List.mem_map]
    exact exists_congr fun number => and_congr_right fun _ => eq_comm
  · have isEntry := SortedMap.get?_eq_some_iff.mp isRead
    refine ⟨List.mem_map.mpr ⟨weekday, (wellFormed.exceptions _ isEntry).1, rfl⟩, ?_⟩
    refine SortedMap.get?_ofList_of_unique (read.mpr ⟨weekday, span, isEntry, rfl⟩)
      fun other isOther => ?_
    obtain ⟨otherDay, otherSpan, isOtherEntry, same⟩ := read.mp isOther
    obtain ⟨sameDay, rfl⟩ := Prod.mk.inj same
    cases Int.natCast_inj.mp sameDay
    cases (SortedMap.get?_eq_some_iff.mpr isOtherEntry).symm.trans isRead
    rfl
  · rintro ⟨-, areHours⟩
    obtain ⟨otherDay, otherSpan, isEntry, same⟩ :=
      read.mp (SortedMap.mem_of_mem_ofList (SortedMap.get?_eq_some_iff.mp areHours))
    obtain ⟨sameDay, sameSpan⟩ := Prod.mk.inj same
    cases Int.natCast_inj.mp sameDay
    cases span
    cases otherSpan
    cases sameSpan
    exact SortedMap.get?_eq_some_iff.mpr isEntry

theorem Shows.sendable {form : WorkingDayForm} (shows : Shows form day)
    (wellFormed : WellFormed day) :
    (∀ day ∈ form.days, 1 ≤ day ∧ day ≤ 7) ∧ workingDayTrouble form = none := by
  refine ⟨fun weekday isTicked => ?_, workingDayTrouble_eq_none_iff.mpr ⟨fun none => ?_, ?_, ?_⟩⟩
  · obtain ⟨number, inDays, rfl⟩ := (shows.days weekday).mp isTicked
    have inWeek := wellFormed.inWeek number inDays
    unfold monday sunday at inWeek
    omega
  · obtain ⟨number, rest, isDay⟩ := List.exists_cons_of_ne_nil wellFormed.nonempty
    have isTicked := (shows.days number).mpr ⟨number, isDay ▸ List.mem_cons_self, rfl⟩
    rw [none] at isTicked
    exact List.not_mem_nil isTicked
  · rw [← shows.startsAt, ← shows.endsAt]
    exact wellFormed.hours
  · intro weekday isTicked hours areHours
    obtain ⟨number, -, rfl⟩ := (shows.days weekday).mp isTicked
    have isRead := (shows.exceptions number ⟨hours.startsAt, hours.endsAt⟩).mpr ⟨isTicked, areHours⟩
    exact (wellFormed.exceptions _ (SortedMap.get?_eq_some_iff.mp isRead)).2

/-- The working-day form and the Gateway agree: what the form lets through is set as it is shown,
and a working day that is served and saved untouched is set again. -/
theorem form_agrees : FormAgrees where
  sets _ inWeek sendable := exists_shown inWeek sendable
  untouched journal recorded day isServed := by
    have wellFormed := wellFormed_of_recorded recorded isServed
    have served : (workingDayJson (workingDayState journal)).day = some (dayJson day) := by
      unfold workingDayJson
      rw [isServed, Option.map_some]
    have shows := shows_workingDayForm wellFormed served
    obtain ⟨inWeek, sendable⟩ := shows.sendable wellFormed
    obtain ⟨set, isSet, showsToo⟩ := exists_shown inWeek sendable
    rw [isSet, showsToo.unique shows]
  saved journal recorded day isServed occurredAt actor :=
    (workingDayState_record journal (.set day none) occurredAt actor).trans
      (day_row (wellFormed_of_recorded recorded isServed) occurredAt actor none)

end Twalk.WorkingDays
