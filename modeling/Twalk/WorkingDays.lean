/-
This file models the owner's working day as the Gateway keeps it, `companion-gateway/src/
working_day.rs` with its two functions of `companion-gateway/src/store.rs`. A body asks for days and
hours, or takes them back; what is asked for is a row of a journal, whose hours of single weekdays
are one column of text; and the working day is what the journal's last row says.
-/

import Twalk.Library.Fallible
import Twalk.Library.Json
import Twalk.Library.SortedMap
import Twalk.Library.Text
import Mathlib.Data.List.Sort
import Mathlib.Data.String.Basic

namespace Twalk.WorkingDays

/-! ### The working day -/

def monday : Nat := 1

def sunday : Nat := 7

/-- One day's hours. -/
structure Span where
  startsAt : String
  endsAt : String
deriving DecidableEq, Repr

structure WorkingDay where
  days : List Nat
  startsAt : String
  endsAt : String
  exceptions : SortedMap Nat Span

def WorkingDay.span (day : WorkingDay) (weekday : Nat) : String × String :=
  match day.exceptions.get? weekday with
  | some span => (span.startsAt, span.endsAt)
  | none => (day.startsAt, day.endsAt)

def isWallClock (value : String) : Bool :=
  match Text.splitOnce ':' value with
  | none => false
  | some (hours, minutes) =>
    let twoDigits : String → Bool := fun part =>
      part.utf8ByteSize = 2 && part.toList.all Char.isDigit
    if !twoDigits hours || !twoDigits minutes then false
    else
      match Text.parseUnsigned 256 hours, Text.parseUnsigned 256 minutes with
      | some hour, some minute => hour ≤ 23 && minute ≤ 59
      | _, _ => false

/-- An ISO weekday, in whatever spelling an integer of eight bits is read from. -/
def weekdayOf (text : String) : Option Nat :=
  (Text.parseUnsigned 256 (Text.trim text)).filter fun weekday =>
    monday ≤ weekday && weekday ≤ sunday

/-! ### The column of the exceptions -/

def entryText (entry : Nat × Span) : String :=
  toString entry.1 ++ "=" ++ entry.2.startsAt ++ "-" ++ entry.2.endsAt

def exceptionsColumn (exceptions : SortedMap Nat Span) : Option String :=
  if exceptions.entries.isEmpty then none
  else some (",".intercalate (exceptions.entries.map entryText))

/-- One entry of the column, when every rule of the write path holds of it. -/
def entryOf (entry : String) : Option (Nat × Span) := do
  let (weekday, hours) ← Text.splitOnce '=' (Text.trim entry)
  let weekday ← weekdayOf weekday
  let (startsAt, endsAt) ← Text.splitOnce '-' (Text.trim hours)
  if isWallClock startsAt ∧ isWallClock endsAt ∧ startsAt < endsAt then
    some (weekday, ⟨startsAt, endsAt⟩)
  else none

def exceptionsFromColumn (column : Option String) : SortedMap Nat Span :=
  match column with
  | none => SortedMap.empty
  | some column => SortedMap.ofList ((Text.split ',' column).filterMap entryOf)

/-! ### What a body asks for -/

inductive Update where
  | set (day : WorkingDay) (reason : Option String)
  | clear (reason : Option String)

/-- Why a body was refused. A value that is refused is kept as it was given, and hours that are not
the default's are kept with the weekday they are of. -/
inductive Invalid where
  | notJson
  | notAnObject
  | reasonNotText
  | reason (length : Nat)
  | noDays
  | notAWeekday (given : Json)
  | emptyDays
  | noTime (weekday : Option Nat) (name : String)
  | notAClock (weekday : Option Nat) (name value : String)
  | order (weekday : Option Nat) (startsAt endsAt : String)
  | exceptionKey (given : String)
  | exceptionDay (weekday : Nat)
  | exceptionHours (weekday : Nat)
  | exceptionsNotAMap

def Invalid.code : Invalid → String
  | notJson | notAnObject | reasonNotText => "invalid_request"
  | reason _ => "working_day_reason_too_long"
  | noDays | notAWeekday _ | emptyDays => "working_day_days_invalid"
  | noTime _ _ | notAClock _ _ _ => "working_day_time_invalid"
  | order _ _ _ => "working_day_order_invalid"
  | exceptionKey _ | exceptionDay _ | exceptionHours _ | exceptionsNotAMap =>
    "working_day_exception_invalid"

def maxReasonChars : Nat := 1024

/-- The members of an object as a parser of JSON keeps them: by name, and of the members of one name
the last. -/
abbrev Members := SortedMap String Json

def membersOf : Json → Option Members
  | .object given => some (SortedMap.ofList given)
  | _ => none

def reasonOf (object : Members) : Except Invalid (Option String) :=
  match object.get? "reason" with
  | none | some .null => .ok none
  | some (.string reason) =>
    let reason := Text.trim reason
    if maxReasonChars < Text.count reason then .error (.reason (Text.count reason))
    else .ok (if reason = "" then none else some reason)
  | some _ => .error .reasonNotText

def weekdayOfItem (item : Json) : Except Invalid Nat :=
  match item.asNat with
  | some day => if monday ≤ day ∧ day ≤ sunday then .ok day else .error (.notAWeekday item)
  | none => .error (.notAWeekday item)

def weekdaysOf (items : List Json) : Except Invalid (List Nat) :=
  items.foldlM (fun parsed item => do
    let day ← weekdayOfItem item
    return if parsed.contains day then parsed else parsed ++ [day]) []

def daysOf (object : Members) : Except Invalid (List Nat) :=
  match (object.get? "days").bind Json.asArray with
  | none => .error .noDays
  | some items => do
    let parsed ← weekdaysOf items
    if parsed.isEmpty then .error .emptyDays else .ok (parsed.insertionSort (· ≤ ·))

def timeOf (hours : Members) (weekday : Option Nat) (name : String) : Except Invalid String :=
  match (hours.get? name).bind Json.asStr with
  | none => .error (.noTime weekday name)
  | some value =>
    if isWallClock (Text.trim value) then .ok (Text.trim value)
    else .error (.notAClock weekday name (Text.trim value))

def spanOf (hours : Members) (weekday : Option Nat) : Except Invalid Span := do
  let startsAt ← timeOf hours weekday "starts_at"
  let endsAt ← timeOf hours weekday "ends_at"
  if endsAt ≤ startsAt then .error (.order weekday startsAt endsAt) else .ok ⟨startsAt, endsAt⟩

def exceptionOf (days : List Nat) (key : String) (hours : Json) : Except Invalid (Nat × Span) :=
  match weekdayOf key with
  | none => .error (.exceptionKey key)
  | some weekday =>
    if !days.contains weekday then .error (.exceptionDay weekday)
    else
      match membersOf hours with
      | none => .error (.exceptionHours weekday)
      | some hours => do
        let span ← spanOf hours (some weekday)
        return (weekday, span)

def exceptionsOf (object : Members) (days : List Nat) : Except Invalid (SortedMap Nat Span) :=
  match object.get? "exceptions" with
  | none | some .null => .ok SortedMap.empty
  | some (.object given) =>
    (SortedMap.ofList given).entries.foldlM (fun exceptions entry => do
      let (weekday, span) ← exceptionOf days entry.1 entry.2
      return exceptions.insert weekday span) SortedMap.empty
  | some _ => .error .exceptionsNotAMap

def parseUpdate (body : Option Json) : Except Invalid Update :=
  match body with
  | none => .error .notJson
  | some document =>
    match membersOf document with
    | none => .error .notAnObject
    | some object => do
      let reason ← reasonOf object
      match object.get? "days" with
      | some .null => return .clear reason
      | _ =>
        let days ← daysOf object
        let span ← spanOf object none
        let exceptions ← exceptionsOf object days
        return .set ⟨days, span.startsAt, span.endsAt, exceptions⟩ reason

/-! ### The journal -/

/-- A row of `working_day_decision`. -/
structure Row where
  newState : String
  days : Option String
  startsAt : Option String
  endsAt : Option String
  exceptions : Option String
  occurredAt : String
  actor : String
  reason : Option String

structure State where
  day : Option WorkingDay
  since : Option String
  actor : Option String
  reason : Option String

def Update.row (update : Update) (occurredAt actor : String) : Row :=
  match update with
  | .set day reason => ⟨"set", some (",".intercalate (day.days.map toString)), some day.startsAt,
      some day.endsAt, exceptionsColumn day.exceptions, occurredAt, actor, reason⟩
  | .clear reason => ⟨"cleared", none, none, none, none, occurredAt, actor, reason⟩

def Row.day (row : Row) : Option WorkingDay :=
  if row.newState = "set" then
    match row.days, row.startsAt, row.endsAt with
    | some days, some startsAt, some endsAt =>
      let days := (Text.split ',' days).filterMap fun day =>
        Text.parseUnsigned 256 (Text.trim day)
      if days.isEmpty then none
      else some ⟨days, startsAt, endsAt, exceptionsFromColumn row.exceptions⟩
    | _, _, _ => none
  else none

def workingDayState (journal : List Row) : State :=
  match journal.getLast? with
  | none => ⟨none, none, none, none⟩
  | some row => ⟨row.day, some row.occurredAt, some row.actor, row.reason⟩

def recordWorkingDayDecision (journal : List Row) (update : Update) (occurredAt actor : String) :
    List Row × State :=
  let journal := journal ++ [update.row occurredAt actor]
  (journal, workingDayState journal)

end Twalk.WorkingDays
