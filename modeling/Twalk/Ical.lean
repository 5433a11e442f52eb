/-
This file models the reading of an iCalendar resource in `collector/src/caldav.rs`:
unfolding, content lines, and the master VEVENT reduced to what the contract
publishes, before any consent rule is applied to the people in it. Dates, clock
times and the table of time zones are a calendar library's and are a parameter;
what the collector does around them is as the source has it.
-/

import Twalk.CollectorOwner

namespace Twalk.Collector

/-! ### Content lines -/

/-- The lines of a text, a folded line joined onto the one before it. -/
def unfold (ics : String) : List String :=
  (ics.toList.splitOn '\n').foldl (fun lines raw =>
    let raw := (raw.reverse.dropWhile (· == '\r')).reverse
    match raw, lines.getLast? with
    | ' ' :: rest, some last | '\t' :: rest, some last =>
      lines.dropLast ++ [last ++ String.ofList rest]
    | _, _ => lines ++ [String.ofList raw]) []

/-- The characters before and after the first colon outside quotes. -/
def splitHead (inQuotes : Bool) : List Char → Option (List Char × List Char)
  | [] => none
  | '"' :: rest => (splitHead (!inQuotes) rest).map fun (head, value) => ('"' :: head, value)
  | character :: rest =>
    if character = ':' ∧ inQuotes = false then some ([], rest)
    else (splitHead inQuotes rest).map fun (head, value) => (character :: head, value)

def splitUnquoted (separator : Char) (inQuotes : Bool) (current : List Char) :
    List Char → List (List Char)
  | [] => [current]
  | character :: rest =>
    if character = '"' then splitUnquoted separator (!inQuotes) (current ++ ['"']) rest
    else if character = separator ∧ inQuotes = false then
      current :: splitUnquoted separator inQuotes [] rest
    else splitUnquoted separator inQuotes (current ++ [character]) rest

structure ContentLine where
  name : String
  params : List (String × String)
  value : String

namespace ContentLine

/-- A parameter, its value without the quotes around it; one without an equals sign is none. -/
def parseParam (part : List Char) : Option (String × String) :=
  match part.span (· != '=') with
  | (_, []) => none
  | (name, _ :: value) =>
    some (Text.toAsciiUppercase (String.ofList name),
      String.ofList ((value.dropWhile (· == '"')).reverse.dropWhile (· == '"')).reverse)

def parse (line : String) : Option ContentLine :=
  match splitHead false line.toList with
  | none => none
  | some (head, value) =>
    match splitUnquoted ';' false [] head with
    | [] => none
    | name :: parts =>
      some ⟨Text.toAsciiUppercase (String.ofList name), parts.filterMap parseParam,
        String.ofList value⟩

def param (line : ContentLine) (name : String) : Option String :=
  (line.params.find? fun candidate => candidate.1 == name).map Prod.snd

/-- A DATE rather than a DATE-TIME: said by `VALUE=DATE`, or by the eight-digit shape. -/
def isDate (line : ContentLine) : Bool :=
  line.param "VALUE" == some "DATE" || line.value.utf8ByteSize == 8

end ContentLine

/-- RFC 5545 escapes, back to their characters. -/
def unescape : List Char → List Char
  | [] => []
  | '\\' :: 'n' :: rest | '\\' :: 'N' :: rest => '\n' :: unescape rest
  | '\\' :: other :: rest => other :: unescape rest
  | ['\\'] => []
  | character :: rest => character :: unescape rest

def unescapeText (text : String) : String := String.ofList (unescape text.toList)

/-- A `mailto:` value, lower-cased, or nothing for any other URI. The source compares the first
seven bytes by a slice, so it returns on no value whose seventh byte is inside a character. -/
def mailtoOf (value : String) : Option String :=
  match Text.stripAsciiCase "mailto:" (Text.trim value) with
  | none => none
  | some rest =>
    let address := Text.trim rest
    if address.toList.contains '@' then some ("mailto:" ++ Text.toAsciiLowercase address) else none

/-! ### Times -/

/-- Why the zone of a time cannot be placed: its name, and whether it is a Windows one. -/
structure Unplaceable where
  tzid : String
  windows : Bool
deriving DecidableEq, Repr

/-- Why one calendar resource was read and not published. -/
inductive Refused where
  | zone (unplaceable : Unplaceable)
  | unreadable
deriving DecidableEq, Repr

/-- What is asked of a calendar library: dates and local times, their reading and writing, the
addition of seconds, and the table of the zones. -/
structure Chrono where
  Date : Type
  Local : Type
  parseDate : String → Option Date
  parseLocal : String → Option Local
  addDate : Date → Int → Date
  addLocal : Local → Int → Local
  renderDate : Date → String
  renderLocal : Local → String
  readZone : String → Option String
  isWindows : String → Bool
  renderZoned : Local → String → Option String

variable (chrono : Chrono)

inductive Moment where
  | date (date : chrono.Date)
  | zoned (time : chrono.Local) (zone : String)
  | utc (time : chrono.Local)

namespace Moment

def place (name : String) : Except Refused String :=
  match chrono.readZone name with
  | some zone => .ok zone
  | none => .error (.zone ⟨Text.trim name, chrono.isWindows (Text.trim name)⟩)

def readable {Value : Type} (read : Option Value) : Except Refused Value :=
  match read with
  | some value => .ok value
  | none => .error .unreadable

def parse (value : String) (tzid : Option String) (allDay : Bool) :
    Except Refused (Moment chrono) := do
  let value := Text.trim value
  if allDay then
    return date (← readable (chrono.parseDate value))
  else if value.toList.getLast? = some 'Z' then
    return utc (← readable (chrono.parseLocal (String.ofList value.toList.dropLast)))
  else
    let time ← readable (chrono.parseLocal value)
    match tzid with
    | some tzid => return zoned time (← place chrono tzid)
    | none => return utc time

variable {chrono}

def plus (moment : Moment chrono) (seconds : Int) : Moment chrono :=
  match moment with
  | date day => date (chrono.addDate day seconds)
  | zoned time zone => zoned (chrono.addLocal time seconds) zone
  | utc time => utc (chrono.addLocal time seconds)

def render (moment : Moment chrono) : String :=
  match moment with
  | date day => chrono.renderDate day
  | zoned time zone => (chrono.renderZoned time zone).getD (chrono.renderLocal time ++ "Z")
  | utc time => chrono.renderLocal time ++ "Z"

def timezone (moment : Moment chrono) : Option String :=
  match moment with
  | zoned _ zone => some zone
  | date _ | utc _ => none

end Moment

def digitsValue (digits : List Char) : Nat :=
  digits.foldl (fun count digit => count * 10 + (digit.toNat - '0'.toNat)) 0

/-- How many seconds one of a unit is, before and after the `T`. -/
def unitSeconds (unit : Char) (inTime : Bool) : Option Int :=
  match unit, inTime with
  | 'W', false => some (7 * 86400)
  | 'D', false => some 86400
  | 'H', true => some 3600
  | 'M', true => some 60
  | 'S', true => some 1
  | _, _ => none

def durationUnits (total : Int) (number : List Char) (inTime : Bool) : List Char → Option Int
  | [] => if number.isEmpty then some total else none
  | character :: rest =>
    if character.isDigit then durationUnits total (number ++ [character]) inTime rest
    else if character = 'T' then durationUnits total number true rest
    else if number.isEmpty ∨ 2 ^ 63 ≤ digitsValue number then none
    else
      match unitSeconds character inTime with
      | none => none
      | some seconds => durationUnits (total + digitsValue number * seconds) [] inTime rest

/-- `P1DT2H30M`, `PT15M`, `P2W`, with an optional sign, in seconds. -/
def parseDuration (value : String) : Option Int :=
  match (Text.trim value).toList with
  | '-' :: 'P' :: rest => (durationUnits 0 [] false rest).map fun total => -total
  | '+' :: 'P' :: rest => durationUnits 0 [] false rest
  | 'P' :: rest => durationUnits 0 [] false rest
  | _ => none

/-! ### The event -/

/-- A person on an event: `mailto:` and the CN, when the source gave one. -/
structure Person where
  identity : String
  name : Option String
deriving DecidableEq, Repr

structure Participant where
  identity : String
  name : Option String
  role : String
  partstat : String
deriving DecidableEq, Repr

/-- A VEVENT, reduced to what the contract publishes. -/
structure Vevent where
  uid : String
  title : String
  location : Option String
  start : String
  finish : String
  allDay : Bool
  timezone : Option String
  status : String
  recurrence : Option String
  organizer : Option Person
  participants : List Participant
deriving DecidableEq, Repr

def vevents (lines : List ContentLine) : List (List ContentLine) :=
  (lines.foldl (fun (read : List (List ContentLine) × Option (List ContentLine)) line =>
    match line.name, line.value, read with
    | "BEGIN", "VEVENT", (events, _) => (events, some [])
    | "END", "VEVENT", (events, some event) => (events ++ [event], none)
    | "END", "VEVENT", (events, none) => (events, none)
    | _, _, (events, current) => (events, current.map fun event => event ++ [line])) ([], none)).1

def master (events : List (List ContentLine)) : Option (List ContentLine) :=
  (events.find? fun event => !event.any fun line => line.name == "RECURRENCE-ID").or events.head?

def property (event : List ContentLine) (name : String) : Option ContentLine :=
  event.find? fun line => line.name == name

def statusOf (event : List ContentLine) : String :=
  match (property event "STATUS").map fun line => Text.toAsciiUppercase line.value with
  | some "TENTATIVE" => "tentative"
  | some "CANCELLED" => "cancelled"
  | _ => "confirmed"

def roleOf (line : ContentLine) : String :=
  match (line.param "ROLE").map Text.toAsciiUppercase with
  | some "CHAIR" => "chair"
  | some "OPT-PARTICIPANT" => "optional"
  | some "NON-PARTICIPANT" => "non-participant"
  | _ => "required"

def partstatOf (line : ContentLine) : String :=
  match (line.param "PARTSTAT").map Text.toAsciiUppercase with
  | some "ACCEPTED" => "accepted"
  | some "DECLINED" => "declined"
  | some "TENTATIVE" => "tentative"
  | some "DELEGATED" => "delegated"
  | _ => "needs-action"

def organizerOf (event : List ContentLine) : Option Person := do
  let line ← property event "ORGANIZER"
  let identity ← mailtoOf line.value
  return ⟨identity, (line.param "CN").map unescapeText⟩

/-- An attendee that is not a person by email is not a participant the contract can name. -/
def participantOf (line : ContentLine) : Option Participant := do
  let identity ← mailtoOf line.value
  return ⟨identity, (line.param "CN").map unescapeText, roleOf line, partstatOf line⟩

def participantsOf (event : List ContentLine) : List Participant :=
  (event.filter fun line => line.name == "ATTENDEE").filterMap participantOf

/-- When an event ends: at its DTEND, after its DURATION, a day after an all-day start, or at its
start. -/
def endOf (event : List ContentLine) (tzid : Option String) (allDay : Bool)
    (start : Moment chrono) : Except Refused (Moment chrono) :=
  match property event "DTEND", property event "DURATION" with
  | some dtend, _ => Moment.parse chrono dtend.value ((dtend.param "TZID").or tzid) dtend.isDate
  | none, some duration => do
    return start.plus (← Moment.readable (parseDuration duration.value))
  | none, none => .ok (if allDay then start.plus 86400 else start)

def parseVevent (ics : String) : Except Refused Vevent := do
  let event ← Moment.readable (master (vevents ((unfold ics).filterMap ContentLine.parse)))
  let uid ← Moment.readable
    (((property event "UID").map ContentLine.value).filter fun uid => uid != "")
  let dtstart ← Moment.readable (property event "DTSTART")
  let allDay := dtstart.isDate
  let tzid := (dtstart.param "TZID").filter fun _ => !allDay
  let start ← Moment.parse chrono dtstart.value tzid allDay
  let finish ← endOf chrono event tzid allDay start
  return {
    uid
    title := ((property event "SUMMARY").map fun line => unescapeText line.value).getD ""
    location := ((property event "LOCATION").map fun line =>
      Text.trim (unescapeText line.value)).filter fun location => location != ""
    start := start.render
    finish := finish.render
    allDay
    timezone := start.timezone
    status := statusOf event
    recurrence := ((property event "RRULE").map ContentLine.value).filter fun rule => rule != ""
    organizer := organizerOf event
    participants := participantsOf event }

/-! ### Identities -/

end Twalk.Collector
