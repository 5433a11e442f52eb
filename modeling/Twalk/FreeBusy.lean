/-
This file models the free/busy read of `collector/src/freebusy.rs`: busy periods merged over any
number of calendars, the free gaps of a window, and the owner's working day those gaps are clipped
by. An instant is a number of nanoseconds from the epoch, and everything the collector answers is
written at whole seconds. A time zone is the offset it has at each second; its table is a library's,
and what the library answers for a local time is the earliest instant that shows it.
-/

import Twalk.Library.Intervals
import Twalk.Library.Rfc3339
import Twalk.Library.Text

namespace Twalk.Collector.FreeBusy

/-! ### Instants and their texts -/

def second : Int := 1000000000

def yearText (year : Int) : List Char :=
  if 0 ≤ year ∧ year < 10000 then Rfc3339.padded 4 year.toNat
  else
    let digits := Nat.toDigits 10 year.natAbs
    (if year < 0 then '-' else '+') :: (List.replicate (4 - digits.length) '0' ++ digits)

/-- `%Y-%m-%dT%H:%M:%S` of a number of seconds, and what comes after it. -/
def dateTimeText (seconds : Int) (zone : List Char) : List Char :=
  let date := Rfc3339.dateOf (seconds / 86400)
  let inDay := (seconds % 86400).toNat
  yearText date.year ++ '-' :: (Rfc3339.padded 2 date.month ++ '-' ::
    (Rfc3339.padded 2 date.day ++ 'T' :: (Rfc3339.padded 2 (inDay / 3600) ++ ':' ::
      (Rfc3339.padded 2 (inDay / 60 % 60) ++ ':' :: (Rfc3339.padded 2 (inDay % 60) ++ zone)))))

def rfc3339 (instant : Int) : String := String.ofList (dateTimeText (instant / second) ['Z'])

/-! ### Busy intervals -/

/-- When a read starts and when it ends: `from` and `to`. -/
abbrev Window : Type := Interval Int

structure Busy where
  start : String
  finish : String
deriving DecidableEq, Repr

/-- The instants between two, as their texts are read again. -/
def between (start finish : String) : Option (Interval Int) := do
  return ⟨← Rfc3339.read start, ← Rfc3339.read finish⟩

def Busy.interval (busy : Busy) : Option (Interval Int) := between busy.start busy.finish

/-- Periods from any number of calendars, clipped to the window, sorted and merged where they touch
or overlap. -/
def merge (periods : List (Interval Int)) (window : Window) : List Busy :=
  (Interval.coalesce window periods).map fun interval =>
    ⟨rfc3339 interval.start, rfc3339 interval.stop⟩

def mergeAnswers (answers : List (List Busy)) (window : Window) : List Busy :=
  merge (answers.flatten.filterMap Busy.interval) window

/-! ### Zones -/

structure Zone where
  offsetAt : Int → Int
  offsets : List Int
  offset_mem : ∀ seconds, offsetAt seconds ∈ offsets
  bounded : ∀ seconds, (offsetAt seconds).natAbs < 86400

namespace Zone

def clock (zone : Zone) (seconds : Int) : Int := seconds + zone.offsetAt seconds

/-- The first second that shows a local time, when one does. -/
def earliest (zone : Zone) (wall : Int) : Option Int :=
  ((zone.offsets.map fun offset => wall - offset).filter fun seconds =>
    zone.clock seconds = wall).min?

/-- `%:z` of an offset: hours and minutes, rounded to the nearest minute. -/
def offsetText (offset : Int) : List Char :=
  let minutes := (offset.natAbs + 30) / 60
  (if offset < 0 then '-' else '+') ::
    (Rfc3339.padded 2 (minutes / 60) ++ ':' :: Rfc3339.padded 2 (minutes % 60))

/-- `%Y-%m-%dT%H:%M:%S%:z` of an instant in a zone. -/
def localText (zone : Zone) (instant : Int) : String :=
  String.ofList (dateTimeText (zone.clock (instant / second))
    (offsetText (zone.offsetAt (instant / second))))

def date (zone : Zone) (instant : Int) : Int := zone.clock (instant / second) / 86400

end Zone

/-- The ISO weekday of a day's number. -/
def weekdayOfDate (date : Int) : Nat := ((date + 3) % 7).toNat + 1

/-! ### Free gaps -/

/-- A stretch of the window nothing occupies, in UTC and in the owner's own time. -/
structure Free where
  start : String
  finish : String
  startLocal : Option String
  finishLocal : Option String
  minutes : Int
deriving DecidableEq, Repr

def Free.interval (free : Free) : Option (Interval Int) := between free.start free.finish

def offer (zone : Option Zone) (stretch : Interval Int) : Option Free :=
  let minutes := (stretch.stop - stretch.start).tdiv (60 * second)
  if minutes ≤ 0 then none
  else some ⟨rfc3339 stretch.start, rfc3339 stretch.stop,
    zone.map fun zone => zone.localText stretch.start,
    zone.map fun zone => zone.localText stretch.stop, minutes⟩

/-! ### The working day -/

/-- One day's own hours. -/
structure Span where
  startsAt : String
  endsAt : String
deriving DecidableEq, Repr

structure WorkingDay where
  days : List Nat
  startsAt : String
  endsAt : String
  exceptions : List (Nat × Span)

namespace WorkingDay

def span (day : WorkingDay) (weekday : Nat) : Span :=
  (day.exceptions.lookup weekday).getD ⟨day.startsAt, day.endsAt⟩

/-- The minutes since midnight a wall clock names. -/
def minutes (value : String) : Option Nat := do
  let (hours, minutes) ← Text.splitOnce ':' value
  let hours ← Text.parseUnsigned 4294967296 hours
  let minutes ← Text.parseUnsigned 4294967296 minutes
  if hours < 24 ∧ minutes < 60 then some (hours * 60 + minutes) else none

/-- The hours of a weekday in minutes: its own when they are readable and end after they start, and
the default otherwise. -/
def hours (day : WorkingDay) (default : Nat × Nat) (weekday : Nat) : Nat × Nat :=
  let span := day.span weekday
  match minutes span.startsAt, minutes span.endsAt with
  | some opens, some closes => if opens < closes then (opens, closes) else default
  | _, _ => default

end WorkingDay

def onDate (day : WorkingDay) (default : Nat × Nat) (zone : Zone) (gap : Interval Int)
    (date : Int) : Option Free :=
  let weekday := weekdayOfDate date
  if weekday ∈ day.days then
    let hours := day.hours default weekday
    match zone.earliest (date * 86400 + hours.1 * 60),
      zone.earliest (date * 86400 + hours.2 * 60) with
    | some opens, some closes =>
      offer (some zone) ⟨max gap.start (opens * second), min gap.stop (closes * second)⟩
    | _, _ => none
  else none

/-- The days from one to another, both included. -/
def datesBetween (first last : Int) : List Int :=
  (List.range (last + 1 - first).toNat).map fun index : Nat => first + index

/-- The parts of each gap that fall inside the owner's working day. A day that cannot be read clips
nothing, and a gap that cannot be read is kept. -/
def within (gaps : List Free) (day : WorkingDay) (zone : Zone) : List Free :=
  match WorkingDay.minutes day.startsAt, WorkingDay.minutes day.endsAt with
  | some opens, some closes => gaps.flatMap fun gap =>
    match gap.interval with
    | none => [gap]
    | some interval =>
      (datesBetween (zone.date interval.start) (zone.date interval.stop)).filterMap
        (onDate day (opens, closes) zone interval)
  | _, _ => gaps

/-- The stretches of the window the busy intervals leave, in order, clipped by the working day when
there is one and the zone is known. Of an interval that cannot be read, no gap is answered. -/
def freeBetween (zones : String → Option Zone) (busy : List Busy) (window : Window)
    (zone : Option String) (workingDay : Option WorkingDay) : List Free :=
  let zone := zone.bind zones
  match busy.mapM Busy.interval with
  | none => []
  | some intervals =>
    let gaps := (Interval.stretches window.start window.stop intervals).filterMap (offer zone)
    match workingDay, zone with
    | some day, some zone => within gaps day zone
    | _, _ => gaps

end Twalk.Collector.FreeBusy
