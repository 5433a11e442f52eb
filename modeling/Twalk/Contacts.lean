/-
This file is who has written to the owner, `companion-gateway/src/contacts.rs`, and the table it
is kept in. Events are read in batches, a batch at a time is written and then acknowledged, and
what was not acknowledged is delivered again. A contact's row on a connection keeps the earliest and
the latest instant it was seen at, and the two are compared as texts.

The texts have fields of a fixed width and are in the order of the instants, so that neither the
order of the deliveries nor their number changes a row. An instant whose year in UTC has five digits
has no such text: an event that carries one is not refused, the reading of it panics, and with
it every batch it is delivered in is lost.
-/

import Twalk.Consent
import Twalk.Library.Chronology
import Twalk.Library.Fallible

namespace Twalk.Contacts

/-! ### Instants -/

/-- What reads the dates and times of events. An instant is in nanoseconds from the epoch. A text has
a year of four digits and an offset of less than 26 hours. -/
structure DateTimes where
  parse : String → Option Int
  earliest : ∀ {text instant}, parse text = some instant →
    (Rfc3339.firstDay - 2) * 86400000000000 ≤ instant

/-- The day of the calendar an instant is on in UTC. -/
def dateOf (instant : Int) : Rfc3339.Date := Rfc3339.dateOf (instant / 86400000000000)

def toUtc (instant : Int) : Option Int :=
  if -9999 ≤ (dateOf instant).year ∧ (dateOf instant).year ≤ 9999 then some instant else none

def paddedYear (year : Int) : List Char :=
  let sign := if year < 0 then ['-'] else []
  let digits := Nat.toDigits 10 year.natAbs
  sign ++ (List.replicate (4 - sign.length - digits.length) '0' ++ digits)

def spelling (instant : Int) : String :=
  let date := dateOf instant
  let second := (instant / 1000000000 % 86400).toNat
  String.ofList (paddedYear date.year ++ '-' :: (Rfc3339.padded 2 date.month ++ '-' ::
    (Rfc3339.padded 2 date.day ++ 'T' :: (Rfc3339.padded 2 (second / 3600) ++ ':' ::
      (Rfc3339.padded 2 (second / 60 % 60) ++ ':' :: (Rfc3339.padded 2 (second % 60) ++ '.' ::
        (Rfc3339.padded 3 (instant / 1000000 % 1000).toNat ++ ['Z'])))))))

/-! ### Reading an event -/

/-- What is read of an event. -/
structure InboundHeader where
  subject : String
  network : String
  connection : Option String
  time : String

structure Correspondent where
  contact : String
  connection : String
  network : Consent.Network
  seenAt : String

inductive NotASighting where
  | notAContact
  | unreadable (why : String)
  | unplaced (why : Unresolved)

section Reading

variable (times : DateTimes) (owner : Owner) (registry : Registry)

def canonicalInstant (raw : String) : Option (Option String) :=
  match times.parse raw with
  | none => some none
  | some instant => (toUtc instant).map fun utc => some (spelling utc)

/-- A sighting out of an event's header, or why it is none. Nothing is answered where the reading
panics. -/
def Correspondent.read (header : InboundHeader) : Option (Except NotASighting Correspondent) :=
  if owner.isOwner header.subject || header.subject == "" then some (.error .notAContact)
  else
    match Consent.Network.parse header.network with
    | none => some (.error (.unreadable
        ("the network " ++ Text.debug header.network ++ " is not the contract's")))
    | some network =>
      match registry.resolve header.connection network.asStr with
      | .error why => some (.error (.unplaced why))
      | .ok placed =>
        (canonicalInstant times header.time).map fun
          | none => .error (.unreadable
              ("the time " ++ Text.debug header.time ++ " is not RFC 3339"))
          | some seenAt => .ok ⟨header.subject, placed.id, network, seenAt⟩

/-! ### The table -/

/-- The table, whose key is a contact and a connection, with what was first and last seen. -/
abbrev Rows := String × String → Option (String × String)

/-- Nobody was seen. -/
def Rows.empty : Rows := fun _ => none

/-- A sighting moves the first instant only to an earlier and the last only to a later one. -/
def observeContact (rows : Rows) (seen : Correspondent) : Rows := fun key =>
  if key = (seen.contact, seen.connection) then
    match rows key with
    | none => some (seen.seenAt, seen.seenAt)
    | some (first, last) => some (if seen.seenAt < first then seen.seenAt else first,
        if last < seen.seenAt then seen.seenAt else last)
  else rows key

def observeContacts (rows : Rows) (sightings : List Correspondent) : Rows :=
  sightings.foldl observeContact rows

/-- An event that was delivered, as far as it can be read at all. -/
abbrev Event := Option InboundHeader

def sighting (event : Event) : Option (Option Correspondent) :=
  match event with
  | none => some none
  | some header => (Correspondent.read times owner registry header).map Except.toOption

/-- One batch is read, and then written as a whole. -/
def drain (rows : Rows) (batch : List Event) : Option Rows := do
  let sightings ← batch.mapM (sighting times owner registry)
  return observeContacts rows (sightings.filterMap id)

def project (deliveries : List (List Event)) : Option Rows :=
  deliveries.foldlM (drain times owner registry) Rows.empty

end Reading

end Twalk.Contacts
