/-
This file models what the consent screen draws, `companion/src/lib/consent/model.ts`: it joins the
current state the Gateway serves with the contacts that wait for a decision, and works out again
what applies to each contact on each connection. The Gateway leaves out of the second list whoever
a default covers, and the first names only contacts with a decision of their own, so a contact who
was observed on a connection that has a default is in neither.
-/

import Twalk.ConsentState
import Twalk.Library.Choice

namespace Twalk

open Consent Store

namespace Screen

/-! ### What the screen is given -/

/-- What made a row's state apply. -/
inductive DecidedBy where
  | contact
  | network
  | nothing
deriving DecidableEq, Repr

/-- How a row's label was arrived at. -/
inductive LabelSource where
  | displayName
  | matrixId
deriving DecidableEq, Repr

structure PendingContact where
  contact : String
  connection : String
  network : Network
  firstSeen : String
  lastSeen : String
  waiting : Option Nat
deriving DecidableEq, Repr

/-- What a contact is called, as far as the bus still carries it. -/
structure DisplayName where
  contact : String
  displayName : Option String
deriving DecidableEq, Repr

structure Inputs where
  pending : List PendingContact
  entries : List Entry
  names : List DisplayName
  owner : Option String
  connections : List Connection

structure Row where
  contact : String
  connection : String
  connectionLabel : Option String
  network : Network
  state : State
  decidedBy : DecidedBy
  label : String
  labelSource : LabelSource
  firstSeen : Option String
  lastSeen : Option String
  waiting : Option Nat
  overridesNetwork : Bool
  networkDefault : Option State
  isOwner : Bool
deriving DecidableEq, Repr

def Row.pair (row : Row) : String × String := (row.contact, row.connection)

/-- `pending_json`: the contacts that wait, with how many of the messages of each a grant would
answer, when that could be counted. -/
def pendingAnswer (counted : Option (String → String → Nat)) (contacts : List SeenContact) :
    List PendingContact :=
  contacts.map fun seen => {
    contact := seen.contact
    connection := seen.connection
    network := seen.network
    firstSeen := seen.firstSeen
    lastSeen := seen.lastSeen
    waiting := counted.map fun count => count seen.contact seen.connection }

/-! ### The rows -/

/-- A character that no connection id contains. -/
def separator : Char := Char.ofNat 0

def key (contact connection : String) : String :=
  String.ofList (contact.toList ++ separator :: connection.toList)

/-- The two parts of a key, cut at its last separator. -/
def unkey (place : String) : String × String :=
  let back := place.toList.reverse
  (String.ofList ((back.dropWhile (· ≠ separator)).drop 1).reverse,
    String.ofList (back.takeWhile (· ≠ separator)).reverse)

/-- What `String.prototype.trim` takes off. -/
def isSpace (character : Char) : Bool :=
  character.toNat ∈ [9, 10, 11, 12, 13, 32, 160, 5760, 8232, 8233, 8239, 8287, 12288, 65279] ||
    (8192 ≤ character.toNat && character.toNat ≤ 8202)

def trim (text : String) : String :=
  String.ofList ((text.toList.dropWhile isSpace).reverse.dropWhile isSpace).reverse

def connectionDefaults (entries : List Entry) (connection : String) : Option State :=
  (latest (fun entry => entry.subject.kind == .network && entry.connection == connection)
    entries).map Entry.state

def named (names : List DisplayName) (contact : String) : Option String :=
  (latest (fun entry => entry.contact == contact &&
    (entry.displayName.any fun name => trim name != "")) names).bind fun entry =>
      entry.displayName.map trim

def decided (entries : List Entry) (place : String) : Option Entry :=
  latest (fun entry => entry.subject.kind == .contact &&
    key entry.subject.id entry.connection == place) entries

def sighted (pending : List PendingContact) (place : String) : Option PendingContact :=
  latest (fun sighting => key sighting.contact sighting.connection == place) pending

def seen (inputs : Inputs) : List String :=
  keepFirst (((inputs.entries.filter fun entry => entry.subject.kind == .contact).map fun entry =>
      key entry.subject.id entry.connection) ++
    inputs.pending.map fun sighting => key sighting.contact sighting.connection)

/-- The account's label, when its kind has more than one. -/
def labelFor (registered : Connection) (siblings : List Connection) : Option String :=
  if siblings.length > 1 then some registered.label else none

def rowOf (inputs : Inputs) (place : String) : Option Row :=
  let contact := (unkey place).1
  let connection := (unkey place).2
  let own := decided inputs.entries place
  let sighting := sighted inputs.pending place
  ((own.map Entry.network).or (sighting.map PendingContact.network)).map fun network =>
    let networkDefault := connectionDefaults inputs.entries connection
    let name := named inputs.names contact
    let siblings := inputs.connections.filter fun candidate => candidate.kind == network.asStr
    let registered := siblings.find? fun candidate => candidate.id == connection
    { contact := contact
      connection := connection
      connectionLabel := registered.bind fun found => labelFor found siblings
      network := network
      state := ((own.map Entry.state).or networkDefault).getD .pending
      decidedBy := if own.isSome then .contact
        else if networkDefault.isSome then .network else .nothing
      label := name.getD contact
      labelSource := if name.isSome then .displayName else .matrixId
      firstSeen := sighting.map PendingContact.firstSeen
      lastSeen := sighting.map PendingContact.lastSeen
      waiting := sighting.bind PendingContact.waiting
      overridesNetwork := own.any fun entry => networkDefault.any fun state => entry.state != state
      networkDefault := networkDefault
      isOwner := inputs.owner == some contact }

/-- Whether a row waits for a first decision. -/
def awaiting (row : Row) : Bool := row.decidedBy == .nothing

section Order

variable (localeCompare : String → String → Ordering)

def order (left right : Row) : Ordering :=
  if awaiting left != awaiting right then if awaiting left then .lt else .gt
  else (localeCompare left.label right.label).then
    (localeCompare left.connection right.connection)

/-- Every contact the screen can decide about, with what is in force for each. -/
def toRows (inputs : Inputs) : List Row :=
  ((seen inputs).filterMap (rowOf inputs)).mergeSort fun left right =>
    (order localeCompare left right).isLE

end Order

def bulkDecisions (shown : List Row) (state : State) : List (String × String) :=
  ((shown.filter fun row => !row.isOwner).filter fun row =>
    !(row.decidedBy == .contact && row.state == state)).map Row.pair

end Screen

end Twalk
