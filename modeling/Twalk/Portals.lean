/-
This file models the portal register, after `companion-gateway/src/portals.rs`:
how a room's state is read into a portal, how replaced rooms are folded onto the
room that is alive, how the register decides whether an observation follows a
conversation to its successor, and how the user puts the Sensor into a room or
takes it out. What the homeserver answers to each request is an argument of the
call that makes the request.
-/

import Mathlib.Data.List.Basic
import Mathlib.Data.List.Infix
import Twalk.Library.Json
import Twalk.Library.Ledger
import Twalk.Library.Text

namespace Twalk.Register

open Std

/-! ### Portals -/

/-- Where the Sensor stands in one portal room. -/
inductive Observation where
  | observing
  | invited
  | absent
  | moved
deriving DecidableEq, Repr

def Observation.sensorIsInTheRoom : Observation → Bool
  | observing | invited => true
  | absent | moved => false

/-- Where the owner's own account stands in one portal room. -/
inductive OwnerMembership where
  | joined
  | invited
  | absent
deriving DecidableEq, Repr

def OwnerMembership.of (membership : String) : OwnerMembership :=
  if membership = "join" then joined else if membership = "invite" then invited else absent

structure Portal where
  roomId : String
  bridgeId : String
  network : String
  name : Option String
  networkConversationId : Option String
  members : Nat
  observation : Observation
  owner : Option OwnerMembership
  movedFrom : Option String
  unreadable : Option String
  replacedBy : Option String
deriving DecidableEq

structure PortalBridge where
  bridgeId : String
  network : String
  asToken : Option String
  botUserId : Option String

/-- The register's configuration. `journals` is whether the deployment has a store for moves. -/
structure Portals where
  sensorUserId : String
  owner : Option String
  bridges : List PortalBridge
  crowdThreshold : Nat
  journals : Bool

/-- The account every call about one bridge's portals is made as. -/
def PortalBridge.askingAs (bridge : PortalBridge) : Option String :=
  (bridge.botUserId.map Text.trim).filter (· ≠ "")

/-! ### Reading one room -/

def networkOfProtocol (protocolId : String) : Option String :=
  if protocolId ∈ ["whatsapp", "telegram", "signal", "discord", "sms"] then some protocolId
  else if protocolId = "discordgo" then some "discord"
  else if protocolId ∈ ["gmessages", "gmessages-sms", "gmessages-rcs"] then some "sms"
  else none

def botUserId (state : List Json) : Option String :=
  (state.filter fun event => event.textAt ["type"] = some "m.bridge").findSome? fun event =>
    event.textAt ["content", "bridgebot"]

/-- What the events of a room say about it. -/
structure Gathered where
  bridged : Bool
  network : Option String
  conversation : Option String
  name : Option String
  members : Nat
  observation : Observation
  owner : Option OwnerMembership
  replacedBy : Option String
  movedFrom : Option String

namespace Portals

/-- One membership: the Sensor's own, the owner's, or that of somebody who is counted unless it is
the bridge's bot. -/
def gatherMember (portals : Portals) (bridge : PortalBridge) (bot : Option String)
    (gathered : Gathered) (who membership : String) : Gathered :=
  if who = portals.sensorUserId then
    { gathered with
      observation :=
        if membership = "join" then .observing
        else if membership = "invite" then .invited
        else .absent }
  else
    let gathered :=
      if some who = portals.owner then
        { gathered with owner := some (OwnerMembership.of membership) }
      else gathered
    if membership ≠ "join" then gathered
    else if some who = bot ∨ some who = bridge.askingAs then gathered
    else { gathered with members := gathered.members + 1 }

def gather (portals : Portals) (bridge : PortalBridge) (bot : Option String)
    (gathered : Gathered) (event : Json) : Gathered :=
  let kind := event.textAt ["type"]
  if kind = some "m.bridge" then
    { gathered with
      bridged := true
      network := gathered.network.or
        ((event.textAt ["content", "protocol", "id"]).bind networkOfProtocol)
      conversation := gathered.conversation.or
        ((event.textAt ["content", "channel", "id"]).filter (· ≠ "")) }
  else if kind = some "m.room.tombstone" then
    { gathered with
      replacedBy := (event.textAt ["content", "replacement_room"]).filter (· ≠ "") }
  else if kind = some "m.room.create" then
    { gathered with
      movedFrom := (event.textAt ["content", "predecessor", "room_id"]).filter (· ≠ "") }
  else if kind = some "m.room.name" then
    { gathered with name := (event.textAt ["content", "name"]).filter (· ≠ "") }
  else if kind = some "m.room.member" then
    match event.textAt ["state_key"] with
    | some who =>
      portals.gatherMember bridge bot gathered who
        ((event.textAt ["content", "membership"]).getD "")
    | none => gathered
  else gathered

def portalOf (portals : Portals) (bridge : PortalBridge) (roomId : String) (state : List Json) :
    Option Portal :=
  let gathered := state.foldl (portals.gather bridge (botUserId state))
    { bridged := false, network := none, conversation := none, name := none, members := 0
      observation := .absent, owner := portals.owner.map fun _ => .absent, replacedBy := none
      movedFrom := none }
  if gathered.bridged then
    some
      { roomId
        bridgeId := bridge.bridgeId
        network := gathered.network.getD bridge.network
        name := gathered.name
        networkConversationId := gathered.conversation
        members := gathered.members
        observation := gathered.observation
        owner := gathered.owner
        movedFrom := gathered.movedFrom
        unreadable := none
        replacedBy := gathered.replacedBy }
  else none

end Portals

/-! ### Folding the rooms that were replaced -/

/-- The rooms by their ids. Of two readings of one room the later one stands. -/
def byRoom (portals : List Portal) : TreeMap String Portal :=
  portals.foldl (fun rooms portal => rooms.insert portal.roomId portal) ∅

/-- How many replacements one conversation may have been through before the walk stops. -/
def maxHops : Nat := 32

/-- The walk from a room to the last one its tombstones name: the last room that was read, and the
id the chain ends at. -/
def walk (rooms : TreeMap String Portal) : Nat → Portal → Portal × String
  | hops, portal =>
    match portal.replacedBy with
    | none => (portal, portal.roomId)
    | some next =>
      match hops with
      | 0 => (portal, portal.roomId)
      | hops + 1 =>
        match rooms[next]? with
        | some further => walk rooms hops further
        | none => (portal, next)

def inTheDark (predecessor : Portal) (successor : String) (botRooms : List String) : Portal where
  roomId := successor
  bridgeId := predecessor.bridgeId
  network := predecessor.network
  name := predecessor.name
  networkConversationId := predecessor.networkConversationId
  members := predecessor.members
  observation := .absent
  owner := none
  movedFrom := none
  unreadable := some <|
    if successor ∈ botRooms then
      "this conversation's room was replaced, and the bridge is in the new room but has not " ++
        "marked it as a portal yet: the name and count are the old room's until it does"
    else
      "this conversation's room was replaced, and the bridge bot is not in the new room, so it " ++
        "cannot be read: what is known about it is what the old room's tombstone says"
  replacedBy := none

def foldAlive (folded : TreeMap String Portal) (portal : Portal) : TreeMap String Portal :=
  folded.insert portal.roomId <|
    match folded[portal.roomId]? with
    | none => portal
    | some fromTombstone =>
      { portal with
        movedFrom := fromTombstone.movedFrom.or portal.movedFrom
        observation :=
          if portal.observation.sensorIsInTheRoom then portal.observation
          else fromTombstone.observation
        unreadable := none }

def foldDead (rooms : TreeMap String Portal) (botRooms : List String)
    (folded : TreeMap String Portal) (portal : Portal) : TreeMap String Portal :=
  let ending := walk rooms maxHops portal
  let row := folded[ending.2]?.getD
    (rooms[ending.2]?.getD (inTheDark ending.1 ending.2 botRooms))
  folded.insert ending.2
    { row with
      movedFrom := row.movedFrom.or (some ending.1.roomId)
      observation :=
        if portal.observation.sensorIsInTheRoom ∧ ¬row.observation.sensorIsInTheRoom then .moved
        else row.observation }

def foldRoom (rooms : TreeMap String Portal) (botRooms : List String)
    (folded : TreeMap String Portal) (portal : Portal) : TreeMap String Portal :=
  if portal.replacedBy.isNone then foldAlive folded portal else foldDead rooms botRooms folded portal

def foldRooms (portals : List Portal) (botRooms : List String) : TreeMap String Portal :=
  ((byRoom portals).toList.map Prod.snd).foldl (foldRoom (byRoom portals) botRooms) ∅

/-- Follows every tombstone to the room that is alive, so that a conversation whose room was
replaced appears once, at its successor. -/
def foldTombstones (portals : List Portal) (botRooms : List String) : List Portal :=
  (foldRooms portals botRooms).toList.map Prod.snd

/-! ### The journal of moves -/

structure PortalMove where
  successor : String
  predecessor : String
  bridgeId : String
  members : Nat
  crowdThreshold : Nat
  followed : Bool
  decidedAt : String

def recordPortalMove (journal : TreeMap String PortalMove) (move : PortalMove) :
    TreeMap String PortalMove :=
  journal.insertIfNew move.successor move

/-! ### Asking the homeserver -/

/-- What the homeserver answers to an invitation or a removal: it does it, it refuses with a
sentence, or the request does not reach it. -/
inductive Response where
  | done
  | refused (detail : String)
  | unreachable (reason : String)
deriving DecidableEq

/-- What happened to one room of an observation request. -/
inductive OutcomeStatus where
  | invited
  | alreadyObserved
  | removed
  | notObserved
  | unknownPortal
  | failed (reason : String)
deriving DecidableEq

/-- The `M_...` code out of the homeserver's sentence. -/
def errcodeOf (detail : String) : String :=
  (((detail.toList.splitOnP Text.isWhiteSpace).map String.ofList).find? fun word =>
    "M_".toList.isPrefixOf word.toList).getD "unreachable"

def invite (portal : Portal) (response : Response) : OutcomeStatus :=
  if portal.observation.sensorIsInTheRoom then .alreadyObserved
  else
    match response with
    | .done => .invited
    | .refused detail =>
      if "already in the room".toList <:+: detail.toList then .alreadyObserved
      else .failed (errcodeOf detail)
    | .unreachable reason => .failed reason

def remove (portal : Portal) (response : Response) : OutcomeStatus :=
  if portal.observation.sensorIsInTheRoom then
    match response with
    | .done => .removed
    | .refused detail => .failed (errcodeOf detail)
    | .unreachable reason => .failed reason
  else .notObserved

/-- What a read of the register meets. A bridge's rooms stand in the order their reads complete. -/
structure Answers where
  rooms : PortalBridge → Except String (List (String × Except String (List Json)))
  journaled : String → Bool
  decidedAt : String → String
  invites : String → Response

/-- An invitation the register sends by itself, and what became of it. -/
structure Sent where
  room : String
  members : Nat
  status : OutcomeStatus

namespace Portals

/-! ### Reading the register -/

def readBridge (portals : Portals) (answers : Answers) (bridge : PortalBridge) : List Portal :=
  match bridge.asToken, answers.rooms bridge with
  | some _, .ok rooms =>
    rooms.filterMap fun room =>
      match room.2 with
      | .ok state => portals.portalOf bridge room.1 state
      | .error _ => none
  | _, _ => []

def botRooms (portals : Portals) (answers : Answers) : List String :=
  portals.bridges.flatMap fun bridge =>
    match bridge.asToken, answers.rooms bridge with
    | some _, .ok rooms => rooms.map (·.1)
    | _, _ => []

def reading (portals : Portals) (answers : Answers) : List Portal :=
  portals.bridges.flatMap (portals.readBridge answers)

def tokenOf (portals : Portals) (bridgeId : String) : Option String :=
  (portals.bridges.find? fun bridge => bridge.bridgeId == bridgeId).bind PortalBridge.asToken

structure Decided where
  portal : Portal
  journal : TreeMap String PortalMove
  sent : Option Sent

/-- Decides what the user's decision means for a conversation whose room was replaced while the
Sensor was in it. The move is journaled whatever is decided, and before the invitation. -/
def decideMove (portals : Portals) (answers : Answers) (journal : TreeMap String PortalMove)
    (portal : Portal) : Decided :=
  if portal.observation ≠ .moved ∨ portal.unreadable.isSome then ⟨portal, journal, none⟩
  else
    match portal.movedFrom with
    | none => ⟨portal, journal, none⟩
    | some predecessor =>
      let follow : Bool := portal.members < portals.crowdThreshold
      let journal :=
        if portals.journals ∧ answers.journaled portal.roomId then
          recordPortalMove journal
            { successor := portal.roomId
              predecessor := predecessor
              bridgeId := portal.bridgeId
              members := portal.members
              crowdThreshold := portals.crowdThreshold
              followed := follow
              decidedAt := answers.decidedAt portal.roomId }
        else journal
      if follow then
        match portals.tokenOf portal.bridgeId with
        | none => ⟨portal, journal, none⟩
        | some _ =>
          let status := invite portal (answers.invites portal.roomId)
          { portal :=
              if status = .invited ∨ status = .alreadyObserved then
                { portal with observation := .invited }
              else portal
            journal := journal
            sent := some ⟨portal.roomId, portal.members, status⟩ }
      else ⟨portal, journal, none⟩

/-- Decides about every row, one after the other. -/
def decideMoves (portals : Portals) (answers : Answers) (journal : TreeMap String PortalMove) :
    List Portal → List Portal × TreeMap String PortalMove × List Sent
  | [] => ([], journal, [])
  | portal :: rest =>
    let decided := portals.decideMove answers journal portal
    let others := portals.decideMoves answers decided.journal rest
    (decided.portal :: others.1, others.2.1, decided.sent.toList ++ others.2.2)

/-- Reads the whole register from the homeserver. The order of the answer is not kept here. -/
def read (portals : Portals) (answers : Answers) (journal : TreeMap String PortalMove) :
    List Portal × TreeMap String PortalMove × List Sent :=
  portals.decideMoves answers journal
    (foldTombstones (portals.reading answers) (portals.botRooms answers))

/-! ### The user's requests -/

def maxRoomsPerRequest : Nat := 256

def outcomeOf (portals : Portals) (register : List Portal) (observed : Bool) (room : String)
    (response : Response) : OutcomeStatus :=
  match (byRoom register)[room]? with
  | none => .unknownPortal
  | some portal =>
    match latest (fun bridge => bridge.bridgeId == portal.bridgeId)
        (portals.bridges.filter fun bridge => bridge.asToken.isSome) with
    | none => .failed "no_appservice_token"
    | some _ => if observed then invite portal response else remove portal response

/-- What a request leads to: the outcome of each room it names, and what the register it read
first did by itself. -/
structure Requested where
  outcomes : List (String × OutcomeStatus)
  journal : TreeMap String PortalMove
  sent : List Sent

/-- Puts the Sensor into the named portal rooms, or takes it out of them, after a live read of the
register. `responses` is what the homeserver answers to the request about each place of the list. -/
def setObservation (portals : Portals) (answers : Answers) (journal : TreeMap String PortalMove)
    (rooms : List String) (observed : Bool) (responses : Nat → Response) :
    Except String Requested :=
  if rooms = [] then .error "name at least one room"
  else if rooms.length > maxRoomsPerRequest then
    .error ("too many rooms in one request: " ++ toString rooms.length ++ " named, " ++
      toString maxRoomsPerRequest ++ " is the most")
  else
    let read := portals.read answers journal
    .ok
      { outcomes := rooms.zipIdx.map fun named =>
          (named.1, portals.outcomeOf read.1 observed named.1 (responses named.2))
        journal := read.2.1
        sent := read.2.2 }

end Portals

end Twalk.Register
