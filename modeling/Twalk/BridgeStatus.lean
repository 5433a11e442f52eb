/-
This file models how a bridge's connection state reaches the bus, after
`companion-gateway/src/bridge_status.rs` and the `bridge_status_change` table of
`companion-gateway/src/store.rs`. A report that is worse than connected is held
for a grace before anybody is told; a report of the recorded state cancels what
is held; what outlives the grace is recorded. Every reading of the clock and
every answer of the store is an argument, since a call reads the clock more than
once and a write may fail.
-/

import Mathlib.Data.List.Basic
import Twalk.Consent
import Twalk.Library.Json
import Twalk.Library.Ledger
import Twalk.Library.Sha256

namespace Twalk.BridgeStatus

open Consent Std

/-! ### States and transitions -/

/-- The states `from_state` and `to_state` take. -/
inductive ContractState where
  | starting
  | connected
  | degraded
  | disconnected
  | sessionExpired
deriving DecidableEq, Repr

namespace ContractState

/-- What a bridge nobody has heard from is assumed to be in. -/
def initial : ContractState := disconnected

def asStr : ContractState → String
  | starting => "starting"
  | connected => "connected"
  | degraded => "degraded"
  | disconnected => "disconnected"
  | sessionExpired => "session_expired"

end ContractState

/-- One state a bridge reported, translated but not yet compared with anything. -/
structure Observed where
  state : ContractState
  reason : Option String
  lastMessageAt : Option String
  occurredAt : String

structure StatusBridge where
  bridgeId : String
  network : Network

structure Transition where
  bridgeId : String
  network : Network
  fromState : ContractState
  toState : ContractState
  occurredAt : String
  reason : Option String
  lastMessageAt : Option String

namespace Transition

def eventId (transition : Transition) : String :=
  sha256Hex (transition.bridgeId ++ ":" ++ transition.toState.asStr ++ ":" ++ transition.occurredAt)

def data (transition : Transition) : Json :=
  .object <|
    [("bridge_id", .string transition.bridgeId),
      ("network", .string transition.network.asStr),
      ("from_state", .string transition.fromState.asStr),
      ("to_state", .string transition.toState.asStr),
      ("occurred_at", .string transition.occurredAt)] ++
    (transition.reason.map fun reason => ("reason", Json.string reason)).toList ++
    (transition.lastMessageAt.map fun instant => ("last_message_at", Json.string instant)).toList

/-- The event, rendered as it will be published. -/
def envelope (transition : Transition) (domain producedAt : String) : Json :=
  .object
    [("specversion", .string "1.0"),
      ("id", .string transition.eventId),
      ("source", .string ("gateway://" ++ domain ++ "/bridges/" ++ transition.bridgeId)),
      ("type", .string "fr.linagora.twalk.bridge.status.changed.v1"),
      ("time", .string producedAt),
      ("subject", .string transition.bridgeId),
      ("datacontenttype", .string "application/json"),
      ("dataschema", .string
        "https://schemas.twalk.dev/cloudevents/v1/bridge.status.changed.schema.json"),
      ("network", .string transition.network.asStr),
      ("data", transition.data)]

end Transition

def Observed.transition (observed : Observed) (bridge : StatusBridge) (fromState : ContractState) :
    Transition where
  bridgeId := bridge.bridgeId
  network := bridge.network
  fromState := fromState
  toState := observed.state
  occurredAt := observed.occurredAt
  reason := observed.reason
  lastMessageAt := observed.lastMessageAt

/-! ### The store -/

/-- A row of `bridge_status_change`. Its `sequence` is its place in the table. -/
structure StatusRow where
  eventId : String
  transition : Transition
  envelope : Json

/-- What recording a transition answers with. -/
structure BridgeStatusCommitted where
  sequence : Nat
  eventId : String
  replayed : Bool

/-- How the store takes one write: the time the event is stamped with, and whether the statement
fails. -/
structure Write where
  producedAt : String
  fails : Bool

/-- Records one transition and its envelope. The identical transition arriving twice, the same
bridge, state and instant, records nothing. -/
def recordBridgeStatus (rows : List StatusRow) (transition : Transition) (domain : String)
    (write : Write) : Except String (List StatusRow × BridgeStatusCommitted) :=
  if write.fails then .error "failed to record the bridge status change"
  else
    match rows.findIdx? fun row => row.eventId == transition.eventId with
    | some index => .ok (rows, ⟨index + 1, transition.eventId, true⟩)
    | none =>
      .ok (rows ++ [⟨transition.eventId, transition, transition.envelope domain write.producedAt⟩],
        ⟨rows.length + 1, transition.eventId, false⟩)

/-- The last state recorded for one bridge: `bridge_status_current` keeps, of each bridge, the row
of the greatest sequence. -/
def bridgeStatus (rows : List StatusRow) (bridgeId : String) : Option ContractState :=
  (latest (fun row => row.transition.bridgeId == bridgeId) rows).map fun row =>
    row.transition.toState

/-! ### What is held -/

/-- A transition seen and not yet told to anybody. -/
structure Held where
  transition : Transition
  deadline : Nat
  channel : String

/-- The status half: what is waiting, by bridge id, and the store and the grace it decides with. -/
structure Statuses where
  domain : String
  grace : Nat
  held : TreeMap String Held
  rows : List StatusRow

namespace Statuses

/-- Holds a transition instead of publishing it, or updates the one already held: the first
instant and the first deadline win, the state and the reason are the latest. -/
def hold (statuses : Statuses) (transition : Transition) (channel : String) (now : Nat) :
    Statuses :=
  let deadline := now + statuses.grace
  match statuses.held[transition.bridgeId]? with
  | some waiting =>
    { statuses with
      held := statuses.held.insert transition.bridgeId
        { waiting with
          transition :=
            { waiting.transition with
              toState := transition.toState
              reason := transition.reason
              lastMessageAt := transition.lastMessageAt } } }
  | none =>
    { statuses with
      held := statuses.held.insert transition.bridgeId ⟨transition, deadline, channel⟩ }

/-- Cancels what is held for a bridge, if it is still inside its window, and answers whether there
was something to cancel. -/
def settled (statuses : Statuses) (bridgeId : String) (now : Nat) : Statuses × Bool :=
  if statuses.held[bridgeId]?.any fun waiting => now < waiting.deadline then
    ({ statuses with held := statuses.held.erase bridgeId }, true)
  else (statuses, false)

/-- The transitions whose grace has run out, in the order of their bridges. -/
def due (statuses : Statuses) (now : Nat) : List Held :=
  (statuses.held.toList.filter fun entry => entry.2.deadline ≤ now).map (·.2)

def takeDue (statuses : Statuses) (now : Nat) : Statuses :=
  { statuses with held := statuses.held.filter fun _ waiting => now < waiting.deadline }

def flushOne (now : Nat) (writes : String → Write) (progress : Statuses × List Transition)
    (waiting : Held) : Statuses × List Transition :=
  let (statuses, published) := progress
  let bridgeId := waiting.transition.bridgeId
  match recordBridgeStatus statuses.rows waiting.transition statuses.domain (writes bridgeId) with
  | .ok (rows, committed) =>
    ({ statuses with rows },
      if committed.replayed then published else published ++ [waiting.transition])
  | .error _ =>
    ({ statuses with
        held := statuses.held.insertIfNew bridgeId { waiting with deadline := now } }, published)

/-- Records everything whose grace has run out, and answers what was published. -/
def flushDue (statuses : Statuses) (now : Nat) (writes : String → Write) :
    Statuses × List Transition :=
  (statuses.due now).foldl (flushOne now writes) (statuses.takeDue now, [])

/-- `flushDue`, with the decision taken first. -/
def flushHeld (statuses : Statuses) (now : Nat) (writes : String → Write) :
    Statuses × List Transition :=
  statuses.flushDue now writes

/-! ### A report -/

/-- The state a report is compared with: what the owner was last told. -/
def fromState (statuses : Statuses) (bridgeId : String) : ContractState :=
  (bridgeStatus statuses.rows bridgeId).getD ContractState.initial

/-- What a report comes to once everything due has been recorded: a report of the recorded state
cancels what is held, one that is worse than connected is held where there is a grace, and any
other is recorded, after what was held has been cancelled. -/
def decided (statuses : Statuses) (bridge : StatusBridge) (observed : Observed) (channel : String)
    (now : Nat) (write : Write) : Statuses × Except String (Option Transition) :=
  let fromState := statuses.fromState bridge.bridgeId
  if fromState = observed.state then ((statuses.settled bridge.bridgeId now).1, .ok none)
  else
    let transition := observed.transition bridge fromState
    if observed.state ≠ .connected ∧ statuses.grace ≠ 0 then
      (statuses.hold transition channel now, .ok none)
    else
      let settled := (statuses.settled bridge.bridgeId now).1
      match recordBridgeStatus settled.rows transition settled.domain write with
      | .ok (rows, _) => ({ settled with rows }, .ok (some transition))
      | .error failure => (settled, .error failure)

/-- What a call of `observed` meets: the two readings of the clock, whether the store answers when
the last state is read, and how it takes each write. -/
structure Answers where
  flushAt : Nat
  decideAt : Nat
  flushes : String → Write
  reads : Bool
  write : Write

/-- Records one observation, whatever channel it arrived on, and answers the transition it
caused. The decision lock is held throughout, so nothing stands between its parts. -/
def observed (statuses : Statuses) (bridge : StatusBridge) (report : Observed) (channel : String)
    (answers : Answers) : Statuses × Except String (Option Transition) :=
  let flushed := (statuses.flushDue answers.flushAt answers.flushes).1
  if answers.reads then flushed.decided bridge report channel answers.decideAt answers.write
  else (flushed, .error "failed to read the bridge's last known state")

end Statuses

end Twalk.BridgeStatus
