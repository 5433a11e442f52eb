/-
This file models how the Gateway learns what a connection says about itself,
`companion-gateway/src/connection_status.rs`, the journal `connection_status_change` of `store.rs`
and its view `connection_status_current`. The durable consumer hands the Gateway batches of
messages that were not acknowledged; a batch is recorded message by message and acknowledged only
when all of it was, and whatever was not acknowledged is handed out again.
-/

import Twalk.Approval

namespace Twalk.ConnectionStatus

/-! ### What a collector says -/

def connectionStatusChangedType : String := "fr.linagora.twalk.connection.status.changed.v1"

def states : List String := ["connected", "unreachable", "reconnect_required", "pending_operator"]

def kinds : List String :=
  ["whatsapp", "telegram", "signal", "discord", "sms", "matrix", "email", "calendar"]

def services : List String := ["sso", "jmap", "caldav"]

/-- One transition. -/
structure Change where
  eventId : String
  connection : String
  kind : String
  fromState : String
  toState : String
  occurredAt : String
  service : Option String
  hint : Option String
deriving DecidableEq, Repr

inductive NotRead where
  | otherType
  | noString (pointer : List String)
  | unknownState (state : String)
  | fromUnknownState (state : String)
  | unknownKind (kind : String)
  | unknownService (service : String)
deriving DecidableEq, Repr

def stringAt (event : Json) (pointer : List String) : Except NotRead String :=
  match event.textAt pointer with
  | some value => .ok value
  | none => .error (.noString pointer)

def ensure (condition : Bool) (reason : NotRead) : Except NotRead Unit :=
  if condition then .ok () else .error reason

def Change.parse (event : Json) : Except NotRead Change := do
  ensure (event.textAt ["type"] == some connectionStatusChangedType) .otherType
  let toState ← stringAt event ["data", "to_state"]
  ensure (states.contains toState) (.unknownState toState)
  let fromState ← stringAt event ["data", "from_state"]
  ensure (fromState == "unknown" || states.contains fromState) (.fromUnknownState fromState)
  let kind ← stringAt event ["data", "kind"]
  ensure (kinds.contains kind) (.unknownKind kind)
  let service := event.textAt ["data", "service"]
  ensure (service.all services.contains) (.unknownService (service.getD ""))
  return {
    eventId := ← stringAt event ["id"]
    connection := ← stringAt event ["data", "connection"]
    kind
    fromState
    toState
    occurredAt := ← stringAt event ["data", "occurred_at"]
    service
    hint := (event.textAt ["data", "hint"]).map fun hint => String.ofList (hint.toList.take 1024) }

/-- What a message says, when it is JSON and can be read. -/
def readable (payload : Option Json) : Option Change :=
  payload.bind fun event => (Change.parse event).toOption

/-! ### The journal -/

/-- `record_connection_status_change`: a transition whose id is there is not recorded again. -/
def record (journal : List Change) (change : Change) : List Change :=
  if journal.any fun row => row.eventId == change.eventId then journal else journal ++ [change]

/-- The row of `connection_status_current` about one connection: the last one recorded. -/
def connectionStatus (journal : List Change) (connection : String) : Option Change :=
  latest (fun row => row.connection == connection) journal

def Change.statusRow (change : Change) : Approval.StatusRow where
  connection := change.connection
  state := change.toState
  hint := change.hint

/-! ### The consumer -/

/-- The most messages that one fetch asks for. -/
def drainBatch : Nat := 100

/-- The subject on the stream, a message at each place; what the durable consumer has handed out
and what was acknowledged of it; and the Gateway's journal. -/
structure World where
  stream : List (Option Json)
  cursor : Nat
  acked : List Nat
  journal : List Change

def World.start : World := ⟨[], 0, [], []⟩

/-- Whether the consumer can hand a message out: the next new one, or one that was handed out
before and not acknowledged. -/
def World.offers (world : World) (place : Nat) : Bool :=
  place < world.stream.length &&
    (place == world.cursor || (place < world.cursor && !world.acked.contains place))

def World.handOut (world : World) (place : Nat) : World :=
  { world with cursor := max world.cursor (place + 1) }

/-- What a fetch hands out of the places that it could: the new ones in stream order, and others
again, in any order between them. -/
def World.fetch : World → List Nat → World × List Nat
  | world, [] => (world, [])
  | world, place :: places =>
    if world.offers place then
      let (after, taken) := World.fetch (world.handOut place) places
      (after, place :: taken)
    else World.fetch world places

/-- The transitions that a list of places says, those that can be read. -/
def World.changesAt (world : World) (places : List Nat) : List Change :=
  places.filterMap fun place => readable (world.stream[place]?.join)

def World.taken (world : World) (batch : List Nat) : List Nat :=
  (world.fetch (batch.take drainBatch)).2

/-- The transitions that are recorded of a batch: those before the message at which reading or
recording failed, or the process stopped. -/
def World.handled (world : World) (batch : List Nat) (fault : Option Nat) : List Change :=
  match fault with
  | some count => world.changesAt ((world.taken batch).take count)
  | none => world.changesAt (world.taken batch)

/-- One batch: each transition recorded, then the messages acknowledged, when nothing failed. Of
the acknowledgements some may not arrive. -/
def World.drain (world : World) (batch : List Nat) (fault : Option Nat) (arrived : List Nat) :
    World where
  stream := world.stream
  cursor := (world.fetch (batch.take drainBatch)).1.cursor
  acked := match fault with
    | some _ => world.acked
    | none => world.acked ++ (world.taken batch).filter arrived.contains
  journal := (world.handled batch fault).foldl record world.journal

/-! ### What happens -/

inductive Happening where
  /-- A message is stored on the subject; none when it is not JSON. -/
  | published (payload : Option Json)
  /-- The consumer is drained once: what the stream would hand out, at which message the batch
  failed, and which acknowledgements arrived. -/
  | drained (batch : List Nat) (fault : Option Nat) (arrived : List Nat)

def step (world : World) : Happening → World
  | .published payload => { world with stream := world.stream ++ [payload] }
  | .drained batch fault arrived => world.drain batch fault arrived

end Twalk.ConnectionStatus
