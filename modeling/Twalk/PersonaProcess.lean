/-
This file models the process of a persona, `sdk/python/twalk_sdk/persona.py`: the loop that is
offered inbound messages, and beside it the loop that is offered the owner's decisions and replays
the messages a grant reaches. Each loop handles one delivery at a time; both hand what they let
through to `_process`. What the handler, the model and the bus make of a message is the outcome of
a step: a suggestion that is published or nothing, and whether the delivery is asked for again.
-/

import Twalk.Envelope
import Twalk.Library.System

namespace Twalk.Persona

/-! ### The stream -/

/-- What a consumer of the persona is filtered to. -/
inductive Topic
  | messages
  | decisions
deriving DecidableEq, Repr

/-- An event where the stream holds it: what its bytes are as JSON, if they are, and when the bus
stored it. -/
structure Stored where
  topic : Topic
  payload : Option Json
  storedAt : Int

def Stored.envelope (stored : Stored) : Option Json :=
  match stored.payload with
  | some (.object members) => some (.object members)
  | _ => none

/-- How often the bus offers a delivery that is not settled. -/
def maxDeliver : Nat := 3

/-- A replay reads no further batch once it has read so many messages. -/
def mostMessagesReadBack : Nat := 5000

def fetchedAtOnce : Nat := 10

/-! ### What is in progress -/

/-- How a message came to the persona: on its own delivery, or by the replay of a decision. A
replay began when the stream had a length. -/
inductive Way
  | live
  | replay (decision begun : Nat)
deriving DecidableEq, Repr

/-- A call of `_process`: the message, how long the stream was and what time it was. -/
structure Handing where
  position : Nat
  event : Json
  way : Way
  seen : Nat
  moment : Int

/-- A suggestion that was published about a message. -/
structure Publication where
  document : Json
  trigger : Json
  way : Way
  moment : Int

/-- A delivery of an inbound message, and the message once it is being processed. -/
structure Live where
  position : Nat
  processing : Option Json

/-- A replay: the decision it is for, what the decision grants, how far it has read, the message
it is processing and whether one asked to be retried. -/
structure Replay where
  decision : Nat
  grant : Grant
  begun : Nat
  cursor : Nat
  readBack : Nat
  processing : Option Json
  retry : Bool

/-- A persona's process and its bus. A delivery is settled once it is acked or terminated. The
consumer of the decisions is created at the head of the stream. -/
structure Process where
  stream : List Stored
  now : Int
  decisionsFrom : Nat
  offered : List Nat
  settled : List Nat
  live : Option Live
  replay : Option Replay
  handed : List Handing
  published : List Publication

/-- What the handler came to: a suggestion with the texts of its two instants, or none, and whether
the failure of one of its steps asks for another delivery. -/
structure Outcome where
  suggestion : Option (Suggestion × String × Option String)
  failed : Bool

/-! ### The two loops -/

section Loops

variable (instant : String → Option Int) (reach : GrantReach) (personaId source : String)

namespace Process

def offers (process : Process) (topic : Topic) (position : Nat) : Bool :=
  (process.stream[position]?.any fun stored => stored.topic = topic) &&
    !process.settled.contains position &&
      decide (process.offered.count position < maxDeliver)

/-- The delivery is acked or terminated. -/
def settle (process : Process) (position : Nat) : Process :=
  { process with settled := process.settled ++ [position] }

def asksAgain (process : Process) (position : Nat) (failed : Bool) : Bool :=
  failed && decide (process.offered.count position < maxDeliver)

/-- `_process` is called on a message. -/
def hand (process : Process) (position : Nat) (event : Json) (way : Way) : Process :=
  { process with handed :=
      process.handed ++ [⟨position, event, way, process.stream.length, process.now⟩] }

/-- What `_process` publishes when its handler comes back with a suggestion. -/
def publish (process : Process) (event : Json) (way : Way) (outcome : Outcome) : Process :=
  match outcome.suggestion with
  | none => process
  | some (suggestion, time, expiresAt) =>
    match suggestEvent personaId source event suggestion firstAttempt time expiresAt with
    | .error _ => process
    | .ok document => { process with
        published := process.published ++ [⟨document, event, way, process.now⟩] }

/-- `_handle`: the two gates of a live message. -/
def handle (process : Process) (position : Nat) : Process :=
  match process.stream[position]?.bind Stored.envelope with
  | none => { process.settle position with live := none }
  | some event =>
    if triggersAPersona event && isGranted event then
      { process.hand position event .live with live := some ⟨position, some event⟩ }
    else { process.settle position with live := none }

/-- `_decided`: a fresh grant is replayed, and every other decision is acked. -/
def decided (process : Process) (position : Nat) : Process :=
  let taken := { process with offered := process.offered ++ [position] }
  match (process.stream[position]?.bind Stored.envelope).bind (grantIn instant) with
  | none => taken.settle position
  | some grant =>
    if reach.isFresh grant process.now && reach.seconds != 0 then
      { taken with replay := some ⟨position, grant, process.stream.length, 0, 0, none, false⟩ }
    else taken.settle position

/-- Where the window of a replay starts, to the second. -/
def since (grant : Grant) : Int :=
  (grant.occurredAt - reach.span) / 1000000 * 1000000

def inWindow (grant : Grant) (stored : Stored) : Bool :=
  decide (stored.topic = .messages) && decide (since reach grant ≤ stored.storedAt)

def reached (grant : Grant) (stored : Stored) : Option Json :=
  if inWindow reach grant stored then
    stored.envelope.filter fun event =>
      triggersAPersona event && reach.reaches instant event grant
  else none

def next (process : Process) : Option (Replay × Stored) :=
  process.replay.bind fun replay =>
    if replay.processing.isNone &&
        decide (replay.readBack < mostMessagesReadBack + fetchedAtOnce - 1) then
      process.stream[replay.cursor]?.map fun stored => (replay, stored)
    else none

/-- One step of `_replay_for`: it reads the messages of its window, and hands over those that the
grant reaches. -/
def read (process : Process) (replay : Replay) (stored : Stored) : Process :=
  let further : Replay := { replay with
    cursor := replay.cursor + 1
    readBack := replay.readBack + if inWindow reach replay.grant stored then 1 else 0 }
  match reached instant reach replay.grant stored with
  | some event =>
    { process.hand replay.cursor event (.replay replay.decision replay.begun) with
      replay := some { further with processing := some event } }
  | none => { process with replay := some further }

end Process

/-! ### What can happen -/

/-- One thing that happens on the bus or in the process. A fetch of a replay that brings nothing in
time ends its reading, and so does a process that is stopped. -/
inductive Happening
  | stores (topic : Topic) (payload : Option Json)
  | passes (microseconds : Nat)
  | fetches (position : Nat)
  | handles
  | answers (outcome : Outcome)
  | decides (position : Nat)
  | reads
  | resumes (outcome : Outcome)
  | ends
  | restarts

namespace Process

/-- What a happening does. What cannot happen changes nothing. -/
def step (process : Process) : Happening → Process
  | .stores topic payload =>
    { process with stream := process.stream ++ [⟨topic, payload, process.now⟩] }
  | .passes microseconds => { process with now := process.now + microseconds }
  | .fetches position =>
    if process.live.isNone && process.offers .messages position then
      { process with
        offered := process.offered ++ [position], live := some ⟨position, none⟩ }
    else process
  | .handles =>
    match process.live with
    | some ⟨position, none⟩ => process.handle position
    | _ => process
  | .answers outcome =>
    match process.live with
    | some ⟨position, some event⟩ =>
      let answered := { process.publish personaId source event .live outcome with live := none }
      if process.asksAgain position outcome.failed then answered else answered.settle position
    | _ => process
  | .decides position =>
    if process.replay.isNone && decide (process.decisionsFrom ≤ position) &&
        process.offers .decisions position then
      process.decided instant reach position
    else process
  | .reads =>
    match process.next with
    | some (replay, stored) => process.read instant reach replay stored
    | none => process
  | .resumes outcome =>
    match process.replay with
    | some replay =>
      match replay.processing with
      | some event =>
        { process.publish personaId source event (.replay replay.decision replay.begun) outcome with
          replay := some { replay with
            processing := none
            retry := replay.retry || process.asksAgain replay.decision outcome.failed } }
      | none => process
    | none => process
  | .ends =>
    match process.replay with
    | some replay =>
      if replay.processing.isNone then
        if replay.retry then { process with replay := none }
        else { process.settle replay.decision with replay := none }
      else process
    | none => process
  | .restarts => { process with live := none, replay := none }

end Process

def started (stream : List Stored) (now : Int) : Process where
  stream := stream
  now := now
  decisionsFrom := stream.length
  offered := []
  settled := []
  live := none
  replay := none
  handed := []
  published := []

end Loops

end Twalk.Persona
