/-
This file models how the Sensor keeps its consent cache current: `bring_up_consent`
and `run_consent_consumer` of `sensor/src/main.rs`, over a durable consumer that hands
each message over until it is acknowledged. What the snapshot already holds is skipped
and everything else is applied as it comes, so the Sensor ends on the last decision
exactly when, about each place, a delivery that says otherwise is followed by one that
says it again.
-/

import Twalk.ConsentCache
import Twalk.Library.Replay
import Twalk.Library.Stream

namespace Twalk.Sensor

open Cache Cache.ConsentCache

/-! ### The durable consumer -/

/-- Where a durable consumer is: everything before `next` was delivered, and some of it was not
acknowledged. -/
structure Durable where
  next : Nat
  unacked : List Nat
deriving DecidableEq, Repr

/-- The Sensor's cache, the position its snapshot was handed over at, the stream and the durable
consumer. What was delivered to this process is kept beside them. -/
structure ConsentConsumer where
  cache : ConsentCache
  start : Nat
  stream : MessageStream (Option Json)
  durable : Durable
  delivered : List (Message (Option Json))

/-- What happens: the stream grows, other traffic takes positions, the next message is delivered or
one that was not acknowledged is delivered again, each acknowledged or not, and the consumer is
rebuilt on the durable or, when that is gone, created again where the snapshot hands over. -/
inductive ConsumerStep where
  | published (messageId : String) (payload : Option Json)
  | passed (count : Nat)
  | delivered (acked : Bool)
  | redelivered (position : Nat) (acked : Bool)
  | rebuilt
  | recreated

namespace ConsentConsumer

def bringUp (cache : ConsentCache) (snapshot : Snapshot) (stream : MessageStream (Option Json))
    (durable : Durable) : ConsentConsumer where
  cache := cache.applySnapshot snapshot
  start := snapshot.nextStreamSequence
  stream := stream
  durable := durable
  delivered := []

def handle (consumer : ConsentConsumer) (message : Message (Option Json)) : ConsentConsumer :=
  { consumer with
    cache :=
      if message.position < consumer.start then consumer.cache
      else consume consumer.cache message.payload
    delivered := consumer.delivered ++ [message] }

def step (consumer : ConsentConsumer) : ConsumerStep → ConsentConsumer
  | .published messageId payload =>
    { consumer with stream := (consumer.stream.publish messageId payload).1 }
  | .passed count => { consumer with stream := consumer.stream.advance count }
  | .delivered acked =>
    match (consumer.stream.messagesFrom consumer.durable.next).head? with
    | some message =>
      { consumer.handle message with
        durable := {
          next := message.position + 1
          unacked :=
            if acked then consumer.durable.unacked
            else consumer.durable.unacked ++ [message.position] } }
    | none => consumer
  | .redelivered position acked =>
    if position ∈ consumer.durable.unacked then
      match consumer.stream.messages.find? fun message => message.position == position with
      | some message =>
        { consumer.handle message with
          durable := {
            next := consumer.durable.next
            unacked :=
              if acked then consumer.durable.unacked.filter fun held => held != position
              else consumer.durable.unacked } }
      | none => consumer
    else consumer
  | .rebuilt => consumer
  | .recreated => { consumer with durable := ⟨consumer.start, []⟩ }

/-! ### The last decision -/

def due (consumer : ConsentConsumer) : List (Message (Option Json)) :=
  consumer.stream.messagesFrom consumer.start

def saidAt (cache : ConsentCache) (place : Place) (message : Message (Option Json)) :
    Option Consent :=
  (latest (cache.sets place) (entriesOf message.payload)).map ConsentEntry.state

def about (cache : ConsentCache) (place : Place) (message : Message (Option Json)) : Bool :=
  (saidAt cache place message).isSome

def lastAt (consumer : ConsentConsumer) (snapshot : ConsentCache) (place : Place) :
    Option Consent :=
  ((latest (about snapshot place) consumer.due).bind (saidAt snapshot place)).or
    (readAt snapshot.states place)

def lastStates (consumer : ConsentConsumer) (snapshot : ConsentCache) : States where
  contacts id connection := consumer.lastAt snapshot (.own id connection)
  defaults connection := consumer.lastAt snapshot (.default connection)

def Drained (consumer : ConsentConsumer) : Prop :=
  ∀ message ∈ consumer.due, message ∈ consumer.delivered ∧
    message.position < consumer.durable.next ∧ message.position ∉ consumer.durable.unacked

/-- The cache answers what the last decision in stream order says: the subject's own, or the
connection's default. -/
def EndsOnLast (consumer : ConsentConsumer) (snapshot : ConsentCache) : Prop :=
  ∀ subject connection, consumer.cache.state subject connection =
    answerOf (consumer.lastStates snapshot) subject connection

/-- About each place, a delivery that says otherwise than the last message in stream order is
followed by a delivery that says the same as it. -/
def Settled (consumer : ConsentConsumer) (snapshot : ConsentCache) : Prop :=
  ∀ place last said, latest (about snapshot place) consumer.due = some last →
    saidAt snapshot place last = some said →
      ∀ front message back, consumer.delivered = front ++ message :: back →
        consumer.start ≤ message.position →
          ∀ other, saidAt snapshot place message = some other → other ≠ said →
            ∃ later ∈ back, consumer.start ≤ later.position ∧
              saidAt snapshot place later = some said

/-! ### What a run delivers -/

def heard (consumer : ConsentConsumer) : List (Message (Option Json)) :=
  consumer.delivered.filter fun message => consumer.start ≤ message.position

/-- The cache is the snapshot's with what was heard applied in the order it came, and all that was
delivered is on the stream. -/
structure Recorded (snapshot : ConsentCache) (consumer : ConsentConsumer) : Prop where
  sets : ∀ place, consumer.cache.sets place = snapshot.sets place
  take : consumer.cache.take = snapshot.take
  states : consumer.cache.states =
    (consumer.heard.flatMap fun message => entriesOf message.payload).foldl snapshot.take
      snapshot.states
  stored : ∀ message ∈ consumer.delivered, message ∈ consumer.stream.messages

section Runs

variable {snapshot : ConsentCache} {consumer : ConsentConsumer}

theorem recorded_handle (recorded : Recorded snapshot consumer) {message : Message (Option Json)}
    (stored : message ∈ consumer.stream.messages) (durable : Durable) :
    Recorded snapshot { consumer.handle message with durable := durable } := by
  have delivered : ∀ one ∈ consumer.delivered ++ [message], one ∈ consumer.stream.messages := by
    intro one member
    rcases List.mem_append.mp member with old | isNew
    · exact recorded.stored one old
    · rw [List.mem_singleton.mp isNew]
      exact stored
  by_cases summarised : message.position < consumer.start
  · have isHeard : ({ consumer.handle message with durable := durable } : ConsentConsumer).heard =
        consumer.heard := by
      simp [heard, handle, summarised]
    refine ⟨?_, ?_, ?_, delivered⟩
    · simpa only [handle, if_pos summarised] using recorded.sets
    · simpa only [handle, if_pos summarised] using recorded.take
    · rw [isHeard]
      simpa only [handle, if_pos summarised] using recorded.states
  · have isHeard : ({ consumer.handle message with durable := durable } : ConsentConsumer).heard =
        consumer.heard ++ [message] := by
      have keeps : decide (consumer.start ≤ message.position) = true :=
        decide_eq_true (Nat.le_of_not_lt summarised)
      exact (List.filter_append ..).trans
        (congrArg (consumer.heard ++ ·) (List.filter_cons_of_pos keeps))
    refine ⟨fun place => ?_, ?_, ?_, delivered⟩
    · simp only [handle, if_neg summarised]
      rw [sets_consume, recorded.sets]
    · simp only [handle, if_neg summarised]
      rw [take_consume, recorded.take]
    · rw [isHeard]
      simp only [handle, if_neg summarised]
      rw [states_consume, recorded.take, recorded.states, List.flatMap_append, List.foldl_append,
        List.flatMap_singleton]

theorem recorded_step (recorded : Recorded snapshot consumer) (next : ConsumerStep) :
    Recorded snapshot (consumer.step next) := by
  cases next with
  | published messageId payload =>
    exact ⟨recorded.sets, recorded.take, recorded.states, fun message member =>
      MessageStream.mem_messages_publish (recorded.stored message member) messageId payload⟩
  | passed count => exact ⟨recorded.sets, recorded.take, recorded.states, recorded.stored⟩
  | rebuilt => exact recorded
  | recreated => exact ⟨recorded.sets, recorded.take, recorded.states, recorded.stored⟩
  | delivered acked =>
    dsimp only [step]
    cases found : (consumer.stream.messagesFrom consumer.durable.next).head? with
    | none => exact recorded
    | some message =>
      have stored := List.mem_of_mem_head? found
      exact recorded_handle recorded (List.mem_filter.mp stored).1 _
  | redelivered position acked =>
    dsimp only [step]
    split
    · cases found : consumer.stream.messages.find? fun message => message.position == position with
      | none => exact recorded
      | some message => exact recorded_handle recorded (List.mem_of_find?_eq_some found) _
    · exact recorded

theorem recorded_bringUp (cache : ConsentCache) (document : Snapshot)
    (stream : MessageStream (Option Json)) (durable : Durable) :
    Recorded (cache.applySnapshot document) (bringUp cache document stream durable) :=
  ⟨fun _ => rfl, rfl, rfl, fun _ absurdly => absurd absurdly List.not_mem_nil⟩

theorem readAt_cache (recorded : Recorded snapshot consumer) (place : Place) :
    readAt consumer.cache.states place =
      ((latest (about snapshot place) consumer.heard).bind (saidAt snapshot place)).or
        (readAt snapshot.states place) := by
  have each : ∀ message ∈ consumer.heard,
      (latest (snapshot.sets place) (entriesOf message.payload)).map
          (fun entry => some entry.state) =
        if about snapshot place message then some (saidAt snapshot place message) else none := by
    intro message _
    unfold about saidAt
    cases latest (snapshot.sets place) (entriesOf message.payload) <;> simp
  have lasts := latest_flatMap_map each
  rw [recorded.states, readAt_foldl_take]
  congr 1
  cases entry : latest (snapshot.sets place)
      (consumer.heard.flatMap fun message => entriesOf message.payload) with
  | none =>
    rw [entry, Option.map_none, eq_comm, Option.map_eq_none_iff] at lasts
    rw [lasts]
    rfl
  | some last =>
    rw [entry, Option.map_some, eq_comm, Option.map_eq_some_iff] at lasts
    obtain ⟨message, isLast, isSaid⟩ := lasts
    rw [isLast, Option.bind_some, isSaid]
    rfl

theorem readAt_lastStates (consumer : ConsentConsumer) (snapshot : ConsentCache) (place : Place) :
    readAt (consumer.lastStates snapshot) place = consumer.lastAt snapshot place := by
  cases place <;> rfl

theorem mem_heard_iff (recorded : Recorded snapshot consumer) (drained : consumer.Drained)
    (message : Message (Option Json)) : message ∈ consumer.heard ↔ message ∈ consumer.due := by
  unfold heard due MessageStream.messagesFrom
  rw [List.mem_filter, List.mem_filter]
  refine and_congr_left fun past => ⟨fun member => recorded.stored message member, fun stored => ?_⟩
  exact (drained message (List.mem_filter.mpr ⟨stored, past⟩)).1

theorem isSome_latest_heard (recorded : Recorded snapshot consumer) (drained : consumer.Drained)
    (place : Place) :
    (latest (about snapshot place) consumer.heard).isSome =
      (latest (about snapshot place) consumer.due).isSome := by
  rw [Bool.eq_iff_iff, Option.isSome_iff_ne_none, Option.isSome_iff_ne_none, ne_eq, ne_eq,
    latest_eq_none_iff, latest_eq_none_iff]
  refine not_congr (forall_congr' fun message => ?_)
  rw [mem_heard_iff recorded drained message]

theorem exists_saidAt {place : Place} {messages : List (Message (Option Json))}
    {last : Message (Option Json)} (found : latest (about snapshot place) messages = some last) :
    ∃ said, saidAt snapshot place last = some said := by
  have concerned : about snapshot place last = true := latest_concerns found
  exact Option.isSome_iff_exists.mp concerned

theorem isSome_readAt_cache (recorded : Recorded snapshot consumer) (drained : consumer.Drained)
    (place : Place) :
    (readAt consumer.cache.states place).isSome =
      (readAt (consumer.lastStates snapshot) place).isSome := by
  have layered : ∀ found : Option (Message (Option Json)),
      (∀ last, found = some last → ∃ said, saidAt snapshot place last = some said) →
        ((found.bind (saidAt snapshot place)).or (readAt snapshot.states place)).isSome =
          (found.isSome || (readAt snapshot.states place).isSome) := by
    intro found isSaid
    cases found with
    | none => rfl
    | some last =>
      obtain ⟨said, same⟩ := isSaid last rfl
      rw [Option.bind_some, same]
      rfl
  rw [readAt_cache recorded, readAt_lastStates, lastAt, layered _ fun _ => exists_saidAt,
    layered _ fun _ => exists_saidAt, isSome_latest_heard recorded drained place]

theorem endsOnLast_iff (recorded : Recorded snapshot consumer) (drained : consumer.Drained)
    {id : String} (unnamed : ∀ connection,
      readAt consumer.cache.states (.own id connection) = none) :
    consumer.EndsOnLast snapshot ↔ ∀ place,
      readAt consumer.cache.states place = consumer.lastAt snapshot place := by
  simp only [← readAt_lastStates]
  rw [← states_eq_iff]
  refine ⟨fun ends => ?_, fun same subject connection => ?_⟩
  · exact states_eq_of_answers (isSome_readAt_cache recorded drained) unnamed ends
  · rw [state_eq_answerOf, same]

/-- A place reads what the last message in stream order says of it exactly when each delivery that
says otherwise is followed by one that says the same. -/
theorem readAt_eq_lastAt_iff (recorded : Recorded snapshot consumer) (drained : consumer.Drained)
    (place : Place) :
    readAt consumer.cache.states place = consumer.lastAt snapshot place ↔
      ∀ last said, latest (about snapshot place) consumer.due = some last →
        saidAt snapshot place last = some said →
          ∀ front message back, consumer.delivered = front ++ message :: back →
            consumer.start ≤ message.position →
              ∀ other, saidAt snapshot place message = some other → other ≠ said →
                ∃ later ∈ back, consumer.start ≤ later.position ∧
                  saidAt snapshot place later = some said := by
  rw [readAt_cache recorded, lastAt]
  have agree := isSome_latest_heard recorded drained place
  cases isDue : latest (about snapshot place) consumer.due with
  | none =>
    rw [isDue, Option.isSome_none, Option.isSome_eq_false_iff, Option.isNone_iff_eq_none] at agree
    rw [agree]
    exact iff_of_true rfl fun _ _ absurdly => absurd absurdly (by simp)
  | some last =>
    obtain ⟨said, isSaid⟩ := exists_saidAt isDue
    rw [isDue, Option.isSome_some] at agree
    obtain ⟨end_, isHeard⟩ := Option.isSome_iff_exists.mp agree
    obtain ⟨spoken, isSpoken⟩ := exists_saidAt isHeard
    have layered : ((latest (about snapshot place) consumer.heard).bind
          (saidAt snapshot place)).or (readAt snapshot.states place) =
        (((some last).bind (saidAt snapshot place)).or (readAt snapshot.states place)) ↔
          (latest (about snapshot place) consumer.heard).map (saidAt snapshot place) =
            some (some said) := by
      rw [isHeard, Option.bind_some, Option.bind_some, isSaid, isSpoken, Option.map_some, isSpoken]
      simp
    rw [layered]
    unfold heard at isHeard ⊢
    rw [latest_filter] at isHeard ⊢
    rw [latest_map_eq_some_iff ⟨end_, latest_mem isHeard, latest_concerns isHeard⟩]
    constructor
    · intro settled last' said' isLast isSaid' front message back isLog past other isOther differs
      obtain rfl := Option.some.inj isLast
      obtain rfl := Option.some.inj (isSaid.symm.trans isSaid')
      obtain ⟨later, member, concerned, same⟩ := settled front message back isLog
        (by simp [past, about, isOther]) (by simp [isOther, differs])
      rw [Bool.and_eq_true, decide_eq_true_eq] at concerned
      exact ⟨later, member, concerned.1, same⟩
    · intro settled front message back isLog concerned differs
      rw [Bool.and_eq_true, decide_eq_true_eq] at concerned
      obtain ⟨other, isOther⟩ := Option.isSome_iff_exists.mp concerned.2
      obtain ⟨later, member, past, same⟩ := settled last said rfl isSaid front message back isLog
        concerned.1 other isOther fun equal => differs (by rw [isOther, equal])
      exact ⟨later, member, by simp [past, about, same], same⟩

end Runs

/-! ### What the Sensor ends on -/

theorem recorded_run (cache : ConsentCache) (document : Snapshot)
    (stream : MessageStream (Option Json)) (durable : Durable) (steps : List ConsumerStep) :
    Recorded (cache.applySnapshot document)
      (run step (bringUp cache document stream durable) steps) :=
  run_invariant (Recorded (cache.applySnapshot document))
    (fun _ next recorded => recorded_step recorded next)
    (recorded_bringUp cache document stream durable) steps

/-- Once every message that a snapshot does not hold was delivered and acknowledged, the Sensor
answers what the last decision in stream order says exactly when, about each place, a delivery that
says otherwise is followed by one that says the same as it. -/
theorem endsOnLast_iff_settled (cache : ConsentCache) (document : Snapshot)
    (stream : MessageStream (Option Json)) (durable : Durable) (steps : List ConsumerStep)
    (drained : (run step (bringUp cache document stream durable) steps).Drained) :
    (run step (bringUp cache document stream durable) steps).EndsOnLast
        (cache.applySnapshot document) ↔
      (run step (bringUp cache document stream durable) steps).Settled
        (cache.applySnapshot document) := by
  have recorded := recorded_run cache document stream durable steps
  obtain ⟨id, unnamed⟩ := exists_unnamed cache (document.entries ++
    (run step (bringUp cache document stream durable) steps).heard.flatMap fun message =>
      entriesOf message.payload)
  have isCache : (run step (bringUp cache document stream durable) steps).cache.states =
      (document.entries ++ (run step (bringUp cache document stream durable) steps).heard.flatMap
        fun message => entriesOf message.payload).foldl cache.take States.empty := by
    rw [recorded.states, List.foldl_append]
    rfl
  rw [← isCache] at unnamed
  rw [endsOnLast_iff recorded drained unnamed]
  exact forall_congr' (readAt_eq_lastAt_iff recorded drained)

namespace LostAck

def decision (state : String) : Json :=
  .object [("data", .object [
    ("subject", .object [("type", .string "contact"), ("id", .string "mailto:alice@example.org")]),
    ("new_state", .string state),
    ("scope", .object [("connections", .array [.string "mail"])])])]

def sensor : ConsentConsumer :=
  bringUp (forPeopleOnly none []) ⟨[], [], 1⟩ .empty ⟨1, []⟩

/-- Alice is granted and then revoked; the acknowledgement of the grant is lost, and it is delivered
again after the revocation. -/
def steps : List ConsumerStep :=
  [.published "granted" (some (decision "granted")),
    .published "revoked" (some (decision "revoked")), .delivered false, .delivered true,
    .redelivered 1 true]

def granted : Message (Option Json) := ⟨1, "granted", some (decision "granted")⟩

def revoked : Message (Option Json) := ⟨2, "revoked", some (decision "revoked")⟩

/-- Everything was delivered and acknowledged, and Alice, who was revoked last, is granted. -/
theorem ends_granted : ¬((run step sensor steps).Drained →
    (run step sensor steps).EndsOnLast ((forPeopleOnly none []).applySnapshot ⟨[], [], 1⟩)) := by
  intro claimed
  have isDue : (run step sensor steps).due = [granted, revoked] := rfl
  have isDelivered : (run step sensor steps).delivered = [granted, revoked, granted] := rfl
  have isDurable : (run step sensor steps).durable = ⟨3, []⟩ := rfl
  have drained : (run step sensor steps).Drained := by
    unfold Drained
    rw [isDue, isDelivered, isDurable]
    simp [granted, revoked]
  exact absurd (claimed drained "mailto:alice@example.org" "mail") (by decide)

/-- The same two decisions, each acknowledged when it is delivered. -/
def inOrder : List ConsumerStep := steps.take 2 ++ [.delivered true, .delivered true]

theorem ends_revoked : (run step sensor inOrder).Drained ∧
    ((run step sensor inOrder).EndsOnLast
        ((forPeopleOnly none []).applySnapshot ⟨[], [], 1⟩) ↔
      (run step sensor inOrder).Settled
        ((forPeopleOnly none []).applySnapshot ⟨[], [], 1⟩)) := by
  have isDue : (run step sensor inOrder).due = [granted, revoked] := rfl
  have isDelivered : (run step sensor inOrder).delivered = [granted, revoked] := rfl
  have isDurable : (run step sensor inOrder).durable = ⟨3, []⟩ := rfl
  have drained : (run step sensor inOrder).Drained := by
    unfold Drained
    rw [isDue, isDelivered, isDurable]
    simp [granted, revoked]
  exact ⟨drained, endsOnLast_iff_settled _ _ _ _ _ drained⟩

end LostAck

end ConsentConsumer

end Twalk.Sensor
