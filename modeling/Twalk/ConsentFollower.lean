/-
This file models how the collector keeps its consent cache current, `follow` and
`consume` of `collector/src/consent.rs`: a snapshot first, then every change from the
position it hands over, and all of them again each time the consumer is reopened. The
cache keeps no positions, so it answers what the newest decision it applied says at
every moment exactly when nothing it is handed was superseded by what it already has.
-/

import Twalk.CollectorOwner
import Twalk.Library.Replay
import Twalk.Library.Stream

namespace Twalk.Collector

open Cache Cache.ConsentCache

/-! ### The follower -/

/-- An entry that entered the cache, and the position of the message it came with; the entries of
the snapshot come before every position. -/
structure Applied where
  position : Nat
  entry : ConsentEntry
deriving DecidableEq, Repr

/-- The collector's cache, the position its consumer starts at, the stream and where the consumer is
on it. What entered the cache is kept beside it. -/
structure Follower where
  cache : ConsentCache
  start : Nat
  stream : MessageStream (Option Json)
  next : Nat
  applied : List Applied

def Follower.follow (owner : Owner) (snapshot : Snapshot) (stream : MessageStream (Option Json)) :
    Follower where
  cache := (cacheFor owner).applySnapshot snapshot
  start := snapshot.nextStreamSequence
  stream := stream
  next := snapshot.nextStreamSequence
  applied := snapshot.entries.map fun entry => ⟨0, entry⟩

/-- What happens: the stream grows, other traffic takes positions, the consumer is reopened, it hands
over the next message, or the bus hands over one again. -/
inductive FollowerStep where
  | published (messageId : String) (payload : Option Json)
  | passed (count : Nat)
  | reopened
  | delivered
  | redelivered (position : Nat)

namespace Follower

def arriving (follower : Follower) : FollowerStep → Option (Message (Option Json))
  | .delivered => (follower.stream.messagesFrom follower.next).head?
  | .redelivered position =>
    (follower.stream.messagesFrom follower.start).find? fun message =>
      message.position == position
  | _ => none

def brought (message : Message (Option Json)) : List Applied :=
  (entriesOf message.payload).map fun entry => ⟨message.position, entry⟩

def take (follower : Follower) (message : Message (Option Json)) : Follower :=
  { follower with
    cache := consume follower.cache message.payload
    applied := follower.applied ++ brought message }

def step (follower : Follower) (next : FollowerStep) : Follower :=
  match next with
  | .published messageId payload =>
    { follower with stream := (follower.stream.publish messageId payload).1 }
  | .passed count => { follower with stream := follower.stream.advance count }
  | .reopened => { follower with next := follower.start }
  | .delivered =>
    match follower.arriving .delivered with
    | some message => { follower.take message with next := message.position + 1 }
    | none => follower
  | .redelivered position =>
    match follower.arriving (.redelivered position) with
    | some message => follower.take message
    | none => follower

/-! ### The newest decision -/

def setsPlace (follower : Follower) (place : Place) (applied : Applied) : Bool :=
  follower.cache.sets place applied.entry

def newestAt (follower : Follower) (place : Place) : Option Applied :=
  newest Applied.position (follower.setsPlace place) follower.applied

def newestStates (follower : Follower) : States where
  contacts id connection :=
    (follower.newestAt (.own id connection)).map fun applied => applied.entry.state
  defaults connection :=
    (follower.newestAt (.default connection)).map fun applied => applied.entry.state

/-- The cache answers what the newest decision it applied says: the subject's own, or the
connection's default. -/
def InForce (follower : Follower) : Prop :=
  ∀ subject connection, follower.cache.state subject connection =
    answerOf follower.newestStates subject connection

/-- A step hands over nothing that a newer decision, already applied, says otherwise about. -/
def NotSuperseded (follower : Follower) (next : FollowerStep) : Prop :=
  ∀ message, follower.arriving next = some message →
    ∀ place entry, latest (follower.cache.sets place) (entriesOf message.payload) = some entry →
      ∀ held, follower.newestAt place = some held → message.position < held.position →
        entry.state = held.entry.state

/-! ### What one message does -/

def Recorded (follower : Follower) : Prop :=
  follower.cache.states =
    (follower.applied.map Applied.entry).foldl follower.cache.take States.empty

variable {follower : Follower}

theorem recorded_take (recorded : follower.Recorded) (message : Message (Option Json)) :
    (follower.take message).Recorded := by
  unfold Recorded take brought
  rw [states_consume, take_consume, recorded, List.map_append, List.foldl_append, List.map_map,
    show (Applied.entry ∘ fun entry => (⟨message.position, entry⟩ : Applied)) = id from rfl,
    List.map_id]

theorem readAt_newestStates (follower : Follower) (place : Place) :
    readAt follower.newestStates place =
      (follower.newestAt place).map fun applied => applied.entry.state := by
  cases place <;> rfl

theorem readAt_states (recorded : follower.Recorded) (place : Place) :
    readAt follower.cache.states place =
      (latest (follower.setsPlace place) follower.applied).map fun applied =>
        applied.entry.state := by
  rw [recorded, readAt_foldl_take, latest_map, Option.map_map]
  cases place <;> exact Option.or_none

theorem inForce_iff (recorded : follower.Recorded) :
    follower.InForce ↔ ∀ place,
      readAt follower.cache.states place = readAt follower.newestStates place := by
  constructor
  · intro inForce
    obtain ⟨id, unnamed⟩ := exists_unnamed follower.cache (follower.applied.map Applied.entry)
    rw [← recorded] at unnamed
    refine states_eq_iff.mp (states_eq_of_answers (fun place => ?_) unnamed inForce)
    rw [readAt_states recorded, readAt_newestStates, Option.isSome_map, Option.isSome_map]
    exact (isSome_newest _).symm
  · intro same subject connection
    rw [state_eq_answerOf, states_eq_iff.mpr same]

theorem newestAt_take (follower : Follower) (message : Message (Option Json)) (place : Place) :
    (follower.take message).newestAt place =
      if notPast Applied.position (follower.newestAt place) message.position then
        ((latest (follower.cache.sets place) (entriesOf message.payload)).map fun entry =>
          ⟨message.position, entry⟩).or (follower.newestAt place)
      else follower.newestAt place := by
  have same : (follower.take message).setsPlace place = follower.setsPlace place := by
    unfold setsPlace take
    rw [sets_consume]
  have together : ∀ applied ∈ brought message, applied.position = message.position := by
    intro applied member
    obtain ⟨entry, _, rfl⟩ := List.mem_map.mp member
    rfl
  unfold newestAt
  rw [same]
  refine (newest_append_block follower.applied together).trans ?_
  unfold brought
  rw [latest_map]
  rfl

theorem inForce_take_iff (recorded : follower.Recorded) (inForce : follower.InForce)
    (message : Message (Option Json)) :
    (follower.take message).InForce ↔
      ∀ place entry,
        latest (follower.cache.sets place) (entriesOf message.payload) = some entry →
        ∀ held, follower.newestAt place = some held → message.position < held.position →
          entry.state = held.entry.state := by
  rw [inForce_iff (recorded_take recorded message)]
  refine forall_congr' fun place => ?_
  have before := (inForce_iff recorded).mp inForce place
  have after : readAt (follower.take message).cache.states place =
      ((latest (follower.cache.sets place) (entriesOf message.payload)).map
        ConsentEntry.state).or (readAt follower.cache.states place) := by
    unfold take
    rw [states_consume]
    exact readAt_foldl_take ..
  rw [after, before, readAt_newestStates, readAt_newestStates, newestAt_take]
  cases brings : latest (follower.cache.sets place) (entriesOf message.payload) with
  | none => simp
  | some entry =>
    cases known : follower.newestAt place with
    | none => simp [notPast]
    | some held =>
      by_cases late : message.position < held.position
      · have past : notPast Applied.position (some held) message.position = false := by
          simpa [notPast] using late
        simp [past, late]
      · have open_ : notPast Applied.position (some held) message.position = true := by
          simpa [notPast] using late
        simp [open_, late]

/-! ### Every moment of a run -/

theorem step_cases (follower : Follower) (next : FollowerStep) :
    (∃ message, follower.arriving next = some message ∧
        ∃ pointer, follower.step next = { follower.take message with next := pointer }) ∨
      follower.arriving next = none ∧ ∃ stream pointer,
        follower.step next = { follower with stream := stream, next := pointer } := by
  cases next with
  | published messageId payload => exact .inr ⟨rfl, _, follower.next, rfl⟩
  | passed count => exact .inr ⟨rfl, _, follower.next, rfl⟩
  | reopened => exact .inr ⟨rfl, follower.stream, _, rfl⟩
  | delivered =>
    unfold step
    cases arrives : follower.arriving .delivered with
    | none => exact .inr ⟨rfl, follower.stream, follower.next, rfl⟩
    | some message => exact .inl ⟨message, rfl, _, rfl⟩
  | redelivered position =>
    cases arrives : follower.arriving (.redelivered position) with
    | none =>
      refine .inr ⟨rfl, follower.stream, follower.next, ?_⟩
      dsimp only [step]
      rw [arrives]
    | some message =>
      refine .inl ⟨message, rfl, follower.next, ?_⟩
      dsimp only [step]
      rw [arrives]
      rfl

theorem recorded_step (recorded : follower.Recorded) (next : FollowerStep) :
    (follower.step next).Recorded := by
  rcases step_cases follower next with
    ⟨message, _, pointer, isStep⟩ | ⟨_, stream, pointer, isStep⟩
  · rw [isStep]
    exact recorded_take recorded message
  · rw [isStep]
    exact recorded

theorem inForce_step_iff (recorded : follower.Recorded) (inForce : follower.InForce)
    (next : FollowerStep) :
    (follower.step next).InForce ↔ follower.NotSuperseded next := by
  unfold NotSuperseded
  rcases step_cases follower next with
    ⟨message, arrives, pointer, isStep⟩ | ⟨quiet, stream, pointer, isStep⟩
  · rw [isStep, arrives]
    have taken := inForce_take_iff recorded inForce message
    constructor
    · rintro after _ ⟨rfl⟩
      exact taken.mp after
    · exact fun condition => taken.mpr (condition message rfl)
  · rw [isStep, quiet]
    exact ⟨fun _ _ absurdly => absurd absurdly (by simp), fun _ => inForce⟩

theorem inForce_follow (owner : Owner) (snapshot : Snapshot)
    (stream : MessageStream (Option Json)) :
    (follow owner snapshot stream).Recorded ∧ (follow owner snapshot stream).InForce := by
  have recorded : (follow owner snapshot stream).Recorded := by
    unfold Recorded follow
    rw [List.map_map, show (Applied.entry ∘ fun entry => (⟨0, entry⟩ : Applied)) = id from rfl,
      List.map_id]
    rfl
  refine ⟨recorded, (inForce_iff recorded).mpr fun place => ?_⟩
  have together : ∀ applied ∈ (follow owner snapshot stream).applied, applied.position = 0 := by
    intro applied member
    obtain ⟨entry, _, rfl⟩ := List.mem_map.mp member
    rfl
  rw [readAt_states recorded, readAt_newestStates]
  have all : newest Applied.position ((follow owner snapshot stream).setsPlace place)
      ([] ++ (follow owner snapshot stream).applied) = _ := newest_append_block [] together
  rw [List.nil_append] at all
  unfold newestAt
  rw [all]
  simp [notPast]

/-- At every moment of every run the cache answers what the newest decision it applied says, exactly
when no step hands over what such a decision superseded. -/
theorem inForce_iff_notSuperseded (owner : Owner) (snapshot : Snapshot)
    (stream : MessageStream (Option Json)) (steps : List FollowerStep) :
    (∀ front, front <+: steps → (run step (follow owner snapshot stream) front).InForce) ↔
      Along step NotSuperseded (follow owner snapshot stream) steps := by
  obtain ⟨recorded, inForce⟩ := inForce_follow owner snapshot stream
  rw [← invariant_along_iff (fun follower => follower.Recorded ∧ follower.InForce)
    (fun follower next kept => ?_) ⟨recorded, inForce⟩ steps]
  · refine forall₂_congr fun front _ => ⟨fun now => ⟨?_, now⟩, And.right⟩
    exact run_invariant Recorded (fun _ next kept => recorded_step kept next) recorded front
  · rw [inForce_step_iff kept.1 kept.2]
    exact and_iff_right (recorded_step kept.1 next)

namespace ReopenedConsumer

def decision (state : String) : Json :=
  .object [("data", .object [
    ("subject", .object [("type", .string "contact"), ("id", .string "mailto:alice@example.org")]),
    ("new_state", .string state),
    ("scope", .object [("connections", .array [.string "mail"])])])]

/-- A collector that starts before any decision. -/
def collector : Follower := follow (.new "me@example.org" []) ⟨[], [], 1⟩ .empty

def steps : List FollowerStep :=
  [.published "granted" (some (decision "granted")),
    .published "revoked" (some (decision "revoked")), .delivered, .delivered, .reopened, .delivered]

/-- Alice, whose revocation was applied, is granted again while the stream is replayed. -/
theorem granted_again : ¬ ∀ front, front <+: steps → (run step collector front).InForce := by
  intro always
  have after := always steps (List.prefix_refl steps) "mailto:alice@example.org" "mail"
  exact absurd after (by decide)

end ReopenedConsumer

end Follower

end Twalk.Collector
