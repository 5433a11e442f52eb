/-
This file is what a persona may read over every run of `Twalk.PersonaProcess`. A message is handed
to `_process` when its own label grants it, or when a replay reaches it. A replay trusts the one
decision it was begun for: while it ran and before it, another decision about the message may have
followed on the stream, and a decision reaches past the connections it names.
-/

import Twalk.Library.Ledger
import Twalk.PersonaProcess

namespace Twalk.Persona

/-! ### Who is granted when -/

def decisionsOn (stream : List Stored) : List Json :=
  stream.filterMap fun stored => if stored.topic = .decisions then stored.envelope else none

/-- Whether a decision is about the sender of a message, on the connection it arrived on. A
decision that names no connection is about the networks it names. -/
def concerns (event decision : Json) : Bool :=
  let connections := names (decision.pointer ["data", "scope", "connections"])
  let networks := names (decision.pointer ["data", "scope", "networks"])
  decision.textAt ["type"] == some consentChangedType &&
    decision.textAt ["data", "subject", "type"] == some "contact" &&
    (event.textAt ["subject"]).any (fun contact =>
      decision.textAt ["data", "subject", "id"] == some contact) &&
    if connections.isEmpty then (event.textAt ["network"]).any networks.contains
    else (event.textAt ["connection"]).any connections.contains

section Gate

variable (instant : String → Option Int) (reach : GrantReach) (personaId source : String)

def Reaches (event decision : Json) : Prop :=
  ∃ grant, grantIn instant decision = some grant ∧ reach.reaches instant event grant = true

/-- The last decision of a stream about the sender of a message, on its connection, is a grant that
reaches it. -/
def LastReaches (stream : List Stored) (event : Json) : Prop :=
  ∃ decision, latest (concerns event) (decisionsOn stream) = some decision ∧
    Reaches instant reach event decision

/-- A message was rightly handed over: it is an inbound message of the stream, and it was labelled
as granted, or from when its replay began until it was handed over the last decision about it was a
grant that reaches it. -/
structure Handing.Rightful (handing : Handing) (stream : List Stored) : Prop where
  held : stream[handing.position]?.bind Stored.envelope = some handing.event
  inbound : triggersAPersona handing.event = true
  granted : isGranted handing.event = true ∨ ∃ decision begun,
    handing.way = .replay decision begun ∧ begun ≤ handing.seen ∧
      ∀ length, begun ≤ length → length ≤ handing.seen →
        LastReaches instant reach (stream.take length) handing.event

def Process.Rightful (process : Process) : Prop :=
  ∀ handing ∈ process.handed, handing.Rightful instant reach process.stream

/-- What the replay hands over next, the decision it was begun for is about, and no later decision
is: except that the last one before the replay began, and each one since, is a grant that reaches
the message. -/
def Current (process : Process) : Happening → Prop
  | .reads => ∀ replay stored event, process.next = some (replay, stored) →
      Process.reached instant reach replay.grant stored = some event →
      (∀ decision, process.stream[replay.decision]?.bind Stored.envelope = some decision →
        concerns event decision = true) ∧
      ∀ length, replay.begun ≤ length → length ≤ process.stream.length → ∀ later,
        latest (concerns event)
          (decisionsOn ((process.stream.take length).drop (replay.decision + 1))) = some later →
        Reaches instant reach event later
  | _ => True

/-! ### What a process keeps -/

/-- A replay is for a decision the stream held when it began, and what was handed over stays
rightly handed over as the stream grows. -/
structure Process.Sound (process : Process) : Prop where
  begun : ∀ replay, process.replay = some replay →
    replay.decision < replay.begun ∧ replay.begun ≤ process.stream.length ∧
      ∃ stored decision, process.stream[replay.decision]? = some stored ∧
        stored.topic = .decisions ∧ stored.envelope = some decision ∧
        grantIn instant decision = some replay.grant
  handed : ∀ handing ∈ process.handed, handing.seen ≤ process.stream.length ∧
    handing.Rightful instant reach process.stream

section Steps

variable {instant reach personaId source}

theorem Process.Sound.rightful {process : Process} (sound : process.Sound instant reach) :
    process.Rightful instant reach :=
  fun handing isHanding => (sound.handed handing isHanding).2

theorem sound_started (stream : List Stored) (now : Int) :
    (started stream now).Sound instant reach where
  begun _ isReplay := nomatch isReplay
  handed _ isHanding := nomatch isHanding

theorem decisionsOn_append (front back : List Stored) :
    decisionsOn (front ++ back) = decisionsOn front ++ decisionsOn back := List.filterMap_append

theorem Handing.Rightful.grow {handing : Handing} {stream : List Stored}
    (rightful : handing.Rightful instant reach stream) (before : handing.seen ≤ stream.length)
    (more : List Stored) : handing.Rightful instant reach (stream ++ more) where
  held := by
    obtain ⟨stored, isStored, isEvent⟩ := Option.bind_eq_some_iff.mp rightful.held
    rw [List.getElem?_append_left (List.getElem?_eq_some_iff.mp isStored).1, isStored]
    exact isEvent
  inbound := rightful.inbound
  granted := by
    refine rightful.granted.imp_right ?_
    rintro ⟨decision, begun, isReplay, started, always⟩
    refine ⟨decision, begun, isReplay, started, fun length since upTo => ?_⟩
    rw [List.take_append_of_le_length (upTo.trans before)]
    exact always length since upTo

variable {stored : Stored}

theorem lastReaches_of_later {stream : List Stored} {position : Nat} {event decision : Json}
    (isStored : stream[position]? = some stored) (topic : stored.topic = .decisions)
    (isDecision : stored.envelope = some decision) (about : concerns event decision = true)
    (reaches : Reaches instant reach event decision)
    (later : ∀ later, latest (concerns event) (decisionsOn (stream.drop (position + 1))) =
      some later → Reaches instant reach event later) :
    LastReaches instant reach stream event := by
  obtain ⟨within, isAt⟩ := List.getElem?_eq_some_iff.mp isStored
  have split : decisionsOn stream = decisionsOn (stream.take position) ++
      decision :: decisionsOn (stream.drop (position + 1)) := by
    conv_lhs => rw [← List.take_append_drop position stream, List.drop_eq_getElem_cons within, isAt]
    rw [decisionsOn_append]
    simp [decisionsOn, topic, isDecision]
  cases isLater : latest (concerns event) (decisionsOn (stream.drop (position + 1))) with
  | some last =>
    refine ⟨last, ?_, later last isLater⟩
    rw [split, latest_append, latest_cons, isLater]
    rfl
  | none =>
    refine ⟨decision, ?_, reaches⟩
    rw [split, latest_append, latest_cons, isLater, if_pos about]
    rfl

theorem publish_frame (personaId source : String) (process : Process) (event : Json) (way : Way)
    (outcome : Outcome) : ∃ published, process.publish personaId source event way outcome =
      { process with published := published } := by
  unfold Process.publish
  split
  · exact ⟨process.published, rfl⟩
  · split
    · exact ⟨process.published, rfl⟩
    · exact ⟨_, rfl⟩

namespace Process.Sound

variable {process : Process}

theorem same (sound : process.Sound instant reach) {after : Process}
    (stream : after.stream = process.stream) (handed : after.handed = process.handed)
    (goesOn : ∀ replay, after.replay = some replay → ∃ before, process.replay = some before ∧
      before.decision = replay.decision ∧ before.begun = replay.begun ∧
      before.grant = replay.grant) : after.Sound instant reach where
  begun replay isReplay := by
    obtain ⟨before, isBefore, isDecision, isBegun, isGrant⟩ := goesOn replay isReplay
    rw [stream, ← isDecision, ← isBegun, ← isGrant]
    exact sound.begun before isBefore
  handed handing isHanding := by
    rw [stream]
    exact sound.handed handing (handed ▸ isHanding)

theorem stores (sound : process.Sound instant reach) (stored : Stored) :
    ({ process with stream := process.stream ++ [stored] } : Process).Sound instant reach where
  begun replay isReplay := by
    obtain ⟨before, within, held, decision, isHeld, rest⟩ := sound.begun replay isReplay
    refine ⟨before, within.trans (List.length_append ▸ Nat.le_add_right _ _), held, decision, ?_,
      rest⟩
    rw [List.getElem?_append_left (List.getElem?_eq_some_iff.mp isHeld).1]
    exact isHeld
  handed handing isHanding := by
    obtain ⟨before, rightful⟩ := sound.handed handing isHanding
    exact ⟨before.trans (List.length_append ▸ Nat.le_add_right _ _), rightful.grow before _⟩

theorem hands (sound : process.Sound instant reach) (position : Nat) (event : Json) (way : Way)
    (rightful : (⟨position, event, way, process.stream.length, process.now⟩ : Handing).Rightful
      instant reach process.stream) : (process.hand position event way).Sound instant reach where
  begun := sound.begun
  handed handing isHanding := by
    rcases List.mem_append.mp isHanding with isOld | isNew
    · exact sound.handed handing isOld
    · rw [List.mem_singleton.mp isNew]
      exact ⟨Nat.le_refl _, rightful⟩

theorem handle (sound : process.Sound instant reach) (position : Nat) :
    (process.handle position).Sound instant reach := by
  unfold Process.handle
  split
  · exact sound.same rfl rfl fun replay isReplay => ⟨replay, isReplay, rfl, rfl, rfl⟩
  · rename_i event isEvent
    split
    · rename_i passes
      obtain ⟨triggers, granted⟩ := Bool.and_eq_true_iff.mp passes
      have handed := sound.hands position event .live ⟨isEvent, triggers, .inl granted⟩
      exact handed.same rfl rfl fun replay isReplay => ⟨replay, isReplay, rfl, rfl, rfl⟩
    · exact sound.same rfl rfl fun replay isReplay => ⟨replay, isReplay, rfl, rfl, rfl⟩

theorem decided (sound : process.Sound instant reach) {position : Nat}
    (isStored : process.stream[position]? = some stored) (topic : stored.topic = .decisions) :
    (process.decided instant reach position).Sound instant reach := by
  unfold Process.decided
  split
  · exact sound.same rfl rfl fun replay isReplay => ⟨replay, isReplay, rfl, rfl, rfl⟩
  · rename_i grant isGrant
    split
    · rw [isStored, Option.bind_some] at isGrant
      obtain ⟨decision, isDecision, reads⟩ := Option.bind_eq_some_iff.mp isGrant
      refine ⟨?_, sound.handed⟩
      rintro replay ⟨⟩
      exact ⟨(List.getElem?_eq_some_iff.mp isStored).1, Nat.le_refl _, stored, decision, isStored,
        topic, isDecision, reads⟩
    · exact sound.same rfl rfl fun replay isReplay => ⟨replay, isReplay, rfl, rfl, rfl⟩

theorem of_reached {grant : Grant} {event : Json}
    (isReached : Process.reached instant reach grant stored = some event) :
    stored.envelope = some event ∧ triggersAPersona event = true ∧
      reach.reaches instant event grant = true := by
  unfold Process.reached at isReached
  split at isReached
  · obtain ⟨isEvent, passes⟩ := Option.filter_eq_some_iff.mp isReached
    exact ⟨isEvent, Bool.and_eq_true_iff.mp passes⟩
  · cases isReached

theorem of_next {replay : Replay} (isNext : process.next = some (replay, stored)) :
    process.replay = some replay ∧ process.stream[replay.cursor]? = some stored := by
  obtain ⟨before, isReplay, goesOn⟩ := Option.bind_eq_some_iff.mp isNext
  split at goesOn
  · obtain ⟨held, isHeld, same⟩ := Option.map_eq_some_iff.mp goesOn
    cases same
    exact ⟨isReplay, isHeld⟩
  · cases goesOn

theorem reads (sound : process.Sound instant reach) {replay : Replay}
    (isNext : process.next = some (replay, stored)) (current : Current instant reach process .reads)
    :
    (process.read instant reach replay stored).Sound instant reach := by
  obtain ⟨isReplay, isStored⟩ := of_next isNext
  unfold Process.read
  dsimp only
  split
  · rename_i event isReached
    obtain ⟨isEvent, triggers, reaches⟩ := of_reached isReached
    obtain ⟨about, later⟩ := current replay stored event isNext isReached
    obtain ⟨before, within, held, decision, isHeld, topic, isDecision, isGrant⟩ :=
      sound.begun replay isReplay
    have handed := sound.hands replay.cursor event (.replay replay.decision replay.begun) {
        held := by rw [isStored]; exact isEvent
        inbound := triggers
        granted := .inr ⟨replay.decision, replay.begun, rfl, within, fun length since upTo =>
          lastReaches_of_later
            ((List.getElem?_take_of_lt (before.trans_le since)).trans isHeld) topic isDecision
            (about decision (by rw [isHeld]; exact isDecision)) ⟨replay.grant, isGrant, reaches⟩
            (later length since upTo)⟩ }
    refine handed.same rfl rfl ?_
    rintro _ ⟨⟩
    exact ⟨replay, isReplay, rfl, rfl, rfl⟩
  · refine sound.same rfl rfl ?_
    rintro _ ⟨⟩
    exact ⟨replay, isReplay, rfl, rfl, rfl⟩

theorem step (sound : process.Sound instant reach) {happening : Happening}
    (current : Current instant reach process happening) :
    (process.step instant reach personaId source happening).Sound instant reach := by
  have still : ∀ replay, process.replay = some replay → ∃ before, process.replay = some before ∧
      before.decision = replay.decision ∧ before.begun = replay.begun ∧
      before.grant = replay.grant := fun replay isReplay => ⟨replay, isReplay, rfl, rfl, rfl⟩
  cases happening with
  | stores topic payload => exact sound.stores _
  | passes microseconds => exact sound.same rfl rfl still
  | fetches position =>
    rw [Process.step]
    split
    · exact sound.same rfl rfl still
    · exact sound
  | handles =>
    rw [Process.step]
    split
    · exact sound.handle _
    · exact sound
  | answers outcome =>
    rw [Process.step]
    split
    · rename_i position event _
      obtain ⟨published, isPublished⟩ := publish_frame personaId source process event .live
        outcome
      dsimp only
      rw [isPublished]
      split
      · exact sound.same rfl rfl still
      · exact sound.same rfl rfl still
    · exact sound
  | decides position =>
    rw [Process.step]
    split
    · rename_i offered
      have offers := (Bool.and_eq_true_iff.mp offered).2
      unfold Process.offers at offers
      cases isStored : process.stream[position]? with
      | none =>
        rw [isStored] at offers
        cases offers
      | some stored =>
        rw [isStored] at offers
        simp only [Option.any_some, Bool.and_eq_true, decide_eq_true_eq] at offers
        exact sound.decided isStored offers.1.1
    · exact sound
  | reads =>
    rw [Process.step]
    split
    · rename_i replay stored isNext
      exact sound.reads isNext current
    · exact sound
  | resumes outcome =>
    rw [Process.step]
    split
    · rename_i replay isReplay
      split
      · rename_i event _
        obtain ⟨published, isPublished⟩ := publish_frame personaId source process event
          (.replay replay.decision replay.begun) outcome
        rw [isPublished]
        refine sound.same rfl rfl ?_
        rintro _ ⟨⟩
        exact ⟨replay, isReplay, rfl, rfl, rfl⟩
      · exact sound
    · exact sound
  | ends =>
    rw [Process.step]
    split
    · split
      · split
        · exact sound.same rfl rfl nofun
        · exact sound.same rfl rfl nofun
      · exact sound
    · exact sound
  | restarts => exact sound.same rfl rfl nofun

end Process.Sound

/-- A persona has rightly been handed every message it was handed, in every state of a run in which
each replay is current where it hands a message over. -/
theorem rightful_of_current {stream : List Stored} {now : Int} {happenings : List Happening}
    (current : Along (Process.step instant reach personaId source) (Current instant reach)
      (started stream now) happenings) :
    ∀ reached, reached <+: happenings →
      (run (Process.step instant reach personaId source) (started stream now) reached).Rightful
        instant reach := by
  rintro reached ⟨rest, rfl⟩
  exact (run_invariant_along (Process.Sound instant reach)
    (fun _ _ sound current => sound.step current) (sound_started stream now)
    (along_append.mp current).1).rightful

end Steps

end Gate

/-! ### A grant that was withdrawn -/

def readsClock (text : String) : Option Int :=
  if text = "2026-09-24T10:00:00.000Z" then some 36000000000
  else if text = "2026-09-24T09:59:21Z" then some 35961000000
  else none

def tenMinutes : GrantReach := ⟨600, by decide⟩

/-- A decision about the sender of a message, on one of two accounts of a network. -/
def decisionOn (connection state : String) : Json := .object [
  ("type", .string consentChangedType),
  ("data", .object [
    ("subject", .object [("type", .string "contact"), ("id", .string "@alice:example.com")]),
    ("new_state", .string state),
    ("scope", .object [
      ("connections", .array [.string connection]), ("networks", .array [.string "whatsapp"])]),
    ("occurred_at", .string "2026-09-24T10:00:00.000Z")])]

def grants : List Happening := [
  .stores .messages (some (waitingOn "wa1")),
  .stores .decisions (some (decisionOn "wa1" "granted")),
  .decides 1, .reads]

def withdraws : List Happening := [
  .stores .messages (some (waitingOn "wa1")),
  .stores .decisions (some (decisionOn "wa1" "granted")),
  .stores .decisions (some (decisionOn "wa1" "revoked")), .decides 1, .reads]

def grantsElsewhere : List Happening := [
  .stores .messages (some (waitingOn "wa2")),
  .stores .decisions (some (decisionOn "wa1" "granted")),
  .decides 1, .reads]

def after (happenings : List Happening) : Process :=
  run (Process.step readsClock tenMinutes "bridget" "twalk/persona") (started [] 36001000000)
    happenings

/-- A grant that stands is rightly replayed. -/
theorem rightful_grants : (after grants).Rightful readsClock tenMinutes := by
  refine rightful_of_current ?_ grants List.prefix_rfl
  refine ⟨trivial, trivial, trivial, ?_, trivial⟩
  rintro replay stored event ⟨⟩ ⟨⟩
  refine ⟨?_, fun length since upTo later isLater => ?_⟩
  · rintro decision ⟨⟩
    rfl
  · obtain rfl : length = 2 := Nat.le_antisymm upTo since
    cases isLater

/-- The replay hands over a message whose sender was revoked on its connection, and one whose
sender was never granted on its connection. -/
theorem not_rightful : ¬ (after withdraws).Rightful readsClock tenMinutes ∧
    ¬ (after grantsElsewhere).Rightful readsClock tenMinutes := by
  constructor
  · intro rightful
    have handing := rightful ⟨0, waitingOn "wa1", .replay 1 3, 3, 36001000000⟩
      (List.mem_singleton_self _)
    rcases handing.granted with granted | ⟨_, _, isReplay, started, always⟩
    · exact absurd granted (by decide)
    · cases isReplay
      obtain ⟨decision, isLast, grant, isGrant, -⟩ := always 3 (Nat.le_refl _) started
      have revoked : latest (concerns (waitingOn "wa1")) (decisionsOn (after withdraws).stream) =
          some (decisionOn "wa1" "revoked") := rfl
      cases revoked.symm.trans isLast
      cases isGrant
  · intro rightful
    have handing := rightful ⟨0, waitingOn "wa2", .replay 1 2, 2, 36001000000⟩
      (List.mem_singleton_self _)
    rcases handing.granted with granted | ⟨_, _, isReplay, started, always⟩
    · exact absurd granted (by decide)
    · cases isReplay
      obtain ⟨decision, isLast, -⟩ := always 2 (Nat.le_refl _) started
      have none : latest (concerns (waitingOn "wa2")) (decisionsOn (after grantsElsewhere).stream) =
          none := rfl
      cases none.symm.trans isLast

end Twalk.Persona
