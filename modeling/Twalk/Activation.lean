/-
This file models `hermes/src/activation.rs`: what the runtime reads of the owner's decisions about
a persona, from an event of the stream and from an entry of the Gateway's snapshot, and what it
keeps of them. It keeps one state for each persona and network, the last one it was told.
-/

import Twalk.Library.Json
import Twalk.Library.Ledger
import Twalk.Library.Sorting
import Mathlib.Data.List.Nodup

namespace Twalk.Hermes

/-! ### One decision -/

def consentChangedType : String := "fr.linagora.twalk.consent.state.changed.v1"

def messageReceivedType : String := "fr.linagora.twalk.inbound.message.received.v1"

def grantedLabel : String := "granted"

def pausedSubject (subjectPrefix personaId : String) : String :=
  subjectPrefix ++ ".hermes.paused." ++ personaId

structure PersonaDecision where
  personaId : String
  networks : List String
  newState : String
deriving DecidableEq, Repr

def PersonaDecision.isAbout (personaId network : String) (decision : PersonaDecision) : Bool :=
  decision.personaId == personaId && decision.networks.contains network

def PersonaDecision.parse (event : Json) : Option PersonaDecision :=
  if event.textAt ["type"] ≠ some consentChangedType then none
  else if event.textAt ["data", "subject", "type"] ≠ some "persona" then none
  else do
    let listed ← (event.pointer ["data", "scope", "networks"]).bind Json.asArray
    let networks := listed.filterMap Json.asStr
    if networks.isEmpty then none
    else do
      let personaId ← event.textAt ["data", "subject", "id"]
      let newState ← event.textAt ["data", "new_state"]
      return ⟨personaId, networks, newState⟩

/-! ### The snapshot -/

structure Snapshot where
  decisions : List PersonaDecision
  followFrom : Nat
deriving DecidableEq, Repr

namespace Snapshot

/-- An entry as a decision about one persona on one network, with the position it was decided at.
An entry that names no position is placed before every one that does. -/
def decision (entry : Json) : Option (Nat × PersonaDecision) :=
  if entry.textAt ["subject", "type"] ≠ some "persona" then none
  else do
    let network ← (entry.textAt ["network"]).filter fun network => network != ""
    let decidedAt := ((entry.get? "decision_sequence").bind Json.asNat).getD 0
    let personaId ← entry.textAt ["subject", "id"]
    let newState ← entry.textAt ["state"]
    return (decidedAt, ⟨personaId, [network], newState⟩)

def inOrder (decided : List (Nat × PersonaDecision)) : List (Nat × PersonaDecision) :=
  decided.insertionSort fun first second => first.1 ≤ second.1

/-- The snapshot of a document, if it says where to follow the stream from. An entry that cannot
be read is left out. -/
def read (document : Json) : Option Snapshot := do
  let followFrom ← ((document.get? "next_stream_sequence").bind Json.asNat).filter fun sequence =>
    1 ≤ sequence
  let decided := (((document.get? "entries").bind Json.asArray).getD []).filterMap decision
  return ⟨(inOrder decided).map Prod.snd, followFrom⟩

end Snapshot

/-! ### What is kept -/

/-- The last decision told about each persona on each network. -/
structure Activation where
  states : List ((String × String) × String)
  once : (states.map Prod.fst).Nodup

namespace Activation

def new : Activation := ⟨[], List.nodup_nil⟩

def insert (activation : Activation) (personaId network state : String) : Activation where
  states := ((personaId, network), state) ::
    activation.states.filter fun entry => entry.1 != (personaId, network)
  once := by
    rw [List.map_cons]
    refine List.nodup_cons.mpr ⟨fun member => ?_, activation.once.sublist ?_⟩
    · obtain ⟨entry, kept, same⟩ := List.mem_map.mp member
      have other := (List.mem_filter.mp kept).2
      rw [same] at other
      exact absurd other (by simp)
    · exact List.filter_sublist.map Prod.fst

def apply (activation : Activation) (decision : PersonaDecision) : Activation :=
  decision.networks.foldl
    (fun activation network => activation.insert decision.personaId network decision.newState)
    activation

def stateOf (activation : Activation) (personaId network : String) : Option String :=
  (activation.states.find? fun entry => entry.1 == (personaId, network)).map Prod.snd

/-- Whether a persona may be handed events at all. -/
def isActive (activation : Activation) (personaId : String) : Bool :=
  activation.states.any fun entry => entry.1.1 == personaId && entry.2 == grantedLabel

def decidedAbout (activation : Activation) (personaId : String) : Bool :=
  activation.states.any fun entry => entry.1.1 == personaId

def grantedNetworks (activation : Activation) (personaId : String) : List String :=
  sortTexts ((activation.states.filter fun entry =>
    entry.1.1 == personaId && entry.2 == grantedLabel).map fun entry => entry.1.2)

def follow (activation : Activation) (events : List Json) : Activation :=
  (events.filterMap PersonaDecision.parse).foldl apply activation

/-! ### What is read back -/

variable (activation : Activation) (personaId network : String)

theorem stateOf_insert (other : String) (state : String) (on : String) :
    (activation.insert other on state).stateOf personaId network =
      if other = personaId ∧ on = network then some state
      else activation.stateOf personaId network := by
  unfold stateOf insert
  rw [List.find?_cons]
  by_cases same : other = personaId ∧ on = network
  · obtain ⟨rfl, rfl⟩ := same
    simp
  · rw [if_neg same]
    have differs : ((other, on) == (personaId, network)) = false := by
      simpa [Prod.ext_iff] using same
    rw [differs]
    simp only
    rw [List.find?_filter]
    congr 2
    funext entry
    by_cases named : entry.1 = (personaId, network)
    · have kept : (entry.1 != (other, on)) = true := by
        rw [named]
        exact bne_iff_ne.mpr (Ne.symm (beq_eq_false_iff_ne.mp differs))
      rw [kept]
      simp [named]
    · simp [named]

theorem stateOf_apply (decision : PersonaDecision) :
    (activation.apply decision).stateOf personaId network =
      if decision.isAbout personaId network then some decision.newState
      else activation.stateOf personaId network := by
  obtain ⟨subject, networks, state⟩ := decision
  unfold apply PersonaDecision.isAbout
  simp only
  induction networks generalizing activation with
  | nil => simp
  | cons on rest inductionHypothesis =>
    rw [List.foldl_cons, inductionHypothesis, stateOf_insert]
    by_cases about : subject = personaId
    · by_cases same : on = network
      · simp [about, same]
      · simp [about, same, Ne.symm same]
    · simp [about]

theorem stateOf_foldl_apply (decisions : List PersonaDecision) :
    (decisions.foldl apply activation).stateOf personaId network =
      ((latest (PersonaDecision.isAbout personaId network) decisions).map
        PersonaDecision.newState).or (activation.stateOf personaId network) := by
  refine read_foldl (fun activation => activation.stateOf personaId network)
    (fun activation decision about => ?_) (fun activation decision about => ?_) decisions activation
  · exact (stateOf_apply activation personaId network decision).trans (if_pos about)
  · refine (stateOf_apply activation personaId network decision).trans (if_neg ?_)
    rw [about]
    exact Bool.false_ne_true

@[simp] theorem stateOf_new : new.stateOf personaId network = none := rfl

variable {activation personaId network}

theorem mem_states {state : String} :
    ((personaId, network), state) ∈ activation.states ↔
      activation.stateOf personaId network = some state := by
  unfold stateOf
  constructor
  · intro member
    cases found : activation.states.find? fun entry => entry.1 == (personaId, network) with
    | none =>
      have absent := List.find?_eq_none.mp found _ member
      simp at absent
    | some entry =>
      have named : entry.1 = (personaId, network) := eq_of_beq (List.find?_some found :)
      have same : entry = ((personaId, network), state) :=
        List.inj_on_of_nodup_map activation.once (List.mem_of_find?_eq_some found) member named
      rw [same]
      rfl
  · intro read
    obtain ⟨entry, found, isState⟩ := Option.map_eq_some_iff.mp read
    have named : entry.1 = (personaId, network) := eq_of_beq (List.find?_some found :)
    have member := List.mem_of_find?_eq_some found
    rw [← named, ← isState]
    exact member

theorem isActive_iff :
    activation.isActive personaId = true ↔
      ∃ network, activation.stateOf personaId network = some grantedLabel := by
  unfold isActive
  rw [List.any_eq_true]
  constructor
  · rintro ⟨⟨⟨subject, network⟩, state⟩, member, tests⟩
    rw [Bool.and_eq_true, beq_iff_eq, beq_iff_eq] at tests
    obtain ⟨rfl, rfl⟩ := tests
    exact ⟨network, mem_states.mp member⟩
  · rintro ⟨network, read⟩
    exact ⟨_, mem_states.mpr read, by simp⟩

theorem decidedAbout_iff :
    activation.decidedAbout personaId = true ↔
      ∃ network state, activation.stateOf personaId network = some state := by
  unfold decidedAbout
  rw [List.any_eq_true]
  constructor
  · rintro ⟨⟨⟨subject, network⟩, state⟩, member, about⟩
    obtain rfl : subject = personaId := eq_of_beq about
    exact ⟨network, state, mem_states.mp member⟩
  · rintro ⟨network, state, read⟩
    exact ⟨_, mem_states.mpr read, by simp⟩

theorem mem_grantedNetworks :
    network ∈ activation.grantedNetworks personaId ↔
      activation.stateOf personaId network = some grantedLabel := by
  unfold grantedNetworks
  rw [(perm_sortTexts _).mem_iff, List.mem_map]
  constructor
  · rintro ⟨⟨⟨subject, on⟩, state⟩, member, rfl⟩
    obtain ⟨kept, tests⟩ := List.mem_filter.mp member
    rw [Bool.and_eq_true, beq_iff_eq, beq_iff_eq] at tests
    obtain ⟨rfl, rfl⟩ := tests
    exact mem_states.mp kept
  · intro read
    exact ⟨_, List.mem_filter.mpr ⟨mem_states.mpr read, by simp⟩, rfl⟩

theorem nodup_grantedNetworks : (activation.grantedNetworks personaId).Nodup := by
  unfold grantedNetworks
  rw [(perm_sortTexts _).nodup_iff]
  refine List.Nodup.map_on ?_ ((List.Nodup.of_map _ activation.once).filter _)
  rintro ⟨⟨subject, on⟩, state⟩ member ⟨⟨other, elsewhere⟩, otherState⟩ otherMember same
  obtain ⟨-, tests⟩ := List.mem_filter.mp member
  obtain ⟨-, otherTests⟩ := List.mem_filter.mp otherMember
  rw [Bool.and_eq_true, beq_iff_eq, beq_iff_eq] at tests otherTests
  obtain ⟨rfl, rfl⟩ := tests
  obtain ⟨rfl, rfl⟩ := otherTests
  obtain rfl : on = elsewhere := same
  rfl

theorem reads_eq_of_stateOf_eq {first second : Activation}
    (same : ∀ personaId network, first.stateOf personaId network =
      second.stateOf personaId network) (personaId : String) :
    first.isActive personaId = second.isActive personaId ∧
      first.decidedAbout personaId = second.decidedAbout personaId ∧
      first.grantedNetworks personaId = second.grantedNetworks personaId := by
  refine ⟨?_, ?_, ?_⟩
  · rw [Bool.eq_iff_iff, isActive_iff, isActive_iff]
    simp only [same]
  · rw [Bool.eq_iff_iff, decidedAbout_iff, decidedAbout_iff]
    simp only [same]
  · have permuted : (first.grantedNetworks personaId).Perm (second.grantedNetworks personaId) := by
      rw [List.perm_ext_iff_of_nodup nodup_grantedNetworks nodup_grantedNetworks]
      intro network
      rw [mem_grantedNetworks, mem_grantedNetworks, same]
    exact permuted.eq_of_pairwise (fun _ _ _ _ => textLe_antisymm) (pairwise_sortTexts _)
      (pairwise_sortTexts _)

end Activation

end Twalk.Hermes
