/-
This file follows the triage journal and the proposals through any interleaving
of calls. An approval appends its set and marks its proposal under two locks, and
a set it read may be replaced before it appends. Where no other call comes in
between, each approved proposal contributed one decision and no other proposal
any, a call that failed appended nothing, and each approval extended the set in
force when it appended. One refusal that comes in between makes a rule of a
refused proposal.
-/

import Twalk.Library.Fallible
import Twalk.Proposals
import Mathlib.Data.List.Basic

namespace Twalk.Proposals

open MailRules

/-! ### What a call has done -/

/-- The row is appended and the call goes on. -/
def Stage.underway : Stage → Bool
  | .recorded => true
  | .answered _ => true
  | _ => false

namespace Call

def approves (sequence : Nat) (call : Call) : Bool :=
  match call.request with
  | .decide other approve _ _ => approve && other == sequence
  | .record .. => false

/-- An approval that appended its set. -/
def contributes (sequence : Nat) (call : Call) : Bool :=
  call.approves sequence && call.written.isSome

/-- An approval that appended its set and has yet to mark the proposal. -/
def owes (sequence : Nat) (call : Call) : Bool :=
  call.approves sequence && call.stage.underway

end Call

namespace TriageStore

def ruleOf (store : TriageStore) (sequence : Nat) : Option Rule :=
  (store.proposal sequence).bind fun row => Rule.read row.rule

def Adopted (store : TriageStore) (sequence place : Nat) : Prop :=
  ∃ rule triage row, store.ruleOf sequence = some rule ∧
    inForce (store.decisions.take place) = .ok triage ∧
    store.decisions[place]? = some row ∧ row.read = .ok (triage.adopt rule)

end TriageStore

namespace Desk

/-- How many decisions a proposal contributed to the triage journal. -/
def contributed (desk : Desk) (sequence : Nat) : Nat :=
  desk.calls.countP (Call.contributes sequence)

/-- How many approvals of a proposal have appended their set and not returned. -/
def owed (desk : Desk) (sequence : Nat) : Nat :=
  desk.calls.countP (Call.owes sequence)

def Settled (desk : Desk) : Prop :=
  ∀ call ∈ desk.calls, ∃ answer, call.stage = .returned answer

/-- What the owner may rely on: a proposal contributed a decision exactly when it was approved,
and then one; a call that failed left the journal as it found it; and an approval undid no set
that was in force when it appended its own. -/
structure Faithful (before : TriageStore) (desk : Desk) : Prop where
  declined : desk.Settled → ∀ sequence, desk.store.stateOf sequence ≠ some .approved →
    desk.contributed sequence = 0
  approved : desk.Settled → ∀ sequence, before.stateOf sequence ≠ some .approved →
    desk.store.stateOf sequence = some .approved → desk.contributed sequence = 1
  failed : ∀ call ∈ desk.calls, ∀ failure, call.stage = .returned (.error failure) →
    call.written = none
  extended : ∀ call ∈ desk.calls, ∀ sequence place, call.approves sequence = true →
    call.written = some place → desk.store.Adopted sequence place

/-- Nothing comes between the statements of a call that belong together. An approval appends
while its proposal is undecided, no other approval of it is between its row and its mark, and
the set in force is the one it read; a refusal marks while no approval of the proposal is
between its row and its mark; and after its row no statement of a call fails. -/
def Undisturbed (desk : Desk) (fails : Bool) (call : Call) : Prop :=
  match call.stage, call.request with
  | .setRead _ triage, .decide sequence _ _ _ => fails = false →
    desk.store.stateOf sequence = some .proposed ∧ desk.owed sequence = 0 ∧
      desk.store.mailTriage.toOption = some triage
  | .recorded, _ => fails = false
  | .answered _, _ => fails = false
  | .refusing, .decide sequence _ _ _ => fails = false →
    desk.store.stateOf sequence = some .proposed → desk.owed sequence = 0
  | _, _ => True

instance (desk : Desk) (fails : Bool) (call : Call) : Decidable (desk.Undisturbed fails call) :=
  match call with
  | ⟨.decide _ _ _ _, .setRead _ _, _⟩ => inferInstanceAs (Decidable (_ → _ ∧ _ ∧ _))
  | ⟨.decide _ _ _ _, .refusing, _⟩ => inferInstanceAs (Decidable (_ → _ → _))
  | ⟨.record _ _ _ _, .setRead _ _, _⟩ => inferInstanceAs (Decidable True)
  | ⟨.record _ _ _ _, .refusing, _⟩ => inferInstanceAs (Decidable True)
  | ⟨_, .recorded, _⟩ => inferInstanceAs (Decidable (_ = _))
  | ⟨_, .answered _, _⟩ => inferInstanceAs (Decidable (_ = _))
  | ⟨_, .begun, _⟩ => inferInstanceAs (Decidable True)
  | ⟨_, .ruleRead _, _⟩ => inferInstanceAs (Decidable True)
  | ⟨_, .refused, _⟩ => inferInstanceAs (Decidable True)
  | ⟨_, .returned _, _⟩ => inferInstanceAs (Decidable True)

def Orderly (desk : Desk) : DeskStep → Prop
  | .advance index fails => ∀ call ∈ desk.calls[index]?, desk.Undisturbed fails call
  | _ => True

instance (desk : Desk) : (next : DeskStep) → Decidable (desk.Orderly next)
  | .advance _ _ => inferInstanceAs (Decidable (∀ call ∈ _, _))
  | .propose _ _ _ => inferInstanceAs (Decidable True)
  | .call _ => inferInstanceAs (Decidable True)

end Desk

/-! ### What the statements leave -/

@[simp] theorem inForce_concat (decisions : List TriageRow) (row : TriageRow) :
    inForce (decisions ++ [row]) = row.read := by
  simp [inForce]

@[simp] theorem TriageRow.read_write (triage : Option Triage) (occurredAt actor : String)
    (reason : Option String) :
    (TriageRow.write triage occurredAt actor reason).read = .ok (triage.getD Triage.default) := by
  cases triage with
  | none => rfl
  | some triage => simp [TriageRow.read, TriageRow.write, Triage.read_document]

variable {before after : TriageStore}

variable {sequence : Nat} {store : TriageStore}

namespace TriageStore

theorem undecided_eq_some_iff {document : Json} :
    store.undecided sequence = some document ↔
      ∃ row, store.proposal sequence = some row ∧ row.state = .proposed ∧ row.rule = document := by
  unfold undecided
  cases store.proposal sequence with
  | none => simp
  | some row => by_cases open_ : row.state = .proposed <;> simp [open_]

theorem sequence_of_proposal {row : ProposalRow} (found : store.proposal sequence = some row) :
    row.sequence = sequence := by
  unfold proposal at found
  exact eq_of_beq (List.find?_some found :)

theorem proposal_withDecision (store : TriageStore) (sequence : Nat) (approve : Bool)
    (decidedAt : String) (other : Nat) :
    (store.withDecision sequence approve decidedAt).proposal other =
      (store.proposal other).map fun row =>
        if row.sequence = sequence then row.decide approve decidedAt else row := by
  unfold proposal withDecision
  rw [List.find?_map]
  congr 2
  funext row
  show ((if row.sequence = sequence then row.decide approve decidedAt else row).sequence ==
    other) = _
  split <;> rfl

@[simp] theorem ruleOf_withDecision (store : TriageStore) (sequence : Nat) (approve : Bool)
    (decidedAt : String) (other : Nat) :
    (store.withDecision sequence approve decidedAt).ruleOf other = store.ruleOf other := by
  unfold ruleOf
  rw [proposal_withDecision, Option.bind_map]
  congr 1
  funext row
  show Rule.read (if row.sequence = sequence then row.decide approve decidedAt else row).rule = _
  split <;> rfl

theorem stateOf_withDecision (store : TriageStore) (sequence : Nat) (approve : Bool)
    (decidedAt : String) (other : Nat) :
    (store.withDecision sequence approve decidedAt).stateOf other =
      if other = sequence then (store.stateOf other).map fun _ => decidedAs approve
      else store.stateOf other := by
  unfold stateOf
  rw [proposal_withDecision]
  cases found : store.proposal other with
  | none => simp
  | some row =>
    rw [Option.map_some, Option.map_some, sequence_of_proposal found]
    split <;> rfl

theorem markProposal_of_proposed (undecided : store.stateOf sequence = some .proposed)
    (approve : Bool) (decidedAt : String) :
    store.markProposal sequence approve decidedAt =
      .ok (store.withDecision sequence approve decidedAt) := by
  obtain ⟨row, found, proposed⟩ := Option.map_eq_some_iff.mp undecided
  unfold markProposal
  rw [found]
  exact if_pos proposed

theorem markProposal_of_not_proposed (settled : store.stateOf sequence ≠ some .proposed)
    (approve : Bool) (decidedAt : String) :
    store.markProposal sequence approve decidedAt = .ok store ∨
      store.markProposal sequence approve decidedAt = .error .decidedOnce := by
  unfold stateOf at settled
  unfold markProposal
  cases found : store.proposal sequence with
  | none => exact Or.inl rfl
  | some row =>
    refine Or.inr (if_neg fun proposed => settled ?_)
    rw [found, Option.map_some, proposed]

theorem le_foldl_max (values : List Nat) (start value : Nat)
    (below : value ≤ start ∨ value ∈ values) : value ≤ values.foldl max start := by
  induction values generalizing start with
  | nil => exact below.resolve_right List.not_mem_nil
  | cons head rest inductionHypothesis =>
    refine inductionHypothesis (max start head) ?_
    rcases below with low | member
    · exact Or.inl (Nat.le_trans low (Nat.le_max_left _ _))
    · rcases List.mem_cons.mp member with rfl | inRest
      · exact Or.inl (Nat.le_max_right _ _)
      · exact Or.inr inRest

theorem proposal_nextSequence (store : TriageStore) :
    store.proposal store.nextSequence = none := by
  unfold proposal
  rw [List.find?_eq_none]
  intro row member same
  have below := le_foldl_max (store.proposals.map ProposalRow.sequence) 0 row.sequence
    (Or.inr (List.mem_map_of_mem member))
  have equal : row.sequence = store.nextSequence := eq_of_beq same
  unfold nextSequence at equal
  omega

theorem proposal_recordRuleProposal (store : TriageStore) (rule : Rule) (because : Option String)
    (proposedAt : String) (sequence : Nat) :
    (store.recordRuleProposal rule because proposedAt).proposal sequence =
      if sequence = store.nextSequence then
        some ⟨store.nextSequence, rule.document, because, proposedAt, .proposed, none, by simp⟩
      else store.proposal sequence := by
  by_cases new : sequence = store.nextSequence
  · subst new
    have absent := store.proposal_nextSequence
    unfold proposal at absent
    unfold proposal recordRuleProposal
    rw [List.find?_append, absent, if_pos rfl]
    simp
  · unfold proposal recordRuleProposal
    rw [List.find?_append, if_neg new]
    have other : (store.nextSequence == sequence) = false := beq_false_of_ne (Ne.symm new)
    simp [other]

/-! ### Stores grow -/

/-- Decisions are only appended, and a proposal's rule stays what it is. -/
structure Grows (before after : TriageStore) : Prop where
  decisions : ∃ new, after.decisions = before.decisions ++ new
  rules : ∀ sequence rule, before.ruleOf sequence = some rule → after.ruleOf sequence = some rule

theorem Grows.refl (store : TriageStore) : Grows store store :=
  ⟨⟨[], (List.append_nil _).symm⟩, fun _ _ known => known⟩

theorem grows_appendDecision (store : TriageStore) (row : TriageRow) :
    Grows store (store.appendDecision row) :=
  ⟨⟨[row], rfl⟩, fun _ _ known => known⟩

theorem grows_recordRuleProposal (store : TriageStore) (rule : Rule) (because : Option String)
    (proposedAt : String) : Grows store (store.recordRuleProposal rule because proposedAt) := by
  refine ⟨⟨[], (List.append_nil _).symm⟩, fun sequence known is => ?_⟩
  unfold ruleOf at is ⊢
  rw [proposal_recordRuleProposal]
  split
  · rename_i new
    rw [new, proposal_nextSequence] at is
    cases is
  · exact is

theorem Adopted.mono {sequence place : Nat} (grows : Grows before after)
    (adopted : before.Adopted sequence place) :
    after.Adopted sequence place := by
  obtain ⟨rule, triage, row, known, stood, found, left⟩ := adopted
  obtain ⟨new, grown⟩ := grows.decisions
  have bound : place < before.decisions.length := (List.getElem?_eq_some_iff.mp found).1
  refine ⟨rule, triage, row, grows.rules sequence rule known, ?_, ?_, left⟩
  · rw [grown, List.take_append_of_le_length (Nat.le_of_lt bound)]
    exact stood
  · rw [grown, List.getElem?_append_left bound]
    exact found

end TriageStore

/-! ### Calls keep to their stages -/

variable {call : Call} {rule : Rule}

namespace Call

def Knows (store : TriageStore) (rule : Rule) (call : Call) : Prop :=
  ∃ sequence decidedAt actor, call.request = .decide sequence true decidedAt actor ∧
    store.ruleOf sequence = some rule

/-- A call that appended its row: a plain edit, or an approval whose row adopts the rule. -/
def Wrote (store : TriageStore) (call : Call) : Prop :=
  ∃ place, call.written = some place ∧
    ((∃ triage occurredAt actor reason, call.request = .record triage occurredAt actor reason) ∨
      ∃ sequence decidedAt actor, call.request = .decide sequence true decidedAt actor ∧
        store.Adopted sequence place)

def Sound (store : TriageStore) (call : Call) : Prop :=
  match call.stage with
  | .ruleRead rule => call.written = none ∧ call.Knows store rule
  | .setRead rule _ => call.written = none ∧ call.Knows store rule
  | .refusing => call.written = none ∧ ∀ sequence, call.approves sequence = false
  | .recorded => call.Wrote store
  | .answered _ => call.Wrote store
  | .returned (.ok _) => call.written = none ∨ call.Wrote store
  | _ => call.written = none

theorem Knows.mono (grows : before.Grows after) (knows : call.Knows before rule) :
    call.Knows after rule := by
  obtain ⟨sequence, decidedAt, actor, asked, known⟩ := knows
  exact ⟨sequence, decidedAt, actor, asked, grows.rules sequence rule known⟩

theorem Wrote.mono (grows : before.Grows after) (wrote : call.Wrote before) : call.Wrote after := by
  obtain ⟨place, written, edit | ⟨sequence, decidedAt, actor, asked, adopted⟩⟩ := wrote
  · exact ⟨place, written, Or.inl edit⟩
  · exact ⟨place, written, Or.inr ⟨sequence, decidedAt, actor, asked, adopted.mono grows⟩⟩

theorem Sound.mono (grows : before.Grows after) (sound : call.Sound before) : call.Sound after := by
  obtain ⟨request, stage, written⟩ := call
  cases stage with
  | ruleRead rule => exact ⟨sound.1, sound.2.mono grows⟩
  | setRead rule triage => exact ⟨sound.1, sound.2.mono grows⟩
  | recorded => exact Wrote.mono grows sound
  | answered triage => exact Wrote.mono grows sound
  | returned answer =>
    cases answer with
    | error failure => exact sound
    | ok triage => exact Or.imp_right (Wrote.mono grows) sound
  | begun => exact sound
  | refusing => exact sound
  | refused => exact sound

end Call

/-! ### What one statement can do -/

/-- An undisturbed statement does one of four things: it changes nothing but the call, it
appends the call's row, it marks the proposal whose set the call appended, or it marks a
proposal that no call has appended a set for. -/
inductive Effect (desk : Desk) (call : Call) : TriageStore → Call → Prop
  | quiet (next : Call) (asked : next.request = call.request)
      (written : next.written = call.written)
      (owes : ∀ sequence, next.owes sequence = call.owes sequence)
      (sound : next.Sound desk.store) : Effect desk call desk.store next
  | appended (row : TriageRow) (triage : Triage) (left : row.read = .ok triage)
      (unwritten : call.written = none)
      (alone : ∀ sequence, call.approves sequence = true →
        desk.store.stateOf sequence = some .proposed ∧ desk.owed sequence = 0)
      (sound : ({ call with stage := .recorded, written := desk.store.decisions.length } :
        Call).Sound (desk.store.appendDecision row)) :
      Effect desk call (desk.store.appendDecision row)
        { call with stage := .recorded, written := desk.store.decisions.length }
  | approved (sequence : Nat) (decidedAt actor : String) (triage : Triage)
      (asked : call.request = .decide sequence true decidedAt actor)
      (owes : call.stage = .answered triage)
      (wrote : call.Wrote desk.store) :
      Effect desk call (desk.store.withDecision sequence true decidedAt)
        (call.moveTo (.returned (.ok (some triage))))
  | refused (sequence : Nat) (decidedAt actor : String)
      (asked : call.request = .decide sequence false decidedAt actor)
      (stage : call.stage = .refusing) (unwritten : call.written = none)
      (undecided : desk.store.stateOf sequence = some .proposed)
      (alone : desk.owed sequence = 0) :
      Effect desk call (desk.store.withDecision sequence false decidedAt)
        (call.moveTo .refused)

variable {triage : Triage}

variable {decidedAt actor : String}

variable {desk : Desk}

namespace Call

theorem quiet_of_unwritten (stage : Stage) (before : call.stage.underway = false)
    (after : stage.underway = false) (sound : (call.moveTo stage).Sound desk.store) :
    Effect desk call desk.store (call.moveTo stage) := by
  refine .quiet _ rfl rfl (fun sequence => ?_) sound
  unfold owes
  rw [before, show (call.moveTo stage).stage.underway = false from after, Bool.and_false,
    Bool.and_false]

theorem quiet_fail (before : call.stage.underway = false) (unwritten : call.written = none)
    (failure : Failure) :
    Effect desk call desk.store (call.fail failure) :=
  quiet_of_unwritten _ before rfl unwritten

theorem effect_readProposal {approve : Bool}
    (asked : call.request = .decide sequence approve decidedAt actor)
    (before : call.stage.underway = false) (unwritten : call.written = none) :
    Effect desk call desk.store (call.readProposal desk.store sequence approve) := by
  unfold readProposal
  cases found : desk.store.undecided sequence with
  | none => exact quiet_of_unwritten _ before rfl (Or.inl unwritten)
  | some document =>
    cases approve with
    | false =>
      refine quiet_of_unwritten _ before rfl ⟨unwritten, fun other => ?_⟩
      show call.approves other = false
      unfold approves
      rw [asked]
      exact Bool.false_and _
    | true =>
      cases read : Rule.read document with
      | none => simpa [read] using quiet_fail before unwritten .ruleUnreadable
      | some rule =>
        obtain ⟨row, known, -, rfl⟩ := TriageStore.undecided_eq_some_iff.mp found
        have knows : (call.moveTo (.ruleRead rule)).Knows desk.store rule :=
          ⟨sequence, decidedAt, actor, asked, by
            unfold TriageStore.ruleOf
            rw [known, Option.bind_some, read]⟩
        have moved : Effect desk call desk.store (call.moveTo (.ruleRead rule)) :=
          quiet_of_unwritten _ before rfl ⟨unwritten, knows⟩
        simpa [read] using moved

theorem effect_readSet (lowercase : String → String) (before : call.stage.underway = false)
    (unwritten : call.written = none) (knows : call.Knows desk.store rule) :
    Effect desk call desk.store (call.readSet lowercase desk.store rule) := by
  unfold readSet
  cases desk.store.mailTriage with
  | error failure => exact quiet_fail before unwritten failure
  | ok triage =>
    dsimp only
    cases TriageStore.checked lowercase (some (triage.adopt rule)) with
    | error failure => exact quiet_fail before unwritten failure
    | ok checked => exact quiet_of_unwritten _ before rfl ⟨unwritten, knows⟩

theorem effect_readBack (stage : call.stage = .recorded) (wrote : call.Wrote desk.store)
    (readable : desk.store.mailTriage = .ok triage) :
    Effect desk call desk.store (call.readBack desk.store) := by
  obtain ⟨request, reached, written⟩ := call
  cases stage
  unfold readBack
  rw [readable]
  cases request with
  | decide sequence approve decidedAt actor => exact .quiet _ rfl rfl (fun _ => rfl) wrote
  | record triage occurredAt actor reason =>
    exact .quiet _ rfl rfl (fun _ => rfl) (Or.inr wrote)

variable {fails : Bool}

theorem effect_record (lowercase : String → String) {triage : Option Triage}
    {occurredAt actor : String} {reason : Option String}
    (asked : call.request = .record triage occurredAt actor reason) (stage : call.stage = .begun)
    (unwritten : call.written = none) :
    Effect desk call (call.step lowercase desk.store fails).1
      (call.step lowercase desk.store fails).2 := by
  obtain ⟨request, reached, written⟩ := call
  cases asked
  cases stage
  show Effect desk _ (insertTriage lowercase desk.store fails triage occurredAt actor reason _).1
    (insertTriage lowercase desk.store fails triage occurredAt actor reason _).2
  unfold insertTriage
  cases TriageStore.checked lowercase triage with
  | error failure => exact quiet_fail rfl unwritten failure
  | ok checked =>
    cases fails with
    | true => exact quiet_fail rfl unwritten .statement
    | false =>
      refine .appended _ (triage.getD Triage.default) (TriageRow.read_write ..) unwritten
        (fun _ approves => absurd approves Bool.false_ne_true) ?_
      exact ⟨_, rfl, Or.inl ⟨triage, occurredAt, actor, reason, rfl⟩⟩

theorem effect_setRead (lowercase : String → String) (stage : call.stage = .setRead rule triage)
    (unwritten : call.written = none) (knows : call.Knows desk.store rule)
    (undisturbed : desk.Undisturbed fails call) :
    Effect desk call (call.step lowercase desk.store fails).1
      (call.step lowercase desk.store fails).2 := by
  obtain ⟨request, reached, written⟩ := call
  obtain ⟨sequence, decidedAt, actor, asked, known⟩ := knows
  cases asked
  cases stage
  cases fails with
  | true => exact quiet_fail rfl unwritten .statement
  | false =>
    obtain ⟨undecided, alone, current⟩ := undisturbed rfl
    refine .appended _ (triage.adopt rule) (TriageRow.read_write ..) unwritten ?_ ?_
    · intro other approves
      have same : sequence = other := by simpa [approves, Call.approves] using approves
      exact same ▸ ⟨undecided, alone⟩
    · have inForceNow : inForce desk.store.decisions = .ok triage := eq_ok_of_toOption current
      refine ⟨_, rfl, Or.inr ⟨sequence, decidedAt, actor, rfl, rule, triage, _, known, ?_,
        List.getElem?_concat_length .., TriageRow.read_write ..⟩⟩
      show inForce ((desk.store.decisions ++ [_]).take desk.store.decisions.length) = _
      rw [List.take_left]
      exact inForceNow

theorem effect_answered (lowercase : String → String) (stage : call.stage = .answered triage)
    (wrote : call.Wrote desk.store)
    (owing : ∀ sequence, call.owes sequence = true → desk.store.stateOf sequence = some .proposed) :
    Effect desk call (call.step lowercase desk.store false).1
      (call.step lowercase desk.store false).2 := by
  obtain ⟨place, written, ⟨edit, occurredAt, actor, reason, asked⟩ |
    ⟨sequence, decidedAt, actor, asked, adopted⟩⟩ := id wrote
  · obtain ⟨request, reached, row⟩ := call
    cases asked
    cases stage
    exact .quiet _ rfl rfl (fun _ => rfl) wrote
  · have undecided := owing sequence (by simp [owes, approves, asked, stage, Stage.underway])
    have marked := TriageStore.markProposal_of_proposed undecided true decidedAt
    have taken : call.step lowercase desk.store false =
        (desk.store.withDecision sequence true decidedAt,
          call.moveTo (.returned (.ok (some triage)))) := by
      obtain ⟨request, reached, row⟩ := call
      cases asked
      cases stage
      show mark desk.store false sequence true decidedAt _ _ = _
      unfold mark
      rw [if_neg Bool.false_ne_true, marked]
    rw [taken]
    exact .approved sequence decidedAt actor triage asked stage wrote

theorem effect_refusing (lowercase : String → String) (stage : call.stage = .refusing)
    (refuses : ∀ sequence, call.approves sequence = false) (unwritten : call.written = none)
    (undisturbed : desk.Undisturbed fails call) :
    Effect desk call (call.step lowercase desk.store fails).1
      (call.step lowercase desk.store fails).2 := by
  obtain ⟨request, reached, row⟩ := call
  cases stage
  cases request with
  | record triage occurredAt actor reason =>
    exact .quiet _ rfl rfl (fun _ => rfl) ⟨unwritten, refuses⟩
  | decide sequence approve decidedAt actor =>
    have declines : approve = false := by simpa [approves] using refuses sequence
    subst declines
    cases fails with
    | true => exact quiet_fail rfl unwritten .statement
    | false =>
      have taken : step lowercase desk.store false ⟨.decide sequence false decidedAt actor,
          .refusing, row⟩ = mark desk.store false sequence false decidedAt .refused
            ⟨.decide sequence false decidedAt actor, .refusing, row⟩ := rfl
      rw [taken]
      unfold mark
      rw [if_neg Bool.false_ne_true]
      by_cases undecided : desk.store.stateOf sequence = some .proposed
      · rw [TriageStore.markProposal_of_proposed undecided]
        exact .refused sequence decidedAt actor rfl rfl unwritten undecided
          (undisturbed rfl undecided)
      · rcases TriageStore.markProposal_of_not_proposed undecided false decidedAt with
          absent | aborted
        · rw [absent]
          exact quiet_of_unwritten .refused rfl rfl unwritten
        · rw [aborted]
          exact quiet_fail rfl unwritten .decidedOnce

theorem effect_step (lowercase : String → String) (sound : call.Sound desk.store)
    (undisturbed : desk.Undisturbed fails call)
    (readable : call.written.isSome = true → ∃ triage, desk.store.mailTriage = .ok triage)
    (owing : ∀ sequence, call.owes sequence = true → desk.store.stateOf sequence = some .proposed) :
    Effect desk call (call.step lowercase desk.store fails).1
      (call.step lowercase desk.store fails).2 := by
  obtain ⟨request, stage, written⟩ := call
  cases stage with
  | begun =>
    cases request with
    | record triage occurredAt actor reason => exact effect_record lowercase rfl rfl sound
    | decide sequence approve decidedAt actor =>
      cases fails with
      | true => exact quiet_fail rfl sound .statement
      | false => exact effect_readProposal rfl rfl sound
  | ruleRead rule =>
    cases fails with
    | true => exact quiet_fail rfl sound.1 .statement
    | false => exact effect_readSet lowercase rfl sound.1 sound.2
  | setRead rule triage => exact effect_setRead lowercase rfl sound.1 sound.2 undisturbed
  | recorded =>
    have goesOn : fails = false := by cases request <;> exact undisturbed
    subst goesOn
    obtain ⟨place, is, -⟩ := id sound
    obtain ⟨triage, read⟩ := readable (by rw [is]; rfl)
    exact effect_readBack rfl sound read
  | answered triage =>
    have goesOn : fails = false := by cases request <;> exact undisturbed
    subst goesOn
    exact effect_answered lowercase rfl sound owing
  | refusing => exact effect_refusing lowercase rfl sound.2 sound.1 undisturbed
  | refused =>
    cases fails with
    | true => exact quiet_fail rfl sound .statement
    | false =>
      refine quiet_of_unwritten (.returned (desk.store.mailTriage.map some)) rfl rfl ?_
      cases desk.store.mailTriage with
      | error failure => exact sound
      | ok triage => exact Or.inl sound
  | returned answer => exact .quiet _ rfl rfl (fun _ => rfl) sound

end Call

/-! ### The invariant -/

namespace Desk

def approvals (state : Option ProposalState) : Nat := if state = some .approved then 1 else 0

/-- Every call is where its stage says. What a proposal contributed is what calls still owe it,
and one for its approval if that came since; at most one call owes it anything, and only while
it is undecided. Once a call has appended a row the set in force can be read. -/
structure Kept (before : TriageStore) (desk : Desk) : Prop where
  sound : ∀ call ∈ desk.calls, call.Sound desk.store
  readable : ∀ call ∈ desk.calls, call.written.isSome = true →
    ∃ triage, desk.store.mailTriage = .ok triage
  tally : ∀ sequence, desk.contributed sequence + approvals (before.stateOf sequence) =
    desk.owed sequence + approvals (desk.store.stateOf sequence)
  single : ∀ sequence, desk.owed sequence ≤ 1
  undecided : ∀ sequence, 0 < desk.owed sequence →
    desk.store.stateOf sequence = some .proposed

theorem kept_start (before : TriageStore) : Kept before (start before) where
  sound := fun _ member => absurd member List.not_mem_nil
  readable := fun _ member => absurd member List.not_mem_nil
  tally := fun _ => rfl
  single := fun _ => Nat.zero_le _
  undecided := fun _ owes => absurd owes (Nat.lt_irrefl 0)

theorem countP_set_add (counts : Call → Bool) {calls : List Call} {index : Nat}
    (found : calls[index]? = some call) (next : Call) :
    (calls.set index next).countP counts + (counts call).toNat =
      calls.countP counts + (counts next).toNat := by
  induction calls generalizing index with
  | nil => cases found
  | cons head rest inductionHypothesis =>
    cases index with
    | zero =>
      cases found
      rw [List.set_cons_zero, List.countP_cons, List.countP_cons]
      cases counts call <;> cases counts next <;> simp
    | succ index =>
      have smaller := inductionHypothesis found
      rw [List.set_cons_succ, List.countP_cons, List.countP_cons]
      omega

section Advance

variable {before : TriageStore} {desk : Desk} {index : Nat} {call : Call}

theorem contributed_set (found : desk.calls[index]? = some call) (store : TriageStore)
    (next : Call) (sequence : Nat) :
    contributed ⟨store, desk.calls.set index next⟩ sequence + (call.contributes sequence).toNat =
      desk.contributed sequence + (next.contributes sequence).toNat :=
  countP_set_add _ found next

theorem owed_set (found : desk.calls[index]? = some call) (store : TriageStore) (next : Call)
    (sequence : Nat) :
    owed ⟨store, desk.calls.set index next⟩ sequence + (call.owes sequence).toNat =
      desk.owed sequence + (next.owes sequence).toNat :=
  countP_set_add _ found next

theorem owed_pos (found : desk.calls[index]? = some call) (owes : call.owes sequence = true) :
    0 < desk.owed sequence :=
  List.countP_pos_iff.mpr ⟨call, List.mem_of_getElem? found, owes⟩

variable {next : Call}

theorem sound_set (kept : Kept before desk) (grows : desk.store.Grows store)
    (sound : next.Sound store) :
    ∀ other ∈ desk.calls.set index next, other.Sound store := by
  intro other member
  rcases List.mem_or_eq_of_mem_set member with held | rfl
  · exact (kept.sound other held).mono grows
  · exact sound

theorem readable_set (kept : Kept before desk) (found : desk.calls[index]? = some call)
    (same : store.decisions = desk.store.decisions) (written : next.written = call.written) :
    ∀ other ∈ desk.calls.set index next, other.written.isSome = true →
      ∃ triage, store.mailTriage = .ok triage := by
  unfold TriageStore.mailTriage
  rw [same]
  intro other member wrote
  rcases List.mem_or_eq_of_mem_set member with held | rfl
  · exact kept.readable other held wrote
  · exact kept.readable call (List.mem_of_getElem? found) (written ▸ wrote)

theorem kept_quiet (kept : Kept before desk) (found : desk.calls[index]? = some call)
    (asked : next.request = call.request) (written : next.written = call.written)
    (owes : ∀ sequence, next.owes sequence = call.owes sequence) (sound : next.Sound desk.store) :
    Kept before ⟨desk.store, desk.calls.set index next⟩ := by
  have contributes : ∀ sequence, next.contributes sequence = call.contributes sequence := by
    intro sequence
    unfold Call.contributes Call.approves
    rw [asked, written]
  have contributedSame : ∀ sequence, contributed ⟨desk.store, desk.calls.set index next⟩ sequence =
      desk.contributed sequence := by
    intro sequence
    have count := contributed_set found desk.store next sequence
    rw [contributes] at count
    exact Nat.add_right_cancel count
  have owedSame : ∀ sequence, owed ⟨desk.store, desk.calls.set index next⟩ sequence =
      desk.owed sequence := by
    intro sequence
    have count := owed_set found desk.store next sequence
    rw [owes] at count
    exact Nat.add_right_cancel count
  refine ⟨sound_set kept (.refl _) sound, readable_set kept found rfl written, ?_, ?_, ?_⟩
  · intro sequence
    rw [contributedSame, owedSame]
    exact kept.tally sequence
  · intro sequence
    rw [owedSame]
    exact kept.single sequence
  · intro sequence positive
    rw [owedSame] at positive
    exact kept.undecided sequence positive

theorem kept_appended (kept : Kept before desk) (found : desk.calls[index]? = some call)
    {row : TriageRow} (left : row.read = .ok triage) (unwritten : call.written = none)
    (alone : ∀ sequence, call.approves sequence = true →
      desk.store.stateOf sequence = some .proposed ∧ desk.owed sequence = 0)
    (becomes : next = { call with stage := .recorded, written := some desk.store.decisions.length })
    (sound : next.Sound (desk.store.appendDecision row)) :
    Kept before ⟨desk.store.appendDecision row, desk.calls.set index next⟩ := by
  have contributes : ∀ sequence, next.contributes sequence = call.approves sequence := by
    intro sequence
    rw [becomes]
    exact Bool.and_true _
  have owes : ∀ sequence, next.owes sequence = call.approves sequence := by
    intro sequence
    rw [becomes]
    exact Bool.and_true _
  have contributedBefore : ∀ sequence, call.contributes sequence = false := by
    intro sequence
    unfold Call.contributes
    rw [unwritten]
    exact Bool.and_false _
  -- the call owed nothing, since it had appended nothing
  have owedBefore : ∀ sequence, call.owes sequence = false := by
    intro sequence
    by_contra owed
    rw [Bool.not_eq_false] at owed
    have none := (alone sequence (Bool.and_eq_true .. ▸ owed).1).2
    exact absurd (owed_pos found owed) (by omega)
  refine ⟨sound_set kept (TriageStore.grows_appendDecision _ row) sound,
    fun _ _ _ => ⟨triage, by simp [TriageStore.mailTriage, TriageStore.appendDecision, left]⟩,
    ?_, ?_, ?_⟩
  · intro sequence
    have contributed := contributed_set found (desk.store.appendDecision row) next sequence
    have owed := owed_set found (desk.store.appendDecision row) next sequence
    have tally := kept.tally sequence
    rw [contributes, contributedBefore] at contributed
    rw [owes, owedBefore] at owed
    show _ = _ + approvals (desk.store.stateOf sequence)
    simp only [Bool.toNat_false] at contributed owed
    omega
  · intro sequence
    have owed := owed_set found (desk.store.appendDecision row) next sequence
    rw [owes, owedBefore] at owed
    cases approves : call.approves sequence with
    | false =>
      rw [approves] at owed
      have single := kept.single sequence
      simp only [Bool.toNat_false] at owed
      omega
    | true =>
      rw [approves, (alone sequence approves).2] at owed
      simp only [Bool.toNat_false, Bool.toNat_true] at owed
      omega
  · intro sequence positive
    show desk.store.stateOf sequence = some .proposed
    cases approves : call.approves sequence with
    | true => exact (alone sequence approves).1
    | false =>
      have owed := owed_set found (desk.store.appendDecision row) next sequence
      rw [owes, owedBefore, approves] at owed
      exact kept.undecided sequence (by simp only [Bool.toNat_false] at owed; omega)

theorem grows_withDecision (store : TriageStore) (sequence : Nat) (approve : Bool)
    (decidedAt : String) : store.Grows (store.withDecision sequence approve decidedAt) :=
  ⟨⟨[], (List.append_nil _).symm⟩, fun other rule known => by
    rw [TriageStore.ruleOf_withDecision]
    exact known⟩

theorem approves_eq (call : Call) {approve : Bool}
    (asked : call.request = .decide sequence approve decidedAt actor) (other : Nat) :
    call.approves other = (approve && sequence == other) := by
  unfold Call.approves
  rw [asked]

theorem kept_approved (kept : Kept before desk) (found : desk.calls[index]? = some call)
    (asked : call.request = .decide sequence true decidedAt actor)
    (stage : call.stage = .answered triage) (wrote : call.Wrote desk.store) :
    Kept before ⟨desk.store.withDecision sequence true decidedAt,
      desk.calls.set index (call.moveTo (.returned (.ok (some triage))))⟩ := by
  have owesNow : ∀ other, call.owes other = (sequence == other) := by
    intro other
    unfold Call.owes
    rw [approves_eq call asked, stage]
    simp [Stage.underway]
  have owesThen : ∀ other, (call.moveTo (.returned (.ok (some triage)))).owes other = false :=
    fun other => Bool.and_false _
  have one : desk.owed sequence = 1 := by
    have positive := owed_pos found (by rw [owesNow]; exact beq_self_eq_true sequence)
    have single := kept.single sequence
    omega
  have contributed : ∀ other, contributed ⟨desk.store.withDecision sequence true decidedAt,
      desk.calls.set index (call.moveTo (.returned (.ok (some triage))))⟩ other =
        desk.contributed other := fun other =>
    Nat.add_right_cancel (contributed_set found (desk.store.withDecision sequence true decidedAt)
      (call.moveTo (.returned (.ok (some triage)))) other)
  have owed : ∀ other, Desk.owed ⟨desk.store.withDecision sequence true decidedAt,
      desk.calls.set index (call.moveTo (.returned (.ok (some triage))))⟩ other =
        if other = sequence then 0 else desk.owed other := by
    intro other
    have count := owed_set found (desk.store.withDecision sequence true decidedAt)
      (call.moveTo (.returned (.ok (some triage)))) other
    rw [owesNow, owesThen] at count
    by_cases same : other = sequence
    · subst same
      rw [one, beq_self_eq_true] at count
      rw [if_pos rfl]
      exact Nat.add_right_cancel count
    · have differ : (sequence == other) = false := beq_false_of_ne (Ne.symm same)
      rw [differ] at count
      rw [if_neg same]
      exact Nat.add_right_cancel count
  have grows := grows_withDecision desk.store sequence true decidedAt
  refine ⟨sound_set kept grows (Or.inr (Call.Wrote.mono grows ?_)),
    readable_set kept found rfl rfl, ?_, ?_, ?_⟩
  · exact wrote
  · intro other
    rw [contributed, owed, TriageStore.stateOf_withDecision]
    have tally := kept.tally other
    by_cases same : other = sequence
    · subst same
      have undecided := kept.undecided other (by omega)
      rw [undecided, one] at tally
      rw [if_pos rfl, if_pos rfl, undecided]
      simpa [approvals, TriageStore.decidedAs] using tally
    · rw [if_neg same, if_neg same]
      exact tally
  · intro other
    rw [owed]
    split
    · exact Nat.zero_le 1
    · exact kept.single other
  · intro other positive
    rw [owed] at positive
    rw [TriageStore.stateOf_withDecision]
    split
    · rename_i same
      rw [if_pos same] at positive
      exact absurd positive (Nat.lt_irrefl 0)
    · rename_i differ
      rw [if_neg differ] at positive
      exact kept.undecided other positive

/-- The mark of a refusal leaves a proposal that contributed nothing. -/
theorem kept_refused (kept : Kept before desk) (found : desk.calls[index]? = some call)
    (asked : call.request = .decide sequence false decidedAt actor) (stage : call.stage = .refusing)
    (unwritten : call.written = none) (undecided : desk.store.stateOf sequence = some .proposed)
    (alone : desk.owed sequence = 0) :
    Kept before ⟨desk.store.withDecision sequence false decidedAt,
      desk.calls.set index (call.moveTo .refused)⟩ := by
  have contributed : ∀ other, contributed ⟨desk.store.withDecision sequence false decidedAt,
      desk.calls.set index (call.moveTo .refused)⟩ other = desk.contributed other := fun other =>
    Nat.add_right_cancel (contributed_set found (desk.store.withDecision sequence false decidedAt)
      (call.moveTo .refused) other)
  have owesNow : ∀ other, call.owes other = false := by
    intro other
    unfold Call.owes
    rw [stage]
    exact Bool.and_false _
  have owed : ∀ other, Desk.owed ⟨desk.store.withDecision sequence false decidedAt,
      desk.calls.set index (call.moveTo .refused)⟩ other = desk.owed other := by
    intro other
    have count := owed_set found (desk.store.withDecision sequence false decidedAt)
      (call.moveTo .refused) other
    rw [owesNow, show (call.moveTo .refused).owes other = false from Bool.and_false _] at count
    exact Nat.add_right_cancel count
  refine ⟨sound_set kept (grows_withDecision desk.store sequence false decidedAt) unwritten,
    readable_set kept found rfl rfl, ?_, ?_, ?_⟩
  · intro other
    rw [contributed, owed, TriageStore.stateOf_withDecision]
    have tally := kept.tally other
    by_cases same : other = sequence
    · subst same
      rw [undecided] at tally
      rw [if_pos rfl, undecided]
      simpa [approvals, TriageStore.decidedAs] using tally
    · rw [if_neg same]
      exact tally
  · intro other
    rw [owed]
    exact kept.single other
  · intro other positive
    rw [owed] at positive
    have differ : other ≠ sequence := by
      intro same
      rw [same, alone] at positive
      exact absurd positive (Nat.lt_irrefl 0)
    rw [TriageStore.stateOf_withDecision, if_neg differ]
    exact kept.undecided other positive

end Advance

theorem kept_propose {before : TriageStore} (kept : Kept before desk) (rule : Rule)
    (because : Option String) (proposedAt : String) :
    Kept before ⟨desk.store.recordRuleProposal rule because proposedAt, desk.calls⟩ := by
  have states : ∀ sequence, (desk.store.recordRuleProposal rule because proposedAt).stateOf
      sequence = if sequence = desk.store.nextSequence then some .proposed
        else desk.store.stateOf sequence := by
    intro sequence
    unfold TriageStore.stateOf
    rw [TriageStore.proposal_recordRuleProposal]
    split <;> rfl
  have newState : desk.store.stateOf desk.store.nextSequence = none := by
    unfold TriageStore.stateOf
    rw [TriageStore.proposal_nextSequence]
    rfl
  refine ⟨fun call member => (kept.sound call member).mono
    (TriageStore.grows_recordRuleProposal _ rule because proposedAt), kept.readable, ?_,
    kept.single, ?_⟩
  · intro sequence
    have tally := kept.tally sequence
    show contributed desk sequence + _ = owed desk sequence + _
    rw [states]
    split
    · rename_i new
      rw [new, newState] at tally
      rw [new]
      exact tally
    · exact tally
  · intro sequence positive
    show (desk.store.recordRuleProposal rule because proposedAt).stateOf sequence = _
    rw [states]
    split
    · rfl
    · exact kept.undecided sequence positive

theorem kept_call {before : TriageStore} (kept : Kept before desk) (request : Request) :
    Kept before ⟨desk.store, desk.calls ++ [⟨request, .begun, none⟩]⟩ := by
  have unchanged : ∀ counts : Call → Bool, counts ⟨request, .begun, none⟩ = false →
      (desk.calls ++ [(⟨request, .begun, none⟩ : Call)]).countP counts =
        desk.calls.countP counts := by
    intro counts nothing
    simp [List.countP_append, nothing]
  have contributed : ∀ sequence, Desk.contributed ⟨desk.store,
      desk.calls ++ [⟨request, .begun, none⟩]⟩ sequence = desk.contributed sequence :=
    fun sequence => unchanged (Call.contributes sequence) (Bool.and_false _)
  have owed : ∀ sequence, Desk.owed ⟨desk.store,
      desk.calls ++ [⟨request, .begun, none⟩]⟩ sequence = desk.owed sequence :=
    fun sequence => unchanged (Call.owes sequence) (Bool.and_false _)
  refine ⟨?_, ?_, ?_, ?_, ?_⟩
  · intro call member
    rcases List.mem_append.mp member with held | new
    · exact kept.sound call held
    · cases List.mem_singleton.mp new
      rfl
  · intro call member wrote
    rcases List.mem_append.mp member with held | new
    · exact kept.readable call held wrote
    · cases List.mem_singleton.mp new
      cases wrote
  · intro sequence
    rw [contributed, owed]
    exact kept.tally sequence
  · intro sequence
    rw [owed]
    exact kept.single sequence
  · intro sequence positive
    rw [owed] at positive
    exact kept.undecided sequence positive

theorem kept_step (lowercase : String → String) {before : TriageStore} (desk : Desk)
    (next : DeskStep) (kept : Kept before desk) (orderly : desk.Orderly next) :
    Kept before (desk.step lowercase next) := by
  cases next with
  | propose rule because proposedAt => exact kept_propose kept rule because proposedAt
  | call request => exact kept_call kept request
  | advance index fails =>
    unfold step
    dsimp only
    cases found : desk.calls[index]? with
    | none => exact kept
    | some call =>
      have member : call ∈ desk.calls := List.mem_of_getElem? found
      have effect := Call.effect_step lowercase (kept.sound call member)
        (orderly call (by rw [found]; rfl)) (kept.readable call member)
        (fun sequence owes => kept.undecided sequence (owed_pos found owes))
      show Kept before ⟨(call.step lowercase desk.store fails).1,
        desk.calls.set index (call.step lowercase desk.store fails).2⟩
      generalize (call.step lowercase desk.store fails).1 = store at effect ⊢
      generalize (call.step lowercase desk.store fails).2 = next at effect ⊢
      cases effect with
      | quiet _ asked written owes sound => exact kept_quiet kept found asked written owes sound
      | appended row triage left unwritten alone sound =>
        exact kept_appended kept found left unwritten alone rfl sound
      | approved sequence decidedAt actor triage asked stage wrote =>
        exact kept_approved kept found asked stage wrote
      | refused sequence decidedAt actor asked stage unwritten undecided alone =>
        exact kept_refused kept found asked stage unwritten undecided alone

/-! ### The result -/

theorem owed_of_settled (settled : desk.Settled) (sequence : Nat) :
    desk.owed sequence = 0 := by
  refine List.countP_eq_zero.mpr fun call member => ?_
  obtain ⟨answer, returned⟩ := settled call member
  unfold Call.owes
  rw [returned]
  simp [Stage.underway]

theorem faithful_of_kept {before : TriageStore} (kept : Kept before desk) :
    Faithful before desk where
  declined := by
    intro settled sequence declined
    have tally := kept.tally sequence
    rw [owed_of_settled settled] at tally
    unfold approvals at tally
    rw [if_neg declined] at tally
    omega
  approved := by
    intro settled sequence new approved
    have tally := kept.tally sequence
    rw [owed_of_settled settled] at tally
    unfold approvals at tally
    rw [if_neg new, if_pos approved] at tally
    omega
  failed := by
    intro call member failure returned
    have sound := kept.sound call member
    unfold Call.Sound at sound
    rw [returned] at sound
    exact sound
  extended := by
    intro call member sequence place approves written
    have wroteOr : call.written = none ∨ call.Wrote desk.store := by
      have sound := kept.sound call member
      obtain ⟨request, stage, row⟩ := call
      cases stage with
      | begun => exact Or.inl sound
      | ruleRead rule => exact Or.inl sound.1
      | setRead rule triage => exact Or.inl sound.1
      | recorded => exact Or.inr sound
      | answered triage => exact Or.inr sound
      | refusing => exact Or.inl sound.1
      | refused => exact Or.inl sound
      | returned answer =>
        cases answer with
        | error failure => exact Or.inl sound
        | ok triage => exact sound
    rcases wroteOr with unwritten | ⟨there, is, edit | approval⟩
    · rw [unwritten] at written
      cases written
    · obtain ⟨triage, occurredAt, actor, reason, asked⟩ := edit
      unfold Call.approves at approves
      rw [asked] at approves
      cases approves
    · obtain ⟨other, decidedAt, actor, asked, adopted⟩ := approval
      rw [approves_eq call asked, Bool.true_and, beq_iff_eq] at approves
      rw [is] at written
      cases written
      exact approves ▸ adopted

/-- In every run whose steps are orderly, the owner's decisions are kept: a refused or an
undecided proposal contributed nothing, an approved one exactly one decision, a failed call
nothing, and no approval undid another's set. -/
theorem faithful_of_orderly (lowercase : String → String) (before : TriageStore)
    (steps : List DeskStep)
    (orderly : Along (Desk.step lowercase) Desk.Orderly (Desk.start before) steps) :
    Faithful before (run (Desk.step lowercase) (Desk.start before) steps) :=
  faithful_of_kept (run_invariant_along (Kept before) (kept_step lowercase) (kept_start before)
    orderly)

namespace InBetween

def lowercase (name : String) : String := String.ofList (name.toList.map Char.toLower)

def owner : String := "@owner:example.org"

def veille : Rule := ⟨"r1", .listId "<x.example>", "Veille"⟩

/-- The owner declares a mailbox and the agent proposes a rule that files into it. -/
def proposed : List DeskStep :=
  [.call (.record (some ⟨["Veille"], []⟩) "2026-10-02T12:00:00.000Z" owner none),
    .advance 0 false, .advance 0 false, .propose veille none "2026-10-02T12:01:00.000Z"]

/-- An approval has read the proposal and the set when a refusal of it begins; the approval
appends its set, the refusal marks the proposal, and the mark of the approval is aborted. -/
def refusedInBetween : List DeskStep :=
  proposed ++ [.call (.decide 1 true "2026-10-02T12:02:00.000Z" owner),
    .advance 1 false, .advance 1 false,
    .call (.decide 1 false "2026-10-02T12:02:00.001Z" owner), .advance 2 false,
    .advance 1 false, .advance 2 false, .advance 2 false, .advance 1 false, .advance 1 false]

/-- The same two calls, the refusal beginning once the approval has returned. -/
def refusedAfterwards : List DeskStep :=
  proposed ++ [.call (.decide 1 true "2026-10-02T12:02:00.000Z" owner),
    .advance 1 false, .advance 1 false, .advance 1 false, .advance 1 false, .advance 1 false,
    .call (.decide 1 false "2026-10-02T12:02:00.001Z" owner), .advance 2 false]

def empty : TriageStore := ⟨[], []⟩

def stageReturned : Stage → Bool
  | .returned _ => true
  | _ => false

theorem settled_of_all (all : desk.calls.all (fun call => stageReturned call.stage) = true) :
    desk.Settled := by
  intro call member
  have returned := List.all_eq_true.mp all call member
  cases stage : call.stage with
  | returned answer => exact ⟨answer, rfl⟩
  | _ => rw [stage] at returned; cases returned

/-- A refused proposal became a rule. -/
theorem refused_rule_is_applied : ¬∀ (before : TriageStore) (steps : List DeskStep),
    Faithful before (run (Desk.step lowercase) (Desk.start before) steps) := by
  intro always
  have settled : (run (Desk.step lowercase) (Desk.start empty) refusedInBetween).Settled :=
    settled_of_all (by decide)
  have refused : (run (Desk.step lowercase) (Desk.start empty) refusedInBetween).store.stateOf 1 ≠
      some .approved := by decide
  have contributed : (run (Desk.step lowercase) (Desk.start empty) refusedInBetween).contributed
      1 = 1 := by decide
  have none := (always empty refusedInBetween).declined settled 1 refused
  rw [contributed] at none
  exact absurd none (by decide)

theorem faithful_afterwards :
    Faithful empty (run (Desk.step lowercase) (Desk.start empty) refusedAfterwards) :=
  faithful_of_orderly lowercase empty refusedAfterwards (by decide)

end InBetween

end Desk

end Twalk.Proposals
