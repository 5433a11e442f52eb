/-
This file is about what holds of the triage journal in every run, whatever the calls at the desk
are and however their statements come between one another. A call that nothing comes between is the
function it is written as. The rows of the journal are one for one those that the calls wrote, and
the set that is in force can be read and is one that the check accepts.
-/

import Twalk.ProposalRuns

namespace Twalk.Proposals

open MailRules (Rule Triage)

variable (lowercase : String → String)

/-! ### A call that nothing comes between -/

/-- What the function that a request calls leaves behind and answers. -/
def TriageStore.answer (store : TriageStore) :
    Request → TriageStore × Except Failure (Option Triage)
  | .decide sequence approve decidedAt actor =>
    store.decideRuleProposal lowercase sequence approve decidedAt actor
  | .record triage occurredAt actor reason =>
    let (after, recorded) := store.recordMailTriageDecision lowercase triage occurredAt actor reason
    (after, recorded.map some)

namespace Call

theorem alone_add (count more : Nat) (store : TriageStore) (call : Call) :
    alone lowercase (count + more) store call =
      alone lowercase more (alone lowercase count store call).1
        (alone lowercase count store call).2 := by
  induction count generalizing store call with
  | zero => rw [Nat.zero_add]; rfl
  | succ count inductionHypothesis =>
    rw [Nat.succ_add]
    exact inductionHypothesis ..

theorem Finishes.more {reached : TriageStore × Call}
    {result : TriageStore × Except Failure (Option Triage)} (finishes : Finishes reached result)
    (more : Nat) : Finishes (alone lowercase more reached.1 reached.2) result := by
  obtain ⟨store, request, stage, written⟩ := reached
  obtain ⟨rfl, isReturned⟩ := finishes
  rw [show stage = .returned result.2 from isReturned]
  exact alone_returned lowercase more result.1 request result.2 written

theorem alone_finishes (store : TriageStore) (request : Request) (more : Nat) :
    Finishes (alone lowercase (5 + more) store ⟨request, .begun, none⟩)
      (store.answer lowercase request) := by
  cases request with
  | decide sequence approve decidedAt actor =>
    rw [alone_add]
    exact (alone_decide lowercase store sequence approve decidedAt actor).more lowercase more
  | record triage occurredAt actor reason =>
    rw [show 5 + more = 2 + (3 + more) from by omega, alone_add]
    exact (alone_record lowercase store triage occurredAt actor reason).more lowercase (3 + more)

end Call

namespace Desk

variable {desk : Desk} {call : Call} {index : Nat}

theorem step_advance (there : desk.calls[index]? = some call) (fails : Bool) :
    desk.step lowercase (.advance index fails) =
      ⟨(call.step lowercase desk.store fails).1,
        desk.calls.set index (call.step lowercase desk.store fails).2⟩ := by
  unfold step
  dsimp only
  rw [there]

theorem run_advance (count : Nat) (there : desk.calls[index]? = some call) :
    run (step lowercase) desk (List.replicate count (.advance index false)) =
      ⟨(Call.alone lowercase count desk.store call).1,
        desk.calls.set index (Call.alone lowercase count desk.store call).2⟩ := by
  obtain ⟨isIndex, isCall⟩ := List.getElem?_eq_some_iff.mp there
  induction count generalizing desk call with
  | zero =>
    rw [List.replicate_zero, run_nil, Call.alone, ← isCall, List.set_getElem_self]
  | succ count inductionHypothesis =>
    rw [List.replicate_succ, run_cons, step_advance lowercase there]
    have isNext : (desk.calls.set index (call.step lowercase desk.store false).2)[index]? =
        some (call.step lowercase desk.store false).2 := List.getElem?_set_self isIndex
    obtain ⟨stays, isThere⟩ := List.getElem?_eq_some_iff.mp isNext
    rw [inductionHypothesis isNext stays isThere, List.set_set]
    rfl

/-- A call whose statements no other call's come between leaves the store and returns the answer of
the function it is written as, and the calls under way stay as they were. -/
theorem uninterrupted (desk : Desk) (request : Request) (more : Nat) :
    let reached := run (step lowercase) desk
      (.call request :: List.replicate (5 + more) (.advance desk.calls.length false))
    reached.store = (desk.store.answer lowercase request).1 ∧
      ∃ call, reached.calls = desk.calls ++ [call] ∧
        call.stage = .returned (desk.store.answer lowercase request).2 := by
  dsimp only
  obtain ⟨left, returned⟩ := Call.alone_finishes lowercase desk.store request more
  rw [run_cons, run_advance lowercase _ (List.getElem?_concat_length ..)]
  refine ⟨left, _, ?_, returned⟩
  exact List.set_append_right _ _ le_rfl |>.trans (by rw [Nat.sub_self]; rfl)

end Desk

/-! ### What a statement does to the journal -/

/-- A call that has yet to append its row has written none, and the set of an approval that is
about to be appended is one that the check accepted. -/
def Call.Careful (call : Call) : Prop :=
  match call.stage with
  | .begun => call.written = none
  | .ruleRead _ => call.written = none
  | .setRead rule triage => call.written = none ∧ (triage.adopt rule).Admitted lowercase
  | _ => True

namespace Call

variable {lowercase} {store : TriageStore} {fails : Bool} {call : Call}

theorem admitted_of_checked {triage : Triage}
    (checked : TriageStore.checked lowercase (some triage) = .ok ()) :
    triage.Admitted lowercase := by
  unfold TriageStore.checked at checked
  dsimp only at checked
  split at checked
  · rename_i accepted
    exact (Triage.check_eq_ok_iff triage).mp accepted
  · cases checked

theorem careful_mark {next : Stage} (sequence : Nat) (approve : Bool) (decidedAt : String)
    (careful : (call.moveTo next).Careful lowercase) :
    (mark store fails sequence approve decidedAt next call).2.Careful lowercase := by
  unfold mark
  split
  · trivial
  · split
    · trivial
    · exact careful

theorem careful_step (careful : call.Careful lowercase) :
    (call.step lowercase store fails).2.Careful lowercase := by
  obtain ⟨request, stage, written⟩ := call
  cases stage with
  | begun =>
    cases request with
    | decide sequence approve decidedAt actor =>
      cases fails with
      | true => trivial
      | false =>
        show (readProposal store sequence approve _).Careful lowercase
        unfold readProposal
        split
        · trivial
        · split
          · split
            · trivial
            · exact careful
          · trivial
    | record triage occurredAt actor reason =>
      show (insertTriage lowercase store fails triage occurredAt actor reason _).2.Careful lowercase
      unfold insertTriage append
      split
      · trivial
      · split <;> trivial
  | ruleRead rule =>
    cases fails with
    | true => trivial
    | false =>
      show (readSet lowercase store rule _).Careful lowercase
      unfold readSet
      split
      · trivial
      · split
        · trivial
        · rename_i checked
          exact ⟨careful, admitted_of_checked checked⟩
  | setRead rule triage =>
    cases request with
    | decide sequence approve decidedAt actor => cases fails <;> trivial
    | record => exact careful
  | recorded =>
    cases fails with
    | true => trivial
    | false =>
      show (readBack store _).Careful lowercase
      unfold readBack
      split
      · trivial
      · cases request <;> trivial
  | answered triage =>
    cases request with
    | decide sequence approve decidedAt actor =>
      exact careful_mark _ _ _ trivial
    | record => trivial
  | refusing =>
    cases request with
    | decide sequence approve decidedAt actor =>
      exact careful_mark _ _ _ trivial
    | record => trivial
  | refused => cases fails <;> trivial
  | returned answer => trivial

theorem decisions_mark (sequence : Nat) (approve : Bool) (decidedAt : String) (next : Stage) :
    (mark store fails sequence approve decidedAt next call).1.decisions = store.decisions := by
  unfold mark TriageStore.markProposal
  cases fails with
  | true => rfl
  | false =>
    cases store.proposal sequence with
    | none => rfl
    | some row =>
      by_cases proposed : row.state = .proposed <;> simp [proposed, TriageStore.withDecision]

theorem decisions_step (careful : call.Careful lowercase) :
    (call.step lowercase store fails).1.decisions = store.decisions ∨
      call.written = none ∧ ∃ row triage,
        (call.step lowercase store fails).1.decisions = store.decisions ++ [row] ∧
          row.read = .ok triage ∧ triage.Admitted lowercase := by
  obtain ⟨request, stage, written⟩ := call
  cases stage with
  | begun =>
    cases request with
    | decide => exact .inl rfl
    | record triage occurredAt actor reason =>
      have isStep : Call.step lowercase store fails
          ⟨.record triage occurredAt actor reason, .begun, written⟩ =
            insertTriage lowercase store fails triage occurredAt actor reason
              ⟨.record triage occurredAt actor reason, .begun, written⟩ := rfl
      rw [isStep]
      unfold insertTriage append
      cases accepted : TriageStore.checked lowercase triage with
      | error failure => exact .inl rfl
      | ok _ =>
        cases fails with
        | true => exact .inl rfl
        | false =>
          refine .inr ⟨careful, _, _, rfl, TriageRow.read_write triage occurredAt actor reason, ?_⟩
          cases triage with
          | none => exact Triage.admitted_default
          | some triage => exact admitted_of_checked accepted
  | setRead rule triage =>
    cases request with
    | decide sequence approve decidedAt actor =>
      cases fails with
      | true => exact .inl rfl
      | false => exact .inr ⟨careful.1, _, _, rfl, TriageRow.read_write .., careful.2⟩
    | record => exact .inl rfl
  | answered triage =>
    cases request with
    | decide => exact .inl (decisions_mark ..)
    | record => exact .inl rfl
  | refusing =>
    cases request with
    | decide => exact .inl (decisions_mark ..)
    | record => exact .inl rfl
  | ruleRead rule => exact .inl rfl
  | recorded => exact .inl rfl
  | refused => exact .inl rfl
  | returned answer => exact .inl rfl

end Call

/-! ### The journal in every run -/

namespace Desk

variable {lowercase} {desk : Desk}

/-- Either the journal and what the calls say they wrote stay as they were, or one more row is in
both, of a set that the check accepts. -/
theorem journal_step (careful : ∀ call ∈ desk.calls, call.Careful lowercase) (next : DeskStep) :
    (∀ call ∈ (desk.step lowercase next).calls, call.Careful lowercase) ∧
      ((desk.step lowercase next).store.decisions = desk.store.decisions ∧
          (desk.step lowercase next).calls.filterMap Call.written =
            desk.calls.filterMap Call.written ∨
        ∃ row triage, row.read = .ok triage ∧ triage.Admitted lowercase ∧
          (desk.step lowercase next).store.decisions = desk.store.decisions ++ [row] ∧
            ((desk.step lowercase next).calls.filterMap Call.written).Perm
              (desk.store.decisions.length :: desk.calls.filterMap Call.written)) := by
  cases next with
  | propose rule because proposedAt => exact ⟨careful, .inl ⟨rfl, rfl⟩⟩
  | call request =>
    refine ⟨fun call member => ?_, .inl ⟨rfl, ?_⟩⟩
    · rcases List.mem_append.mp member with earlier | isNew
      · exact careful call earlier
      · rw [List.mem_singleton.mp isNew]
        exact (rfl : (none : Option Nat) = none)
    · exact (List.filterMap_append ..).trans (List.append_nil _)
  | advance index fails =>
    cases there : desk.calls[index]? with
    | none =>
      have same : desk.step lowercase (.advance index fails) = desk := by
        unfold step
        dsimp only
        rw [there]
      rw [same]
      exact ⟨careful, .inl ⟨rfl, rfl⟩⟩
    | some call =>
      rw [step_advance lowercase there fails]
      obtain ⟨front, back, isCalls, rfl⟩ : ∃ front back, desk.calls = front ++ call :: back ∧
          front.length = index := by
        obtain ⟨isIndex, rfl⟩ := List.getElem?_eq_some_iff.mp there
        exact ⟨desk.calls.take index, desk.calls.drop (index + 1), by
          rw [List.getElem_cons_drop, List.take_append_drop], List.length_take_of_le isIndex.le⟩
      have isCareful := careful call (by rw [isCalls]; simp)
      rw [isCalls, List.set_append_right _ _ le_rfl, Nat.sub_self, List.set_cons_zero]
      refine ⟨fun other member => ?_, ?_⟩
      · rcases List.mem_append.mp member with earlier | isHere
        · exact careful other (by rw [isCalls]; exact List.mem_append_left _ earlier)
        · rcases List.mem_cons.mp isHere with rfl | later
          · exact Call.careful_step isCareful
          · exact careful other (by
              rw [isCalls]
              exact List.mem_append_right _ (List.mem_cons_of_mem _ later))
      · dsimp only
        rw [List.filterMap_append, List.filterMap_append]
        rcases Call.accounts_step lowercase desk.store fails call with
          ⟨sameDecisions, sameWritten⟩ | ⟨row, appended, isWritten⟩
        · exact .inl ⟨sameDecisions, by
            rw [List.filterMap_cons, List.filterMap_cons, sameWritten]⟩
        · rcases Call.decisions_step isCareful with
            same | ⟨unwritten, row, triage, isRow, isRead, admitted⟩
          · rw [same] at appended
            exact absurd appended.symm (by simp)
          · refine .inr ⟨row, triage, isRead, admitted, isRow, ?_⟩
            rw [List.filterMap_cons_some isWritten, List.filterMap_cons_none unwritten]
            exact List.perm_middle

/-- What a run from a store keeps of the rows it appends. -/
structure Accounted (lowercase : String → String) (before : TriageStore) (desk : Desk) : Prop where
  careful : ∀ call ∈ desk.calls, call.Careful lowercase
  rows : ∃ new, desk.store.decisions = before.decisions ++ new ∧
    (desk.calls.filterMap Call.written).Perm (List.range' before.decisions.length new.length)

/-- What a run from an empty journal keeps of the set in force. -/
structure Governed (lowercase : String → String) (desk : Desk) : Prop where
  careful : ∀ call ∈ desk.calls, call.Careful lowercase
  inForce : ∃ triage, desk.store.mailTriage = .ok triage ∧ triage.Admitted lowercase

theorem careful_start (before : TriageStore) :
    ∀ call ∈ (start before).calls, call.Careful lowercase := fun _ member => nomatch member

/-- The rows that a run appends to the journal are one for one those that the calls of the run say
they wrote: no row is of no call, none is of two, and no call has two. -/
theorem rows_accounted (lowercase : String → String) (before : TriageStore)
    (steps : List DeskStep) :
    ∃ new, (run (step lowercase) (start before) steps).store.decisions = before.decisions ++ new ∧
      ((run (step lowercase) (start before) steps).calls.filterMap Call.written).Perm
        (List.range' before.decisions.length new.length) := by
  refine (run_invariant (Accounted lowercase before) (fun desk next => ?_)
    ⟨careful_start before, [], (List.append_nil _).symm, .nil⟩ steps).rows
  rintro ⟨careful, new, grown, accounted⟩
  obtain ⟨kept, ⟨same, sameWritten⟩ | ⟨row, -, -, -, appended, perm⟩⟩ := journal_step careful next
  · exact ⟨kept, new, same.trans grown, sameWritten ▸ accounted⟩
  · refine ⟨kept, new ++ [row], by rw [appended, grown, List.append_assoc], perm.trans ?_⟩
    rw [grown, List.length_append, List.length_append, List.length_singleton, List.range'_concat,
      Nat.one_mul]
    exact (accounted.cons _).trans (List.perm_append_singleton _ _).symm

/-- From an empty journal on, whatever is proposed, edited and approved and in whatever order, the
set in force can be read, and is one that the check accepts. -/
theorem inForce_admitted (lowercase : String → String) (proposals : List ProposalRow)
    (steps : List DeskStep) :
    ∃ triage, (run (step lowercase) (start ⟨[], proposals⟩) steps).store.mailTriage = .ok triage ∧
      triage.Admitted lowercase := by
  refine (run_invariant (Governed lowercase) (fun desk next => ?_)
    ⟨careful_start _, Triage.default, rfl, Triage.admitted_default⟩ steps).inForce
  rintro ⟨careful, triage, isInForce, admitted⟩
  obtain ⟨kept, ⟨same, -⟩ | ⟨row, left, isRead, accepted, appended, -⟩⟩ := journal_step careful next
  · refine ⟨kept, triage, ?_, admitted⟩
    rw [TriageStore.mailTriage, same]
    exact isInForce
  · refine ⟨kept, left, ?_, accepted⟩
    rw [TriageStore.mailTriage, appended, inForce, List.getLast?_concat]
    exact isRead

end Desk

end Twalk.Proposals
