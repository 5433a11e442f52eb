/-
This file follows the current state through calls of `record`. A call that
appends puts its state on every connection of its scope and leaves every other
subject and connection alone. A call whose event is already journalled appends
nothing: the event id is a digest of the subject, the state, the scope and the
instant, and the instant is a clock reading, so a decision that is taken back
and taken again within one millisecond is answered as recorded while the
decision that took it back stays in force.
-/

import Twalk.ConsentState
import Twalk.Library.System

namespace Twalk

open Consent Store

/-! ### Calls and runs of calls -/

/-- The arguments of one call of `record`, and the sequences burnt before it. -/
structure RecordCall where
  decision : Decision
  actor : String
  occurredAt : String
  domain : String
  producedAt : String
  burnt : Nat

namespace RecordCall

def perform (store : ConsentStore) (call : RecordCall) :
    Except RecordError (ConsentStore × Committed) :=
  store.record call.decision call.actor call.occurredAt call.domain call.producedAt call.burnt

def after (store : ConsentStore) (call : RecordCall) : ConsentStore :=
  store.afterRecord call.decision call.actor call.occurredAt call.domain call.producedAt
    call.burnt

def eventId (store : ConsentStore) (call : RecordCall) : String :=
  (store.recordedAs call.decision call.actor call.occurredAt).eventId

def InForce (before after : ConsentStore) (decision : Decision) : Prop :=
  (∀ connection ∈ decision.connections,
    after.stateAt decision.subject connection = some decision.newState) ∧
  ∀ subject connection, ¬(decision.subject = subject ∧ connection ∈ decision.connections) →
    after.stateAt subject connection = before.stateAt subject connection

def Lands (store : ConsentStore) (call : RecordCall) : Prop :=
  store.journalled (call.eventId store) = none ∨
    ∀ connection ∈ call.decision.connections,
      store.stateAt call.decision.subject connection = some call.decision.newState

/-! ### What a successful call leaves -/

theorem inForce_append {store : ConsentStore} {recorded : Recorded} (envelope : Json)
    (burnt : Nat) (unused : store.journalled recorded.eventId = none)
    (admitted : store.Admits recorded.decision) :
    InForce store (store.append recorded envelope burnt unused admitted) recorded.decision := by
  refine ⟨fun connection member => ?_, fun subject connection outside => ?_⟩
  · rw [ConsentStore.stateAt_append]
    exact if_pos ⟨rfl, member⟩
  · rw [ConsentStore.stateAt_append]
    exact if_neg outside

theorem inForce_iff {store after : ConsentStore} {call : RecordCall} {committed : Committed}
    (succeeded : call.perform store = .ok (after, committed)) :
    InForce store after call.decision ↔ call.Lands store := by
  unfold perform at succeeded
  rcases store.record_cases call.decision call.actor call.occurredAt call.domain
    call.producedAt call.burnt with ⟨error, failed⟩ | ⟨row, found, replayed⟩ |
      ⟨unused, admitted, -, appended⟩
  · rw [failed] at succeeded
    cases succeeded
  · rw [replayed] at succeeded
    cases succeeded
    refine ⟨fun inForce => Or.inr inForce.1, fun lands => ⟨?_, fun _ _ _ => rfl⟩⟩
    rcases lands with unused | already
    · exact absurd (found.symm.trans unused) (by simp)
    · exact already
  · rw [appended] at succeeded
    cases succeeded
    exact ⟨fun _ => Or.inl unused, fun _ => inForce_append _ _ unused admitted⟩

theorem stateAt_after_of_outside (store : ConsentStore) (call : RecordCall) {subject : Subject}
    {connection : String}
    (outside : ¬(call.decision.subject = subject ∧ connection ∈ call.decision.connections)) :
    (call.after store).stateAt subject connection = store.stateAt subject connection := by
  unfold after ConsentStore.afterRecord
  rcases store.record_cases call.decision call.actor call.occurredAt call.domain
    call.producedAt call.burnt with ⟨error, failed⟩ | ⟨row, found, replayed⟩ |
      ⟨unused, admitted, -, appended⟩
  · rw [failed]
  · rw [replayed]
  · rw [appended]
    exact (inForce_append _ _ unused admitted).2 subject connection outside

theorem perform_of_isSome {store : ConsentStore} {call : RecordCall}
    (succeeds : (call.perform store).toOption.isSome = true) :
    ∃ committed, call.perform store = .ok (call.after store, committed) := by
  cases performed : call.perform store with
  | error error =>
    rw [performed] at succeeds
    exact absurd succeeds Bool.false_ne_true
  | ok pair =>
    obtain ⟨outcome, committed⟩ := pair
    refine ⟨committed, ?_⟩
    unfold after ConsentStore.afterRecord
    unfold perform at performed
    rw [performed]

/-- In every run of calls from any store, a call that succeeds leaves its decision in force,
and everything outside its scope alone, exactly when its event was not journalled before it or
its scope already held the decision. -/
theorem last_decision_wins_iff (store : ConsentStore) (calls : List RecordCall)
    (call : RecordCall) (outcome : ConsentStore) (committed : Committed)
    (succeeded : call.perform (run RecordCall.after store calls) = .ok (outcome, committed)) :
    InForce (run RecordCall.after store calls) outcome call.decision ↔
      call.Lands (run RecordCall.after store calls) :=
  inForce_iff succeeded

/-! ### A decision taken back and taken again within one millisecond -/

namespace OneMillisecond

def owner : Owner := Owner.new "@michel:example.com" []

def whatsapp : Connection := ⟨"whatsapp", "whatsapp", "WhatsApp", none, none⟩

def opened : ConsentStore := (ConsentStore.fresh owner).recordConnection whatsapp

/-- A decision about one contact, always stamped with the same instant. -/
def decide (newState : State) : RecordCall where
  decision := ⟨⟨.contact, "@alice:example.com"⟩, newState, ["whatsapp"], [.whatsapp], none⟩
  actor := "@michel:example.com"
  occurredAt := "2026-01-01T00:00:00Z"
  domain := "example.com"
  producedAt := "2026-01-01T00:00:00Z"
  burnt := 0

set_option maxRecDepth 10000 in
theorem grant_after_revocation :
    InForce (run RecordCall.after opened [decide .revoked])
      ((decide .granted).after (run RecordCall.after opened [decide .revoked]))
      (decide .granted).decision := by
  obtain ⟨committed, performed⟩ := perform_of_isSome (by decide +kernel :
    ((decide .granted).perform (run RecordCall.after opened [decide .revoked])).toOption.isSome)
  exact (last_decision_wins_iff opened [decide .revoked] (decide .granted) _ committed
    performed).mpr (Or.inl (Option.isNone_iff_eq_none.mp (by decide +kernel)))

set_option maxRecDepth 10000 in
/-- The contact is granted, revoked and granted again: the last grant is answered as recorded
and the revocation is what stays in force. -/
theorem last_grant_is_lost :
    ¬∀ (store : ConsentStore) (calls : List RecordCall) (call : RecordCall)
      (outcome : ConsentStore) (committed : Committed),
      call.perform (run RecordCall.after store calls) = .ok (outcome, committed) →
        InForce (run RecordCall.after store calls) outcome call.decision := by
  intro always
  obtain ⟨committed, performed⟩ := perform_of_isSome (by decide +kernel :
    ((decide .granted).perform
      (run RecordCall.after opened [decide .granted, decide .revoked])).toOption.isSome)
  have granted := (always _ _ _ _ _ performed).1 "whatsapp" (List.mem_singleton_self _)
  have revoked : ((decide .granted).after
      (run RecordCall.after opened [decide .granted, decide .revoked])).stateAt
        (decide .granted).decision.subject "whatsapp" = some .revoked := by
    decide +kernel
  rw [granted] at revoked
  exact absurd revoked (by decide)

end OneMillisecond

end RecordCall

end Twalk
