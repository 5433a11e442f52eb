/-
This file is the agreement of the Gateway and its consumers on the effective
state of a contact. The Gateway reads the contact's own row and the row of the
network of the connection's kind; a consumer's cache reads the contact's own
entry and the default of the connection, whatever network it was taken for. The
two coincide because a network's decision is only ever scoped to connections of
its own kind, which is what an accepted decision promises.
-/

import Twalk.Handoff

namespace Twalk

open Consent Store Cache

namespace Outbox

variable {kinds : String → String} {store : ConsentStore}

/-! ### The two precedences -/

theorem effective_state (sound : Sound kinds store) {contact connection : String}
    {network : Network} (ofKind : network.asStr = kinds connection)
    (notOwner : store.owner.isOwner contact = false) :
    (store.effective contact connection network).state =
      (((latest (JournalRow.covers ⟨.contact, contact⟩ connection) store.journal).map
          JournalRow.state).or
        ((latest (tellsDefault connection) store.journal).map JournalRow.state)).getD .pending := by
  have told : latest (tellsDefault connection) store.journal =
      latest (JournalRow.covers ⟨.network, network.asStr⟩ connection) store.journal :=
    latest_congr fun row member => by rw [tellsDefault_eq (sound.rows row member), ofKind]
  unfold ConsentStore.effective
  rw [notOwner, if_neg Bool.false_ne_true, Effective.resolve_state, ConsentStore.stateAt_eq,
    ConsentStore.stateAt_eq, told]

theorem cache_state (cache : ConsentCache) (rows : List JournalRow) {contact : String}
    (connection : String) (person : cache.notAPerson contact = false) :
    ConsentCache.state
        { cache with states := (rows.flatMap rowEntries).foldl cache.take States.empty } contact
        connection =
      consentOf ((((latest (JournalRow.covers ⟨.contact, contact⟩ connection) rows).map
          JournalRow.state).or
        ((latest (tellsDefault connection) rows).map JournalRow.state)).getD .pending) := by
  have told : latest (tellsContact cache contact connection) rows =
      latest (JournalRow.covers ⟨.contact, contact⟩ connection) rows :=
    latest_congr fun row _ => by rw [tellsContact, person, Bool.not_false, Bool.and_true]
  unfold ConsentCache.state
  simp only
  rw [ConsentCache.contacts_foldl_take, ConsentCache.defaults_foldl_take,
    latest_contact_rowEntries, latest_default_rowEntries, told]
  cases latest (JournalRow.covers ⟨.contact, contact⟩ connection) rows with
  | some row => rfl
  | none =>
    cases latest (tellsDefault connection) rows with
    | some row => rfl
    | none => rfl

theorem exists_new_of_drained {before after : Outbox} (drained : before.Drained)
    (grows : before.Grows after) : ∃ new, after.store.journal = before.store.journal ++ new := by
  obtain ⟨kept, new, journal, continues⟩ := grows
  exact ⟨new, by rw [journal, eq_of_continues continues drained]⟩

def eventsSince (before after : ConsentStore) : List Json :=
  (after.journal.drop before.journal.length).map JournalRow.envelope

/-- The Gateway and a consumer answer alike about every contact that is a person, on every
connection, whether the consumer followed every event from the first on or started from a
snapshot of a drained journal and followed the events since. -/
theorem effective_eq_state (owner : Twalk.Owner) (cache : ConsentCache) (contact : String)
    (connection : String) (network : Network) (ofKind : network.asStr = kinds connection)
    (notOwner : owner.isOwner contact = false) (person : cache.notAPerson contact = false) :
    (∀ steps : List (OutboxStep kinds),
      let gateway := run Outbox.step (start owner) steps
      (gateway.store.effective contact connection network).state.asStr =
        ((fromJournal cache gateway.store).state contact connection).asStr) ∧
    ∀ (steps later : List (OutboxStep kinds)) (maxEntries : Nat) (served : Store.Snapshot)
      (registry : Registry) (document : Cache.Snapshot),
      let before := run Outbox.step (start owner) steps
      let after := run Outbox.step (start owner) (steps ++ later)
      before.Drained → before.store.snapshot maxEntries = .ok served →
      Cache.Snapshot.parse (snapshotJson served owner registry) = some document →
      (after.store.effective contact connection network).state.asStr =
        (((cache.applySnapshot document).follow (eventsSince before.store after.store)).state
          contact connection).asStr := by
  refine ⟨fun steps => ?_, ?_⟩
  · obtain ⟨-, sound⟩ := reachable owner steps
    simp only
    rw [effective_state sound ofKind (by rw [owner_run]; exact notOwner), fromJournal,
      follow_envelopes sound.rows]
    refine Eq.trans ?_ (congrArg Consent.asStr (cache_state cache _ connection person).symm)
    exact (asStr_consentOf _).symm
  · intro steps later maxEntries served registry document before after drained answered parsed
    obtain ⟨⟨marked, unmarked, messages, pending, aligned⟩, soundBefore⟩ := reachable owner steps
    obtain ⟨-, soundAfter⟩ := reachable owner (steps ++ later)
    obtain ⟨new, journal⟩ := exists_new_of_drained drained (grows_run owner steps later)
    obtain ⟨rfl, -⟩ := aligned.of_drained drained
    obtain rfl : document = readSnapshot served := by
      rw [parse_snapshotJson (snapshot_named soundBefore answered)] at parsed
      exact (Option.some.inj parsed).symm
    have since : eventsSince before.store after.store = new.map JournalRow.envelope := by
      unfold eventsSince
      rw [journal, List.drop_left]
    have newSound : ∀ row ∈ new, SoundRow kinds after.store.owner row := fun row member =>
      soundAfter.rows row (by rw [journal]; exact List.mem_append_right _ member)
    have whole : marked ++ new = after.store.journal := by
      rw [journal, aligned.journal, List.append_nil]
    rw [effective_state soundAfter ofKind (by rw [owner_run]; exact notOwner), since,
      follow_envelopes newSound]
    have states := states_of_snapshot_and_rows soundBefore answered aligned.reflected_eq
      (Or.inl rfl : new = new ∨ new = marked ++ new) cache
    rw [whole] at states
    refine Eq.trans (asStr_consentOf _).symm ?_
    rw [← cache_state cache after.store.journal connection person, ← states]
    rfl

set_option maxRecDepth 10000 in
/-- A contact that was granted is granted for a consumer that starts from the snapshot. -/
theorem alice_granted_from_snapshot :
    ∃ document : Cache.Snapshot,
      ((((ConsentCache.forPeopleOnly none []).applySnapshot document).follow
        (eventsSince (run Outbox.step (start BurntSequence.owner) BurntSequence.oneDecision).store
          (run Outbox.step (start BurntSequence.owner)
            (BurntSequence.oneDecision ++ [])).store)).state "@alice:example.com"
        "whatsapp").asStr = "granted" := by
  obtain ⟨served, answered, parsed⟩ := BurntSequence.exists_snapshot (by decide :
    ((run Outbox.step (start BurntSequence.owner) BurntSequence.oneDecision).store.snapshot
      10).toOption.isSome = true)
  have drained : (run Outbox.step (start BurntSequence.owner) BurntSequence.oneDecision).Drained := by
    unfold Outbox.Drained
    decide
  have granted : ((run Outbox.step (start BurntSequence.owner)
      (BurntSequence.oneDecision ++ [])).store.effective "@alice:example.com" "whatsapp"
        .whatsapp).state.asStr = "granted" := by
    decide
  refine ⟨readSnapshot served, ?_⟩
  rw [← granted]
  exact ((effective_eq_state BurntSequence.owner (ConsentCache.forPeopleOnly none [])
    "@alice:example.com" "whatsapp" .whatsapp rfl (by decide) rfl).2
      BurntSequence.oneDecision [] 10 served BurntSequence.registry (readSnapshot served) drained
      answered parsed).symm

end Outbox

end Twalk
