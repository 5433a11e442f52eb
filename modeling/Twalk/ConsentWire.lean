/-
This file is what travels between the Gateway and a consumer of consent: the
snapshot document of `companion-gateway/src/consent_snapshot.rs` and the change
events of the journal, read back by the consumer's parsers. Reading what was
rendered gives the decision back for a contact and for a network's default, and
a persona's decision is no consumer's business.
-/

import Twalk.ConsentCache
import Twalk.ConsentState

namespace Twalk

open Consent Store Cache

/-! ### The snapshot document -/

def entryJson (entry : Entry) : Json :=
  .object [
    ("subject", .object [
      ("type", .string entry.subject.kind.asStr),
      ("id", .string entry.subject.id)]),
    ("connection", .string entry.connection),
    ("network", .string entry.network.asStr),
    ("state", .string entry.state.asStr),
    ("decided_at", .string entry.decidedAt),
    ("decision_sequence", .number entry.decisionSequence)]

def connectionJson (connection : Connection) : Json :=
  .object ([
    ("id", .string connection.id),
    ("kind", .string connection.kind),
    ("label", .string connection.label)] ++
    (connection.bridgeId.toList.map fun bridge => ("bridge_id", .string bridge)) ++
    connection.bridgeBot.toList.map fun bot => ("bridge_bot", .string bot))

/-- `snapshot_json`: the document a cold consumer is answered with. -/
def snapshotJson (snapshot : Store.Snapshot) (owner : Twalk.Owner) (registry : Registry) : Json :=
  .object [
    ("stream", .string "twalk"),
    ("subject", .string "twalk.consent.state.changed.v1"),
    ("stream_sequence", .number snapshot.streamSequence),
    ("next_stream_sequence", .number (snapshot.streamSequence + 1 : Nat)),
    ("decision_sequence", .number snapshot.decisionSequence),
    ("owner_identities", .array (owner.identities.map .string)),
    ("connections", .array (registry.connections.map connectionJson)),
    ("entries", .array (snapshot.entries.map entryJson))]

/-! ### What a consumer makes of it -/

/-- The consumer's word for a state. -/
def consentOf : State → Consent
  | .granted => .granted
  | .pending => .pending
  | .revoked => .revoked

@[simp] theorem fromLabel_asStr (state : State) : Consent.fromLabel state.asStr = consentOf state := by
  cases state <;> rfl

@[simp] theorem asStr_consentOf (state : State) : (consentOf state).asStr = state.asStr := by
  cases state <;> rfl

def consentSubject (subject : Subject) : Except Unusable ConsentSubject :=
  match subject.kind with
  | .contact => .ok (.contact subject.id)
  | .network => .ok .networkDefault
  | .persona => .error .notAboutASender

theorem parse_subject (subject : Subject) :
    ConsentSubject.parse (.object [
      ("type", .string subject.kind.asStr), ("id", .string subject.id)]) =
      consentSubject subject := by
  obtain ⟨kind, id⟩ := subject
  cases kind <;> rfl

def readEntry (entry : Entry) : Except Unusable ConsentEntry := do
  return ⟨← consentSubject entry.subject, entry.connection, consentOf entry.state⟩

theorem parse_entryJson {entry : Entry} (named : entry.connection ≠ "") :
    ConsentEntry.parse (entryJson entry) = readEntry entry := by
  obtain ⟨subject, connection, network, state, decidedAt, sequence⟩ := entry
  have kept : (some connection).filter (fun id => id != "") = some connection := by
    simp only [Option.filter_some, bne_iff_ne, ne_eq]
    exact if_pos named
  unfold ConsentEntry.parse entryJson readEntry
  rw [← fromLabel_asStr, ← parse_subject]
  simp [member, required, Json.textAt, Json.get?, Json.lookup, kept, bind, Except.bind, pure,
    Except.pure]

def readChange (recorded : Recorded) : Except Unusable ConsentChange := do
  return ⟨← consentSubject recorded.decision.subject, consentOf recorded.decision.newState,
    recorded.decision.connections⟩

theorem filterMap_asStr (values : List String) :
    (values.map Json.string).filterMap Json.asStr = values := by
  rw [List.filterMap_map]
  exact List.filterMap_some

theorem parse_envelope {recorded : Recorded} (covering : recorded.decision.connections ≠ [])
    (named : ∀ id ∈ recorded.decision.connections, id ≠ "") (domain producedAt : String) :
    ConsentChange.parse (recorded.envelope domain producedAt) = readChange recorded := by
  have wholeScope : recorded.decision.connections.filter (fun id => id != "") =
      recorded.decision.connections :=
    List.filter_eq_self.mpr fun id member => bne_iff_ne.mpr (named id member)
  have notEmpty : recorded.decision.connections.isEmpty = false :=
    List.isEmpty_eq_false_iff.mpr covering
  have readScope : Cache.scopeConnections recorded.data = .ok recorded.decision.connections := by
    have readList : (recorded.data.pointer ["scope", "connections"]).bind Json.asArray =
        some (recorded.decision.connections.map Json.string) := by
      simp [Recorded.data, Json.get?, Json.lookup]
    unfold Cache.scopeConnections
    rw [readList]
    simp only [filterMap_asStr, wholeScope, notEmpty, Bool.false_eq_true, if_false]
  have readData : (recorded.envelope domain producedAt).get? "data" = some recorded.data := by
    simp [Recorded.envelope, Json.get?, Json.lookup]
  have readSubject : recorded.data.get? "subject" = some (.object [
      ("type", .string recorded.decision.subject.kind.asStr),
      ("id", .string recorded.decision.subject.id)]) := by
    simp [Recorded.data, Json.get?, Json.lookup]
  have readState : recorded.data.textAt ["new_state"] =
      some recorded.decision.newState.asStr := by
    simp [Recorded.data, Json.textAt, Json.get?, Json.lookup]
  unfold ConsentChange.parse readChange
  simp only [member, readData, readSubject, readState, readScope, required, parse_subject,
    fromLabel_asStr, bind, Except.bind]

def readSnapshot (snapshot : Store.Snapshot) : Cache.Snapshot where
  entries := (snapshot.entries.map readEntry).filterMap Except.toOption
  unusable := (snapshot.entries.map readEntry).filterMap fun
    | .error why => some why
    | .ok _ => none
  nextStreamSequence := snapshot.streamSequence + 1

theorem parse_snapshotJson {snapshot : Store.Snapshot}
    (named : ∀ entry ∈ snapshot.entries, entry.connection ≠ "") (owner : Twalk.Owner)
    (registry : Registry) :
    Cache.Snapshot.parse (snapshotJson snapshot owner registry) = some (readSnapshot snapshot) := by
  have readEntries : (snapshot.entries.map entryJson).map ConsentEntry.parse =
      snapshot.entries.map readEntry := by
    rw [List.map_map]
    exact List.map_congr_left fun entry member => parse_entryJson (named entry member)
  unfold Cache.Snapshot.parse
  have readNext : (snapshotJson snapshot owner registry).get? "next_stream_sequence" =
      some (.number (snapshot.streamSequence + 1 : Nat)) := by
    simp [snapshotJson, Json.get?, Json.lookup]
  have readList : (snapshotJson snapshot owner registry).get? "entries" =
      some (.array (snapshot.entries.map entryJson)) := by
    simp [snapshotJson, Json.get?, Json.lookup]
  rw [readNext, readList]
  simp only [Json.asNat_natCast, Json.asArray_array, readEntries,
    bind, Option.bind, pure]
  rfl

end Twalk
