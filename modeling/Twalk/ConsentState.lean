/-
This file reads the views of the consent store off its journal. A row of a view
over part of the journal is the last row of that part about its subject and its
connection; the current state of a subject on a connection is the state of the
last journal row about them. It also says once what a call of `record` can do,
so that every later invariant is a short case analysis.
-/

import Twalk.ConsentStore

namespace Twalk.Store

open Consent

namespace ConsentStore

variable {store : ConsentStore}

/-! ### The views and the last rows -/

variable {rows : List JournalRow}

theorem isMostRecent_iff
    (ordered : rows.Pairwise fun earlier later => earlier.sequence < later.sequence)
    {row : JournalRow} (member : row ∈ rows) {connection : String}
    (covered : connection ∈ row.connections) :
    isMostRecent rows row connection = true ↔
      latest (JournalRow.covers row.subject connection) rows = some row := by
  have concerned : row.covers row.subject connection = true :=
    JournalRow.covers_iff.mpr ⟨rfl, covered⟩
  unfold isMostRecent
  rw [List.all_eq_true]
  constructor
  · intro greatest
    refine latest_eq_of_rank ordered member concerned fun other otherIn covers => ?_
    have bound := greatest other otherIn
    rw [covers, Bool.not_true, Bool.false_or, decide_eq_true_eq] at bound
    exact bound
  · intro found other otherIn
    cases covers : other.covers row.subject connection with
    | false => rfl
    | true => simpa using rank_le_of_latest ordered found otherIn covers

def viewRow (row : JournalRow) (connection kind : String) : StateRow :=
  ⟨row.subject, connection, kind, row.state, row.recorded.occurredAt, row.sequence⟩

theorem mem_stateOver
    (ordered : rows.Pairwise fun earlier later => earlier.sequence < later.sequence)
    {served : StateRow} :
    served ∈ store.stateOver rows ↔
      ∃ row kind, latest (JournalRow.covers served.subject served.connection) rows = some row ∧
        store.kindOf served.connection = some kind ∧
        served = viewRow row served.connection kind := by
  unfold stateOver stateRowsOf
  simp only [List.mem_flatMap, List.mem_filterMap]
  constructor
  · rintro ⟨row, member, connection, covered, answered⟩
    split at answered
    · rename_i recent
      obtain ⟨kind, isKind, rfl⟩ := Option.map_eq_some_iff.mp answered
      exact ⟨row, kind, (isMostRecent_iff ordered member covered).mp recent, isKind, rfl⟩
    · cases answered
  · rintro ⟨row, kind, found, isKind, isRow⟩
    obtain ⟨aboutSubject, covered⟩ := JournalRow.covers_iff.mp (latest_concerns found)
    refine ⟨row, latest_mem found, served.connection, covered, ?_⟩
    rw [← aboutSubject] at found
    rw [if_pos ((isMostRecent_iff ordered (latest_mem found) covered).mpr found), isKind, isRow]
    rfl

theorem exists_mem_stateOver (part : ∀ row ∈ rows, row ∈ store.journal)
    (ordered : rows.Pairwise fun earlier later => earlier.sequence < later.sequence)
    {subject : Subject} {connection : String} {row : JournalRow}
    (found : latest (JournalRow.covers subject connection) rows = some row) :
    ∃ kind, store.kindOf connection = some kind ∧
      viewRow row connection kind ∈ store.stateOver rows := by
  obtain ⟨aboutSubject, covered⟩ := JournalRow.covers_iff.mp (latest_concerns found)
  obtain ⟨kind, isKind⟩ := exists_kindOf
    (store.scopeRegistered row (part row (latest_mem found)) connection covered)
  refine ⟨kind, isKind, (mem_stateOver ordered).mpr ⟨row, kind, ?_, isKind, rfl⟩⟩
  show latest (JournalRow.covers row.subject connection) rows = some row
  rw [aboutSubject]
  exact found

theorem stateAt_eq (store : ConsentStore) (subject : Subject) (connection : String) :
    store.stateAt subject connection =
      (latest (JournalRow.covers subject connection) store.journal).map JournalRow.state := by
  unfold stateAt consentState
  cases found : (store.stateOver store.journal).find? fun row =>
      row.subject == subject && row.connection == connection with
  | some served =>
    have named := List.find?_some found
    rw [Bool.and_eq_true, beq_iff_eq, beq_iff_eq] at named
    obtain ⟨rfl, rfl⟩ := named
    obtain ⟨row, kind, last, -, isRow⟩ :=
      (mem_stateOver store.ordered).mp (List.mem_of_find?_eq_some found)
    rw [last, isRow]
    rfl
  | none =>
    cases last : latest (JournalRow.covers subject connection) store.journal with
    | none => rfl
    | some row =>
      obtain ⟨kind, -, member⟩ := exists_mem_stateOver (fun _ member => member) store.ordered last
      have absent := List.find?_eq_none.mp found _ member
      obtain ⟨aboutSubject, -⟩ := JournalRow.covers_iff.mp (latest_concerns last)
      exact absurd (by simp [viewRow, aboutSubject]) absent

/-! ### What a call of record does -/

/-- The form a decision would be journalled in. -/
def recordedAs (store : ConsentStore) (decision : Decision) (actor occurredAt : String) :
    Recorded :=
  ⟨decision, store.previousState decision, occurredAt, actor⟩

theorem record_cases (store : ConsentStore) (decision : Decision)
    (actor occurredAt domain producedAt : String) (burnt : Nat) :
    let recorded := store.recordedAs decision actor occurredAt
    let outcome := store.record decision actor occurredAt domain producedAt burnt
    (∃ error, outcome = .error error) ∨
    (∃ row, store.journalled recorded.eventId = some row ∧
      outcome = .ok (store, ⟨row.sequence, recorded.eventId,
        { recorded with oldState := row.recorded.oldState }, true⟩)) ∨
    (∃ (unused : store.journalled recorded.eventId = none) (admitted : store.Admits decision),
      decision.refuseIfOwner store.owner = .ok () ∧
      outcome = .ok (store.append recorded (recorded.envelope domain producedAt) burnt unused
        admitted, ⟨store.nextSequence burnt, recorded.eventId, recorded, false⟩)) := by
  intro recorded outcome
  have unfolded : outcome = store.record decision actor occurredAt domain producedAt burnt := rfl
  unfold record at unfolded
  cases checked : decision.refuseIfOwner store.owner with
  | error invalid =>
    rw [checked] at unfolded
    exact Or.inl ⟨_, unfolded⟩
  | ok =>
    rw [checked] at unfolded
    simp only at unfolded
    split at unfolded
    · rename_i row found
      exact Or.inr (Or.inl ⟨row, found, unfolded⟩)
    · rename_i unused
      split at unfolded
      · rename_i admitted
        exact Or.inr (Or.inr ⟨unused, admitted, rfl, unfolded⟩)
      · exact Or.inl ⟨_, unfolded⟩

theorem refuseIfOwner_eq_ok {decision : Decision} {owner : Owner} :
    decision.refuseIfOwner owner = .ok () ↔
      ¬(decision.subject.kind = .contact ∧ owner.isOwner decision.subject.id = true) := by
  unfold Decision.refuseIfOwner
  split
  · rename_i isOwner
    exact ⟨fun impossible => (nomatch impossible), fun isNot => absurd isOwner isNot⟩
  · rename_i isNot
    exact ⟨fun _ => isNot, fun _ => rfl⟩

def newRow (store : ConsentStore) (recorded : Recorded) (envelope : Json) (burnt : Nat) :
    JournalRow :=
  ⟨store.nextSequence burnt, recorded.eventId, recorded, envelope, none, none⟩

@[simp] theorem journal_append (store : ConsentStore) (recorded : Recorded) (envelope : Json)
    (burnt : Nat) (unused : store.journalled recorded.eventId = none)
    (admitted : store.Admits recorded.decision) :
    (store.append recorded envelope burnt unused admitted).journal =
      store.journal ++ [store.newRow recorded envelope burnt] := rfl

theorem stateAt_append (store : ConsentStore) (recorded : Recorded) (envelope : Json)
    (burnt : Nat) (unused : store.journalled recorded.eventId = none)
    (admitted : store.Admits recorded.decision) (subject : Subject) (connection : String) :
    (store.append recorded envelope burnt unused admitted).stateAt subject connection =
      if recorded.decision.subject = subject ∧ connection ∈ recorded.decision.connections then
        some recorded.decision.newState
      else store.stateAt subject connection := by
  rw [stateAt_eq, stateAt_eq, journal_append, latest_concat]
  by_cases concerned : recorded.decision.subject = subject ∧
      connection ∈ recorded.decision.connections
  · have covers : (store.newRow recorded envelope burnt).covers subject connection = true :=
      JournalRow.covers_iff.mpr concerned
    rw [if_pos covers, if_pos concerned]
    rfl
  · have misses : ¬(store.newRow recorded envelope burnt).covers subject connection = true :=
      fun covers => concerned (JournalRow.covers_iff.mp covers)
    rw [if_neg misses, if_neg concerned]

theorem journal_afterRecord (store : ConsentStore) (decision : Decision)
    (actor occurredAt domain producedAt : String) (burnt : Nat) :
    let recorded := store.recordedAs decision actor occurredAt
    let after := store.afterRecord decision actor occurredAt domain producedAt burnt
    after.journal = store.journal ∨
      after.journal = store.journal ++
        [store.newRow recorded (recorded.envelope domain producedAt) burnt] := by
  intro recorded after
  have unfolded : after = store.afterRecord decision actor occurredAt domain producedAt burnt := rfl
  unfold afterRecord at unfolded
  rcases store.record_cases decision actor occurredAt domain producedAt burnt with
    ⟨error, failed⟩ | ⟨row, found, replayed⟩ | ⟨unused, admitted, -, appended⟩
  · rw [failed] at unfolded
    exact Or.inl (by rw [unfolded])
  · rw [replayed] at unfolded
    exact Or.inl (by rw [unfolded])
  · rw [appended] at unfolded
    exact Or.inr (by rw [unfolded]; rfl)

theorem foldl_recordConnection_induction (property : ConsentStore → Prop)
    (kept : ∀ store connection, property store → property (store.recordConnection connection))
    {store : ConsentStore} (holds : property store) (connections : List Connection) :
    property (store.recordConnections connections).1 := by
  unfold recordConnections
  induction connections generalizing store with
  | nil => exact holds
  | cons connection rest inductionHypothesis =>
    exact inductionHypothesis (kept store connection holds)

theorem journal_recordConnections (store : ConsentStore) (connections : List Connection) :
    (store.recordConnections connections).1.journal = store.journal :=
  foldl_recordConnection_induction (fun after => after.journal = store.journal)
    (fun _ _ same => same) rfl connections

theorem owner_recordConnections (store : ConsentStore) (connections : List Connection) :
    (store.recordConnections connections).1.owner = store.owner :=
  foldl_recordConnection_induction (fun after => after.owner = store.owner)
    (fun _ _ same => same) rfl connections

theorem owner_afterRecord (store : ConsentStore) (decision : Decision)
    (actor occurredAt domain producedAt : String) (burnt : Nat) :
    (store.afterRecord decision actor occurredAt domain producedAt burnt).owner = store.owner := by
  unfold afterRecord
  rcases store.record_cases decision actor occurredAt domain producedAt burnt with
    ⟨error, failed⟩ | ⟨row, found, replayed⟩ | ⟨unused, admitted, -, appended⟩
  · rw [failed]
  · rw [replayed]
  · rw [appended]
    rfl

/-! ### Whom the reads withhold -/

theorem isEmpty_identities (owner : Owner) : owner.identities.isEmpty = false :=
  List.isEmpty_eq_false_iff.mpr (List.ne_nil_of_mem owner.ownIdentity)

variable {row : StateRow}

theorem servedTo_iff {owner : Owner} :
    servedTo owner row = true ↔
      ¬(row.subject.kind = .contact ∧ owner.isOwner row.subject.id = true) := by
  unfold servedTo Owner.isOwner
  rw [isEmpty_identities, if_neg Bool.false_ne_true, Bool.not_eq_true', Bool.and_eq_false_iff,
    beq_eq_false_iff_ne, not_and_or, Bool.not_eq_true]

/-! ### What a snapshot serves -/

theorem collect_eq {maxEntries : Nat} {rows : List StateRow} {before : List Entry}
    (room : before.length ≤ maxEntries) :
    collect maxEntries rows before =
      match (rows.take (maxEntries - before.length)).mapM entry with
      | .error why => .error (.store why)
      | .ok read =>
        if before.length + rows.length ≤ maxEntries then .ok (before ++ read)
        else .error (.tooLarge maxEntries) := by
  induction rows generalizing before with
  | nil => simp [collect, room, pure, Except.pure]
  | cons row rest inductionHypothesis =>
    unfold collect
    by_cases full : before.length = maxEntries
    · simp [full, pure, Except.pure]
    · rw [if_neg full]
      obtain ⟨left, isLeft⟩ : ∃ left, maxEntries - before.length = left + 1 :=
        ⟨maxEntries - before.length - 1, by omega⟩
      rw [isLeft, List.take_succ_cons, List.mapM_cons]
      cases readFirst : entry row with
      | error why => rfl
      | ok first =>
        have grown : (before ++ [first]).length = before.length + 1 := by simp
        have remaining : maxEntries - (before ++ [first]).length = left := by omega
        simp only
        rw [inductionHypothesis (by omega), remaining]
        cases readRest : (rest.take left).mapM entry with
        | error why => rfl
        | ok read =>
          have sameCount : (before ++ [first]).length + rest.length =
              before.length + (row :: rest).length := by
            rw [grown, List.length_cons]
            omega
          simp only [sameCount, List.append_assoc, List.singleton_append]
          rfl

/-- The answer of a snapshot with some rows to serve: those the cap has room for are read,
and more of them than the cap refuse the whole. -/
def capped (store : ConsentStore) (rows : List StateRow) (maxEntries : Nat) :
    Except SnapshotRefusal Snapshot :=
  match (rows.take maxEntries).mapM entry with
  | .error why => .error (.store why)
  | .ok entries =>
    if rows.length ≤ maxEntries then
      .ok ⟨entries, store.snapshotHorizon, store.horizonPosition⟩
    else .error (.tooLarge maxEntries)

theorem snapshot_eq (store : ConsentStore) (maxEntries : Nat) :
    store.snapshot maxEntries = store.capped store.snapshotRows maxEntries := by
  unfold snapshot capped
  rw [collect_eq (Nat.zero_le _), List.length_nil, Nat.sub_zero, List.take_take,
    Nat.min_eq_left (Nat.le_succ maxEntries)]
  cases (store.snapshotRows.take maxEntries).mapM entry with
  | error why => rfl
  | ok entries =>
    have counted : 0 + (store.snapshotRows.take (maxEntries + 1)).length ≤ maxEntries ↔
        store.snapshotRows.length ≤ maxEntries := by
      rw [List.length_take]
      omega
    simp only [counted]
    by_cases fits : store.snapshotRows.length ≤ maxEntries
    · simp only [if_pos fits, List.nil_append]
    · simp only [if_neg fits]

theorem snapshot_eq_ok {maxEntries : Nat} {served : Snapshot}
    (answered : store.snapshot maxEntries = .ok served) :
    store.snapshotRows.mapM entry = .ok served.entries ∧
      served.decisionSequence = store.snapshotHorizon ∧
      served.streamSequence = store.horizonPosition := by
  rw [snapshot_eq, capped] at answered
  split at answered
  · cases answered
  · rename_i entries read
    split at answered
    · rename_i fits
      rw [List.take_of_length_le fits] at read
      cases answered
      exact ⟨read, rfl, rfl⟩
    · cases answered

theorem entry_eq_ok {read : Entry} (answered : entry row = .ok read) :
    ∃ network, Network.parse row.network = some network ∧
      read = ⟨row.subject, row.connection, network, row.state, row.decidedAt,
        row.decisionSequence⟩ := by
  unfold entry at answered
  split at answered
  · rename_i network parsed
    cases answered
    exact ⟨network, parsed, rfl⟩
  · cases answered

theorem mem_inOrder {rows : List StateRow} : row ∈ inOrder rows ↔ row ∈ rows :=
  mem_sortBy

end ConsentStore

end Twalk.Store
