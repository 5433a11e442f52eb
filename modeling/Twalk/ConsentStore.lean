/-
This file models the consent half of `companion-gateway/src/store.rs`: the
append-only decision journal with its scope rows, the registered connections,
the sightings of contacts, and the views and reads over them. A store holds what
the schema enforces: sequences grow, an event id and a connection id stand once,
a scope names registered connections and names each once. A decision's scope is
kept with its row, since both are written in one transaction and never changed.
The main result is that a subject's current state on a connection is the state
of the last row about it, which is what the rest of the development reads.
-/

import Twalk.Consent
import Twalk.Library.Ledger
import Twalk.Library.Sorting

namespace Twalk.Store

open Consent

/-! ### The tables -/

structure ConnectionRow where
  id : String
  kind : String
  label : String
  bridgeId : Option String
deriving DecidableEq, Repr

/-- A row of `consent_decision`, with the connections its scope rows name. -/
structure JournalRow where
  sequence : Nat
  eventId : String
  recorded : Recorded
  envelope : Json
  publishedAt : Option String
  streamSequence : Option Nat

structure SeenRow where
  contact : String
  connection : String
  firstSeen : String
  lastSeen : String
deriving DecidableEq, Repr

namespace JournalRow

def subject (row : JournalRow) : Subject := row.recorded.decision.subject

def state (row : JournalRow) : State := row.recorded.decision.newState

def connections (row : JournalRow) : List String := row.recorded.decision.connections

def covers (subject : Subject) (connection : String) (row : JournalRow) : Bool :=
  row.subject == subject && row.connections.contains connection

theorem covers_iff {subject : Subject} {connection : String} {row : JournalRow} :
    row.covers subject connection = true ↔
      row.subject = subject ∧ connection ∈ row.connections := by
  unfold covers
  rw [Bool.and_eq_true, beq_iff_eq, List.contains_iff_mem]

end JournalRow

structure ConsentStore where
  owner : Owner
  connections : List ConnectionRow
  journal : List JournalRow
  contactSeen : List SeenRow
  connectionsDistinct : (connections.map ConnectionRow.id).Nodup
  ordered : journal.Pairwise fun earlier later => earlier.sequence < later.sequence
  started : ∀ row ∈ journal, 0 < row.sequence
  eventsDistinct : journal.Pairwise fun earlier later => earlier.eventId ≠ later.eventId
  scopeOnce : ∀ row ∈ journal, row.connections.Nodup
  scopeRegistered : ∀ row ∈ journal, ∀ id ∈ row.connections,
    id ∈ connections.map ConnectionRow.id
  seenOnce : (contactSeen.map fun seen => (seen.contact, seen.connection)).Nodup
  seenRegistered : ∀ seen ∈ contactSeen, seen.connection ∈ connections.map ConnectionRow.id

namespace ConsentStore

def fresh (owner : Owner) : ConsentStore where
  owner := owner
  connections := []
  journal := []
  contactSeen := []
  connectionsDistinct := List.nodup_nil
  ordered := List.Pairwise.nil
  started := List.forall_mem_nil _
  eventsDistinct := List.Pairwise.nil
  scopeOnce := List.forall_mem_nil _
  scopeRegistered := List.forall_mem_nil _
  seenOnce := List.Pairwise.nil
  seenRegistered := List.forall_mem_nil _

/-- The kind of a registered connection: what a view joins `connection` for. -/
def kindOf (store : ConsentStore) (id : String) : Option String :=
  (store.connections.find? fun row => row.id == id).map ConnectionRow.kind

theorem exists_kindOf {store : ConsentStore} {id : String}
    (registered : id ∈ store.connections.map ConnectionRow.id) :
    ∃ kind, store.kindOf id = some kind := by
  obtain ⟨row, member, same⟩ := List.mem_map.mp registered
  unfold kindOf
  cases found : store.connections.find? fun row => row.id == id with
  | some other => exact ⟨other.kind, rfl⟩
  | none =>
    have absent := List.find?_eq_none.mp found row member
    exact absurd (beq_iff_eq.mpr same) absent

end ConsentStore

/-! ### The views -/

/-- A row of `consent_state` and of `consent_snapshot`. -/
structure StateRow where
  subject : Subject
  connection : String
  network : String
  state : State
  decidedAt : String
  decisionSequence : Nat
deriving DecidableEq, Repr

def isMostRecent (rows : List JournalRow) (row : JournalRow) (connection : String) : Bool :=
  rows.all fun other => !other.covers row.subject connection || other.sequence ≤ row.sequence

namespace ConsentStore

def stateRowsOf (store : ConsentStore) (rows : List JournalRow) (row : JournalRow) :
    List StateRow :=
  row.connections.filterMap fun connection =>
    if isMostRecent rows row connection then
      (store.kindOf connection).map fun kind =>
        ⟨row.subject, connection, kind, row.state, row.recorded.occurredAt, row.sequence⟩
    else none

def stateOver (store : ConsentStore) (rows : List JournalRow) : List StateRow :=
  rows.flatMap (store.stateRowsOf rows)

def consentState (store : ConsentStore) : List StateRow := store.stateOver store.journal

/-- The view `consent_snapshot_horizon`: the sequence before the first row without a position,
or the last sequence, or zero. -/
def snapshotHorizon (store : ConsentStore) : Nat :=
  match ((store.journal.filter fun row => row.streamSequence.isNone).map
      JournalRow.sequence).min? with
  | some first => first - 1
  | none => ((store.journal.map JournalRow.sequence).max?).getD 0

def consentSnapshot (store : ConsentStore) : List StateRow :=
  store.stateOver (store.journal.filter fun row => row.sequence ≤ store.snapshotHorizon)

end ConsentStore

/-! ### Reading the current state -/

/-- `entry`: a view row as it is answered, whose network has to be one. -/
structure Entry where
  subject : Subject
  connection : String
  network : Network
  state : State
  decidedAt : String
  decisionSequence : Nat
deriving DecidableEq, Repr

def entry (row : StateRow) : Except String Entry :=
  match Network.parse row.network with
  | some network =>
    .ok ⟨row.subject, row.connection, network, row.state, row.decidedAt, row.decisionSequence⟩
  | none => .error s!"the journal holds the network \"{row.network}\""

def inOrder (rows : List StateRow) : List StateRow :=
  sortBy (fun row => [row.subject.kind.asStr, row.subject.id, row.connection]) rows

/-- The rows the owner clauses let through: not a contact that is one of the identities. With
no identity there is no clause. -/
def servedTo (owner : Owner) (row : StateRow) : Bool :=
  if owner.identities.isEmpty then true
  else !(row.subject.kind == .contact && owner.identities.contains row.subject.id)

structure Snapshot where
  entries : List Entry
  decisionSequence : Nat
  streamSequence : Nat
deriving DecidableEq, Repr

inductive SnapshotRefusal where
  | tooLarge (maxEntries : Nat)
  | store (why : String)
deriving DecidableEq, Repr

def collect (maxEntries : Nat) : List StateRow → List Entry → Except SnapshotRefusal (List Entry)
  | [], entries => .ok entries
  | row :: rest, entries =>
    if entries.length = maxEntries then .error (.tooLarge maxEntries)
    else
      match entry row with
      | .ok read => collect maxEntries rest (entries ++ [read])
      | .error why => .error (.store why)

structure SeenContact where
  contact : String
  connection : String
  network : Network
  firstSeen : String
  lastSeen : String
deriving DecidableEq, Repr

namespace ConsentStore

def stateAt (store : ConsentStore) (subject : Subject) (connection : String) : Option State :=
  (store.consentState.find? fun row =>
    row.subject == subject && row.connection == connection).map StateRow.state

/-- `entries`: the current state without the owner's own rows. -/
def entries (store : ConsentStore) : Except String (List Entry) :=
  (inOrder (store.consentState.filter (servedTo store.owner))).mapM entry

def horizonPosition (store : ConsentStore) : Nat :=
  match store.journal.find? fun row => row.sequence == store.snapshotHorizon with
  | some row => row.streamSequence.getD 0
  | none => 0

def snapshotRows (store : ConsentStore) : List StateRow :=
  inOrder (store.consentSnapshot.filter (servedTo store.owner))

/-- `snapshot`: the state a cold consumer starts from, refused rather than truncated. -/
def snapshot (store : ConsentStore) (maxEntries : Nat) : Except SnapshotRefusal Snapshot :=
  match collect maxEntries (store.snapshotRows.take (maxEntries + 1)) [] with
  | .ok entries => .ok ⟨entries, store.snapshotHorizon, store.horizonPosition⟩
  | .error refusal => .error refusal

def effective (store : ConsentStore) (contact connection : String) (network : Network) :
    Effective :=
  if store.owner.isOwner contact then Effective.resolve contact network none none
  else
    Effective.resolve contact network (store.stateAt ⟨.contact, contact⟩ connection)
      (store.stateAt ⟨.network, network.asStr⟩ connection)

/-- The committed decisions the outbox has not published, oldest first. -/
def unpublished (store : ConsentStore) (limit : Nat) : List JournalRow :=
  (store.journal.filter fun row => row.publishedAt.isNone).take limit

/-- A row of the view `pending_contact`: a sighting no decision covers. -/
def isPending (store : ConsentStore) (seen : SeenRow) (kind : String) : Bool :=
  !store.consentState.any fun row => row.connection == seen.connection &&
    ((row.subject.kind == .contact && row.subject.id == seen.contact) ||
      (row.subject.kind == .network && row.subject.id == kind))

def pendingContact (store : ConsentStore) : List (SeenRow × String) :=
  store.contactSeen.filterMap fun seen =>
    (store.kindOf seen.connection).bind fun kind =>
      if store.isPending seen kind then some (seen, kind) else none

def pendingServedTo (owner : Owner) (pending : SeenRow × String) : Bool :=
  if owner.identities.isEmpty then true else !owner.identities.contains pending.1.contact

def readPending (pending : SeenRow × String) : Except String SeenContact :=
  match Network.parse pending.2 with
  | some network =>
    .ok ⟨pending.1.contact, pending.1.connection, network, pending.1.firstSeen,
      pending.1.lastSeen⟩
  | none => .error s!"the store holds the network \"{pending.2}\""

def pendingInOrder (rows : List (SeenRow × String)) : List (SeenRow × String) :=
  sortBy (fun pending => [pending.1.firstSeen, pending.1.contact, pending.1.connection]) rows

def pendingContacts (store : ConsentStore) : Except String (List SeenContact) :=
  (pendingInOrder (store.pendingContact.filter (pendingServedTo store.owner))).mapM readPending

def pendingContactCount (store : ConsentStore) : Nat :=
  (store.pendingContact.filter (pendingServedTo store.owner)).length

end ConsentStore

/-! ### Writing -/

structure Committed where
  sequence : Nat
  eventId : String
  recorded : Recorded
  replayed : Bool
deriving DecidableEq, Repr

/-- Why a decision was not recorded: its subject, or a scope the schema refuses. -/
inductive RecordError where
  | aboutTheOwner (invalid : Invalid)
  | scope
deriving DecidableEq, Repr

namespace ConsentStore

def previousState (store : ConsentStore) (decision : Decision) : OldState :=
  match latest (fun row : StateRow => row.subject == decision.subject &&
      decision.connections.contains row.connection) store.consentState with
  | some row => .was row.state
  | none => .unset

def journalled (store : ConsentStore) (eventId : String) : Option JournalRow :=
  store.journal.find? fun row => row.eventId == eventId

def Admits (store : ConsentStore) (decision : Decision) : Prop :=
  decision.connections.Nodup ∧
    ∀ id ∈ decision.connections, id ∈ store.connections.map ConnectionRow.id

instance (store : ConsentStore) (decision : Decision) : Decidable (store.Admits decision) :=
  inferInstanceAs (Decidable (_ ∧ _))

def nextSequence (store : ConsentStore) (burnt : Nat) : Nat :=
  ((store.journal.getLast?.map JournalRow.sequence).getD 0) + burnt + 1

theorem sequence_lt_nextSequence (store : ConsentStore) (burnt : Nat) {row : JournalRow}
    (member : row ∈ store.journal) : row.sequence < store.nextSequence burnt := by
  obtain ⟨front, last, split⟩ :=
    (List.eq_nil_or_concat' store.journal).resolve_left (List.ne_nil_of_mem member)
  have ordered := store.ordered
  rw [split] at member ordered
  have below := rank_le_end ordered member
  unfold nextSequence
  rw [split, List.getLast?_concat, Option.map_some, Option.getD_some]
  omega

def append (store : ConsentStore) (recorded : Recorded) (envelope : Json) (burnt : Nat)
    (unused : store.journalled recorded.eventId = none)
    (admitted : store.Admits recorded.decision) : ConsentStore :=
  let row : JournalRow :=
    ⟨store.nextSequence burnt, recorded.eventId, recorded, envelope, none, none⟩
  { store with
    journal := store.journal ++ [row]
    ordered := List.pairwise_append.mpr ⟨store.ordered, List.pairwise_singleton _ _, by
      intro earlier member later isNew
      rw [List.mem_singleton.mp isNew]
      exact store.sequence_lt_nextSequence burnt member⟩
    started := by
      intro other member
      rcases List.mem_append.mp member with old | isNew
      · exact store.started other old
      · rw [List.mem_singleton.mp isNew]
        exact Nat.succ_pos _
    eventsDistinct := List.pairwise_append.mpr ⟨store.eventsDistinct, List.pairwise_singleton _ _,
      by
        intro earlier member later isNew same
        rw [List.mem_singleton.mp isNew] at same
        have absent := List.find?_eq_none.mp unused earlier member
        exact absent (beq_iff_eq.mpr same)⟩
    scopeOnce := by
      intro other member
      rcases List.mem_append.mp member with old | isNew
      · exact store.scopeOnce other old
      · rw [List.mem_singleton.mp isNew]
        exact admitted.1
    scopeRegistered := by
      intro other member
      rcases List.mem_append.mp member with old | isNew
      · exact store.scopeRegistered other old
      · rw [List.mem_singleton.mp isNew]
        exact admitted.2 }

/-- `record`: append one decision, unless its subject is the owner, its event is already
journalled, or the schema refuses its scope. `burnt` sequences are skipped. -/
def record (store : ConsentStore) (decision : Decision)
    (actor occurredAt domain producedAt : String) (burnt : Nat) :
    Except RecordError (ConsentStore × Committed) :=
  match decision.refuseIfOwner store.owner with
  | .error invalid => .error (.aboutTheOwner invalid)
  | .ok () =>
    let recorded : Recorded := ⟨decision, store.previousState decision, occurredAt, actor⟩
    match unused : store.journalled recorded.eventId with
    | some row =>
      .ok (store, ⟨row.sequence, recorded.eventId,
        { recorded with oldState := row.recorded.oldState }, true⟩)
    | none =>
      if admitted : store.Admits decision then
        .ok (store.append recorded (recorded.envelope domain producedAt) burnt unused admitted,
          ⟨store.nextSequence burnt, recorded.eventId, recorded, false⟩)
      else .error .scope

def afterRecord (store : ConsentStore) (decision : Decision)
    (actor occurredAt domain producedAt : String) (burnt : Nat) : ConsentStore :=
  match store.record decision actor occurredAt domain producedAt burnt with
  | .ok (after, _) => after
  | .error _ => store

end ConsentStore

def markRow (sequence : Nat) (publishedAt : String) (streamSequence : Nat) (row : JournalRow) :
    JournalRow :=
  if row.sequence = sequence ∧ row.publishedAt = none then
    { row with publishedAt := some publishedAt, streamSequence := some streamSequence }
  else row

section markRow

variable (sequence : Nat) (publishedAt : String) (streamSequence : Nat) (row : JournalRow)

@[simp] theorem markRow_sequence :
    (markRow sequence publishedAt streamSequence row).sequence = row.sequence := by
  unfold markRow
  split <;> rfl

@[simp] theorem markRow_eventId :
    (markRow sequence publishedAt streamSequence row).eventId = row.eventId := by
  unfold markRow
  split <;> rfl

@[simp] theorem markRow_recorded :
    (markRow sequence publishedAt streamSequence row).recorded = row.recorded := by
  unfold markRow
  split <;> rfl

@[simp] theorem markRow_envelope :
    (markRow sequence publishedAt streamSequence row).envelope = row.envelope := by
  unfold markRow
  split <;> rfl

@[simp] theorem markRow_connections :
    (markRow sequence publishedAt streamSequence row).connections = row.connections := by
  unfold JournalRow.connections
  rw [markRow_recorded]

end markRow

/-- One connection of the configuration: inserted when new, refreshed when known. -/
def upsertConnection (rows : List ConnectionRow) (connection : Connection) :
    List ConnectionRow :=
  if connection.id ∈ rows.map ConnectionRow.id then
    rows.map fun row =>
      if row.id = connection.id then
        { row with
          kind := connection.kind, label := connection.label, bridgeId := connection.bridgeId }
      else row
  else rows ++ [⟨connection.id, connection.kind, connection.label, connection.bridgeId⟩]

theorem map_id_upsertConnection (rows : List ConnectionRow) (connection : Connection) :
    (upsertConnection rows connection).map ConnectionRow.id =
      if connection.id ∈ rows.map ConnectionRow.id then rows.map ConnectionRow.id
      else rows.map ConnectionRow.id ++ [connection.id] := by
  unfold upsertConnection
  split
  · rw [List.map_map]
    refine List.map_congr_left fun row _ => ?_
    simp only [Function.comp_apply]
    split <;> rfl
  · rw [List.map_append]
    rfl

variable {rows : List ConnectionRow}

theorem nodup_upsertConnection (distinct : (rows.map ConnectionRow.id).Nodup)
    (connection : Connection) :
    ((upsertConnection rows connection).map ConnectionRow.id).Nodup := by
  rw [map_id_upsertConnection]
  split
  · exact distinct
  · rename_i absent
    exact List.nodup_append.mpr ⟨distinct, List.nodup_singleton _, by
      intro earlier member later isNew same
      rw [List.mem_singleton.mp isNew] at same
      exact absent (same ▸ member)⟩

theorem mem_upsertConnection {id : String} (member : id ∈ rows.map ConnectionRow.id)
    (connection : Connection) :
    id ∈ (upsertConnection rows connection).map ConnectionRow.id := by
  rw [map_id_upsertConnection]
  split
  · exact member
  · exact List.mem_append_left _ member

namespace ConsentStore

/-- `mark_published`: the only mutation the journal allows. -/
def markPublished (store : ConsentStore) (sequence : Nat) (publishedAt : String)
    (streamSequence : Nat) : ConsentStore :=
  { store with
    journal := store.journal.map (markRow sequence publishedAt streamSequence)
    ordered := List.pairwise_map.mpr (by simpa using store.ordered)
    started := by simpa using store.started
    eventsDistinct := List.pairwise_map.mpr (by simpa using store.eventsDistinct)
    scopeOnce := by simpa using store.scopeOnce
    scopeRegistered := by simpa using store.scopeRegistered }

def recordConnection (store : ConsentStore) (connection : Connection) : ConsentStore :=
  { store with
    connections := upsertConnection store.connections connection
    connectionsDistinct := nodup_upsertConnection store.connectionsDistinct connection
    scopeRegistered := fun row member id covered =>
      mem_upsertConnection (store.scopeRegistered row member id covered) connection
    seenRegistered := fun seen member =>
      mem_upsertConnection (store.seenRegistered seen member) connection }

/-- `record_connections`: the registry as configured, and the ids it no longer names. -/
def recordConnections (store : ConsentStore) (connections : List Connection) :
    ConsentStore × List String :=
  let after := connections.foldl recordConnection store
  let known := sortTexts (after.connections.map ConnectionRow.id)
  (after, known.filter fun id => !connections.any fun connection => connection.id == id)

end ConsentStore

end Twalk.Store
