/-
This file is what a journal of accepted decisions promises and what a consumer's
cache makes of it. Where every connection keeps its kind, each row names a
connection of its own kinds, is not about the owner and carries its own event.
The cache then reads, at a contact on a connection, the last row about that
contact, and at a connection's default the last row about the network of the
connection's kind: the two places the Gateway itself reads.
-/

import Twalk.ConsentWire

namespace Twalk

open Consent Store Cache

def Registry.Keeps (kinds : String → String) (registry : Registry) : Prop :=
  ∀ connection ∈ registry.connections, connection.kind = kinds connection.id

namespace Store

/-! ### Journals of accepted decisions -/

/-- What the row of an accepted decision promises. -/
structure SoundRow (kinds : String → String) (owner : Twalk.Owner) (row : JournalRow) : Prop where
  covering : row.connections ≠ []
  named : ∀ id ∈ row.connections, id ≠ ""
  ofNetworks : ∀ id ∈ row.connections, ∃ network, Network.parse (kinds id) = some network
  agrees : row.subject.kind = .network → ∀ id ∈ row.connections, kinds id = row.subject.id
  person : ¬(row.subject.kind = .contact ∧ owner.isOwner row.subject.id = true)
  rendered : ∃ domain producedAt, row.envelope = row.recorded.envelope domain producedAt

structure Sound (kinds : String → String) (store : ConsentStore) : Prop where
  rows : ∀ row ∈ store.journal, SoundRow kinds store.owner row
  connections : ∀ row ∈ store.connections, row.kind = kinds row.id

variable {kinds : String → String} {store : ConsentStore}

theorem sound_fresh (kinds : String → String) (owner : Twalk.Owner) :
    Sound kinds (ConsentStore.fresh owner) :=
  ⟨fun _ member => absurd member List.not_mem_nil, fun _ member => absurd member List.not_mem_nil⟩

variable {owner : Twalk.Owner}

theorem SoundRow.of_eq {row other : JournalRow} (promised : SoundRow kinds owner row)
    (sameDecision : other.recorded = row.recorded) (sameEvent : other.envelope = row.envelope) :
    SoundRow kinds owner other := by
  obtain ⟨_, _, recorded, envelope, _, _⟩ := row
  obtain ⟨_, _, otherRecorded, otherEnvelope, _, _⟩ := other
  obtain rfl : otherRecorded = recorded := sameDecision
  obtain rfl : otherEnvelope = envelope := sameEvent
  exact ⟨promised.covering, promised.named, promised.ofNetworks, promised.agrees,
    promised.person, promised.rendered⟩

theorem Sound.kindOf (sound : Sound kinds store) {id kind : String}
    (isKind : store.kindOf id = some kind) : kind = kinds id := by
  obtain ⟨row, found, rfl⟩ := Option.map_eq_some_iff.mp isKind
  have named : row.id = id := eq_of_beq (List.find?_some found :)
  rw [sound.connections row (List.mem_of_find?_eq_some found), named]

variable {registry : Registry}

theorem Sound.recordConnections (sound : Sound kinds store) (keeps : registry.Keeps kinds) :
    Sound kinds (store.recordConnections registry.connections).1 := by
  unfold ConsentStore.recordConnections
  suffices kept : ∀ (connections : List Connection) (store : ConsentStore), Sound kinds store →
      (∀ connection ∈ connections, connection.kind = kinds connection.id) →
        Sound kinds (connections.foldl ConsentStore.recordConnection store) from
    kept registry.connections store sound keeps
  intro connections
  induction connections with
  | nil => exact fun store sound _ => sound
  | cons connection rest inductionHypothesis =>
    intro store sound keeps
    refine inductionHypothesis _ ⟨sound.rows, fun row member => ?_⟩
      fun other member => keeps other (List.mem_cons_of_mem connection member)
    have isKind := keeps connection List.mem_cons_self
    unfold ConsentStore.recordConnection upsertConnection at member
    simp only at member
    split at member
    · obtain ⟨old, oldIn, rfl⟩ := List.mem_map.mp member
      split
      · rename_i same
        rw [same]
        exact isKind
      · exact sound.connections old oldIn
    · rcases List.mem_append.mp member with old | isNew
      · exact sound.connections row old
      · rw [List.mem_singleton.mp isNew]
        exact isKind

variable {row : JournalRow}

theorem soundRow_of_accepted (keeps : registry.Keeps kinds) {decision : Decision}
    (wellScoped : decision.WellScoped registry) (allowed : decision.refuseIfOwner owner = .ok ())
    (isDecision : row.recorded.decision = decision) {domain producedAt : String}
    (rendered : row.envelope = row.recorded.envelope domain producedAt) :
    SoundRow kinds owner row := by
  subst isDecision
  have kindKept : ∀ {id connection}, registry.get id = some connection →
      connection.kind = kinds id := fun found => by
    rw [keeps _ (Registry.mem_of_get found), Registry.id_of_get found]
  exact {
    covering := wellScoped.covering
    named := fun id member => by
      obtain ⟨connection, _, found, -⟩ := wellScoped.registered id member
      exact Registry.id_ne_empty_of_get found
    ofNetworks := fun id member => by
      obtain ⟨connection, network, found, parsed, -⟩ := wellScoped.registered id member
      exact ⟨network, kindKept found ▸ parsed⟩
    agrees := fun aboutNetwork id member => by
      obtain ⟨connection, _, found, -⟩ := wellScoped.registered id member
      rw [← kindKept found]
      exact wellScoped.kind_eq aboutNetwork member found
    person := ConsentStore.refuseIfOwner_eq_ok.mp allowed
    rendered := ⟨domain, producedAt, rendered⟩ }

theorem Sound.afterRecord (sound : Sound kinds store) (keeps : registry.Keeps kinds)
    (accepted : Accepted registry) (actor occurredAt domain producedAt : String) (burnt : Nat) :
    Sound kinds (store.afterRecord accepted.decision actor occurredAt domain producedAt burnt) := by
  unfold ConsentStore.afterRecord
  rcases store.record_cases accepted.decision actor occurredAt domain producedAt burnt with
    ⟨error, failed⟩ | ⟨row, found, replayed⟩ | ⟨unused, admitted, allowed, appended⟩
  · rw [failed]
    exact sound
  · rw [replayed]
    exact sound
  · rw [appended]
    refine ⟨fun row member => ?_, sound.connections⟩
    rcases List.mem_append.mp member with old | isNew
    · exact sound.rows row old
    · rw [List.mem_singleton.mp isNew]
      exact soundRow_of_accepted keeps accepted.wellScoped allowed rfl rfl

theorem Sound.markPublished (sound : Sound kinds store) (sequence : Nat) (publishedAt : String)
    (streamSequence : Nat) :
    Sound kinds (store.markPublished sequence publishedAt streamSequence) := by
  refine ⟨fun row member => ?_, sound.connections⟩
  obtain ⟨old, oldIn, rfl⟩ := List.mem_map.mp member
  exact (sound.rows old oldIn).of_eq (markRow_recorded sequence publishedAt streamSequence old)
    (markRow_envelope sequence publishedAt streamSequence old)

/-! ### What a cache makes of rows -/

def rowEntries (row : JournalRow) : List ConsentEntry :=
  match readChange row.recorded with
  | .ok change => change.entries
  | .error _ => []

def tellsContact (cache : ConsentCache) (id connection : String) (row : JournalRow) : Bool :=
  row.covers ⟨.contact, id⟩ connection && !cache.notAPerson id

def tellsDefault (connection : String) (row : JournalRow) : Bool :=
  row.subject.kind == .network && row.connections.contains connection

theorem follow_envelopes {rows : List JournalRow} (sound : ∀ row ∈ rows, SoundRow kinds owner row)
    (cache : ConsentCache) :
    cache.follow (rows.map JournalRow.envelope) =
      { cache with states := (rows.flatMap rowEntries).foldl cache.take cache.states } := by
  have changes : ((rows.map JournalRow.envelope).filterMap fun event =>
      (ConsentChange.parse event).toOption).flatMap ConsentChange.entries =
        rows.flatMap rowEntries := by
    induction rows with
    | nil => rfl
    | cons row rest inductionHypothesis =>
      have promised := sound row List.mem_cons_self
      obtain ⟨domain, producedAt, rendered⟩ := promised.rendered
      have parsed : ConsentChange.parse row.envelope = readChange row.recorded := by
        rw [rendered]
        exact parse_envelope promised.covering promised.named domain producedAt
      rw [List.map_cons, List.flatMap_cons, ← inductionHypothesis
        fun later member => sound later (List.mem_cons_of_mem row member)]
      unfold rowEntries
      cases read : readChange row.recorded with
      | ok change =>
        rw [List.filterMap_cons_some (by rw [parsed, read]; rfl), List.flatMap_cons]
      | error why =>
        rw [List.filterMap_cons_none (by rw [parsed, read]; rfl), List.nil_append]
  unfold ConsentCache.follow
  rw [ConsentCache.foldl_apply, changes]

theorem rowEntries_state {entry : ConsentEntry} (member : entry ∈ rowEntries row) :
    entry.state = consentOf row.state := by
  unfold rowEntries readChange at member
  cases kind : consentSubject row.recorded.decision.subject with
  | error why =>
    rw [kind] at member
    exact absurd member List.not_mem_nil
  | ok subject =>
    rw [kind] at member
    obtain ⟨connection, -, rfl⟩ := List.mem_map.mp member
    rfl

theorem any_setsContact (cache : ConsentCache) (id connection : String) (row : JournalRow) :
    (rowEntries row).any (cache.setsContact id connection) =
      tellsContact cache id connection row := by
  obtain ⟨_, _, ⟨⟨⟨kind, subject⟩, newState, connections, _, _⟩, _, _, _⟩, _, _, _⟩ := row
  rw [Bool.eq_iff_iff]
  cases kind <;>
    simp [rowEntries, readChange, consentSubject, ConsentChange.entries, tellsContact,
      ConsentCache.setsContact, JournalRow.covers, JournalRow.subject, JournalRow.connections,
      bind, Except.bind, pure, Except.pure]
  grind

theorem any_setsDefault (connection : String) (row : JournalRow) :
    (rowEntries row).any (ConsentCache.setsDefault connection) = tellsDefault connection row := by
  obtain ⟨_, _, ⟨⟨⟨kind, subject⟩, newState, connections, _, _⟩, _, _, _⟩, _, _, _⟩ := row
  rw [Bool.eq_iff_iff]
  cases kind <;>
    simp [rowEntries, readChange, consentSubject, ConsentChange.entries, tellsDefault,
      ConsentCache.setsDefault, JournalRow.subject, JournalRow.connections,
      bind, Except.bind, pure, Except.pure]

theorem latest_contact_rowEntries (cache : ConsentCache) (id connection : String)
    (rows : List JournalRow) :
    (latest (cache.setsContact id connection) (rows.flatMap rowEntries)).map
        ConsentEntry.state =
      (latest (tellsContact cache id connection) rows).map fun row => consentOf row.state :=
  latest_flatMap_map fun row _ => by
    rw [latest_map_eq fun entry member _ => rowEntries_state member, any_setsContact]

theorem latest_default_rowEntries (connection : String) (rows : List JournalRow) :
    (latest (ConsentCache.setsDefault connection) (rows.flatMap rowEntries)).map
        ConsentEntry.state =
      (latest (tellsDefault connection) rows).map fun row => consentOf row.state :=
  latest_flatMap_map fun row _ => by
    rw [latest_map_eq fun entry member _ => rowEntries_state member, any_setsDefault]

/-! ### What a cache makes of a snapshot -/

def reflected (store : ConsentStore) : List JournalRow :=
  store.journal.filter fun row => row.sequence ≤ store.snapshotHorizon

theorem reflected_ordered (store : ConsentStore) :
    (reflected store).Pairwise fun earlier later => earlier.sequence < later.sequence :=
  store.ordered.filter _

variable {served : Store.Snapshot} {maxEntries : Nat}

theorem exists_row_of_entry (answered : store.snapshot maxEntries = .ok served) {given : Entry}
    (member : given ∈ served.entries) :
    ∃ row kind, latest (JournalRow.covers given.subject given.connection) (reflected store) =
        some row ∧ store.kindOf given.connection = some kind ∧
      Network.parse kind = some given.network ∧ given.state = row.state ∧
      given.decisionSequence = row.sequence := by
  obtain ⟨readRows, -, -⟩ := ConsentStore.snapshot_eq_ok answered
  obtain ⟨viewed, viewedIn, isEntry⟩ :=
    exists_input_of_forall₂ (forall₂_of_mapM_eq_ok readRows) member
  obtain ⟨network, parsed, rfl⟩ := ConsentStore.entry_eq_ok isEntry
  have inView := (List.mem_filter.mp (ConsentStore.mem_inOrder.mp viewedIn)).1
  obtain ⟨row, kind, last, isKind, isRow⟩ :=
    (ConsentStore.mem_stateOver (reflected_ordered store)).mp inView
  have sameNetwork : viewed.network = kind := by rw [isRow]; rfl
  have sameState : viewed.state = row.state := by rw [isRow]; rfl
  have sameSequence : viewed.decisionSequence = row.sequence := by rw [isRow]; rfl
  exact ⟨row, kind, last, isKind, sameNetwork ▸ parsed, sameState, sameSequence⟩

variable {subject : Subject}

theorem exists_entry_of_latest (answered : store.snapshot maxEntries = .ok served)
    {connection : String}
    (last : latest (JournalRow.covers subject connection) (reflected store) = some row)
    (person : ¬(subject.kind = .contact ∧ store.owner.isOwner subject.id = true)) :
    ∃ given ∈ served.entries, given.subject = subject ∧ given.connection = connection := by
  obtain ⟨readRows, -, -⟩ := ConsentStore.snapshot_eq_ok answered
  obtain ⟨kind, -, inView⟩ := ConsentStore.exists_mem_stateOver
    (fun row member => (List.mem_filter.mp member).1) (reflected_ordered store) last
  obtain ⟨rfl, -⟩ := JournalRow.covers_iff.mp (latest_concerns last)
  have allowed : servedTo store.owner (ConsentStore.viewRow row connection kind) = true :=
    ConsentStore.servedTo_iff.mpr person
  have viewedIn : ConsentStore.viewRow row connection kind ∈ store.snapshotRows :=
    ConsentStore.mem_inOrder.mpr (List.mem_filter.mpr ⟨inView, allowed⟩)
  obtain ⟨given, givenIn, isEntry⟩ :=
    exists_result_of_forall₂ (forall₂_of_mapM_eq_ok readRows) viewedIn
  obtain ⟨network, -, rfl⟩ := ConsentStore.entry_eq_ok isEntry
  exact ⟨_, givenIn, rfl, rfl⟩

theorem exists_row_of_snapshot (answered : store.snapshot maxEntries = .ok served)
    {entry : ConsentEntry} (member : entry ∈ (readSnapshot served).entries) :
    ∃ row, latest (JournalRow.covers row.subject entry.connection) (reflected store) = some row ∧
      consentSubject row.subject = .ok entry.subject ∧ entry.state = consentOf row.state := by
  obtain ⟨outcome, isRead, taken⟩ := List.mem_filterMap.mp member
  obtain ⟨given, givenIn, rfl⟩ := List.mem_map.mp isRead
  obtain ⟨row, kind, last, -, -, sameState, -⟩ := exists_row_of_entry answered givenIn
  obtain ⟨sameSubject, -⟩ := JournalRow.covers_iff.mp (latest_concerns last)
  cases subjectRead : consentSubject given.subject with
  | error why =>
    rw [readEntry, subjectRead] at taken
    cases taken
  | ok subject =>
    rw [readEntry, subjectRead] at taken
    cases taken
    exact ⟨row, sameSubject ▸ last, sameSubject ▸ subjectRead, by rw [sameState]⟩

theorem snapshot_named (sound : Sound kinds store)
    (answered : store.snapshot maxEntries = .ok served) :
    ∀ entry ∈ served.entries, entry.connection ≠ "" := by
  intro entry member
  obtain ⟨row, kind, last, -⟩ := exists_row_of_entry answered member
  exact (sound.rows row (List.mem_filter.mp (latest_mem last)).1).named entry.connection
    (JournalRow.covers_iff.mp (latest_concerns last)).2

theorem subject_of_contact {id : String} (read : consentSubject subject = .ok (.contact id)) :
    subject = ⟨.contact, id⟩ := by
  obtain ⟨kind, name⟩ := subject
  cases kind <;> cases read
  rfl

theorem kind_of_default (read : consentSubject subject = .ok .networkDefault) :
    subject.kind = .network := by
  obtain ⟨kind, name⟩ := subject
  cases kind <;> cases read
  rfl

theorem exists_entry_of_row (answered : store.snapshot maxEntries = .ok served)
    {connection : String}
    (last : latest (JournalRow.covers subject connection) (reflected store) = some row)
    (person : ¬(subject.kind = .contact ∧ store.owner.isOwner subject.id = true))
    {read : ConsentSubject} (subjectRead : consentSubject subject = .ok read) :
    ∃ entry ∈ (readSnapshot served).entries, entry.subject = read ∧
      entry.connection = connection := by
  obtain ⟨given, givenIn, rfl, rfl⟩ := exists_entry_of_latest answered last person
  refine ⟨⟨read, given.connection, consentOf given.state⟩, ?_, rfl, rfl⟩
  refine List.mem_filterMap.mpr ⟨_, List.mem_map.mpr ⟨_, givenIn, rfl⟩, ?_⟩
  rw [readEntry, subjectRead]
  rfl

theorem latest_contact_snapshot (sound : Sound kinds store)
    (answered : store.snapshot maxEntries = .ok served) (cache : ConsentCache)
    (id connection : String) :
    (latest (cache.setsContact id connection) (readSnapshot served).entries).map
        ConsentEntry.state =
      (latest (tellsContact cache id connection) (reflected store)).map
        fun row => consentOf row.state := by
  have tells : cache.notAPerson id = false →
      latest (tellsContact cache id connection) (reflected store) =
        latest (JournalRow.covers ⟨.contact, id⟩ connection) (reflected store) :=
    fun isPerson => latest_congr fun row _ => by
      rw [tellsContact, isPerson, Bool.not_false, Bool.and_true]
  refine latest_map_of_summary (fun entry member sets => ?_) fun row last => ?_
  · obtain ⟨row, last, subjectRead, state⟩ := exists_row_of_snapshot answered member
    simp only [ConsentCache.setsContact, Bool.and_eq_true, beq_iff_eq, Bool.not_eq_true'] at sets
    obtain ⟨⟨aboutContact, here⟩, isPerson⟩ := sets
    rw [aboutContact] at subjectRead
    rw [subject_of_contact subjectRead, here] at last
    exact ⟨row, (tells isPerson).trans last, state⟩
  · have told := latest_concerns last
    simp only [tellsContact, Bool.and_eq_true, Bool.not_eq_true'] at told
    obtain ⟨covers, isPerson⟩ := told
    have person := (sound.rows row (List.mem_filter.mp (latest_mem last)).1).person
    rw [(JournalRow.covers_iff.mp covers).1] at person
    rw [tells isPerson] at last
    obtain ⟨entry, member, subject, here⟩ := exists_entry_of_row answered last person rfl
    refine ⟨entry, member, ?_⟩
    rw [ConsentCache.setsContact, subject, here, isPerson, beq_self_eq_true, beq_self_eq_true]
    rfl

theorem tellsDefault_eq (promised : SoundRow kinds owner row) (connection : String) :
    tellsDefault connection row = row.covers ⟨.network, kinds connection⟩ connection := by
  rw [Bool.eq_iff_iff, JournalRow.covers_iff]
  unfold tellsDefault
  rw [Bool.and_eq_true, beq_iff_eq, List.contains_iff_mem]
  constructor
  · rintro ⟨aboutNetwork, here⟩
    have isKind := promised.agrees aboutNetwork connection here
    rw [isKind, ← aboutNetwork]
    exact ⟨rfl, here⟩
  · rintro ⟨subject, here⟩
    exact ⟨by rw [subject], here⟩

theorem latest_default_snapshot (sound : Sound kinds store)
    (answered : store.snapshot maxEntries = .ok served) (connection : String) :
    (latest (ConsentCache.setsDefault connection) (readSnapshot served).entries).map
        ConsentEntry.state =
      (latest (tellsDefault connection) (reflected store)).map
        fun row => consentOf row.state := by
  have promised : ∀ row ∈ reflected store, SoundRow kinds store.owner row :=
    fun row member => sound.rows row (List.mem_filter.mp member).1
  have tells : latest (tellsDefault connection) (reflected store) =
      latest (JournalRow.covers ⟨.network, kinds connection⟩ connection) (reflected store) :=
    latest_congr fun row member => tellsDefault_eq (promised row member) connection
  refine latest_map_of_summary (fun entry member sets => ?_) fun row last => ?_
  · obtain ⟨row, last, subjectRead, state⟩ := exists_row_of_snapshot answered member
    simp only [ConsentCache.setsDefault, Bool.and_eq_true, beq_iff_eq] at sets
    obtain ⟨isDefault, here⟩ := sets
    rw [isDefault] at subjectRead
    rw [here] at last
    have told : tellsDefault connection row = true := by
      unfold tellsDefault
      rw [kind_of_default subjectRead, beq_self_eq_true, Bool.true_and, List.contains_iff_mem]
      exact (JournalRow.covers_iff.mp (latest_concerns last)).2
    rw [tellsDefault_eq (promised row (latest_mem last)), JournalRow.covers_iff] at told
    rw [told.1] at last
    exact ⟨row, tells.trans last, state⟩
  · rw [tells] at last
    obtain ⟨entry, member, subject, here⟩ :=
      exists_entry_of_row answered last (fun both => nomatch both.1) rfl
    refine ⟨entry, member, ?_⟩
    rw [ConsentCache.setsDefault, subject, here, beq_self_eq_true, beq_self_eq_true]
    rfl

end Store

end Twalk
