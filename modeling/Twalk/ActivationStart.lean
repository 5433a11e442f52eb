/-
This file is the start of the runtime: the persona decisions of the Gateway's snapshot, applied in
the order they were taken in, and then those of the stream from the position the snapshot names.
The snapshot keeps the last decision on each connection and the runtime one state for each network;
of the entries of one network, the one decided last carries the last decision of the journal on
that network, because the networks of a decision are the kinds of its connections and no others.
So the runtime knows what it would know had it read the stream from its first message.
-/

import Twalk.Activation
import Twalk.Handoff

namespace Twalk

open Consent Store

/-! ### The networks of a decision -/

namespace Store

def JournalRow.OfItsKinds (kinds : String → String) (row : JournalRow) : Prop :=
  ∀ network, network ∈ row.recorded.decision.networks ↔
    ∃ id ∈ row.connections, Network.parse (kinds id) = some network

def JournalRow.isAbout (personaId network : String) (row : JournalRow) : Bool :=
  row.subject == ⟨.persona, personaId⟩ &&
    (row.recorded.decision.networks.map Network.asStr).contains network

end Store

def OutboxStep.IsParsed {kinds : String → String} : OutboxStep kinds → Prop
  | .record registry _ accepted _ _ _ _ _ =>
    ∃ body, Decision.parse body registry = .ok accepted.decision
  | _ => True

variable {row : JournalRow}

namespace Outbox

variable {kinds : String → String}

theorem ofItsKinds_of_parse {registry : Registry} (keeps : registry.Keeps kinds) {body : Json}
    (parsed : Decision.parse body registry = .ok row.recorded.decision) :
    row.OfItsKinds kinds := by
  have wellScoped := Decision.parse_wellScoped parsed
  have kindKept : ∀ {id connection}, registry.get id = some connection →
      connection.kind = kinds id := fun found => by
    rw [keeps _ (Registry.mem_of_get found), Registry.id_of_get found]
  intro network
  constructor
  · intro member
    obtain ⟨id, isConnection, isKind⟩ := Decision.exists_connection_of_parse parsed member
    obtain ⟨connection, _, found, -⟩ := wellScoped.registered id isConnection
    exact ⟨id, isConnection, kindKept found ▸ networkOf_eq_ok found isKind⟩
  · rintro ⟨id, isConnection, isKind⟩
    obtain ⟨connection, other, found, parsedKind, among⟩ := wellScoped.registered id isConnection
    rw [kindKept found, isKind] at parsedKind
    exact Option.some.inj parsedKind ▸ among

theorem ofItsKinds_step {outbox : Outbox}
    (known : ∀ row ∈ outbox.store.journal, row.OfItsKinds kinds) {next : OutboxStep kinds}
    (parsed : next.IsParsed) : ∀ row ∈ (outbox.step next).store.journal, row.OfItsKinds kinds := by
  cases next with
  | configure registry keeps =>
    intro row member
    refine known row ?_
    rwa [← ConsentStore.journal_recordConnections outbox.store registry.connections]
  | record registry keeps accepted actor occurredAt domain producedAt burnt =>
    intro row member
    rcases ConsentStore.journal_afterRecord outbox.store accepted.decision actor occurredAt domain
      producedAt burnt with unchanged | appended
    · exact known row (unchanged ▸ member)
    · have inAppended : row ∈ outbox.store.journal ++ [_] := appended ▸ member
      rcases List.mem_append.mp inAppended with old | isNew
      · exact known row old
      · obtain ⟨body, isParsed⟩ := parsed
        refine ofItsKinds_of_parse keeps (?_ : Decision.parse body registry = _)
        rw [List.mem_singleton.mp isNew]
        exact isParsed
  | fetch =>
    simp only [Outbox.step]
    split <;> exact known
  | publish outcome =>
    simp only [Outbox.step]
    split
    · cases outcome <;> exact known
    · exact known
  | mark publishedAt =>
    simp only [Outbox.step]
    split
    · intro row member
      obtain ⟨old, oldIn, rfl⟩ := List.mem_map.mp member
      unfold markRow
      split <;> exact known old oldIn
    · exact known
  | crash => exact known
  | otherTraffic count => exact known

theorem ofItsKinds_run (owner : Twalk.Owner) {steps : List (OutboxStep kinds)}
    (parsed : ∀ next ∈ steps, next.IsParsed) :
    ∀ row ∈ (run Outbox.step (start owner) steps).store.journal, row.OfItsKinds kinds :=
  run_invariant_along (fun outbox : Outbox => ∀ row ∈ outbox.store.journal, row.OfItsKinds kinds)
    (fun _ _ known isParsed => ofItsKinds_step known isParsed)
    (fun _ member => absurd member List.not_mem_nil) (along_of_mem parsed)

end Outbox

/-! ### What the stream tells a runtime -/

namespace Hermes

variable {kinds : String → String} {owner : Twalk.Owner}

def decisionOf (row : JournalRow) : Option PersonaDecision :=
  if row.subject.kind = .persona then
    some ⟨row.subject.id, row.recorded.decision.networks.map Network.asStr, row.state.asStr⟩
  else none

theorem parse_envelope (sound : SoundRow kinds owner row) (ofItsKinds : row.OfItsKinds kinds) :
    PersonaDecision.parse row.envelope = decisionOf row := by
  obtain ⟨domain, producedAt, rendered⟩ := sound.rendered
  have isChange : row.envelope.textAt ["type"] = some consentChangedType := by
    rw [rendered]
    simp [Recorded.envelope, Json.textAt, Json.get?, Json.lookup, consentChangedType]
  have data : ∀ path, row.envelope.pointer ("data" :: path) = row.recorded.data.pointer path := by
    intro path
    rw [rendered]
    simp [Recorded.envelope, Json.get?, Json.lookup]
  have kind : row.envelope.textAt ["data", "subject", "type"] = some row.subject.kind.asStr := by
    rw [Json.textAt, data]
    simp [Recorded.data, Json.get?, Json.lookup, JournalRow.subject]
  have id : row.envelope.textAt ["data", "subject", "id"] = some row.subject.id := by
    rw [Json.textAt, data]
    simp [Recorded.data, Json.get?, Json.lookup, JournalRow.subject]
  have state : row.envelope.textAt ["data", "new_state"] = some row.state.asStr := by
    rw [Json.textAt, data]
    simp [Recorded.data, Json.get?, Json.lookup, JournalRow.state]
  have networks : row.envelope.pointer ["data", "scope", "networks"] =
      some (.array (row.recorded.decision.networks.map fun network => .string network.asStr)) := by
    rw [data]
    simp [Recorded.data, Json.get?, Json.lookup]
  have named : ∃ network, network ∈ row.recorded.decision.networks := by
    obtain ⟨first, firstIn⟩ := List.exists_mem_of_ne_nil _ sound.covering
    obtain ⟨network, isKind⟩ := sound.ofNetworks first firstIn
    exact ⟨network, (ofItsKinds network).mpr ⟨first, firstIn, isKind⟩⟩
  unfold PersonaDecision.parse decisionOf
  rw [isChange, kind, id, state, networks]
  cases about : row.subject.kind with
  | contact => rfl
  | network => rfl
  | persona => simpa [SubjectType.asStr, Function.comp_def] using named

theorem latest_decisions {rows : List JournalRow} (sound : ∀ row ∈ rows, SoundRow kinds owner row)
    (ofItsKinds : ∀ row ∈ rows, row.OfItsKinds kinds) (personaId network : String) :
    (latest (PersonaDecision.isAbout personaId network)
        ((rows.map JournalRow.envelope).filterMap PersonaDecision.parse)).map
          PersonaDecision.newState =
      (latest (JournalRow.isAbout personaId network) rows).map fun row => row.state.asStr := by
  have parsed : (rows.map JournalRow.envelope).filterMap PersonaDecision.parse =
      rows.flatMap fun row => (decisionOf row).toList := by
    rw [List.filterMap_map, ← List.filterMap_eq_flatMap_toList]
    exact List.filterMap_congr fun row member =>
      parse_envelope (sound row member) (ofItsKinds row member)
  rw [parsed]
  refine latest_flatMap_map fun row member => ?_
  unfold decisionOf JournalRow.isAbout
  cases isSubject : row.subject with
  | mk kind id =>
    cases kind with
    | contact => simp
    | network => simp
    | persona =>
      simp only [if_true, Option.toList_some, latest_cons, latest_nil, Option.none_or]
      unfold PersonaDecision.isAbout
      by_cases same : id = personaId
      · simp only [same, beq_self_eq_true, Bool.true_and]
        split <;> rfl
      · simp [same]

/-! ### What the snapshot tells it -/

def decisionOfEntry (given : Entry) : Option (Nat × PersonaDecision) :=
  if given.subject.kind = .persona then
    some (given.decisionSequence, ⟨given.subject.id, [given.network.asStr], given.state.asStr⟩)
  else none

theorem decision_entryJson (given : Entry) :
    Snapshot.decision (entryJson given) = decisionOfEntry given := by
  have named : (given.network.asStr != "") = true := by cases given.network <;> decide
  have kind : (entryJson given).textAt ["subject", "type"] = some given.subject.kind.asStr := by
    simp [entryJson, Json.textAt, Json.get?, Json.lookup]
  have id : (entryJson given).textAt ["subject", "id"] = some given.subject.id := by
    simp [entryJson, Json.textAt, Json.get?, Json.lookup]
  have network : (entryJson given).textAt ["network"] = some given.network.asStr := by
    simp [entryJson, Json.textAt, Json.get?, Json.lookup]
  have state : (entryJson given).textAt ["state"] = some given.state.asStr := by
    simp [entryJson, Json.textAt, Json.get?, Json.lookup]
  have decidedAt : (entryJson given).get? "decision_sequence" =
      some (.number given.decisionSequence) := by
    simp [entryJson, Json.get?, Json.lookup]
  unfold Snapshot.decision decisionOfEntry
  rw [kind, id, network, state, decidedAt, Option.filter_some, if_pos named, Option.bind_some,
    Json.asNat_natCast]
  cases given.subject.kind <;> rfl

theorem read_snapshotJson (served : Store.Snapshot) (registry : Registry) :
    Snapshot.read (snapshotJson served owner registry) =
      some ⟨(Snapshot.inOrder (served.entries.filterMap decisionOfEntry)).map Prod.snd,
        served.streamSequence + 1⟩ := by
  have next : (snapshotJson served owner registry).get? "next_stream_sequence" =
      some (.number (served.streamSequence + 1 : Nat)) := by
    simp [snapshotJson, Json.get?, Json.lookup]
  have entries : (snapshotJson served owner registry).get? "entries" =
      some (.array (served.entries.map entryJson)) := by
    simp [snapshotJson, Json.get?, Json.lookup]
  unfold Snapshot.read
  rw [next, entries, Option.bind_some, Json.asNat_natCast, Option.filter_some,
    if_pos (decide_eq_true (Nat.le_add_left 1 served.streamSequence)), Option.bind_some,
    Json.asArray_array, Option.getD_some, List.filterMap_map,
    show Snapshot.decision ∘ entryJson = decisionOfEntry from funext decision_entryJson]
  rfl

variable {pair : Nat × PersonaDecision}

theorem mem_inOrder {decided : List (Nat × PersonaDecision)} :
    pair ∈ Snapshot.inOrder decided ↔ pair ∈ decided :=
  (List.perm_insertionSort _ decided).mem_iff

theorem pairwise_inOrder (decided : List (Nat × PersonaDecision)) :
    (Snapshot.inOrder decided).Pairwise fun first second => first.1 ≤ second.1 := by
  have transitive : IsTrans (Nat × PersonaDecision) fun first second => first.1 ≤ second.1 :=
    ⟨fun _ _ _ => Nat.le_trans⟩
  have total : Std.Total fun first second : Nat × PersonaDecision => first.1 ≤ second.1 :=
    ⟨fun first second => Nat.le_total first.1 second.1⟩
  exact List.pairwise_insertionSort _ decided

section Snapshot

variable {store : ConsentStore} {maxEntries : Nat} {served : Store.Snapshot}
  {personaId network : String}

theorem isAbout_iff :
    row.isAbout personaId network = true ↔ row.subject = ⟨.persona, personaId⟩ ∧
      ∃ named ∈ row.recorded.decision.networks, named.asStr = network := by
  unfold JournalRow.isAbout
  rw [Bool.and_eq_true, beq_iff_eq, List.contains_iff_mem, List.mem_map]

theorem exists_row_of_decision (sound : Sound kinds store)
    (ofItsKinds : ∀ row ∈ store.journal, row.OfItsKinds kinds)
    (answered : store.snapshot maxEntries = .ok served)
    (member : pair ∈ served.entries.filterMap decisionOfEntry)
    (about : pair.2.isAbout personaId network = true) :
    ∃ row ∈ reflected store, row.isAbout personaId network = true ∧ pair.1 = row.sequence ∧
      pair.2.newState = row.state.asStr := by
  obtain ⟨given, givenIn, isDecision⟩ := List.mem_filterMap.mp member
  obtain ⟨row, kind, last, isKind, parsed, state, sequence⟩ :=
    exists_row_of_entry answered givenIn
  obtain ⟨sameSubject, covered⟩ := JournalRow.covers_iff.mp (latest_concerns last)
  have reflectedIn := latest_mem last
  unfold decisionOfEntry at isDecision
  split at isDecision
  · rename_i isPersona
    cases isDecision
    unfold PersonaDecision.isAbout at about
    simp only [Bool.and_eq_true, beq_iff_eq, List.contains_iff_mem, List.mem_singleton] at about
    refine ⟨row, reflectedIn, isAbout_iff.mpr ⟨?_, given.network, ?_, about.2.symm⟩, sequence,
      by rw [state]⟩
    · rw [sameSubject, ← isPersona, ← about.1]
    · rw [sound.kindOf isKind] at parsed
      exact (ofItsKinds row (List.mem_filter.mp reflectedIn).1 given.network).mpr
        ⟨given.connection, covered, parsed⟩
  · cases isDecision

theorem exists_decision_of_row (sound : Sound kinds store)
    (ofItsKinds : ∀ row ∈ store.journal, row.OfItsKinds kinds)
    (answered : store.snapshot maxEntries = .ok served) (member : row ∈ reflected store)
    (about : row.isAbout personaId network = true) :
    ∃ pair ∈ served.entries.filterMap decisionOfEntry,
      pair.2.isAbout personaId network = true ∧ row.sequence ≤ pair.1 := by
  obtain ⟨isSubject, named, isNamed, rfl⟩ := isAbout_iff.mp about
  obtain ⟨id, covered, isKind⟩ :=
    (ofItsKinds row (List.mem_filter.mp member).1 named).mp isNamed
  have covers : row.covers ⟨.persona, personaId⟩ id = true :=
    JournalRow.covers_iff.mpr ⟨isSubject, covered⟩
  obtain ⟨last, found⟩ := exists_latest member covers
  have later := rank_le_of_latest (reflected_ordered store) found member covers
  obtain ⟨given, givenIn, aboutPersona, rfl⟩ :=
    exists_entry_of_latest answered found fun isContact => nomatch isContact.1
  obtain ⟨other, kind, isLast, kindOf, parsed, -, sequence⟩ :=
    exists_row_of_entry answered givenIn
  rw [aboutPersona, found] at isLast
  cases isLast
  rw [sound.kindOf kindOf, isKind] at parsed
  cases parsed
  refine ⟨_, List.mem_filterMap.mpr ⟨given, givenIn, if_pos (by rw [aboutPersona])⟩, ?_, ?_⟩
  · simp [PersonaDecision.isAbout, aboutPersona]
  · exact sequence ▸ later

/-- What a runtime that applies the snapshot's decisions in their order last reads about a persona
on a network is the state of the last reflected row about it, whatever the order of the
document. -/
theorem latest_snapshot (sound : Sound kinds store)
    (ofItsKinds : ∀ row ∈ store.journal, row.OfItsKinds kinds)
    (answered : store.snapshot maxEntries = .ok served) {listed : List Entry}
    (reordered : listed.Perm served.entries) :
    (latest (PersonaDecision.isAbout personaId network)
        ((Snapshot.inOrder (listed.filterMap decisionOfEntry)).map Prod.snd)).map
          PersonaDecision.newState =
      (latest (JournalRow.isAbout personaId network) (reflected store)).map
        fun row => row.state.asStr := by
  have mem : ∀ {pair}, pair ∈ Snapshot.inOrder (listed.filterMap decisionOfEntry) ↔
      pair ∈ served.entries.filterMap decisionOfEntry := fun {pair} =>
    mem_inOrder.trans (reordered.filterMap decisionOfEntry).mem_iff
  rw [latest_map, Option.map_map]
  cases found : latest (fun pair => PersonaDecision.isAbout personaId network pair.2)
      (Snapshot.inOrder (listed.filterMap decisionOfEntry)) with
  | none =>
    have silent : latest (JournalRow.isAbout personaId network) (reflected store) = none := by
      refine latest_eq_none_iff.mpr fun row member => ?_
      by_contra about
      obtain ⟨pair, pairIn, isAbout, -⟩ := exists_decision_of_row sound ofItsKinds answered member
        (Bool.eq_true_of_not_eq_false about)
      rw [latest_eq_none_iff.mp found pair (mem.mpr pairIn)] at isAbout
      exact absurd isAbout Bool.false_ne_true
    rw [silent]
    rfl
  | some pair =>
    obtain ⟨row, member, about, position, state⟩ := exists_row_of_decision sound ofItsKinds answered
      (mem.mp (latest_mem found)) (latest_concerns found :)
    obtain ⟨last, isLast⟩ := exists_latest member about
    obtain ⟨other, otherIn, otherAbout, later⟩ := exists_decision_of_row sound ofItsKinds answered
      (latest_mem isLast) (latest_concerns isLast)
    have below : other.1 ≤ pair.1 := rank_le_of_latest_of_le (pairwise_inOrder _) found
      (mem.mpr otherIn) otherAbout
    have above := rank_le_of_latest (reflected_ordered store) isLast member about
    obtain rfl := eq_of_rank_eq (reflected_ordered store) member (latest_mem isLast) (by omega)
    rw [isLast, Option.map_some, Option.map_some, Function.comp_apply, state]

end Snapshot

/-! ### The two starts -/

def startFromSnapshot (snapshot : Snapshot) (stream : MessageStream Json) : Activation :=
  (snapshot.decisions.foldl Activation.apply Activation.new).follow
    ((stream.messagesFrom snapshot.followFrom).map Message.payload)

/-- What a runtime knows that has nothing but the stream. -/
def startFromStream (stream : MessageStream Json) : Activation :=
  Activation.new.follow (stream.messages.map Message.payload)

/-- At any moment of a run the snapshot is read at, and any moment after it, a runtime that starts
from the snapshot knows what one that reads the stream from its first message knows, in whatever
order the document lists its entries. -/
theorem activation_agrees (steps later : List (OutboxStep kinds))
    (parsed : ∀ next ∈ steps ++ later, next.IsParsed) {maxEntries : Nat}
    {served : Store.Snapshot}
    (answered : (run Outbox.step (Outbox.start owner) steps).store.snapshot maxEntries =
      .ok served) {listed : List Entry} (reordered : listed.Perm served.entries)
    (registry : Registry) :
    let stream := (run Outbox.step (Outbox.start owner) (steps ++ later)).bus
    ∃ snapshot, Snapshot.read (snapshotJson { served with entries := listed } owner registry) =
        some snapshot ∧
      (∀ personaId network, (startFromSnapshot snapshot stream).stateOf personaId network =
        (startFromStream stream).stateOf personaId network) ∧
      ∀ personaId,
        (startFromSnapshot snapshot stream).isActive personaId =
            (startFromStream stream).isActive personaId ∧
          (startFromSnapshot snapshot stream).decidedAbout personaId =
            (startFromStream stream).decidedAbout personaId ∧
          (startFromSnapshot snapshot stream).grantedNetworks personaId =
            (startFromStream stream).grantedNetworks personaId := by
  intro stream
  obtain ⟨⟨marked, unmarked, messages, pending, aligned⟩, soundBefore⟩ :=
    Outbox.reachable owner steps
  obtain ⟨alignedAfter, soundAfter⟩ := Outbox.reachable owner (steps ++ later)
  have knownBefore := Outbox.ofItsKinds_run owner fun next member =>
    parsed next (List.mem_append_left later member)
  have knownAfter := Outbox.ofItsKinds_run owner parsed
  obtain ⟨tail, rest, inJournal, isStream, told⟩ :=
    aligned.exists_told (Outbox.grows_run owner steps later) alignedAfter
  have sound : ∀ row ∈ marked ++ tail, SoundRow kinds owner row := by
    intro row member
    have sound := soundAfter.rows row (inJournal row member)
    rwa [Outbox.owner_run] at sound
  have known : ∀ row ∈ marked ++ tail, row.OfItsKinds kinds := fun row member =>
    knownAfter row (inJournal row member)
  have whole : stream.messages.map Message.payload = (marked ++ tail).map JournalRow.envelope := by
    rw [show stream.messages = messages ++ rest from isStream]
    exact Outbox.map_payload_of_said
      (List.rel_append (aligned.carried.imp fun _ _ => Outbox.Carries.said) told)
  obtain ⟨-, -, position⟩ := ConsentStore.snapshot_eq_ok answered
  have states : ∀ personaId network,
      (startFromSnapshot ⟨(Snapshot.inOrder (listed.filterMap decisionOfEntry)).map Prod.snd,
        served.streamSequence + 1⟩ stream).stateOf personaId network =
      (startFromStream stream).stateOf personaId network := by
    intro personaId network
    unfold startFromSnapshot startFromStream Activation.follow
    rw [Activation.stateOf_foldl_apply, Activation.stateOf_foldl_apply,
      Activation.stateOf_foldl_apply, Activation.stateOf_new, Option.or_none, Option.or_none, whole,
      latest_decisions sound known, latest_snapshot soundBefore knownBefore answered reordered,
      aligned.reflected_eq, position]
    -- The stream hands over what the snapshot lacks or, over a gap, everything again.
    rcases aligned.handed_over isStream told with ⟨-, isTail⟩ | ⟨-, isWhole⟩
    · rw [show stream.messagesFrom _ = _ from rfl, isTail, latest_decisions
        (fun row member => sound row (List.mem_append_right _ member))
        (fun row member => known row (List.mem_append_right _ member)),
        latest_append, Option.map_or]
    · rw [show stream.messagesFrom _ = _ from rfl, isWhole, latest_decisions sound known,
        ← Option.map_or, latest_or_latest_prefix]
  exact ⟨_, read_snapshotJson _ registry, states,
    Activation.reads_eq_of_stateOf_eq states⟩

/-! ### One persona on two accounts -/

namespace TwoAccounts

def gatewayOwner : Twalk.Owner := Twalk.Owner.new "@michel:example.com" []

def registry : Registry where
  connections := [⟨"wa1", "whatsapp", "Home", none, none⟩, ⟨"wa2", "whatsapp", "Work", none, none⟩]
  kindsKnown := by decide
  idsValid := by decide
  idsDistinct := by decide

theorem keeps : registry.Keeps fun _ => "whatsapp" := by
  intro connection member
  rcases List.mem_pair.mp member with rfl | rfl <;> rfl

def body (state connection : String) : Json :=
  .object [
    ("subject", .object [("type", .string "persona"), ("id", .string "assistant")]),
    ("new_state", .string state),
    ("scope", .object [("connections", .array [.string connection])])]

/-- What the write API makes of it. -/
def decision (state : State) (connection : String) : Decision :=
  ⟨⟨.persona, "assistant"⟩, state, [connection], [.whatsapp], none⟩

def grantsHome : Accepted registry :=
  ⟨decision .granted "wa1", Decision.parse_wellScoped (show Decision.parse (body "granted" "wa1")
    registry = .ok (decision .granted "wa1") from rfl)⟩

def grantsWork : Accepted registry :=
  ⟨decision .granted "wa2", Decision.parse_wellScoped (show Decision.parse (body "granted" "wa2")
    registry = .ok (decision .granted "wa2") from rfl)⟩

def revokesHome : Accepted registry :=
  ⟨decision .revoked "wa1", Decision.parse_wellScoped (show Decision.parse (body "revoked" "wa1")
    registry = .ok (decision .revoked "wa1") from rfl)⟩

def record (accepted : Accepted registry) (occurredAt : String) :
    OutboxStep fun _ => "whatsapp" :=
  .record registry keeps accepted "@michel:example.com" occurredAt "example.com" occurredAt 0

/-- The persona is granted on the first account, and the decision reaches the stream. -/
def published : List (OutboxStep fun _ => "whatsapp") :=
  [.configure registry keeps, record grantsHome "2026-10-01T12:00:00.000Z", .fetch,
    .publish .acknowledged, .mark "2026-10-01T12:00:01.000Z"]

/-- It is granted on the second account and revoked on the first, and one of the two decisions
reaches the stream. -/
def afterwards : List (OutboxStep fun _ => "whatsapp") :=
  [record grantsWork "2026-10-01T12:00:02.000Z", record revokesHome "2026-10-01T12:00:03.000Z",
    .fetch, .publish .acknowledged]

theorem isParsed : ∀ next ∈ published ++ afterwards, next.IsParsed := by
  intro next member
  simp only [published, afterwards, List.cons_append, List.nil_append, List.mem_cons,
    List.not_mem_nil, or_false] at member
  rcases member with rfl | rfl | rfl | rfl | rfl | rfl | rfl | rfl | rfl
  · trivial
  · exact ⟨body "granted" "wa1", rfl⟩
  · trivial
  · trivial
  · trivial
  · exact ⟨body "granted" "wa2", rfl⟩
  · exact ⟨body "revoked" "wa1", rfl⟩
  · trivial
  · trivial

set_option maxRecDepth 10000 in
/-- A runtime that starts from the snapshot of one decision and is told the others by the stream. -/
theorem activation_agrees_on_two_accounts : ∃ served snapshot,
    (run Outbox.step (Outbox.start gatewayOwner) published).store.snapshot 10 = .ok served ∧
      Snapshot.read (snapshotJson { served with entries := served.entries.reverse } gatewayOwner
        registry) = some snapshot ∧
      (startFromSnapshot snapshot
        (run Outbox.step (Outbox.start gatewayOwner) (published ++ afterwards)).bus).isActive
          "assistant" =
        (startFromStream
          (run Outbox.step (Outbox.start gatewayOwner) (published ++ afterwards)).bus).isActive
            "assistant" := by
  have serves : ((run Outbox.step (Outbox.start gatewayOwner) published).store.snapshot
      10).toOption.isSome = true := by decide
  cases answered : (run Outbox.step (Outbox.start gatewayOwner) published).store.snapshot 10 with
  | error refusal =>
    rw [answered] at serves
    exact absurd serves Bool.false_ne_true
  | ok served =>
    obtain ⟨snapshot, read, -, agrees⟩ := activation_agrees published afterwards isParsed answered
      (List.reverse_perm served.entries) registry
    exact ⟨served, snapshot, rfl, read, (agrees "assistant").1⟩

end TwoAccounts

end Hermes

end Twalk
