/-
This file is about the key the id of a recorded decision is the digest of: `Recorded::event_id` of
`companion-gateway/src/consent.rs`. A key is a text joined by colons, and a subject's id may carry
colons and commas of its own; read from its end, though, an instant, a scope and a state stand where
they stand, so that two decisions have one key exactly when they are one perimeter's, whatever way
its scope was spelled.
-/

import Twalk.Disclosed
import Twalk.SuggestionReads

namespace Twalk

/-! ### Joined texts -/

theorem Text.notMem_intercalate {character separator : Char} (differ : character ≠ separator)
    {parts : List (List Char)} (absent : ∀ part ∈ parts, character ∉ part) :
    character ∉ [separator].intercalate parts := by
  induction parts with
  | nil => exact List.not_mem_nil
  | cons part rest inductionHypothesis =>
    obtain ⟨notHere, notLater⟩ := List.forall_mem_cons.mp absent
    cases rest with
    | nil => rwa [List.intercalate_singleton]
    | cons second others =>
      rw [List.intercalate_cons_cons, List.append_assoc, List.mem_append, List.singleton_append,
        List.mem_cons]
      rintro (here | same | later)
      · exact notHere here
      · exact differ same
      · exact inductionHypothesis notLater later

namespace Consent

/-! ### The scope a body names -/

def Lists (body : Json) (member text : String) : Prop :=
  ∃ entries, (body.pointer ["scope", member]).bind Json.asArray = some entries ∧
    .string text ∈ entries

/-- The connections a scope names: those it lists or, where it has no list of connections, those of
a network it lists. -/
def Scopes (body : Json) (registry : Registry) (id : String) : Prop :=
  if (body.pointer ["scope", "connections"]).isSome = true then Lists body "connections" id
  else ∃ connection ∈ registry.connections, connection.id = id ∧
    Lists body "networks" connection.kind

theorem mem_of_mapM_asStr {entries : List Json} {texts : List String}
    (read : entries.mapM Json.asStr = some texts) {text : String} :
    text ∈ texts ↔ .string text ∈ entries := by
  induction entries generalizing texts with
  | nil =>
    cases read
    simp
  | cons entry rest inductionHypothesis =>
    rw [List.mapM_cons] at read
    obtain ⟨first, isFirst, read⟩ := Option.bind_eq_some_iff.mp read
    obtain ⟨others, isRest, read⟩ := Option.bind_eq_some_iff.mp read
    cases read
    rw [List.mem_cons, List.mem_cons, inductionHypothesis isRest]
    refine or_congr_left ?_
    cases entry <;> cases isFirst
    exact ⟨fun same => by rw [same], fun same => Json.string.inj same⟩

variable {body : Json}

theorem mem_strings {member : String} {values : List String}
    (read : strings body member = .ok (some values)) {value : String} :
    value ∈ values ↔ Lists body member value := by
  unfold strings at read
  cases pointed : body.pointer ["scope", member] with
  | none =>
    rw [pointed] at read
    cases read
  | some document =>
    rw [pointed] at read
    dsimp only at read
    cases isArray : document.asArray with
    | none =>
      rw [isArray] at read
      cases read
    | some entries =>
      rw [isArray, Option.bind_some] at read
      cases isTexts : entries.mapM Json.asStr with
      | none =>
        rw [isTexts] at read
        cases read
      | some texts =>
        rw [isTexts] at read
        dsimp only at read
        split at read
        · cases read
        · cases read
          have pointer : (body.pointer ["scope", member]).bind Json.asArray = some entries := by
            rw [pointed]
            exact isArray
          unfold Lists
          rw [mem_keepFirst, mem_of_mapM_asStr isTexts, pointer]
          exact ⟨fun listed => ⟨entries, rfl, listed⟩, fun ⟨others, same, listed⟩ =>
            Option.some.inj same ▸ listed⟩

theorem isSome_of_strings {member : String} {read : Option (List String)}
    (isRead : strings body member = .ok read) :
    (body.pointer ["scope", member]).isSome = read.isSome := by
  unfold strings at isRead
  split at isRead
  · rename_i absent
    cases isRead
    rw [absent]
    rfl
  · rename_i value present
    rw [present]
    split at isRead
    · cases isRead
    · split at isRead
      · cases isRead
      · cases isRead
        rfl

theorem lists_iff_of_declared {networks : List Network}
    (read : declaredNetworks body = .ok (some networks)) {text : String} :
    Lists body "networks" text ↔ ∃ network ∈ networks, network.asStr = text := by
  unfold declaredNetworks at read
  obtain ⟨given, readGiven, read⟩ := bind_eq_ok.mp read
  cases given with
  | none => cases read
  | some values =>
    obtain ⟨others, mapped, finished⟩ := bind_eq_ok.mp read
    cases finished
    rw [← mem_strings readGiven]
    have paired := forall₂_of_mapM_eq_ok mapped
    constructor
    · intro member
      obtain ⟨network, isNetwork, parsed⟩ := exists_result_of_forall₂ paired member
      exact ⟨network, isNetwork, Network.asStr_of_parse (parseNetwork_eq_ok parsed)⟩
    · rintro ⟨network, isNetwork, rfl⟩
      obtain ⟨value, isValue, parsed⟩ := exists_input_of_forall₂ paired isNetwork
      rwa [Network.asStr_of_parse (parseNetwork_eq_ok parsed)]

variable {id : String}

theorem eq_of_singleConnection {registry : Registry} {network : Network}
    (single : singleConnection registry network = .ok id) {connection : Connection}
    (member : connection ∈ registry.connections) (ofKind : connection.kind = network.asStr) :
    connection.id = id := by
  have isOfKind : connection ∈ registry.ofKind network.asStr :=
    Registry.mem_ofKind.mpr ⟨member, ofKind⟩
  unfold singleConnection Registry.resolve at single
  simp only [Option.map_none, Option.filter_none] at single
  cases several : registry.ofKind network.asStr with
  | nil =>
    rw [several] at isOfKind
    cases isOfKind
  | cons first others =>
    cases others with
    | nil =>
      rw [several] at single isOfKind
      cases single
      rw [List.mem_singleton.mp isOfKind]
    | cons second rest =>
      rw [several] at single
      cases single

theorem mem_scopeConnections {registry : Registry} {declared : Option (List Network)}
    {connections : List String} (declares : declaredNetworks body = .ok declared)
    (read : scopeConnections body registry declared = .ok connections) :
    id ∈ connections ↔ Scopes body registry id := by
  unfold scopeConnections at read
  obtain ⟨given, readGiven, read⟩ := bind_eq_ok.mp read
  unfold Scopes
  rw [isSome_of_strings readGiven]
  cases given with
  | some ids =>
    rw [Option.isSome_some, if_pos rfl, ← mem_strings readGiven]
    have paired := forall₂_of_mapM_eq_ok read
    constructor
    · intro member
      obtain ⟨input, isInput, named⟩ := exists_input_of_forall₂ paired member
      rwa [(namedConnection_eq_ok named).1]
    · intro member
      obtain ⟨result, isResult, named⟩ := exists_result_of_forall₂ paired member
      rwa [← (namedConnection_eq_ok named).1]
  | none =>
    rw [Option.isSome_none, if_neg Bool.false_ne_true]
    cases declared with
    | none => cases read
    | some networks =>
      have paired := forall₂_of_mapM_eq_ok read
      constructor
      · intro member
        obtain ⟨network, isNetwork, single⟩ := exists_input_of_forall₂ paired member
        obtain ⟨connection, found, ofKind⟩ := singleConnection_eq_ok single
        exact ⟨connection, Registry.mem_of_get found, Registry.id_of_get found,
          (lists_iff_of_declared declares).mpr ⟨network, isNetwork, ofKind.symm⟩⟩
      · rintro ⟨connection, isConnection, rfl, listed⟩
        obtain ⟨network, isNetwork, ofKind⟩ := (lists_iff_of_declared declares).mp listed
        obtain ⟨id, isId, single⟩ := exists_result_of_forall₂ paired isNetwork
        rwa [eq_of_singleConnection single isConnection ofKind.symm]

theorem exists_scope_of_parse {registry : Registry} {decision : Decision}
    (accepted : Decision.parse body registry = .ok decision) :
    ∃ networks, parseScope body registry = .ok (decision.connections, networks) := by
  unfold Decision.parse at accepted
  iterate 3 obtain ⟨_, -, accepted⟩ := bind_eq_ok.mp accepted
  obtain ⟨⟨connections, networks⟩, scope, accepted⟩ := bind_eq_ok.mp accepted
  iterate 2 obtain ⟨_, -, accepted⟩ := bind_eq_ok.mp accepted
  cases accepted
  exact ⟨networks, scope⟩

theorem mem_connections_iff {registry : Registry} {decision : Decision}
    (accepted : Decision.parse body registry = .ok decision) :
    id ∈ decision.connections ↔ Scopes body registry id := by
  obtain ⟨networks, scope⟩ := exists_scope_of_parse accepted
  obtain ⟨declared, unordered, _, declares, readUnordered, -, same, -⟩ := parseScope_made scope
  rw [same, (perm_sortTexts unordered).mem_iff]
  exact mem_scopeConnections declares readUnordered

theorem connections_eq_iff {registry : Registry} {first second : Decision}
    (wellScoped : first.WellScoped registry) (wellScopedToo : second.WellScoped registry) :
    first.connections = second.connections ↔
      ∀ id, id ∈ first.connections ↔ id ∈ second.connections := by
  refine ⟨fun same id => by rw [same], fun alike => ?_⟩
  have permuted := (List.perm_ext_iff_of_nodup wellScoped.once wellScopedToo.once).mpr alike
  exact List.Perm.eq_of_pairwise (fun _ _ _ _ => textLe_antisymm) wellScoped.ordered
    wellScopedToo.ordered permuted

/-! ### The parts of a key -/

theorem splitOn_naturalKey (recorded : Recorded) :
    recorded.naturalKey.toList.splitOn ':' =
      recorded.decision.subject.kind.asStr.toList.splitOn ':' ++
        (recorded.decision.subject.id.toList.splitOn ':' ++
          (recorded.decision.newState.asStr.toList.splitOn ':' ++
            (recorded.decision.scopeKey.toList.splitOn ':' ++
              recorded.occurredAt.toList.splitOn ':'))) := by
  unfold Recorded.naturalKey
  rw [String.toList_intercalate]
  have colon : ":".toList = [':'] := rfl
  simp only [List.map_cons, List.map_nil, colon, List.intercalate_cons_cons,
    List.intercalate_singleton, List.append_assoc, List.singleton_append,
    List.splitOn_append_cons_self]

theorem splitOn_subjectType (kind : SubjectType) :
    kind.asStr.toList.splitOn ':' = [kind.asStr.toList] := by
  cases kind <;> rfl

theorem splitOn_state (state : State) : state.asStr.toList.splitOn ':' = [state.asStr.toList] := by
  cases state <;> rfl

theorem SubjectType.asStr_injective {first second : SubjectType}
    (same : first.asStr = second.asStr) : first = second := by
  cases first <;> cases second <;> first | rfl | exact absurd same (by decide)

theorem State.asStr_injective {first second : State} (same : first.asStr = second.asStr) :
    first = second := by
  cases first <;> cases second <;> first | rfl | exact absurd same (by decide)

theorem notMem_of_idIsValid (valid : idIsValid id = true) :
    ':' ∉ id.toList ∧ ',' ∉ id.toList :=
  ⟨fun member => absurd (Approval.spelled_of_idIsValid valid ':' member) (by decide),
    fun member => absurd (Approval.spelled_of_idIsValid valid ',' member) (by decide)⟩

section Scoped

variable {registry : Registry} {decision : Decision} (wellScoped : decision.WellScoped registry)

include wellScoped

theorem valid_of_wellScoped (member : id ∈ decision.connections) :
    idIsValid id = true := by
  obtain ⟨connection, _, found, -⟩ := wellScoped.registered id member
  rw [← Registry.id_of_get found]
  exact registry.idsValid connection (Registry.mem_of_get found)

theorem splitOn_scopeKey :
    decision.scopeKey.toList.splitOn ',' = decision.connections.map String.toList := by
  unfold Decision.scopeKey
  rw [String.toList_intercalate]
  refine List.splitOn_intercalate ',' (fun characters member => ?_) ?_
  · obtain ⟨id, isId, rfl⟩ := List.mem_map.mp member
    exact (notMem_of_idIsValid (valid_of_wellScoped wellScoped isId)).2
  · exact fun none => wellScoped.covering (List.map_eq_nil_iff.mp none)

theorem splitOn_colon_scopeKey :
    decision.scopeKey.toList.splitOn ':' = [decision.scopeKey.toList] := by
  refine List.splitOn_eq_singleton ?_
  unfold Decision.scopeKey
  rw [String.toList_intercalate]
  refine Text.notMem_intercalate (by decide) fun characters member => ?_
  obtain ⟨id, isId, rfl⟩ := List.mem_map.mp member
  exact (notMem_of_idIsValid (valid_of_wellScoped wellScoped isId)).1

end Scoped

end Consent

namespace Rfc3339

/-! ### The parts of an instant -/

theorem notMem_of_digits {characters : List Char}
    (digited : ∀ character ∈ characters, (digitOf character).isSome) : ':' ∉ characters :=
  fun member => absurd (digited ':' member) (by decide)

theorem notMem_fraction (nanos : Nat) : ':' ∉ fraction nanos := by
  unfold fraction
  split
  · exact List.not_mem_nil
  · rw [List.mem_cons]
    rintro (same | member)
    · cases same
    · exact notMem_of_digits (digited_trimmed 9 nanos) member

theorem length_splitOn_written (instant : Int) : ((written instant).splitOn ':').length = 3 := by
  unfold written
  dsimp only
  generalize dateOf (instant / 1000000000 / 86400) = date
  generalize (instant / 1000000000 % 86400).toNat = inDay
  have year := notMem_of_digits (digited_padded 4 date.year.toNat)
  have two := fun value => notMem_of_digits (digited_padded 2 value)
  have day : ':' ∉ padded 4 date.year.toNat ++ '-' :: (padded 2 date.month ++ '-' ::
      (padded 2 date.day ++ 'T' :: padded 2 (inDay / 3600))) := by
    simp only [List.mem_append, List.mem_cons, not_or]
    exact ⟨year, by decide, two _, by decide, two _, by decide, two _⟩
  have second : ':' ∉ padded 2 (inDay % 60) ++
      (fraction (instant % 1000000000).toNat ++ ['Z']) := by
    simp only [List.mem_append, not_or]
    exact ⟨two _, notMem_fraction _, by decide⟩
  have parts : padded 4 date.year.toNat ++ '-' :: (padded 2 date.month ++ '-' ::
      (padded 2 date.day ++ 'T' :: (padded 2 (inDay / 3600) ++ ':' ::
        (padded 2 (inDay / 60 % 60) ++ ':' :: (padded 2 (inDay % 60) ++
          (fraction (instant % 1000000000).toNat ++ ['Z'])))))) =
      (padded 4 date.year.toNat ++ '-' :: (padded 2 date.month ++ '-' ::
        (padded 2 date.day ++ 'T' :: padded 2 (inDay / 3600)))) ++ ':' ::
          (padded 2 (inDay / 60 % 60) ++ ':' :: (padded 2 (inDay % 60) ++
            (fraction (instant % 1000000000).toNat ++ ['Z']))) := by
    simp only [List.append_assoc, List.cons_append]
  rw [parts, List.splitOn_append_cons_self_of_not_mem day,
    List.splitOn_append_cons_self_of_not_mem (two _), List.splitOn_eq_singleton second]
  rfl

end Rfc3339

namespace Consent

/-! ### One key for one decision -/

/-- An instant the Gateway stamps a decision with. -/
def Stamped (occurredAt : String) : Prop :=
  ∃ now, Rfc3339.Writable now ∧ Approval.rfc3339Millis now = occurredAt

theorem Stamped.length_splitOn {occurredAt : String} (stamped : Stamped occurredAt) :
    (occurredAt.toList.splitOn ':').length = 3 := by
  obtain ⟨now, writable, rfl⟩ := stamped
  unfold Approval.rfc3339Millis
  rw [if_pos writable]
  unfold Rfc3339.write
  rw [String.toList_ofList]
  exact Rfc3339.length_splitOn_written _

structure Alike (first second : Recorded) : Prop where
  kind : first.decision.subject.kind = second.decision.subject.kind
  id : first.decision.subject.id = second.decision.subject.id
  newState : first.decision.newState = second.decision.newState
  occurredAt : first.occurredAt = second.occurredAt

theorem eq_of_splitOn_eq {separator : Char} {first second : String}
    (same : first.toList.splitOn separator = second.toList.splitOn separator) : first = second := by
  refine String.toList_inj.mp ?_
  calc first.toList
      = [separator].intercalate (first.toList.splitOn separator) :=
        (List.intercalate_splitOn separator).symm
    _ = [separator].intercalate (second.toList.splitOn separator) := by rw [same]
    _ = second.toList := List.intercalate_splitOn separator

theorem naturalKey_eq_iff {registry : Registry} {first second : Recorded}
    (wellScoped : first.decision.WellScoped registry)
    (wellScopedToo : second.decision.WellScoped registry)
    (stamped : Stamped first.occurredAt) (stampedToo : Stamped second.occurredAt) :
    first.naturalKey = second.naturalKey ↔
      Alike first second ∧ first.decision.connections = second.decision.connections := by
  constructor
  · intro same
    have parts := congrArg (fun key : String => key.toList.splitOn ':') same
    rw [splitOn_naturalKey, splitOn_naturalKey, splitOn_subjectType, splitOn_subjectType,
      splitOn_state, splitOn_state, splitOn_colon_scopeKey wellScoped,
      splitOn_colon_scopeKey wellScopedToo] at parts
    simp only [List.singleton_append] at parts
    obtain ⟨kind, parts⟩ := List.cons.inj parts
    -- The subject's id may be of any number of parts; what follows it is of five.
    obtain ⟨id, parts⟩ := List.append_inj' parts (by
      simp only [List.length_cons, stamped.length_splitOn, stampedToo.length_splitOn])
    obtain ⟨state, parts⟩ := List.cons.inj parts
    obtain ⟨scope, instant⟩ := List.cons.inj parts
    refine ⟨⟨SubjectType.asStr_injective (String.toList_inj.mp kind), eq_of_splitOn_eq id,
      State.asStr_injective (String.toList_inj.mp state), eq_of_splitOn_eq instant⟩, ?_⟩
    have texts := splitOn_scopeKey wellScoped
    rw [scope, splitOn_scopeKey wellScopedToo] at texts
    exact (List.map_injective_iff.mpr (fun _ _ => String.toList_inj.mp) texts).symm
  · rintro ⟨⟨kind, id, newState, occurredAt⟩, connections⟩
    unfold Recorded.naturalKey Decision.scopeKey
    rw [kind, id, newState, occurredAt, connections]

/-- Two decisions that were accepted have one key exactly when they are about one subject and one
state, at one instant, over one set of connections, whichever way their scopes were spelled. -/
theorem naturalKey_eq_iff_of_parse {registry : Registry} {body otherBody : Json}
    {decision other : Decision} (accepted : Decision.parse body registry = .ok decision)
    (acceptedToo : Decision.parse otherBody registry = .ok other)
    (oldState otherState : OldState) (actor otherActor : String) {occurredAt otherInstant : String}
    (stamped : Stamped occurredAt) (stampedToo : Stamped otherInstant) :
    (Recorded.mk decision oldState occurredAt actor).naturalKey =
        (Recorded.mk other otherState otherInstant otherActor).naturalKey ↔
      decision.subject.kind = other.subject.kind ∧ decision.subject.id = other.subject.id ∧
        decision.newState = other.newState ∧ occurredAt = otherInstant ∧
          ∀ id, Scopes body registry id ↔ Scopes otherBody registry id := by
  have wellScoped := Decision.parse_wellScoped accepted
  have wellScopedToo := Decision.parse_wellScoped acceptedToo
  rw [@naturalKey_eq_iff registry ⟨decision, oldState, occurredAt, actor⟩
    ⟨other, otherState, otherInstant, otherActor⟩ wellScoped wellScopedToo stamped stampedToo,
    connections_eq_iff wellScoped wellScopedToo]
  simp only [mem_connections_iff accepted, mem_connections_iff acceptedToo]
  constructor
  · rintro ⟨⟨kind, id, newState, instant⟩, scope⟩
    exact ⟨kind, id, newState, instant, scope⟩
  · rintro ⟨kind, id, newState, instant, scope⟩
    exact ⟨⟨kind, id, newState, instant⟩, scope⟩

/-! ### One scope, spelled twice -/

namespace OneScope

def registry : Registry := Approval.OneDraft.registry

def byConnections : Json :=
  .object [("subject", .object [("type", .string "contact"), ("id", .string "@a:b,c:granted")]),
    ("new_state", .string "granted"),
    ("scope", .object [("connections", .array [.string "whatsapp", .string "whatsapp"])])]

def byNetworks : Json :=
  .object [("subject", .object [("type", .string "contact"), ("id", .string "@a:b,c:granted")]),
    ("new_state", .string "granted"),
    ("scope", .object [("networks", .array [.string "whatsapp"])])]

theorem naturalKey_eq_iff_of_spellings : ∃ decision other,
    Decision.parse byConnections registry = .ok decision ∧
      Decision.parse byNetworks registry = .ok other ∧
        (Recorded.mk decision .unset (Approval.rfc3339Millis 0) "@owner:example.org").naturalKey =
          (Recorded.mk other .unset (Approval.rfc3339Millis 0) "@owner:example.org").naturalKey := by
  have first : Decision.parse byConnections registry =
      .ok ⟨⟨.contact, "@a:b,c:granted"⟩, .granted, ["whatsapp"], [.whatsapp], none⟩ := by
    rfl
  have second : Decision.parse byNetworks registry =
      .ok ⟨⟨.contact, "@a:b,c:granted"⟩, .granted, ["whatsapp"], [.whatsapp], none⟩ := by
    rfl
  have stamped : Stamped (Approval.rfc3339Millis 0) := ⟨0, by decide, rfl⟩
  refine ⟨_, _, first, second, (naturalKey_eq_iff_of_parse first second .unset .unset
    "@owner:example.org" "@owner:example.org" stamped stamped).mpr ⟨rfl, rfl, rfl, rfl, ?_⟩⟩
  exact fun id => (mem_connections_iff first).symm.trans (mem_connections_iff second)

end OneScope

end Consent

end Twalk
