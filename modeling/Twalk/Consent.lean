/-
This file models `companion-gateway/src/consent.rs`: the words of a consent
decision, the reading of one from a request body over the registry, the recorded
form of a decision with its deterministic event id and the event it is published
as, and the precedence between a contact's own decision and a network's default.
What an accepted decision promises about its scope is stated once, as
`Decision.WellScoped`, and everything later reads that.
-/

import Twalk.Connections
import Twalk.Library.Fallible
import Twalk.Library.Json
import Twalk.Library.Sha256

namespace Twalk.Consent

/-! ### The vocabulary -/

inductive Network where
  | whatsapp | telegram | signal | discord | sms | matrix | email
deriving DecidableEq, Repr

namespace Network

def all : List Network := [whatsapp, telegram, signal, discord, sms, matrix, email]

def asStr : Network → String
  | whatsapp => "whatsapp"
  | telegram => "telegram"
  | signal => "signal"
  | discord => "discord"
  | sms => "sms"
  | matrix => "matrix"
  | email => "email"

def parse (value : String) : Option Network := all.find? fun network => network.asStr == value

theorem asStr_of_parse {value : String} {network : Network}
    (parsed : parse value = some network) : network.asStr = value :=
  eq_of_beq (List.find?_some parsed :)

@[simp] theorem parse_asStr (network : Network) : parse network.asStr = some network := by
  cases network <;> decide

theorem asStr_injective {first second : Network} (same : first.asStr = second.asStr) :
    first = second := by
  have parsed := parse_asStr first
  rw [same, parse_asStr] at parsed
  exact (Option.some.inj parsed).symm

end Network

inductive State where
  | granted | pending | revoked
deriving DecidableEq, Repr

namespace State

def asStr : State → String
  | granted => "granted"
  | pending => "pending"
  | revoked => "revoked"

def parse (value : String) : Option State :=
  match value with
  | "granted" => some granted
  | "pending" => some pending
  | "revoked" => some revoked
  | _ => none

end State

/-- The state before a decision: `unset` when no decision had covered the subject. -/
inductive OldState where
  | unset
  | was (state : State)
deriving DecidableEq, Repr

def OldState.asStr : OldState → String
  | unset => "unset"
  | was state => state.asStr

inductive SubjectType where
  | contact | network | persona
deriving DecidableEq, Repr

namespace SubjectType

def asStr : SubjectType → String
  | contact => "contact"
  | network => "network"
  | persona => "persona"

def parse (value : String) : Option SubjectType :=
  match value with
  | "contact" => some contact
  | "network" => some network
  | "persona" => some persona
  | _ => none

end SubjectType

structure Subject where
  kind : SubjectType
  id : String
deriving DecidableEq, Repr

/-- A decision, once validated. The scope is held ascending, as connections and as their
kinds. -/
structure Decision where
  subject : Subject
  newState : State
  connections : List String
  networks : List Network
  reason : Option String
deriving DecidableEq, Repr

/-- Why a decision cannot be recorded. -/
inductive Invalid where
  | malformed (field : String)
  | unsupportedSubjectType (kind : String)
  | unknown (field value : String)
  | scopeContradictsSubject (subject : String) (scope : List String)
  | scopeNeedsConnections (network : String) (connections : List String)
  | scopeMembersDisagree (networks connections : List String)
  | subjectIsTheOwner (id : String)
deriving DecidableEq, Repr

namespace Invalid

def code : Invalid → String
  | malformed _ => "malformed_request"
  | unsupportedSubjectType _ => "unsupported_subject_type"
  | unknown _ _ => "unknown_value"
  | scopeContradictsSubject _ _ => "scope_contradicts_subject"
  | scopeNeedsConnections _ _ => "malformed_request"
  | scopeMembersDisagree _ _ => "malformed_request"
  | subjectIsTheOwner _ => "subject_is_the_owner"

def status : Invalid → Nat
  | subjectIsTheOwner _ => 409
  | _ => 400

end Invalid

/-! ### Reading a decision -/

def string (body : Json) (path : List String) : Except Invalid String :=
  match body.textAt path with
  | some value => .ok value
  | none => .error (.malformed (".".intercalate path))

/-- The first occurrence of each text, in order. -/
def keepFirst (values : List String) : List String :=
  values.foldl (fun known value => if known.contains value then known else known ++ [value]) []

def strings (body : Json) (member : String) : Except Invalid (Option (List String)) :=
  match body.pointer ["scope", member] with
  | none => .ok none
  | some value =>
    match value.asArray.bind fun entries => entries.mapM Json.asStr with
    | none => .error (.malformed s!"scope.{member}")
    | some values =>
      if (keepFirst values).isEmpty then .error (.malformed s!"scope.{member}")
      else .ok (some (keepFirst values))

def parseNetwork (field value : String) : Except Invalid Network :=
  match Network.parse value with
  | some network => .ok network
  | none => .error (.unknown field value)

def declaredNetworks (body : Json) : Except Invalid (Option (List Network)) := do
  match ← strings body "networks" with
  | none => return none
  | some values => return some (← values.mapM (parseNetwork "scope.networks"))

def namedConnection (registry : Registry) (id : String) : Except Invalid String :=
  match registry.get id with
  | some _ => .ok id
  | none => .error (.unknown "scope.connections" id)

def singleConnection (registry : Registry) (network : Network) : Except Invalid String :=
  match registry.resolve none network.asStr with
  | .ok connection => .ok connection.id
  | .error _ =>
    .error (.scopeNeedsConnections network.asStr
      ((registry.ofKind network.asStr).map Connection.id))

def scopeConnections (body : Json) (registry : Registry) (declared : Option (List Network)) :
    Except Invalid (List String) := do
  match ← strings body "connections" with
  | some ids => ids.mapM (namedConnection registry)
  | none =>
    match declared with
    | none => .error (.malformed "scope.connections")
    | some networks => networks.mapM (singleConnection registry)

def networkOf (registry : Registry) (id : String) : Except Invalid Network :=
  parseKind id (((registry.get id).map Connection.kind).getD "")
where
  parseKind (id kind : String) : Except Invalid Network :=
    match Network.parse kind with
    | some network => .ok network
    | none => .error (.unknown "scope.connections" id)

/-- Networks in the order of their names, each once. -/
def ascending (networks : List Network) : List Network :=
  sortBy (fun network => [network.asStr]) networks.dedup

/-- `parse_scope`: the scope as connections and as their kinds, both ascending and each once. -/
def parseScope (body : Json) (registry : Registry) :
    Except Invalid (List String × List Network) := do
  let declared ← declaredNetworks body
  let unordered ← scopeConnections body registry declared
  let connections := sortTexts unordered
  let networks := ascending (← connections.mapM (networkOf registry))
  match declared with
  | some named =>
    if ascending named ≠ networks then
      .error (.scopeMembersDisagree ((ascending named).map Network.asStr) connections)
    else .ok (connections, networks)
  | none => .ok (connections, networks)

def parseReason (body : Json) : Except Invalid (Option String) :=
  match body.get? "reason" with
  | none => .ok none
  | some .null => .ok none
  | some (.string reason) =>
    if Text.count reason ≤ 1024 then .ok (some reason) else .error (.malformed "reason")
  | some _ => .error (.malformed "reason")

def scopeAgrees (subject : Subject) (networks : List Network) : Except Invalid Unit := do
  match subject.kind with
  | .network =>
    let network ← parseNetwork "subject.id" subject.id
    if networks ≠ [network] then
      .error (.scopeContradictsSubject subject.id (networks.map Network.asStr))
  | _ => return ()

def parseSubjectType (body : Json) : Except Invalid SubjectType := do
  let value ← string body ["subject", "type"]
  match SubjectType.parse value with
  | some kind => return kind
  | none => .error (.unknown "subject.type" value)

def parseSubjectId (body : Json) : Except Invalid String := do
  let id ← string body ["subject", "id"]
  if id = "" ∨ 256 < Text.count id then .error (.malformed "subject.id") else return id

def parseNewState (body : Json) : Except Invalid State := do
  let value ← string body ["new_state"]
  match State.parse value with
  | some state => return state
  | none => .error (.unknown "new_state" value)

namespace Decision

/-- `Decision::parse`: a decision from the write API's body. -/
def parse (body : Json) (registry : Registry) : Except Invalid Decision := do
  let kind ← parseSubjectType body
  let id ← parseSubjectId body
  let newState ← parseNewState body
  let (connections, networks) ← parseScope body registry
  scopeAgrees ⟨kind, id⟩ networks
  let reason ← parseReason body
  return { subject := ⟨kind, id⟩, newState, connections, networks, reason }

/-- `refuse_if_owner`: only a contact can be one of the owner's identities. -/
def refuseIfOwner (decision : Decision) (owner : Owner) : Except Invalid Unit :=
  if decision.subject.kind = .contact ∧ owner.isOwner decision.subject.id = true then
    .error (.subjectIsTheOwner decision.subject.id)
  else .ok ()

/-- The scope as the event id's recipe renders it. -/
def scopeKey (decision : Decision) : String := ",".intercalate decision.connections

end Decision

/-! ### The recorded form and its event -/

/-- A decision with everything the Gateway stamped on it. -/
structure Recorded where
  decision : Decision
  oldState : OldState
  occurredAt : String
  actor : String
deriving DecidableEq, Repr

namespace Recorded

def naturalKey (recorded : Recorded) : String :=
  ":".intercalate [recorded.decision.subject.kind.asStr, recorded.decision.subject.id,
    recorded.decision.newState.asStr, recorded.decision.scopeKey, recorded.occurredAt]

def eventId (recorded : Recorded) : String := sha256Hex recorded.naturalKey

/-- The `data` member of the event; the reason is there when one was given. -/
def data (recorded : Recorded) : Json :=
  .object ([
    ("subject", .object [
      ("type", .string recorded.decision.subject.kind.asStr),
      ("id", .string recorded.decision.subject.id)]),
    ("old_state", .string recorded.oldState.asStr),
    ("new_state", .string recorded.decision.newState.asStr),
    ("scope", .object [
      ("connections", .array (recorded.decision.connections.map .string)),
      ("networks", .array (recorded.decision.networks.map fun network => .string network.asStr))]),
    ("occurred_at", .string recorded.occurredAt),
    ("actor", .string recorded.actor)] ++
    match recorded.decision.reason with
    | some reason => [("reason", .string reason)]
    | none => [])

/-- The event exactly as it is published. The `network` extension is set only when the scope
names exactly one network. -/
def envelope (recorded : Recorded) (domain producedAt : String) : Json :=
  .object ([
    ("specversion", .string "1.0"),
    ("id", .string recorded.eventId),
    ("source", .string s!"gateway://{domain}/consent"),
    ("type", .string "fr.linagora.twalk.consent.state.changed.v1"),
    ("time", .string producedAt),
    ("subject", .string recorded.decision.subject.id),
    ("datacontenttype", .string "application/json"),
    ("dataschema", .string
      "https://schemas.twalk.dev/cloudevents/v1/consent.state.changed.schema.json"),
    ("data", recorded.data)] ++
    match recorded.decision.networks with
    | [only] => [("network", .string only.asStr)]
    | _ => [])

end Recorded

/-! ### Precedence -/

structure Effective where
  state : State
  decidedBy : Option Subject
deriving DecidableEq, Repr

def Effective.resolve (contact : String) (network : Network) (contactState : Option State)
    (defaultState : Option State) : Effective :=
  match contactState, defaultState with
  | some state, _ => ⟨state, some ⟨.contact, contact⟩⟩
  | none, some state => ⟨state, some ⟨.network, network.asStr⟩⟩
  | none, none => ⟨.pending, none⟩

theorem Effective.resolve_state (contact : String) (network : Network)
    (contactState defaultState : Option State) :
    (Effective.resolve contact network contactState defaultState).state =
      (contactState.or defaultState).getD .pending := by
  cases contactState <;> cases defaultState <;> rfl

/-! ### What an accepted decision promises -/

/-- What a decision the write API accepted promises: a subject, and a scope of registered
connections of the networks it names, where a network subject names the one kind they have. -/
structure Decision.WellScoped (registry : Registry) (decision : Decision) : Prop where
  named : decision.subject.id ≠ ""
  covering : decision.connections ≠ []
  once : decision.connections.Nodup
  ordered : decision.connections.Pairwise fun first second => textLe first second = true
  registered : ∀ id ∈ decision.connections, ∃ connection network,
    registry.get id = some connection ∧ Network.parse connection.kind = some network ∧
      network ∈ decision.networks
  agrees : decision.subject.kind = .network →
    ∃ network, network.asStr = decision.subject.id ∧ decision.networks = [network]

theorem keepFirst_nodup (values : List String) : (keepFirst values).Nodup := by
  suffices kept : ∀ known : List String, known.Nodup →
      (values.foldl (fun known value => if known.contains value then known else known ++ [value])
        known).Nodup from kept [] List.nodup_nil
  induction values with
  | nil => exact fun known distinct => distinct
  | cons value rest inductionHypothesis =>
    intro known distinct
    rw [List.foldl_cons]
    apply inductionHypothesis
    split
    · exact distinct
    · rename_i absent
      rw [List.contains_iff_mem] at absent
      exact List.nodup_append.mpr ⟨distinct, List.nodup_singleton value, by
        intro earlier member later isNew same
        rw [List.mem_singleton.mp isNew] at same
        exact absent (same ▸ member)⟩

theorem mem_keepFirst {values : List String} {value : String} :
    value ∈ keepFirst values ↔ value ∈ values := by
  suffices kept : ∀ known : List String, value ∈ values.foldl
      (fun known value => if known.contains value then known else known ++ [value]) known ↔
        value ∈ known ∨ value ∈ values from (kept []).trans (by simp)
  induction values with
  | nil => simp
  | cons first rest inductionHypothesis =>
    intro known
    rw [List.foldl_cons, inductionHypothesis]
    split
    · rename_i isKnown
      rw [List.contains_iff_mem] at isKnown
      rw [List.mem_cons]
      constructor
      · exact Or.imp_right .inr
      · rintro (inKnown | rfl | inRest)
        · exact .inl inKnown
        · exact .inl isKnown
        · exact .inr inRest
    · rw [List.mem_append, List.mem_singleton, List.mem_cons, or_assoc]

variable {body : Json}

theorem strings_some {member : String} {values : List String}
    (read : strings body member = .ok (some values)) : values ≠ [] ∧ values.Nodup := by
  unfold strings at read
  split at read
  · cases read
  · split at read
    · cases read
    · rename_i given _
      split at read
      · cases read
      · rename_i notEmpty
        cases read
        exact ⟨fun empty => notEmpty (by rw [empty]; rfl), keepFirst_nodup given⟩

theorem parseNetwork_eq_ok {field value : String} {network : Network}
    (parsed : parseNetwork field value = .ok network) : Network.parse value = some network := by
  unfold parseNetwork at parsed
  split at parsed
  · rename_i other found
    cases parsed
    exact found
  · cases parsed

variable {networks : List Network}

theorem declaredNetworks_some (read : declaredNetworks body = .ok (some networks)) :
    networks ≠ [] ∧ networks.Nodup := by
  unfold declaredNetworks at read
  obtain ⟨given, readGiven, parsed⟩ := bind_eq_ok.mp read
  cases given with
  | none => cases parsed
  | some values =>
    obtain ⟨others, mapped, finished⟩ := bind_eq_ok.mp parsed
    cases finished
    obtain ⟨notEmpty, distinct⟩ := strings_some readGiven
    have paired := forall₂_of_mapM_eq_ok mapped
    refine ⟨fun empty => ?_, nodup_of_forall₂ ?_ paired distinct⟩
    · rw [empty] at paired
      cases paired
      exact notEmpty rfl
    · intro first second network firstParsed secondParsed
      rw [← Network.asStr_of_parse (parseNetwork_eq_ok firstParsed),
        Network.asStr_of_parse (parseNetwork_eq_ok secondParsed)]

variable {registry : Registry}

theorem namedConnection_eq_ok {id result : String}
    (named : namedConnection registry id = .ok result) :
    result = id ∧ ∃ connection, registry.get id = some connection := by
  unfold namedConnection at named
  split at named
  · rename_i connection found
    cases named
    exact ⟨rfl, connection, found⟩
  · cases named

theorem singleConnection_eq_ok {network : Network} {result : String}
    (single : singleConnection registry network = .ok result) :
    ∃ connection, registry.get result = some connection ∧ connection.kind = network.asStr := by
  unfold singleConnection at single
  split at single
  · rename_i connection resolved
    cases single
    have ofKind : connection ∈ registry.ofKind network.asStr := by
      unfold Registry.resolve at resolved
      simp only [Option.map_none, Option.filter_none] at resolved
      split at resolved
      · rename_i only isOnly
        cases resolved
        rw [isOnly]
        exact List.mem_singleton_self _
      · cases resolved
      · cases resolved
    obtain ⟨member, kind⟩ := Registry.mem_ofKind.mp ofKind
    exact ⟨connection, Registry.get_of_mem member, kind⟩
  · cases single

variable {connections : List String}

theorem scopeConnections_eq_ok {declared : Option (List Network)}
    (declares : declaredNetworks body = .ok declared)
    (read : scopeConnections body registry declared = .ok connections) :
    connections ≠ [] ∧ connections.Nodup ∧
      ∀ id ∈ connections, ∃ connection, registry.get id = some connection := by
  unfold scopeConnections at read
  obtain ⟨given, readGiven, resolved⟩ := bind_eq_ok.mp read
  cases given with
  | some ids =>
    obtain ⟨notEmpty, distinct⟩ := strings_some readGiven
    have paired := forall₂_of_mapM_eq_ok resolved
    refine ⟨fun empty => ?_, nodup_of_forall₂ ?_ paired distinct, fun id member => ?_⟩
    · rw [empty] at paired
      cases paired
      exact notEmpty rfl
    · intro first second result firstNamed secondNamed
      rw [← (namedConnection_eq_ok firstNamed).1, ← (namedConnection_eq_ok secondNamed).1]
    · obtain ⟨input, _, named⟩ := exists_input_of_forall₂ paired member
      obtain ⟨same, connection, found⟩ := namedConnection_eq_ok named
      exact ⟨connection, same ▸ found⟩
  | none =>
    cases declared with
    | none => cases resolved
    | some networks =>
      obtain ⟨notEmpty, distinct⟩ := declaredNetworks_some declares
      have paired := forall₂_of_mapM_eq_ok resolved
      refine ⟨fun empty => ?_, nodup_of_forall₂ ?_ paired distinct, fun id member => ?_⟩
      · rw [empty] at paired
        cases paired
        exact notEmpty rfl
      · intro first second result firstSingle secondSingle
        obtain ⟨connection, found, kind⟩ := singleConnection_eq_ok firstSingle
        obtain ⟨other, foundOther, kindOther⟩ := singleConnection_eq_ok secondSingle
        rw [found] at foundOther
        cases foundOther
        exact Network.asStr_injective (kind.symm.trans kindOther)
      · obtain ⟨network, _, single⟩ := exists_input_of_forall₂ paired member
        obtain ⟨connection, found, _⟩ := singleConnection_eq_ok single
        exact ⟨connection, found⟩

variable {id : String} {connection : Connection}

theorem networkOf_eq_ok {network : Network} (found : registry.get id = some connection)
    (read : networkOf registry id = .ok network) :
    Network.parse connection.kind = some network := by
  unfold networkOf networkOf.parseKind at read
  rw [found] at read
  simp only [Option.map_some, Option.getD_some] at read
  split at read
  · rename_i other parsed
    cases read
    exact parsed
  · cases read

theorem mem_ascending {network : Network} :
    network ∈ ascending networks ↔ network ∈ networks := by
  unfold ascending
  rw [mem_sortBy, List.mem_dedup]

theorem parseScope_made (read : parseScope body registry = .ok (connections, networks)) :
    ∃ declared unordered kindsRead, declaredNetworks body = .ok declared ∧
      scopeConnections body registry declared = .ok unordered ∧
      (sortTexts unordered).mapM (networkOf registry) = .ok kindsRead ∧
      connections = sortTexts unordered ∧ networks = ascending kindsRead := by
  unfold parseScope at read
  obtain ⟨declared, declares, afterDeclared⟩ := bind_eq_ok.mp read
  obtain ⟨unordered, readUnordered, afterScope⟩ := bind_eq_ok.mp afterDeclared
  obtain ⟨kindsRead, mapped, compared⟩ := bind_eq_ok.mp afterScope
  refine ⟨declared, unordered, kindsRead, declares, readUnordered, mapped, ?_⟩
  cases declared with
  | none =>
    cases compared
    exact ⟨rfl, rfl⟩
  | some named =>
    simp only at compared
    split at compared
    · cases compared
    · cases compared
      exact ⟨rfl, rfl⟩

theorem parseScope_eq_ok (read : parseScope body registry = .ok (connections, networks)) :
    connections ≠ [] ∧ connections.Nodup ∧
      (connections.Pairwise fun first second => textLe first second = true) ∧
      ∀ id ∈ connections, ∃ connection network, registry.get id = some connection ∧
        Network.parse connection.kind = some network ∧ network ∈ networks := by
  obtain ⟨declared, unordered, kindsRead, declares, readUnordered, mapped, rfl, rfl⟩ :=
    parseScope_made read
  obtain ⟨notEmpty, distinct, known⟩ := scopeConnections_eq_ok declares readUnordered
  have permuted := perm_sortTexts unordered
  refine ⟨fun empty => notEmpty ?_, permuted.nodup_iff.mpr distinct,
    pairwise_sortTexts unordered, fun id member => ?_⟩
  · rw [empty] at permuted
    exact permuted.nil_eq.symm
  · obtain ⟨connection, found⟩ := known id (permuted.mem_iff.mp member)
    obtain ⟨network, networkIn, kindRead⟩ :=
      exists_result_of_forall₂ (forall₂_of_mapM_eq_ok mapped) member
    exact ⟨connection, network, found, networkOf_eq_ok found kindRead, mem_ascending.mpr networkIn⟩

theorem exists_connection_of_parseScope
    (read : parseScope body registry = .ok (connections, networks)) {network : Network}
    (member : network ∈ networks) :
    ∃ id ∈ connections, networkOf registry id = .ok network := by
  obtain ⟨_, _, _, -, -, mapped, rfl, rfl⟩ := parseScope_made read
  exact exists_input_of_forall₂ (forall₂_of_mapM_eq_ok mapped) (mem_ascending.mp member)

theorem scopeAgrees_eq_ok {subject : Subject} (agreed : scopeAgrees subject networks = .ok ())
    (aboutNetwork : subject.kind = .network) :
    ∃ network, network.asStr = subject.id ∧ networks = [network] := by
  unfold scopeAgrees at agreed
  rw [aboutNetwork] at agreed
  obtain ⟨network, parsed, compared⟩ := bind_eq_ok.mp agreed
  refine ⟨network, Network.asStr_of_parse (parseNetwork_eq_ok parsed), ?_⟩
  by_contra differ
  rw [if_pos differ] at compared
  cases compared

theorem parseSubjectId_eq_ok (read : parseSubjectId body = .ok id) :
    id ≠ "" := by
  unfold parseSubjectId at read
  obtain ⟨value, -, checked⟩ := bind_eq_ok.mp read
  split at checked
  · cases checked
  · rename_i sound
    cases checked
    exact fun empty => sound (Or.inl empty)

variable {decision : Decision}

theorem Decision.parse_wellScoped (accepted : Decision.parse body registry = .ok decision) :
    decision.WellScoped registry := by
  unfold Decision.parse at accepted
  obtain ⟨kind, -, accepted⟩ := bind_eq_ok.mp accepted
  obtain ⟨id, readId, accepted⟩ := bind_eq_ok.mp accepted
  obtain ⟨newState, -, accepted⟩ := bind_eq_ok.mp accepted
  obtain ⟨⟨connections, networks⟩, scope, accepted⟩ := bind_eq_ok.mp accepted
  obtain ⟨⟨⟩, agreed, accepted⟩ := bind_eq_ok.mp accepted
  obtain ⟨reason, -, finished⟩ := bind_eq_ok.mp accepted
  cases finished
  obtain ⟨notEmpty, distinct, ordered, known⟩ := parseScope_eq_ok scope
  exact ⟨parseSubjectId_eq_ok readId, notEmpty, distinct, ordered, known,
    scopeAgrees_eq_ok agreed⟩

theorem Decision.exists_connection_of_parse (accepted : Decision.parse body registry = .ok decision)
    {network : Network} (member : network ∈ decision.networks) :
    ∃ id ∈ decision.connections, networkOf registry id = .ok network := by
  unfold Decision.parse at accepted
  iterate 3 obtain ⟨_, -, accepted⟩ := bind_eq_ok.mp accepted
  obtain ⟨⟨connections, networks⟩, scope, accepted⟩ := bind_eq_ok.mp accepted
  iterate 2 obtain ⟨_, -, accepted⟩ := bind_eq_ok.mp accepted
  cases accepted
  exact exists_connection_of_parseScope scope member

theorem Decision.WellScoped.kind_eq (sound : decision.WellScoped registry)
    (aboutNetwork : decision.subject.kind = .network) (member : id ∈ decision.connections)
    (found : registry.get id = some connection) : connection.kind = decision.subject.id := by
  obtain ⟨only, isSubject, single⟩ := sound.agrees aboutNetwork
  obtain ⟨other, network, foundOther, parsed, among⟩ := sound.registered id member
  rw [found] at foundOther
  cases foundOther
  rw [single] at among
  rw [← isSubject, ← List.mem_singleton.mp among, Network.asStr_of_parse parsed]

structure Accepted (registry : Registry) where
  decision : Decision
  wellScoped : decision.WellScoped registry

/-- The write API's reading, with what it promises. -/
def accept (registry : Registry) (body : Json) : Except Invalid (Accepted registry) :=
  match accepted : Decision.parse body registry with
  | .ok decision => .ok ⟨decision, Decision.parse_wellScoped accepted⟩
  | .error invalid => .error invalid

end Twalk.Consent
