/-
This file models the consent gate of the persona SDK, `sdk/python/twalk_sdk/consent.py`: the
label a live message is let through on, and the grant that reaches back to a message which was
refused for it. A grant is read off the owner's decision event, with the perimeter of its
scope. That scope carries the connections and, beside them, their kinds, and the reader takes
either; a cache that holds the same decision takes the connections alone.
-/

import Twalk.ConsentWire

namespace Twalk.Persona

/-! ### What is read of an event -/

def consentChangedType : String := "fr.linagora.twalk.consent.state.changed.v1"

def messageReceivedType : String := "fr.linagora.twalk.inbound.message.received.v1"

/-- The bus absorbs a second publication of an id for a day. -/
def duplicateWindowSeconds : Nat := 86400

def consentOf (event : Json) : Option String := event.textAt ["consent"]

/-- Whether a persona may process an event at all. -/
def isGranted (event : Json) : Bool := consentOf event == some "granted"

/-- Whether an event may wake a persona. -/
def triggersAPersona (event : Json) : Bool := event.textAt ["type"] == some messageReceivedType

/-! ### A grant -/

/-- A grant, as a persona reads it off the bus. Its instant is counted in microseconds. -/
structure Grant where
  contact : String
  connections : List String
  networks : List String
  occurredAt : Int
deriving DecidableEq, Repr

def Grant.covers (grant : Grant) (event : Json) : Bool :=
  if grant.connections.isEmpty && grant.networks.isEmpty then false
  else
    (event.textAt ["connection"]).any grant.connections.contains ||
      (event.textAt ["network"]).any grant.networks.contains

/-- The texts of a scope's list that are not empty. -/
def names (value : Option Json) : List String :=
  (((value.bind Json.asArray).getD []).filterMap Json.asStr).filter fun name => name != ""

section Instants

variable (instant : String → Option Int)

def grantIn (event : Json) : Option Grant :=
  if event.textAt ["type"] ≠ some consentChangedType then none
  else if event.textAt ["data", "subject", "type"] ≠ some "contact" then none
  else
    match (event.textAt ["data", "subject", "id"]).filter fun id => id != "" with
    | none => none
    | some contact =>
      if event.textAt ["data", "new_state"] ≠ some "granted" then none
      else
        ((event.textAt ["data", "occurred_at"]).bind instant).map fun occurredAt => {
          contact := contact
          connections := names (event.pointer ["data", "scope", "connections"])
          networks := names (event.pointer ["data", "scope", "networks"])
          occurredAt := occurredAt }

/-! ### How far a grant reaches -/

inductive NoReach where
  | negative (seconds : Int)
  | beyondTheWindow (seconds : Int)
deriving DecidableEq, Repr

def NoReach.text : NoReach → String
  | .negative seconds =>
    "a grant's reach cannot be negative; zero is how an operator says a grant reaches nothing " ++
      "at all (got " ++ toString seconds ++ ")"
  | .beyondTheWindow seconds =>
    "a grant's reach must stay within the bus's duplicate window of " ++
      toString duplicateWindowSeconds ++ " seconds (ADR 0037): beyond it the same message can " ++
      "be answered twice, because the suggestion's deterministic id is no longer deduplicated " ++
      "(got " ++ toString seconds ++ ")"

structure GrantReach where
  seconds : Nat
  within : seconds ≤ duplicateWindowSeconds
deriving DecidableEq, Repr

/-- `__post_init__`: the reach, if it is one. -/
def GrantReach.new (seconds : Int) : Except NoReach GrantReach :=
  if seconds < 0 then .error (.negative seconds)
  else if within : seconds.toNat ≤ duplicateWindowSeconds then .ok ⟨seconds.toNat, within⟩
  else .error (.beyondTheWindow seconds)

def GrantReach.span (reach : GrantReach) : Int := reach.seconds * 1000000

def GrantReach.reaches (reach : GrantReach) (event : Json) (grant : Grant) : Bool :=
  consentOf event == some "pending" && event.textAt ["subject"] == some grant.contact &&
    grant.covers event && ((event.textAt ["time"]).bind instant).any fun arrivedAt =>
      decide (0 ≤ grant.occurredAt - arrivedAt) && decide (grant.occurredAt - arrivedAt ≤ reach.span)

end Instants

/-- Whether a grant is recent enough to be acted on at all. -/
def GrantReach.isFresh (reach : GrantReach) (grant : Grant) (now : Int) : Bool :=
  decide (0 ≤ now - grant.occurredAt) && decide (now - grant.occurredAt ≤ reach.span)

/-! ### What a grant covers -/

theorem covers_iff {grant : Grant} {event : Json} :
    grant.covers event = true ↔
      (∃ connection ∈ grant.connections, event.textAt ["connection"] = some connection) ∨
        ∃ network ∈ grant.networks, event.textAt ["network"] = some network := by
  have carried : ∀ (path : List String) (among : List String),
      (event.textAt path).any among.contains = true ↔
        ∃ name ∈ among, event.textAt path = some name := by
    intro path among
    cases event.textAt path with
    | none => simp
    | some name => simp
  have whole : grant.covers event = true ↔
      (event.textAt ["connection"]).any grant.connections.contains = true ∨
        (event.textAt ["network"]).any grant.networks.contains = true := by
    unfold Grant.covers
    split
    · rename_i isEmpty
      rw [Bool.and_eq_true, List.isEmpty_iff, List.isEmpty_iff] at isEmpty
      rw [isEmpty.1, isEmpty.2]
      cases event.textAt ["connection"] <;> cases event.textAt ["network"] <;> simp
    · exact Bool.or_eq_true_iff
  rw [whole, carried, carried]

/-! ### The grant of a rendered decision -/

section Rendered

open Consent Cache ConsentCache

def grantOf (recorded : Recorded) (occurredAt : Int) : Grant where
  contact := recorded.decision.subject.id
  connections := recorded.decision.connections
  networks := recorded.decision.networks.map Network.asStr
  occurredAt := occurredAt

theorem names_map_string {values : List String} (named : ∀ value ∈ values, value ≠ "") :
    names (some (.array (values.map .string))) = values := by
  unfold names
  rw [Option.bind_some, Json.asArray_array, Option.getD_some, filterMap_asStr]
  exact List.filter_eq_self.mpr fun value member => bne_iff_ne.mpr (named value member)

theorem asStr_ne_empty (network : Network) : network.asStr ≠ "" := by
  cases network <;> decide

section Envelope

variable (recorded : Recorded) (domain producedAt : String)

theorem textAt_envelope_data (path : List String) :
    (recorded.envelope domain producedAt).textAt ("data" :: path) = recorded.data.textAt path := by
  unfold Json.textAt
  simp [Recorded.envelope, Json.get?, Json.lookup]

theorem pointer_envelope_data (path : List String) :
    (recorded.envelope domain producedAt).pointer ("data" :: path) = recorded.data.pointer path := by
  simp [Recorded.envelope, Json.get?, Json.lookup]

theorem grantIn_envelope {instant : String → Option Int} {occurredAt : Int}
    (aboutContact : recorded.decision.subject.kind = .contact)
    (granted : recorded.decision.newState = .granted) (named : recorded.decision.subject.id ≠ "")
    (connections : ∀ id ∈ recorded.decision.connections, id ≠ "")
    (reads : instant recorded.occurredAt = some occurredAt) :
    grantIn instant (recorded.envelope domain producedAt) =
      some (grantOf recorded occurredAt) := by
  have isChange : (recorded.envelope domain producedAt).textAt ["type"] =
      some consentChangedType := by
    simp [Recorded.envelope, Json.textAt, Json.get?, Json.lookup, consentChangedType]
  have isContact : recorded.data.textAt ["subject", "type"] = some "contact" := by
    simp [Recorded.data, Json.textAt, Json.get?, Json.lookup, aboutContact, SubjectType.asStr]
  have isNamed : recorded.data.textAt ["subject", "id"] = some recorded.decision.subject.id := by
    simp [Recorded.data, Json.textAt, Json.get?, Json.lookup]
  have isGranted : recorded.data.textAt ["new_state"] = some "granted" := by
    simp [Recorded.data, Json.textAt, Json.get?, Json.lookup, granted, State.asStr]
  have isDated : recorded.data.textAt ["occurred_at"] = some recorded.occurredAt := by
    simp [Recorded.data, Json.textAt, Json.get?, Json.lookup]
  have readConnections : recorded.data.pointer ["scope", "connections"] =
      some (.array (recorded.decision.connections.map .string)) := by
    simp [Recorded.data, Json.get?, Json.lookup]
  have readNetworks : recorded.data.pointer ["scope", "networks"] =
      some (.array ((recorded.decision.networks.map Network.asStr).map .string)) := by
    simp [Recorded.data, Json.get?, Json.lookup, Function.comp_def]
  have networks : ∀ name ∈ recorded.decision.networks.map Network.asStr, name ≠ "" := by
    intro name member
    obtain ⟨network, -, rfl⟩ := List.mem_map.mp member
    exact asStr_ne_empty network
  unfold grantIn
  rw [textAt_envelope_data, textAt_envelope_data, textAt_envelope_data, textAt_envelope_data,
    pointer_envelope_data, pointer_envelope_data, isChange, isContact, isNamed, isGranted, isDated,
    readConnections, readNetworks, names_map_string connections, names_map_string networks,
    Option.filter_some, if_pos (bne_iff_ne.mpr named), Option.bind_some, reads]
  rfl

/-! ### A cache that holds one decision -/

def holdingOnly (event : Json) : ConsentCache :=
  (ConsentCache.forPeopleOnly none []).consume (some event)

theorem entriesOf_envelope (aboutContact : recorded.decision.subject.kind = .contact)
    (granted : recorded.decision.newState = .granted)
    (covering : recorded.decision.connections ≠ [])
    (named : ∀ id ∈ recorded.decision.connections, id ≠ "") :
    entriesOf (some (recorded.envelope domain producedAt)) =
      recorded.decision.connections.map fun connection =>
        ⟨.contact recorded.decision.subject.id, connection, .granted⟩ := by
  have isChange : readChange recorded =
      .ok ⟨.contact recorded.decision.subject.id, .granted, recorded.decision.connections⟩ := by
    unfold readChange consentSubject
    rw [aboutContact, granted]
    rfl
  unfold entriesOf changeOf
  rw [Option.bind_some, parse_envelope covering named, isChange]
  rfl

theorem state_holdingOnly (aboutContact : recorded.decision.subject.kind = .contact)
    (granted : recorded.decision.newState = .granted)
    (covering : recorded.decision.connections ≠ [])
    (named : ∀ id ∈ recorded.decision.connections, id ≠ "") (connection : String) :
    (holdingOnly (recorded.envelope domain producedAt)).state recorded.decision.subject.id
        connection = .granted ↔
      connection ∈ recorded.decision.connections := by
  rw [state_eq_answerOf, holdingOnly, states_consume,
    entriesOf_envelope recorded domain producedAt aboutContact granted covering named]
  unfold answerOf
  rw [readAt_foldl_take, readAt_foldl_take]
  have noDefault : latest (ConsentCache.sets (ConsentCache.forPeopleOnly none [])
      (.default connection)) (recorded.decision.connections.map fun connection =>
        (⟨.contact recorded.decision.subject.id, connection, .granted⟩ : ConsentEntry)) = none := by
    rw [latest_eq_none_iff]
    intro entry isEntry
    obtain ⟨_, -, rfl⟩ := List.mem_map.mp isEntry
    rfl
  have own : ∀ on, ConsentCache.sets (ConsentCache.forPeopleOnly none [])
      (.own recorded.decision.subject.id connection)
        ⟨.contact recorded.decision.subject.id, on, .granted⟩ = (on == connection) := by
    intro on
    simp [ConsentCache.sets, setsContact, notAPerson, forPeopleOnly]
  rw [noDefault]
  constructor
  · intro isGranted
    by_contra other
    rw [latest_eq_none_iff.mpr] at isGranted
    · exact absurd (show Cache.Consent.pending = .granted from isGranted) (by decide)
    · intro entry isEntry
      obtain ⟨on, isOn, rfl⟩ := List.mem_map.mp isEntry
      rw [own]
      exact beq_false_of_ne fun same => other (same ▸ isOn)
  · intro member
    have isEntry : (⟨.contact recorded.decision.subject.id, connection, .granted⟩ : ConsentEntry) ∈
        recorded.decision.connections.map fun connection =>
          ⟨.contact recorded.decision.subject.id, connection, .granted⟩ :=
      List.mem_map.mpr ⟨connection, member, rfl⟩
    obtain ⟨last, isLast⟩ := exists_latest isEntry
      ((own connection).trans (beq_self_eq_true connection))
    obtain ⟨_, -, rfl⟩ := List.mem_map.mp (latest_mem isLast)
    rw [isLast]
    rfl

end Envelope

/-! ### Which connections a grant reaches -/

/-- A decision's event reaches a connection's event exactly when the connection is one of its own,
which is when a cache that holds it alone labels the contact granted there. -/
def ReachesItsOwn (instant : String → Option Int) (decision : Decision) (decisionEvent event : Json)
    (connection : String) : Prop :=
  ∃ grant, grantIn instant decisionEvent = some grant ∧
    (grant.covers event = true ↔ connection ∈ decision.connections) ∧
    (grant.covers event = true ↔
      (holdingOnly decisionEvent).state decision.subject.id connection = .granted)

/-- A grant reaches exactly the connections it was made on, if and only if the event's connection
is one of them or the event's network is the kind of none of them. A decision that names no
connections covers the networks it names, and no other does so by design. -/
theorem reachesItsOwn_iff {instant : String → Option Int} {registry : Registry} (accepted : Accepted registry)
    (aboutContact : accepted.decision.subject.kind = .contact)
    (granted : accepted.decision.newState = .granted) (oldState : OldState)
    (occurredAt actor domain producedAt : String) {moment : Int}
    (reads : instant occurredAt = some moment) {event : Json} {connection : String}
    (carries : event.textAt ["connection"] = some connection) :
    (ReachesItsOwn instant accepted.decision
        ((⟨accepted.decision, oldState, occurredAt, actor⟩ : Recorded).envelope domain producedAt)
        event connection ↔
      (connection ∈ accepted.decision.connections ∨
        ∀ network ∈ accepted.decision.networks,
          event.textAt ["network"] ≠ some network.asStr)) ∧
      ∀ decisionEvent grant, grantIn instant decisionEvent = some grant → grant.connections = [] →
        (grant.covers event = true ↔
          ∃ network ∈ grant.networks, event.textAt ["network"] = some network) := by
  obtain ⟨decision, sound⟩ := accepted
  have named : ∀ id ∈ decision.connections, id ≠ "" := by
    intro id member
    obtain ⟨_, _, found, -, -⟩ := sound.registered id member
    exact Registry.id_ne_empty_of_get found
  have isGrant := grantIn_envelope ⟨decision, oldState, occurredAt, actor⟩ domain producedAt
    aboutContact granted sound.named named reads
  have isState := state_holdingOnly ⟨decision, oldState, occurredAt, actor⟩ domain producedAt
    aboutContact granted sound.covering named connection
  have covers : (grantOf ⟨decision, oldState, occurredAt, actor⟩ moment).covers event = true ↔
      connection ∈ decision.connections ∨
        ∃ network ∈ decision.networks, event.textAt ["network"] = some network.asStr := by
    rw [covers_iff, carries]
    simp [grantOf]
  refine ⟨?_, fun decisionEvent grant _ unnamed => ?_⟩
  · constructor
    · rintro ⟨grant, isOther, reaches, -⟩
      cases isGrant.symm.trans isOther
      by_contra neither
      obtain ⟨elsewhere, among⟩ := not_or.mp neither
      refine elsewhere (reaches.mp (covers.mpr (.inr ?_)))
      by_contra none
      exact among fun network member same => none ⟨network, member, same⟩
    · intro own
      have same : (grantOf ⟨decision, oldState, occurredAt, actor⟩ moment).covers event = true ↔
          connection ∈ decision.connections := by
        refine covers.trans ⟨fun either => ?_, .inl⟩
        rcases either with member | ⟨network, member, isNetwork⟩
        · exact member
        · exact own.elim id fun none => absurd isNetwork (none network member)
      exact ⟨_, isGrant, same, same.trans isState.symm⟩
  · rw [covers_iff, unnamed]
    simp

/-! ### Two accounts of one kind -/

/-- Two WhatsApp accounts, of which the contact is granted on the first. -/
def twoAccounts : Registry where
  connections := [⟨"wa1", "whatsapp", "", none, none⟩, ⟨"wa2", "whatsapp", "", none, none⟩]
  kindsKnown := by decide
  idsValid := by decide
  idsDistinct := by decide

def grantsFirst : Accepted twoAccounts where
  decision := ⟨⟨.contact, "@alice:example.com"⟩, .granted, ["wa1"], [.whatsapp], none⟩
  wellScoped := by
    refine ⟨by decide, by decide, by decide, List.pairwise_singleton _ _, ?_,
      fun isNetwork => nomatch isNetwork⟩
    intro id member
    rw [List.mem_singleton.mp member]
    exact ⟨⟨"wa1", "whatsapp", "", none, none⟩, .whatsapp, rfl, rfl, List.mem_singleton_self _⟩

def grantEvent : Json :=
  (⟨grantsFirst.decision, .unset, "2026-09-24T10:00:00.000Z",
    "@owner:example.com"⟩ : Recorded).envelope "example.com" "2026-09-24T10:00:00.000Z"

def waitingOn (connection : String) : Json := .object [
  ("type", .string messageReceivedType), ("subject", .string "@alice:example.com"),
  ("network", .string "whatsapp"), ("connection", .string connection),
  ("consent", .string "pending"), ("time", .string "2026-09-24T09:59:21Z")]

def readsTen (text : String) : Option Int :=
  if text = "2026-09-24T10:00:00.000Z" then some 36000000000 else none

/-- The grant on the first account reaches a message on the second. -/
theorem reaches_the_other_account :
    ¬ ReachesItsOwn readsTen grantsFirst.decision grantEvent (waitingOn "wa2") "wa2" := by
  rintro ⟨grant, isGrant, reaches, -⟩
  have isFirst : grantIn readsTen grantEvent = some (grantOf ⟨grantsFirst.decision,
      .unset, "2026-09-24T10:00:00.000Z", "@owner:example.com"⟩ 36000000000) := by
    refine grantIn_envelope _ _ _ rfl rfl (by decide) (by decide) ?_
    exact if_pos rfl
  cases isFirst.symm.trans isGrant
  have covers : Grant.covers (grantOf ⟨grantsFirst.decision, .unset,
      "2026-09-24T10:00:00.000Z", "@owner:example.com"⟩ 36000000000) (waitingOn "wa2") = true :=
    covers_iff.mpr (.inr ⟨"whatsapp", by decide, rfl⟩)
  exact absurd (reaches.mp covers) (by decide)

/-- On the first account it reaches what it should. -/
theorem reaches_its_account :
    ReachesItsOwn readsTen grantsFirst.decision grantEvent (waitingOn "wa1") "wa1" :=
  (reachesItsOwn_iff grantsFirst rfl rfl (.unset) "2026-09-24T10:00:00.000Z"
    "@owner:example.com" "example.com" "2026-09-24T10:00:00.000Z" (if_pos rfl) rfl).1.mpr
    (.inl (List.mem_singleton_self _))

end Rendered

end Twalk.Persona
