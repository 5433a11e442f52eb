/-
This file follows the contacts that wait for a decision through every run of the consent store of
`companion-gateway/src/store.rs`: decisions that are recorded and published, sightings, the
connections of a configuration, and the store opened again for another owner. Whoever was observed
and is covered by no decision waits, as long as nobody was observed on a connection that is of no
network: one such sighting, and the list cannot be read at all.
-/

import Twalk.ConsentShown
import Twalk.LastDecision

namespace Twalk.Store

open Consent Screen

/-! ### Sightings -/

def upsertSeen (rows : List SeenRow) (contact connection instant : String) : List SeenRow :=
  if (contact, connection) ∈ rows.map fun seen => (seen.contact, seen.connection) then
    rows.map fun seen =>
      if (seen.contact, seen.connection) = (contact, connection) then
        { seen with
          firstSeen := if textLe seen.firstSeen instant then seen.firstSeen else instant
          lastSeen := if textLe instant seen.lastSeen then seen.lastSeen else instant }
      else seen
  else rows ++ [⟨contact, connection, instant, instant⟩]

theorem map_pair_upsertSeen (rows : List SeenRow) (contact connection instant : String) :
    (upsertSeen rows contact connection instant).map (fun seen => (seen.contact, seen.connection)) =
      if (contact, connection) ∈ rows.map (fun seen => (seen.contact, seen.connection)) then
        rows.map fun seen => (seen.contact, seen.connection)
      else rows.map (fun seen => (seen.contact, seen.connection)) ++ [(contact, connection)] := by
  unfold upsertSeen
  split
  · rw [List.map_map]
    refine List.map_congr_left fun seen _ => ?_
    simp only [Function.comp_apply]
    split <;> rfl
  · rw [List.map_append]
    rfl

theorem mem_pair_upsertSeen {rows : List SeenRow} {contact connection instant : String}
    {pair : String × String} :
    pair ∈ (upsertSeen rows contact connection instant).map
        (fun seen => (seen.contact, seen.connection)) ↔
      pair ∈ rows.map (fun seen => (seen.contact, seen.connection)) ∨
        pair = (contact, connection) := by
  rw [map_pair_upsertSeen]
  split
  · rename_i known
    exact ⟨.inl, fun either => either.elim id fun same => same ▸ known⟩
  · rw [List.mem_append, List.mem_singleton]

theorem nodup_upsertSeen {rows : List SeenRow}
    (once : (rows.map fun seen => (seen.contact, seen.connection)).Nodup)
    (contact connection instant : String) :
    ((upsertSeen rows contact connection instant).map
      fun seen => (seen.contact, seen.connection)).Nodup := by
  rw [map_pair_upsertSeen]
  split
  · exact once
  · rename_i unknown
    rw [← List.concat_eq_append]
    exact List.Nodup.concat unknown once

structure Sighting where
  contact : String
  connection : String
  instant : String
deriving DecidableEq, Repr

namespace ConsentStore

def observeContact (store : ConsentStore) (sighting : Sighting)
    (registered : sighting.connection ∈ store.connections.map ConnectionRow.id) : ConsentStore :=
  { store with
    contactSeen :=
      upsertSeen store.contactSeen sighting.contact sighting.connection sighting.instant
    seenOnce := nodup_upsertSeen store.seenOnce _ _ _
    seenRegistered := by
      intro seen member
      have pair := mem_pair_upsertSeen.mp (List.mem_map.mpr ⟨seen, member, rfl⟩)
      rcases pair with before | same
      · obtain ⟨other, isOther, isPair⟩ := List.mem_map.mp before
        rw [← (Prod.mk.inj isPair).2]
        exact store.seenRegistered other isOther
      · rw [(Prod.mk.inj same).2]
        exact registered }

def observeEach : ConsentStore → List Sighting → Option ConsentStore
  | store, [] => some store
  | store, sighting :: rest =>
    if registered : sighting.connection ∈ store.connections.map ConnectionRow.id then
      observeEach (store.observeContact sighting registered) rest
    else none

def observeContacts (store : ConsentStore) (sightings : List Sighting) : ConsentStore :=
  (store.observeEach sightings).getD store

end ConsentStore

/-! ### Runs of the store -/

/-- What becomes of a store: a decision is recorded, a row is marked as published, a batch of
sightings is written, the connections of a configuration are, and the store is opened for an
owner. -/
inductive Change where
  | records (call : RecordCall)
  | marks (sequence : Nat) (publishedAt : String) (streamSequence : Nat)
  | observes (sightings : List Sighting)
  | configures (connections : List Connection)
  | opens (owner : Owner)

def ConsentStore.changed (store : ConsentStore) : Change → ConsentStore
  | .records call => call.after store
  | .marks sequence publishedAt streamSequence =>
    store.markPublished sequence publishedAt streamSequence
  | .observes sightings => store.observeContacts sightings
  | .configures connections => (store.recordConnections connections).1
  | .opens owner => { store with owner := owner }

/-! ### The list -/

def IsListed (store : ConsentStore) (contact connection : String) : Prop :=
  ∃ contacts, store.pendingContacts = .ok contacts ∧
    ∃ waits ∈ contacts, waits.contact = contact ∧ waits.connection = connection

/-- The list is exactly the undecided contacts: it can be read, it is as long as its count says,
and somebody is in it exactly when they were observed, are not the owner and no decision is in
force about them. -/
structure ListsUndecided (store : ConsentStore) : Prop where
  answered : ∃ contacts, store.pendingContacts = .ok contacts ∧
    store.pendingContactCount = contacts.length
  exactly : ∀ contact connection network, store.kindOf connection = some network.asStr →
    (IsListed store contact connection ↔ Observed store contact connection ∧
      store.owner.isOwner contact = false ∧
        (store.effective contact connection network).decidedBy = none)

/-- What a decision does to the list: about the contact or the kind of a connection of its scope,
it takes the contact off there, and on any other connection it leaves the list alone. -/
structure MovesTheList (store : ConsentStore) : Prop where
  removes : ∀ call outcome committed, RecordCall.perform store call = .ok (outcome, committed) →
    committed.replayed = false → ∀ connection ∈ call.decision.connections, ∀ contact kind,
      store.kindOf connection = some kind →
      call.decision.subject = ⟨.contact, contact⟩ ∨ call.decision.subject = ⟨.network, kind⟩ →
        ¬IsListed outcome contact connection
  leaves : ∀ call outcome committed, RecordCall.perform store call = .ok (outcome, committed) →
    ∀ contact connection, connection ∉ call.decision.connections →
      (IsListed outcome contact connection ↔ IsListed store contact connection)

def Placed (store : ConsentStore) : Prop :=
  ∀ seen ∈ store.contactSeen, ∀ kind, store.kindOf seen.connection = some kind →
    store.owner.isOwner seen.contact = false → store.isPending seen kind = true →
      ∃ network : Network, network.asStr = kind

/-- A change puts nobody on a connection of no network: a sighting is on one of a network, and a
connection that is configured as of none has nobody observed on it. -/
def Discerning (store : ConsentStore) : Change → Prop
  | .observes sightings => ∀ sighting ∈ sightings, ∃ network : Network,
      store.kindOf sighting.connection = some network.asStr
  | .configures connections => ∀ connection ∈ connections,
      (∃ network : Network, network.asStr = connection.kind) ∨
        ∀ contact, ¬Observed store contact connection.id
  | _ => True

/-! ### What is read -/

section Reads

variable {store : ConsentStore}

variable {contact connection : String}

theorem decidedBy_eq_none_iff {network : Network} (person : store.owner.isOwner contact = false) :
    (store.effective contact connection network).decidedBy = none ↔
      store.stateAt ⟨.contact, contact⟩ connection = none ∧
        store.stateAt ⟨.network, network.asStr⟩ connection = none := by
  unfold ConsentStore.effective
  rw [person, if_neg Bool.false_ne_true]
  unfold Effective.resolve
  cases store.stateAt ⟨.contact, contact⟩ connection with
  | some state => simp
  | none =>
    cases store.stateAt ⟨.network, network.asStr⟩ connection with
    | some state => simp
    | none => simp

variable {pending : SeenRow × String}

theorem mem_pendingContact :
    pending ∈ store.pendingContact ↔ pending.1 ∈ store.contactSeen ∧
      store.kindOf pending.1.connection = some pending.2 ∧
        store.isPending pending.1 pending.2 = true := by
  unfold ConsentStore.pendingContact
  rw [List.mem_filterMap]
  constructor
  · rintro ⟨seen, isSeen, found⟩
    obtain ⟨kind, isKind, found⟩ := Option.bind_eq_some_iff.mp found
    obtain ⟨undecided, found⟩ := Option.ite_none_right_eq_some.mp found
    cases found
    exact ⟨isSeen, isKind, undecided⟩
  · rintro ⟨isSeen, isKind, undecided⟩
    refine ⟨pending.1, isSeen, ?_⟩
    rw [isKind, Option.bind_some, if_pos undecided]

theorem readPending_eq_ok {network : Network} (ofKind : network.asStr = pending.2) :
    ∃ waits, ConsentStore.readPending pending = .ok waits := by
  unfold ConsentStore.readPending
  rw [← ofKind, Network.parse_asStr]
  exact ⟨_, rfl⟩

theorem exists_pendingContacts_iff :
    (∃ contacts, store.pendingContacts = .ok contacts) ↔ Placed store := by
  constructor
  · rintro ⟨contacts, read⟩ seen isSeen kind isKind person undecided
    have inView : (seen, kind) ∈ store.pendingContact :=
      mem_pendingContact.mpr ⟨isSeen, isKind, undecided⟩
    obtain ⟨waits, -, isRead⟩ := exists_result_of_forall₂ (forall₂_of_mapM_eq_ok read)
      (mem_sortBy.mpr (List.mem_filter.mpr ⟨inView, pendingServedTo_iff.mpr person⟩))
    unfold ConsentStore.readPending at isRead
    split at isRead
    · rename_i network isNetwork
      exact ⟨network, Network.asStr_of_parse isNetwork⟩
    · cases isRead
  · intro placed
    refine exists_mapM_eq_ok fun pending member => ?_
    obtain ⟨inView, isServed⟩ := List.mem_filter.mp (mem_sortBy.mp member)
    obtain ⟨isSeen, isKind, undecided⟩ := mem_pendingContact.mp inView
    obtain ⟨network, ofKind⟩ :=
      placed pending.1 isSeen pending.2 isKind (pendingServedTo_iff.mp isServed) undecided
    exact readPending_eq_ok ofKind

theorem length_of_pendingContacts {contacts : List SeenContact}
    (read : store.pendingContacts = .ok contacts) :
    store.pendingContactCount = contacts.length := by
  have paired := (forall₂_of_mapM_eq_ok read).length_eq
  unfold ConsentStore.pendingInOrder sortBy at paired
  rw [← paired, (List.perm_insertionSort _ _).length_eq]
  rfl

/-- The list can be read exactly where whoever waits, waits on a connection of a network; and then
it is exactly the undecided contacts. -/
theorem listsUndecided_iff : ListsUndecided store ↔ Placed store := by
  constructor
  · intro lists
    obtain ⟨contacts, read, -⟩ := lists.answered
    exact exists_pendingContacts_iff.mp ⟨contacts, read⟩
  · intro placed
    obtain ⟨contacts, read⟩ := exists_pendingContacts_iff.mpr placed
    refine ⟨⟨contacts, read, length_of_pendingContacts read⟩,
      fun contact connection network isKind => ⟨?_, ?_⟩⟩
    · rintro ⟨others, sameRead, waits, isWaits, rfl, rfl⟩
      have is := waits_of_mem sameRead isWaits
      have sameNetwork : waits.network = network :=
        Network.asStr_injective (Option.some.inj (is.kind.symm.trans isKind))
      exact ⟨is.observed, is.person, (decidedBy_eq_none_iff is.person).mpr
        ⟨is.noOwn, sameNetwork ▸ is.noDefault⟩⟩
    · rintro ⟨observed, person, undecided⟩
      obtain ⟨noOwn, noDefault⟩ := (decidedBy_eq_none_iff person).mp undecided
      exact ⟨contacts, read, exists_waits read observed person isKind noOwn noDefault⟩

theorem listed_iff (placed : Placed store) {contact connection kind : String}
    (isKind : store.kindOf connection = some kind) :
    IsListed store contact connection ↔ Observed store contact connection ∧
      store.owner.isOwner contact = false ∧
        store.stateAt ⟨.contact, contact⟩ connection = none ∧
          store.stateAt ⟨.network, kind⟩ connection = none := by
  obtain ⟨contacts, read⟩ := exists_pendingContacts_iff.mpr placed
  constructor
  · rintro ⟨others, sameRead, waits, isWaits, rfl, rfl⟩
    have is := waits_of_mem sameRead isWaits
    rw [is.kind] at isKind
    cases isKind
    exact ⟨is.observed, is.person, is.noOwn, is.noDefault⟩
  · rintro ⟨observed, person, noOwn, noDefault⟩
    exact ⟨contacts, read, exists_waits read observed person isKind noOwn noDefault⟩

theorem observed_of_listed (listed : IsListed store contact connection) :
    Observed store contact connection := by
  obtain ⟨contacts, read, waits, isWaits, rfl, rfl⟩ := listed
  exact (waits_of_mem read isWaits).observed

end Reads

/-! ### What a decision does -/

section Decided

variable {store outcome : ConsentStore} {call : RecordCall} {committed : Committed}

theorem unmoved_of_perform (performed : call.perform store = .ok (outcome, committed)) :
    outcome.contactSeen = store.contactSeen ∧ outcome.owner = store.owner ∧
      outcome.connections = store.connections := by
  unfold RecordCall.perform at performed
  rcases store.record_cases call.decision call.actor call.occurredAt call.domain
    call.producedAt call.burnt with ⟨error, failed⟩ | ⟨row, found, replayed⟩ |
      ⟨unused, admitted, -, appended⟩
  · rw [failed] at performed
    cases performed
  · rw [replayed] at performed
    cases performed
    exact ⟨rfl, rfl, rfl⟩
  · rw [appended] at performed
    cases performed
    exact ⟨rfl, rfl, rfl⟩

theorem stateAt_of_perform (performed : call.perform store = .ok (outcome, committed))
    {subject : Subject} {connection : String} (outside : connection ∉ call.decision.connections) :
    outcome.stateAt subject connection = store.stateAt subject connection := by
  have same : call.after store = outcome := by
    unfold RecordCall.after ConsentStore.afterRecord
    unfold RecordCall.perform at performed
    rw [performed]
  rw [← same]
  exact RecordCall.stateAt_after_of_outside store call fun inside => outside inside.2

theorem stateAt_of_appended (performed : call.perform store = .ok (outcome, committed))
    (appended : committed.replayed = false) {connection : String}
    (inScope : connection ∈ call.decision.connections) :
    outcome.stateAt call.decision.subject connection = some call.decision.newState := by
  have inForce : RecordCall.InForce store outcome call.decision := by
    refine (RecordCall.inForce_iff performed).mpr (.inl ?_)
    unfold RecordCall.perform at performed
    rcases store.record_cases call.decision call.actor call.occurredAt call.domain
      call.producedAt call.burnt with ⟨error, failed⟩ | ⟨row, found, replayed⟩ |
        ⟨unused, admitted, -, isAppended⟩
    · rw [failed] at performed
      cases performed
    · rw [replayed] at performed
      cases performed
      cases appended
    · exact unused
  exact inForce.1 connection inScope

end Decided

/-! ### What a change keeps -/

def OnNetworks (store : ConsentStore) : Prop :=
  ∀ seen ∈ store.contactSeen, ∃ network : Network,
    store.kindOf seen.connection = some network.asStr

variable {store : ConsentStore}

theorem OnNetworks.placed (onNetworks : OnNetworks store) :
    Placed store := by
  intro seen isSeen kind isKind _ _
  obtain ⟨network, ofNetwork⟩ := onNetworks seen isSeen
  exact ⟨network, Option.some.inj (ofNetwork.symm.trans isKind)⟩

theorem OnNetworks.of_eq {store outcome : ConsentStore} (onNetworks : OnNetworks store)
    (sameSeen : outcome.contactSeen = store.contactSeen)
    (sameConnections : outcome.connections = store.connections) : OnNetworks outcome := by
  unfold OnNetworks ConsentStore.kindOf at *
  rw [sameSeen, sameConnections]
  exact onNetworks

theorem OnNetworks.observeContact (onNetworks : OnNetworks store) {sighting : Sighting}
    (registered : sighting.connection ∈ store.connections.map ConnectionRow.id)
    (placed : ∃ network : Network, store.kindOf sighting.connection = some network.asStr) :
    OnNetworks (store.observeContact sighting registered) := by
  intro seen member
  have pair := mem_pair_upsertSeen.mp (List.mem_map.mpr ⟨seen, member, rfl⟩)
  rcases pair with before | same
  · obtain ⟨other, isOther, isPair⟩ := List.mem_map.mp before
    rw [← (Prod.mk.inj isPair).2]
    exact onNetworks other isOther
  · rw [(Prod.mk.inj same).2]
    exact placed

theorem OnNetworks.observeEach {store outcome : ConsentStore} {sightings : List Sighting}
    (onNetworks : OnNetworks store)
    (placed : ∀ sighting ∈ sightings, ∃ network : Network,
      store.kindOf sighting.connection = some network.asStr)
    (observed : store.observeEach sightings = some outcome) : OnNetworks outcome := by
  induction sightings generalizing store with
  | nil =>
    cases observed
    exact onNetworks
  | cons sighting rest inductionHypothesis =>
    obtain ⟨first, later⟩ := List.forall_mem_cons.mp placed
    unfold ConsentStore.observeEach at observed
    split at observed
    · rename_i registered
      exact inductionHypothesis (onNetworks.observeContact registered first) later observed
    · cases observed

theorem kindOf_recordConnection (store : ConsentStore) (connection : Connection) (id : String) :
    (store.recordConnection connection).kindOf id =
      if id = connection.id then some connection.kind else store.kindOf id := by
  show ((upsertConnection store.connections connection).find? fun row => row.id == id).map
    ConnectionRow.kind = _
  unfold upsertConnection ConsentStore.kindOf
  by_cases known : connection.id ∈ store.connections.map ConnectionRow.id
  · rw [if_pos known, List.find?_map]
    have sameId : ((fun row : ConnectionRow => row.id == id) ∘ fun row =>
        if row.id = connection.id then
          { row with
            kind := connection.kind, label := connection.label, bridgeId := connection.bridgeId }
        else row) = fun row => row.id == id := by
      funext row
      simp only [Function.comp_apply]
      split <;> rfl
    rw [sameId]
    cases found : store.connections.find? fun row => row.id == id with
    | none =>
      have differ : id ≠ connection.id := by
        rintro rfl
        obtain ⟨row, member, same⟩ := List.mem_map.mp known
        exact absurd (beq_iff_eq.mpr same) (List.find?_eq_none.mp found row member)
      rw [if_neg differ]
      rfl
    | some row =>
      have isId : row.id = id := eq_of_beq (List.find?_some found :)
      by_cases same : id = connection.id
      · rw [if_pos same, Option.map_some, if_pos (isId.trans same)]
        rfl
      · rw [if_neg same, Option.map_some, if_neg fun sameRow => same (isId.symm.trans sameRow)]
  · rw [if_neg known, List.find?_append]
    by_cases same : id = connection.id
    · have absent : (store.connections.find? fun row => row.id == id) = none := by
        refine List.find?_eq_none.mpr fun row member isId => known ?_
        exact List.mem_map.mpr ⟨row, member, (eq_of_beq isId).trans same⟩
      rw [absent, if_pos same, Option.none_or, List.find?_cons, beq_iff_eq.mpr same.symm]
      rfl
    · have differ : (connection.id == id) = false := beq_false_of_ne fun isId => same isId.symm
      rw [if_neg same, List.find?_cons, differ, List.find?_nil, Option.or_none]

theorem OnNetworks.recordConnections {connections : List Connection} (onNetworks : OnNetworks store)
    (discerning : ∀ connection ∈ connections,
      (∃ network : Network, network.asStr = connection.kind) ∨
        ∀ contact, ¬Observed store contact connection.id) :
    OnNetworks (store.recordConnections connections).1 := by
  unfold ConsentStore.recordConnections
  dsimp only
  induction connections generalizing store with
  | nil => exact onNetworks
  | cons connection rest inductionHypothesis =>
    obtain ⟨first, later⟩ := List.forall_mem_cons.mp discerning
    rw [List.foldl_cons]
    refine inductionHypothesis (fun seen isSeen => ?_) later
    rw [kindOf_recordConnection]
    by_cases same : seen.connection = connection.id
    · rw [if_pos same]
      rcases first with ⟨network, ofNetwork⟩ | nobody
      · exact ⟨network, congrArg some ofNetwork.symm⟩
      · exact absurd ⟨seen, isSeen, rfl, same⟩ (nobody seen.contact)
    · rw [if_neg same]
      exact onNetworks seen isSeen

theorem OnNetworks.changed {change : Change} (onNetworks : OnNetworks store)
    (discerning : Discerning store change) :
    OnNetworks (store.changed change) := by
  cases change with
  | records call =>
    show OnNetworks (call.after store)
    cases performed : call.perform store with
    | error refusal =>
      have same : call.after store = store := by
        unfold RecordCall.after ConsentStore.afterRecord
        unfold RecordCall.perform at performed
        rw [performed]
      rw [same]
      exact onNetworks
    | ok result =>
      obtain ⟨outcome, committed⟩ := result
      have same : call.after store = outcome := by
        unfold RecordCall.after ConsentStore.afterRecord
        unfold RecordCall.perform at performed
        rw [performed]
      obtain ⟨sameSeen, -, sameConnections⟩ := unmoved_of_perform performed
      rw [same]
      exact onNetworks.of_eq sameSeen sameConnections
  | marks sequence publishedAt streamSequence => exact onNetworks.of_eq rfl rfl
  | observes sightings =>
    show OnNetworks ((store.observeEach sightings).getD store)
    cases observed : store.observeEach sightings with
    | none => exact onNetworks
    | some outcome => exact onNetworks.observeEach discerning observed
  | configures connections => exact onNetworks.recordConnections discerning
  | opens owner => exact onNetworks.of_eq rfl rfl

theorem OnNetworks.movesTheList (onNetworks : OnNetworks store) :
    MovesTheList store := by
  refine ⟨fun call outcome committed performed appended connection inScope contact kind isKind
    about listed => ?_, fun call outcome committed performed contact connection outside => ?_⟩
  · obtain ⟨sameSeen, -, sameConnections⟩ := unmoved_of_perform performed
    have isKindAfter : outcome.kindOf connection = some kind := by
      unfold ConsentStore.kindOf at isKind ⊢
      rw [sameConnections]
      exact isKind
    obtain ⟨-, -, noOwn, noDefault⟩ :=
      (listed_iff (onNetworks.of_eq sameSeen sameConnections).placed isKindAfter).mp listed
    have inForce := stateAt_of_appended performed appended inScope
    rcases about with same | same
    · rw [same, noOwn] at inForce
      cases inForce
    · rw [same, noDefault] at inForce
      cases inForce
  · obtain ⟨sameSeen, sameOwner, sameConnections⟩ := unmoved_of_perform performed
    have placed := (onNetworks.of_eq sameSeen sameConnections).placed
    have sameObserved : Observed outcome contact connection ↔
        Observed store contact connection := by
      unfold Observed
      rw [sameSeen]
    by_cases observed : Observed store contact connection
    · obtain ⟨kind, isKind⟩ := exists_kindOf_of_observed observed
      have isKindAfter : outcome.kindOf connection = some kind := by
        unfold ConsentStore.kindOf at isKind ⊢
        rw [sameConnections]
        exact isKind
      rw [listed_iff placed isKindAfter, listed_iff onNetworks.placed isKind, sameObserved,
        sameOwner, stateAt_of_perform performed outside, stateAt_of_perform performed outside]
    · exact iff_of_false (fun listed => observed (sameObserved.mp (observed_of_listed listed)))
        fun listed => observed (observed_of_listed listed)

/-- In every run in which nobody is put on a connection of no network, the list is exactly the
undecided contacts, and a decision moves it as it should. -/
theorem listsUndecided_of_run (owner : Owner) (changes : List Change)
    (along : Along ConsentStore.changed Discerning (ConsentStore.fresh owner) changes) :
    ListsUndecided (run ConsentStore.changed (ConsentStore.fresh owner) changes) ∧
      MovesTheList (run ConsentStore.changed (ConsentStore.fresh owner) changes) := by
  have onNetworks : OnNetworks (run ConsentStore.changed (ConsentStore.fresh owner) changes) :=
    run_invariant_along OnNetworks (fun _ _ onNetworks discerning => onNetworks.changed discerning)
      (fun _ member => absurd member List.not_mem_nil) along
  exact ⟨listsUndecided_iff.mpr onNetworks.placed, onNetworks.movesTheList⟩

/-! ### A contact on a calendar -/

namespace OneSighting

def owner : Owner := Owner.new "@michel:example.com" []

def whatsapp : Connection := ⟨"whatsapp", "whatsapp", "WhatsApp", none, none⟩

def agenda : Connection := ⟨"agenda", "calendar", "Agenda", none, none⟩

def seen (connection : String) : Sighting :=
  ⟨"@alice:example.com", connection, "2026-09-24T10:00:00.000Z"⟩

def onNetwork : List Change := [.configures [whatsapp, agenda], .observes [seen "whatsapp"]]

def onCalendar : List Change :=
  [.configures [whatsapp, agenda], .observes [seen "whatsapp", seen "agenda"]]

theorem listsUndecided_onNetwork :
    ListsUndecided (run ConsentStore.changed (ConsentStore.fresh owner) onNetwork) ∧
      MovesTheList (run ConsentStore.changed (ConsentStore.fresh owner) onNetwork) := by
  refine listsUndecided_of_run owner onNetwork ⟨?_, ?_, trivial⟩
  · intro connection member
    refine .inr fun contact => ?_
    rintro ⟨sighting, isSighting, -⟩
    cases isSighting
  · intro sighting member
    cases List.mem_singleton.mp member
    exact ⟨.whatsapp, rfl⟩

/-- Nobody is listed any more once one contact is observed on a calendar. -/
theorem unread_onCalendar : ¬∀ owner changes,
    ListsUndecided (run ConsentStore.changed (ConsentStore.fresh owner) changes) := by
  intro always
  have placed := listsUndecided_iff.mp (always owner onCalendar)
  obtain ⟨network, ofNetwork⟩ := placed
    ⟨"@alice:example.com", "agenda", "2026-09-24T10:00:00.000Z", "2026-09-24T10:00:00.000Z"⟩
    (by decide) "calendar" (by decide) (by decide) (by decide)
  cases network <;> exact absurd ofNetwork (by decide)

end OneSighting

end Twalk.Store
