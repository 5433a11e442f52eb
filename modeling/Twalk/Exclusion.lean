/-
This file is the exclusion of the owner and of the bridges' bots from everything
that has a consent state. Each read of the Gateway serves what it would serve
without the exclusion, in the same order, less the owner's own contact rows; the
snapshot's cap counts what is left. The writer appends nothing about the owner.
A consumer's cache, whatever snapshots and changes it is given and in whatever
order, holds no entry about the operator or a bot, and holds every other entry
exactly as a cache that excludes nobody does.
-/

import Twalk.ConsentCache
import Twalk.ConsentState

namespace Twalk

open Consent Store

/-! ### What the Gateway serves -/

def aboutOwner (owner : Owner) (subject : Subject) : Bool :=
  subject.kind == .contact && owner.isOwner subject.id

theorem servedTo_eq (owner : Owner) :
    servedTo owner = fun row => !aboutOwner owner row.subject := by
  funext row
  rw [Bool.eq_iff_iff, ConsentStore.servedTo_iff]
  unfold aboutOwner
  rw [Bool.not_eq_true', ← Bool.not_eq_true, Bool.and_eq_true, beq_iff_eq]

theorem pendingServedTo_eq (owner : Owner) :
    ConsentStore.pendingServedTo owner = fun pending => !owner.isOwner pending.1.contact := by
  funext pending
  unfold ConsentStore.pendingServedTo Owner.isOwner
  rw [ConsentStore.isEmpty_identities, if_neg Bool.false_ne_true]

def othersOnly (owner : Owner) (rows : List StateRow) : List StateRow :=
  rows.filter fun row => !aboutOwner owner row.subject

structure Excludes (store : ConsentStore) : Prop where
  entries : store.entries = (othersOnly store.owner (inOrder store.consentState)).mapM entry
  noOwnerEntry : ∀ entries, store.entries = .ok entries →
    ∀ entry ∈ entries, aboutOwner store.owner entry.subject = false
  snapshot : ∀ maxEntries, store.snapshot maxEntries =
    store.capped (othersOnly store.owner (inOrder store.consentSnapshot)) maxEntries
  noOwnerInSnapshot : ∀ maxEntries served, store.snapshot maxEntries = .ok served →
    ∀ entry ∈ served.entries, aboutOwner store.owner entry.subject = false
  pending : store.pendingContacts =
    ((ConsentStore.pendingInOrder store.pendingContact).filter
      fun pending => !store.owner.isOwner pending.1.contact).mapM ConsentStore.readPending
  noOwnerPending : ∀ contacts, store.pendingContacts = .ok contacts →
    ∀ seen ∈ contacts, store.owner.isOwner seen.contact = false
  count : store.pendingContactCount =
    (store.pendingContact.filter fun pending => !store.owner.isOwner pending.1.contact).length
  effectiveOwner : ∀ contact connection network, store.owner.isOwner contact = true →
    store.effective contact connection network = ⟨.pending, none⟩
  effectiveOther : ∀ contact connection network, store.owner.isOwner contact = false →
    store.effective contact connection network =
      Effective.resolve contact network (store.stateAt ⟨.contact, contact⟩ connection)
        (store.stateAt ⟨.network, network.asStr⟩ connection)
  recordOwner : ∀ decision actor occurredAt domain producedAt burnt,
    aboutOwner store.owner decision.subject = true →
      store.record decision actor occurredAt domain producedAt burnt =
        .error (.aboutTheOwner (.subjectIsTheOwner decision.subject.id)) ∧
      store.afterRecord decision actor occurredAt domain producedAt burnt = store
  recordOther : ∀ decision actor occurredAt domain producedAt burnt invalid,
    aboutOwner store.owner decision.subject = false →
      store.record decision actor occurredAt domain producedAt burnt ≠
        .error (.aboutTheOwner invalid)

theorem entries_eq (store : ConsentStore) :
    store.entries = (othersOnly store.owner (inOrder store.consentState)).mapM entry := by
  unfold ConsentStore.entries inOrder othersOnly
  rw [servedTo_eq, filter_sortBy]

theorem snapshotRows_eq (store : ConsentStore) :
    store.snapshotRows = othersOnly store.owner (inOrder store.consentSnapshot) := by
  unfold ConsentStore.snapshotRows inOrder othersOnly
  rw [servedTo_eq, filter_sortBy]

theorem pendingContacts_eq (store : ConsentStore) :
    store.pendingContacts =
      ((ConsentStore.pendingInOrder store.pendingContact).filter
        fun pending => !store.owner.isOwner pending.1.contact).mapM ConsentStore.readPending := by
  unfold ConsentStore.pendingContacts ConsentStore.pendingInOrder
  rw [pendingServedTo_eq, filter_sortBy]

theorem notOwner_of_mapM {owner : Owner} {rows : List StateRow} {entries : List Entry}
    (read : (othersOnly owner rows).mapM entry = .ok entries) {served : Entry}
    (member : served ∈ entries) : aboutOwner owner served.subject = false := by
  obtain ⟨row, rowIn, isEntry⟩ := exists_input_of_forall₂ (forall₂_of_mapM_eq_ok read) member
  obtain ⟨network, -, rfl⟩ := ConsentStore.entry_eq_ok isEntry
  have isOther := (List.mem_filter.mp rowIn).2
  rwa [Bool.not_eq_true'] at isOther

theorem readPending_eq_ok {pending : SeenRow × String} {seen : SeenContact}
    (read : ConsentStore.readPending pending = .ok seen) : seen.contact = pending.1.contact := by
  unfold ConsentStore.readPending at read
  split at read
  · cases read
    rfl
  · cases read

theorem record_of_aboutOwner {store : ConsentStore} {decision : Decision}
    (isOwner : aboutOwner store.owner decision.subject = true)
    (actor occurredAt domain producedAt : String) (burnt : Nat) :
    store.record decision actor occurredAt domain producedAt burnt =
      .error (.aboutTheOwner (.subjectIsTheOwner decision.subject.id)) := by
  unfold aboutOwner at isOwner
  rw [Bool.and_eq_true, beq_iff_eq] at isOwner
  have refused : decision.refuseIfOwner store.owner =
      .error (.subjectIsTheOwner decision.subject.id) := if_pos isOwner
  unfold ConsentStore.record
  rw [refused]

theorem refuseIfOwner_of_other {store : ConsentStore} {decision : Decision}
    (isOther : aboutOwner store.owner decision.subject = false) :
    decision.refuseIfOwner store.owner = .ok () := by
  rw [ConsentStore.refuseIfOwner_eq_ok]
  rintro ⟨isContact, isOwner⟩
  unfold aboutOwner at isOther
  rw [isContact, isOwner] at isOther
  exact absurd isOther (by decide)

theorem record_of_other (store : ConsentStore) (decision : Decision)
    (actor occurredAt domain producedAt : String) (burnt : Nat) (invalid : Invalid)
    (isOther : aboutOwner store.owner decision.subject = false) :
    store.record decision actor occurredAt domain producedAt burnt ≠
      .error (.aboutTheOwner invalid) := by
  unfold ConsentStore.record
  rw [refuseIfOwner_of_other isOther]
  intro impossible
  simp only at impossible
  split at impossible
  · cases impossible
  · split at impossible <;> cases impossible

theorem excludes (store : ConsentStore) : Excludes store where
  entries := entries_eq store
  noOwnerEntry := by
    intro entries answered entry member
    rw [entries_eq] at answered
    exact notOwner_of_mapM answered member
  snapshot := by
    intro maxEntries
    rw [ConsentStore.snapshot_eq, snapshotRows_eq]
  noOwnerInSnapshot := by
    intro maxEntries served answered entry member
    obtain ⟨read, -, -⟩ := ConsentStore.snapshot_eq_ok answered
    rw [snapshotRows_eq] at read
    exact notOwner_of_mapM read member
  pending := pendingContacts_eq store
  noOwnerPending := by
    intro contacts answered seen member
    rw [pendingContacts_eq] at answered
    obtain ⟨pending, pendingIn, read⟩ :=
      exists_input_of_forall₂ (forall₂_of_mapM_eq_ok answered) member
    have isOther := (List.mem_filter.mp pendingIn).2
    rw [readPending_eq_ok read]
    rwa [Bool.not_eq_true'] at isOther
  count := by
    unfold ConsentStore.pendingContactCount
    rw [pendingServedTo_eq]
  effectiveOwner := fun contact connection network isOwner => if_pos isOwner
  effectiveOther := fun contact connection network isOther => by
    unfold ConsentStore.effective
    rw [isOther, if_neg Bool.false_ne_true]
  recordOwner := fun decision actor occurredAt domain producedAt burnt isOwner => by
    have refused := record_of_aboutOwner isOwner actor occurredAt domain producedAt burnt
    refine ⟨refused, ?_⟩
    unfold ConsentStore.afterRecord
    rw [refused]
  recordOther := record_of_other store

/-! ### What a cache holds -/

namespace Cache

inductive CacheStep where
  | apply (change : ConsentChange)
  | applySnapshot (snapshot : Snapshot)

namespace ConsentCache

def step (cache : ConsentCache) : CacheStep → ConsentCache
  | .apply change => cache.apply change
  | .applySnapshot snapshot => cache.applySnapshot snapshot

structure PeopleOnly (cache plain : ConsentCache) : Prop where
  nobodyPlain : ∀ id, plain.notAPerson id = false
  excluded : ∀ id connection, cache.notAPerson id = true →
    cache.states.contacts id connection = none
  included : ∀ id connection, cache.notAPerson id = false →
    cache.states.contacts id connection = plain.states.contacts id connection
  defaults : ∀ connection, cache.states.defaults connection = plain.states.defaults connection

variable {cache plain : ConsentCache}

theorem setsContact_of_excluded {id : String} (isExcluded : cache.notAPerson id = true)
    (connection : String) (entry : ConsentEntry) : cache.setsContact id connection entry = false := by
  unfold setsContact
  rw [isExcluded, Bool.not_true, Bool.and_false]

theorem setsContact_congr {id : String} (person : cache.notAPerson id = false)
    (plainPerson : plain.notAPerson id = false) (connection : String) (entry : ConsentEntry) :
    cache.setsContact id connection entry = plain.setsContact id connection entry := by
  unfold setsContact
  rw [person, plainPerson]

theorem PeopleOnly.foldl_take (agree : PeopleOnly cache plain) (entries : List ConsentEntry)
    {states plainStates : States}
    (excluded : ∀ id connection, cache.notAPerson id = true →
      states.contacts id connection = none)
    (included : ∀ id connection, cache.notAPerson id = false →
      states.contacts id connection = plainStates.contacts id connection)
    (defaults : ∀ connection, states.defaults connection = plainStates.defaults connection) :
    PeopleOnly { cache with states := entries.foldl cache.take states }
      { plain with states := entries.foldl plain.take plainStates } where
  nobodyPlain := agree.nobodyPlain
  excluded := fun id connection isExcluded => by
    show (entries.foldl cache.take states).contacts id connection = none
    have untold : latest (cache.setsContact id connection) entries = none :=
      latest_eq_none_iff.mpr fun entry _ => setsContact_of_excluded isExcluded connection entry
    rw [contacts_foldl_take, untold, excluded id connection isExcluded]
    rfl
  included := fun id connection person => by
    show (entries.foldl cache.take states).contacts id connection =
      (entries.foldl plain.take plainStates).contacts id connection
    have alike : latest (cache.setsContact id connection) entries =
        latest (plain.setsContact id connection) entries :=
      latest_congr fun entry _ =>
        setsContact_congr person (agree.nobodyPlain id) connection entry
    rw [contacts_foldl_take, contacts_foldl_take, included id connection person, alike]
  defaults := fun connection => by
    show (entries.foldl cache.take states).defaults connection =
      (entries.foldl plain.take plainStates).defaults connection
    rw [defaults_foldl_take, defaults_foldl_take, defaults connection]

theorem PeopleOnly.step (agree : PeopleOnly cache plain) (next : CacheStep) :
    PeopleOnly (cache.step next) (plain.step next) := by
  cases next with
  | apply change =>
    exact agree.foldl_take change.entries agree.excluded agree.included agree.defaults
  | applySnapshot snapshot =>
    exact agree.foldl_take snapshot.entries (fun _ _ _ => rfl) (fun _ _ _ => rfl) fun _ => rfl

/-- Whatever is applied to it, in whatever order, a cache for people holds nobody else, and
holds people and defaults as if it excluded nobody. -/
theorem peopleOnly_run (owner : Option Owner) (bridgeBots : List String)
    (steps : List CacheStep) :
    PeopleOnly (run ConsentCache.step (forPeopleOnly owner bridgeBots) steps)
      (run ConsentCache.step (forPeopleOnly none []) steps) := by
  suffices kept : ∀ cache plain : ConsentCache, PeopleOnly cache plain →
      PeopleOnly (run ConsentCache.step cache steps) (run ConsentCache.step plain steps) from
    kept _ _ ⟨fun _ => rfl, fun _ _ _ => rfl, fun _ _ _ => rfl, fun _ => rfl⟩
  induction steps with
  | nil => exact fun _ _ agree => agree
  | cons next rest inductionHypothesis =>
    exact fun cache plain agree => inductionHypothesis _ _ (agree.step next)

theorem notAPerson_run (owner : Option Owner) (bridgeBots : List String)
    (steps : List CacheStep) (id : String) :
    (run ConsentCache.step (forPeopleOnly owner bridgeBots) steps).notAPerson id =
      ((owner.any fun known => known.isOwner id) || bridgeBots.contains id) :=
  run_invariant (fun cache : ConsentCache => cache.notAPerson id =
      ((owner.any fun known => known.isOwner id) || bridgeBots.contains id))
    (fun cache next same => by cases next <;> exact same) rfl steps

end ConsentCache

end Cache

end Twalk
