/-
This file is when the consent screen shows what is in force: when no default stands on a connection
on which somebody was observed who has no decision of their own there. Each pair of a contact and a
connection then has its one row, with the state and the decision that the Gateway resolves.
-/

import Twalk.ConsentScreen

namespace Twalk

open Consent Store

namespace Screen

/-! ### What is to be shown -/

/-- What a row says decided its state, when a subject's decision did. -/
def DecidedBy.of : Option Subject → DecidedBy
  | none => .nothing
  | some ⟨.contact, _⟩ => .contact
  | some ⟨_, _⟩ => .network

def Observed (store : ConsentStore) (contact connection : String) : Prop :=
  ∃ sighting ∈ store.contactSeen, sighting.contact = contact ∧ sighting.connection = connection

/-- The screen shows what is in force: one row for each contact on each connection on which the
contact was observed or is decided about, with what the Gateway resolves there. A bulk control
writes, over any of the rows, those decisions that are not the contact's own already. -/
structure Shows (store : ConsentStore) (rows : List Row) : Prop where
  once : (rows.map Row.pair).Nodup
  exactly : ∀ contact connection, (contact, connection) ∈ rows.map Row.pair ↔
    store.owner.isOwner contact = false ∧ (Observed store contact connection ∨
      store.stateAt ⟨.contact, contact⟩ connection ≠ none)
  inForce : ∀ row ∈ rows, store.kindOf row.connection = some row.network.asStr ∧
    row.state = (store.effective row.contact row.connection row.network).state ∧
    row.decidedBy = .of (store.effective row.contact row.connection row.network).decidedBy
  bulk : ∀ shown state, shown.Sublist rows → (bulkDecisions shown state).Nodup ∧
    ∀ pair, pair ∈ bulkDecisions shown state ↔ ∃ row ∈ shown, row.pair = pair ∧
      row.isOwner = false ∧ store.stateAt ⟨.contact, row.contact⟩ row.connection ≠ some state

def Defaulted (store : ConsentStore) (connection : String) : Prop :=
  ∃ row ∈ store.consentState, row.subject.kind = .network ∧ row.connection = connection

/-! ### Keys -/

theorem separator_notMem_of_idIsValid {id : String} (valid : idIsValid id = true) :
    separator ∉ id.toList := by
  unfold idIsValid at valid
  split at valid
  · cases valid
  · rename_i first rest isId
    rw [isId]
    simp only [Bool.and_eq_true] at valid
    intro member
    have allowed : (separator.isLower || separator.isDigit || separator == '-') = true := by
      rcases List.mem_cons.mp member with rfl | inRest
      · rw [valid.1.1, Bool.true_or]
      · exact List.all_eq_true.mp valid.2 _ inRest
    exact absurd allowed (by decide)

variable {contact connection : String}

theorem unkey_key (free : separator ∉ connection.toList) :
    unkey (key contact connection) = (contact, connection) := by
  have kept : ∀ character ∈ connection.toList.reverse,
      decide (character ≠ separator) = true := by
    intro character member
    exact decide_eq_true fun same => free (same ▸ List.mem_reverse.mp member)
  have back : (key contact connection).toList.reverse =
      connection.toList.reverse ++ separator :: contact.toList.reverse := by
    unfold key
    rw [String.toList_ofList, List.reverse_append, List.reverse_cons, List.append_assoc,
      List.singleton_append]
  unfold unkey
  dsimp only
  rw [back, List.takeWhile_append_of_pos kept, List.dropWhile_append_of_pos kept,
    List.takeWhile_cons_of_neg (by simp), List.dropWhile_cons_of_neg (by simp), List.append_nil,
    List.drop_one, List.tail_cons, List.reverse_reverse, List.reverse_reverse,
    String.ofList_toList, String.ofList_toList]

theorem key_injective {contact other connection elsewhere : String}
    (free : separator ∉ connection.toList) (otherFree : separator ∉ elsewhere.toList)
    (same : key contact connection = key other elsewhere) :
    contact = other ∧ connection = elsewhere := by
  have pair := (unkey_key free).symm.trans ((congrArg unkey same).trans (unkey_key otherFree))
  exact Prod.mk.inj pair

/-! ### The answers of the Gateway -/

section Answers

variable {store : ConsentStore}

variable {entries : List Entry}

theorem mem_entries (read : store.entries = .ok entries) {served : Entry} :
    served ∈ entries ↔ ∃ row ∈ store.consentState, servedTo store.owner row = true ∧
      entry row = .ok served := by
  have paired := forall₂_of_mapM_eq_ok read
  constructor
  · intro member
    obtain ⟨row, isRow, isEntry⟩ := exists_input_of_forall₂ paired member
    obtain ⟨inState, isServed⟩ := List.mem_filter.mp (ConsentStore.mem_inOrder.mp isRow)
    exact ⟨row, inState, isServed, isEntry⟩
  · rintro ⟨row, inState, isServed, isEntry⟩
    obtain ⟨other, isOther, sameEntry⟩ := exists_result_of_forall₂ paired
      (ConsentStore.mem_inOrder.mpr (List.mem_filter.mpr ⟨inState, isServed⟩))
    cases isEntry.symm.trans sameEntry
    exact isOther

theorem stateAt_of_mem {row : StateRow} (member : row ∈ store.consentState) :
    store.stateAt row.subject row.connection = some row.state ∧
      store.kindOf row.connection = some row.network := by
  obtain ⟨journalled, kind, last, isKind, isRow⟩ :=
    (ConsentStore.mem_stateOver store.ordered).mp member
  rw [ConsentStore.stateAt_eq, last, isRow]
  exact ⟨rfl, isKind⟩

theorem exists_mem_of_stateAt {subject : Subject} {connection : String} {state : State}
    (isState : store.stateAt subject connection = some state) :
    ∃ row ∈ store.consentState, row.subject = subject ∧ row.connection = connection ∧
      row.state = state := by
  obtain ⟨row, found, rfl⟩ := Option.map_eq_some_iff.mp isState
  have named := List.find?_some found
  rw [Bool.and_eq_true, beq_iff_eq, beq_iff_eq] at named
  exact ⟨row, List.mem_of_find?_eq_some found, named.1, named.2, rfl⟩

theorem of_mem_entries (read : store.entries = .ok entries) {served : Entry}
    (member : served ∈ entries) :
    store.stateAt served.subject served.connection = some served.state ∧
      store.kindOf served.connection = some served.network.asStr ∧
      ¬(served.subject.kind = .contact ∧ store.owner.isOwner served.subject.id = true) := by
  obtain ⟨row, inState, isServed, isEntry⟩ := (mem_entries read).mp member
  obtain ⟨network, isNetwork, rfl⟩ := ConsentStore.entry_eq_ok isEntry
  obtain ⟨isState, isKind⟩ := stateAt_of_mem inState
  exact ⟨isState, isKind.trans (congrArg some (Network.asStr_of_parse isNetwork).symm),
    ConsentStore.servedTo_iff.mp isServed⟩

theorem exists_entry (read : store.entries = .ok entries) {subject : Subject} {connection : String}
    {state : State} (isState : store.stateAt subject connection = some state)
    (person : ¬(subject.kind = .contact ∧ store.owner.isOwner subject.id = true)) :
    ∃ served ∈ entries, served.subject = subject ∧ served.connection = connection := by
  obtain ⟨row, inState, rfl, rfl, -⟩ := exists_mem_of_stateAt isState
  have paired := forall₂_of_mapM_eq_ok read
  obtain ⟨served, isServed, isEntry⟩ := exists_result_of_forall₂ paired
    (ConsentStore.mem_inOrder.mpr (List.mem_filter.mpr
      ⟨inState, ConsentStore.servedTo_iff.mpr person⟩))
  obtain ⟨network, -, rfl⟩ := ConsentStore.entry_eq_ok isEntry
  exact ⟨_, isServed, rfl, rfl⟩

theorem isPending_iff {sighting : SeenRow} {kind : String} :
    store.isPending sighting kind = true ↔
      store.stateAt ⟨.contact, sighting.contact⟩ sighting.connection = none ∧
        store.stateAt ⟨.network, kind⟩ sighting.connection = none := by
  unfold ConsentStore.isPending
  rw [Bool.not_eq_true', List.any_eq_false]
  constructor
  · intro absent
    refine ⟨Option.eq_none_iff_forall_not_mem.mpr fun state isState => ?_,
      Option.eq_none_iff_forall_not_mem.mpr fun state isState => ?_⟩
    · obtain ⟨row, inState, isSubject, isConnection, -⟩ := exists_mem_of_stateAt isState
      exact absurd (by simp [isSubject, isConnection]) (absent row inState)
    · obtain ⟨row, inState, isSubject, isConnection, -⟩ := exists_mem_of_stateAt isState
      exact absurd (by simp [isSubject, isConnection]) (absent row inState)
  · rintro ⟨noOwn, noDefault⟩ row inState covers
    obtain ⟨isState, -⟩ := stateAt_of_mem inState
    obtain ⟨⟨subjectKind, subjectId⟩, connection, _, _, _, _⟩ := row
    simp only [Bool.and_eq_true, Bool.or_eq_true, beq_iff_eq] at covers
    obtain ⟨rfl, ⟨rfl, rfl⟩ | ⟨rfl, rfl⟩⟩ := covers
    · exact absurd (noOwn.symm.trans isState) nofun
    · exact absurd (noDefault.symm.trans isState) nofun

/-- What a contact that waits is: a sighting of somebody but the owner, where neither a decision of
their own nor a default is in force. -/
structure Waits (store : ConsentStore) (waits : SeenContact) : Prop where
  observed : Observed store waits.contact waits.connection
  person : store.owner.isOwner waits.contact = false
  kind : store.kindOf waits.connection = some waits.network.asStr
  noOwn : store.stateAt ⟨.contact, waits.contact⟩ waits.connection = none
  noDefault : store.stateAt ⟨.network, waits.network.asStr⟩ waits.connection = none

theorem pendingServedTo_iff {owner : Owner} {pending : SeenRow × String} :
    ConsentStore.pendingServedTo owner pending = true ↔ owner.isOwner pending.1.contact = false := by
  unfold ConsentStore.pendingServedTo Owner.isOwner
  rw [ConsentStore.isEmpty_identities, if_neg Bool.false_ne_true, Bool.not_eq_true']

variable {contacts : List SeenContact}

theorem waits_of_mem (read : store.pendingContacts = .ok contacts) {waits : SeenContact}
    (member : waits ∈ contacts) : Waits store waits := by
  obtain ⟨pending, isPending, isRead⟩ :=
    exists_input_of_forall₂ (forall₂_of_mapM_eq_ok read) member
  obtain ⟨inView, isServed⟩ := List.mem_filter.mp (mem_sortBy.mp isPending)
  obtain ⟨sighting, isSighting, found⟩ := List.mem_filterMap.mp inView
  obtain ⟨kind, isKind, goesOn⟩ := Option.bind_eq_some_iff.mp found
  split at goesOn
  · rename_i undecided
    cases goesOn
    unfold ConsentStore.readPending at isRead
    split at isRead
    · rename_i network isNetwork
      cases isRead
      have sameKind := Network.asStr_of_parse isNetwork
      obtain ⟨noOwn, noDefault⟩ := isPending_iff.mp undecided
      exact {
        observed := ⟨sighting, isSighting, rfl, rfl⟩
        person := pendingServedTo_iff.mp isServed
        kind := by rw [sameKind]; exact isKind
        noOwn := noOwn
        noDefault := by rw [sameKind]; exact noDefault }
    · cases isRead
  · cases goesOn

theorem exists_waits (read : store.pendingContacts = .ok contacts)
    {contact connection kind : String} (observed : Observed store contact connection)
    (person : store.owner.isOwner contact = false) (isKind : store.kindOf connection = some kind)
    (noOwn : store.stateAt ⟨.contact, contact⟩ connection = none)
    (noDefault : store.stateAt ⟨.network, kind⟩ connection = none) :
    ∃ waits ∈ contacts, waits.contact = contact ∧ waits.connection = connection := by
  obtain ⟨sighting, isSighting, rfl, rfl⟩ := observed
  have inView : (sighting, kind) ∈ store.pendingContact := by
    refine List.mem_filterMap.mpr ⟨sighting, isSighting, ?_⟩
    rw [isKind, Option.bind_some, if_pos (isPending_iff.mpr ⟨noOwn, noDefault⟩)]
  obtain ⟨waits, isWaits, isRead⟩ := exists_result_of_forall₂ (forall₂_of_mapM_eq_ok read)
    (mem_sortBy.mpr (List.mem_filter.mpr ⟨inView, pendingServedTo_iff.mpr person⟩))
  refine ⟨waits, isWaits, ?_⟩
  unfold ConsentStore.readPending at isRead
  split at isRead
  · cases isRead
    exact ⟨rfl, rfl⟩
  · cases isRead

theorem exists_kindOf_of_observed (observed : Observed store contact connection) :
    ∃ kind, store.kindOf connection = some kind := by
  obtain ⟨sighting, isSighting, rfl, rfl⟩ := observed
  exact ConsentStore.exists_kindOf (store.seenRegistered sighting isSighting)

end Answers

/-! ### The rows -/

section Rows

variable {store : ConsentStore} {entries : List Entry} {contacts : List SeenContact}
  {counted : Option (String → String → Nat)} {names : List DisplayName} {owner : Option String}
  {connections : List Connection}

def answered (counted : Option (String → String → Nat)) (contacts : List SeenContact)
    (entries : List Entry) (names : List DisplayName) (owner : Option String)
    (connections : List Connection) : Inputs :=
  ⟨pendingAnswer counted contacts, entries, names, owner, connections⟩

structure Answered (store : ConsentStore) (entries : List Entry) (contacts : List SeenContact) :
    Prop where
  valid : ∀ row ∈ store.connections, idIsValid row.id = true
  entries : store.entries = .ok entries
  contacts : store.pendingContacts = .ok contacts

theorem Answered.free (given : Answered store entries contacts) {connection kind : String}
    (isKind : store.kindOf connection = some kind) : separator ∉ connection.toList := by
  obtain ⟨row, found, -⟩ := Option.map_eq_some_iff.mp isKind
  have isId : row.id = connection := eq_of_beq (List.find?_some found :)
  exact isId ▸ separator_notMem_of_idIsValid (given.valid row (List.mem_of_find?_eq_some found))

theorem Answered.decided (given : Answered store entries contacts)
    {contact connection kind : String} (person : store.owner.isOwner contact = false)
    (isKind : store.kindOf connection = some kind) :
    (Screen.decided entries (key contact connection)).map Entry.state =
      store.stateAt ⟨.contact, contact⟩ connection ∧
    ∀ own, Screen.decided entries (key contact connection) = some own →
      own.network.asStr = kind := by
  have free := given.free isKind
  have own : ∀ own, Screen.decided entries (key contact connection) = some own →
      own.subject = ⟨.contact, contact⟩ ∧ own.connection = connection ∧ own ∈ entries := by
    intro own isOwn
    have member := latest_mem isOwn
    have about := latest_concerns isOwn
    rw [Bool.and_eq_true, beq_iff_eq, beq_iff_eq] at about
    obtain ⟨-, isKind, -⟩ := of_mem_entries given.entries member
    obtain ⟨isContact, isConnection⟩ := key_injective (given.free isKind) free about.2
    refine ⟨?_, isConnection, member⟩
    rw [← isContact, ← about.1]
  constructor
  · cases isOwn : Screen.decided entries (key contact connection) with
    | some entry =>
      obtain ⟨isSubject, isConnection, member⟩ := own entry isOwn
      have isState := (of_mem_entries given.entries member).1
      rw [isSubject, isConnection] at isState
      exact isState.symm
    | none =>
      cases isState : store.stateAt ⟨.contact, contact⟩ connection with
      | none => rfl
      | some state =>
        obtain ⟨served, member, isSubject, isConnection⟩ := exists_entry given.entries isState
          fun isOwner => absurd (isOwner.2.symm.trans person) nofun
        have absent := latest_eq_none_iff.mp isOwn served member
        rw [isSubject, isConnection] at absent
        simp at absent
  · intro entry isOwn
    obtain ⟨-, isConnection, member⟩ := own entry isOwn
    have sameKind := (of_mem_entries given.entries member).2.1
    rw [isConnection, isKind] at sameKind
    exact (Option.some.inj sameKind).symm

theorem Answered.connectionDefaults (given : Answered store entries contacts)
    (connection : String) :
    Screen.connectionDefaults entries connection = none ↔ ¬ Defaulted store connection := by
  unfold Screen.connectionDefaults
  rw [Option.map_eq_none_iff, latest_eq_none_iff]
  constructor
  · rintro absent ⟨row, inState, isNetwork, isConnection⟩
    obtain ⟨served, member, isSubject, sameConnection⟩ := exists_entry given.entries
      (stateAt_of_mem inState).1 fun isOwner => absurd (isNetwork.symm.trans isOwner.1) nofun
    have notDefault := absent served member
    rw [isSubject, sameConnection, isNetwork, isConnection] at notDefault
    simp at notDefault
  · intro noDefault served member
    by_contra isDefault
    rw [Bool.not_eq_false, Bool.and_eq_true, beq_iff_eq, beq_iff_eq] at isDefault
    obtain ⟨row, inState, -, isEntry⟩ := (mem_entries given.entries).mp member
    obtain ⟨_, -, rfl⟩ := ConsentStore.entry_eq_ok isEntry
    exact noDefault ⟨row, inState, isDefault.1, isDefault.2⟩

/-- A contact that is not the owner is listed on a connection: it is decided about there, or it was
observed and nothing of the connection's kind is in force. -/
def Listed (store : ConsentStore) (contact connection : String) : Prop :=
  store.owner.isOwner contact = false ∧ ∃ kind, store.kindOf connection = some kind ∧
    (store.stateAt ⟨.contact, contact⟩ connection ≠ none ∨ Observed store contact connection ∧
      store.stateAt ⟨.contact, contact⟩ connection = none ∧
      store.stateAt ⟨.network, kind⟩ connection = none)

theorem Answered.mem_seen (given : Answered store entries contacts) {place : String} :
    place ∈ seen (answered counted contacts entries names owner connections) ↔
      ∃ contact connection, place = key contact connection ∧ Listed store contact connection := by
  unfold seen answered pendingAnswer
  rw [mem_keepFirst, List.mem_append, List.mem_map, List.map_map, List.mem_map]
  constructor
  · rintro (⟨entry, member, rfl⟩ | ⟨waits, member, rfl⟩)
    · obtain ⟨inEntries, isContact⟩ := List.mem_filter.mp member
      obtain ⟨isState, isKind, person⟩ := of_mem_entries given.entries inEntries
      rw [beq_iff_eq] at isContact
      refine ⟨entry.subject.id, entry.connection, rfl, ?_, _, isKind, .inl ?_⟩
      · exact Bool.eq_false_iff.mpr fun isOwner => person ⟨isContact, isOwner⟩
      · rw [← isContact, isState]
        nofun
    · obtain ⟨observed, person, isKind, noOwn, noDefault⟩ := waits_of_mem given.contacts member
      exact ⟨waits.contact, waits.connection, rfl, person, _, isKind,
        .inr ⟨observed, noOwn, noDefault⟩⟩
  · rintro ⟨contact, connection, rfl, person, kind, isKind, isOwn | ⟨observed, noOwn, noDefault⟩⟩
    · obtain ⟨state, isState⟩ := Option.ne_none_iff_exists'.mp isOwn
      obtain ⟨served, member, isSubject, isConnection⟩ := exists_entry given.entries isState
        fun isOwner => absurd (isOwner.2.symm.trans person) nofun
      refine .inl ⟨served, List.mem_filter.mpr ⟨member, ?_⟩, ?_⟩
      · rw [isSubject]
        rfl
      · rw [isSubject, isConnection]
    · obtain ⟨waits, member, rfl, rfl⟩ :=
        exists_waits given.contacts observed person isKind noOwn noDefault
      exact .inr ⟨waits, member, rfl⟩

theorem Answered.sighted (given : Answered store entries contacts)
    (counted : Option (String → String → Nat)) {waits : SeenContact} (member : waits ∈ contacts) :
    ∃ network, (Screen.sighted (pendingAnswer counted contacts)
        (key waits.contact waits.connection)).map PendingContact.network = some network ∧
      store.kindOf waits.connection = some network.asStr := by
  obtain ⟨sighting, isSighted⟩ : ∃ sighting, Screen.sighted (pendingAnswer counted contacts)
      (key waits.contact waits.connection) = some sighting :=
    exists_latest (List.mem_map.mpr ⟨waits, member, rfl⟩) (beq_self_eq_true _)
  obtain ⟨other, isOther, rfl⟩ := List.mem_map.mp (latest_mem isSighted)
  have otherKind := (waits_of_mem given.contacts isOther).kind
  have ownKind := (waits_of_mem given.contacts member).kind
  have sameKey := eq_of_beq (latest_concerns isSighted :)
  obtain ⟨-, sameConnection⟩ := key_injective (given.free otherKind) (given.free ownKind) sameKey
  refine ⟨other.network, ?_, ?_⟩
  · rw [isSighted]
    rfl
  · rw [← sameConnection]
    exact otherKind

structure Drawn (store : ConsentStore) (entries : List Entry) (row : Row) : Prop where
  listed : Listed store row.contact row.connection
  kind : store.kindOf row.connection = some row.network.asStr
  state : row.state = ((store.stateAt ⟨.contact, row.contact⟩ row.connection).or
    (connectionDefaults entries row.connection)).getD .pending
  decidedBy : row.decidedBy =
    if (store.stateAt ⟨.contact, row.contact⟩ row.connection).isSome then .contact
    else if (connectionDefaults entries row.connection).isSome then .network else .nothing

theorem Answered.rowOf (given : Answered store entries contacts)
    (listed : Listed store contact connection) :
    ∃ row, Screen.rowOf (answered counted contacts entries names owner connections)
        (key contact connection) = some row ∧ row.pair = (contact, connection) ∧
      Drawn store entries row := by
  obtain ⟨person, kind, isKind, rest⟩ := listed
  obtain ⟨isOwn, ownKind⟩ := given.decided person isKind
  have isPair : unkey (key contact connection) = _ := unkey_key (given.free isKind)
  have networkOf : ∃ network, ((Screen.decided entries (key contact connection)).map
      Entry.network).or ((Screen.sighted (pendingAnswer counted contacts)
        (key contact connection)).map PendingContact.network) = some network ∧
      store.kindOf connection = some network.asStr := by
    cases own : Screen.decided entries (key contact connection) with
    | some entry => exact ⟨entry.network, rfl, by rw [isKind, ownKind entry own]⟩
    | none =>
      rw [own] at isOwn
      obtain ⟨observed, noOwn, noDefault⟩ := rest.resolve_left fun decided => decided isOwn.symm
      obtain ⟨waits, member, rfl, rfl⟩ :=
        exists_waits given.contacts observed person isKind noOwn noDefault
      obtain ⟨network, isNetwork, sameKind⟩ := given.sighted counted member
      exact ⟨network, by rw [isNetwork]; rfl, sameKind⟩
  obtain ⟨network, isNetwork, sameKind⟩ := networkOf
  have isSome : (Screen.decided entries (key contact connection)).isSome =
      (store.stateAt ⟨.contact, contact⟩ connection).isSome := by
    rw [← isOwn, Option.isSome_map]
  unfold Screen.rowOf
  dsimp only [answered]
  rw [isPair, isNetwork, Option.map_some]
  refine ⟨_, rfl, rfl, ⟨person, kind, isKind, rest⟩, sameKind, ?_, ?_⟩
  · dsimp only
    rw [isOwn]
  · dsimp only
    rw [isSome]

section Order

variable {localeCompare : String → String → Ordering}

theorem mem_toRows {inputs : Inputs} {row : Row} :
    row ∈ toRows localeCompare inputs ↔ ∃ place ∈ seen inputs, rowOf inputs place = some row := by
  unfold toRows
  rw [List.mem_mergeSort, List.mem_filterMap]

theorem Answered.drawn (given : Answered store entries contacts) {row : Row}
    (member : row ∈ toRows localeCompare
      (answered counted contacts entries names owner connections)) : Drawn store entries row := by
  obtain ⟨place, isSeen, isRow⟩ := mem_toRows.mp member
  obtain ⟨contact, connection, rfl, listed⟩ := given.mem_seen.mp isSeen
  obtain ⟨drawn, isDrawn, -, facts⟩ := given.rowOf listed
  cases isRow.symm.trans isDrawn
  exact facts

theorem Answered.mem_pairs (given : Answered store entries contacts) :
    (contact, connection) ∈ (toRows localeCompare
        (answered counted contacts entries names owner connections)).map Row.pair ↔
      Listed store contact connection := by
  constructor
  · intro member
    obtain ⟨row, isRow, isPair⟩ := List.mem_map.mp member
    cases isPair
    exact (given.drawn isRow).listed
  · intro listed
    obtain ⟨row, isRow, isPair, -⟩ := given.rowOf listed
    exact List.mem_map.mpr
      ⟨row, mem_toRows.mpr ⟨_, given.mem_seen.mpr ⟨_, _, rfl, listed⟩, isRow⟩, isPair⟩

theorem Answered.nodup (given : Answered store entries contacts) :
    ((toRows localeCompare
      (answered counted contacts entries names owner connections)).map Row.pair).Nodup := by
  have isPair : ∀ place ∈ seen (answered counted contacts entries names owner connections),
      (Screen.rowOf (answered counted contacts entries names owner connections) place).map
        Row.pair = some (unkey place) := by
    intro place isSeen
    obtain ⟨contact, connection, rfl, listed⟩ := given.mem_seen.mp isSeen
    obtain ⟨kind, isKind, -⟩ := listed.2
    obtain ⟨row, isRow, isPair, -⟩ := given.rowOf listed
    rw [isRow, Option.map_some, isPair, unkey_key (given.free isKind)]
  have same := (List.mergeSort_perm ((seen (answered counted contacts entries names owner
    connections)).filterMap (Screen.rowOf (answered counted contacts entries names owner
    connections))) fun left right => (order localeCompare left right).isLE).map Row.pair
  refine same.nodup_iff.mpr ?_
  rw [List.map_filterMap, List.filterMap_congr isPair, List.filterMap_eq_map']
  refine List.Nodup.map_on ?_ (keepFirst_nodup _)
  intro first isFirst second isSecond samePair
  obtain ⟨contact, connection, rfl, -, kind, isKind, -⟩ := given.mem_seen.mp isFirst
  obtain ⟨other, elsewhere, rfl, -, otherKind, isOtherKind, -⟩ := given.mem_seen.mp isSecond
  rw [unkey_key (given.free isKind), unkey_key (given.free isOtherKind)] at samePair
  cases samePair
  rfl

theorem Drawn.own_iff {row : Row} (drawn : Drawn store entries row) (state : State) :
    (row.decidedBy == .contact && row.state == state) = true ↔
      store.stateAt ⟨.contact, row.contact⟩ row.connection = some state := by
  rw [Bool.and_eq_true, beq_iff_eq, beq_iff_eq, drawn.decidedBy, drawn.state]
  cases store.stateAt ⟨.contact, row.contact⟩ row.connection with
  | some own => simp
  | none =>
    cases connectionDefaults entries row.connection <;> simp

theorem Answered.bulk (given : Answered store entries contacts) {shown : List Row}
    (isShown : shown.Sublist (toRows localeCompare
      (answered counted contacts entries names owner connections))) (state : State) :
    (bulkDecisions shown state).Nodup ∧
      ∀ pair, pair ∈ bulkDecisions shown state ↔ ∃ row ∈ shown, row.pair = pair ∧
        row.isOwner = false ∧
          store.stateAt ⟨.contact, row.contact⟩ row.connection ≠ some state := by
  unfold bulkDecisions
  rw [List.filter_filter]
  refine ⟨given.nodup.sublist ((List.filter_sublist.trans isShown).map Row.pair), fun pair => ?_⟩
  rw [List.mem_map]
  refine exists_congr fun row => ?_
  rw [List.mem_filter, and_assoc]
  refine and_congr_right fun member => ?_
  rw [and_comm, Bool.and_eq_true, Bool.not_eq_true', Bool.not_eq_true', ← Bool.not_eq_true,
    (given.drawn (isShown.subset member)).own_iff]
  exact and_congr_right fun _ => and_comm

/-- The screen shows what is in force exactly when no default stands on a connection on which
somebody but the owner was observed without having a decision of their own there. -/
theorem shows_iff (given : Answered store entries contacts) :
    Shows store (toRows localeCompare
        (answered counted contacts entries names owner connections)) ↔
      ∀ contact connection, Observed store contact connection →
        store.owner.isOwner contact = false →
        store.stateAt ⟨.contact, contact⟩ connection = none → ¬ Defaulted store connection := by
  constructor
  · intro shows contact connection observed person noOwn defaulted
    have member := (shows.exactly contact connection).mpr ⟨person, .inl observed⟩
    obtain ⟨row, isRow, isPair⟩ := List.mem_map.mp member
    cases isPair
    have drawn := given.drawn isRow
    have isDefault : (Screen.connectionDefaults entries row.connection).isSome = true :=
      Option.isSome_iff_ne_none.mpr fun noDefault =>
        (given.connectionDefaults row.connection).mp noDefault defaulted
    obtain ⟨-, kind, isKind, rest⟩ := drawn.listed
    obtain ⟨-, -, noDefault⟩ := rest.resolve_left fun decided => decided noOwn
    have sameKind := Option.some.inj (isKind.symm.trans drawn.kind)
    have shown := (shows.inForce row isRow).2.2
    rw [drawn.decidedBy, noOwn, isDefault, ConsentStore.effective, person, noOwn, ← sameKind,
      noDefault] at shown
    cases shown
  · intro clear
    refine ⟨given.nodup, fun contact connection => ?_, fun row isRow => ?_,
      fun shown state isShown => given.bulk isShown state⟩
    · rw [given.mem_pairs]
      constructor
      · rintro ⟨person, kind, isKind, isOwn | ⟨observed, -, -⟩⟩
        · exact ⟨person, .inr isOwn⟩
        · exact ⟨person, .inl observed⟩
      · rintro ⟨person, known⟩
        by_cases isOwn : store.stateAt ⟨.contact, contact⟩ connection = none
        · have observed := known.resolve_right fun other => other isOwn
          obtain ⟨kind, isKind⟩ := exists_kindOf_of_observed observed
          refine ⟨person, kind, isKind, .inr ⟨observed, isOwn, ?_⟩⟩
          refine Option.eq_none_iff_forall_not_mem.mpr fun state isState => ?_
          obtain ⟨row, inState, isSubject, isConnection, -⟩ := exists_mem_of_stateAt isState
          exact clear contact connection observed person isOwn
            ⟨row, inState, congrArg Subject.kind isSubject, isConnection⟩
        · obtain ⟨state, isState⟩ := Option.ne_none_iff_exists'.mp isOwn
          obtain ⟨row, inState, -, isConnection, -⟩ := exists_mem_of_stateAt isState
          exact ⟨person, row.network, isConnection ▸ (stateAt_of_mem inState).2, .inl isOwn⟩
    · have drawn := given.drawn isRow
      obtain ⟨person, kind, isKind, rest⟩ := drawn.listed
      have sameKind := Option.some.inj (isKind.symm.trans drawn.kind)
      refine ⟨drawn.kind, ?_, ?_⟩
      · rw [drawn.state, ConsentStore.effective, person, if_neg Bool.false_ne_true,
          Effective.resolve_state]
        rcases rest with isOwn | ⟨observed, noOwn, noDefault⟩
        · obtain ⟨state, isState⟩ := Option.ne_none_iff_exists'.mp isOwn
          rw [isState]
          rfl
        · rw [(given.connectionDefaults row.connection).mpr
            (clear row.contact row.connection observed person noOwn), noOwn, ← sameKind, noDefault]
      · rw [drawn.decidedBy, ConsentStore.effective, person, if_neg Bool.false_ne_true]
        rcases rest with isOwn | ⟨observed, noOwn, noDefault⟩
        · obtain ⟨state, isState⟩ := Option.ne_none_iff_exists'.mp isOwn
          rw [isState]
          rfl
        · rw [(given.connectionDefaults row.connection).mpr
            (clear row.contact row.connection observed person noOwn), noOwn, ← sameKind, noDefault]
          rfl

end Order

end Rows

/-! ### A contact whom only a default covers -/

def observing (journal : List JournalRow)
    (ordered : journal.Pairwise fun earlier later => earlier.sequence < later.sequence)
    (started : ∀ row ∈ journal, 0 < row.sequence)
    (eventsDistinct : journal.Pairwise fun earlier later => earlier.eventId ≠ later.eventId)
    (within : ∀ row ∈ journal, row.connections = ["whatsapp"]) : ConsentStore where
  owner := ⟨"@michel:example.com", ["@michel:example.com"], List.mem_singleton_self _⟩
  connections := [⟨"whatsapp", "whatsapp", "WhatsApp", none⟩]
  journal := journal
  contactSeen := [⟨"@alice:example.com", "whatsapp", "10:00", "10:00"⟩]
  connectionsDistinct := List.nodup_singleton _
  ordered := ordered
  started := started
  eventsDistinct := eventsDistinct
  scopeOnce row member := within row member ▸ List.nodup_singleton _
  scopeRegistered row member id isId := by
    rw [within row member] at isId
    exact isId
  seenOnce := List.nodup_singleton _
  seenRegistered _ member := by
    rw [List.mem_singleton.mp member]
    exact List.mem_singleton_self _

def defaultRow : JournalRow where
  sequence := 1
  eventId := "1"
  recorded := ⟨⟨⟨.network, "whatsapp"⟩, .granted, ["whatsapp"], [.whatsapp], none⟩, .unset,
    "2026-09-24T10:00:00.000Z", "@michel:example.com"⟩
  envelope := .null
  publishedAt := none
  streamSequence := none

def defaulting : ConsentStore :=
  observing [defaultRow] (List.pairwise_singleton _ _)
    (fun _ member => List.mem_singleton.mp member ▸ Nat.zero_lt_one)
    (List.pairwise_singleton _ _) (fun _ member => List.mem_singleton.mp member ▸ rfl)

theorem noRow_ordered :
    ([] : List JournalRow).Pairwise fun earlier later => earlier.sequence < later.sequence :=
  List.Pairwise.nil

theorem noRow_started : ∀ row ∈ ([] : List JournalRow), 0 < row.sequence :=
  fun _ member => absurd member List.not_mem_nil

theorem noRow_distinct :
    ([] : List JournalRow).Pairwise fun earlier later => earlier.eventId ≠ later.eventId :=
  List.Pairwise.nil

theorem noRow_within : ∀ row ∈ ([] : List JournalRow), row.connections = ["whatsapp"] :=
  fun _ member => absurd member List.not_mem_nil

def undecided : ConsentStore :=
  observing [] noRow_ordered noRow_started noRow_distinct noRow_within

/-- A contact nobody decided about is shown. -/
theorem shows_undecided : Shows undecided (toRows (fun _ _ => .eq) (answered none
    [⟨"@alice:example.com", "whatsapp", .whatsapp, "10:00", "10:00"⟩] [] [] none [])) := by
  refine (shows_iff ⟨?_, rfl, rfl⟩).mpr ?_
  · intro row member
    rw [List.mem_singleton.mp member]
    decide
  · rintro contact connection - - - ⟨row, member, -⟩
    cases member

/-- A contact whom a default covers has no row. -/
theorem not_shows_defaulting : Answered defaulting
      [⟨⟨.network, "whatsapp"⟩, "whatsapp", .whatsapp, .granted, "2026-09-24T10:00:00.000Z", 1⟩]
      [] ∧
    ¬ Shows defaulting (toRows (fun _ _ => .eq) (answered none []
      [⟨⟨.network, "whatsapp"⟩, "whatsapp", .whatsapp, .granted, "2026-09-24T10:00:00.000Z", 1⟩]
      [] none [])) := by
  refine ⟨⟨?_, rfl, rfl⟩, fun shows => ?_⟩
  · intro row member
    rw [List.mem_singleton.mp member]
    decide
  · have member := (shows.exactly "@alice:example.com" "whatsapp").mpr
      ⟨by decide, .inl ⟨_, List.mem_singleton_self _, rfl, rfl⟩⟩
    obtain ⟨row, isRow, -⟩ := List.mem_map.mp member
    obtain ⟨place, isSeen, -⟩ := mem_toRows.mp isRow
    cases isSeen

end Screen

end Twalk
