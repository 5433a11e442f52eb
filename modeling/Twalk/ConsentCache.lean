/-
This file models `consent-cache/src/lib.rs`: a consumer's own view of consent,
filled from a snapshot document and from change events, and refusing what is
about the operator or about a bridge's bot. The cache is written entry after
entry, so what it reads at a contact or at a default is what the last entry it
took about that place says.
-/

import Mathlib.Data.List.Dedup
import Mathlib.Data.Fintype.EquivFin
import Twalk.Library.Json
import Twalk.Library.Ledger
import Twalk.Library.Sorting
import Twalk.Library.System

namespace Twalk.Cache

/-! ### Reading documents -/

inductive Consent where
  | granted | pending | revoked
deriving DecidableEq, Repr

def Consent.asStr : Consent → String
  | granted => "granted"
  | pending => "pending"
  | revoked => "revoked"

def Consent.fromLabel (label : String) : Consent :=
  match label with
  | "granted" => granted
  | "pending" => pending
  | "revoked" => revoked
  | _ => pending

/-- Whether this state reduces what is published about the subject. -/
def Consent.reducesPublication : Consent → Bool
  | revoked => true
  | granted | pending => false

inductive ConsentSubject where
  | contact (id : String)
  | networkDefault
deriving DecidableEq, Repr

/-- Why a consent document cannot be applied. -/
inductive Unusable where
  | notAboutASender
  | noConnection
  | malformed
deriving DecidableEq, Repr

structure ConsentEntry where
  subject : ConsentSubject
  connection : String
  state : Consent
deriving DecidableEq, Repr

structure ConsentChange where
  subject : ConsentSubject
  newState : Consent
  connections : List String
deriving DecidableEq, Repr

structure Snapshot where
  entries : List ConsentEntry
  unusable : List Unusable
  nextStreamSequence : Nat
deriving DecidableEq, Repr

def required (found : Option String) (why : Unusable) : Except Unusable String :=
  match found with
  | some value => .ok value
  | none => .error why

def member (document : Json) (name : String) (why : Unusable) : Except Unusable Json :=
  match document.get? name with
  | some value => .ok value
  | none => .error why

def ConsentSubject.parse (subject : Json) : Except Unusable ConsentSubject := do
  match ← required (subject.textAt ["type"]) .malformed with
  | "contact" => return .contact (← required (subject.textAt ["id"]) .malformed)
  | "network" => return .networkDefault
  | _ => .error .notAboutASender

def ConsentEntry.parse (entry : Json) : Except Unusable ConsentEntry := do
  let subject ← ConsentSubject.parse (← member entry "subject" .malformed)
  let connection ← required ((entry.textAt ["connection"]).filter fun id => id != "")
    .noConnection
  let label ← required (entry.textAt ["state"]) .malformed
  return ⟨subject, connection, Consent.fromLabel label⟩

def scopeConnections (data : Json) : Except Unusable (List String) :=
  match (data.pointer ["scope", "connections"]).bind Json.asArray with
  | none => .error .noConnection
  | some items =>
    let connections := (items.filterMap Json.asStr).filter fun id => id != ""
    if connections.isEmpty then .error .noConnection else .ok connections

def ConsentChange.parse (event : Json) : Except Unusable ConsentChange := do
  let data ← member event "data" .malformed
  let subject ← ConsentSubject.parse (← member data "subject" .malformed)
  let label ← required (data.textAt ["new_state"]) .malformed
  let connections ← scopeConnections data
  return ⟨subject, Consent.fromLabel label, connections⟩

def ConsentChange.entries (change : ConsentChange) : List ConsentEntry :=
  change.connections.map fun connection => ⟨change.subject, connection, change.newState⟩

def Snapshot.parse (document : Json) : Option Snapshot := do
  let nextStreamSequence ← (document.get? "next_stream_sequence").bind Json.asNat
  let entries ← (document.get? "entries").bind Json.asArray
  let parsed := entries.map ConsentEntry.parse
  return {
    entries := parsed.filterMap Except.toOption
    unusable := parsed.filterMap fun
      | .error why => some why
      | .ok _ => none
    nextStreamSequence }

/-! ### What the cache holds -/

structure Owner where
  matrixId : String
  identities : List String
  ownIdentity : matrixId ∈ identities

def Owner.new (matrixId : String) (ghosts : List String) : Owner where
  matrixId := matrixId
  identities := sortTexts (matrixId :: ghosts).dedup
  ownIdentity :=
    (perm_sortTexts _).mem_iff.mpr (List.mem_dedup.mpr List.mem_cons_self)

def Owner.isOwner (owner : Owner) (userId : String) : Bool := owner.identities.contains userId

structure States where
  contacts : String → String → Option Consent
  defaults : String → Option Consent

def States.empty : States := ⟨fun _ _ => none, fun _ => none⟩

structure ConsentCache where
  states : States
  owner : Option Owner
  bridgeBots : List String

def insert (states : States) (entry : ConsentEntry) : States :=
  match entry.subject with
  | .contact id =>
    { states with
      contacts := fun subject connection =>
        if subject = id ∧ connection = entry.connection then some entry.state
        else states.contacts subject connection }
  | .networkDefault =>
    { states with
      defaults := fun connection =>
        if connection = entry.connection then some entry.state else states.defaults connection }

namespace ConsentCache

def forPeopleOnly (owner : Option Owner) (bridgeBots : List String) : ConsentCache :=
  ⟨States.empty, owner, bridgeBots⟩

def notAPerson (cache : ConsentCache) (subject : String) : Bool :=
  (cache.owner.any fun owner => owner.isOwner subject) || cache.bridgeBots.contains subject

def refuses (cache : ConsentCache) (entry : ConsentEntry) : Bool :=
  match entry.subject with
  | .contact id => cache.notAPerson id
  | .networkDefault => false

def state (cache : ConsentCache) (subject connection : String) : Consent :=
  ((cache.states.contacts subject connection).or (cache.states.defaults connection)).getD
    .pending

def take (cache : ConsentCache) (states : States) (entry : ConsentEntry) : States :=
  if cache.refuses entry then states else insert states entry

def apply (cache : ConsentCache) (change : ConsentChange) : ConsentCache :=
  { cache with states := change.entries.foldl cache.take cache.states }

def applySnapshot (cache : ConsentCache) (snapshot : Snapshot) : ConsentCache :=
  { cache with states := snapshot.entries.foldl cache.take States.empty }

def follow (cache : ConsentCache) (events : List Json) : ConsentCache :=
  (events.filterMap fun event => (ConsentChange.parse event).toOption).foldl apply cache

/-- The change a message carries; one that is not JSON, or cannot be read, carries none. -/
def changeOf (payload : Option Json) : Option ConsentChange :=
  payload.bind fun event => (ConsentChange.parse event).toOption

def entriesOf (payload : Option Json) : List ConsentEntry :=
  ((changeOf payload).map ConsentChange.entries).getD []

/-- A message off the stream is handed to the cache. -/
def consume (cache : ConsentCache) (payload : Option Json) : ConsentCache :=
  match changeOf payload with
  | some change => cache.apply change
  | none => cache

/-! ### What the cache reads -/

variable (cache : ConsentCache)

def setsContact (id connection : String) (entry : ConsentEntry) : Bool :=
  entry.subject == .contact id && entry.connection == connection && !cache.notAPerson id

def setsDefault (connection : String) (entry : ConsentEntry) : Bool :=
  entry.subject == .networkDefault && entry.connection == connection

theorem contacts_take (states : States) (entry : ConsentEntry) (id connection : String) :
    (cache.take states entry).contacts id connection =
      if cache.setsContact id connection entry then some entry.state
      else states.contacts id connection := by
  obtain ⟨subject, on, state⟩ := entry
  cases subject with
  | networkDefault => rfl
  | contact named =>
    unfold take refuses insert setsContact
    by_cases same : id = named
    · subst same
      cases excluded : cache.notAPerson id with
      | true => simp [excluded]
      | false =>
        by_cases here : connection = on
        · simp [excluded, here]
        · simp [excluded, here, Ne.symm here]
    · have elsewhere : ¬ConsentSubject.contact named = ConsentSubject.contact id :=
        fun equal => same (ConsentSubject.contact.inj equal).symm
      cases excluded : cache.notAPerson named with
      | true => simp [excluded, elsewhere]
      | false => simp [excluded, same, elsewhere]

theorem defaults_take (states : States) (entry : ConsentEntry) (connection : String) :
    (cache.take states entry).defaults connection =
      if setsDefault connection entry then some entry.state else states.defaults connection := by
  obtain ⟨subject, on, state⟩ := entry
  cases subject with
  | contact named =>
    unfold take refuses insert setsDefault
    cases excluded : cache.notAPerson named <;> simp [excluded]
  | networkDefault =>
    unfold take refuses insert setsDefault
    by_cases here : connection = on
    · simp [here]
    · simp [here, Ne.symm here]

theorem contacts_foldl_take (entries : List ConsentEntry) (states : States)
    (id connection : String) :
    (entries.foldl cache.take states).contacts id connection =
      ((latest (cache.setsContact id connection) entries).map ConsentEntry.state).or
        (states.contacts id connection) :=
  read_foldl (fun states : States => states.contacts id connection)
    (fun states entry sets => by rw [contacts_take, if_pos sets])
    (fun states entry misses => by rw [contacts_take, misses]; rfl) entries states

theorem defaults_foldl_take (entries : List ConsentEntry) (states : States)
    (connection : String) :
    (entries.foldl cache.take states).defaults connection =
      ((latest (setsDefault connection) entries).map ConsentEntry.state).or
        (states.defaults connection) :=
  read_foldl (fun states : States => states.defaults connection)
    (fun states entry sets => by rw [defaults_take, if_pos sets])
    (fun states entry misses => by rw [defaults_take, misses]; rfl) entries states

theorem foldl_apply (changes : List ConsentChange) :
    changes.foldl apply cache =
      { cache with
        states := (changes.flatMap ConsentChange.entries).foldl cache.take cache.states } := by
  induction changes generalizing cache with
  | nil => rfl
  | cons change rest inductionHypothesis =>
    rw [List.foldl_cons, inductionHypothesis, List.flatMap_cons, List.foldl_append]
    rfl

variable {first second : States}

theorem states_ext
    (contacts : ∀ id connection, first.contacts id connection = second.contacts id connection)
    (defaults : ∀ connection, first.defaults connection = second.defaults connection) :
    first = second := by
  obtain ⟨firstContacts, firstDefaults⟩ := first
  obtain ⟨secondContacts, secondDefaults⟩ := second
  obtain rfl : firstContacts = secondContacts := funext fun id => funext fun on => contacts id on
  obtain rfl : firstDefaults = secondDefaults := funext fun on => defaults on
  rfl

/-! ### One place of the cache -/

inductive Place where
  | own (id connection : String)
  | default (connection : String)
deriving DecidableEq, Repr

def readAt (states : States) : Place → Option Consent
  | .own id connection => states.contacts id connection
  | .default connection => states.defaults connection

def sets : Place → ConsentEntry → Bool
  | .own id connection => cache.setsContact id connection
  | .default connection => setsDefault connection

theorem readAt_foldl_take (entries : List ConsentEntry) (states : States) (place : Place) :
    readAt (entries.foldl cache.take states) place =
      ((latest (cache.sets place) entries).map ConsentEntry.state).or (readAt states place) := by
  cases place with
  | own id connection => exact contacts_foldl_take cache entries states id connection
  | default connection => exact defaults_foldl_take cache entries states connection

theorem states_eq_iff :
    first = second ↔ ∀ place, readAt first place = readAt second place :=
  ⟨fun same _ => same ▸ rfl,
    fun same => states_ext (fun id connection => same (.own id connection))
      fun connection => same (.default connection)⟩

def answerOf (states : States) (subject connection : String) : Consent :=
  ((readAt states (.own subject connection)).or (readAt states (.default connection))).getD .pending

theorem state_eq_answerOf (subject connection : String) :
    cache.state subject connection = answerOf cache.states subject connection :=
  rfl

theorem sets_consume (payload : Option Json) (place : Place) :
    (consume cache payload).sets place = cache.sets place := by
  unfold consume
  cases changeOf payload <;> cases place <;> rfl

theorem take_consume (payload : Option Json) : (consume cache payload).take = cache.take := by
  unfold consume
  cases changeOf payload <;> rfl

theorem states_consume (payload : Option Json) :
    (consume cache payload).states = (entriesOf payload).foldl cache.take cache.states := by
  unfold consume entriesOf
  cases changeOf payload <;> rfl

def contactOf (entry : ConsentEntry) : Option String :=
  match entry.subject with
  | .contact id => some id
  | .networkDefault => none

theorem exists_unnamed (entries : List ConsentEntry) :
    ∃ id, ∀ connection, readAt (entries.foldl cache.take States.empty) (.own id connection) =
      none := by
  obtain ⟨id, isNew⟩ := Infinite.exists_notMem_finset (entries.filterMap contactOf).toFinset
  refine ⟨id, fun connection => ?_⟩
  rw [readAt_foldl_take, latest_eq_none_iff.mpr]
  · rfl
  · intro entry member
    have other : (entry.subject == .contact id) = false := by
      refine beq_false_of_ne fun same => isNew ?_
      rw [List.mem_toFinset, List.mem_filterMap]
      exact ⟨entry, member, by rw [contactOf, same]⟩
    simp [sets, setsContact, other]

theorem states_eq_of_answers
    (places : ∀ place, (readAt first place).isSome = (readAt second place).isSome) {id : String}
    (unnamed : ∀ connection, readAt first (.own id connection) = none)
    (same : ∀ subject connection, answerOf first subject connection =
      answerOf second subject connection) : first = second := by
  have agree : ∀ place, (∀ one other, readAt first place = some one →
      readAt second place = some other → one = other) →
        readAt first place = readAt second place := by
    intro place inside
    have isThere := places place
    cases foundFirst : readAt first place with
    | none =>
      rw [foundFirst] at isThere
      exact (Option.not_isSome_iff_eq_none.mp (by simp [← isThere])).symm
    | some one =>
      cases foundSecond : readAt second place with
      | none => simp [foundFirst, foundSecond] at isThere
      | some other => rw [inside one other foundFirst foundSecond]
  refine states_eq_iff.mpr fun place => agree place fun one other foundFirst foundSecond => ?_
  cases place with
  | own subject connection =>
    have answers := same subject connection
    unfold answerOf at answers
    rw [foundFirst, foundSecond] at answers
    exact answers
  | default connection =>
    have answers := same id connection
    have unnamedSecond : readAt second (.own id connection) = none := by
      have isThere := places (.own id connection)
      rw [unnamed connection] at isThere
      exact Option.not_isSome_iff_eq_none.mp (by simp [← isThere])
    unfold answerOf at answers
    rw [unnamed connection, unnamedSecond, foundFirst, foundSecond] at answers
    exact answers

end ConsentCache

end Twalk.Cache
