/-
This file models the publishing half of `collector/src/caldav.rs`: the event as
the contract publishes it once the consent rule is applied to the people in it,
the cursor a calendar is remembered by, the diff of a listing against it, and the
three envelopes. What `reduce` withholds is stated beside it, once.
-/

import Std.Data.TreeMap
import Twalk.Ical
import Twalk.Library.Sha256

namespace Twalk.Collector

open Std (TreeMap)
open Cache (Consent)

/-! ### Envelopes -/

structure Envelope (Data : Type) where
  eventType : String
  dataschema : String
  id : String
  source : String
  time : String
  subject : String
  connection : String
  data : Data
deriving DecidableEq, Repr

/-! ### Services that do not answer -/

/-- Why a side service did not answer a request. -/
inductive SideError where
  | refused (status : Nat) (challenge : Option String)
  | unreachable (detail : String)
deriving DecidableEq, Repr

namespace Caldav

def createdType : String := "fr.linagora.twalk.calendar.event.created.v1"
def changedType : String := "fr.linagora.twalk.calendar.event.changed.v1"
def removedType : String := "fr.linagora.twalk.calendar.event.removed.v1"
def schemaBase : String := "https://schemas.twalk.dev/cloudevents/v1/"

/-! ### The event as published -/

/-- Whether a published event may carry where the meeting is. -/
inductive Location where
  | carried | withheld
deriving DecidableEq, Repr

/-- The event as the contract publishes it. An absent member and a null one are the same. -/
structure Published extends Vevent where
  participantsWithheld : Nat
deriving DecidableEq, Repr

section Reduction

variable (owner : Owner) (decision : String → Consent)

def withhold (identity : String) (withheld : Nat) : Bool × Nat :=
  if owner.holdsMailto identity then (false, withheld)
  else if (decision identity).reducesPublication then (true, withheld + 1)
  else (false, withheld)

def keepUnlessWithheld (kept : List Participant × Nat) (participant : Participant) :
    List Participant × Nat :=
  match withhold owner decision participant.identity kept.2 with
  | (true, withheld) => (kept.1, withheld)
  | (false, withheld) => (kept.1 ++ [participant], withheld)

def withholdAll (participants : List Participant) : List Participant × Nat :=
  participants.foldl (keepUnlessWithheld owner decision) ([], 0)

/-- The event as the contract publishes it. A withheld organizer takes the title and the location
with them; a location also needs the owner's switch. -/
def reduce (event : Vevent) (location : Location) : Published :=
  let (participants, withheld) := withholdAll owner decision event.participants
  let (organizerWithheld, withheld) :=
    match event.organizer with
    | some person => withhold owner decision person.identity withheld
    | none => (false, withheld)
  { event with
    title := if organizerWithheld then "" else event.title
    location :=
      match location, organizerWithheld with
      | .carried, false => event.location
      | _, _ => none
    organizer := if organizerWithheld then none else event.organizer
    participants
    participantsWithheld := withheld }

def Withheld (identity : String) : Prop :=
  owner.holdsMailto identity = false ∧ decision identity = .revoked

instance (identity : String) : Decidable (Withheld owner decision identity) :=
  inferInstanceAs
    (Decidable (owner.holdsMailto identity = false ∧ decision identity = Consent.revoked))

theorem withhold_eq (identity : String) (withheld : Nat) :
    withhold owner decision identity withheld =
      if Withheld owner decision identity then (true, withheld + 1) else (false, withheld) := by
  have asked : Withheld owner decision identity ↔
      owner.holdsMailto identity = false ∧ decision identity = .revoked := Iff.rfl
  unfold withhold
  by_cases held : owner.holdsMailto identity = true
  · simp [asked, held]
  · cases answer : decision identity <;>
      simp [asked, held, answer, Cache.Consent.reducesPublication]

theorem keepUnlessWithheld_eq (kept : List Participant × Nat) (participant : Participant) :
    keepUnlessWithheld owner decision kept participant =
      if Withheld owner decision participant.identity then (kept.1, kept.2 + 1)
      else (kept.1 ++ [participant], kept.2) := by
  unfold keepUnlessWithheld
  by_cases isWithheld : Withheld owner decision participant.identity
  · simp [withhold_eq, isWithheld]
  · simp [withhold_eq, isWithheld]

theorem foldl_keepUnlessWithheld (participants : List Participant)
    (start : List Participant × Nat) :
    participants.foldl (keepUnlessWithheld owner decision) start =
      (start.1 ++ participants.filter fun one => ¬Withheld owner decision one.identity,
        start.2 + participants.countP fun one => Withheld owner decision one.identity) := by
  induction participants generalizing start with
  | nil => simp
  | cons participant rest inductionHypothesis =>
    rw [List.foldl_cons, inductionHypothesis, keepUnlessWithheld_eq]
    by_cases isWithheld : Withheld owner decision participant.identity
    · simp [isWithheld, Nat.add_assoc, Nat.add_comm 1]
    · simp [isWithheld]

theorem withholdAll_eq (participants : List Participant) :
    withholdAll owner decision participants =
      (participants.filter fun one => ¬Withheld owner decision one.identity,
        participants.countP fun one => Withheld owner decision one.identity) := by
  unfold withholdAll
  rw [foldl_keepUnlessWithheld, List.nil_append, Nat.zero_add]

def OrganizerWithheld (event : Vevent) : Prop :=
  ∃ person, event.organizer = some person ∧ Withheld owner decision person.identity

instance (event : Vevent) : Decidable (OrganizerWithheld owner decision event) :=
  inferInstanceAs (Decidable (∃ person, person ∈ event.organizer ∧
    Withheld owner decision person.identity))

structure Reduced (event : Vevent) (location : Location) (published : Published) : Prop where
  participants : published.participants =
    event.participants.filter fun one => ¬Withheld owner decision one.identity
  absent : OrganizerWithheld owner decision event →
    published.organizer = none ∧ published.title = "" ∧ published.location = none
  present : ¬OrganizerWithheld owner decision event →
    published.organizer = event.organizer ∧ published.title = event.title ∧
      published.location = if location = .carried then event.location else none
  counted : (OrganizerWithheld owner decision event →
      published.participantsWithheld =
        (event.participants.countP fun one => Withheld owner decision one.identity) + 1) ∧
    (¬OrganizerWithheld owner decision event →
      published.participantsWithheld =
        event.participants.countP fun one => Withheld owner decision one.identity)
  same : published.uid = event.uid ∧ published.start = event.start ∧
    published.finish = event.finish ∧ published.allDay = event.allDay ∧
    published.timezone = event.timezone ∧ published.status = event.status ∧
    published.recurrence = event.recurrence

theorem reduced_reduce (event : Vevent) (location : Location) :
    Reduced owner decision event location (reduce owner decision event location) := by
  have counts := withholdAll_eq owner decision event.participants
  cases organizer : event.organizer with
  | none =>
    have absent : ¬OrganizerWithheld owner decision event := by
      rintro ⟨person, isPerson, -⟩
      rw [organizer] at isPerson
      exact absurd isPerson (by simp)
    constructor <;> simp [reduce, organizer, counts, absent]
    cases location <;> rfl
  | some person =>
    by_cases isWithheld : Withheld owner decision person.identity
    · have present : OrganizerWithheld owner decision event := ⟨person, organizer, isWithheld⟩
      constructor <;> simp [reduce, organizer, counts, present, withhold_eq, isWithheld]
    · have absent : ¬OrganizerWithheld owner decision event := by
        rintro ⟨other, isOther, revoked⟩
        rw [organizer] at isOther
        exact isWithheld (Option.some.inj isOther ▸ revoked)
      constructor <;> simp [reduce, organizer, counts, absent, withhold_eq, isWithheld]
      cases location <;> rfl

end Reduction

/-! ### The cursor -/

/-- What is remembered of a resource: its ETag and the event as published, or nothing for one that
could not be read. -/
structure Known where
  etag : String
  published : Option Published
deriving DecidableEq, Repr

structure Cursor where
  ctag : Option String
  known : TreeMap String Known

/-- The cursor of a calendar that was never polled. -/
def Cursor.start : Cursor := ⟨none, ∅⟩

structure Listing where
  ctag : Option String
  etags : TreeMap String String

/-- One resource a `calendar-multiget` answered with. -/
structure Resource where
  href : String
  etag : String
  ics : String

structure Changes where
  created : List String
  changed : List String
  removed : List String
deriving DecidableEq, Repr

def Changes.toRead (changes : Changes) : List String := changes.created ++ changes.changed

def isCreated (cursor : Cursor) (listed : String × String) : Bool :=
  (cursor.known[listed.1]?).isNone

def isChanged (cursor : Cursor) (listed : String × String) : Bool :=
  (cursor.known[listed.1]?).any fun known => known.etag != listed.2

def diff (cursor : Cursor) (listing : Listing) : Changes where
  created := (listing.etags.toList.filter (isCreated cursor)).map Prod.fst
  changed := (listing.etags.toList.filter (isChanged cursor)).map Prod.fst
  removed := cursor.known.keys.filter fun href => !listing.etags.contains href

/-- The published fields that differ between two publications of one event. How many are withheld
is not one of them. -/
def changedFields (before after : Published) : List String :=
  ([("title", before.title == after.title),
    ("location", before.location == after.location),
    ("start", before.start == after.start),
    ("end", before.finish == after.finish),
    ("all_day", before.allDay == after.allDay),
    ("timezone", before.timezone == after.timezone),
    ("status", before.status == after.status),
    ("recurrence", before.recurrence == after.recurrence),
    ("organizer", before.organizer == after.organizer),
    ("participants", before.participants == after.participants)].filter
      fun field => !field.2).map Prod.fst

theorem changedFields_eq_nil_iff {before after : Published} :
    changedFields before after = [] ↔
      before.toVevent = { after.toVevent with uid := before.uid } := by
  obtain ⟨⟨_, _, _, _, _, _, _, _, _, _, _⟩, _⟩ := before
  obtain ⟨⟨_, _, _, _, _, _, _, _, _, _, _⟩, _⟩ := after
  unfold changedFields
  simp only [List.map_eq_nil_iff, List.filter_eq_nil_iff, List.mem_cons, List.not_mem_nil, or_false,
    forall_eq_or_imp, forall_eq, Bool.not_eq_true', Bool.not_eq_false, beq_iff_eq,
    Vevent.mk.injEq, true_and]

/-! ### The three envelopes -/

/-- What the three calendar events say. -/
inductive Data where
  | created (event : Published)
  | changed (event : Published) (changedFields : List String)
  | removed (uid title : String)
deriving DecidableEq, Repr

/-- Where the events of one calendar of one connection come from. -/
structure Envelopes where
  connection : String
  owner : String
  source : String

namespace Envelopes

def new (connection : String) (owner : Owner) (sideHost collection : String) : Envelopes where
  connection := connection
  owner := ownerMailto owner.primary
  source := s!"caldav://{sideHost}{collection}"

variable (envelopes : Envelopes)

def envelope (eventType schema id time : String) (data : Data) : Envelope Data where
  eventType := eventType
  dataschema := s!"{schemaBase}{schema}.schema.json"
  id := id
  source := envelopes.source
  time := time
  subject := envelopes.owner
  connection := envelopes.connection
  data := data

def created (href etag : String) (published : Published) (time : String) : Envelope Data :=
  envelopes.envelope createdType "calendar.event.created" (sha256Hex s!"caldav:{href}:{etag}")
    time (.created published)

def changed (href etag : String) (published : Published) (fields : List String)
    (time : String) : Envelope Data :=
  envelopes.envelope changedType "calendar.event.changed" (sha256Hex s!"caldav:{href}:{etag}")
    time (.changed published fields)

def removed (href ctag uid title time : String) : Envelope Data :=
  envelopes.envelope removedType "calendar.event.removed"
    (sha256Hex s!"caldav:{href}:removed:{ctag}") time (.removed uid title)

end Envelopes

end Caldav

end Twalk.Collector
