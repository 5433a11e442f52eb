/-
This file follows one calendar under consent decisions: the decisions on the mail
connection change the cache, a poll publishes under the decisions of its moment,
and what an event said when it was last read is remembered beside the cursor. An
event that was read is published without those who are withheld now; a removal
repeats the title the cursor remembers, so it spares the organizer exactly when the
title was already withheld or its organizer is not withheld now.
-/

import Twalk.CalendarRuns

namespace Twalk.Collector.Caldav

open Std (TreeMap)
open Cache (Consent ConsentCache ConsentChange)
open Calendars

/-! ### Decisions and polls -/

/-- A calendar under decisions: its cursor, the decisions, and the event last read at each href. -/
structure Agenda where
  cursor : Cursor
  consent : ConsentCache
  seen : String → Option Vevent

/-- What happens: a decision reaches the cache, or the calendar is polled. -/
inductive Turn where
  | decided (change : ConsentChange)
  | poll (locationsMayTravel : Bool) (answers : Answers) (now : String)

variable {so : Agenda}

section Turns

variable (chrono : Chrono) (base : Calendars) (ownerId : String)

/-- The calendar connection, under the decisions and the switch of one moment. -/
def current (so : Agenda) (locationsMayTravel : Bool) : Calendars :=
  { base with consent := so.consent, locationsMayTravel }

def Agenda.start : Agenda := ⟨.start, base.consent, fun _ => none⟩

def seenAfter (so : Agenda) (read : Listing × List Resource) (href : String) : Option Vevent :=
  if href ∈ (diff so.cursor read.1).toRead then
    match byHref read.2 href with
    | some resource => (parseVevent chrono resource.ics).toOption
    | none => so.seen href
  else so.seen href

def turn (so : Agenda) : Turn → Agenda
  | .decided change => { so with consent := so.consent.apply change }
  | .poll locationsMayTravel answers now =>
    match asked so.cursor answers with
    | none => so
    | some read =>
      { so with
        cursor := (reconciled chrono (current base so locationsMayTravel) ownerId so.cursor
          answers.calendar read now).next
        seen := seenAfter chrono so read }

theorem turn_of_asked {answers : Answers} {read : Listing × List Resource}
    (isAsked : asked so.cursor answers = some read) (locationsMayTravel : Bool) (now : String) :
    turn chrono base ownerId so (.poll locationsMayTravel answers now) =
      { so with
        cursor := (reconciled chrono (current base so locationsMayTravel) ownerId so.cursor
          answers.calendar read now).next
        seen := seenAfter chrono so read } := by
  unfold turn
  dsimp only
  rw [isAsked]

theorem turn_of_unasked {answers : Answers} (unasked : asked so.cursor answers = none)
    (locationsMayTravel : Bool) (now : String) :
    turn chrono base ownerId so (.poll locationsMayTravel answers now) = so := by
  unfold turn
  dsimp only
  rw [unasked]

/-! ### What an envelope spares -/

/-- An envelope of a poll is about the event of an href: one that was read, or the one last read
at an href that is gone. -/
inductive SaidAbout (so : Agenda) (calendars : Calendars) (calendar : Calendar)
    (read : Listing × List Resource) (now href : String) (event : Vevent)
    (envelope : Envelope Data) : Prop where
  | read (resource : Resource) (among : href ∈ (diff so.cursor read.1).toRead)
    (answered : byHref read.2 href = some resource)
    (parsed : parseVevent chrono resource.ics = .ok event)
    (isSaid : said chrono calendars
      (Envelopes.new calendars.connection calendars.owner calendars.sideHost
        (collectionPath ownerId calendar.id)) so.cursor read.2 now href = some envelope)
  | gone (among : href ∈ (diff so.cursor read.1).removed) (was : so.seen href = some event)
    (isSaid : saidGone
      (Envelopes.new calendars.connection calendars.owner calendars.sideHost
        (collectionPath ownerId calendar.id)) so.cursor now read.1.ctag href = some envelope)

end Turns

/-- A publication of an event names nobody who is withheld, keeps a withheld organizer's words
back, and keeps the owner and the count right. -/
structure Spares (owner : Owner) (decision : String → Consent) (event : Vevent)
    (published : Published) : Prop where
  participants : ∀ participant ∈ published.participants,
    ¬Withheld owner decision participant.identity
  organizer : ∀ person, published.organizer = some person →
    ¬Withheld owner decision person.identity
  words : OrganizerWithheld owner decision event →
    published.title = "" ∧ published.location = none
  ownParticipants : ∀ participant ∈ event.participants,
    owner.holdsMailto participant.identity = true → participant ∈ published.participants
  ownOrganizer : ∀ person, event.organizer = some person →
    owner.holdsMailto person.identity = true → published.organizer = some person
  counted : (OrganizerWithheld owner decision event →
      published.participantsWithheld =
        (event.participants.countP fun one => Withheld owner decision one.identity) + 1) ∧
    (¬OrganizerWithheld owner decision event →
      published.participantsWithheld =
        event.participants.countP fun one => Withheld owner decision one.identity)

def SparesIn (owner : Owner) (decision : String → Consent) (event : Vevent) : Data → Prop
  | .created published => Spares owner decision event published
  | .changed published _ => Spares owner decision event published
  | .removed _ title => OrganizerWithheld owner decision event → title = ""

theorem notWithheld_of_owner {owner : Owner} {decision : String → Consent} {identity : String}
    (own : owner.holdsMailto identity = true) : ¬Withheld owner decision identity := by
  rintro ⟨other, -⟩
  rw [own] at other
  exact absurd other (by simp)

theorem spares_reduce (owner : Owner) (decision : String → Consent) (event : Vevent)
    (location : Location) : Spares owner decision event (reduce owner decision event location) := by
  have reduced := reduced_reduce owner decision event location
  have keptOrganizer (person : Person) (isOrganizer : event.organizer = some person)
      (shown : ¬Withheld owner decision person.identity) :
      ¬OrganizerWithheld owner decision event := by
    rintro ⟨other, isOther, withheld⟩
    rw [isOrganizer] at isOther
    exact shown (Option.some.inj isOther ▸ withheld)
  constructor
  · intro participant member
    rw [reduced.participants, List.mem_filter] at member
    simpa using member.2
  · intro person isOrganizer withheld
    by_cases hidden : OrganizerWithheld owner decision event
    · rw [(reduced.absent hidden).1] at isOrganizer
      exact absurd isOrganizer (by simp)
    · rw [(reduced.present hidden).1] at isOrganizer
      exact hidden ⟨person, isOrganizer, withheld⟩
  · exact fun hidden => (reduced.absent hidden).2
  · intro participant member own
    rw [reduced.participants, List.mem_filter]
    exact ⟨member, by simpa using notWithheld_of_owner own⟩
  · intro person isOrganizer own
    rw [(reduced.present (keptOrganizer person isOrganizer (notWithheld_of_owner own))).1]
    exact isOrganizer
  · exact reduced.counted

/-! ### What one poll publishes -/

section Steps

variable (chrono : Chrono) (base : Calendars) (ownerId : String)

/-- Every envelope a poll publishes is about an event, and spares those the event names who are
withheld at that moment. -/
def Discreet (so : Agenda) : Turn → Prop
  | .decided _ => True
  | .poll locationsMayTravel answers now => ∀ read found,
      asked so.cursor answers = some read →
      pollCalendar chrono (current base so locationsMayTravel) ownerId so.cursor answers now =
        .ok (some found) →
      ∀ envelope ∈ found.out,
        (∃ href event, SaidAbout chrono ownerId so (current base so locationsMayTravel)
          answers.calendar read now href event envelope) ∧
        ∀ href event, SaidAbout chrono ownerId so (current base so locationsMayTravel)
          answers.calendar read now href event envelope →
          SparesIn base.owner (current base so locationsMayTravel).decide event envelope.data

/-- No resource that is gone has an organizer who is withheld now and a title that was published
when they were not. -/
def Kept (so : Agenda) : Turn → Prop
  | .decided _ => True
  | .poll locationsMayTravel answers _ => ∀ read ∈ asked so.cursor answers,
      ∀ href ∈ (diff so.cursor read.1).removed, ∀ published ∈ remembered so.cursor href,
        ∀ event ∈ so.seen href,
          OrganizerWithheld base.owner (current base so locationsMayTravel).decide event →
            published.title = ""

instance (so : Agenda) : (next : Turn) → Decidable (Kept base so next)
  | .decided _ => inferInstanceAs (Decidable True)
  | .poll locationsMayTravel answers _ => inferInstanceAs (Decidable
      (∀ read ∈ asked so.cursor answers, ∀ href ∈ (diff so.cursor read.1).removed,
        ∀ published ∈ remembered so.cursor href, ∀ event ∈ so.seen href,
          OrganizerWithheld base.owner (current base so locationsMayTravel).decide event →
            published.title = ""))

/-- What is published was last read as an event. -/
def Read (so : Agenda) : Prop :=
  ∀ href, (remembered so.cursor href).isSome → (so.seen href).isSome

theorem read_start : Read (Agenda.start base) := by
  intro href known
  unfold remembered Agenda.start Cursor.start at known
  rw [TreeMap.getElem?_emptyc] at known
  exact absurd known (by decide)

theorem isSome_toOption_publishable {calendars : Calendars} {resource : Resource} :
    (publishable chrono calendars resource).toOption.isSome =
      (parseVevent chrono resource.ics).toOption.isSome := by
  unfold publishable
  cases parseVevent chrono resource.ics <;> rfl

theorem read_turn (isRead : Read so) (next : Turn) :
    Read (turn chrono base ownerId so next) := by
  cases next with
  | decided change => exact isRead
  | poll locationsMayTravel answers now =>
    cases isAsked : asked so.cursor answers with
    | none =>
      rw [turn_of_unasked chrono base ownerId isAsked]
      exact isRead
    | some read =>
      rw [turn_of_asked chrono base ownerId isAsked]
      intro href known
      dsimp only at known ⊢
      unfold reconciled at known
      rw [remembered_reconcile] at known
      unfold seenAfter
      by_cases among : href ∈ (diff so.cursor read.1).toRead
      · rw [if_pos among]
        rw [if_pos among] at known
        cases answered : byHref read.2 href with
        | none =>
          rw [answered] at known
          split at known
          · exact absurd known (by simp)
          · exact isRead href known
        | some resource =>
          rw [answered] at known
          split at known
          · exact absurd known (by simp)
          · exact isSome_toOption_publishable chrono ▸ known
      · rw [if_neg among]
        rw [if_neg among] at known
        split at known
        · exact absurd known (by simp)
        · exact isRead href known

variable {chrono} {so : Agenda} {calendars : Calendars} {calendar : Calendar}
  {read : Listing × List Resource} {now : String}

variable {envelope : Envelope Data}

theorem sparesIn_of_said {envelopes : Envelopes} {href : String} {resource : Resource}
    {event : Vevent} (answered : byHref read.2 href = some resource)
    (parsed : parseVevent chrono resource.ics = .ok event)
    (isSaid : said chrono calendars envelopes so.cursor read.2 now href = some envelope) :
    SparesIn calendars.owner calendars.decide event envelope.data := by
  have published : (publishable chrono calendars resource).toOption =
      some (reduce calendars.owner calendars.decide event calendars.location) := by
    unfold publishable
    rw [parsed]
    rfl
  have spares := spares_reduce calendars.owner calendars.decide event calendars.location
  unfold said at isSaid
  rw [answered] at isSaid
  change announce envelopes now href resource.etag
    (publishable chrono calendars resource).toOption (remembered so.cursor href) = _ at isSaid
  rw [published] at isSaid
  cases before : remembered so.cursor href with
  | none =>
    rw [before] at isSaid
    obtain rfl := Option.some.inj isSaid
    exact spares
  | some old =>
    rw [before] at isSaid
    by_cases still : changedFields old
        (reduce calendars.owner calendars.decide event calendars.location) = []
    · rw [announce_of_still still] at isSaid
      exact absurd isSaid (by simp)
    · rw [announce_of_moved still] at isSaid
      obtain rfl := Option.some.inj isSaid
      exact spares

theorem exists_saidAbout (isRead : Read so)
    (member : envelope ∈ (reconciled chrono calendars ownerId so.cursor calendar read now).out) :
    ∃ href event, SaidAbout chrono ownerId so calendars calendar read now href event envelope := by
  unfold reconciled at member
  rw [out_reconcile] at member
  rcases List.mem_append.mp member with ofRead | ofGone
  · obtain ⟨href, among, isSaid⟩ := List.mem_filterMap.mp ofRead
    have saidNow := isSaid
    unfold said at saidNow
    obtain ⟨resource, answered, announced⟩ := Option.bind_eq_some_iff.mp saidNow
    cases parsed : parseVevent chrono resource.ics with
    | ok event => exact ⟨href, event, .read resource among answered parsed isSaid⟩
    | error why =>
      have unpublished : (publishable chrono calendars resource).toOption = none := by
        unfold publishable
        rw [parsed]
        rfl
      rw [unpublished] at announced
      exact absurd announced (by simp [announce])
  · obtain ⟨href, among, isSaid⟩ := List.mem_filterMap.mp ofGone
    have saidNow := isSaid
    unfold saidGone at saidNow
    obtain ⟨published, was, -⟩ := Option.map_eq_some_iff.mp saidNow
    obtain ⟨event, seen⟩ := Option.isSome_iff_exists.mp (isRead href (by rw [was]; rfl))
    exact ⟨href, event, .gone among seen isSaid⟩

theorem discreet_iff_kept (isRead : Read so) (next : Turn) :
    Discreet chrono base ownerId so next ↔ Kept base so next := by
  cases next with
  | decided change => exact Iff.rfl
  | poll locationsMayTravel answers now =>
    constructor
    · intro discreet read isAsked href gone published was event seen withheld
      have notFirst : firstPoll so.cursor = false := by
        unfold firstPoll
        rw [Bool.and_eq_false_iff]
        refine Or.inr (Bool.eq_false_iff.mpr fun isEmpty => ?_)
        have known : remembered so.cursor href = some published := was
        unfold remembered at known
        rw [TreeMap.getElem?_of_isEmpty isEmpty] at known
        exact absurd known (by simp)
      have isSaid : saidGone
          (Envelopes.new base.connection base.owner base.sideHost
            (collectionPath ownerId answers.calendar.id)) so.cursor now read.1.ctag href =
          some (Envelopes.removed (Envelopes.new base.connection base.owner base.sideHost
            (collectionPath ownerId answers.calendar.id)) href (read.1.ctag.getD "")
            published.uid published.title now) := by
        unfold saidGone
        rw [show remembered so.cursor href = some published from was]
        rfl
      have isFound := pollCalendar_of_asked chrono (current base so locationsMayTravel) isAsked
        ownerId now
      refine (discreet read _ isAsked isFound _ ?_).2 href event (.gone gone seen isSaid) withheld
      dsimp only
      rw [if_neg (by simpa using notFirst)]
      unfold reconciled
      rw [out_reconcile]
      exact List.mem_append_right _ (List.mem_filterMap.mpr ⟨href, gone, isSaid⟩)
    · intro kept read found isAsked isFound envelope member
      obtain ⟨other, otherAsked, rfl⟩ := (pollCalendar_eq_ok_some chrono _).mp isFound
      obtain rfl : read = other := Option.some.inj (isAsked.symm.trans otherAsked)
      dsimp only at member
      split at member
      · exact absurd member (by simp)
      · refine ⟨exists_saidAbout ownerId isRead member, ?_⟩
        rintro href event (⟨resource, among, answered, parsed, isSaid⟩ | ⟨gone, seen, isSaid⟩)
        · exact sparesIn_of_said answered parsed isSaid
        · unfold saidGone at isSaid
          obtain ⟨published, was, rfl⟩ := Option.map_eq_some_iff.mp isSaid
          exact fun withheld => kept read isAsked href gone published was event seen withheld

end Steps

/-! ### Every run -/

/-- A run of decisions and polls publishes nothing of those who are withheld exactly when no
removal repeats the title of an organizer who is withheld by then. -/
theorem run_discreet_iff (chrono : Chrono) (base : Calendars) (ownerId : String)
    (turns : List Turn) :
    Along (turn chrono base ownerId) (Discreet chrono base ownerId) (Agenda.start base) turns ↔
      Along (turn chrono base ownerId) (Kept base) (Agenda.start base) turns :=
  along_iff_along Read (fun _ next isRead => read_turn chrono base ownerId isRead next)
    (fun _ next isRead => discreet_iff_kept base ownerId isRead next) (read_start base) turns

namespace RevokedOrganizer

open OneCalendar (calendars)

def invitation : Resource :=
  ⟨"/work/merger.ics", "merger-1",
    "BEGIN:VEVENT\nUID:merger\nSUMMARY:The merger\nDTSTART:20261005T090000Z\n" ++
      "ORGANIZER;CN=Alice:mailto:Alice@Example.com\nEND:VEVENT"⟩

def poll (ctag : String) (resources : List Resource) : Turn :=
  .poll false
    { calendar := ⟨"work", "Work", some ctag⟩
      listing := .ok ⟨none, .ofList (resources.map fun resource => (resource.href, resource.etag))⟩
      read := fun hrefs => .ok (resources.filter fun resource => hrefs.contains resource.href) }
    "2026-10-01T08:00:00Z"

def turns : List Turn :=
  [poll "1" [invitation], .decided ⟨.contact "mailto:alice@example.com", .revoked, ["mail"]⟩,
    poll "2" []]

/-- The removal repeats the title of an organizer who is withheld by then. -/
theorem title_repeated :
    ¬ Along (turn utcChrono calendars "me") (Discreet utcChrono calendars "me")
      (Agenda.start calendars) turns := by
  intro discreet
  have kept : Along (turn utcChrono calendars "me") (Kept calendars)
      (Agenda.start calendars) turns :=
    (along_iff_along Read (fun _ next isRead => read_turn utcChrono calendars "me" isRead next)
      (fun _ next isRead => discreet_iff_kept calendars "me" isRead next) (read_start calendars)
      turns).mp discreet
  revert kept
  decide +kernel

end RevokedOrganizer

end Twalk.Collector.Caldav
