/-
This file follows one calendar under the owner's decision on the location, as the run
loop of `collector/src/main.rs` keeps it: a flag that a readable switch sets, and that an
unreadable one shuts. A round that finds the flag open and the switch unreadable publishes
nothing, but shuts the flag, so the next one that finds it unreadable publishes with the
flag shut what the decision has open. A change then names the location of an event nobody
touched; it never does when the copy it is compared with was made with the flag as it is.
-/

import Twalk.CalendarWords

namespace Twalk.Collector.Caldav

open Cache (ConsentChange)
open Calendars

/-! ### The switch and the calendar -/

/-- How a copy of an event was made: whether its organizer was withheld, the decision on the
location as it was last read, and the flag. -/
structure Mark where
  withheld : Bool
  decision : Bool
  enabled : Bool
deriving DecidableEq, Repr

/-- A calendar under the switch: its agenda, the flag, the decision as it was last read, and how
each copy was made. -/
structure Watched where
  agenda : Agenda
  enabled : Bool
  decision : Bool
  marks : String → Option Mark

/-- What happens: a consent decision reaches the cache, the process is started again, or the
calendar is due. A round that is due reads the switch, unless it cannot, and polls; the cursor may
be written or not. -/
inductive Watch where
  | decided (change : ConsentChange)
  | restarted (decision : Bool)
  | round (reading : Option Bool) (answers : Answers) (now : String) (committed : Bool)

variable {so : Watched}

section Rounds

variable (chrono : Chrono) (base : Calendars) (ownerId : String)

/-- A process that read the switch as it started, and a calendar that was never polled. -/
def Watched.start (decision : Bool) : Watched := ⟨.start base, decision, decision, fun _ => none⟩

def flagAfter (reading : Option Bool) : Bool := reading.getD false

/-- Whether a round may publish: not one that finds the flag open and the switch unreadable. -/
def mayPublish (enabled : Bool) (reading : Option Bool) : Bool := reading.isSome || !enabled

namespace Watched

variable (so : Watched)

def decisionAfter (reading : Option Bool) : Bool := reading.getD so.decision

def withheldNow (event : Vevent) : Bool :=
  OrganizerWithheld base.owner (current base so.agenda false).decide event

/-- How the copies are made that a round makes. -/
def markNow (reading : Option Bool) (event : Vevent) : Mark :=
  ⟨so.withheldNow base event, so.decisionAfter reading, flagAfter reading⟩

def marksAfter (reading : Option Bool) (read : Listing × List Resource) (href : String) :
    Option Mark :=
  if href ∈ (diff so.agenda.cursor read.1).toRead then
    match byHref read.2 href with
    | some resource =>
      (parseVevent chrono resource.ics).toOption.map (so.markNow base reading)
    | none => so.marks href
  else so.marks href

end Watched

/-- One round, or what comes between two. -/
def watch (so : Watched) : Watch → Watched
  | .decided change => { so with agenda := turn chrono base ownerId so.agenda (.decided change) }
  | .restarted decision => { so with enabled := decision, decision }
  | .round reading answers now committed =>
    let enabled := flagAfter reading
    let decision := so.decisionAfter reading
    if mayPublish so.enabled reading && committed then
      match asked so.agenda.cursor answers with
      | none => { so with enabled, decision }
      | some read =>
        { agenda := turn chrono base ownerId so.agenda (.poll enabled answers now)
          enabled
          decision
          marks := so.marksAfter chrono base reading read }
    else { so with enabled, decision }

/-! ### What a change says of the location -/

def Mark.location (mark : Mark) (event : Vevent) : Option String :=
  if mark.withheld = false ∧ mark.enabled = true then event.location else none

structure SaidChanged (so : Agenda) (calendars : Calendars) (calendar : Calendar)
    (read : Listing × List Resource) (now href : String) (event : Vevent) (fields : List String) :
    Prop where
  among : href ∈ (diff so.cursor read.1).toRead
  isRead : ∃ resource, byHref read.2 href = some resource ∧
    parseVevent chrono resource.ics = .ok event ∧
      ∃ envelope, said chrono calendars
          (Envelopes.new calendars.connection calendars.owner calendars.sideHost
            (collectionPath ownerId calendar.id)) so.cursor read.2 now href = some envelope ∧
        ∃ published, envelope.data = .changed published fields

/-- A change that names the location is of an event whose location is another than when the copy it
is compared with was made, whose organizer's decision is another, or the owner's is. -/
def NamesLocationTruly (so : Watched) : Watch → Prop
  | .decided _ => True
  | .restarted _ => True
  | .round reading answers now _ => mayPublish so.enabled reading = true →
      ∀ read, asked so.agenda.cursor answers = some read → ∀ href event fields,
        SaidChanged chrono ownerId so.agenda (current base so.agenda (flagAfter reading))
            answers.calendar read now href event fields →
          "location" ∈ fields →
            ∃ was mark, so.agenda.seen href = some was ∧ so.marks href = some mark ∧
              (was.location ≠ event.location ∨ mark.withheld ≠ so.withheldNow base event ∨
                mark.decision ≠ so.decisionAfter reading)

/-- Every copy a round compares an event with, that agrees with it in the location, the organizer's
decision and the owner's, was made with the flag as it is, unless there is no location to say. -/
def FlagStands (so : Watched) : Watch → Prop
  | .decided _ => True
  | .restarted _ => True
  | .round reading answers _ _ => mayPublish so.enabled reading = true →
      ∀ read ∈ asked so.agenda.cursor answers,
        ∀ href ∈ (diff so.agenda.cursor read.1).toRead, ∀ resource ∈ byHref read.2 href,
          ∀ event ∈ (parseVevent chrono resource.ics).toOption,
            (remembered so.agenda.cursor href).isSome →
              ∀ was ∈ so.agenda.seen href, ∀ mark ∈ so.marks href,
                was.location = event.location → mark.withheld = so.withheldNow base event →
                  mark.decision = so.decisionAfter reading →
                    mark.enabled = flagAfter reading ∨ mark.withheld = true ∨
                      event.location = none

instance (so : Watched) : (next : Watch) → Decidable (FlagStands chrono base so next)
  | .decided _ => inferInstanceAs (Decidable True)
  | .restarted _ => inferInstanceAs (Decidable True)
  | .round reading answers _ _ => inferInstanceAs (Decidable (mayPublish so.enabled reading = true →
      ∀ read ∈ asked so.agenda.cursor answers,
        ∀ href ∈ (diff so.agenda.cursor read.1).toRead, ∀ resource ∈ byHref read.2 href,
          ∀ event ∈ (parseVevent chrono resource.ics).toOption,
            (remembered so.agenda.cursor href).isSome →
              ∀ was ∈ so.agenda.seen href, ∀ mark ∈ so.marks href,
                was.location = event.location → mark.withheld = so.withheldNow base event →
                  mark.decision = so.decisionAfter reading →
                    mark.enabled = flagAfter reading ∨ mark.withheld = true ∨
                      event.location = none))

/-! ### How each copy was made -/

def Marked (so : Watched) : Prop :=
  ∀ href published, remembered so.agenda.cursor href = some published →
    ∃ was mark, so.agenda.seen href = some was ∧ so.marks href = some mark ∧
      published.location = mark.location was

theorem marked_start (decision : Bool) : Marked (Watched.start base decision) := by
  intro href published known
  have nothing : remembered Cursor.start href = none := by
    unfold remembered Cursor.start
    rw [Std.TreeMap.getElem?_emptyc]
    rfl
  exact nomatch nothing.symm.trans known

theorem location_reduce (so : Watched) (reading : Option Bool) (event : Vevent) :
    (reduce base.owner (current base so.agenda (flagAfter reading)).decide event
        (current base so.agenda (flagAfter reading)).location).location =
      (so.markNow base reading event).location event := by
  have reduced := reduced_reduce base.owner
    (current base so.agenda (flagAfter reading)).decide event
    (current base so.agenda (flagAfter reading)).location
  have isLocation : (current base so.agenda (flagAfter reading)).location =
      if flagAfter reading = true then Location.carried else .withheld := rfl
  have isMark : (so.markNow base reading event).location event =
      if decide (OrganizerWithheld base.owner (current base so.agenda false).decide event) = false ∧
          flagAfter reading = true then event.location else none := rfl
  rw [isMark]
  by_cases hidden : OrganizerWithheld base.owner
      (current base so.agenda (flagAfter reading)).decide event
  · have hiddenToo : OrganizerWithheld base.owner (current base so.agenda false).decide event :=
      hidden
    rw [(reduced.absent hidden).2.2, if_neg]
    rintro ⟨shown, -⟩
    exact of_decide_eq_false shown hiddenToo
  · have shown : decide (OrganizerWithheld base.owner (current base so.agenda false).decide event) =
        false := decide_eq_false hidden
    rw [(reduced.present hidden).2.2, isLocation]
    cases flagAfter reading with
    | true => simp [shown]
    | false => simp

theorem publishable_of_parsed {calendars : Calendars} {resource : Resource} {event : Vevent}
    (parsed : parseVevent chrono resource.ics = .ok event) :
    (publishable chrono calendars resource).toOption =
      some (reduce calendars.owner calendars.decide event calendars.location) := by
  unfold publishable
  rw [parsed]
  rfl

theorem marked_watch (marked : Marked so) (next : Watch) :
    Marked (watch chrono base ownerId so next) := by
  cases next with
  | decided change => exact marked
  | restarted decision => exact marked
  | round reading answers now committed =>
    unfold watch
    dsimp only
    by_cases publishes : (mayPublish so.enabled reading && committed) = true
    · rw [if_pos publishes]
      cases isAsked : asked so.agenda.cursor answers with
      | none => exact marked
      | some read =>
        dsimp only
        rw [turn_of_asked chrono base ownerId isAsked]
        intro href published known
        dsimp only at known ⊢
        unfold reconciled at known
        rw [remembered_reconcile] at known
        unfold seenAfter Watched.marksAfter
        split at known
        · exact nomatch known
        · by_cases among : href ∈ (diff so.agenda.cursor read.1).toRead
          · rw [if_pos among] at known ⊢
            rw [if_pos among]
            cases answered : byHref read.2 href with
            | none =>
              rw [answered] at known
              exact marked href published known
            | some resource =>
              rw [answered] at known
              change (publishable chrono _ resource).toOption = some published at known
              cases parsed : parseVevent chrono resource.ics with
              | error why =>
                unfold publishable at known
                rw [parsed] at known
                exact nomatch known
              | ok event =>
                rw [publishable_of_parsed chrono parsed] at known
                obtain rfl := Option.some.inj known
                refine ⟨event, so.markNow base reading event, ?_, ?_,
                  location_reduce base so reading event⟩
                · exact congrArg Except.toOption parsed
                · have isEvent := congrArg Except.toOption parsed
                  exact congrArg (Option.map (so.markNow base reading)) isEvent
          · rw [if_neg among] at known ⊢
            rw [if_neg among]
            exact marked href published known
    · rw [if_neg publishes]
      exact marked

/-! ### One round -/

theorem mem_changedFields_location {before after : Published} :
    "location" ∈ changedFields before after ↔ before.location ≠ after.location := by
  unfold changedFields
  simp

variable {chrono} {base} {ownerId}

theorem saidChanged_iff {so : Agenda} {calendars : Calendars} {calendar : Calendar}
    {read : Listing × List Resource} {now href : String} {event : Vevent} {fields : List String} :
    SaidChanged chrono ownerId so calendars calendar read now href event fields ↔
      href ∈ (diff so.cursor read.1).toRead ∧
        ∃ resource, byHref read.2 href = some resource ∧
          parseVevent chrono resource.ics = .ok event ∧
            ∃ before, remembered so.cursor href = some before ∧
              fields = changedFields before
                (reduce calendars.owner calendars.decide event calendars.location) ∧
                fields ≠ [] := by
  constructor
  · rintro ⟨among, resource, answered, parsed, envelope, isSaid, published, isChanged⟩
    refine ⟨among, resource, answered, parsed, ?_⟩
    unfold said at isSaid
    rw [answered, Option.bind_some, publishable_of_parsed chrono parsed] at isSaid
    cases before : remembered so.cursor href with
    | none =>
      rw [before] at isSaid
      obtain rfl := Option.some.inj isSaid
      exact nomatch isChanged
    | some old =>
      rw [before] at isSaid
      by_cases still : changedFields old
          (reduce calendars.owner calendars.decide event calendars.location) = []
      · rw [announce_of_still still] at isSaid
        exact nomatch isSaid
      · rw [announce_of_moved still] at isSaid
        obtain rfl := Option.some.inj isSaid
        obtain ⟨-, rfl⟩ := Data.changed.inj isChanged
        exact ⟨old, rfl, rfl, still⟩
  · rintro ⟨among, resource, answered, parsed, before, known, rfl, moved⟩
    have isSaid : said chrono calendars
        (Envelopes.new calendars.connection calendars.owner calendars.sideHost
          (collectionPath ownerId calendar.id)) so.cursor read.2 now href =
        announce (Envelopes.new calendars.connection calendars.owner calendars.sideHost
          (collectionPath ownerId calendar.id)) now href resource.etag
          (some (reduce calendars.owner calendars.decide event calendars.location))
          (some before) := by
      unfold said
      rw [answered, Option.bind_some, publishable_of_parsed chrono parsed, known]
    exact ⟨among, resource, answered, parsed, _, isSaid.trans (announce_of_moved moved), _, rfl⟩

/-- Two marks that agree on whether the organizer of an event is withheld give it one location, when
it stayed where it was, exactly when they have one flag or no location to give. -/
theorem location_eq_iff {was event : Vevent} {mark now : Mark}
    (stayed : was.location = event.location) (same : mark.withheld = now.withheld) :
    mark.location was = now.location event ↔
      mark.enabled = now.enabled ∨ mark.withheld = true ∨ event.location = none := by
  unfold Mark.location
  rw [stayed, ← same]
  cases mark.withheld <;> cases mark.enabled <;> cases now.enabled <;> simp [eq_comm]

theorem namesLocationTruly_iff (marked : Marked so) (next : Watch) :
    NamesLocationTruly chrono base ownerId so next ↔ FlagStands chrono base so next := by
  cases next with
  | decided change => exact Iff.rfl
  | restarted decision => exact Iff.rfl
  | round reading answers now committed =>
    constructor
    · intro truly publishes read isAsked href among resource answered event isEvent known was
        wasSeen mark isMark stayed sameOrganizer sameDecision
      have parsed := eq_ok_of_toOption isEvent
      obtain ⟨before, isBefore⟩ := Option.isSome_iff_exists.mp known
      obtain ⟨other, otherMark, isOther, isOtherMark, isLocation⟩ := marked href before isBefore
      obtain rfl := Option.some.inj (isOther.symm.trans wasSeen)
      obtain rfl := Option.some.inj (isOtherMark.symm.trans isMark)
      by_contra differ
      have moved : before.location ≠ (reduce base.owner
          (current base so.agenda (flagAfter reading)).decide event
          (current base so.agenda (flagAfter reading)).location).location := by
        rw [isLocation, location_reduce base so reading event]
        exact fun same => differ ((location_eq_iff stayed sameOrganizer).mp same)
      have named := mem_changedFields_location.mpr moved
      obtain ⟨seen, seenMark, isSeen, isSeenMark, another⟩ :=
        truly publishes read isAsked href event _ (saidChanged_iff.mpr ⟨among, resource, answered,
          parsed, before, isBefore, rfl, List.ne_nil_of_mem named⟩) named
      obtain rfl := Option.some.inj (isSeen.symm.trans wasSeen)
      obtain rfl := Option.some.inj (isSeenMark.symm.trans isMark)
      rcases another with elsewhere | otherOrganizer | otherDecision
      · exact elsewhere stayed
      · exact otherOrganizer sameOrganizer
      · exact otherDecision sameDecision
    · intro stands publishes read isAsked href event fields isChanged named
      obtain ⟨among, resource, answered, parsed, before, isBefore, rfl, -⟩ :=
        saidChanged_iff.mp isChanged
      obtain ⟨was, mark, wasSeen, isMark, isLocation⟩ := marked href before isBefore
      refine ⟨was, mark, wasSeen, isMark, ?_⟩
      by_contra none
      rw [not_or, not_or, not_not, not_not, not_not] at none
      obtain ⟨stayed, sameOrganizer, sameDecision⟩ := none
      have same := stands publishes read isAsked href among resource answered event
        (congrArg Except.toOption parsed) (by rw [isBefore]; rfl) was wasSeen mark isMark stayed
        sameOrganizer sameDecision
      refine mem_changedFields_location.mp named ?_
      rw [isLocation]
      exact ((location_eq_iff stayed sameOrganizer).mpr same).trans
        (location_reduce base so reading event).symm

/-- In every run of decisions, restarts and rounds, each change that names the location does so
truly exactly when the flag stands at each round. -/
theorem run_namesLocationTruly_iff (chrono : Chrono) (base : Calendars) (ownerId : String)
    (decision : Bool) (run : List Watch) :
    Along (watch chrono base ownerId) (NamesLocationTruly chrono base ownerId)
        (Watched.start base decision) run ↔
      Along (watch chrono base ownerId) (FlagStands chrono base)
        (Watched.start base decision) run :=
  along_iff_along Marked (fun _ next marked => marked_watch chrono base ownerId marked next)
    (fun _ next marked => namesLocationTruly_iff marked next) (marked_start base decision) run

end Rounds

/-! ### When the switch can be read -/

/-- A round whose switch can be read, or what comes between two rounds. -/
def Readable : Watch → Prop
  | .decided _ => True
  | .restarted _ => True
  | .round reading _ _ _ => reading.isSome = true

structure Settled (so : Watched) : Prop where
  now : so.enabled = so.decision
  copies : ∀ href mark, so.marks href = some mark → mark.enabled = mark.decision

theorem settled_watch (chrono : Chrono) (base : Calendars) (ownerId : String) (settled : Settled so)
    {next : Watch} (readable : Readable next) :
    Settled (watch chrono base ownerId so next) := by
  cases next with
  | decided change => exact ⟨settled.now, settled.copies⟩
  | restarted decision => exact ⟨rfl, settled.copies⟩
  | round reading answers now committed =>
    obtain ⟨decision, rfl⟩ := Option.isSome_iff_exists.mp readable
    unfold watch
    dsimp only
    split
    · cases asked so.agenda.cursor answers with
      | none => exact ⟨rfl, settled.copies⟩
      | some read =>
        refine ⟨rfl, fun href mark isMark => ?_⟩
        dsimp only at isMark
        unfold Watched.marksAfter at isMark
        split at isMark
        · split at isMark
          · obtain ⟨event, -, rfl⟩ := Option.map_eq_some_iff.mp isMark
            rfl
          · exact settled.copies href mark isMark
        · exact settled.copies href mark isMark
    · exact ⟨rfl, settled.copies⟩

theorem flagStands_of_readable (chrono : Chrono) (base : Calendars) (ownerId : String)
    (decision : Bool) {run : List Watch} (readable : ∀ next ∈ run, Readable next) :
    Along (watch chrono base ownerId) (FlagStands chrono base)
      (Watched.start base decision) run := by
  have unmade : Settled (Watched.start base decision) := by
    refine ⟨rfl, fun href mark isMark => ?_⟩
    exact nomatch isMark
  refine along_of_along Settled
    (fun _ _ settled isReadable => settled_watch chrono base ownerId settled isReadable) ?_
    unmade (along_of_mem readable)
  intro so next settled isReadable
  cases next with
  | decided change => trivial
  | restarted decision => trivial
  | round reading answers now committed =>
    obtain ⟨read, rfl⟩ := Option.isSome_iff_exists.mp isReadable
    intro _ _ _ href _ _ _ _ _ _ was _ mark isMark _ _ sameDecision
    exact .inl ((settled.copies href mark isMark).trans sameDecision)

/-- While the switch can be read in every round, no change of an event names a location that nobody
changed, in any run of decisions, restarts and rounds. -/
theorem namesLocationTruly_of_readable (chrono : Chrono) (base : Calendars) (ownerId : String)
    (decision : Bool) {run : List Watch} (readable : ∀ next ∈ run, Readable next) :
    Along (watch chrono base ownerId) (NamesLocationTruly chrono base ownerId)
      (Watched.start base decision) run :=
  (along_iff_along Marked (fun _ next marked => marked_watch chrono base ownerId marked next)
    (fun _ next marked => namesLocationTruly_iff marked next) (marked_start base decision) run).mpr
      (flagStands_of_readable chrono base ownerId decision readable)

namespace UnreadableTwice

open OneCalendar (calendars)

def room (etag title : String) : Resource :=
  ⟨"/work/review.ics", etag,
    s!"BEGIN:VEVENT\nUID:review\nSUMMARY:{title}\nDTSTART:20261005T090000Z\n" ++
      "LOCATION:Room 4\nEND:VEVENT"⟩

def round (reading : Option Bool) (ctag : String) (resource : Resource) : Watch :=
  .round reading
    { calendar := ⟨"work", "Work", some ctag⟩
      listing := .ok ⟨none, .ofList [(resource.href, resource.etag)]⟩
      read := fun hrefs => .ok ([resource].filter fun one => hrefs.contains one.href) }
    "2026-10-01T08:00:00Z" true

/-- The switch is open and cannot be read for two rounds, and the title is edited. -/
def rounds : List Watch :=
  [round (some true) "1" (room "review-1" "Review"), round none "2" (room "review-2" "The review"),
    round none "2" (room "review-2" "The review")]

/-- The second round that cannot read the switch names a location that nobody changed. -/
theorem not_namesLocationTruly :
    ¬ Along (watch utcChrono calendars "me") (NamesLocationTruly utcChrono calendars "me")
      (Watched.start calendars true) rounds := by
  intro truly
  have stands : Along (watch utcChrono calendars "me") (FlagStands utcChrono calendars)
      (Watched.start calendars true) rounds :=
    (along_iff_along Marked (fun _ next marked => marked_watch utcChrono calendars "me" marked next)
      (fun _ next marked => namesLocationTruly_iff marked next) (marked_start calendars true)
      rounds).mp truly
  revert stands
  decide +kernel

theorem namesLocationTruly_shut : Along (watch utcChrono calendars "me")
    (NamesLocationTruly utcChrono calendars "me") (Watched.start calendars true)
      [round (some true) "1" (room "review-1" "Review"),
        round (some false) "2" (room "review-2" "The review")] :=
  namesLocationTruly_of_readable utcChrono calendars "me" true
    (List.forall_mem_cons.mpr ⟨rfl, List.forall_mem_singleton.mpr rfl⟩)

end UnreadableTwice

end Twalk.Collector.Caldav
