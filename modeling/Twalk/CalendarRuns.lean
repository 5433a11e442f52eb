/-
This file follows one calendar over its polls: the cursor the collector keeps, the
bus its events are published on, and a consumer that takes what the first poll took
and then folds the events it is handed, knowing an event by its uid. A poll keeps
the consumer's map equal to what the cursor publishes when its resources speak one
uid each, none that was readable becomes unreadable, its events carry ids the bus
never saw, and an empty cursor without a CTag is not met again with something to say.
-/

import Twalk.Calendars
import Twalk.Library.Mirror
import Twalk.Library.Stream
import Twalk.Library.System

namespace Twalk.Collector.Caldav

open Std (TreeMap)
open Calendars

/-! ### The consumer -/

/-- What a consumer holds of a calendar, by uid. -/
abbrev View := String → Option Published

def tell (view : View) : Data → View
  | .created event => Function.update view event.uid (some event)
  | .changed event _ => Function.update view event.uid (some event)
  | .removed uid _ => Function.update view uid none

def publishes (cursor : Cursor) : List Published :=
  cursor.known.toList.filterMap fun entry => entry.2.published

/-- The map the first poll takes. -/
def viewOf (cursor : Cursor) : View := fun uid =>
  latest (fun event => event.uid == uid) (publishes cursor)

/-- Two publications say the same: all that is published but the number of the withheld. -/
def Same (event shown : Published) : Prop := event.toVevent = shown.toVevent

abbrev Follows (cursor : Cursor) (view : View) : Prop :=
  Mirrors (fun event : Published => event.uid) Same (remembered cursor) view

/-! ### The run -/

structure Followed where
  cursor : Cursor
  taken : Bool
  bus : MessageStream (Envelope Data)
  view : View

def Followed.start : Followed := ⟨.start, false, .empty, fun _ => none⟩

/-- One envelope of the calendar is published: what the bus saw before, no consumer sees again. -/
def deliver (so : MessageStream (Envelope Data) × View) (envelope : Envelope Data) :
    MessageStream (Envelope Data) × View :=
  match so.1.held envelope.id with
  | some _ => so
  | none => ((so.1.publish envelope.id envelope).1, tell so.2 envelope.data)

/-- What happens: a poll of the calendar, under the consent and the switch of its moment, or an
envelope of something else on the same bus. -/
inductive Happening where
  | poll (calendars : Calendars) (ownerId : String) (answers : Answers) (now : String)
  | other (envelope : Envelope Data)

variable (chrono : Chrono)

/-- A poll that succeeds, its envelopes published and its cursor written. -/
def polled (so : Followed) (found : Reconciled) : Followed :=
  let delivered := found.out.foldl deliver (so.bus, if so.taken then so.view else viewOf found.next)
  ⟨found.next, true, delivered.1, delivered.2⟩

def happen (so : Followed) : Happening → Followed
  | .poll calendars ownerId answers now =>
    match pollCalendar chrono calendars ownerId so.cursor answers now with
    | .ok (some found) => polled so found
    | .ok none => so
    | .error _ => so
  | .other envelope => { so with bus := (so.bus.publish envelope.id envelope).1 }

/-! ### What a poll has to meet -/

section Conditions

variable (calendars : Calendars) (cursor : Cursor) (read : Listing × List Resource)

def readAt (href : String) : Option Published :=
  (byHref read.2 href).bind fun resource => (publishable chrono calendars resource).toOption

def carried : List (String × Published) :=
  (cursor.known.toList.filterMap fun entry => entry.2.published.map fun event =>
    (entry.1, event)) ++
  (diff cursor read.1).toRead.filterMap fun href =>
    (readAt chrono calendars read href).map fun event => (href, event)

def Apart : Prop :=
  ∀ first ∈ carried chrono calendars cursor read,
    ∀ second ∈ carried chrono calendars cursor read,
      first.2.uid = second.2.uid ↔ first.1 = second.1

def readId (href : String) : Option String :=
  match byHref read.2 href, readAt chrono calendars read href, remembered cursor href with
  | some resource, some event, some before =>
    if changedFields before event = [] then none
    else some (sha256Hex s!"caldav:{href}:{resource.etag}")
  | some resource, some _, none => some (sha256Hex s!"caldav:{href}:{resource.etag}")
  | _, _, _ => none

def removalId (href : String) : Option String :=
  let ctag := read.1.ctag.getD ""
  (remembered cursor href).map fun _ => sha256Hex s!"caldav:{href}:removed:{ctag}"

def messageIds : List String :=
  (diff cursor read.1).toRead.filterMap (readId chrono calendars cursor read) ++
    (diff cursor read.1).removed.filterMap (removalId cursor read)

structure Orderly (bus : MessageStream (Envelope Data)) : Prop where
  distinct : (messageIds chrono calendars cursor read).Nodup
  unseen : ∀ id ∈ messageIds chrono calendars cursor read, bus.held id = none
  readable : ∀ href ∈ (diff cursor read.1).toRead, (byHref read.2 href).isSome →
    readAt chrono calendars read href = none → remembered cursor href = none
  begun : firstPoll cursor = true → ∀ href ∈ (diff cursor read.1).toRead,
    readAt chrono calendars read href = none

instance : Decidable (Apart chrono calendars cursor read) :=
  inferInstanceAs (Decidable (∀ first ∈ carried chrono calendars cursor read,
    ∀ second ∈ carried chrono calendars cursor read,
      first.2.uid = second.2.uid ↔ first.1 = second.1))

instance (bus : MessageStream (Envelope Data)) :
    Decidable (Orderly chrono calendars cursor read bus) :=
  decidable_of_iff
    ((messageIds chrono calendars cursor read).Nodup ∧
      (∀ id ∈ messageIds chrono calendars cursor read, (bus.held id).isNone = true) ∧
      (∀ href ∈ (diff cursor read.1).toRead, (byHref read.2 href).isSome →
        readAt chrono calendars read href = none → remembered cursor href = none) ∧
      (firstPoll cursor = true → ∀ href ∈ (diff cursor read.1).toRead,
        readAt chrono calendars read href = none))
    ⟨fun ⟨distinct, unseen, readable, begun⟩ =>
      ⟨distinct, fun id member => Option.isNone_iff_eq_none.mp (unseen id member), readable, begun⟩,
      fun ⟨distinct, unseen, readable, begun⟩ =>
      ⟨distinct, fun id member => Option.isNone_iff_eq_none.mpr (unseen id member), readable,
        begun⟩⟩

end Conditions

def Met (so : Followed) : Happening → Prop
  | .poll calendars _ answers _ => ∀ read ∈ asked so.cursor answers,
      Apart chrono calendars so.cursor read ∧
        (so.taken = true → Orderly chrono calendars so.cursor read so.bus)
  | .other _ => True

instance (so : Followed) : (next : Happening) → Decidable (Met chrono so next)
  | .poll calendars _ answers _ => inferInstanceAs (Decidable (∀ read ∈ asked so.cursor answers,
      Apart chrono calendars so.cursor read ∧
        (so.taken = true → Orderly chrono calendars so.cursor read so.bus)))
  | .other _ => inferInstanceAs (Decidable True)

def Announced (so : Followed) : Happening → Prop
  | .poll calendars ownerId answers now => so.taken = true → ∀ read found,
      asked so.cursor answers = some read →
      pollCalendar chrono calendars ownerId so.cursor answers now = .ok (some found) →
      found.out = (reconciled chrono calendars ownerId so.cursor answers.calendar read now).out
  | .other _ => True

/-! ### One poll, resource after resource -/

variable {view : View}

section Polls

variable {chrono} {calendars : Calendars} {cursor : Cursor} {read : Listing × List Resource}

def Within (chrono : Chrono) (calendars : Calendars) (cursor : Cursor)
    (read : Listing × List Resource) (so : Reconciled) : Prop :=
  ∀ href event, remembered so.next href = some event →
    (href, event) ∈ carried chrono calendars cursor read

variable {href : String}

theorem readAt_of_byHref {resource : Resource} (found : byHref read.2 href = some resource) :
    readAt chrono calendars read href = (publishable chrono calendars resource).toOption := by
  unfold readAt
  rw [found]
  rfl

variable {event : Published}

theorem carried_of_remembered (found : remembered cursor href = some event) :
    (href, event) ∈ carried chrono calendars cursor read := by
  unfold remembered at found
  cases known : cursor.known[href]? with
  | none => rw [known] at found; exact absurd found (by simp)
  | some entry =>
    rw [known] at found
    refine List.mem_append_left _ (List.mem_filterMap.mpr ⟨(href, entry), ?_, ?_⟩)
    · exact TreeMap.mem_toList_iff_getElem?_eq_some.mpr known
    · change entry.published.map _ = _
      rw [show entry.published = some event from found]
      rfl

theorem carried_of_readAt (among : href ∈ (diff cursor read.1).toRead)
    (found : readAt chrono calendars read href = some event) :
    (href, event) ∈ carried chrono calendars cursor read :=
  List.mem_append_right _ (List.mem_filterMap.mpr ⟨href, among, by rw [found]; rfl⟩)

theorem within_start (ctag : Option String) :
    Within chrono calendars cursor read ⟨[], ⟨ctag, cursor.known⟩, []⟩ :=
  fun _ _ found => carried_of_remembered found

variable {envelopes : Envelopes} {now : String}

variable {so : Reconciled}

theorem within_settle (among : href ∈ (diff cursor read.1).toRead)
    (within : Within chrono calendars cursor read so) :
    Within chrono calendars cursor read
      (settle chrono calendars envelopes cursor read.2 now so href) := by
  intro other event found
  cases answered : byHref read.2 href with
  | none =>
    rw [settle_of_unread chrono calendars envelopes cursor read.2 now answered] at found
    exact within other event found
  | some resource =>
    by_cases isHref : other = href
    · subst isHref
      rw [remembered_settle_self chrono calendars envelopes cursor read.2 now answered,
        ← readAt_of_byHref answered] at found
      exact carried_of_readAt among found
    · rw [remembered_of_known
        (known_settle_of_ne chrono calendars envelopes cursor read.2 now so isHref)] at found
      exact within other event found

theorem within_drop {ctag : Option String} (within : Within chrono calendars cursor read so) :
    Within chrono calendars cursor read (drop envelopes cursor ctag now so href) := by
  intro other event found
  by_cases isHref : other = href
  · subst isHref
    rw [remembered_drop_self] at found
    exact absurd found (by simp)
  · rw [remembered_of_known (known_drop_of_ne envelopes cursor now ctag so isHref)] at found
    exact within other event found

theorem onlyAt_of_within (apart : Apart chrono calendars cursor read)
    (within : Within chrono calendars cursor read so)
    (here : (href, event) ∈ carried chrono calendars cursor read) :
    OnlyAt (fun event : Published => event.uid) (remembered so.next) href event.uid :=
  fun other old found sameUid => (apart (other, old) (within other old found) _ here).mp sameUid

def tellAll (view : View) (envelopes : List (Envelope Data)) : View :=
  envelopes.foldl (fun view envelope => tell view envelope.data) view

theorem tellAll_append_toList (view : View) (front : List (Envelope Data))
    (last : Option (Envelope Data)) :
    tellAll view (front ++ last.toList) =
      last.elim (tellAll view front) fun envelope => tell (tellAll view front) envelope.data := by
  unfold tellAll
  rw [List.foldl_append]
  cases last <;> rfl

theorem follows_settle (apart : Apart chrono calendars cursor read)
    (among : href ∈ (diff cursor read.1).toRead)
    (readable : (byHref read.2 href).isSome → readAt chrono calendars read href = none →
      remembered cursor href = none) (within : Within chrono calendars cursor read so)
    (asKnown : so.next.known[href]? = cursor.known[href]?)
    (follows : Follows so.next (tellAll view so.out)) :
    Follows (settle chrono calendars envelopes cursor read.2 now so href).next
      (tellAll view (settle chrono calendars envelopes cursor read.2 now so href).out) := by
  rw [out_settle, tellAll_append_toList]
  cases answered : byHref read.2 href with
  | none =>
    rw [settle_of_unread chrono calendars envelopes cursor read.2 now answered]
    unfold said
    rw [answered]
    exact follows
  | some resource =>
    have before := remembered_of_known asKnown
    have elsewhere (other : String) (isOther : other ≠ href) := remembered_of_known
      (known_settle_of_ne chrono calendars envelopes cursor read.2 now so isOther)
    have after := (remembered_settle_self chrono calendars envelopes cursor read.2 now answered
      so).trans (readAt_of_byHref answered).symm
    unfold said
    rw [answered]
    change Follows _ ((announce envelopes now href resource.etag
      (publishable chrono calendars resource).toOption (remembered cursor href)).elim _ _)
    rw [← readAt_of_byHref answered, ← before]
    rw [answered, ← before] at readable
    generalize settle chrono calendars envelopes cursor read.2 now so href = settled at *
    cases found : readAt chrono calendars read href with
    | none =>
      -- An unreadable resource that was never published is told to nobody.
      refine follows.congr fun other => ?_
      by_cases isOther : other = href
      · subst isOther
        rw [after, found, readable rfl found]
      · exact elsewhere other isOther
    | some event =>
      rw [found] at after
      have here := carried_of_readAt among found
      have only := onlyAt_of_within apart within here
      have sameName (old : Published) (was : remembered so.next href = some old) :
          old.uid = event.uid :=
        (apart (href, old) (within href old was) _ here).mpr rfl
      cases was : remembered so.next href with
      | none => exact follows.put after elsewhere only sameName rfl
      | some old =>
        by_cases still : changedFields old event = []
        · rw [announce_of_still still]
          refine follows.keep was after elsewhere (sameName old was) fun shown agreed => ?_
          refine Eq.trans ?_ agreed
          rw [changedFields_eq_nil_iff.mp still, sameName old was]
        · rw [announce_of_moved still]
          exact follows.put after elsewhere only sameName rfl

theorem follows_drop {ctag : Option String} (apart : Apart chrono calendars cursor read)
    (within : Within chrono calendars cursor read so)
    (asKnown : so.next.known[href]? = cursor.known[href]?)
    (follows : Follows so.next (tellAll view so.out)) :
    Follows (drop envelopes cursor ctag now so href).next
      (tellAll view (drop envelopes cursor ctag now so href).out) := by
  have before := remembered_of_known asKnown
  have after := remembered_drop_self envelopes cursor now ctag so href
  have elsewhere (other : String) (isOther : other ≠ href) := remembered_of_known
    (known_drop_of_ne envelopes cursor now ctag so isOther)
  have told : tellAll view (drop envelopes cursor ctag now so href).out =
      (saidGone envelopes cursor now ctag href).elim (tellAll view so.out)
        fun envelope => tell (tellAll view so.out) envelope.data :=
    tellAll_append_toList view so.out _
  rw [told]
  generalize drop envelopes cursor ctag now so href = dropped at *
  unfold saidGone
  rw [← before]
  cases was : remembered so.next href with
  | none =>
    refine follows.congr fun other => ?_
    by_cases isOther : other = href
    · subst isOther
      rw [after, was]
    · exact elsewhere other isOther
  | some old =>
    exact follows.erase was after elsewhere
      (onlyAt_of_within apart within (within href old was))

theorem within_reconciled (ownerId : String) (calendar : Calendar) :
    Within chrono calendars cursor read
      (reconciled chrono calendars ownerId cursor calendar read now) :=
  reconcile_keeps chrono calendars cursor read.2 now (Within chrono calendars cursor read) _ read.1
    (fun _ _ among within _ => within_settle among within)
    (fun _ _ _ within _ => within_drop within) (within_start _)

theorem follows_reconciled (ownerId : String) (calendar : Calendar)
    (apart : Apart chrono calendars cursor read)
    (readable : ∀ href ∈ (diff cursor read.1).toRead, (byHref read.2 href).isSome →
      readAt chrono calendars read href = none → remembered cursor href = none)
    (follows : Follows cursor view) :
    Follows (reconciled chrono calendars ownerId cursor calendar read now).next
      (tellAll view (reconciled chrono calendars ownerId cursor calendar read now).out) := by
  refine (reconcile_keeps chrono calendars cursor read.2 now
    (fun so => Within chrono calendars cursor read so ∧ Follows so.next (tellAll view so.out)) _
    read.1 ?_ ?_ ⟨within_start _, follows⟩).2
  · rintro so href among ⟨within, follows⟩ asKnown
    exact ⟨within_settle among within,
      follows_settle apart among (readable href among) within asKnown follows⟩
  · rintro so href - ⟨within, follows⟩ asKnown
    exact ⟨within_drop within, follows_drop apart within asKnown follows⟩

end Polls

/-! ### What the bus passes on -/

theorem deliver_foldl {envelopes : List (Envelope Data)} {bus : MessageStream (Envelope Data)}
    (distinct : (envelopes.map Envelope.id).Nodup)
    (unseen : ∀ id ∈ envelopes.map Envelope.id, bus.held id = none) :
    (envelopes.foldl deliver (bus, view)).2 = tellAll view envelopes := by
  induction envelopes generalizing bus view with
  | nil => rfl
  | cons envelope rest inductionHypothesis =>
    obtain ⟨notAmong, restDistinct⟩ := List.nodup_cons.mp distinct
    have fresh := unseen envelope.id List.mem_cons_self
    have first : deliver (bus, view) envelope =
        ((bus.publish envelope.id envelope).1, tell view envelope.data) := by
      unfold deliver
      rw [fresh]
    rw [List.foldl_cons, first]
    refine inductionHypothesis restDistinct fun id member => ?_
    have differ : id ≠ envelope.id := by
      rintro rfl
      exact notAmong member
    exact MessageStream.held_publish_of_ne differ (unseen id (List.mem_cons_of_mem _ member))
      envelope

section Delivery

variable {chrono} {calendars : Calendars} {cursor : Cursor} {read : Listing × List Resource}

theorem id_said (envelopes : Envelopes) (now href : String) :
    (said chrono calendars envelopes cursor read.2 now href).map Envelope.id =
      readId chrono calendars cursor read href := by
  unfold said readId
  cases answered : byHref read.2 href with
  | none => rfl
  | some resource =>
    rw [readAt_of_byHref answered]
    change (announce envelopes now href resource.etag
      (publishable chrono calendars resource).toOption (remembered cursor href)).map _ = _
    cases (publishable chrono calendars resource).toOption with
    | none => rfl
    | some event =>
      cases remembered cursor href with
      | none => rfl
      | some before =>
        by_cases still : changedFields before event = []
        · rw [announce_of_still still]
          exact (if_pos still).symm
        · rw [announce_of_moved still]
          exact (if_neg still).symm

theorem ids_reconciled (ownerId : String) (calendar : Calendar) (now : String) :
    (reconciled chrono calendars ownerId cursor calendar read now).out.map Envelope.id =
      messageIds chrono calendars cursor read := by
  unfold reconciled messageIds
  rw [out_reconcile, List.map_append, List.map_filterMap, List.map_filterMap]
  congr 1
  · exact List.filterMap_congr fun href _ => id_said _ now href
  · refine List.filterMap_congr fun href _ => ?_
    unfold saidGone removalId
    rw [Option.map_map]
    rfl

theorem out_eq_nil_of_begun {ownerId : String} {calendar : Calendar} {now : String}
    (isFirst : firstPoll cursor = true)
    (silent : ∀ href ∈ (diff cursor read.1).toRead, readAt chrono calendars read href = none) :
    (reconciled chrono calendars ownerId cursor calendar read now).out = [] := by
  unfold firstPoll at isFirst
  rw [Bool.and_eq_true] at isFirst
  have unknown (href : String) : cursor.known[href]? = none :=
    TreeMap.getElem?_of_isEmpty isFirst.2
  have ids : messageIds chrono calendars cursor read = [] := by
    unfold messageIds
    rw [List.append_eq_nil_iff]
    constructor
    · refine List.filterMap_eq_nil_iff.mpr fun href among => ?_
      unfold readId
      rw [silent href among]
      cases byHref read.2 href <;> rfl
    · refine List.filterMap_eq_nil_iff.mpr fun href _ => ?_
      unfold removalId remembered
      rw [unknown]
      rfl
  exact List.map_eq_nil_iff.mp ((ids_reconciled ownerId calendar now).trans ids)

theorem follows_viewOf {cursor : Cursor}
    (apart : ∀ href event other second, remembered cursor href = some event →
      remembered cursor other = some second → (event.uid = second.uid ↔ href = other)) :
    Follows cursor (viewOf cursor) := by
  have listed (event : Published) : event ∈ publishes cursor ↔
      ∃ href, remembered cursor href = some event := by
    unfold publishes remembered
    rw [List.mem_filterMap]
    constructor
    · rintro ⟨⟨href, known⟩, among, published⟩
      rw [TreeMap.mem_toList_iff_getElem?_eq_some] at among
      exact ⟨href, by rw [among]; exact published⟩
    · rintro ⟨href, found⟩
      obtain ⟨known, among, published⟩ := Option.bind_eq_some_iff.mp found
      exact ⟨(href, known), TreeMap.mem_toList_iff_getElem?_eq_some.mpr among, published⟩
  constructor
  · intro uid event shown
    let named : Published → Bool := fun other => other.uid == uid
    have isLatest : latest named (publishes cursor) = some event := shown
    have isNamed : named event = true := latest_concerns isLatest
    obtain ⟨href, found⟩ := (listed event).mp (latest_mem isLatest)
    exact ⟨href, event, found, eq_of_beq isNamed, rfl⟩
  · intro href event found
    let named : Published → Bool := fun other => other.uid == event.uid
    have isNamed : named event = true := beq_self_eq_true _
    obtain ⟨shown, isLatest⟩ := exists_latest ((listed event).mpr ⟨href, found⟩) isNamed
    have alsoNamed : named shown = true := latest_concerns isLatest
    obtain ⟨other, foundShown⟩ := (listed shown).mp (latest_mem isLatest)
    obtain rfl := (apart href event other shown found foundShown).mp (eq_of_beq alsoNamed).symm
    obtain rfl : event = shown := Option.some.inj (found.symm.trans foundShown)
    exact ⟨event, isLatest, rfl⟩

end Delivery

/-! ### The run keeps the consumer up to date -/

/-- The consumer of a calendar whose first poll was made holds what the cursor publishes. -/
def Told (so : Followed) : Prop := so.taken = true → Follows so.cursor so.view

/-- What a run keeps: a calendar that was never polled has the cursor of one. -/
structure Invariant (so : Followed) : Prop where
  told : Told so
  fresh : so.taken = false → so.cursor = .start

theorem invariant_start : Invariant Followed.start where
  told := fun taken => absurd taken (by decide)
  fresh := fun _ => rfl

theorem announced_of_met {so : Followed} {next : Happening} (met : Met chrono so next) :
    Announced chrono so next := by
  cases next with
  | other envelope => trivial
  | poll calendars ownerId answers now =>
    intro taken read found isAsked isFound
    obtain ⟨other, otherAsked, rfl⟩ := (pollCalendar_eq_ok_some chrono calendars).mp isFound
    obtain rfl : read = other := Option.some.inj (isAsked.symm.trans otherAsked)
    have orderly := (met read isAsked).2 taken
    dsimp only
    by_cases isFirst : firstPoll so.cursor = true
    · rw [if_pos isFirst, out_eq_nil_of_begun isFirst (orderly.begun isFirst)]
    · rw [if_neg isFirst]

theorem invariant_happen {so : Followed} {next : Happening} (invariant : Invariant so)
    (met : Met chrono so next) : Invariant (happen chrono so next) := by
  cases next with
  | other envelope => exact ⟨invariant.told, invariant.fresh⟩
  | poll calendars ownerId answers now =>
    have announced := announced_of_met chrono met
    unfold happen
    dsimp only
    split
    · rename_i found isFound
      obtain ⟨read, isAsked, isReconciled⟩ := (pollCalendar_eq_ok_some chrono calendars).mp isFound
      have next : found.next =
          (reconciled chrono calendars ownerId so.cursor answers.calendar read now).next := by
        rw [isReconciled]
      obtain ⟨apart, later⟩ := met read isAsked
      refine ⟨fun _ => ?_, fun untaken => absurd untaken (by simp [polled])⟩
      unfold polled
      dsimp only
      by_cases taken : so.taken = true
      · have orderly := later taken
        have out := announced taken read found isAsked isFound
        rw [if_pos taken, out, deliver_foldl, next]
        · exact follows_reconciled ownerId answers.calendar apart orderly.readable
            (invariant.told taken)
        · rw [ids_reconciled]
          exact orderly.distinct
        · rw [ids_reconciled]
          exact orderly.unseen
      · have isFirst : firstPoll so.cursor = true := by
          rw [invariant.fresh (by simpa using taken)]
          decide
        have out : found.out = [] := by rw [isReconciled, if_pos isFirst]
        rw [if_neg taken, out]
        change Follows found.next (viewOf found.next)
        rw [next]
        have within : Within chrono calendars so.cursor read
            (reconciled chrono calendars ownerId so.cursor answers.calendar read now) :=
          within_reconciled ownerId answers.calendar
        exact follows_viewOf fun href event other second found foundSecond =>
          apart (href, event) (within href event found) (other, second)
            (within other second foundSecond)
    · exact invariant
    · exact invariant

/-- In every run whose polls are orderly, the consumer's map is what the cursor publishes after
every poll, and no poll but the first is silent. -/
theorem consumer_follows {steps : List Happening}
    (orderly : Along (happen chrono) (Met chrono) Followed.start steps) :
    (∀ front, front <+: steps → Told (run (happen chrono) Followed.start front)) ∧
      Along (happen chrono) (Announced chrono) Followed.start steps := by
  have kept (so : Followed) (next : Happening) (invariant : Invariant so)
      (met : Met chrono so next) : Invariant (happen chrono so next) :=
    invariant_happen chrono invariant met
  constructor
  · rintro front ⟨back, rfl⟩
    exact (run_invariant_along Invariant kept invariant_start (along_append.mp orderly).1).told
  · exact along_of_along Invariant kept (fun _ _ _ met => announced_of_met chrono met)
      invariant_start orderly

/-! ### One calendar, followed -/

def utcChrono : Chrono where
  Date := String
  Local := String
  parseDate value := if value.toList.length = 8 then some value else none
  parseLocal value := if value.toList.length = 15 then some value else none
  addDate date _ := date
  addLocal time _ := time
  renderDate date :=
    String.ofList (date.toList.take 4 ++ ['-'] ++ (date.toList.drop 4).take 2 ++ ['-'] ++
      date.toList.drop 6)
  renderLocal time :=
    String.ofList (time.toList.take 4 ++ ['-'] ++ (time.toList.drop 4).take 2 ++ ['-'] ++
      (time.toList.drop 6).take 5 ++ [':'] ++ (time.toList.drop 11).take 2 ++ [':'] ++
      time.toList.drop 13)
  readZone _ := none
  isWindows _ := false
  renderZoned _ _ := none

namespace OneCalendar

def owner : Owner := .new "me@example.org" []

def calendars : Calendars where
  connection := "agenda"
  owner := owner
  mailConnection := some "mail"
  sideHost := "dav.example.org"
  consent := cacheFor owner
  locationsMayTravel := false

def vevent (uid title start : String) : String :=
  s!"BEGIN:VEVENT\nUID:{uid}\nSUMMARY:{title}\nDTSTART:{start}\nEND:VEVENT"

def poll (ctag : String) (resources : List Resource) : Happening :=
  .poll calendars "me"
    { calendar := ⟨"work", "Work", some ctag⟩
      listing := .ok ⟨none, .ofList (resources.map fun resource => (resource.href, resource.etag))⟩
      read := fun hrefs => .ok (resources.filter fun resource => hrefs.contains resource.href) }
    "2026-10-01T08:00:00Z"

def sync : Resource := ⟨"/work/sync.ics", "sync-1", vevent "sync" "Weekly sync" "20261005T090000Z"⟩

def syncLater : Resource :=
  ⟨"/work/sync.ics", "sync-2", vevent "sync" "Weekly sync" "20261005T100000Z"⟩

def lunch : Resource := ⟨"/work/lunch.ics", "lunch-1", vevent "lunch" "Lunch" "20261006T120000Z"⟩

/-- A resource the collector cannot read: it has no DTSTART. -/
def syncUnreadable : Resource :=
  ⟨"/work/sync.ics", "sync-3", "BEGIN:VEVENT\nUID:sync\nSUMMARY:Weekly sync\nEND:VEVENT"⟩

/-- A first poll, a creation with a change, and a removal. -/
def orderlyPolls : List Happening :=
  [poll "1" [sync], poll "2" [syncLater, lunch], poll "3" [lunch]]

set_option maxRecDepth 10000 in
theorem consumer_follows_orderlyPolls :
    (∀ front, front <+: orderlyPolls → Told (run (happen utcChrono) Followed.start front)) ∧
      Along (happen utcChrono) (Announced utcChrono) Followed.start orderlyPolls :=
  consumer_follows utcChrono (by decide +kernel)

/-- A resource that becomes unreadable and is then removed. -/
def unreadablePolls : List Happening :=
  [poll "1" [sync], poll "2" [syncUnreadable], poll "3" []]

/-- The consumer is told of neither, and holds the event for ever. -/
theorem unreadable_stays :
    ¬ ((∀ front, front <+: unreadablePolls →
        Told (run (happen utcChrono) Followed.start front)) ∧
      Along (happen utcChrono) (Announced utcChrono) Followed.start unreadablePolls) := by
  rintro ⟨told, -⟩
  have follows := told unreadablePolls (List.prefix_refl _) (by decide +kernel)
  have shown : ((run (happen utcChrono) Followed.start unreadablePolls).view "sync").isSome := by
    decide +kernel
  have forgotten :
      (run (happen utcChrono) Followed.start unreadablePolls).cursor.known.isEmpty = true := by
    decide +kernel
  obtain ⟨event, isShown⟩ := Option.isSome_iff_exists.mp shown
  obtain ⟨href, record, found, -⟩ := follows.held "sync" event isShown
  unfold remembered at found
  rw [TreeMap.getElem?_of_isEmpty forgotten] at found
  exact absurd found (by simp)

end OneCalendar

end Twalk.Collector.Caldav
