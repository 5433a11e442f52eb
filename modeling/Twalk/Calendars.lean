/-
This file models `collector/src/calendars.rs`: the poll of the owner's calendars
and the commit of the cursors it hands back. A poll reads every calendar the side
service names, and for one that moved it lists it, reads what the diff names and
reconciles the two with the cursor: the envelopes to publish, in order, and the
cursor that follows. One resource at a time, what `reconcile` does to the cursor
and to the envelopes is `settle` and `drop`, and everything later reads those.
-/

import Twalk.Caldav
import Twalk.Library.Fallible
import Twalk.Library.Ledger

namespace Twalk.Collector

open Std (TreeMap)
open Cache (Consent ConsentCache)

namespace Caldav

/-- One of the owner's calendars on the side service, with the CTag the list itself carried. -/
structure Calendar where
  id : String
  name : String
  ctag : Option String
deriving DecidableEq, Repr

def collectionPath (ownerId calendarId : String) : String :=
  s!"/dav/calendars/{ownerId}/{calendarId}/"

structure Answers where
  calendar : Calendar
  listing : Except SideError Listing
  read : List String → Except SideError (List Resource)

/-- The calendar connection the collector holds, and what publishing about it needs. -/
structure Calendars where
  connection : String
  owner : Owner
  mailConnection : Option String
  sideHost : String
  consent : ConsentCache
  locationsMayTravel : Bool

/-- What was made of the resources of one calendar so far. -/
structure Reconciled where
  out : List (Envelope Data)
  next : Cursor
  refused : List Refused

/-- What one poll found: the envelopes to publish, in order, the cursors to write once they are on
the bus, and the resources that were read and not published. -/
structure Poll where
  envelopes : List (Envelope Data)
  cursors : List (String × Cursor)
  refused : List Refused

def byHref (resources : List Resource) (href : String) : Option Resource :=
  latest (fun resource => resource.href == href) resources

def remembered (cursor : Cursor) (href : String) : Option Published :=
  (cursor.known[href]?).bind Known.published

namespace Calendars

variable (chrono : Chrono) (calendars : Calendars)

/-- The decision about a `mailto:` on the mail connection, or pending when there is none. -/
protected def decide (identity : String) : Consent :=
  match calendars.mailConnection with
  | some mail => calendars.consent.state identity mail
  | none => .pending

def location : Location := if calendars.locationsMayTravel then .carried else .withheld

def publishable (resource : Resource) : Except Refused Published :=
  match parseVevent chrono resource.ics with
  | .ok event => .ok (reduce calendars.owner calendars.decide event calendars.location)
  | .error why => .error why

/-- What is announced about a resource that was read: a change of what was published names the
fields that moved, and says nothing when none did. -/
def announce (envelopes : Envelopes) (now href etag : String) :
    Option Published → Option Published → Option (Envelope Data)
  | some published, some before =>
    if (changedFields before published).isEmpty then none
    else some (envelopes.changed href etag published (changedFields before published) now)
  | some published, none => some (envelopes.created href etag published now)
  | none, _ => none

variable {before published : Published}

theorem announce_of_still {envelopes : Envelopes} {now href etag : String}
    (still : changedFields before published = []) :
    announce envelopes now href etag (some published) (some before) = none := by
  simp [announce, still]

theorem announce_of_moved {envelopes : Envelopes} {now href etag : String}
    (moved : changedFields before published ≠ []) :
    announce envelopes now href etag (some published) (some before) =
      some (envelopes.changed href etag published (changedFields before published) now) := by
  simp [announce, moved]

/-- One href that was created or changed. One gone between the listing and the read is left for the
next listing; an unreadable one is remembered as nothing. -/
def settle (envelopes : Envelopes) (cursor : Cursor) (resources : List Resource) (now : String)
    (so : Reconciled) (href : String) : Reconciled :=
  match byHref resources href with
  | none => so
  | some resource =>
    let published := calendars.publishable chrono resource
    { out := so.out ++ (announce envelopes now href resource.etag published.toOption
        (remembered cursor href)).toList
      next :=
        { so.next with
          known := so.next.known.insert href ⟨resource.etag, published.toOption⟩ }
      refused :=
        match published with
        | .ok _ => so.refused
        | .error why => so.refused ++ [why] }

def drop (envelopes : Envelopes) (cursor : Cursor) (ctag : Option String) (now : String)
    (so : Reconciled) (href : String) : Reconciled :=
  { so with
    out := so.out ++ ((remembered cursor href).map fun published =>
      envelopes.removed href (ctag.getD "") published.uid published.title now).toList
    next := { so.next with known := so.next.known.erase href } }

/-- The pure step of one calendar's poll. -/
def reconcile (collection : String) (cursor : Cursor) (listing : Listing) (changes : Changes)
    (resources : List Resource) (now : String) : Reconciled :=
  let envelopes := Envelopes.new calendars.connection calendars.owner calendars.sideHost collection
  changes.removed.foldl (drop envelopes cursor listing.ctag now)
    (changes.toRead.foldl (settle chrono calendars envelopes cursor resources now)
      ⟨[], ⟨listing.ctag, cursor.known⟩, []⟩)

def firstPoll (cursor : Cursor) : Bool := cursor.ctag.isNone && cursor.known.isEmpty

def unmoved (ctag : Option String) (cursor : Cursor) : Bool := ctag.isSome && ctag == cursor.ctag

def listed (calendar : Calendar) (listing : Listing) : Listing :=
  { listing with ctag := calendar.ctag.or listing.ctag }

def pollCalendar (ownerId : String) (cursor : Cursor) (answers : Answers) (now : String) :
    Except SideError (Option Reconciled) := do
  if unmoved answers.calendar.ctag cursor then return none
  let listing := listed answers.calendar (← answers.listing)
  if unmoved listing.ctag cursor then return none
  let changes := diff cursor listing
  let resources ← answers.read changes.toRead
  let found := reconcile chrono calendars (collectionPath ownerId answers.calendar.id) cursor
    listing changes resources now
  -- No backfill: what the calendar already holds is taken as the state.
  return some { found with out := if firstPoll cursor then [] else found.out }

/-- What a poll has once one calendar more was asked. A cursor that cannot be read is not one to
guess past, and its calendar is skipped. -/
def pollOne (ownerId : String) (readCursor : String → Option Cursor) (now : String) (poll : Poll)
    (answers : Answers) : Except SideError Poll :=
  match readCursor answers.calendar.id with
  | none => .ok poll
  | some cursor => do
    match ← pollCalendar chrono calendars ownerId cursor answers now with
    | none => return poll
    | some found =>
      return {
        envelopes := poll.envelopes ++ found.out
        cursors := poll.cursors ++ [(answers.calendar.id, found.next)]
        refused := poll.refused ++ found.refused }

def poll (ownerId : String) (readCursor : String → Option Cursor)
    (answers : Except SideError (List Answers)) (now : String) : Except SideError Poll := do
  (← answers).foldlM (pollOne chrono calendars ownerId readCursor now) ⟨[], [], []⟩

/-! ### What a poll asks -/

def asked (cursor : Cursor) (answers : Answers) : Option (Listing × List Resource) := do
  if unmoved answers.calendar.ctag cursor then none
  let listing := listed answers.calendar (← answers.listing.toOption)
  if unmoved listing.ctag cursor then none
  return (listing, ← (answers.read (diff cursor listing).toRead).toOption)

/-- What a poll makes of a calendar: its resources reconciled, and not announced when the cursor
is taken for one that was never polled. -/
def reconciled (ownerId : String) (cursor : Cursor) (calendar : Calendar)
    (read : Listing × List Resource) (now : String) : Reconciled :=
  reconcile chrono calendars (collectionPath ownerId calendar.id) cursor read.1
    (diff cursor read.1) read.2 now

theorem pollCalendar_eq_ok_some {ownerId : String} {cursor : Cursor} {answers : Answers}
    {now : String} {found : Reconciled} :
    pollCalendar chrono calendars ownerId cursor answers now = .ok (some found) ↔
      ∃ read, asked cursor answers = some read ∧
        found = { reconciled chrono calendars ownerId cursor answers.calendar read now with
          out := if firstPoll cursor then []
            else (reconciled chrono calendars ownerId cursor answers.calendar read now).out } := by
  unfold pollCalendar asked
  by_cases still : unmoved answers.calendar.ctag cursor = true
  · simp [still, pure, Except.pure]
  · cases listing : answers.listing with
    | error why => simp [still, bind, Except.bind, Except.toOption]
    | ok raw =>
      by_cases same : unmoved (listed answers.calendar raw).ctag cursor = true
      · simp [still, same, bind, Except.bind, Except.toOption, pure, Except.pure]
      · cases resources : answers.read (diff cursor (listed answers.calendar raw)).toRead with
        | error why => simp [still, same, resources, bind, Except.bind, Except.toOption]
        | ok read =>
          simp only [still, same, resources, bind, Except.bind, Except.toOption, pure, Except.pure,
            reconciled, Option.bind, Bool.false_eq_true, if_false, Except.ok.injEq,
            Option.some.injEq, exists_eq_left']
          exact eq_comm

theorem pollCalendar_of_asked {cursor : Cursor} {answers : Answers}
    {read : Listing × List Resource} (isAsked : asked cursor answers = some read)
    (ownerId now : String) :
    pollCalendar chrono calendars ownerId cursor answers now =
      .ok (some { reconciled chrono calendars ownerId cursor answers.calendar read now with
        out := if firstPoll cursor then []
          else (reconciled chrono calendars ownerId cursor answers.calendar read now).out }) :=
  (pollCalendar_eq_ok_some chrono calendars).mpr ⟨read, isAsked, rfl⟩

/-! ### The hrefs of a diff -/

variable {href : String}

section Hrefs

variable (cursor : Cursor) (listing : Listing)

theorem nodup_map_fst_filter (kept : String × String → Bool) :
    ((listing.etags.toList.filter kept).map Prod.fst).Nodup := by
  have apart := listing.etags.distinct_keys_toList
  rw [List.Nodup, List.pairwise_map]
  refine (apart.imp fun differ same => differ ?_).filter _
  rw [same]
  exact Std.ReflCmp.compare_self

theorem nodup_toRead : (diff cursor listing).toRead.Nodup := by
  refine List.nodup_append.mpr
    ⟨nodup_map_fst_filter listing _, nodup_map_fst_filter listing _, ?_⟩
  rintro first created second changed rfl
  obtain ⟨⟨_, _⟩, isCreated, rfl⟩ := List.mem_map.mp created
  obtain ⟨⟨_, _⟩, isChanged, sameHref⟩ := List.mem_map.mp changed
  have absent := (List.mem_filter.mp isCreated).2
  have known := (List.mem_filter.mp isChanged).2
  dsimp only at sameHref
  subst sameHref
  unfold Caldav.isCreated at absent
  unfold Caldav.isChanged at known
  dsimp only at absent known
  rw [Option.isNone_iff_eq_none.mp absent] at known
  exact absurd known (by simp)

theorem nodup_removed : (diff cursor listing).removed.Nodup := by
  refine List.Pairwise.filter _ ?_
  exact cursor.known.distinct_keys.imp fun differ same =>
    differ (by rw [same]; exact Std.ReflCmp.compare_self)

theorem notMem_toRead_of_removed (gone : href ∈ (diff cursor listing).removed) :
    href ∉ (diff cursor listing).toRead := by
  have unlisted := (List.mem_filter.mp gone).2
  intro among
  have isListed : ∃ etag, (href, etag) ∈ listing.etags.toList := by
    rcases List.mem_append.mp among with created | changed
    · obtain ⟨⟨_, etag⟩, isCreated, rfl⟩ := List.mem_map.mp created
      exact ⟨etag, (List.mem_filter.mp isCreated).1⟩
    · obtain ⟨⟨_, etag⟩, isChanged, rfl⟩ := List.mem_map.mp changed
      exact ⟨etag, (List.mem_filter.mp isChanged).1⟩
  obtain ⟨etag, isListed⟩ := isListed
  rw [TreeMap.mem_toList_iff_getElem?_eq_some] at isListed
  rw [TreeMap.contains_eq_isSome_getElem?, isListed] at unlisted
  exact absurd unlisted (by simp)

end Hrefs

/-! ### One resource at a time -/

section Reconciliation

variable (envelopes : Envelopes) (cursor : Cursor) (resources : List Resource) (now : String)

theorem known_settle_of_ne (so : Reconciled) {href other : String} (differ : other ≠ href) :
    (settle chrono calendars envelopes cursor resources now so href).next.known[other]? =
      so.next.known[other]? := by
  unfold settle
  cases byHref resources href with
  | none => rfl
  | some resource =>
    dsimp only
    rw [TreeMap.getElem?_insert, if_neg]
    rw [Std.compare_eq_iff_eq]
    exact differ.symm

theorem known_drop_of_ne (ctag : Option String) (so : Reconciled) {href other : String}
    (differ : other ≠ href) :
    (drop envelopes cursor ctag now so href).next.known[other]? = so.next.known[other]? := by
  unfold drop
  dsimp only
  rw [TreeMap.getElem?_erase, if_neg]
  rw [Std.compare_eq_iff_eq]
  exact differ.symm

variable {step : Reconciled → String → Reconciled} {hrefs : List String}

theorem known_foldl_of_notMem (frame : ∀ so href other, other ≠ href →
      (step so href).next.known[other]? = so.next.known[other]?) (outside : href ∉ hrefs)
    (so : Reconciled) :
    (hrefs.foldl step so).next.known[href]? = so.next.known[href]? := by
  induction hrefs generalizing so with
  | nil => rfl
  | cons other rest inductionHypothesis =>
    rw [List.mem_cons, not_or] at outside
    rw [List.foldl_cons, inductionHypothesis outside.2, frame so other href outside.1]

/-- Hrefs taken one after the other, each at a step that finds it as the cursor knows it and that
changes no other: what every such step keeps, they keep. -/
theorem foldl_hrefs (invariant : Reconciled → Prop) (frame : ∀ so href other, other ≠ href →
      (step so href).next.known[other]? = so.next.known[other]?) (distinct : hrefs.Nodup)
    (kept : ∀ so href, href ∈ hrefs → invariant so →
      so.next.known[href]? = cursor.known[href]? → invariant (step so href)) {so : Reconciled}
    (initial : invariant so) (asKnown : ∀ href ∈ hrefs, so.next.known[href]? = cursor.known[href]?)
    :
    invariant (hrefs.foldl step so) := by
  induction hrefs generalizing so with
  | nil => exact initial
  | cons href rest inductionHypothesis =>
    obtain ⟨notAmong, restDistinct⟩ := List.nodup_cons.mp distinct
    refine inductionHypothesis restDistinct
      (fun so other member => kept so other (List.mem_cons_of_mem _ member))
      (kept so href List.mem_cons_self initial (asKnown href List.mem_cons_self))
      fun other member => ?_
    rw [frame so href other fun same => notAmong (same ▸ member)]
    exact asKnown other (List.mem_cons_of_mem _ member)

theorem known_foldl_self (frame : ∀ so href other, other ≠ href →
      (step so href).next.known[other]? = so.next.known[other]?) (distinct : hrefs.Nodup)
    (member : href ∈ hrefs) (so : Reconciled) :
    ∃ before, before.next.known[href]? = so.next.known[href]? ∧
      (hrefs.foldl step so).next.known[href]? = (step before href).next.known[href]? := by
  obtain ⟨front, back, rfl⟩ := List.append_of_mem member
  rw [List.nodup_append, List.nodup_cons] at distinct
  obtain ⟨-, ⟨notBack, -⟩, apart⟩ := distinct
  have notFront : href ∉ front := fun among => apart href among href List.mem_cons_self rfl
  refine ⟨front.foldl step so, known_foldl_of_notMem frame notFront so, ?_⟩
  rw [List.foldl_append, List.foldl_cons, known_foldl_of_notMem frame notBack]

theorem reconcile_keeps (invariant : Reconciled → Prop) (collection : String)
    (listing : Listing)
    (settled : ∀ so href, href ∈ (diff cursor listing).toRead → invariant so →
      so.next.known[href]? = cursor.known[href]? →
      invariant (settle chrono calendars
        (Envelopes.new calendars.connection calendars.owner calendars.sideHost collection) cursor
        resources now so href))
    (dropped : ∀ so href, href ∈ (diff cursor listing).removed → invariant so →
      so.next.known[href]? = cursor.known[href]? →
      invariant (drop
        (Envelopes.new calendars.connection calendars.owner calendars.sideHost collection) cursor
        listing.ctag now so href))
    (initial : invariant ⟨[], ⟨listing.ctag, cursor.known⟩, []⟩) :
    invariant (reconcile chrono calendars collection cursor listing (diff cursor listing)
      resources now) := by
  have settleFrame (so : Reconciled) (one other : String) (differ : other ≠ one) :=
    known_settle_of_ne chrono calendars
      (Envelopes.new calendars.connection calendars.owner calendars.sideHost collection) cursor
      resources now so differ
  have read := foldl_hrefs cursor invariant settleFrame (nodup_toRead cursor listing) settled
    initial fun _ _ => rfl
  exact foldl_hrefs cursor invariant (fun so href other => known_drop_of_ne _ cursor now _ so)
    (nodup_removed cursor listing) dropped read fun href gone =>
      known_foldl_of_notMem settleFrame (notMem_toRead_of_removed cursor listing gone) _

/-! ### What is announced, and what is known after -/

def said (href : String) : Option (Envelope Data) :=
  (byHref resources href).bind fun resource =>
    announce envelopes now href resource.etag (calendars.publishable chrono resource).toOption
      (remembered cursor href)

def saidGone (ctag : Option String) (href : String) : Option (Envelope Data) :=
  (remembered cursor href).map fun published =>
    envelopes.removed href (ctag.getD "") published.uid published.title now

theorem out_settle (so : Reconciled) (href : String) :
    (settle chrono calendars envelopes cursor resources now so href).out =
      so.out ++ (said chrono calendars envelopes cursor resources now href).toList := by
  unfold settle said
  cases byHref resources href with
  | none => exact (List.append_nil _).symm
  | some resource => rfl

theorem out_foldl {said : String → Option (Envelope Data)}
    (appends : ∀ so href, (step so href).out = so.out ++ (said href).toList) (hrefs : List String)
    (so : Reconciled) :
    (hrefs.foldl step so).out = so.out ++ hrefs.filterMap said := by
  induction hrefs generalizing so with
  | nil => exact (List.append_nil _).symm
  | cons href rest inductionHypothesis =>
    rw [List.foldl_cons, inductionHypothesis, appends, List.append_assoc]
    cases here : said href with
    | none => rw [List.filterMap_cons_none here]; rfl
    | some envelope => rw [List.filterMap_cons_some here]; rfl

theorem out_reconcile (collection : String) (listing : Listing) (changes : Changes) :
    (reconcile chrono calendars collection cursor listing changes resources now).out =
      changes.toRead.filterMap (said chrono calendars
        (Envelopes.new calendars.connection calendars.owner calendars.sideHost collection) cursor
        resources now) ++
      changes.removed.filterMap (saidGone
        (Envelopes.new calendars.connection calendars.owner calendars.sideHost collection) cursor
        now listing.ctag) := by
  unfold reconcile
  rw [out_foldl (fun so href => rfl), out_foldl (out_settle chrono calendars _ cursor resources now),
    List.nil_append]
  rfl

theorem remembered_of_known {first second : Cursor}
    (same : first.known[href]? = second.known[href]?) :
    remembered first href = remembered second href := by
  unfold remembered
  rw [same]

theorem remembered_settle_self {resource : Resource} (read : byHref resources href = some resource)
    (so : Reconciled) :
    remembered (settle chrono calendars envelopes cursor resources now so href).next href =
      (calendars.publishable chrono resource).toOption := by
  unfold settle remembered
  rw [read]
  dsimp only
  rw [TreeMap.getElem?_insert_self]
  rfl

theorem settle_of_unread (unread : byHref resources href = none) (so : Reconciled) :
    settle chrono calendars envelopes cursor resources now so href = so := by
  unfold settle
  rw [unread]

theorem remembered_drop_self (ctag : Option String) (so : Reconciled) (href : String) :
    remembered (drop envelopes cursor ctag now so href).next href = none := by
  unfold drop remembered
  dsimp only
  rw [TreeMap.getElem?_erase_self]
  rfl

theorem remembered_reconcile (collection : String) (listing : Listing) (href : String) :
    remembered (reconcile chrono calendars collection cursor listing (diff cursor listing)
        resources now).next href =
      if href ∈ (diff cursor listing).removed then none
      else if href ∈ (diff cursor listing).toRead then
        (byHref resources href).elim (remembered cursor href)
          fun resource => (calendars.publishable chrono resource).toOption
      else remembered cursor href := by
  have settleFrame (so : Reconciled) (one other : String) (differ : other ≠ one) :=
    known_settle_of_ne chrono calendars
      (Envelopes.new calendars.connection calendars.owner calendars.sideHost collection) cursor
      resources now so differ
  have dropFrame (so : Reconciled) (one other : String) (differ : other ≠ one) :=
    known_drop_of_ne
      (Envelopes.new calendars.connection calendars.owner calendars.sideHost collection) cursor
      now listing.ctag so differ
  unfold reconcile
  by_cases gone : href ∈ (diff cursor listing).removed
  · rw [if_pos gone]
    obtain ⟨before, -, after⟩ := known_foldl_self dropFrame (nodup_removed cursor listing) gone
      ((diff cursor listing).toRead.foldl (settle chrono calendars
        (Envelopes.new calendars.connection calendars.owner calendars.sideHost collection) cursor
        resources now) ⟨[], ⟨listing.ctag, cursor.known⟩, []⟩)
    rw [remembered_of_known after]
    exact remembered_drop_self _ cursor now listing.ctag before href
  · rw [if_neg gone]
    rw [remembered_of_known (known_foldl_of_notMem dropFrame gone _)]
    by_cases among : href ∈ (diff cursor listing).toRead
    · rw [if_pos among]
      obtain ⟨before, asKnown, after⟩ := known_foldl_self settleFrame
        (nodup_toRead cursor listing) among ⟨[], ⟨listing.ctag, cursor.known⟩, []⟩
      rw [remembered_of_known after]
      cases answered : byHref resources href with
      | none =>
        rw [settle_of_unread chrono calendars _ cursor resources now answered]
        exact remembered_of_known asKnown
      | some resource =>
        exact remembered_settle_self chrono calendars _ cursor resources now answered before
    · rw [if_neg among]
      exact remembered_of_known (known_foldl_of_notMem settleFrame among _)

end Reconciliation

end Calendars

end Caldav

end Twalk.Collector
