/-
This file sets the three reads of the suggestion subject beside each other, over one content
of the stream and any pattern of what each of them is delivered. They show one and the same
suggestion, once and in order, and report it absent rightly, exactly where no event of the
window repeats the id of one before it, nothing that cannot be shown took a place of the
listing, and nothing was left unread.
-/

import Twalk.Disclosed
import Twalk.ListingReads

namespace Twalk.Shown

open Consent Store Approval

/-! ### What the reads owe each other -/

/-- Three calls over one content: a listing, a single read and an approval's lookup of one id, with
what the bus delivers to each. -/
structure Calls where
  asking : Suggestions.Asking
  limit : Nat
  listRead : BusRead
  id : String
  oneRead : BusRead
  approveRead : BusRead

def retained (approvals : Approvals) : List (Message BusMessage) :=
  approvals.bus.stream.messages.filter fun message =>
    message.payload.subject == suggestSubject && approvals.bus.firstSequence ≤ message.position

def Absent (approvals : Approvals) (id : String) (busRead : BusRead) : Prop :=
  (∃ upTo, busRead = .delivers upTo ∧
      delivered upTo (showing approvals).windowed = retained approvals) ∧
    ∀ message ∈ retained approvals, text message.payload.payload "id" ≠ some id

structure SameEvent (approvals : Approvals) : Prop where
  listedOne : ∀ asking limit busRead listing,
    (showing approvals).list asking limit busRead = .ok listing →
    ∀ listed ∈ listing.suggestions, ∀ asking' busRead' other,
      (showing approvals).one asking' listed.eventId busRead' = .ok other →
      other.streamSequence = listed.streamSequence
  listedApproved : ∀ asking limit busRead listing,
    (showing approvals).list asking limit busRead = .ok listing →
    ∀ listed ∈ listing.suggestions, ∀ busRead' suggestion,
      approvals.findSuggestion busRead' listed.eventId = .ok suggestion →
      suggestion.streamSequence = listed.streamSequence
  oneApproved : ∀ asking id busRead listed,
    (showing approvals).one asking id busRead = .ok listed → ∀ busRead' suggestion,
      approvals.findSuggestion busRead' id = .ok suggestion →
      suggestion.streamSequence = listed.streamSequence

def showables (approvals : Approvals) (asking : Suggestions.Asking) : List Listed :=
  (((showing approvals).documents none).filterMap ((showing approvals).shown asking)).reverse

structure SeeTheSame (approvals : Approvals) (calls : Calls) : Prop where
  once : ∀ listing, (showing approvals).list calls.asking calls.limit calls.listRead = .ok listing →
    (listing.suggestions.map Listed.eventId).Nodup
  same : SameEvent approvals
  newest : ∀ listing,
    (showing approvals).list calls.asking calls.limit calls.listRead = .ok listing →
    listing.suggestions =
        (showables approvals calls.asking).take (Suggestions.clamped calls.limit) ∧
      (listing.truncated = true ↔
        Suggestions.clamped calls.limit < (showables approvals calls.asking).length)
  absentShown :
    (showing approvals).one calls.asking calls.id calls.oneRead = .error .suggestionNotFound →
      Absent approvals calls.id calls.oneRead
  absentApproved :
    approvals.findSuggestion calls.approveRead calls.id = .error .suggestionNotFound →
      Absent approvals calls.id calls.approveRead

/-! ### Where they do -/

def Approvable (approvals : Approvals) (entry : Approval.SuggestionDocument × Nat) : Prop :=
  ∃ suggestion, approvals.suggestionOf entry.1 entry.2 = .ok suggestion

/-- Each event of the window that can be shown is the first that carries its id, to the single
read and to an approval, unless they refuse the first one. -/
structure Unrepeated (approvals : Approvals) : Prop where
  shown : ∀ entry ∈ (showing approvals).documents none, Suggestions.Showable entry → ∀ first,
    ((showing approvals).documents none).find? (fun other => other.1.id == entry.1.id) =
      some first → Suggestions.Showable first → first.2 = entry.2
  approved : ∀ entry ∈ (showing approvals).documents none, Suggestions.Showable entry → ∀ first,
    (lookedUp approvals none).find? (fun other => other.1.id == entry.1.id) = some first →
      Approvable approvals first → first.2 = entry.2

/-- A read that reaches the start of the stream without the id was delivered the whole window, and
no event of it that cannot be read carries the id. -/
def ReadWhole (approvals : Approvals) (id : String) (busRead : BusRead)
    (finds : Option Nat → Prop) : Prop :=
  ∀ upTo, busRead = .delivers upTo → (showing approvals).ReachesStart → ¬ finds upTo →
    delivered upTo (showing approvals).windowed = (showing approvals).windowed ∧
      ∀ message ∈ (showing approvals).windowed, text message.payload.payload "id" ≠ some id

structure Plain (approvals : Approvals) (calls : Calls) : Prop where
  distinct : ∀ upTo, calls.listRead = .delivers upTo →
    (showing approvals).Lists calls.asking calls.limit upTo →
    (lastFew (Suggestions.clamped calls.limit) ((showing approvals).documents upTo)).Pairwise
      fun first second => Suggestions.Showable first → Suggestions.Showable second →
        first.1.id ≠ second.1.id
  unrepeated : Unrepeated approvals
  whole : ∀ upTo, calls.listRead = .delivers upTo →
    (showing approvals).Lists calls.asking calls.limit upTo →
    (∀ entry ∈ (showing approvals).undelivered upTo, ¬ Suggestions.Showable entry) ∧
      (((showing approvals).documents upTo).length ≤ Suggestions.clamped calls.limit ∨
        (∀ entry ∈ lastFew (Suggestions.clamped calls.limit) ((showing approvals).documents upTo),
          Suggestions.Showable entry) ∧
        ∃ entry ∈ beforeLastFew (Suggestions.clamped calls.limit)
          ((showing approvals).documents upTo), Suggestions.Showable entry)
  readToShow : ReadWhole approvals calls.id calls.oneRead fun upTo =>
    ∃ entry ∈ (showing approvals).documents upTo, entry.1.id = calls.id
  readToApprove : ReadWhole approvals calls.id calls.approveRead fun upTo =>
    ∃ entry ∈ lookedUp approvals upTo, entry.1.id = calls.id

variable {approvals : Approvals}

/-! ### Once each -/

theorem once_iff (asking : Suggestions.Asking) (limit : Nat) (busRead : BusRead) :
    (∀ listing, (showing approvals).list asking limit busRead = .ok listing →
        (listing.suggestions.map Listed.eventId).Nodup) ↔
      ∀ upTo, busRead = .delivers upTo → (showing approvals).Lists asking limit upTo →
        (lastFew (Suggestions.clamped limit) ((showing approvals).documents upTo)).Pairwise
          fun first second => Suggestions.Showable first → Suggestions.Showable second →
            first.1.id ≠ second.1.id := by
  have each : ∀ upTo, ((((lastFew (Suggestions.clamped limit)
        ((showing approvals).documents upTo)).reverse.filterMap
          ((showing approvals).shown asking)).map Listed.eventId).Nodup ↔
      (lastFew (Suggestions.clamped limit) ((showing approvals).documents upTo)).Pairwise
        fun first second => Suggestions.Showable first → Suggestions.Showable second →
          first.1.id ≠ second.1.id) := by
    intro upTo
    rw [List.nodup_iff_pairwise_ne, List.pairwise_map, List.pairwise_filterMap,
      List.pairwise_reverse]
    refine List.Pairwise.iff ?_
    intro first second
    constructor
    · intro apart firstShown secondShown same
      obtain ⟨one, isOne⟩ := Option.ne_none_iff_exists'.mp
        (((showing approvals).shown_ne_none_iff asking).mpr firstShown)
      obtain ⟨other, isOther⟩ := Option.ne_none_iff_exists'.mp
        (((showing approvals).shown_ne_none_iff asking).mpr secondShown)
      refine apart other isOther one isOne ?_
      rw [((showing approvals).of_shown isOne).1, ((showing approvals).of_shown isOther).1, same]
    · intro apart other isOther one isOne same
      rw [((showing approvals).of_shown isOne).1, ((showing approvals).of_shown isOther).1] at same
      refine apart ?_ ?_ same.symm
      · exact ((showing approvals).shown_ne_none_iff asking).mp (by rw [isOne]; nofun)
      · exact ((showing approvals).shown_ne_none_iff asking).mp (by rw [isOther]; nofun)
  constructor
  · intro always upTo isDelivered lists
    subst isDelivered
    obtain ⟨listing, listed⟩ := (showing approvals).exists_listing lists
    obtain ⟨other, isOther, -, suggestions, -⟩ := (showing approvals).of_list listed
    cases isOther
    exact (each upTo).mp (suggestions ▸ always listing listed)
  · intro apart listing listed
    obtain ⟨upTo, isDelivered, lists, suggestions, -⟩ := (showing approvals).of_list listed
    rw [suggestions]
    exact (each upTo).mpr (apart upTo isDelivered lists)

/-! ### One event for an id -/

variable {id : String}

theorem find?_of_delivered (upTo : Option Nat) {first : Entry}
    (isFirst : ((showing approvals).documents upTo).find? (fun entry => entry.1.id == id) =
      some first) :
    ((showing approvals).documents none).find? (fun entry => entry.1.id == id) = some first := by
  rw [← (showing approvals).documents_append_undelivered upTo, List.find?_append, isFirst]
  rfl

theorem find?_of_lookedUp (upTo : Option Nat) {first : Approval.SuggestionDocument × Nat}
    (isFirst : (lookedUp approvals upTo).find? (fun entry => entry.1.id == id) = some first) :
    (lookedUp approvals none).find? (fun entry => entry.1.id == id) = some first := by
  have split : lookedUp approvals none = lookedUp approvals upTo ++
      (Suggestions.withheld upTo (showing approvals).windowed).filterMap lookedUpOf := by
    unfold lookedUp
    rw [← List.filterMap_append, Suggestions.delivered_append_withheld]
    rfl
  rw [split, List.find?_append, isFirst]
  rfl

variable {asking : Suggestions.Asking} {listed : Listed}

theorem showable_of_shown {entry : Entry}
    (isShown : (showing approvals).shown asking entry = some listed) :
    Suggestions.Showable entry :=
  ((showing approvals).shown_ne_none_iff asking).mp (by rw [isShown]; nofun)

variable {busRead : BusRead}

theorem exists_of_listed {limit : Nat} {listing : Listing}
    (isListing : (showing approvals).list asking limit busRead = .ok listing)
    (member : listed ∈ listing.suggestions) :
    ∃ entry ∈ (showing approvals).documents none,
      (showing approvals).shown asking entry = some listed := by
  obtain ⟨upTo, -, -, suggestions, -⟩ := (showing approvals).of_list isListing
  rw [suggestions] at member
  obtain ⟨entry, isKept, isShown⟩ := List.mem_filterMap.mp member
  have delivered := mem_of_mem_lastFew (List.mem_reverse.mp isKept)
  rw [← (showing approvals).documents_append_undelivered upTo]
  exact ⟨entry, List.mem_append_left _ delivered, isShown⟩

theorem exists_of_one (isOne : (showing approvals).one asking id busRead = .ok listed) :
    ∃ first, ((showing approvals).documents none).find? (fun entry => entry.1.id == id) =
      some first ∧ Suggestions.Showable first ∧ listed.streamSequence = first.2 := by
  obtain ⟨upTo, first, -, isFirst, isSettled⟩ := (showing approvals).one_eq_ok_iff.mp isOne
  have isShown := (showing approvals).shown_of_settle isSettled
  exact ⟨first, find?_of_delivered upTo isFirst, showable_of_shown isShown,
    ((showing approvals).of_shown isShown).2⟩

variable {suggestion : Suggestion}

theorem streamSequence_of_suggestionOf {document : Approval.SuggestionDocument} {sequence : Nat}
    (isSuggestion : approvals.suggestionOf document sequence = .ok suggestion) :
    suggestion.streamSequence = sequence := by
  unfold Approvals.suggestionOf at isSuggestion
  simp only [bind_eq_ok] at isSuggestion
  obtain ⟨_, -, _, -, _, -, _, -, _, -, made⟩ := isSuggestion
  cases made
  rfl

theorem exists_of_findSuggestion (found : approvals.findSuggestion busRead id = .ok suggestion) :
    ∃ first, (lookedUp approvals none).find? (fun entry => entry.1.id == id) = some first ∧
      Approvable approvals first ∧ suggestion.streamSequence = first.2 := by
  obtain ⟨upTo, first, -, isFirst, isSuggestion⟩ := (findSuggestion_eq_ok_iff approvals).mp found
  exact ⟨first, find?_of_lookedUp upTo isFirst, ⟨suggestion, isSuggestion⟩,
    streamSequence_of_suggestionOf isSuggestion⟩

/-- A call at any instant, to which the store answers. -/
def answering : Suggestions.Asking := ⟨fun _ => none, "", fun _ => none⟩

theorem exists_listing_of {entry : Entry} (member : entry ∈ (showing approvals).documents none)
    (isShowable : Suggestions.Showable entry) :
    ∃ busRead listing, (showing approvals).list answering 1 busRead = .ok listing ∧
      ∃ listed ∈ listing.suggestions, listed.eventId = entry.1.id ∧
        listed.streamSequence = entry.2 := by
  obtain ⟨upTo, front, isLast⟩ := (showing approvals).exists_delivery member
  have kept : lastFew (Suggestions.clamped 1) ((showing approvals).documents upTo) = [entry] := by
    rw [isLast]
    exact lastFew_one_concat front entry
  have lists : (showing approvals).Lists answering 1 upTo := fun _ _ _ => rfl
  obtain ⟨listing, isListing⟩ := (showing approvals).exists_listing lists
  obtain ⟨other, isOther, -, suggestions, -⟩ := (showing approvals).of_list isListing
  cases isOther
  obtain ⟨listed, isShown⟩ := Option.ne_none_iff_exists'.mp
    (((showing approvals).shown_ne_none_iff answering).mpr isShowable)
  refine ⟨.delivers upTo, listing, isListing, listed, ?_, (showing approvals).of_shown isShown⟩
  rw [suggestions, kept]
  exact List.mem_filterMap.mpr ⟨entry, List.mem_singleton_self _, isShown⟩

theorem sameEvent_iff : SameEvent approvals ↔ Unrepeated approvals := by
  constructor
  · intro same
    refine ⟨?_, ?_⟩
    · intro entry member isShowable first isFirst firstShowable
      obtain ⟨busRead, listing, isListing, listed, isListed, sameId, position⟩ :=
        exists_listing_of member isShowable
      obtain ⟨other, isOther⟩ := Option.ne_none_iff_exists'.mp
        (((showing approvals).shown_ne_none_iff answering).mpr firstShowable)
      have one : (showing approvals).one answering listed.eventId (.delivers none) = .ok other :=
        (showing approvals).one_eq_ok_iff.mpr ⟨none, first, rfl, sameId ▸ isFirst,
          (showing approvals).settle_of_shown isOther rfl⟩
      have taken := same.listedOne _ _ _ _ isListing listed isListed _ _ other one
      rw [((showing approvals).of_shown isOther).2, position] at taken
      exact taken
    · intro entry member isShowable first isFirst ⟨suggestion, isSuggestion⟩
      obtain ⟨busRead, listing, isListing, listed, isListed, sameId, position⟩ :=
        exists_listing_of member isShowable
      have found : approvals.findSuggestion (.delivers none) listed.eventId = .ok suggestion :=
        (findSuggestion_eq_ok_iff approvals).mpr ⟨none, first, rfl, sameId ▸ isFirst, isSuggestion⟩
      have taken := same.listedApproved _ _ _ _ isListing listed isListed _ suggestion found
      rw [streamSequence_of_suggestionOf isSuggestion, position] at taken
      exact taken
  · intro unrepeated
    refine ⟨?_, ?_, ?_⟩
    · intro asking limit busRead listing isListing listed isListed asking' busRead' other isOther
      obtain ⟨entry, member, isShown⟩ := exists_of_listed isListing isListed
      obtain ⟨sameId, position⟩ := (showing approvals).of_shown isShown
      obtain ⟨first, isFirst, firstShowable, taken⟩ := exists_of_one isOther
      rw [taken, position]
      exact unrepeated.shown entry member (showable_of_shown isShown) first (sameId ▸ isFirst)
        firstShowable
    · intro asking limit busRead listing isListing listed isListed busRead' suggestion found
      obtain ⟨entry, member, isShown⟩ := exists_of_listed isListing isListed
      obtain ⟨sameId, position⟩ := (showing approvals).of_shown isShown
      obtain ⟨first, isFirst, isApprovable, taken⟩ := exists_of_findSuggestion found
      rw [taken, position]
      exact unrepeated.approved entry member (showable_of_shown isShown) first (sameId ▸ isFirst)
        isApprovable
    · intro asking id busRead listed isOne busRead' suggestion found
      obtain ⟨entry, isFirst, isShowable, position⟩ := exists_of_one isOne
      obtain ⟨first, isFirstToo, isApprovable, taken⟩ := exists_of_findSuggestion found
      have carries := List.find?_some isFirst
      have sameId : entry.1.id = id := eq_of_beq carries
      rw [taken, position]
      exact unrepeated.approved entry (List.mem_of_find?_eq_some isFirst) isShowable first
        (sameId ▸ isFirstToo) isApprovable

/-! ### The newest, and whether there are more -/

theorem newest_iff (asking : Suggestions.Asking) (limit : Nat) (busRead : BusRead) :
    (∀ listing, (showing approvals).list asking limit busRead = .ok listing →
        listing.suggestions = (showables approvals asking).take (Suggestions.clamped limit) ∧
          (listing.truncated = true ↔
            Suggestions.clamped limit < (showables approvals asking).length)) ↔
      ∀ upTo, busRead = .delivers upTo → (showing approvals).Lists asking limit upTo →
        (∀ entry ∈ (showing approvals).undelivered upTo, ¬ Suggestions.Showable entry) ∧
          (((showing approvals).documents upTo).length ≤ Suggestions.clamped limit ∨
            (∀ entry ∈ lastFew (Suggestions.clamped limit) ((showing approvals).documents upTo),
              Suggestions.Showable entry) ∧
            ∃ entry ∈ beforeLastFew (Suggestions.clamped limit)
              ((showing approvals).documents upTo), Suggestions.Showable entry) := by
  have apart : ∀ upTo, ∀ first ∈ (showing approvals).documents upTo,
      ∀ second ∈ (showing approvals).undelivered upTo, ∀ shared,
        (showing approvals).shown asking first = some shared →
          (showing approvals).shown asking second ≠ some shared := by
    intro upTo first member second memberToo shared isShared isSharedToo
    have ordered := (showing approvals).pairwise_documents
    rw [← (showing approvals).documents_append_undelivered upTo] at ordered
    have before := (List.pairwise_append.mp ordered).2.2 first member second memberToo
    rw [← ((showing approvals).of_shown isShared).2,
      ← ((showing approvals).of_shown isSharedToo).2] at before
    exact absurd before (Nat.lt_irrefl _)
  have each := fun upTo => filterMap_lastFew_iff (Suggestions.clamped_pos limit)
    ((showing approvals).shown asking) (apart upTo)
  simp only [(showing approvals).documents_append_undelivered, ne_eq,
    (showing approvals).shown_eq_none_iff asking, not_not] at each
  have counted : (showables approvals asking).length = (((showing approvals).documents
      none).filterMap ((showing approvals).shown asking)).length := List.length_reverse
  rw [counted]
  constructor
  · intro always upTo isDelivered lists
    subst isDelivered
    obtain ⟨listing, isListing⟩ := (showing approvals).exists_listing lists
    obtain ⟨other, isOther, -, suggestions, truncated⟩ := (showing approvals).of_list isListing
    cases isOther
    obtain ⟨same, more⟩ := always listing isListing
    exact (each upTo).mp ⟨suggestions ▸ same, truncated.symm.trans more⟩
  · intro whole listing isListing
    obtain ⟨upTo, isDelivered, lists, suggestions, truncated⟩ :=
      (showing approvals).of_list isListing
    obtain ⟨same, more⟩ := (each upTo).mpr (whole upTo isDelivered lists)
    exact ⟨suggestions.trans same, truncated.trans more⟩

/-! ### What is reported absent -/

theorem windowed_eq_retained (reaches : (showing approvals).ReachesStart) :
    (showing approvals).windowed = retained approvals := by
  have start : (showing approvals).start = max approvals.bus.firstSequence 1 :=
    Nat.max_eq_right reaches
  unfold Suggestions.windowed batch retained
  rw [start]
  refine List.filter_congr ?_
  intro message member
  have positive := approvals.bus.stream.positive message member
  have bounded : message.position ≤ (showing approvals).bus.stream.lastPosition :=
    approvals.bus.stream.bounded message member
  rw [Bool.eq_iff_iff]
  simp only [Bool.and_eq_true, decide_eq_true_eq, and_assoc]
  refine and_congr_right fun _ => ?_
  omega

theorem absent_iff (id : String) (busRead : BusRead) (finds : Option Nat → Prop) :
    ((∃ upTo, busRead = .delivers upTo ∧ ¬ finds upTo ∧ (showing approvals).ReachesStart) →
        Absent approvals id busRead) ↔
      ReadWhole approvals id busRead finds := by
  constructor
  · intro rightly upTo isDelivered reaches isMissing
    obtain ⟨⟨other, isOther, everything⟩, noneCarries⟩ :=
      rightly ⟨upTo, isDelivered, isMissing, reaches⟩
    cases isDelivered.symm.trans isOther
    rw [windowed_eq_retained reaches] at everything ⊢
    exact ⟨everything, noneCarries⟩
  · rintro whole ⟨upTo, isDelivered, isMissing, reaches⟩
    obtain ⟨everything, noneCarries⟩ := whole upTo isDelivered reaches isMissing
    rw [windowed_eq_retained reaches] at everything noneCarries
    exact ⟨⟨upTo, isDelivered, windowed_eq_retained reaches ▸ everything⟩, noneCarries⟩

theorem absentShown_iff (calls : Calls) :
    ((showing approvals).one calls.asking calls.id calls.oneRead = .error .suggestionNotFound →
        Absent approvals calls.id calls.oneRead) ↔
      ReadWhole approvals calls.id calls.oneRead fun upTo =>
        ∃ entry ∈ (showing approvals).documents upTo, entry.1.id = calls.id := by
  rw [← absent_iff, (showing approvals).one_eq_notFound_iff]
  simp only [List.find?_eq_none, beq_iff_eq, not_exists, not_and]

theorem absentApproved_iff (calls : Calls) :
    (approvals.findSuggestion calls.approveRead calls.id = .error .suggestionNotFound →
        Absent approvals calls.id calls.approveRead) ↔
      ReadWhole approvals calls.id calls.approveRead fun upTo =>
        ∃ entry ∈ lookedUp approvals upTo, entry.1.id = calls.id := by
  rw [← absent_iff, findSuggestion_eq_notFound_iff]
  simp only [List.find?_eq_none, beq_iff_eq, not_exists, not_and]

/-- The three reads see the same suggestion exactly where the content, and what each of them is
delivered of it, are plain. -/
theorem seeTheSame_iff (approvals : Approvals) (calls : Calls) :
    SeeTheSame approvals calls ↔ Plain approvals calls := by
  constructor
  · intro see
    exact {
      distinct := (once_iff calls.asking calls.limit calls.listRead).mp see.once
      unrepeated := sameEvent_iff.mp see.same
      whole := (newest_iff calls.asking calls.limit calls.listRead).mp see.newest
      readToShow := (absentShown_iff calls).mp see.absentShown
      readToApprove := (absentApproved_iff calls).mp see.absentApproved }
  · intro plain
    exact {
      once := (once_iff calls.asking calls.limit calls.listRead).mpr plain.distinct
      same := sameEvent_iff.mpr plain.unrepeated
      newest := (newest_iff calls.asking calls.limit calls.listRead).mpr plain.whole
      absentShown := (absentShown_iff calls).mpr plain.readToShow
      absentApproved := (absentApproved_iff calls).mpr plain.readToApprove }

/-! ### Every content of the stream -/

/-! ### Three contents the reads do not agree on -/

def event (id network : String) : Json :=
  .object [("id", .string id), ("source", .string "hermes://example.org/personas/assistant"),
    ("time", .string "2026-10-02T11:00:05Z"), ("subject", .string "trigger"),
    ("network", .string network), ("consent", .string "granted"),
    ("data", .object [("persona_id", .string "assistant"),
      ("trigger", .object [("event_id", .string "trigger"), ("event_type", .string "message")]),
      ("suggestion", .object [("body", .string "Yes."), ("format", .string "text/plain")])])]

def said (document : Json) : BusMessage := ⟨suggestSubject, [], document⟩

def holding (first second : Json) : Approvals :=
  { OneDraft.gateway .null .null with
    bus := ⟨1, ((MessageStream.empty.publish "1" (said first)).1.publish "2" (said second)).1⟩ }

def asked (limit : Nat) (upTo : Option Nat) : Calls :=
  ⟨answering, limit, .delivers upTo, "one", .delivers upTo, .delivers upTo⟩

/-- An event of the id of one before it is listed beside it; one that cannot be shown takes the
place of one that can; and what a failing read was not delivered is reported absent. -/
theorem not_seeTheSame :
    ¬ SeeTheSame (holding (event "one" "whatsapp") (event "one" "whatsapp")) (asked 50 none) ∧
      ¬ SeeTheSame (holding (event "one" "whatsapp") (event "other" "pigeon")) (asked 1 none) ∧
      ¬ SeeTheSame (holding (event "one" "whatsapp") (event "other" "whatsapp"))
        (asked 50 (some 0)) := by
  refine ⟨fun see => ?_, fun see => ?_, fun see => ?_⟩
  · obtain ⟨listing, answered, ids⟩ := Option.map_eq_some_iff.mp (rfl :
      ((showing (holding (event "one" "whatsapp") (event "one" "whatsapp"))).list answering 50
        (.delivers none)).toOption.map (fun listing => listing.suggestions.map Listed.eventId) =
          some ["one", "one"])
    have once := see.once listing (eq_ok_of_toOption answered)
    rw [ids] at once
    exact absurd once (by decide)
  · obtain ⟨listing, answered, nothing⟩ := Option.map_eq_some_iff.mp (rfl :
      ((showing (holding (event "one" "whatsapp") (event "other" "pigeon"))).list answering 1
        (.delivers none)).toOption.map (fun listing => listing.suggestions.map Listed.eventId) =
          some [])
    have newest := congrArg (List.map Listed.eventId)
      (see.newest listing (eq_ok_of_toOption answered)).1
    rw [nothing] at newest
    have one : ((showables (holding (event "one" "whatsapp") (event "other" "pigeon"))
        answering).take (Suggestions.clamped 1)).map Listed.eventId = ["one"] := rfl
    exact absurd (newest.trans one) (by decide)
  · obtain ⟨message, isFirst, carries⟩ := Option.bind_eq_some_iff.mp (rfl :
      (retained (holding (event "one" "whatsapp") (event "other" "whatsapp"))).head?.bind
        (fun message => text message.payload.payload "id") = some "one")
    have absent := see.absentShown rfl
    exact absent.2 message (List.mem_of_mem_head? isFirst) carries

end Twalk.Shown
