/-
This file says what each of the three reads of the suggestion subject comes to: the
listing, the single read and the lookup of an approval. Each of them is answered out of the
documents of one window of the stream, as far as they are delivered: the listing keeps the
last of them, and the other two take the first that carries the id they look for.
-/

import Twalk.Listings
import Twalk.ApprovalChecks

namespace Twalk.Shown

open Consent Store Approval

/-! ### The loop -/

variable {limit : Nat}

theorem walk_none (positive : 0 < limit) (log : List Entry) (unreadable : Nat)
    (messages : List (Message BusMessage)) :
    ∃ count, walk none limit ⟨lastFew limit log, log.length, unreadable⟩ messages =
      ⟨lastFew limit (log ++ messages.filterMap entryOf),
        (log ++ messages.filterMap entryOf).length, count⟩ := by
  induction messages generalizing log unreadable with
  | nil => exact ⟨unreadable, by simp [walk]⟩
  | cons message rest inductionHypothesis =>
    unfold walk
    cases isEntry : entryOf message with
    | none =>
      rw [List.filterMap_cons_none isEntry]
      exact inductionHypothesis log (unreadable + 1)
    | some entry =>
      obtain ⟨count, walked⟩ := inductionHypothesis (log ++ [entry]) unreadable
      refine ⟨count, ?_⟩
      rw [List.filterMap_cons_some isEntry]
      dsimp only
      rw [push_lastFew positive]
      simpa using walked

theorem walk_some (id : String) (limit : Nat) (unreadable : Nat)
    (messages : List (Message BusMessage)) :
    (walk (some id) limit ⟨[], 0, unreadable⟩ messages).kept =
      ((messages.filterMap entryOf).find? fun entry => entry.1.id == id).toList := by
  induction messages generalizing unreadable with
  | nil => rfl
  | cons message rest inductionHypothesis =>
    unfold walk
    cases isEntry : entryOf message with
    | none =>
      rw [List.filterMap_cons_none isEntry]
      exact inductionHypothesis (unreadable + 1)
    | some entry =>
      rw [List.filterMap_cons_some isEntry, List.find?_cons]
      dsimp only
      by_cases same : entry.1.id = id
      · rw [if_neg (fun differ => differ same), beq_iff_eq.mpr same]
        rfl
      · rw [if_pos same, beq_false_of_ne same]
        exact inductionHypothesis unreadable

/-! ### One read -/

variable {id : String}

variable {busRead : BusRead}

namespace Suggestions

variable (suggestions : Suggestions)

def start : Nat :=
  max (suggestions.bus.stream.lastPosition - suggestions.lookupWindow)
    (max suggestions.bus.firstSequence 1)

def windowed : List (Message BusMessage) := batch suggestions.bus suggestSubject suggestions.start

def ReachesStart : Prop :=
  suggestions.bus.stream.lastPosition - suggestions.lookupWindow ≤
    max suggestions.bus.firstSequence 1

instance : Decidable suggestions.ReachesStart := inferInstanceAs (Decidable (_ ≤ _))

def documents (upTo : Option Nat) : List Entry :=
  (delivered upTo suggestions.windowed).filterMap entryOf

theorem windowed_of_empty (bus : Bus) (subject : String) {start : Nat}
    (beyond : bus.stream.lastPosition < start) : batch bus subject start = [] := by
  unfold batch
  rw [List.filter_eq_nil_iff]
  intro message member within
  simp only [Bool.and_eq_true, decide_eq_true_eq] at within
  omega

theorem delivered_nil {Item : Type} (upTo : Option Nat) : delivered upTo ([] : List Item) = [] := by
  cases upTo <;> simp [delivered]

theorem start_of_empty (empty : suggestions.bus.stream.lastPosition = 0 ∨
      suggestions.bus.stream.lastPosition < max suggestions.bus.firstSequence 1) :
    suggestions.bus.stream.lastPosition < suggestions.start ∧ suggestions.ReachesStart := by
  unfold start ReachesStart
  omega

theorem documents_of_empty (empty : suggestions.bus.stream.lastPosition = 0 ∨
      suggestions.bus.stream.lastPosition < max suggestions.bus.firstSequence 1)
    (upTo : Option Nat) : suggestions.documents upTo = [] := by
  unfold documents windowed
  rw [windowed_of_empty _ _ (suggestions.start_of_empty empty).1, delivered_nil]
  rfl

theorem read_none (positive : 0 < limit) (upTo : Option Nat) :
    ∃ reading, suggestions.read none limit (.delivers upTo) = .ok reading ∧
      reading.kept = lastFew limit (suggestions.documents upTo) ∧
      (reading.truncated = true ↔ limit < (suggestions.documents upTo).length) := by
  unfold read
  dsimp only
  by_cases empty : suggestions.bus.stream.lastPosition = 0 ∨
    suggestions.bus.stream.lastPosition < max suggestions.bus.firstSequence 1
  · rw [if_pos empty, suggestions.documents_of_empty empty]
    exact ⟨_, rfl, (lastFew_nil limit).symm, by simp⟩
  · rw [if_neg empty]
    refine ⟨_, rfl, ?_⟩
    have batched : delivered upTo (batch suggestions.bus suggestSubject
        (max (suggestions.bus.stream.lastPosition - suggestions.lookupWindow)
          (max suggestions.bus.firstSequence 1))) = delivered upTo suggestions.windowed := rfl
    obtain ⟨count, walked⟩ := walk_none positive [] 0 (delivered upTo suggestions.windowed)
    rw [lastFew_nil, List.length_nil, List.nil_append] at walked
    rw [batched, walked]
    refine ⟨rfl, ?_⟩
    rw [Option.isNone_none, Bool.true_and, decide_eq_true_eq]
    change (lastFew limit (suggestions.documents upTo)).length <
      (suggestions.documents upTo).length ↔ _
    rcases Nat.lt_or_ge limit (suggestions.documents upTo).length with long | fits
    · rw [length_lastFew (Nat.le_of_lt long)]
    · rw [lastFew_eq_self fits]
      exact iff_of_false (Nat.lt_irrefl _) (Nat.not_lt.mpr fits)

theorem read_some (id : String) (limit : Nat) (upTo : Option Nat) :
    ∃ reading, suggestions.read (some id) limit (.delivers upTo) = .ok reading ∧
      reading.kept.head? = (suggestions.documents upTo).find? (fun entry => entry.1.id == id) ∧
      (reading.window.reachedStartOfStream = true ↔ suggestions.ReachesStart) := by
  unfold read
  dsimp only
  by_cases empty : suggestions.bus.stream.lastPosition = 0 ∨
    suggestions.bus.stream.lastPosition < max suggestions.bus.firstSequence 1
  · rw [if_pos empty, suggestions.documents_of_empty empty]
    exact ⟨_, rfl, rfl, iff_of_true rfl (suggestions.start_of_empty empty).2⟩
  · rw [if_neg empty]
    refine ⟨_, rfl, ?_, ?_⟩
    · have kept := walk_some id limit 0 (delivered upTo suggestions.windowed)
      change (walk (some id) limit ⟨[], 0, 0⟩ (delivered upTo suggestions.windowed)).kept.head? = _
      rw [kept]
      exact Option.head?_toList
    · dsimp only
      rw [decide_eq_true_eq]
      unfold ReachesStart
      omega

/-! ### What a document is shown as -/

/-- A document as it is shown when the store answers, if it can be. -/
def shown (asking : Asking) (entry : Entry) : Option Listed :=
  match suggestions.settle { asking with failing := fun _ => none } entry with
  | .ok listed => some listed
  | .error _ => none

inductive Settled (asking : Asking) (entry : Entry) : Prop where
  | unreadable (why : Unreadable) (hidden : suggestions.shown asking entry = none)
      (refused : suggestions.settle asking entry = .error (.suggestionUnreadable why))
  | listed (listed : Listed) (isShown : suggestions.shown asking entry = some listed)
      (answers : asking.failing entry.1.id = none)
      (settled : suggestions.settle asking entry = .ok listed)
  | unanswered (detail : String) (isShown : suggestions.shown asking entry ≠ none)
      (fails : asking.failing entry.1.id = some detail)
      (refused : suggestions.settle asking entry = .error (.storeUnavailable detail))

theorem settled (asking : Asking) (entry : Entry) : suggestions.Settled asking entry := by
  cases network : Network.parse entry.1.network with
  | none =>
    refine .unreadable (.network entry.1.network) ?_ ?_
    · simp [shown, settle, network, readable, bind, Except.bind]
    · simp [settle, network, readable, bind, Except.bind]
  | some network =>
    cases label : State.parse entry.1.consent with
    | none =>
      refine .unreadable (.consent entry.1.consent) ?_ ?_
      · simp [shown, settle, *, readable, bind, Except.bind]
      · simp [settle, *, readable, bind, Except.bind]
    | some label =>
      cases format : Format.parse entry.1.format with
      | none =>
        refine .unreadable (.format entry.1.format) ?_ ?_
        · simp [shown, settle, *, readable, bind, Except.bind]
        · simp [settle, *, readable, bind, Except.bind]
      | some format =>
        cases failing : asking.failing entry.1.id with
        | none =>
          have same : suggestions.settle asking entry =
              suggestions.settle { asking with failing := fun _ => none } entry := by
            simp [settle, *]
          obtain ⟨listed, isSettled⟩ : ∃ listed,
              suggestions.settle { asking with failing := fun _ => none } entry = .ok listed := by
            simp [settle, *, readable, attempted, bind, Except.bind, pure, Except.pure]
          refine .listed listed ?_ failing (same.trans isSettled)
          simp [shown, isSettled]
        | some detail =>
          refine .unanswered detail ?_ failing ?_
          · simp [shown, settle, *, readable, attempted, bind, Except.bind, pure, Except.pure]
          · simp [settle, *, readable, attempted, bind, Except.bind]

variable {asking : Asking} {entry : Entry} {listed : Listed}

theorem of_shown (isShown : suggestions.shown asking entry = some listed) :
    listed.eventId = entry.1.id ∧ listed.streamSequence = entry.2 := by
  unfold shown at isShown
  split at isShown
  · rename_i other isSettled
    cases isShown
    obtain ⟨network, -, isSettled⟩ := bind_eq_ok.mp isSettled
    obtain ⟨label, -, isSettled⟩ := bind_eq_ok.mp isSettled
    obtain ⟨format, -, isSettled⟩ := bind_eq_ok.mp isSettled
    obtain ⟨-, -, isSettled⟩ := bind_eq_ok.mp isSettled
    cases isSettled
    exact ⟨rfl, rfl⟩
  · cases isShown

def Answered (asking : Asking) (entries : List Entry) : Prop :=
  ∀ entry ∈ entries, suggestions.shown asking entry ≠ none → asking.failing entry.1.id = none

variable {entries : List Entry}

theorem settleAll_of_answered (answered : suggestions.Answered asking entries) :
    ∃ count, suggestions.settleAll asking entries =
      .ok (entries.filterMap (suggestions.shown asking), count) := by
  induction entries with
  | nil => exact ⟨0, rfl⟩
  | cons entry rest inductionHypothesis =>
    obtain ⟨count, settledRest⟩ := inductionHypothesis fun other member =>
      answered other (List.mem_cons_of_mem _ member)
    unfold settleAll
    rcases suggestions.settled asking entry with
      ⟨why, hidden, refused⟩ | ⟨listed, isShown, -, isSettled⟩ | ⟨detail, isShown, fails, -⟩
    · rw [refused, settledRest, List.filterMap_cons_none hidden]
      exact ⟨_, rfl⟩
    · rw [isSettled, settledRest, List.filterMap_cons_some isShown]
      exact ⟨_, rfl⟩
    · rw [answered entry List.mem_cons_self isShown] at fails
      cases fails

theorem answered_of_settleAll {outcome : List Listed × Nat}
    (settledAll : suggestions.settleAll asking entries = .ok outcome) :
    suggestions.Answered asking entries := by
  induction entries generalizing outcome with
  | nil => exact fun _ member => absurd member List.not_mem_nil
  | cons entry rest inductionHypothesis =>
    unfold settleAll at settledAll
    rcases suggestions.settled asking entry with
      ⟨why, hidden, refused⟩ | ⟨listed, isShown, answers, isSettled⟩ | ⟨detail, -, -, refused⟩
    · rw [refused] at settledAll
      obtain ⟨others, settledRest, -⟩ := bind_eq_ok.mp settledAll
      refine List.forall_mem_cons.mpr ⟨fun isShown => absurd hidden isShown, ?_⟩
      exact inductionHypothesis settledRest
    · rw [isSettled] at settledAll
      obtain ⟨others, settledRest, -⟩ := bind_eq_ok.mp settledAll
      exact List.forall_mem_cons.mpr ⟨fun _ => answers, inductionHypothesis settledRest⟩
    · rw [refused] at settledAll
      cases settledAll

/-! ### The listing -/

def clamped (limit : Nat) : Nat := max 1 (min limit maxLimit)

theorem clamped_pos (limit : Nat) : 0 < clamped limit := Nat.lt_of_lt_of_le Nat.zero_lt_one
  (Nat.le_max_left _ _)

def Lists (asking : Asking) (limit : Nat) (upTo : Option Nat) : Prop :=
  suggestions.Answered asking (lastFew (clamped limit) (suggestions.documents upTo))

theorem answered_reverse :
    suggestions.Answered asking entries.reverse ↔ suggestions.Answered asking entries := by
  simp [Answered]

theorem exists_listing {upTo : Option Nat} (lists : suggestions.Lists asking limit upTo) :
    ∃ listing, suggestions.list asking limit (.delivers upTo) = .ok listing := by
  obtain ⟨reading, isRead, kept, -⟩ := suggestions.read_none (clamped_pos limit) upTo
  obtain ⟨count, settledAll⟩ := suggestions.settleAll_of_answered
    (suggestions.answered_reverse.mpr lists)
  rw [← kept] at settledAll
  refine ⟨_, bind_eq_ok.mpr ⟨reading, isRead, bind_eq_ok.mpr ⟨_, settledAll, rfl⟩⟩⟩

theorem of_list {listing : Listing} (listed : suggestions.list asking limit busRead = .ok listing) :
    ∃ upTo, busRead = .delivers upTo ∧ suggestions.Lists asking limit upTo ∧
      listing.suggestions = (lastFew (clamped limit)
        (suggestions.documents upTo)).reverse.filterMap (suggestions.shown asking) ∧
      (listing.truncated = true ↔ clamped limit < (suggestions.documents upTo).length) := by
  cases busRead with
  | fails detail => cases listed
  | delivers upTo =>
    obtain ⟨reading, isRead, kept, truncated⟩ := suggestions.read_none (clamped_pos limit) upTo
    obtain ⟨other, isOther, listed⟩ := bind_eq_ok.mp listed
    cases isRead.symm.trans isOther
    obtain ⟨⟨shownOnes, count⟩, settledAll, isListing⟩ := bind_eq_ok.mp listed
    cases isListing
    have answered := suggestions.answered_of_settleAll settledAll
    obtain ⟨total, same⟩ := suggestions.settleAll_of_answered answered
    rw [kept] at answered same settledAll
    cases settledAll.symm.trans same
    exact ⟨upTo, rfl, suggestions.answered_reverse.mp answered, rfl, truncated⟩

/-! ### One suggestion, to be shown and to be approved -/

theorem one_eq_ok_iff :
    suggestions.one asking id busRead = .ok listed ↔
      ∃ upTo entry, busRead = .delivers upTo ∧
        (suggestions.documents upTo).find? (fun entry => entry.1.id == id) = some entry ∧
        suggestions.settle asking entry = .ok listed := by
  cases busRead with
  | fails detail => exact ⟨nofun, fun ⟨_, _, isDelivered, _⟩ => nomatch isDelivered⟩
  | delivers upTo =>
    obtain ⟨reading, isRead, kept, -⟩ := suggestions.read_some id 1 upTo
    unfold one
    rw [isRead]
    dsimp only [bind, Except.bind]
    rw [kept]
    constructor
    · intro found
      split at found
      · rename_i entry isFirst
        exact ⟨upTo, entry, rfl, isFirst, found⟩
      · split at found <;> cases found
    · rintro ⟨other, entry, isDelivered, isFirst, isSettled⟩
      cases isDelivered
      rw [isFirst]
      exact isSettled

theorem one_eq_notFound_iff :
    suggestions.one asking id busRead = .error .suggestionNotFound ↔
      ∃ upTo, busRead = .delivers upTo ∧
        (suggestions.documents upTo).find? (fun entry => entry.1.id == id) = none ∧
        suggestions.ReachesStart := by
  cases busRead with
  | fails detail => exact ⟨nofun, fun ⟨_, isDelivered, _⟩ => nomatch isDelivered⟩
  | delivers upTo =>
    obtain ⟨reading, isRead, kept, reached⟩ := suggestions.read_some id 1 upTo
    unfold one
    rw [isRead]
    dsimp only [bind, Except.bind]
    rw [kept]
    constructor
    · intro absent
      split at absent
      · rename_i entry isFirst
        rcases suggestions.settled asking entry with
          ⟨why, -, refused⟩ | ⟨listed, -, -, isSettled⟩ | ⟨detail, -, -, refused⟩
        · rw [refused] at absent
          cases absent
        · rw [isSettled] at absent
          cases absent
        · rw [refused] at absent
          cases absent
      · rename_i isNone
        split at absent
        · rename_i isReached
          exact ⟨upTo, rfl, isNone, reached.mp isReached⟩
        · cases absent
    · rintro ⟨other, isDelivered, isNone, reaches⟩
      cases isDelivered
      rw [isNone]
      exact if_pos (reached.mpr reaches)

/-! ### What can be shown -/

/-- The contract's values of a document are ones this build understands. -/
def Showable (entry : Entry) : Prop :=
  Network.parse entry.1.network ≠ none ∧ State.parse entry.1.consent ≠ none ∧
    Format.parse entry.1.format ≠ none

theorem shown_ne_none_iff (asking : Asking) :
    suggestions.shown asking entry ≠ none ↔ Showable entry := by
  unfold Showable
  cases network : Network.parse entry.1.network with
  | none => simp [shown, settle, network, readable, bind, Except.bind]
  | some network =>
    cases label : State.parse entry.1.consent with
    | none => simp [shown, settle, *, readable, bind, Except.bind]
    | some label =>
      cases format : Format.parse entry.1.format with
      | none => simp [shown, settle, *, readable, bind, Except.bind]
      | some format =>
        simp [shown, settle, *, readable, attempted, bind, Except.bind, pure, Except.pure]

theorem shown_eq_none_iff (asking : Asking) :
    suggestions.shown asking entry = none ↔ ¬ Showable entry := by
  rw [← suggestions.shown_ne_none_iff asking, not_not]

theorem settle_of_shown (isShown : suggestions.shown asking entry = some listed)
    (answers : asking.failing entry.1.id = none) :
    suggestions.settle asking entry = .ok listed := by
  rcases suggestions.settled asking entry with
    ⟨why, hidden, -⟩ | ⟨other, isOther, -, isSettled⟩ | ⟨detail, -, fails, -⟩
  · rw [hidden] at isShown
    cases isShown
  · rw [isShown] at isOther
    cases isOther
    exact isSettled
  · rw [answers] at fails
    cases fails

theorem shown_of_settle (isSettled : suggestions.settle asking entry = .ok listed) :
    suggestions.shown asking entry = some listed := by
  rcases suggestions.settled asking entry with
    ⟨why, -, refused⟩ | ⟨other, isOther, -, settled⟩ | ⟨detail, -, -, refused⟩
  · rw [refused] at isSettled
    cases isSettled
  · rw [settled] at isSettled
    cases isSettled
    exact isOther
  · rw [refused] at isSettled
    cases isSettled

/-! ### What is delivered of the window -/

/-- What of a batch is not delivered. -/
def withheld {Item : Type} (upTo : Option Nat) (items : List Item) : List Item :=
  match upTo with
  | some count => items.drop count
  | none => []

theorem delivered_append_withheld {Item : Type} (upTo : Option Nat) (items : List Item) :
    delivered upTo items ++ withheld upTo items = items := by
  cases upTo with
  | none => exact List.append_nil _
  | some count => exact List.take_append_drop _ _

theorem pairwise_windowed :
    suggestions.windowed.Pairwise fun first second => first.position < second.position :=
  suggestions.bus.stream.ordered.sublist List.filter_sublist

theorem position_of_entryOf {message : Message BusMessage} (isEntry : entryOf message = some entry)
    : entry.2 = message.position := by
  obtain ⟨document, -, rfl⟩ := Option.map_eq_some_iff.mp isEntry
  rfl

theorem pairwise_documents :
    (suggestions.documents none).Pairwise fun first second => first.2 < second.2 := by
  unfold documents
  rw [List.pairwise_filterMap]
  refine suggestions.pairwise_windowed.imp ?_
  intro first second before entry isEntry other isOther
  rw [position_of_entryOf isEntry, position_of_entryOf isOther]
  exact before

def undelivered (upTo : Option Nat) : List Entry :=
  (withheld upTo suggestions.windowed).filterMap entryOf

theorem documents_append_undelivered (upTo : Option Nat) :
    suggestions.documents upTo ++ suggestions.undelivered upTo = suggestions.documents none := by
  unfold documents undelivered
  rw [← List.filterMap_append, delivered_append_withheld]
  rfl

theorem exists_delivery (member : entry ∈ suggestions.documents none) :
    ∃ upTo front, suggestions.documents upTo = front ++ [entry] := by
  obtain ⟨message, isWindowed, isEntry⟩ := List.mem_filterMap.mp member
  obtain ⟨before, after, split⟩ := List.append_of_mem (show message ∈ suggestions.windowed from
    isWindowed)
  refine ⟨some (before.length + 1), before.filterMap entryOf, ?_⟩
  unfold documents delivered
  dsimp only
  rw [split, List.take_append, List.take_of_length_le (Nat.le_succ _), Nat.add_sub_cancel_left,
    List.take_succ_cons, List.take_zero, List.filterMap_append, List.filterMap_cons_some isEntry,
    List.filterMap_nil]

end Suggestions

/-! ### The lookup of an approval -/

section Lookup

variable (approvals : Approvals)

def showing : Suggestions := ⟨approvals.store, approvals.bus, approvals.lookupWindow⟩

def lookedUpOf (message : Message BusMessage) : Option (Approval.SuggestionDocument × Nat) :=
  (Approval.SuggestionDocument.read message.payload.payload).map (·, message.position)

def lookedUp (upTo : Option Nat) : List (Approval.SuggestionDocument × Nat) :=
  (delivered upTo (showing approvals).windowed).filterMap lookedUpOf

theorem firstHit_eq_find? (id : String) (messages : List (Message BusMessage)) :
    firstHit (Approvals.suggestionNamed id) messages =
      (messages.filterMap lookedUpOf).find? fun entry => entry.1.id == id := by
  induction messages with
  | nil => rfl
  | cons message rest inductionHypothesis =>
    unfold firstHit Approvals.suggestionNamed
    cases isRead : Approval.SuggestionDocument.read message.payload.payload with
    | none =>
      rw [List.filterMap_cons_none (by rw [lookedUpOf, isRead]; rfl)]
      exact inductionHypothesis
    | some document =>
      rw [List.filterMap_cons_some (by rw [lookedUpOf, isRead]; rfl), List.find?_cons,
        Option.filter_some]
      by_cases same : document.id = id
      · simp [same]
      · rw [beq_false_of_ne same]
        exact inductionHypothesis

theorem scan_delivers (id : String) (upTo : Option Nat) :
    approvals.bus.scan approvals.lookupWindow (.delivers upTo) suggestSubject none
        (Approvals.suggestionNamed id) =
      .ok (match (lookedUp approvals upTo).find? (fun entry => entry.1.id == id) with
        | some entry => .hit entry.1 entry.2
        | none => .nothing (decide (showing approvals).ReachesStart)) := by
  unfold Bus.scan
  dsimp only
  rw [Option.getD_none]
  by_cases empty : approvals.bus.stream.lastPosition = 0 ∨
    approvals.bus.stream.lastPosition < max approvals.bus.firstSequence 1
  · obtain ⟨beyond, reaches⟩ := (showing approvals).start_of_empty empty
    have nothing : lookedUp approvals upTo = [] := by
      unfold lookedUp Suggestions.windowed
      rw [Suggestions.windowed_of_empty _ _ beyond, Suggestions.delivered_nil]
      rfl
    rw [if_pos empty, nothing, List.find?_nil]
    dsimp only
    rw [decide_eq_true reaches]
  · rw [if_neg empty]
    have hits := firstHit_eq_find? id (delivered upTo (showing approvals).windowed)
    change _ = (lookedUp approvals upTo).find? (fun entry => entry.1.id == id) at hits
    split
    · rename_i value sequence isHit
      rw [hits.symm.trans isHit]
    · rename_i isNone
      rw [hits.symm.trans isNone]
      dsimp only
      congr 3
      unfold Suggestions.ReachesStart showing
      simp only [eq_iff_iff]
      omega

theorem unreadable_of_suggestionOf {document : Approval.SuggestionDocument} {sequence : Nat}
    {refusal : Refusal} (refused : approvals.suggestionOf document sequence = .error refusal) :
    ∃ why, refusal = .suggestionUnreadable why := by
  unfold Approvals.suggestionOf at refused
  cases network : Network.parse document.network with
  | none =>
    rw [network] at refused
    cases refused
    exact ⟨_, rfl⟩
  | some parsed =>
    cases label : State.parse document.consent with
    | none =>
      simp only [*, readable, bind, Except.bind] at refused
      cases refused
      exact ⟨_, rfl⟩
    | some label =>
      cases format : Format.parse document.format with
      | none =>
        simp only [*, readable, bind, Except.bind] at refused
        cases refused
        exact ⟨_, rfl⟩
      | some format =>
        simp only [*, readable, bind, Except.bind, connectionOf] at refused
        cases resolved : approvals.connections.resolve document.connection parsed.asStr with
        | error why =>
          rw [resolved] at refused
          cases refused
          exact ⟨_, rfl⟩
        | ok connection =>
          rw [resolved] at refused
          unfold contractSentence at refused
          cases disclosed : document.disclosure with
          | none =>
            rw [disclosed] at refused
            cases refused
          | some sentence =>
            simp only [disclosed] at refused
            split at refused
            · rename_i isError
              split at isError
              · cases isError
              · cases isError
                cases refused
                exact ⟨_, rfl⟩
            · cases refused

theorem findSuggestion_eq_ok_iff {suggestion : Suggestion} :
    approvals.findSuggestion busRead id = .ok suggestion ↔
      ∃ upTo entry, busRead = .delivers upTo ∧
        (lookedUp approvals upTo).find? (fun entry => entry.1.id == id) = some entry ∧
        approvals.suggestionOf entry.1 entry.2 = .ok suggestion := by
  cases busRead with
  | fails detail => exact ⟨nofun, fun ⟨_, _, isDelivered, _⟩ => nomatch isDelivered⟩
  | delivers upTo =>
    unfold Approvals.findSuggestion
    rw [scan_delivers]
    constructor
    · intro found
      obtain ⟨outcome, isOutcome, found⟩ := bind_eq_ok.mp found
      cases isFirst : (lookedUp approvals upTo).find? (fun entry => entry.1.id == id) with
      | some entry =>
        rw [isFirst] at isOutcome
        cases isOutcome
        exact ⟨upTo, entry, rfl, isFirst, found⟩
      | none =>
        rw [isFirst] at isOutcome
        cases isOutcome
        cases reaches : decide (showing approvals).ReachesStart <;> rw [reaches] at found <;>
          cases found
    · rintro ⟨other, entry, isDelivered, isFirst, isSuggestion⟩
      cases isDelivered
      rw [isFirst]
      exact isSuggestion

theorem findSuggestion_eq_notFound_iff :
    approvals.findSuggestion busRead id = .error .suggestionNotFound ↔
      ∃ upTo, busRead = .delivers upTo ∧
        (lookedUp approvals upTo).find? (fun entry => entry.1.id == id) = none ∧
        (showing approvals).ReachesStart := by
  cases busRead with
  | fails detail => exact ⟨nofun, fun ⟨_, isDelivered, _⟩ => nomatch isDelivered⟩
  | delivers upTo =>
    unfold Approvals.findSuggestion
    rw [scan_delivers]
    cases isFirst : (lookedUp approvals upTo).find? (fun entry => entry.1.id == id) with
    | some entry =>
      constructor
      · intro absent
        obtain ⟨why, isWhy⟩ := unreadable_of_suggestionOf approvals
          (show approvals.suggestionOf entry.1 entry.2 = .error .suggestionNotFound from absent)
        cases isWhy
      · rintro ⟨other, isDelivered, isNone, -⟩
        cases isDelivered
        rw [isFirst] at isNone
        cases isNone
    | none =>
      by_cases reaches : (showing approvals).ReachesStart
      · rw [decide_eq_true reaches]
        exact ⟨fun _ => ⟨upTo, rfl, isFirst, reaches⟩, fun _ => rfl⟩
      · rw [decide_eq_false reaches]
        exact ⟨nofun, fun ⟨_, _, _, does⟩ => absurd does reaches⟩

end Lookup

end Twalk.Shown
