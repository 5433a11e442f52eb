/-
This file models how the clerk reads the owner's gestures off a Buzz relay's answer,
`clerk/src/decision.rs` and the part of `decisions_once` of `clerk/src/consumers.rs` that
leads to what is acted on. The decision a post gets is that of the oldest unanswered
gesture the owner's key signed, whatever else the relay serves, in whatever order and
however often.
-/

import Twalk.Library.Sha256
import Twalk.Library.Sorting
import Twalk.Relay

namespace Twalk.Clerk

/-! ### Gestures -/

def approve : List String := ["✅", "✔️"]

def refuse : List String := ["❌", "✖️"]

/-- U+FE0F, which a client may append to an emoji or leave off. -/
def variationSelector : Char := Char.ofNat 0xfe0f

inductive Gesture where
  | approve
  | approveEdited (text : String)
  | refuse
deriving DecidableEq, Repr

def bare (content : String) : String :=
  String.ofList (((Text.trim content).toList.reverse.dropWhile fun character =>
    character == variationSelector).reverse)

def spells (emojis : List String) (content : String) : Bool :=
  emojis.any fun emoji => bare emoji == bare content

def emojiGesture (content : String) : Option Gesture :=
  if spells approve content then some .approve
  else if spells refuse content then some .refuse
  else none

def gestureOf (event : Event) (postId : String) : Option Gesture :=
  if event.kind = kindReaction then emojiGesture event.content
  else if isDirectReply event postId = false then none
  else if Text.trim event.content = "" then none
  else some ((emojiGesture (Text.trim event.content)).getD
    (.approveEdited (Text.trim event.content)))

/-! ### Decisions -/

structure Decision where
  gesture : Gesture
  gestureId : String
  byOwner : Bool
  author : String
  createdAt : Nat
deriving DecidableEq, Repr

def decisionOf (postId ownerPubkey : String) (event : Event) : Option Decision :=
  (gestureOf event postId).map fun gesture => {
    gesture := gesture
    gestureId := event.id
    byOwner := event.pubkey == ownerPubkey
    author := event.pubkey
    createdAt := event.createdAt }

def Decision.earlier (first second : Decision) : Prop :=
  first.createdAt < second.createdAt ∨
    first.createdAt = second.createdAt ∧ textLe first.gestureId second.gestureId = true

instance : DecidableRel Decision.earlier := fun first second =>
  inferInstanceAs (Decidable (first.createdAt < second.createdAt ∨
    first.createdAt = second.createdAt ∧ textLe first.gestureId second.gestureId = true))

instance : IsTrans Decision Decision.earlier where
  trans first second third early late := by
    rcases early with older | ⟨same, before⟩
    · rcases late with laterOlder | ⟨laterSame, _⟩
      · exact .inl (Nat.lt_trans older laterOlder)
      · exact .inl (laterSame ▸ older)
    · rcases late with laterOlder | ⟨laterSame, after⟩
      · exact .inl (same ▸ laterOlder)
      · exact .inr ⟨same.trans laterSame, textLe_trans before after⟩

instance : Std.Total Decision.earlier where
  total first second := by
    rcases Nat.lt_trichotomy first.createdAt second.createdAt with older | same | newer
    · exact .inl (.inl older)
    · rcases textLe_total first.gestureId second.gestureId with before | after
      · exact .inl (.inr ⟨same, before⟩)
      · exact .inr (.inr ⟨same.symm, after⟩)
    · exact .inr (.inl newer)

/-- `decisions_on`: the decisions on a post, oldest first. -/
def decisionsOn (postId ownerPubkey : String) (events : List Event) : List Decision :=
  ((events.filter fun event => targets event postId).filterMap
    (decisionOf postId ownerPubkey)).insertionSort Decision.earlier

structure Triage where
  act : Option Decision
  strangers : List Decision
deriving DecidableEq, Repr

def triage (decisions : List Decision) : Triage :=
  decisions.foldl (fun sorted decision =>
    if !decision.byOwner then { sorted with strangers := sorted.strangers ++ [decision] }
    else if sorted.act.isNone then { sorted with act := some decision }
    else sorted) ⟨none, []⟩

/-- What one tick decides on a post: of the relay's answers, what verifies, each event once, the
clerk's own left out and what was answered already. -/
def decided (nostr : Nostr) (ownPubkey ownerPubkey postId : String) (answered : List String)
    (answers : List (List Event)) : Triage :=
  triage ((decisionsOn postId ownerPubkey ((queryEach nostr answers).filter fun gesture =>
    gesture.pubkey != ownPubkey)).filter fun decision => !answered.contains decision.gestureId)

theorem act_triage (decisions : List Decision) :
    (triage decisions).act = decisions.find? Decision.byOwner := by
  have fold : ∀ (rest : List Decision) (sorted : Triage),
      (rest.foldl (fun sorted decision =>
        if !decision.byOwner then { sorted with strangers := sorted.strangers ++ [decision] }
        else if sorted.act.isNone then { sorted with act := some decision }
        else sorted) sorted).act = sorted.act.or (rest.find? Decision.byOwner) := by
    intro rest
    induction rest with
    | nil => simp
    | cons decision rest inductionHypothesis =>
      intro sorted
      rw [List.foldl_cons, inductionHypothesis, List.find?_cons]
      cases decision.byOwner with
      | false => rfl
      | true => cases isAct : sorted.act <;> simp [isAct]
  exact (fold decisions ⟨none, []⟩).trans Option.none_or

theorem strangers_triage (decisions : List Decision) :
    (triage decisions).strangers = decisions.filter fun decision => !decision.byOwner := by
  have fold : ∀ (rest : List Decision) (sorted : Triage),
      (rest.foldl (fun sorted decision =>
        if !decision.byOwner then { sorted with strangers := sorted.strangers ++ [decision] }
        else if sorted.act.isNone then { sorted with act := some decision }
        else sorted) sorted).strangers =
      sorted.strangers ++ rest.filter fun decision => !decision.byOwner := by
    intro rest
    induction rest with
    | nil => simp
    | cons decision rest inductionHypothesis =>
      intro sorted
      rw [List.foldl_cons, inductionHypothesis, List.filter_cons]
      cases decision.byOwner with
      | false => simp
      | true => cases sorted.act <;> simp
  exact fold decisions ⟨none, []⟩

theorem nodup_triage {decisions : List Decision}
    (distinct : (decisions.map Decision.gestureId).Nodup) :
    (((triage decisions).strangers ++ (triage decisions).act.toList).map
      Decision.gestureId).Nodup := by
  rw [strangers_triage, act_triage, List.map_append, List.nodup_append]
  refine ⟨distinct.sublist (List.filter_sublist.map _), ?_, ?_⟩
  · cases decisions.find? Decision.byOwner with
    | none => exact List.nodup_nil
    | some act => exact List.nodup_singleton _
  · intro strangerId isStranger actId isAct same
    obtain ⟨stranger, isDecision, rfl⟩ := List.mem_map.mp isStranger
    obtain ⟨act, isFound, rfl⟩ := List.mem_map.mp isAct
    obtain ⟨isDecision, notOwner⟩ := List.mem_filter.mp isDecision
    have found := Option.mem_toList.mp isFound
    have byOwner : act.byOwner = true := List.find?_some found
    have isOne : stranger = act := List.inj_on_of_nodup_map distinct isDecision
      (List.mem_of_find?_eq_some found) same
    rw [isOne, byOwner] at notOwner
    cases notOwner

variable {event : Event} {decision : Decision} {postId ownerPubkey : String}

theorem gestureId_of_decisionOf (isDecision : decisionOf postId ownerPubkey event = some decision) :
    decision.gestureId = event.id := by
  obtain ⟨_, _, rfl⟩ := Option.map_eq_some_iff.mp isDecision
  rfl

theorem exists_event_of_mem_decisionsOn {events : List Event}
    (member : decision ∈ decisionsOn postId ownerPubkey events) :
    ∃ event ∈ events, targets event postId = true ∧ event.id = decision.gestureId := by
  have kept := ((List.perm_insertionSort Decision.earlier _).mem_iff).mp member
  obtain ⟨event, isTarget, isDecision⟩ := List.mem_filterMap.mp kept
  obtain ⟨isEvent, targetsPost⟩ := List.mem_filter.mp isTarget
  exact ⟨event, isEvent, targetsPost, (gestureId_of_decisionOf isDecision).symm⟩

theorem nodup_decisionsOn {events : List Event} (distinct : (events.map Event.id).Nodup) :
    ((decisionsOn postId ownerPubkey events).map Decision.gestureId).Nodup := by
  have fewer : ∀ some_events : List Event,
      ((some_events.filterMap (decisionOf postId ownerPubkey)).map Decision.gestureId).Sublist
        (some_events.map Event.id) := by
    intro some_events
    induction some_events with
    | nil => exact List.Sublist.slnil
    | cons event others inductionHypothesis =>
      cases isDecision : decisionOf postId ownerPubkey event with
      | none =>
        rw [List.filterMap_cons_none isDecision]
        exact inductionHypothesis.cons _
      | some decision =>
        rw [List.filterMap_cons_some isDecision, List.map_cons, List.map_cons,
          gestureId_of_decisionOf isDecision]
        exact inductionHypothesis.cons_cons _
  have sorted := (List.perm_insertionSort Decision.earlier
    ((events.filter fun event => targets event postId).filterMap
      (decisionOf postId ownerPubkey))).map Decision.gestureId
  exact sorted.nodup_iff.mpr
    ((distinct.sublist (List.filter_sublist.map _)).sublist (fewer _))

/-! ### What decides -/

section Deciding

variable (nostr : Nostr) (ownerPubkey postId : String) (answered : List String)

/-- Whether an event is an unanswered gesture of the owner on a post: it verifies, the owner's key
signed it, its last `e` tag names the post, and it spells one of the four emoji as a reaction or
says something as a direct reply. -/
structure Decides (event : Event) : Prop where
  isVerified : verifies nostr event = true
  byOwner : event.pubkey = ownerPubkey
  onPost : ∃ tag, (eTags event).getLast? = some tag ∧ tag[1]? = some postId
  unanswered : event.id ∉ answered
  gestures : (event.kind = kindReaction ∧
      ∃ emoji ∈ approve ++ refuse, bare emoji = bare event.content) ∨
    (event.kind = kindForumComment ∧ Text.trim event.content ≠ "" ∧
      ∃ tag, eTags event = [tag] ∧ tag[1]? = some postId ∧
        (tag[3]? = none ∨ tag[3]? = some "" ∨ tag[3]? = some "reply"))

end Deciding

theorem spells_iff {emojis : List String} {content : String} :
    spells emojis content = true ↔ ∃ emoji ∈ emojis, bare emoji = bare content := by
  unfold spells
  rw [List.any_eq_true]
  exact exists_congr fun emoji => and_congr_right fun _ => beq_iff_eq

theorem spells_append (first second : List String) (content : String) :
    spells (first ++ second) content = (spells first content || spells second content) :=
  List.any_append

theorem isSome_emojiGesture (content : String) :
    (emojiGesture content).isSome = spells (approve ++ refuse) content := by
  rw [spells_append]
  unfold emojiGesture
  cases spells approve content <;> cases spells refuse content <;> rfl

theorem isDirectReply_iff {postId : String} :
    isDirectReply event postId = true ↔ event.kind = kindForumComment ∧
      ∃ tag, eTags event = [tag] ∧ tag[1]? = some postId ∧
        (tag[3]? = none ∨ tag[3]? = some "" ∨ tag[3]? = some "reply") := by
  unfold isDirectReply
  rw [Bool.and_eq_true, beq_iff_eq]
  refine and_congr_right fun _ => ?_
  cases tags : eTags event with
  | nil => simp
  | cons tag others =>
    cases others with
    | cons second rest => simp
    | nil => simp [or_assoc]

theorem isSome_gestureOf_iff {postId : String} :
    (gestureOf event postId).isSome = true ↔
      (event.kind = kindReaction ∧
        ∃ emoji ∈ approve ++ refuse, bare emoji = bare event.content) ∨
      (event.kind = kindForumComment ∧ Text.trim event.content ≠ "" ∧
        ∃ tag, eTags event = [tag] ∧ tag[1]? = some postId ∧
          (tag[3]? = none ∨ tag[3]? = some "" ∨ tag[3]? = some "reply")) := by
  unfold gestureOf
  by_cases reacts : event.kind = kindReaction
  · have noComment : event.kind ≠ kindForumComment := by
      rw [reacts]
      decide
    rw [if_pos reacts, isSome_emojiGesture, spells_iff]
    refine ⟨fun spelled => .inl ⟨reacts, spelled⟩, ?_⟩
    rintro (⟨_, spelled⟩ | ⟨comments, _⟩)
    · exact spelled
    · exact absurd comments noComment
  · rw [if_neg reacts]
    cases direct : isDirectReply event postId with
    | false =>
      have notDirect := mt isDirectReply_iff.mpr (direct ▸ Bool.false_ne_true)
      rw [if_pos rfl]
      refine iff_of_false (by simp) ?_
      rintro (⟨reacting, _⟩ | ⟨comments, _, tagged⟩)
      · exact reacts reacting
      · exact notDirect ⟨comments, tagged⟩
    | true =>
      obtain ⟨comments, tagged⟩ := isDirectReply_iff.mp direct
      rw [if_neg (by simp)]
      by_cases blank : Text.trim event.content = ""
      · rw [if_pos blank]
        refine iff_of_false (by simp) ?_
        rintro (⟨reacting, _⟩ | ⟨_, speaks, _⟩)
        · exact reacts reacting
        · exact speaks blank
      · rw [if_neg blank]
        exact iff_of_true rfl (.inr ⟨comments, blank, tagged⟩)

theorem gestureOf_eq_edited {postId text : String}
    (edits : gestureOf event postId = some (.approveEdited text)) :
    event.kind = kindForumComment ∧ text = Text.trim event.content := by
  have noEmoji : ∀ content, emojiGesture content ≠ some (.approveEdited text) := by
    intro content
    unfold emojiGesture
    cases spells approve content <;> cases spells refuse content <;> simp
  unfold gestureOf at edits
  by_cases reacts : event.kind = kindReaction
  · rw [if_pos reacts] at edits
    exact absurd edits (noEmoji _)
  · rw [if_neg reacts] at edits
    cases direct : isDirectReply event postId with
    | false => simp [direct] at edits
    | true =>
      rw [direct, if_neg (by simp)] at edits
      by_cases blank : Text.trim event.content = ""
      · simp [blank] at edits
      · rw [if_neg blank, Option.some.injEq] at edits
        refine ⟨(isDirectReply_iff.mp direct).1, ?_⟩
        cases emoji : emojiGesture (Text.trim event.content) with
        | some gesture =>
          rw [emoji, Option.getD_some] at edits
          rw [edits] at emoji
          exact absurd emoji (noEmoji _)
        | none =>
          rw [emoji, Option.getD_none] at edits
          exact (Gesture.approveEdited.inj edits).symm

theorem targets_iff {postId : String} :
    targets event postId = true ↔
      (event.kind = kindReaction ∨ event.kind = kindForumComment) ∧
        ∃ tag, (eTags event).getLast? = some tag ∧ tag[1]? = some postId := by
  unfold targets
  rw [Bool.and_eq_true, Bool.or_eq_true, beq_iff_eq, beq_iff_eq, Option.any_eq_true]
  simp only [beq_iff_eq]

/-! ### What is acted on -/

section Acting

variable {nostr : Nostr} {ownPubkey ownerPubkey postId : String} {answered : List String}

def admits (answered : List String) (decision : Decision) : Bool :=
  !answered.contains decision.gestureId && decision.byOwner

def candidates (nostr : Nostr) (ownPubkey ownerPubkey postId : String)
    (answers : List (List Event)) : List Decision :=
  (((queryEach nostr answers).filter fun gesture => gesture.pubkey != ownPubkey).filter
    fun event => targets event postId).filterMap (decisionOf postId ownerPubkey)

theorem act_decided (answers : List (List Event)) :
    (decided nostr ownPubkey ownerPubkey postId answered answers).act =
      ((candidates nostr ownPubkey ownerPubkey postId answers).insertionSort
        Decision.earlier).find? (admits answered) := by
  have test : (fun decision : Decision => decide ((!answered.contains decision.gestureId) = true ∧
      decision.byOwner = true)) = admits answered := by
    funext decision
    unfold admits
    rw [Bool.decide_and, Bool.decide_eq_true, Bool.decide_eq_true]
  unfold decided
  rw [act_triage, List.find?_filter, test]
  rfl

theorem decisionOf_congr {first second : Event} (said : first.toSigned = second.toSigned)
    (sameId : first.id = second.id) :
    decisionOf postId ownerPubkey first = decisionOf postId ownerPubkey second := by
  obtain ⟨firstSaid, firstId, firstSig⟩ := first
  obtain ⟨secondSaid, secondId, secondSig⟩ := second
  obtain rfl : firstSaid = secondSaid := said
  obtain rfl : firstId = secondId := sameId
  rfl

theorem Decides.of_same {first second : Event}
    (decides : Decides nostr ownerPubkey postId answered first)
    (isVerified : verifies nostr second = true) (said : first.toSigned = second.toSigned)
    (sameId : first.id = second.id) : Decides nostr ownerPubkey postId answered second := by
  obtain ⟨firstSaid, firstId, firstSig⟩ := first
  obtain ⟨secondSaid, secondId, secondSig⟩ := second
  obtain rfl : firstSaid = secondSaid := said
  obtain rfl : firstId = secondId := sameId
  exact ⟨isVerified, decides.byOwner, decides.onPost, decides.unanswered, decides.gestures⟩

theorem decides_iff (isVerified : verifies nostr event = true)
    (isDecision : decisionOf postId ownerPubkey event = some decision) :
    targets event postId = true ∧ admits answered decision = true ↔
      Decides nostr ownerPubkey postId answered event := by
  obtain ⟨gesture, isGesture, rfl⟩ := Option.map_eq_some_iff.mp isDecision
  have gestures := isSome_gestureOf_iff.mp (Option.isSome_iff_exists.mpr ⟨gesture, isGesture⟩)
  have admitted : admits answered ⟨gesture, event.id, event.pubkey == ownerPubkey, event.pubkey,
      event.createdAt⟩ = true ↔ event.id ∉ answered ∧ event.pubkey = ownerPubkey := by
    unfold admits
    rw [Bool.and_eq_true, Bool.not_eq_true', List.contains_eq_mem, decide_eq_false_iff_not,
      beq_iff_eq]
  rw [admitted, targets_iff]
  constructor
  · rintro ⟨⟨_, onPost⟩, unanswered, byOwner⟩
    exact ⟨isVerified, byOwner, onPost, unanswered, gestures⟩
  · rintro ⟨_, byOwner, onPost, unanswered, _⟩
    refine ⟨⟨?_, onPost⟩, unanswered, byOwner⟩
    rcases gestures with ⟨reacts, _⟩ | ⟨comments, _⟩
    · exact .inl reacts
    · exact .inr comments

theorem Decides.exists_decision (decides : Decides nostr ownerPubkey postId answered event) :
    ∃ decision, decisionOf postId ownerPubkey event = some decision := by
  obtain ⟨gesture, isGesture⟩ :=
    Option.isSome_iff_exists.mp (isSome_gestureOf_iff.mpr decides.gestures)
  exact ⟨_, Option.map_eq_some_iff.mpr ⟨gesture, isGesture, rfl⟩⟩

variable {answers : List (List Event)}

theorem mem_candidates :
    decision ∈ candidates nostr ownPubkey ownerPubkey postId answers ↔
      ∃ event ∈ queryEach nostr answers, event.pubkey ≠ ownPubkey ∧
        targets event postId = true ∧ decisionOf postId ownerPubkey event = some decision := by
  unfold candidates
  simp only [List.mem_filterMap, List.mem_filter, bne_iff_ne, and_assoc]

theorem mem_admitted :
    decision ∈ candidates nostr ownPubkey ownerPubkey postId answers ∧
        admits answered decision = true ↔
      ∃ event ∈ queryEach nostr answers, event.pubkey ≠ ownPubkey ∧
        Decides nostr ownerPubkey postId answered event ∧
          decisionOf postId ownerPubkey event = some decision := by
  rw [mem_candidates]
  constructor
  · rintro ⟨⟨event, member, notOwn, isTarget, isDecision⟩, admitted⟩
    have decides := (decides_iff (of_mem_queryEach member).2 isDecision).mp ⟨isTarget, admitted⟩
    exact ⟨event, member, notOwn, decides, isDecision⟩
  · rintro ⟨event, member, notOwn, decides, isDecision⟩
    obtain ⟨isTarget, admitted⟩ := (decides_iff decides.isVerified isDecision).mpr decides
    exact ⟨⟨event, member, notOwn, isTarget, isDecision⟩, admitted⟩

theorem Decides.exists_mem_queryEach (collisionless : Collisionless nostr answers.flatten)
    (member : event ∈ answers.flatten) (decides : Decides nostr ownerPubkey postId answered event) :
    ∃ kept ∈ queryEach nostr answers, kept.id = event.id ∧ kept.toSigned = event.toSigned ∧
      Decides nostr ownerPubkey postId answered kept := by
  obtain ⟨kept, isKept, sameId, said⟩ :=
    Clerk.exists_mem_queryEach collisionless member decides.isVerified
  exact ⟨kept, isKept, sameId, said,
    decides.of_same (of_mem_queryEach isKept).2 said.symm sameId.symm⟩

variable {first second : List Event}

theorem Collisionless.of_append_left (collisionless : Collisionless nostr (first ++ second)) :
    Collisionless nostr first :=
  fun one isOne other isOther =>
    collisionless one (List.mem_append_left _ isOne) other (List.mem_append_left _ isOther)

theorem Collisionless.of_append_right (collisionless : Collisionless nostr (first ++ second)) :
    Collisionless nostr second :=
  fun one isOne other isOther =>
    collisionless one (List.mem_append_right _ isOne) other (List.mem_append_right _ isOther)

theorem Collisionless.symm (collisionless : Collisionless nostr (first ++ second)) :
    Collisionless nostr (second ++ first) :=
  fun one isOne other isOther => collisionless one (List.mem_append.mpr
    (List.mem_append.mp isOne).symm) other (List.mem_append.mpr (List.mem_append.mp isOther).symm)

theorem mem_candidates_of_same {first second : List (List Event)}
    (collisionless : Collisionless nostr (first.flatten ++ second.flatten))
    (same : ∀ event ∈ first.flatten, Decides nostr ownerPubkey postId answered event →
      ∃ other ∈ second.flatten, Decides nostr ownerPubkey postId answered other ∧
        other.toSigned = event.toSigned) (admitted : admits answered decision = true)
    (member : decision ∈ candidates nostr ownPubkey ownerPubkey postId first) :
    decision ∈ candidates nostr ownPubkey ownerPubkey postId second := by
  obtain ⟨event, isRead, notOwn, decides, isDecision⟩ := mem_admitted.mp ⟨member, admitted⟩
  obtain ⟨isServed, isVerified⟩ := of_mem_queryEach isRead
  obtain ⟨other, isOther, otherDecides, said⟩ := same event isServed decides
  obtain ⟨kept, isKept, sameId, keptSaid, keptDecides⟩ :=
    otherDecides.exists_mem_queryEach collisionless.of_append_right isOther
  have sameAsEvent : kept.id = event.id := by
    rw [sameId, ← id_of_verifies otherDecides.isVerified, said, id_of_verifies isVerified]
  refine (mem_admitted.mpr ⟨kept, isKept, ?_, keptDecides, ?_⟩).1
  · rw [keptDecides.byOwner, ← decides.byOwner]
    exact notOwn
  · rw [← isDecision]
    exact decisionOf_congr (keptSaid.trans said) sameAsEvent

theorem eq_of_earlier_earlier {first second : List (List Event)}
    (collisionless : Collisionless nostr (first.flatten ++ second.flatten))
    {one other : Decision} (isOne : one ∈ candidates nostr ownPubkey ownerPubkey postId first)
    (isOther : other ∈ candidates nostr ownPubkey ownerPubkey postId second)
    (before : one.earlier other) (after : other.earlier one) : one = other := by
  have sameId : one.gestureId = other.gestureId := by
    rcases before with older | ⟨_, ordered⟩
    · rcases after with newer | ⟨same, _⟩
      · exact absurd older (Nat.lt_asymm newer)
      · exact absurd same (Nat.ne_of_gt older)
    · rcases after with newer | ⟨_, reversed⟩
      · rename_i same
        exact absurd same (Nat.ne_of_gt newer)
      · exact textLe_antisymm ordered reversed
  obtain ⟨event, isRead, _, _, isDecision⟩ := mem_candidates.mp isOne
  obtain ⟨again, againRead, _, _, againDecision⟩ := mem_candidates.mp isOther
  obtain ⟨isServed, isVerified⟩ := of_mem_queryEach isRead
  obtain ⟨againServed, againVerified⟩ := of_mem_queryEach againRead
  have eventId : event.id = one.gestureId := by
    obtain ⟨_, _, rfl⟩ := Option.map_eq_some_iff.mp isDecision
    rfl
  have againId : again.id = other.gestureId := by
    obtain ⟨_, _, rfl⟩ := Option.map_eq_some_iff.mp againDecision
    rfl
  have ids : event.id = again.id := by rw [eventId, againId, sameId]
  have said : event.toSigned = again.toSigned :=
    collisionless event (List.mem_append_left _ isServed) again
      (List.mem_append_right _ againServed)
      (by rw [id_of_verifies isVerified, id_of_verifies againVerified, ids])
  rw [decisionOf_congr said ids, againDecision] at isDecision
  exact (Option.some.inj isDecision).symm

end Acting

/-- What is acted on is the oldest unanswered gesture of the owner on the post, an edited text is that
of their own reply, and nothing else an answer holds, nor its order or its repetitions, changes
which one it is. -/
theorem only_the_owner_decides (nostr : Nostr) (ownPubkey ownerPubkey postId : String)
    (answered : List String) (first second : List (List Event))
    (collisionless : Collisionless nostr (first.flatten ++ second.flatten)) :
    (∀ decision, (decided nostr ownPubkey ownerPubkey postId answered first).act = some decision →
      ∃ event ∈ first.flatten, Decides nostr ownerPubkey postId answered event ∧
        decisionOf postId ownerPubkey event = some decision ∧
        (∀ text, decision.gesture = .approveEdited text →
          event.kind = kindForumComment ∧ text = Text.trim event.content) ∧
        ∀ other ∈ first.flatten, Decides nostr ownerPubkey postId answered other →
          event.createdAt < other.createdAt ∨
            event.createdAt = other.createdAt ∧ textLe event.id other.id = true) ∧
    ((∀ said, (∃ event ∈ first.flatten,
          Decides nostr ownerPubkey postId answered event ∧ event.toSigned = said) ↔
        ∃ event ∈ second.flatten,
          Decides nostr ownerPubkey postId answered event ∧ event.toSigned = said) →
      (decided nostr ownPubkey ownerPubkey postId answered first).act =
        (decided nostr ownPubkey ownerPubkey postId answered second).act) := by
  refine ⟨fun decision acts => ?_, fun same => ?_⟩
  · rw [act_decided] at acts
    obtain ⟨member, admitted, isLeast⟩ :=
      least_of_find?_insertionSort Decision.earlier (admits answered) acts
    obtain ⟨event, isRead, notOwn, decides, isDecision⟩ := mem_admitted.mp ⟨member, admitted⟩
    refine ⟨event, (of_mem_queryEach isRead).1, decides, isDecision, ?_, ?_⟩
    · intro text edits
      obtain ⟨gesture, isGesture, rfl⟩ := Option.map_eq_some_iff.mp isDecision
      obtain rfl : gesture = .approveEdited text := edits
      exact gestureOf_eq_edited isGesture
    · intro other isOther otherDecides
      obtain ⟨kept, isKept, sameId, said, keptDecides⟩ :=
        otherDecides.exists_mem_queryEach collisionless.of_append_left isOther
      obtain ⟨later, isLater⟩ := keptDecides.exists_decision
      have keptNotOwn : kept.pubkey ≠ ownPubkey := by
        rw [keptDecides.byOwner, ← decides.byOwner]
        exact notOwn
      obtain ⟨isCandidate, isAdmitted⟩ :=
        mem_admitted.mpr ⟨kept, isKept, keptNotOwn, keptDecides, isLater⟩
      have earlier := isLeast later isCandidate isAdmitted
      obtain ⟨_, _, rfl⟩ := Option.map_eq_some_iff.mp isDecision
      obtain ⟨_, _, rfl⟩ := Option.map_eq_some_iff.mp isLater
      rw [← sameId, ← congrArg Signed.createdAt said]
      exact earlier
  · rw [act_decided, act_decided]
    refine find?_insertionSort_congr Decision.earlier (admits answered) ?_ ?_
    · intro one isOne other isOther
      exact eq_of_earlier_earlier collisionless isOne isOther
    · intro decision admitted
      constructor
      · refine mem_candidates_of_same collisionless (fun event isServed decides => ?_) admitted
        exact (same event.toSigned).mp ⟨event, isServed, decides, rfl⟩
      · refine mem_candidates_of_same collisionless.symm (fun event isServed decides => ?_) admitted
        exact (same event.toSigned).mpr ⟨event, isServed, decides, rfl⟩

namespace OwnersApproval

def nostr : Nostr where
  idOf said :=
    let tags := ",".intercalate (said.tags.map fun tag =>
      "[" ++ ",".intercalate (tag.map Text.debug) ++ "]")
    sha256Hex ("[0," ++ Text.debug said.pubkey ++ "," ++ toString said.createdAt ++ "," ++
      toString said.kind ++ ",[" ++ tags ++ "]," ++ Text.debug said.content ++ "]")
  signs pubkey _ sig := pubkey == "owner" && sig == "the owner's"

def approval : Signed where
  pubkey := "owner"
  createdAt := 10
  kind := kindReaction
  tags := [["e", "post"]]
  content := "✅"

def gesture : Event where
  toSigned := approval
  id := nostr.idOf approval
  sig := "the owner's"

/-- An approval that is served three times decides like one that is served once. -/
theorem repeated_alike :
    (decided nostr "clerk" "owner" "post" [] [[gesture]]).act =
      (decided nostr "clerk" "owner" "post" [] [[gesture, gesture], [gesture]]).act := by
  have isGesture : ∀ event ∈ [[gesture]].flatten ++ [[gesture, gesture], [gesture]].flatten,
      event = gesture := by
    intro event member
    simpa using member
  refine (only_the_owner_decides nostr "clerk" "owner" "post" [] [[gesture]]
    [[gesture, gesture], [gesture]] ?_).2 fun said => ?_
  · intro first isFirst second isSecond _
    rw [isGesture first isFirst, isGesture second isSecond]
  · simp

end OwnersApproval

end Twalk.Clerk
