/-
This file is what a draft did before it was written, as the approval screen shows it: the reads its
agent made of the owner's calendars and the questions that were put to the owner, out of the
journals of `companion-gateway/src/store.rs`. A read is known by the delivery its caller named it
by. The trigger is looked for anywhere in that text and the attempt in the first reference of it,
so that a read is told apart by its attempt alone once its delivery mentions the trigger.

What is journalled of a delivery is cut to a length, and instants are compared as texts. The path is
the draft's own exactly where none of this makes a difference.
-/

import Mathlib.Data.List.Infix
import Twalk.FoundReferences
import Twalk.HermesAnswers
import Twalk.Library.Sorting

namespace Twalk.HermesAnswer

/-! ### The journals -/

/-- How much of a member of a request is journalled. -/
def recordedMemberLength : Nat := 256

def cut (member : Option String) : Option String :=
  member.map fun value => String.ofList (value.toList.take recordedMemberLength)

def madeByGateway : String := "gateway"

/-- A read of a calendar, as its caller asked for it: the delivery is the caller's own text. A read
of the time before makers were journalled has none. -/
structure ReadMade where
  windowFrom : String
  windowTo : String
  requestedAt : String
  delivery : Option String
  outcome : String
  intervals : Option Nat
  madeBy : Option String

structure EventReadMade where
  uid : String
  requestedAt : String
  delivery : Option String
  outcome : String
  found : Option Bool

structure ReadJournals where
  reads : List ReadMade
  eventReads : List EventReadMade
  deferrals : List DeferralRow

/-- One thing a draft did before it was written. -/
inductive Step where
  | freeBusy (windowFrom windowTo outcome : String) (intervals : Option Nat) (seenAt : String)
  | eventFacts (uid outcome : String) (found : Option Bool) (seenAt : String)
  | asked (asked seenAt : String)
deriving DecidableEq

/-- When it happened. -/
def Step.seenAt : Step → String
  | freeBusy _ _ _ _ seenAt => seenAt
  | eventFacts _ _ _ seenAt => seenAt
  | asked _ seenAt => seenAt

def ReadMade.step (read : ReadMade) : Step :=
  .freeBusy ((cut (some read.windowFrom)).getD "") ((cut (some read.windowTo)).getD "")
    read.outcome read.intervals read.requestedAt

def EventReadMade.step (read : EventReadMade) : Step :=
  .eventFacts ((cut (some read.uid)).getD "") read.outcome read.found read.requestedAt

def DeferralRow.step (row : DeferralRow) : Step := .asked row.asked row.deferredAt

/-! ### The queries -/

/-- A pattern of SQL: a percent sign stands for any text and an underscore for any character, and
the case of ASCII letters makes no difference. -/
def like : List Char → List Char → Bool
  | [], text => text.isEmpty
  | character :: pattern, text =>
    if character = '%' then text.tails.any (like pattern)
    else
      match text with
      | [] => false
      | other :: rest =>
        (character = '_' || character.toLower == other.toLower) && like pattern rest

def mentions (triggerEventId : String) (delivery : Option String) : Bool :=
  delivery.any fun delivery => like ('%' :: (triggerEventId.toList ++ ['%'])) delivery.toList

/-- A number of 64 bits as a signed one. -/
def asI64 (value : Nat) : Int := if value < 2 ^ 63 then value else value - 2 ^ 64

def ofThisAttempt (attempt : Option Nat) (delivery : Option String) : Bool :=
  match attempt with
  | none => true
  | some attempt => (delivery.bind Reference.find).any fun reference => reference.attempt = attempt

section Path

variable (journals : ReadJournals) (triggerEventId : String) (attempt : Option Nat)

def shownReads : List ReadMade :=
  journals.reads.filter fun read =>
    mentions triggerEventId (cut read.delivery) && read.madeBy != some madeByGateway &&
      ofThisAttempt attempt (cut read.delivery)

def shownEventReads : List EventReadMade :=
  journals.eventReads.filter fun read =>
    mentions triggerEventId (cut read.delivery) && ofThisAttempt attempt (cut read.delivery)

def shownDeferrals : List DeferralRow :=
  journals.deferrals.filter fun row =>
    row.triggerEventId == triggerEventId &&
      attempt.all fun attempt => asI64 row.attempt ≤ asI64 attempt

/-- What a draft did, oldest first. -/
def hermesPath : List Step :=
  ((shownReads journals triggerEventId attempt).map ReadMade.step ++
    (shownEventReads journals triggerEventId attempt).map EventReadMade.step ++
    (shownDeferrals journals triggerEventId attempt).map DeferralRow.step).insertionSort
      fun first second => textLe first.seenAt second.seenAt = true

end Path

/-! ### What the path is to be -/

def Names (reference : Reference) (delivery : Option String) : Prop :=
  ∃ text, delivery = some text ∧ reference.Occurs text

/-- One step came no later than another, as far as their instants can be read. -/
def NoLater (first second : Step) : Prop :=
  ∀ start finish, parseRfc3339Seconds first.seenAt = some start →
    parseRfc3339Seconds second.seenAt = some finish → start ≤ finish

/-- The reads are those the agent named by the reference, the questions are the trigger's so far,
and the path is in the order of their instants. -/
structure OwnPath (journals : ReadJournals) (reference : Reference) : Prop where
  reads : ∀ read ∈ journals.reads,
    read ∈ shownReads journals reference.triggerEventId (some reference.attempt) ↔
      read.madeBy ≠ some madeByGateway ∧ Names reference read.delivery
  eventReads : ∀ read ∈ journals.eventReads,
    read ∈ shownEventReads journals reference.triggerEventId (some reference.attempt) ↔
      Names reference read.delivery
  deferrals : ∀ row ∈ journals.deferrals,
    row ∈ shownDeferrals journals reference.triggerEventId (some reference.attempt) ↔
      row.triggerEventId = reference.triggerEventId ∧ row.attempt ≤ reference.attempt
  inOrder : (hermesPath journals reference.triggerEventId (some reference.attempt)).Pairwise
    NoLater

/-- A delivery is taken for the reference's: it mentions the trigger, and the first mention of the
prefix in it is that of a reference with the same attempt. -/
def Attributed (reference : Reference) (delivery : Option String) : Prop :=
  ∃ text, delivery = some text ∧
    like ('%' :: (reference.triggerEventId.toList ++ ['%'])) text.toList = true ∧
    ∃ found : Reference, ∃ rest,
      Reference.FirstMention referencePrefix.toList text.toList rest ∧
      found.Begins (referencePrefix.toList ++ rest) ∧ found.attempt = reference.attempt

def Expected (journals : ReadJournals) (reference : Reference) (step : Step) : Prop :=
  (∃ read ∈ journals.reads, (read.madeBy ≠ some madeByGateway ∧ Names reference read.delivery) ∧
      read.step = step) ∨
    (∃ read ∈ journals.eventReads, Names reference read.delivery ∧ read.step = step) ∨
    ∃ row ∈ journals.deferrals, (row.triggerEventId = reference.triggerEventId ∧
      row.attempt ≤ reference.attempt) ∧ row.step = step

/-- What is journalled of a delivery says whether its caller named it by the reference, the signs of
the attempts make no difference, and the texts of the instants are in their order. -/
structure Attributable (journals : ReadJournals) (reference : Reference) : Prop where
  reads : ∀ read ∈ journals.reads, read.madeBy ≠ some madeByGateway →
    (Attributed reference (cut read.delivery) ↔ Names reference read.delivery)
  eventReads : ∀ read ∈ journals.eventReads,
    (Attributed reference (cut read.delivery) ↔ Names reference read.delivery)
  deferrals : ∀ row ∈ journals.deferrals, row.triggerEventId = reference.triggerEventId →
    (asI64 row.attempt ≤ asI64 reference.attempt ↔ row.attempt ≤ reference.attempt)
  inOrder : ∀ first second, Expected journals reference first → Expected journals reference second →
    textLe first.seenAt second.seenAt = true → NoLater first second

/-! ### The path is the draft's own -/

theorem like_append (needle back : List Char) : like (needle ++ ['%']) (needle ++ back) = true := by
  have rests : ∀ back : List Char, like ['%'] back = true := by
    intro back
    unfold like
    rw [if_pos rfl, List.any_eq_true]
    exact ⟨[], (List.mem_tails _ _).mpr List.nil_suffix, rfl⟩
  induction needle with
  | nil => exact rests back
  | cons character needle inductionHypothesis =>
    rw [List.cons_append, List.cons_append]
    unfold like
    by_cases isAny : character = '%'
    · rw [if_pos isAny, List.any_eq_true]
      exact ⟨needle ++ back, (List.mem_tails _ _).mpr (List.suffix_cons _ _), inductionHypothesis⟩
    · rw [if_neg isAny]
      dsimp only
      rw [inductionHypothesis, Bool.and_true, beq_self_eq_true, Bool.or_true]

theorem like_of_infix (front needle back : List Char) :
    like ('%' :: (needle ++ ['%'])) (front ++ (needle ++ back)) = true := by
  unfold like
  rw [if_pos rfl, List.any_eq_true]
  exact ⟨needle ++ back, (List.mem_tails _ _).mpr (List.suffix_append _ _), like_append needle back⟩

theorem attributed_iff {reference : Reference} {delivery : Option String} :
    (mentions reference.triggerEventId delivery &&
      ofThisAttempt (some reference.attempt) delivery) = true ↔ Attributed reference delivery := by
  unfold mentions ofThisAttempt Attributed
  rw [Bool.and_eq_true]
  cases delivery with
  | none =>
    refine ⟨fun both => absurd both.1 Bool.false_ne_true, ?_⟩
    rintro ⟨text, isThere, -⟩
    cases isThere
  | some text =>
    dsimp only
    rw [Option.any_some, Option.bind_some, Option.any_eq_true]
    constructor
    · rintro ⟨isMentioned, found, isFound, sameAttempt⟩
      obtain ⟨rest, first, begins⟩ := Reference.find_eq_some_iff.mp isFound
      exact ⟨text, rfl, isMentioned, found, rest, first, begins, of_decide_eq_true sameAttempt⟩
    · rintro ⟨other, same, isMentioned, found, rest, first, begins, sameAttempt⟩
      cases same
      exact ⟨isMentioned, found, Reference.find_eq_some_iff.mpr ⟨rest, first, begins⟩,
        decide_eq_true sameAttempt⟩

section Path

variable {journals : ReadJournals} {reference : Reference}

theorem mem_shownReads {read : ReadMade} (isMade : read ∈ journals.reads) :
    read ∈ shownReads journals reference.triggerEventId (some reference.attempt) ↔
      read.madeBy ≠ some madeByGateway ∧ Attributed reference (cut read.delivery) := by
  unfold shownReads
  rw [List.mem_filter, ← attributed_iff, Bool.and_eq_true, Bool.and_eq_true, Bool.and_eq_true,
    bne_iff_ne]
  exact ⟨fun ⟨_, ⟨isMentioned, isAgents⟩, isAttempt⟩ => ⟨isAgents, isMentioned, isAttempt⟩,
    fun ⟨isAgents, isMentioned, isAttempt⟩ => ⟨isMade, ⟨isMentioned, isAgents⟩, isAttempt⟩⟩

theorem mem_shownEventReads {read : EventReadMade} (isMade : read ∈ journals.eventReads) :
    read ∈ shownEventReads journals reference.triggerEventId (some reference.attempt) ↔
      Attributed reference (cut read.delivery) := by
  unfold shownEventReads
  rw [List.mem_filter, attributed_iff]
  exact and_iff_right isMade

theorem mem_shownDeferrals {row : DeferralRow} (isMade : row ∈ journals.deferrals) :
    row ∈ shownDeferrals journals reference.triggerEventId (some reference.attempt) ↔
      row.triggerEventId = reference.triggerEventId ∧
        asI64 row.attempt ≤ asI64 reference.attempt := by
  unfold shownDeferrals
  rw [List.mem_filter, Bool.and_eq_true, beq_iff_eq, Option.all_some, decide_eq_true_eq]
  exact and_iff_right isMade

variable {triggerEventId : String}

theorem mem_hermesPath {attempt : Option Nat} {step : Step} :
    step ∈ hermesPath journals triggerEventId attempt ↔
      (∃ read ∈ shownReads journals triggerEventId attempt, read.step = step) ∨
      (∃ read ∈ shownEventReads journals triggerEventId attempt, read.step = step) ∨
      ∃ row ∈ shownDeferrals journals triggerEventId attempt, row.step = step := by
  unfold hermesPath
  rw [(List.perm_insertionSort _ _).mem_iff, List.mem_append, List.mem_append, List.mem_map,
    List.mem_map, List.mem_map, or_assoc]

theorem mem_hermesPath_iff_expected
    (reads : ∀ read ∈ journals.reads,
      read ∈ shownReads journals reference.triggerEventId (some reference.attempt) ↔
        read.madeBy ≠ some madeByGateway ∧ Names reference read.delivery)
    (eventReads : ∀ read ∈ journals.eventReads,
      read ∈ shownEventReads journals reference.triggerEventId (some reference.attempt) ↔
        Names reference read.delivery)
    (deferrals : ∀ row ∈ journals.deferrals,
      row ∈ shownDeferrals journals reference.triggerEventId (some reference.attempt) ↔
        row.triggerEventId = reference.triggerEventId ∧ row.attempt ≤ reference.attempt)
    (step : Step) :
    step ∈ hermesPath journals reference.triggerEventId (some reference.attempt) ↔
      Expected journals reference step := by
  rw [mem_hermesPath]
  refine or_congr ?_ (or_congr ?_ ?_)
  · constructor
    · rintro ⟨read, isShown, isStep⟩
      have isMade := (List.mem_filter.mp isShown).1
      exact ⟨read, isMade, (reads read isMade).mp isShown, isStep⟩
    · rintro ⟨read, isMade, isNamed, isStep⟩
      exact ⟨read, (reads read isMade).mpr isNamed, isStep⟩
  · constructor
    · rintro ⟨read, isShown, isStep⟩
      have isMade := (List.mem_filter.mp isShown).1
      exact ⟨read, isMade, (eventReads read isMade).mp isShown, isStep⟩
    · rintro ⟨read, isMade, isNamed, isStep⟩
      exact ⟨read, (eventReads read isMade).mpr isNamed, isStep⟩
  · constructor
    · rintro ⟨row, isShown, isStep⟩
      have isMade := (List.mem_filter.mp isShown).1
      exact ⟨row, isMade, (deferrals row isMade).mp isShown, isStep⟩
    · rintro ⟨row, isMade, isAsked, isStep⟩
      exact ⟨row, (deferrals row isMade).mpr isAsked, isStep⟩

theorem pairwise_hermesPath (attempt : Option Nat) (triggerEventId : String) :
    (hermesPath journals triggerEventId attempt).Pairwise fun first second =>
      textLe first.seenAt second.seenAt = true := by
  have transitive : IsTrans Step fun first second =>
      textLe first.seenAt second.seenAt = true := ⟨fun _ _ _ => textLe_trans⟩
  have total : Std.Total fun first second : Step => textLe first.seenAt second.seenAt = true :=
    ⟨fun first second => textLe_total first.seenAt second.seenAt⟩
  exact List.pairwise_insertionSort _ _

theorem noLater_of_same {first second : Step} (same : first.seenAt = second.seenAt) :
    NoLater first second := by
  intro start finish isStart isFinish
  rw [same, isFinish] at isStart
  exact (Option.some.inj isStart).ge

theorem noLater_of_mem {attempt : Option Nat}
    (inOrder : (hermesPath journals triggerEventId attempt).Pairwise NoLater) {first second : Step}
    (isFirst : first ∈ hermesPath journals triggerEventId attempt)
    (isSecond : second ∈ hermesPath journals triggerEventId attempt)
    (early : textLe first.seenAt second.seenAt = true) : NoLater first second := by
  obtain ⟨place, inPath, rfl⟩ := List.getElem_of_mem isFirst
  obtain ⟨other, inPathToo, rfl⟩ := List.getElem_of_mem isSecond
  rcases lt_trichotomy place other with before | rfl | after
  · exact List.pairwise_iff_getElem.mp inOrder place other inPath inPathToo before
  · exact noLater_of_same rfl
  · exact noLater_of_same (textLe_antisymm early (List.pairwise_iff_getElem.mp
      (pairwise_hermesPath attempt triggerEventId) other place inPathToo inPath after))

end Path

namespace TwoPersonas

def trigger : String := String.ofList (List.replicate 64 'a')

def mine : Reference := ⟨"assistant", trigger, 1⟩

def other : Reference := ⟨"colleague", trigger, 1⟩

def read : ReadMade :=
  ⟨"2026-09-28T06:00:00Z", "2026-10-02T18:00:00Z", "2026-09-27T08:00:00Z", some (other.token),
    "served", some 2, some "hermes"⟩

def journals : ReadJournals := ⟨[read], [], []⟩

theorem wellFormed : other.WellFormed :=
  ⟨rfl, Reference.OneMention.wellFormed.trigger, Nat.le_refl 1, by decide⟩

/-- What follows the prefix in the delivery. -/
def rest : List Char := "colleague:".toList ++ (trigger.toList ++ ":1".toList)

theorem toList_token : other.token.toList = referencePrefix.toList ++ rest := by
  have isToken : other.token = referencePrefix ++ "colleague:" ++ trigger ++ ":1" := rfl
  rw [isToken, String.toList_append, String.toList_append, String.toList_append, List.append_assoc,
    List.append_assoc]
  rfl

theorem toList_trigger : trigger.toList = List.replicate 64 'a' := String.toList_ofList

theorem length_rest : rest.length = 76 := by
  unfold rest
  rw [toList_trigger, List.length_append, List.length_append, List.length_replicate]
  rfl

theorem short : other.token.toList.length ≤ recordedMemberLength := by
  rw [toList_token, List.length_append, length_rest]
  decide

theorem cut_delivery : cut read.delivery = some other.token := by
  have isDelivery : read.delivery = some other.token := rfl
  rw [isDelivery]
  have whole : other.token.toList.take recordedMemberLength = other.token.toList :=
    List.take_of_length_le short
  unfold cut
  rw [Option.map_some]
  rw [whole]
  rw [String.ofList_toList]

theorem begins : other.Begins (referencePrefix.toList ++ rest) :=
  (congrArg other.Begins ((List.append_nil other.token.toList).trans toList_token)).mp
    (Reference.begins_token wellFormed nofun)

theorem attributed {text : String} (isText : text.toList = referencePrefix.toList ++ rest) :
    Attributed mine (some text) := by
  refine ⟨text, rfl, ?_, other, rest, ⟨[], isText, fun _ _ _ => Nat.zero_le _⟩, begins, rfl⟩
  have apart : text.toList =
      (referencePrefix.toList ++ "colleague:".toList) ++ (trigger.toList ++ ":1".toList) :=
    isText.trans (List.append_assoc _ _ _).symm
  rw [apart]
  exact like_of_infix _ _ _

theorem letter_notMem : 'T' ∉ "WALK-REF:".toList ++ rest := by
  intro isMember
  unfold rest at isMember
  rcases List.mem_append.mp isMember with inPrefix | inRest
  · exact absurd inPrefix (by decide)
  rcases List.mem_append.mp inRest with inPersona | inTail
  · exact absurd inPersona (by decide)
  rcases List.mem_append.mp inTail with inTrigger | inAttempt
  · exact absurd (List.eq_of_mem_replicate (toList_trigger ▸ inTrigger)) (by decide)
  · exact absurd inAttempt (by decide)

theorem not_occurs {text : String} (isText : text.toList = referencePrefix.toList ++ rest) :
    ¬mine.Occurs text := by
  rintro ⟨front, back, isSplit, -, digits, after, isBack, -⟩
  have isWhole : 'T' :: ("WALK-REF:".toList ++ rest) =
      front ++ ('T' :: ("WALK-REF:".toList ++ (mine.personaId.toList ++
        ':' :: (mine.triggerEventId.toList ++ ':' :: digits))) ++ after) :=
    isText.symm.trans (isBack ▸ isSplit)
  cases front with
  | nil =>
    -- The personas part at their first letter.
    have tails := (List.cons.inj isWhole).2.trans (List.append_assoc _ _ after)
    have parted : 'c' = 'a' := (List.cons.inj (List.append_cancel_left tails)).1
    exact absurd parted (by decide)
  | cons character front =>
    refine letter_notMem ?_
    rw [(List.cons.inj isWhole).2]
    exact List.mem_append_right front List.mem_cons_self

end TwoPersonas

end Twalk.HermesAnswer
