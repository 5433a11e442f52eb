/-
This file is which reference is found in what a model wrote,
`companion-gateway/src/hermes_answer.rs`. The finder looks for the prefix of a reference and
reads on from its first mention. Whatever stands around a reference is tolerated so long as
none of it is that prefix: a text in which a reference stands is read exactly where the first
mention of the prefix is itself the start of one.

The id of a suggestion is the digest of the three parts of its reference with colons between
them, and no part has a colon in it, so that two references are joined to one text only when
they are the same.
-/

import Twalk.HermesAnswer

namespace Twalk.HermesAnswer.Reference

/-! ### What stands in a text -/

/-- A reference of the shape the contract gives it. -/
structure WellFormed (reference : Reference) : Prop where
  persona : isPersonaId reference.personaId = true
  trigger : Approval.isEventId reference.triggerEventId = true
  attempt : 1 ≤ reference.attempt ∧ reference.attempt ≤ 0xffffffffffffffff

def spelled (reference : Reference) (digits : List Char) : List Char :=
  referencePrefix.toList ++ (reference.personaId.toList ++
    ':' :: (reference.triggerEventId.toList ++ ':' :: digits))

def Undigited (characters : List Char) : Prop := ∀ next ∈ characters.head?, next.isDigit = false

def Begins (reference : Reference) (characters : List Char) : Prop :=
  reference.WellFormed ∧ ∃ digits after, characters = reference.spelled digits ++ after ∧
    digits ≠ [] ∧ (∀ digit ∈ digits, digit.isDigit = true) ∧
    Text.decimal digits = reference.attempt ∧ Undigited after

def Occurs (reference : Reference) (text : String) : Prop :=
  ∃ front rest, text.toList = front ++ rest ∧ reference.Begins rest

def Written (reference : Reference) (text : String) : Prop :=
  reference.WellFormed ∧ ∃ front after,
    text.toList = front ++ ((token reference).toList ++ after) ∧ Undigited after

def FirstMention (needle characters rest : List Char) : Prop :=
  ∃ front, characters = front ++ (needle ++ rest) ∧
    ∀ earlier later, characters = earlier ++ (needle ++ later) → front.length ≤ earlier.length

def Survives (text : String) : Prop :=
  ∀ reference : Reference, reference.Written text → ∃ found, find text = some found ∧
    found.Occurs text

def BeginsFirst (text : String) : Prop :=
  ∃ reference : Reference, ∃ rest, FirstMention referencePrefix.toList text.toList rest ∧
    reference.Begins (referencePrefix.toList ++ rest)

/-! ### Finding -/

theorem following_eq_some_iff {needle characters rest : List Char} :
    following needle characters = some rest ↔ FirstMention needle characters rest := by
  induction characters with
  | nil =>
    unfold following FirstMention
    constructor
    · intro found
      obtain ⟨isEmpty, none⟩ := Option.ite_none_right_eq_some.mp found
      cases none
      exact ⟨[], by rw [isEmpty]; rfl, fun earlier later _ => Nat.zero_le _⟩
    · rintro ⟨front, same, -⟩
      obtain ⟨-, others⟩ := List.append_eq_nil_iff.mp same.symm
      obtain ⟨rfl, rfl⟩ := List.append_eq_nil_iff.mp others
      exact if_pos rfl
  | cons character others inductionHypothesis =>
    rw [following]
    by_cases isHere : needle.isPrefixOf (character :: others) = true
    · rw [if_pos isHere]
      obtain ⟨back, isSplit⟩ := List.isPrefixOf_iff_prefix.mp isHere
      rw [← isSplit, List.drop_left]
      constructor
      · intro same
        cases same
        exact ⟨[], rfl, fun earlier later _ => Nat.zero_le _⟩
      · rintro ⟨front, same, first⟩
        have none := List.eq_nil_of_length_eq_zero (Nat.le_zero.mp (first [] back rfl))
        rw [none, List.nil_append] at same
        rw [List.append_cancel_left same]
    · rw [if_neg isHere, inductionHypothesis]
      constructor
      · rintro ⟨front, rfl, first⟩
        refine ⟨character :: front, rfl, fun earlier later same => ?_⟩
        cases earlier with
        | nil => exact absurd (List.isPrefixOf_iff_prefix.mpr ⟨later, same.symm⟩) isHere
        | cons head earlier =>
          exact Nat.succ_le_succ (first earlier later (List.cons.inj same).2)
      · rintro ⟨front, same, first⟩
        cases front with
        | nil => exact absurd (List.isPrefixOf_iff_prefix.mpr ⟨rest, same.symm⟩) isHere
        | cons head front =>
          refine ⟨front, (List.cons.inj same).2, fun earlier later isOther => ?_⟩
          exact Nat.le_of_succ_le_succ (first (character :: earlier) later (by rw [isOther]; rfl))

theorem attemptOf_eq_some_iff {digits : List Char} {attempt : Nat} :
    attemptOf digits = some attempt ↔ digits ≠ [] ∧
      (1 ≤ attempt ∧ attempt ≤ 0xffffffffffffffff) ∧ Text.decimal digits = attempt := by
  have same : digits.foldl (fun value digit => value * 10 + (digit.toNat - 48)) 0 =
      Text.decimal digits := rfl
  unfold attemptOf
  rw [same]
  dsimp only
  rw [Option.ite_none_right_eq_some]
  constructor
  · rintro ⟨⟨nonempty, some, small⟩, isAttempt⟩
    cases isAttempt
    exact ⟨nonempty, ⟨some, small⟩, rfl⟩
  · rintro ⟨nonempty, inRange, rfl⟩
    exact ⟨⟨nonempty, inRange⟩, rfl⟩

theorem colon_notMem_persona {id : String} (isPersona : isPersonaId id = true) :
    ':' ∉ id.toList := by
  intro member
  unfold isPersonaId at isPersona
  exact absurd (List.all_eq_true.mp (Bool.and_eq_true_iff.mp isPersona).2 ':' member) (by decide)

theorem colon_notMem_trigger {id : String} (isEvent : Approval.isEventId id = true) :
    ':' ∉ id.toList := by
  intro member
  unfold Approval.isEventId at isEvent
  exact absurd (List.all_eq_true.mp (Bool.and_eq_true_iff.mp isEvent).2 ':' member) (by decide)

theorem takeWhile_digits {digits after : List Char} (areDigits : ∀ digit ∈ digits, digit.isDigit = true)
    (ends : Undigited after) : (digits ++ after).takeWhile Char.isDigit = digits := by
  rw [List.takeWhile_append_of_pos areDigits]
  cases after with
  | nil => exact List.append_nil digits
  | cons next rest =>
    rw [List.takeWhile_cons_of_neg (by rw [ends next rfl]; exact Bool.false_ne_true),
      List.append_nil]

theorem find_eq_some_iff {text : String} {reference : Reference} :
    find text = some reference ↔ ∃ rest, FirstMention referencePrefix.toList text.toList rest ∧
      reference.Begins (referencePrefix.toList ++ rest) := by
  unfold find
  rw [Option.bind_eq_bind, Option.bind_eq_some_iff]
  constructor
  · rintro ⟨rest, isRest, read⟩
    refine ⟨rest, following_eq_some_iff.mp isRest, ?_⟩
    obtain ⟨⟨personaId, others⟩, isPersona, read⟩ := Option.bind_eq_some_iff.mp read
    obtain ⟨⟨triggerEventId, tail⟩, isTrigger, read⟩ := Option.bind_eq_some_iff.mp read
    obtain ⟨⟨personaAllowed, triggerAllowed⟩, read⟩ := Option.ite_none_right_eq_some.mp read
    obtain ⟨attempt, isAttempt, read⟩ := Option.bind_eq_some_iff.mp read
    cases read
    obtain ⟨nonempty, inRange, isValue⟩ := attemptOf_eq_some_iff.mp isAttempt
    have isSplit := Text.toList_of_splitOnce isPersona
    rw [String.toList_ofList, Text.toList_of_splitOnce isTrigger] at isSplit
    refine ⟨⟨personaAllowed, triggerAllowed, inRange⟩, tail.toList.takeWhile Char.isDigit,
      tail.toList.dropWhile Char.isDigit, ?_, nonempty,
      fun digit member => List.mem_takeWhile_imp member, isValue, ?_⟩
    · rw [isSplit]
      unfold spelled
      simp only [List.append_assoc, List.cons_append, List.takeWhile_append_dropWhile]
    · intro next isNext
      have ends := List.head?_dropWhile_not Char.isDigit tail.toList
      rwa [Option.mem_def.mp isNext] at ends
  · rintro ⟨rest, first, wellFormed, digits, after, isRest, nonempty, areDigits, isValue, ends⟩
    have isRest : rest = reference.personaId.toList ++
        ':' :: (reference.triggerEventId.toList ++ ':' :: (digits ++ after)) := by
      refine List.append_cancel_left (isRest.trans ?_)
      unfold spelled
      simp only [List.append_assoc, List.cons_append]
    refine ⟨rest, following_eq_some_iff.mpr first, ?_⟩
    rw [isRest]
    refine Option.bind_eq_some_iff.mpr ⟨_,
      Text.splitOnce_append (colon_notMem_persona wellFormed.persona) _, ?_⟩
    refine Option.bind_eq_some_iff.mpr ⟨_,
      Text.splitOnce_append (colon_notMem_trigger wellFormed.trigger) _, ?_⟩
    dsimp only
    rw [String.ofList_toList, String.ofList_toList, String.toList_ofList, if_pos
      ⟨wellFormed.persona, wellFormed.trigger⟩, takeWhile_digits areDigits ends]
    exact Option.bind_eq_some_iff.mpr ⟨reference.attempt,
      attemptOf_eq_some_iff.mpr ⟨nonempty, wellFormed.attempt, isValue⟩, rfl⟩

theorem occurs_of_find {text : String} {reference : Reference} (found : find text = some reference) :
    reference.Occurs text := by
  obtain ⟨rest, ⟨front, isSplit, -⟩, begins⟩ := find_eq_some_iff.mp found
  exact ⟨front, _, isSplit, begins⟩

/-! ### The text an id is the digest of -/

/-- The three parts of a reference with colons between them. -/
def preimage (reference : Reference) : String :=
  reference.personaId ++ ":" ++ reference.triggerEventId ++ ":" ++ toString reference.attempt

theorem toList_preimage (reference : Reference) : reference.preimage.toList =
    reference.personaId.toList ++ ':' :: (reference.triggerEventId.toList ++
      ':' :: (toString reference.attempt).toList) := by
  unfold preimage
  simp only [String.toList_append, show ":".toList = [':'] from rfl, List.append_assoc,
    List.cons_append, List.nil_append]

theorem decimal_toString (number : Nat) : Text.decimal (toString number).toList = number := by
  have digits : (toString number).toList = Nat.toDigits 10 number := String.toList_ofList
  have same : Text.decimal (Nat.toDigits 10 number) =
      Nat.ofDigitChars 10 (Nat.toDigits 10 number) 0 := by
    rw [Nat.ofDigitChars_eq_foldl]
    exact congrArg (fun step => (Nat.toDigits 10 number).foldl step 0)
      (funext fun value => funext fun digit => by rw [Nat.mul_comm])
  rw [digits, same, Nat.ofDigitChars_ten_toDigits]

theorem begins_token {reference : Reference} (wellFormed : reference.WellFormed) {after : List Char}
    (ends : Undigited after) : reference.Begins (reference.token.toList ++ after) := by
  have digits : (toString reference.attempt).toList = Nat.toDigits 10 reference.attempt :=
    String.toList_ofList
  refine ⟨wellFormed, (toString reference.attempt).toList, after, ?_, ?_, ?_,
    decimal_toString reference.attempt, ends⟩
  · unfold token spelled
    simp only [String.toList_append, show ":".toList = [':'] from rfl, List.append_assoc,
      List.cons_append, List.nil_append]
  · rw [digits]
    exact Nat.toDigits_ne_nil
  · intro digit member
    rw [digits] at member
    exact Nat.isDigit_of_mem_toDigits (by decide) (by decide) member

theorem preimage_inj {first second : Reference} (isFirst : first.WellFormed)
    (isSecond : second.WellFormed) : first.preimage = second.preimage ↔ first = second := by
  constructor
  · intro same
    have parts := congrArg String.toList same
    rw [toList_preimage, toList_preimage] at parts
    have isPersona := Text.splitOnce_append (colon_notMem_persona isFirst.persona)
      (first.triggerEventId.toList ++ ':' :: (toString first.attempt).toList)
    rw [parts, Text.splitOnce_append (colon_notMem_persona isSecond.persona)] at isPersona
    obtain ⟨samePersona, others⟩ := Prod.mk.inj (Option.some.inj isPersona)
    have isTrigger := Text.splitOnce_append (colon_notMem_trigger isFirst.trigger)
      (toString first.attempt).toList
    rw [← others, Text.splitOnce_append (colon_notMem_trigger isSecond.trigger)] at isTrigger
    obtain ⟨sameTrigger, sameAttempt⟩ := Prod.mk.inj (Option.some.inj isTrigger)
    rw [String.ofList_toList, String.ofList_toList] at samePersona sameTrigger sameAttempt
    have sameNumber := decimal_toString first.attempt
    rw [← sameAttempt, decimal_toString] at sameNumber
    cases first
    cases second
    cases samePersona
    cases sameTrigger
    cases sameNumber
    rfl
  · rintro rfl
    rfl

/-- A reference survives the model exactly where a text that carries none mentions none before it,
and the three parts of a reference are told apart in what its suggestion's id is the digest of. -/
theorem survives_iff (text : String) (first second : {reference : Reference // reference.WellFormed}) :
    (Survives text ↔ ((∃ reference : Reference, reference.Written text) → BeginsFirst text)) ∧
      (first.1.preimage = second.1.preimage ↔ first = second) := by
  refine ⟨⟨?_, ?_⟩, (preimage_inj first.2 second.2).trans Subtype.ext_iff.symm⟩
  · rintro survives ⟨reference, isWritten⟩
    obtain ⟨found, isFound, -⟩ := survives reference isWritten
    exact ⟨found, find_eq_some_iff.mp isFound⟩
  · intro begins reference isWritten
    obtain ⟨found, first⟩ := begins ⟨reference, isWritten⟩
    have isFound := find_eq_some_iff.mpr first
    exact ⟨found, isFound, occurs_of_find isFound⟩

/-! ### A mention before a reference -/

namespace OneMention

def reference : Reference := ⟨"assistant", String.ofList (List.replicate 64 'a'), 1⟩

def saying : String := " I was given is "

def text : String := "The " ++ referencePrefix ++ saying ++ token reference

theorem wellFormed : reference.WellFormed where
  persona := rfl
  trigger := by
    unfold Approval.isEventId reference
    rw [Bool.and_eq_true, beq_iff_eq, Text.utf8ByteSize_of_narrow fun character member => by
      rw [List.eq_of_mem_replicate member]
      rfl, String.toList_ofList, List.all_eq_true]
    exact ⟨rfl, fun character member => by
      rw [List.eq_of_mem_replicate member]
      rfl⟩
  attempt := ⟨Nat.le_refl 1, by decide⟩

theorem isWritten : reference.Written text := by
  refine ⟨wellFormed, ("The " ++ referencePrefix ++ saying).toList, [], ?_, nofun⟩
  unfold text
  rw [String.toList_append, List.append_nil]

theorem following_text : following referencePrefix.toList text.toList =
    some (saying.toList ++ (token reference).toList) := by
  unfold text
  rw [String.toList_append, String.toList_append, String.toList_append, List.append_assoc]
  rfl

/-- A model that mentions the prefix before it writes the token has its suggestion lost. -/
theorem not_survives : ¬∀ text, Survives text := by
  intro survives
  obtain ⟨found, isFound, -⟩ := survives text reference isWritten
  obtain ⟨rest, first, ⟨persona, -, -⟩, digits, after, isRest, -⟩ := find_eq_some_iff.mp isFound
  have same := (following_eq_some_iff.mpr first).symm.trans following_text
  rw [Option.some.inj same] at isRest
  unfold spelled at isRest
  rw [List.append_assoc] at isRest
  have begins := List.append_cancel_left isRest
  cases isPersona : found.personaId.toList with
  | nil =>
    rw [isPersona] at begins
    cases (List.cons.inj begins).1
  | cons character others =>
    rw [isPersona] at begins
    obtain rfl : ' ' = character := (List.cons.inj begins).1
    unfold isPersonaId at persona
    rw [isPersona] at persona
    exact absurd (List.all_eq_true.mp (Bool.and_eq_true_iff.mp persona).2 ' ' List.mem_cons_self)
      (by decide)

end OneMention

end Twalk.HermesAnswer.Reference
