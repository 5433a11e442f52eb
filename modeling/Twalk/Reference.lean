/-
This file models the reference line that ends every post of the clerk's,
`clerk/src/reference.rs`, and the sweep's verdict on a post. The clerk knows what it
posted by reading this line back. What stands above the line changes nothing; what the
line itself carries may, and the condition under which it reads back is exact.
-/

import Twalk.Relay

namespace Twalk.Clerk

/-! ### The line -/

def referencePrefix : String := "twalk:suggestion:"

structure Reference where
  suggestionId : String
  expiresAt : Option String
deriving DecidableEq, Repr

/-- What follows the id on a reference line. -/
def afterId (expiresAt : Option String) : String :=
  match expiresAt with
  | some expiresAt => " expires " ++ expiresAt
  | none => ""

def line (reference : Reference) : String :=
  referencePrefix ++ (reference.suggestionId ++ afterId reference.expiresAt)

def isIdDigit (digit : Char) : Bool :=
  digit.isDigit || (decide ('a' ≤ digit) && decide (digit ≤ 'f'))

def isSuggestionId (id : String) : Bool := id.toList.length == 64 && id.toList.all isIdDigit

def afterPrefix (line : String) : Option String := stripPrefix referencePrefix (Text.trim line)

def lastReference (content : String) : Option String :=
  (Text.lines content).reverse.findSome? afterPrefix

/-- What stands after the prefix, read as a reference: an id, and what follows `expires`. -/
def readReference (rest : String) : Option Reference :=
  match Text.words rest with
  | id :: more =>
    if isSuggestionId id then
      some ⟨id, match more with
        | "expires" :: expiresAt :: _ => some expiresAt
        | _ => none⟩
    else none
  | [] => none

def parse (content : String) : Option Reference := (lastReference content).bind readReference

/-- The suggestion a post is read to be about. -/
def named (content : String) : Option String := (parse content).map Reference.suggestionId

/-! ### The verdict of the sweep -/

section Dates

variable (expiresAtUnix : String → Option Int)

/-- Seven days, in seconds. -/
def undatableCeiling : Int := 7 * 24 * 60 * 60

def maxSeconds : Int := 9223372036854775807

/-- Whether an expiry has passed; one that does not read never has. -/
def hasExpired (expiresAt : String) (now : Int) : Bool :=
  (expiresAtUnix expiresAt).any fun expires => decide (expires ≤ now)

/-- Whether a post that cannot be dated has stood for seven days. -/
def pastCeiling (createdAt now : Int) : Bool :=
  decide (min (createdAt + undatableCeiling) maxSeconds ≤ now)

inductive Verdict where
  | stands
  | standsUndated
  | expired
  | pastCeiling
deriving DecidableEq, Repr

/-- What the sweep makes of a post. -/
def verdict (content : String) (createdAt now : Int) : Verdict :=
  match ((parse content).bind Reference.expiresAt).bind expiresAtUnix with
  | some expires => if expires ≤ now then .expired else .stands
  | none => if pastCeiling createdAt now then .pastCeiling else .standsUndated

end Dates

/-! ### The last line -/

theorem afterPrefix_withoutCarriageReturn (line : String) :
    afterPrefix (Text.withoutCarriageReturn line) = afterPrefix line := by
  unfold afterPrefix
  rw [Text.trim_withoutCarriageReturn]

theorem findSome?_withoutCarriageReturn (parts : List String) :
    (parts.map Text.withoutCarriageReturn).reverse.findSome? afterPrefix =
      parts.reverse.findSome? afterPrefix := by
  have same : afterPrefix ∘ Text.withoutCarriageReturn = afterPrefix := by
    funext line
    rw [Function.comp_apply, afterPrefix_withoutCarriageReturn]
  rw [← List.map_reverse, List.findSome?_map, same]

theorem findSome?_unlessEmpty (last : String) :
    (((some last).filter fun last => last != "").toList).reverse.findSome? afterPrefix =
      [last].reverse.findSome? afterPrefix := by
  by_cases isEmpty : last = ""
  · rw [isEmpty]
    decide
  · rw [Option.filter_some, if_pos (by simpa using isEmpty)]
    rfl

theorem lastReference_eq (content : String) :
    lastReference content = (Text.split '\n' content).reverse.findSome? afterPrefix := by
  obtain ⟨front, last, ends⟩ : ∃ front last, Text.split '\n' content = front ++ [last] := by
    have some_part : Text.split '\n' content ≠ [] := by
      unfold Text.split
      rw [Ne, List.map_eq_nil_iff]
      exact List.splitOn_ne_nil _ _
    exact ⟨_, _, (List.dropLast_append_getLast some_part).symm⟩
  unfold lastReference Text.lines
  rw [ends, List.dropLast_concat, List.getLast?_concat, List.reverse_append, List.reverse_append,
    List.findSome?_append, List.findSome?_append, findSome?_withoutCarriageReturn,
    findSome?_unlessEmpty]

theorem lastReference_append (front back : String) :
    lastReference (front ++ "\n" ++ back) = (lastReference back).or (lastReference front) := by
  have parts : Text.split '\n' (front ++ "\n" ++ back) =
      Text.split '\n' front ++ Text.split '\n' back := by
    unfold Text.split
    rw [String.toList_append, String.toList_append, List.append_assoc, ← List.map_append]
    exact congrArg (List.map String.ofList) (List.splitOn_append_cons_self _ _)
  rw [lastReference_eq, lastReference_eq, lastReference_eq, parts, List.reverse_append,
    List.findSome?_append]

theorem afterPrefix_append (rest : String) :
    afterPrefix (referencePrefix ++ rest) = some (String.ofList (Text.trimEnd rest.toList)) := by
  have ends : ∃ front, referencePrefix.toList = 't' :: front ++ [':'] :=
    ⟨"walk:suggestion".toList, by decide⟩
  obtain ⟨front, isFront⟩ := ends
  have kept : (Text.trim (referencePrefix ++ rest)).toList =
      referencePrefix.toList ++ Text.trimEnd rest.toList := by
    rw [Text.toList_trim, String.toList_append, isFront, List.cons_append, List.cons_append,
      List.dropWhile_cons_of_neg (by decide), List.append_assoc, List.singleton_append,
      ← List.cons_append, Text.trimEnd_append_cons (by decide)]
    simp
  unfold afterPrefix stripPrefix
  rw [kept, if_pos (List.isPrefixOf_iff_prefix.mpr (List.prefix_append _ _)), List.drop_left]

/-- What the lines after the first say, in the last of them that starts with the prefix. -/
def laterReference (text : String) : Option String :=
  (Text.split '\n' text).tail.reverse.findSome? afterPrefix

def firstLine (text : String) : String := ((Text.split '\n' text).head?).getD ""

variable {front : String}

theorem split_append (unbroken : '\n' ∉ front.toList) (back : String) :
    Text.split '\n' (front ++ back) =
      (front ++ firstLine back) :: (Text.split '\n' back).tail := by
  have parts : ∀ characters : List Char, '\n' ∉ characters →
      (characters ++ back.toList).splitOn '\n' =
        (back.toList.splitOn '\n').modifyHead (characters ++ ·) := by
    intro characters absent
    induction characters with
    | nil => exact (congrFun List.modifyHead_id _).symm
    | cons first others inductionHypothesis =>
      rw [List.mem_cons, not_or] at absent
      rw [List.cons_append, List.splitOn_cons_eq_if_modifyHead, inductionHypothesis absent.2,
        if_neg (by simpa using Ne.symm absent.1), List.modifyHead_modifyHead]
      rfl
  unfold firstLine Text.split
  rw [String.toList_append, parts front.toList unbroken]
  cases isSplit : back.toList.splitOn '\n' with
  | nil => exact absurd isSplit (List.splitOn_ne_nil _ _)
  | cons first others =>
    rw [List.modifyHead_cons, List.map_cons, String.ofList_append, String.ofList_toList]
    rfl

theorem firstLine_append (unbroken : '\n' ∉ front.toList) (back : String) :
    firstLine (front ++ back) = front ++ firstLine back := by
  unfold firstLine
  rw [split_append unbroken]
  rfl

theorem laterReference_append (unbroken : '\n' ∉ front.toList) (back : String) :
    laterReference (front ++ back) = laterReference back := by
  unfold laterReference
  rw [split_append unbroken]
  rfl

theorem lastReference_prefix (rest : String) :
    lastReference (referencePrefix ++ rest) =
      (laterReference rest).or
        (some (String.ofList (Text.trimEnd (firstLine rest).toList))) := by
  rw [lastReference_eq, split_append (by decide), List.reverse_cons, List.findSome?_append,
    List.findSome?_singleton, afterPrefix_append]
  rfl

/-! ### What reads back -/

theorem toNat_of_isIdDigit {digit : Char} (isDigit : isIdDigit digit = true) :
    48 ≤ digit.toNat ∧ digit.toNat ≤ 102 := by
  have order : ∀ first second : Char, first ≤ second ↔ first.toNat ≤ second.toNat :=
    fun _ _ => Iff.rfl
  simp only [isIdDigit, Char.isDigit, Bool.or_eq_true, Bool.and_eq_true, decide_eq_true_eq,
    ge_iff_le, order] at isDigit
  rcases isDigit with ⟨low, high⟩ | ⟨low, high⟩
  · have low : 48 ≤ digit.toNat := low
    have high : digit.toNat ≤ 57 := high
    omega
  · have low : 97 ≤ digit.toNat := low
    have high : digit.toNat ≤ 102 := high
    omega

theorem isWhiteSpace_of_isIdDigit {digit : Char} (isDigit : isIdDigit digit = true) :
    Text.isWhiteSpace digit = false := by
  obtain ⟨low, high⟩ := toNat_of_isIdDigit isDigit
  simp [Text.isWhiteSpace]
  omega

theorem head?_words_of_isSuggestionId {id : String} (isId : isSuggestionId id = true)
    {rest : List Char} (apart : ∀ character ∈ rest.head?, Text.isWhiteSpace character = true) :
    (Text.words (String.ofList (Text.trimEnd (id.toList ++ rest)))).head? = some id := by
  rw [isSuggestionId, Bool.and_eq_true, beq_iff_eq, List.all_eq_true] at isId
  have visible : ∀ digit ∈ id.toList, Text.isWhiteSpace digit = false := fun digit member =>
    isWhiteSpace_of_isIdDigit (isId.2 digit member)
  have isSome : id.toList ≠ [] := List.ne_nil_of_length_eq_add_one isId.1
  have kept : Text.trimEnd (id.toList ++ rest) = id.toList ++ Text.trimEnd rest := by
    have ends := List.dropLast_append_getLast isSome
    have lastVisible := visible _ (List.getLast_mem isSome)
    rw [← ends, List.append_assoc, List.singleton_append, Text.trimEnd_append_cons lastVisible]
    simp
  have stillApart : ∀ character ∈ (Text.trimEnd rest).head?,
      Text.isWhiteSpace character = true := by
    intro character isHead
    obtain ⟨back, isRest⟩ := Text.trimEnd_isPrefix rest
    refine apart character ?_
    rw [← isRest, List.head?_append, Option.mem_def.mp isHead]
    rfl
  rw [kept, Text.head?_words isSome visible stillApart, String.ofList_toList]

theorem named_eq_some {content id : String} :
    named content = some id ↔
      isSuggestionId id = true ∧
        ∃ rest, lastReference content = some rest ∧ (Text.words rest).head? = some id := by
  unfold named parse readReference
  cases lastReference content with
  | none => simp
  | some rest =>
    simp only [Option.bind_some, Option.some.injEq, exists_eq_left']
    cases Text.words rest with
    | nil => simp
    | cons first more =>
      dsimp only
      split
      · rename_i isId
        simp only [Option.map_some, Option.some.injEq, List.head?_cons]
        exact ⟨fun same => ⟨same ▸ isId, same⟩, And.right⟩
      · rename_i notId
        simp only [Option.map_none, List.head?_cons, Option.some.injEq, reduceCtorEq, false_iff]
        rintro ⟨isId, rfl⟩
        exact notId isId

/-- A reference reads back when its id is one, and no later line of its expiry is a reference line
for anything else. -/
def ReadsBack (reference : Reference) : Prop :=
  isSuggestionId reference.suggestionId = true ∧
    ∀ expiresAt ∈ reference.expiresAt, ∀ rest ∈ laterReference expiresAt,
      (Text.words rest).head? = some reference.suggestionId

theorem laterReference_afterId (expiresAt : Option String) :
    laterReference (afterId expiresAt) = expiresAt.bind laterReference := by
  cases expiresAt with
  | none => decide
  | some expiresAt => exact laterReference_append (by decide) expiresAt

theorem head?_afterId (expiresAt : Option String) :
    ∀ character ∈ (firstLine (afterId expiresAt)).toList.head?,
      Text.isWhiteSpace character = true := by
  intro character isHead
  cases expiresAt with
  | none =>
    have nothing : (firstLine (afterId none)).toList.head? = none := by decide
    rw [nothing] at isHead
    cases isHead
  | some expiresAt =>
    rw [afterId, firstLine_append (by decide), String.toList_append] at isHead
    cases Option.mem_some.mp isHead
    decide

theorem lastReference_line {reference : Reference}
    (isId : isSuggestionId reference.suggestionId = true) :
    ∃ first, (Text.words first).head? = some reference.suggestionId ∧
      lastReference (line reference) =
        (reference.expiresAt.bind laterReference).or (some first) := by
  have unbroken : '\n' ∉ reference.suggestionId.toList := by
    intro isDigit
    rw [isSuggestionId, Bool.and_eq_true, List.all_eq_true] at isId
    exact absurd (isId.2 _ isDigit) (by decide)
  have found : lastReference (line reference) = (reference.expiresAt.bind laterReference).or
      (some (String.ofList (Text.trimEnd (reference.suggestionId.toList ++
        (firstLine (afterId reference.expiresAt)).toList)))) := by
    rw [line, lastReference_prefix, laterReference_append unbroken, firstLine_append unbroken,
      laterReference_afterId, String.toList_append]
  exact ⟨_, head?_words_of_isSuggestionId isId (head?_afterId _), found⟩

theorem named_append_line (front : String) (reference : Reference) :
    named (front ++ "\n" ++ line reference) = some reference.suggestionId ↔
      ReadsBack reference := by
  rw [named_eq_some]
  refine and_congr_right fun isId => ?_
  obtain ⟨first, isFirst, isLast⟩ := lastReference_line isId
  rw [lastReference_append, isLast]
  cases isLater : reference.expiresAt.bind laterReference with
  | none =>
    simp only [Option.none_or, Option.some_or, Option.some.injEq, exists_eq_left', isFirst,
      true_iff]
    intro expiresAt isExpiry rest isRest
    rw [Option.mem_def.mp isExpiry, Option.bind_some, Option.mem_def.mp isRest] at isLater
    cases isLater
  | some later =>
    obtain ⟨expiresAt, isExpiry, saysLater⟩ := Option.bind_eq_some_iff.mp isLater
    simp only [Option.some_or, Option.some.injEq, exists_eq_left', Option.mem_def, isExpiry,
      forall_eq', saysLater]

theorem parse_line {id expiresAt : String} (isId : isSuggestionId id = true)
    (isSome : expiresAt.toList ≠ [])
    (visible : ∀ character ∈ expiresAt.toList, Text.isWhiteSpace character = false) :
    parse (line ⟨id, some expiresAt⟩) = some ⟨id, some expiresAt⟩ := by
  have idVisible : ∀ digit ∈ id.toList, Text.isWhiteSpace digit = false := by
    intro digit member
    rw [isSuggestionId, Bool.and_eq_true, List.all_eq_true] at isId
    exact isWhiteSpace_of_isIdDigit (isId.2 digit member)
  have idSome : id.toList ≠ [] := by
    rw [isSuggestionId, Bool.and_eq_true, beq_iff_eq] at isId
    exact List.ne_nil_of_length_eq_add_one isId.1
  have rest : (id ++ afterId (some expiresAt)).toList =
      id.toList ++ ' ' :: ("expires".toList ++ ' ' :: expiresAt.toList) := by
    have words : " expires ".toList = ' ' :: ("expires".toList ++ [' ']) := by decide
    rw [afterId, String.toList_append, String.toList_append, words]
    simp
  have unbroken : '\n' ∉ (id ++ afterId (some expiresAt)).toList := by
    rw [rest]
    simp only [List.mem_append, List.mem_cons, not_or]
    refine ⟨fun inId => ?_, by decide, by decide, by decide, fun inExpiry => ?_⟩
    · exact absurd (idVisible _ inId) (by decide)
    · exact absurd (visible _ inExpiry) (by decide)
  have single : Text.split '\n' (id ++ afterId (some expiresAt)) =
      [id ++ afterId (some expiresAt)] := by
    unfold Text.split
    rw [List.splitOn_eq_singleton unbroken]
    simp
  have isLast : lastReference (line ⟨id, some expiresAt⟩) =
      some (id ++ afterId (some expiresAt)) := by
    rw [line, lastReference_prefix]
    have noLater : laterReference (id ++ afterId (some expiresAt)) = none := by
      unfold laterReference
      rw [single]
      rfl
    have isFirst : firstLine (id ++ afterId (some expiresAt)) = id ++ afterId (some expiresAt) := by
      unfold firstLine
      rw [single]
      rfl
    have ends := List.dropLast_append_getLast isSome
    have kept : Text.trimEnd (id.toList ++ ' ' :: ("expires".toList ++ ' ' :: expiresAt.toList)) =
        id.toList ++ ' ' :: ("expires".toList ++ ' ' :: expiresAt.toList) := by
      have whole : id.toList ++ ' ' :: ("expires".toList ++ ' ' :: expiresAt.toList) =
          (id.toList ++ ' ' :: ("expires".toList ++ ' ' :: expiresAt.toList.dropLast)) ++
            [expiresAt.toList.getLast isSome] := by
        conv_lhs => rw [← ends]
        simp
      rw [whole, Text.trimEnd_of_visible (visible _ (List.getLast_mem isSome))]
    rw [noLater, isFirst, Option.none_or, rest, kept, ← rest, String.ofList_toList]
  have words : Text.words (id ++ afterId (some expiresAt)) = [id, "expires", expiresAt] := by
    have whole : id ++ afterId (some expiresAt) = String.ofList
        (id.toList ++ ' ' :: ("expires".toList ++ ' ' :: expiresAt.toList)) := by
      rw [← rest, String.ofList_toList]
    rw [whole, Text.words_cons idSome idVisible (by decide),
      Text.words_cons (by decide) (Text.visible_of_any rfl) (by decide),
      Text.words_singleton isSome visible]
    simp
  unfold parse
  rw [isLast, Option.bind_some]
  unfold readReference
  rw [words]
  exact if_pos isId

end Twalk.Clerk
