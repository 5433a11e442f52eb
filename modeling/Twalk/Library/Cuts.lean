/-
This file is the cutting of a list at the first place another list stands at in it. Where a list is
lengthened by a separator and more, it is cut where it ended exactly when no copy of the separator
begins inside it, which is a matter of the list and of the separator without its last element.
-/

import Mathlib.Data.List.Infix

namespace Twalk.Cut

theorem prefix_cons_append_iff {Item : Type} {needle : List Item} (isSome : needle ≠ [])
    (item : Item) (front back : List Item) :
    needle <+: item :: (front ++ (needle ++ back)) ↔
      needle <+: item :: (front ++ needle.dropLast) := by
  have longer : item :: (front ++ needle.dropLast) <+: item :: (front ++ (needle ++ back)) := by
    refine List.cons_prefix_cons.mpr ⟨rfl, (List.prefix_append_right_inj front).mpr ?_⟩
    exact (List.dropLast_prefix needle).trans (List.prefix_append needle back)
  refine ⟨fun starts => ?_, fun starts => starts.trans longer⟩
  refine List.prefix_of_prefix_length_le starts longer ?_
  have positive := List.length_pos_of_ne_nil isSome
  rw [List.length_cons, List.length_append, List.length_dropLast]
  omega

variable {Item : Type} [BEq Item] {needle : List Item}

/-- What stands before and after the first place a list stands at in another. -/
def cutAt (needle : List Item) : List Item → Option (List Item × List Item)
  | [] => if needle.isEmpty then some ([], []) else none
  | item :: rest =>
    if needle.isPrefixOf (item :: rest) then some ([], (item :: rest).drop needle.length)
    else (cutAt needle rest).map fun parts => (item :: parts.1, parts.2)

def before (needle whole : List Item) : List Item :=
  ((cutAt needle whole).map Prod.fst).getD whole

theorem before_nil : before needle [] = [] := by
  unfold before cutAt
  split <;> rfl

variable [LawfulBEq Item]

theorem cutAt_of_begins (isSome : needle ≠ []) (back : List Item) :
    cutAt needle (needle ++ back) = some ([], back) := by
  cases needle with
  | nil => exact absurd rfl isSome
  | cons first others =>
    rw [List.cons_append]
    unfold cutAt
    rw [← List.cons_append, if_pos (List.isPrefixOf_iff_prefix.mpr (List.prefix_append _ _)),
      List.drop_left]

theorem cutAt_of_not_begins {item : Item} {rest : List Item}
    (apart : ¬needle <+: item :: rest) :
    cutAt needle (item :: rest) =
      (cutAt needle rest).map fun parts => (item :: parts.1, parts.2) := by
  conv_lhs => unfold cutAt
  exact if_neg fun isPrefix => apart (List.isPrefixOf_iff_prefix.mp isPrefix)

theorem before_of_begins (isSome : needle ≠ []) (back : List Item) :
    before needle (needle ++ back) = [] := by
  unfold before
  rw [cutAt_of_begins isSome]
  rfl

theorem before_of_not_begins {item : Item} {rest : List Item} (apart : ¬needle <+: item :: rest) :
    before needle (item :: rest) = item :: before needle rest := by
  unfold before
  rw [cutAt_of_not_begins apart]
  cases cutAt needle rest with
  | none => rfl
  | some parts => rfl

theorem before_isPrefix (needle whole : List Item) : before needle whole <+: whole := by
  induction whole with
  | nil => exact ⟨[], congrArg (· ++ []) before_nil⟩
  | cons item rest inductionHypothesis =>
    by_cases starts : needle <+: item :: rest
    · unfold before cutAt
      rw [if_pos (List.isPrefixOf_iff_prefix.mpr starts)]
      exact List.nil_prefix
    · rw [before_of_not_begins starts]
      exact List.cons_prefix_cons.mpr ⟨rfl, inductionHypothesis⟩

theorem before_eq_self_iff (isSome : needle ≠ []) {whole : List Item} :
    before needle whole = whole ↔ ¬needle <:+: whole := by
  induction whole with
  | nil =>
    rw [before_nil, List.infix_nil]
    exact iff_of_true rfl isSome
  | cons item rest inductionHypothesis =>
    rw [List.infix_cons_iff, not_or]
    by_cases starts : needle <+: item :: rest
    · obtain ⟨back, isBack⟩ := starts
      rw [← isBack, before_of_begins isSome, isBack]
      exact iff_of_false (fun same => List.cons_ne_nil _ _ same.symm)
        fun both => both.1 ⟨back, isBack⟩
    · rw [before_of_not_begins starts, List.cons.injEq, inductionHypothesis]
      exact ⟨fun both => ⟨starts, both.2⟩, fun both => ⟨rfl, both.2⟩⟩

theorem cutAt_append_iff (isSome : needle ≠ []) (front back : List Item) :
    cutAt needle (front ++ (needle ++ back)) = some (front, back) ↔
      ¬needle <:+: front ++ needle.dropLast := by
  induction front with
  | nil =>
    rw [List.nil_append, List.nil_append, cutAt_of_begins isSome]
    refine iff_of_true rfl fun inside => ?_
    have shorter := inside.length_le
    have positive := List.length_pos_of_ne_nil isSome
    rw [List.length_dropLast] at shorter
    omega
  | cons item rest inductionHypothesis =>
    rw [List.cons_append, List.cons_append, List.infix_cons_iff, not_or,
      ← prefix_cons_append_iff isSome item rest back]
    by_cases starts : needle <+: item :: (rest ++ (needle ++ back))
    · refine iff_of_false (fun isCut => ?_) fun both => both.1 starts
      obtain ⟨other, isOther⟩ := starts
      rw [← isOther, cutAt_of_begins isSome] at isCut
      exact List.cons_ne_nil _ _ (Prod.mk.inj (Option.some.inj isCut)).1.symm
    · rw [cutAt_of_not_begins starts, and_iff_right starts, ← inductionHypothesis]
      constructor
      · intro isCut
        obtain ⟨parts, isParts, same⟩ := Option.map_eq_some_iff.mp isCut
        obtain ⟨sameFront, sameBack⟩ := Prod.mk.inj same
        rw [isParts, ← (List.cons.inj sameFront).2, ← sameBack]
      · intro isCut
        rw [isCut]
        rfl

theorem length_before_append_le (isSome : needle ≠ []) (front back : List Item) :
    (before needle (front ++ (needle ++ back))).length ≤ front.length := by
  induction front with
  | nil => exact (congrArg List.length (before_of_begins isSome back)).le
  | cons item rest inductionHypothesis =>
    rw [List.cons_append]
    by_cases starts : needle <+: item :: (rest ++ (needle ++ back))
    · obtain ⟨other, isOther⟩ := starts
      rw [← isOther, before_of_begins isSome]
      exact Nat.zero_le _
    · rw [before_of_not_begins starts]
      exact Nat.succ_le_succ inductionHypothesis

theorem append_of_cutAt {whole : List Item} {parts : List Item × List Item}
    (isCut : cutAt needle whole = some parts) : whole = parts.1 ++ (needle ++ parts.2) := by
  induction whole generalizing parts with
  | nil =>
    unfold cutAt at isCut
    split at isCut
    · rename_i isEmpty
      cases isCut
      rw [List.isEmpty_iff.mp isEmpty]
      rfl
    · cases isCut
  | cons item rest inductionHypothesis =>
    by_cases starts : needle <+: item :: rest
    · obtain ⟨back, isBack⟩ := starts
      unfold cutAt at isCut
      rw [if_pos (List.isPrefixOf_iff_prefix.mpr ⟨back, isBack⟩)] at isCut
      cases isCut
      rw [← isBack, List.drop_left]
      rfl
    · rw [cutAt_of_not_begins starts] at isCut
      obtain ⟨others, isOthers, rfl⟩ := Option.map_eq_some_iff.mp isCut
      rw [inductionHypothesis isOthers]
      rfl

theorem before_append_iff (isSome : needle ≠ []) {front back : List Item} :
    before needle (front ++ (needle ++ back)) = front ↔ ¬needle <:+: front ++ needle.dropLast := by
  rw [← cutAt_append_iff isSome front back]
  constructor
  · intro isFront
    unfold before at isFront
    cases isCut : cutAt needle (front ++ (needle ++ back)) with
    | none =>
      rw [isCut] at isFront
      exact absurd (List.self_eq_append_right.mp isFront.symm)
        (List.append_ne_nil_of_left_ne_nil isSome back)
    | some parts =>
      rw [isCut] at isFront
      have sameFront : parts.1 = front := isFront
      have made := append_of_cutAt isCut
      rw [sameFront] at made
      have sameBack := List.append_cancel_left (List.append_cancel_left made)
      exact congrArg some (Prod.ext sameFront sameBack.symm)
  · intro isCut
    unfold before
    rw [isCut]
    rfl

end Twalk.Cut
