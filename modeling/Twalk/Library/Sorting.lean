/-
This file is sorting by a key of texts, as a query's ORDER BY does, and what a
stable sort does to a list of which some entries are left out: leaving them out
before or after sorting is the same.
-/

import Mathlib.Data.List.Sort

namespace Twalk

variable {Entry : Type} (before : Entry → Entry → Prop) [DecidableRel before]
  (kept : Entry → Bool)

variable {entry : Entry}

theorem filter_orderedInsert_of_kept [IsTrans Entry before] (isKept : kept entry = true)
    {sorted : List Entry} (ordered : sorted.Pairwise before) :
    (sorted.orderedInsert before entry).filter kept =
      (sorted.filter kept).orderedInsert before entry := by
  induction sorted with
  | nil => simp [isKept]
  | cons head rest inductionHypothesis =>
    obtain ⟨headBefore, restOrdered⟩ := List.pairwise_cons.mp ordered
    by_cases first : before entry head
    · have firstOfAll : ∀ other ∈ (head :: rest).filter kept, before entry other := by
        intro other member
        rcases List.mem_cons.mp (List.mem_filter.mp member).1 with rfl | inRest
        · exact first
        · exact IsTrans.trans _ _ _ first (headBefore other inRest)
      rw [List.orderedInsert_cons_of_le before rest first, List.filter_cons_of_pos isKept]
      cases remaining : (head :: rest).filter kept with
      | nil => rfl
      | cons other others =>
        rw [remaining] at firstOfAll
        rw [List.orderedInsert_cons_of_le before others (firstOfAll other List.mem_cons_self)]
    · have later : (head :: rest).orderedInsert before entry =
          head :: rest.orderedInsert before entry := by
        rw [List.orderedInsert_cons, if_neg first]
      rw [later]
      cases headKept : kept head with
      | true =>
        rw [List.filter_cons_of_pos headKept, List.filter_cons_of_pos headKept,
          inductionHypothesis restOrdered, List.orderedInsert_cons, if_neg first]
      | false =>
        rw [List.filter_cons_of_neg (by simp [headKept]), List.filter_cons_of_neg (by simp [headKept]),
          inductionHypothesis restOrdered]

theorem filter_orderedInsert_of_dropped (isDropped : kept entry = false) (sorted : List Entry) :
    (sorted.orderedInsert before entry).filter kept = sorted.filter kept := by
  induction sorted with
  | nil => simp [isDropped]
  | cons head rest inductionHypothesis =>
    rw [List.orderedInsert_cons]
    split
    · rw [List.filter_cons_of_neg (by simp [isDropped])]
    · rw [List.filter_cons, List.filter_cons, inductionHypothesis]

theorem filter_insertionSort [IsTrans Entry before] [Std.Total before] (entries : List Entry) :
    (entries.insertionSort before).filter kept = (entries.filter kept).insertionSort before := by
  induction entries with
  | nil => rfl
  | cons entry rest inductionHypothesis =>
    have ordered := List.pairwise_insertionSort before rest
    rw [List.insertionSort_cons]
    cases isKept : kept entry with
    | true =>
      rw [filter_orderedInsert_of_kept before kept isKept ordered, inductionHypothesis,
        List.filter_cons_of_pos isKept, List.insertionSort_cons]
    | false =>
      rw [filter_orderedInsert_of_dropped before kept isKept, inductionHypothesis,
        List.filter_cons_of_neg (by simp [isKept])]

/-! ### The order of texts -/

/-- Lists in the order of their first difference; a list comes before its continuations. -/
def lexLe [DecidableEq Entry] (le : Entry → Entry → Bool) : List Entry → List Entry → Bool
  | [], _ => true
  | _ :: _, [] => false
  | first :: firsts, second :: seconds =>
    if first = second then lexLe le firsts seconds else le first second

section lexLe

variable [DecidableEq Entry] (le : Entry → Entry → Bool)

theorem lexLe_total (total : ∀ first second, le first second = true ∨ le second first = true)
    (one other : List Entry) : lexLe le one other = true ∨ lexLe le other one = true := by
  induction one generalizing other with
  | nil => exact Or.inl rfl
  | cons first firsts inductionHypothesis =>
    cases other with
    | nil => exact Or.inr rfl
    | cons second seconds =>
      unfold lexLe
      by_cases same : first = second
      · rw [if_pos same, if_pos same.symm]
        exact inductionHypothesis seconds
      · rw [if_neg same, if_neg (Ne.symm same)]
        exact total first second

theorem lexLe_trans (transitive : ∀ first second third, le first second = true →
      le second third = true → le first third = true)
    (antisymmetric : ∀ first second, le first second = true → le second first = true →
      first = second)
    {one two three : List Entry} (early : lexLe le one two = true)
    (late : lexLe le two three = true) : lexLe le one three = true := by
  induction one generalizing two three with
  | nil => rfl
  | cons first firsts inductionHypothesis =>
    cases two with
    | nil => exact absurd early (by simp [lexLe])
    | cons second seconds =>
      cases three with
      | nil => exact absurd late (by simp [lexLe])
      | cons third thirds =>
        unfold lexLe at early late ⊢
        by_cases firstSame : first = second
        · by_cases secondSame : second = third
          · rw [if_pos firstSame] at early
            rw [if_pos secondSame] at late
            rw [if_pos (firstSame.trans secondSame)]
            exact inductionHypothesis early late
          · rw [if_neg secondSame] at late
            rw [if_neg (firstSame ▸ secondSame), firstSame]
            exact late
        · rw [if_neg firstSame] at early
          by_cases secondSame : second = third
          · rw [if_neg (secondSame ▸ firstSame), ← secondSame]
            exact early
          · rw [if_neg secondSame] at late
            have outer : first ≠ third := fun same =>
              firstSame (antisymmetric first second early (same ▸ late))
            rw [if_neg outer]
            exact transitive first second third early late

theorem lexLe_antisymm
    (antisymmetric : ∀ first second, le first second = true → le second first = true →
      first = second)
    {one other : List Entry} (early : lexLe le one other = true)
    (late : lexLe le other one = true) : one = other := by
  induction one generalizing other with
  | nil =>
    cases other with
    | nil => rfl
    | cons second seconds => exact absurd late (by simp [lexLe])
  | cons first firsts inductionHypothesis =>
    cases other with
    | nil => exact absurd early (by simp [lexLe])
    | cons second seconds =>
      unfold lexLe at early late
      by_cases same : first = second
      · rw [if_pos same] at early
        rw [if_pos same.symm] at late
        rw [same, inductionHypothesis early late]
      · rw [if_neg same] at early
        rw [if_neg (Ne.symm same)] at late
        exact absurd (antisymmetric first second early late) same

end lexLe

/-- Texts in the order of their code points, which is that of their UTF-8 bytes. -/
def textLe (first second : String) : Bool :=
  lexLe (fun one other : Nat => decide (one ≤ other)) (first.toList.map Char.toNat)
    (second.toList.map Char.toNat)

theorem textLe_total (first second : String) :
    textLe first second = true ∨ textLe second first = true :=
  lexLe_total _ (by simpa using Nat.le_total) _ _

theorem textLe_trans {first second third : String} (early : textLe first second = true)
    (late : textLe second third = true) : textLe first third = true :=
  lexLe_trans _ (by simpa using fun _ _ _ => Nat.le_trans) (by simpa using fun _ _ => Nat.le_antisymm)
    early late

theorem textLe_antisymm {first second : String} (early : textLe first second = true)
    (late : textLe second first = true) : first = second := by
  have points := lexLe_antisymm _ (by simpa using fun _ _ => Nat.le_antisymm) early late
  have injective : Function.Injective Char.toNat := fun one other same =>
    Char.ext (UInt32.toNat_inj.mp same)
  exact String.ext (List.map_injective_iff.mpr injective points)

/-! ### Sorting by a key -/

def sortBy (key : Entry → List String) (entries : List Entry) : List Entry :=
  entries.insertionSort fun first second => lexLe textLe (key first) (key second) = true

theorem mem_sortBy {key : Entry → List String} {entries : List Entry} :
    entry ∈ sortBy key entries ↔ entry ∈ entries :=
  (List.perm_insertionSort _ entries).mem_iff

theorem filter_sortBy (key : Entry → List String) (entries : List Entry) :
    (sortBy key entries).filter kept = sortBy key (entries.filter kept) := by
  have transitive : IsTrans Entry fun first second => lexLe textLe (key first) (key second) = true :=
    ⟨fun _ _ _ => lexLe_trans textLe (fun _ _ _ => textLe_trans) fun _ _ => textLe_antisymm⟩
  have total : Std.Total fun first second : Entry =>
      lexLe textLe (key first) (key second) = true :=
    ⟨fun first second => lexLe_total textLe textLe_total (key first) (key second)⟩
  exact filter_insertionSort _ kept entries

def sortTexts (texts : List String) : List String :=
  texts.insertionSort fun first second => textLe first second = true

theorem perm_sortTexts (texts : List String) : (sortTexts texts).Perm texts :=
  List.perm_insertionSort _ texts

theorem pairwise_sortTexts (texts : List String) :
    (sortTexts texts).Pairwise fun first second => textLe first second = true := by
  have transitive : IsTrans String fun first second => textLe first second = true :=
    ⟨fun _ _ _ => textLe_trans⟩
  have total : Std.Total fun first second => textLe first second = true := ⟨textLe_total⟩
  exact List.pairwise_insertionSort _ texts

theorem sortTexts_eq_of_perm {first second : List String} (same : first.Perm second) :
    sortTexts first = sortTexts second := by
  refine List.Perm.eq_of_pairwise (fun one other _ _ => textLe_antisymm)
    (pairwise_sortTexts first) (pairwise_sortTexts second) ?_
  exact (perm_sortTexts first).trans (same.trans (perm_sortTexts second).symm)

end Twalk
