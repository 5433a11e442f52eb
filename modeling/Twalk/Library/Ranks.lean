/-
This file is about the rank of an item in a stable sort: how many others come before it, by the
order of the sort or, where that leaves two of them level, by their places in the list. What is
among the first so many of a sorted list are the items of less rank than that.
-/

import Mathlib.Data.List.Sort

namespace Twalk

section Agree

variable {Item : Type} {first second : Item → Item → Prop} [DecidableRel first]
  [DecidableRel second]

theorem orderedInsert_congr {item : Item} {items : List Item}
    (agree : ∀ other ∈ items, (first item other ↔ second item other)) :
    items.orderedInsert first item = items.orderedInsert second item := by
  induction items with
  | nil => rfl
  | cons head rest inductionHypothesis =>
    obtain ⟨agreesHead, agreesRest⟩ := List.forall_mem_cons.mp agree
    rw [List.orderedInsert_cons, List.orderedInsert_cons, inductionHypothesis agreesRest]
    exact if_congr agreesHead rfl rfl

theorem insertionSort_congr {items : List Item}
    (agree : items.Pairwise fun one other => (first one other ↔ second one other)) :
    items.insertionSort first = items.insertionSort second := by
  induction items with
  | nil => rfl
  | cons item rest inductionHypothesis =>
    obtain ⟨agreesItem, agreesRest⟩ := List.pairwise_cons.mp agree
    rw [List.insertionSort_cons, List.insertionSort_cons, inductionHypothesis agreesRest]
    exact orderedInsert_congr fun other member =>
      agreesItem other ((List.mem_insertionSort second).mp member)

end Agree

section Rank

variable {Item : Type} {before : Item → Item → Prop} [DecidableRel before]

theorem mem_take_iff_countP (asymmetric : ∀ one other, before one other → ¬before other one)
    {sorted : List Item} (ordered : sorted.Pairwise before) {item : Item}
    (member : item ∈ sorted) (count : Nat) :
    item ∈ sorted.take count ↔ sorted.countP (before · item) < count := by
  obtain ⟨front, back, rfl⟩ := List.append_of_mem member
  obtain ⟨-, backOrdered, across⟩ := List.pairwise_append.mp ordered
  have itself : ¬before item item := fun isBefore => asymmetric item item isBefore isBefore
  have rank : (front ++ item :: back).countP (before · item) = front.length := by
    have inFront : front.countP (before · item) = front.length :=
      List.countP_eq_length.mpr fun other isFront =>
        decide_eq_true (across other isFront item List.mem_cons_self)
    have inBack : back.countP (before · item) = 0 := by
      refine List.countP_eq_zero.mpr fun other isBack isBefore => ?_
      exact asymmetric item other (List.rel_of_pairwise_cons backOrdered isBack)
        (of_decide_eq_true isBefore)
    rw [List.countP_append, List.countP_cons_of_neg (by simpa using itself), inFront, inBack,
      Nat.add_zero]
  rw [rank]
  constructor
  · intro early
    by_contra late
    rw [List.take_append_of_le_length (Nat.le_of_not_lt late)] at early
    exact itself (across item (List.mem_of_mem_take early) item List.mem_cons_self)
  · intro early
    obtain ⟨more, rfl⟩ := Nat.exists_eq_add_of_lt early
    rw [List.take_append, show front.length + more + 1 - front.length = more + 1 by omega]
    exact List.mem_append_right _ List.mem_cons_self

end Rank

section Places

variable {Item : Type} {before : Item → Item → Prop} [DecidableRel before] (items : List Item)

/-- What a sort puts before another: what the order does, and of two it leaves level the one that
stood before. -/
def Precedes (before : Item → Item → Prop) (one other : Fin items.length) : Prop :=
  ¬before (items.get other) (items.get one) ∨
    (before (items.get one) (items.get other) ∧ one < other)

instance decidablePrecedes : DecidableRel (Precedes items before) := fun _ _ =>
  inferInstanceAs (Decidable (_ ∨ _))

variable {items}

variable {one other : Fin items.length}

omit [DecidableRel before] in
theorem precedes_asymm [Std.Total before] (precedes : Precedes items before one other) :
    ¬Precedes items before other one := by
  rintro (notBefore | ⟨isBefore, after⟩)
  · rcases precedes with notAfter | ⟨isBefore, -⟩
    · exact (Std.Total.total (r := before) (items.get one) (items.get other)).elim notBefore
        notAfter
    · exact notBefore isBefore
  · rcases precedes with notAfter | ⟨-, earlier⟩
    · exact notAfter isBefore
    · omega

theorem precedes_total (differ : one ≠ other) :
    Precedes items before one other ∨ Precedes items before other one := by
  unfold Precedes
  by_cases forwards : before (items.get one) (items.get other)
  · by_cases backwards : before (items.get other) (items.get one)
    · rcases lt_or_gt_of_ne differ with earlier | later
      · exact Or.inl (Or.inr ⟨forwards, earlier⟩)
      · exact Or.inr (Or.inr ⟨backwards, later⟩)
    · exact Or.inl (Or.inl backwards)
  · exact Or.inr (Or.inl forwards)

omit [DecidableRel before] in
theorem precedes_trans [Std.Total before] [IsTrans Item before] {one two three : Fin items.length}
    (early : Precedes items before one two) (late : Precedes items before two three) :
    Precedes items before one three := by
  have transitive : ∀ {first second third : Item}, before first second → before second third →
      before first third := fun isFirst isSecond => IsTrans.trans _ _ _ isFirst isSecond
  have total := fun first second : Item => Std.Total.total (r := before) first second
  unfold Precedes at early late ⊢
  rcases early with notBack | ⟨forwards, earlier⟩
  · refine Or.inl fun back => notBack ?_
    rcases late with notBack' | ⟨forwards', -⟩
    · exact transitive ((total _ _).resolve_right notBack') back
    · exact transitive forwards' back
  · rcases late with notBack' | ⟨forwards', later⟩
    · exact Or.inl fun back => notBack' (transitive back forwards)
    · exact Or.inr ⟨transitive forwards forwards', earlier.trans later⟩

theorem exists_sorted_places [Std.Total before] [IsTrans Item before] :
    ∃ places : List (Fin items.length), places.Perm (List.finRange items.length) ∧
      places.Pairwise (Precedes items before) ∧
        items.insertionSort before = places.map items.get := by
  have total := fun first second : Item => Std.Total.total (r := before) first second
  let orEqual : Fin items.length → Fin items.length → Prop := fun one other =>
    one = other ∨ Precedes items before one other
  have : DecidableRel orEqual := fun _ _ => inferInstanceAs (Decidable (_ ∨ _))
  have : Std.Total orEqual := ⟨fun one other => by
    by_cases same : one = other
    · exact Or.inl (Or.inl same)
    · exact (precedes_total same).imp Or.inr Or.inr⟩
  have : IsTrans (Fin items.length) orEqual := ⟨fun one two three early late => by
    rcases early with rfl | early
    · exact late
    · rcases late with rfl | late
      · exact Or.inr early
      · exact Or.inr (precedes_trans early late)⟩
  refine ⟨(List.finRange items.length).insertionSort orEqual, List.perm_insertionSort _ _, ?_, ?_⟩
  · have ordered := List.pairwise_insertionSort orEqual (List.finRange items.length)
    have nodup := (List.perm_insertionSort orEqual (List.finRange items.length)).nodup_iff.mpr
      (List.nodup_finRange items.length)
    exact (ordered.and nodup).imp fun ⟨related, differ⟩ => related.resolve_left differ
  · have byPlace : (List.finRange items.length).insertionSort orEqual =
        (List.finRange items.length).insertionSort fun one other =>
          before (items.get one) (items.get other) := by
      refine insertionSort_congr ((List.pairwise_lt_finRange items.length).imp fun earlier => ?_)
      constructor
      · rintro (rfl | notBack | ⟨forwards, -⟩)
        · exact (total _ _).elim id id
        · exact (total _ _).resolve_right notBack
        · exact forwards
      · exact fun forwards => Or.inr (Or.inr ⟨forwards, earlier⟩)
    rw [byPlace, List.map_insertionSort _ before items.get _ fun _ _ _ _ => Iff.rfl,
      List.map_get_finRange]

end Places

end Twalk
