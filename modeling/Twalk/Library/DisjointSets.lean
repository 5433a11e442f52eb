/-
This file is the theory of disjoint sets kept as a forest of parents, without ranks: a union hangs
the root of one tree under the root of the other. Looking for a root ends within as many steps as
there are elements, and two elements have one root exactly if a chain of unions joins them.

Which element becomes the root depends on the order of the unions, but on nothing that happens in
other trees: a forest inside which some trees are another forest's, keeps the roots of that forest.
-/

import Mathlib.Data.Fintype.Card
import Mathlib.Data.Nat.Find
import Mathlib.Data.Set.Operations
import Mathlib.Logic.Function.Iterate
import Mathlib.Logic.Relation

namespace Twalk.DisjointSets

/-! ### Looking for a root -/

section Reaches

variable {Element : Type}

inductive Reaches (parent : Element → Element) : Element → Element → Prop
  | root {element : Element} (isRoot : parent element = element) : Reaches parent element element
  | step {element root : Element} (later : Reaches parent (parent element) root) :
    Reaches parent element root

/-- Every search ends. -/
def Grounded (parent : Element → Element) : Prop := ∀ element, ∃ root, Reaches parent element root

variable {parent : Element → Element} {element root : Element}

theorem Reaches.isRoot (reaches : Reaches parent element root) : parent root = root := by
  induction reaches with
  | root isRoot => exact isRoot
  | step _ inductionHypothesis => exact inductionHypothesis

theorem Reaches.exists_iterate (reaches : Reaches parent element root) :
    ∃ steps, parent^[steps] element = root := by
  induction reaches with
  | root => exact ⟨0, rfl⟩
  | step _ inductionHypothesis =>
    obtain ⟨steps, isRoot⟩ := inductionHypothesis
    exact ⟨steps + 1, isRoot⟩

end Reaches

section Find

variable {Element : Type} [DecidableEq Element]

/-- The search, for as many steps as there is fuel. -/
def findFrom (parent : Element → Element) : Nat → Element → Element
  | 0, element => element
  | fuel + 1, element =>
    if parent element = element then element else findFrom parent fuel (parent element)

variable {parent : Element → Element}

theorem findFrom_of_root {element : Element} (isRoot : parent element = element) (fuel : Nat) :
    findFrom parent fuel element = element := by
  cases fuel with
  | zero => rfl
  | succ fuel => rw [findFrom, if_pos isRoot]

theorem findFrom_of_iterate {steps fuel : Nat} {element : Element}
    (isRoot : parent (parent^[steps] element) = parent^[steps] element) (enough : steps ≤ fuel) :
    findFrom parent fuel element = parent^[steps] element := by
  induction steps generalizing fuel element with
  | zero => exact findFrom_of_root isRoot fuel
  | succ steps inductionHypothesis =>
    obtain ⟨rest, rfl⟩ := Nat.exists_eq_add_of_le' enough
    rw [Nat.add_succ, findFrom]
    by_cases already : parent element = element
    · rw [if_pos already, Function.iterate_fixed already]
    · rw [if_neg already, Function.iterate_succ_apply]
      exact inductionHypothesis isRoot (Nat.le_add_left steps rest)

variable [Fintype Element]

def find (parent : Element → Element) (element : Element) : Element :=
  findFrom parent (Fintype.card Element) element

theorem exists_short_iterate {element root : Element} (reaches : Reaches parent element root) :
    ∃ steps, steps ≤ Fintype.card Element ∧ parent^[steps] element = root := by
  have ends := reaches.exists_iterate
  refine ⟨Nat.find ends, ?_, Nat.find_spec ends⟩
  have apart : Function.Injective fun step : Fin (Nat.find ends) => parent^[step] element := by
    have ordered : ∀ {earlier later : Nat}, earlier < later → later < Nat.find ends →
        parent^[earlier] element ≠ parent^[later] element := by
      intro earlier later before short same
      -- From a repeated element the search would be as long again, and end sooner.
      refine Nat.find_min ends (m := Nat.find ends - later + earlier) (by omega) ?_
      rw [Function.iterate_add_apply, same, ← Function.iterate_add_apply,
        Nat.sub_add_cancel (Nat.le_of_lt short)]
      exact Nat.find_spec ends
    intro one other same
    by_contra differ
    rcases Nat.lt_or_gt_of_ne (Fin.val_ne_of_ne differ) with before | after
    · exact ordered before other.isLt same
    · exact ordered after one.isLt same.symm
  have small := Fintype.card_le_of_injective _ apart
  rwa [Fintype.card_fin] at small

variable {parent : Element → Element} {element root left right : Element}

theorem find_eq_of_reaches (reaches : Reaches parent element root) :
    find parent element = root := by
  obtain ⟨steps, enough, rfl⟩ := exists_short_iterate reaches
  exact findFrom_of_iterate reaches.isRoot enough

theorem Grounded.reaches_find (grounded : Grounded parent) (element : Element) :
    Reaches parent element (find parent element) := by
  obtain ⟨root, reaches⟩ := grounded element
  rwa [find_eq_of_reaches reaches]

theorem Grounded.parent_find (grounded : Grounded parent) (element : Element) :
    parent (find parent element) = find parent element := (grounded.reaches_find element).isRoot

/-! ### Unions -/

def union (parent : Element → Element) (left right : Element) : Element → Element :=
  let under := find parent left
  let hung := find parent right
  if under ≠ hung then Function.update parent hung under else parent

def unions (parent : Element → Element) (pairs : List (Element × Element)) : Element → Element :=
  pairs.foldl (fun parent pair => union parent pair.1 pair.2) parent

omit [Fintype Element] in
theorem Reaches.update {under hung : Element} (isUnder : parent under = under)
    (isHung : parent hung = hung) (apart : under ≠ hung) (reaches : Reaches parent element root) :
    Reaches (Function.update parent hung under) element (if root = hung then under else root) := by
  induction reaches with
  | @root element isRoot =>
    split_ifs with isHungRoot
    · rw [isHungRoot]
      refine .step ?_
      rw [Function.update_self]
      exact .root (by rw [Function.update_of_ne apart, isUnder])
    · exact .root (by rw [Function.update_of_ne isHungRoot, isRoot])
  | @step element root later inductionHypothesis =>
    by_cases isElement : element = hung
    · rw [isElement, isHung] at inductionHypothesis
      rwa [isElement]
    · refine .step ?_
      rwa [Function.update_of_ne isElement]

theorem Grounded.reaches_union (grounded : Grounded parent) (left right element : Element) :
    Reaches (union parent left right) element
      (if find parent element = find parent right then find parent left
        else find parent element) := by
  unfold union
  dsimp only
  by_cases same : find parent left = find parent right
  · rw [if_neg (not_not_intro same)]
    split_ifs with isRight
    · rw [same, ← isRight]
      exact grounded.reaches_find element
    · exact grounded.reaches_find element
  · rw [if_pos same]
    exact (grounded.reaches_find element).update (grounded.parent_find left)
      (grounded.parent_find right) same

theorem Grounded.union (grounded : Grounded parent) (left right : Element) :
    Grounded (union parent left right) :=
  fun element => ⟨_, grounded.reaches_union left right element⟩

theorem Grounded.find_union (grounded : Grounded parent) (left right element : Element) :
    find (DisjointSets.union parent left right) element =
      if find parent element = find parent right then find parent left
        else find parent element :=
  find_eq_of_reaches (grounded.reaches_union left right element)

theorem Grounded.unions (grounded : Grounded parent) (pairs : List (Element × Element)) :
    Grounded (unions parent pairs) := by
  induction pairs generalizing parent with
  | nil => exact grounded
  | cons pair rest inductionHypothesis => exact inductionHypothesis (grounded.union pair.1 pair.2)

omit [DecidableEq Element] [Fintype Element] in
theorem grounded_id : Grounded (id : Element → Element) := fun element => ⟨element, .root rfl⟩

theorem Grounded.same_union_iff (grounded : Grounded parent) {one other : Element} :
    find (DisjointSets.union parent left right) one =
        find (DisjointSets.union parent left right) other ↔
      find parent one = find parent other ∨
        (find parent one = find parent left ∧ find parent right = find parent other) ∨
          (find parent one = find parent right ∧ find parent left = find parent other) := by
  rw [grounded.find_union, grounded.find_union]
  split_ifs with isOne isOther isOther <;> grind

theorem find_unions_eq_iff (pairs : List (Element × Element)) {one other : Element} :
    find (unions id pairs) one = find (unions id pairs) other ↔
      Relation.EqvGen (fun left right => (left, right) ∈ pairs) one other := by
  induction pairs using List.reverseRecOn generalizing one other with
  | nil =>
    constructor
    · intro same
      have isOne : find (id : Element → Element) one = one := find_eq_of_reaches (.root rfl)
      have isOther : find (id : Element → Element) other = other := find_eq_of_reaches (.root rfl)
      change find id one = find id other at same
      rw [isOne, isOther] at same
      exact same ▸ .refl one
    · intro chain
      induction chain with
      | rel _ _ member => cases member
      | refl => rfl
      | symm _ _ _ inductionHypothesis => exact inductionHypothesis.symm
      | trans _ _ _ _ _ first second => exact first.trans second
  | append_singleton pairs pair inductionHypothesis =>
    have grounded : Grounded (unions id pairs) := grounded_id.unions pairs
    have isLast : unions id (pairs ++ [pair]) = union (unions id pairs) pair.1 pair.2 := by
      unfold unions
      rw [List.foldl_append]
      rfl
    have weaken : ∀ {one other : Element},
        Relation.EqvGen (fun left right => (left, right) ∈ pairs) one other →
          Relation.EqvGen (fun left right => (left, right) ∈ pairs ++ [pair]) one other :=
      fun chain => chain.mono fun _ _ member => List.mem_append_left _ member
    have last : Relation.EqvGen (fun left right => (left, right) ∈ pairs ++ [pair]) pair.1 pair.2 :=
      .rel _ _ (List.mem_append_right _ List.mem_cons_self)
    rw [isLast]
    constructor
    · intro same
      rcases grounded.same_union_iff.mp same with together | ⟨before, after⟩ | ⟨before, after⟩
      · exact weaken (inductionHypothesis.mp together)
      · exact ((weaken (inductionHypothesis.mp before)).trans _ _ _ last).trans _ _ _
          (weaken (inductionHypothesis.mp after))
      · exact ((weaken (inductionHypothesis.mp before)).trans _ _ _ last.symm).trans _ _ _
          (weaken (inductionHypothesis.mp after))
    · intro chain
      induction chain with
      | rel left right member =>
        rcases List.mem_append.mp member with earlier | isPair
        · exact grounded.same_union_iff.mpr (Or.inl (inductionHypothesis.mpr (.rel _ _ earlier)))
        · rw [← List.mem_singleton.mp isPair]
          exact grounded.same_union_iff.mpr (Or.inr (Or.inl ⟨rfl, rfl⟩))
      | refl => rfl
      | symm _ _ _ inductionHypothesis => exact inductionHypothesis.symm
      | trans _ _ _ _ _ first second => exact first.trans second

end Find

/-! ### A forest inside another -/

section Inside

variable {Member Element : Type} [DecidableEq Member] [Fintype Member] [DecidableEq Element]
  [Fintype Element]

/-- The trees of the one forest are trees of the other, and the other's remaining trees have none of
its elements. -/
structure Inside (embed : Member → Element) (inner : Member → Member) (outer : Element → Element) :
    Prop where
  parents : ∀ member, outer (embed member) = embed (inner member)
  others : ∀ element ∉ Set.range embed, outer element ∉ Set.range embed

variable {embed : Member → Element} {inner : Member → Member} {outer : Element → Element}

omit [DecidableEq Member] [Fintype Member] [DecidableEq Element] [Fintype Element] in
theorem Inside.reaches (inside : Inside embed inner outer) {member root : Member}
    (reaches : Reaches inner member root) : Reaches outer (embed member) (embed root) := by
  induction reaches with
  | root isRoot => exact .root (by rw [inside.parents, isRoot])
  | step _ inductionHypothesis =>
    refine .step ?_
    rwa [inside.parents]

theorem Inside.find (inside : Inside embed inner outer) (grounded : Grounded inner)
    (member : Member) : find outer (embed member) = embed (find inner member) :=
  find_eq_of_reaches (inside.reaches (grounded.reaches_find member))

omit [DecidableEq Member] [Fintype Member] [DecidableEq Element] [Fintype Element] in
theorem Inside.root_notMem (inside : Inside embed inner outer) {element root : Element}
    (reaches : Reaches outer element root) (outside : element ∉ Set.range embed) :
    root ∉ Set.range embed := by
  induction reaches with
  | root => exact outside
  | step _ inductionHypothesis => exact inductionHypothesis (inside.others _ outside)

theorem Inside.union_embed (inside : Inside embed inner outer) (injective : embed.Injective)
    (grounded : Grounded inner) (left right : Member) :
    Inside embed (union inner left right) (union outer (embed left) (embed right)) := by
  unfold union
  dsimp only
  rw [inside.find grounded, inside.find grounded]
  by_cases same : DisjointSets.find inner left = DisjointSets.find inner right
  · rw [if_neg (not_not_intro same), if_neg (not_not_intro (congrArg embed same))]
    exact inside
  · rw [if_pos same, if_pos (injective.ne same)]
    refine ⟨fun member => ?_, fun element outside => ?_⟩
    · by_cases isHung : member = DisjointSets.find inner right
      · rw [isHung, Function.update_self, Function.update_self]
      · rw [Function.update_of_ne isHung, Function.update_of_ne (injective.ne isHung),
          inside.parents]
    · rw [Function.update_of_ne (fun isHung => outside ⟨_, isHung.symm⟩)]
      exact inside.others element outside

omit [DecidableEq Member] [Fintype Member] in
theorem Inside.union_outside (inside : Inside embed inner outer) (grounded : Grounded outer)
    {left right : Element} (leftOutside : left ∉ Set.range embed)
    (rightOutside : right ∉ Set.range embed) : Inside embed inner (union outer left right) := by
  have under := inside.root_notMem (grounded.reaches_find left) leftOutside
  have hung := inside.root_notMem (grounded.reaches_find right) rightOutside
  unfold union
  dsimp only
  split_ifs
  · refine ⟨fun member => ?_, fun element outside => ?_⟩
    · rw [Function.update_of_ne (fun isHung => hung ⟨member, isHung⟩), inside.parents]
    · by_cases isHung : element = DisjointSets.find outer right
      · rwa [isHung, Function.update_self]
      · rw [Function.update_of_ne isHung]
        exact inside.others element outside
  · exact inside

theorem Inside.unions (inside : Inside embed inner outer) (injective : embed.Injective)
    (innerGrounded : Grounded inner) (outerGrounded : Grounded outer)
    {innerPairs : List (Member × Member)} {outerPairs : List (Element × Element)}
    [DecidablePred (· ∈ Set.range embed)]
    (crossesNone : ∀ pair ∈ outerPairs, pair.1 ∈ Set.range embed ↔ pair.2 ∈ Set.range embed)
    (samePairs : outerPairs.filter (fun pair => pair.1 ∈ Set.range embed) =
      innerPairs.map (Prod.map embed embed)) :
    Inside embed (unions inner innerPairs) (unions outer outerPairs) := by
  induction outerPairs generalizing inner outer innerPairs with
  | nil =>
    rw [List.filter_nil, eq_comm, List.map_eq_nil_iff] at samePairs
    rw [samePairs]
    exact inside
  | cons pair rest inductionHypothesis =>
    obtain ⟨crosses, restCrosses⟩ := List.forall_mem_cons.mp crossesNone
    by_cases member : pair.1 ∈ Set.range embed
    · rw [List.filter_cons, if_pos (decide_eq_true member)] at samePairs
      obtain ⟨innerPair, innerRest, rfl, isPair, isRest⟩ := List.map_eq_cons_iff.mp samePairs.symm
      rw [← isPair]
      exact inductionHypothesis
        (inside.union_embed injective innerGrounded innerPair.1 innerPair.2)
        (innerGrounded.union _ _) (outerGrounded.union _ _) restCrosses isRest.symm
    · rw [List.filter_cons, if_neg (by simpa using member)] at samePairs
      exact inductionHypothesis
        (inside.union_outside outerGrounded member (fun isMember => member (crosses.mpr isMember)))
        innerGrounded (outerGrounded.union _ _) restCrosses samePairs

end Inside

end Twalk.DisjointSets
