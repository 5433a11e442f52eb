/-
This file proves what the sections of the screen are: the families are the classes of the chains
of related groups, a family's key and name are its own, and every row is in one section.

What a chain is said to be is a chain of stems of which one stands in the other as a whole word.
The program goes along the same chains exactly where every pair of groups that it overlooks is
joined by a chain of pairs it sees.
-/

import Twalk.Conversations

namespace Twalk.Portals

open RecoveryKey (Units unitsOf characters)

/-! ### Stems have no colon -/

theorem notMem_of_mem_characters {value character : Units} (member : character ∈ characters value)
    (notColon : character ≠ [colon]) : colon ∉ character := by
  rcases RecoveryKey.exists_of_mem_characters member with ⟨unit, rfl⟩ |
    ⟨high, low, isHigh, isLow, rfl⟩
  · exact fun isColon => notColon (by rw [List.mem_singleton.mp isColon])
  · intro isColon
    rcases List.mem_cons.mp isColon with rfl | isColon
    · exact absurd isHigh (by decide)
    · rw [← List.mem_singleton.mp isColon] at isLow
      exact absurd isLow (by decide)

theorem mem_spaced {tables : Tables} {inRun : Bool} {texts : List Units} {character : Units}
    (member : character ∈ spaced tables inRun texts) :
    character = [space] ∨ (character ∈ texts ∧ tables.isWord character = true) := by
  induction texts generalizing inRun with
  | nil => cases member
  | cons first rest inductionHypothesis =>
    have later : ∀ {inRun : Bool}, character ∈ spaced tables inRun rest →
        character = [space] ∨ (character ∈ first :: rest ∧ tables.isWord character = true) :=
      fun isRest => (inductionHypothesis isRest).imp_right fun found =>
        ⟨List.mem_cons_of_mem first found.1, found.2⟩
    unfold spaced at member
    split_ifs at member with isWord
    · rcases List.mem_cons.mp member with rfl | isRest
      · exact Or.inr ⟨List.mem_cons_self, isWord⟩
      · exact later isRest
    · exact later member
    · rcases List.mem_cons.mp member with rfl | isRest
      · exact Or.inl rfl
      · exact later isRest

theorem colon_notMem_stem (tables : Tables) (name : Units) : colon ∉ stem tables name := by
  unfold stem trim
  intro member
  have member := (List.dropWhile_suffix _).mem ((List.rdropWhile_prefix _ _).mem member)
  obtain ⟨character, isCharacter, isColon⟩ := List.mem_flatten.mp member
  rcases mem_spaced isCharacter with rfl | ⟨found, isWord⟩
  · exact absurd (List.mem_singleton.mp isColon) (by decide)
  · refine notMem_of_mem_characters found (fun same => ?_) isColon
    rw [same] at isWord
    exact absurd (tables.notColon.symm.trans isWord) Bool.false_ne_true

/-! ### Related stems -/

/-- One stem stands in the other between its ends or spaces. -/
def WholeWord (inner outer : Units) : Prop :=
  ∃ front back, outer = front ++ inner ++ back ∧ (front = [] ∨ front.getLast? = some space) ∧
    (back = [] ∨ back.head? = some space)

def Related (left right : Units) : Prop :=
  (minStem ≤ left.length ∧ WholeWord left right) ∨ (minStem ≤ right.length ∧ WholeWord right left)

def Hidden (inner outer : Units) : Prop :=
  minStem ≤ inner.length ∧ WholeWord inner outer ∧
    ∃ place, indexOf inner outer = some place ∧ isBounded inner outer place = false

variable {inner outer : Units}

theorem exists_of_indexOf {place : Nat} (found : indexOf inner outer = some place) :
    ∃ front back, outer = front ++ inner ++ back ∧ front.length = place := by
  induction outer generalizing place with
  | nil =>
    unfold indexOf at found
    split_ifs at found with isEmpty
    · cases found
      exact ⟨[], [], by rw [isEmpty]; rfl, rfl⟩
  | cons first rest inductionHypothesis =>
    unfold indexOf at found
    split_ifs at found with isPrefix
    · obtain ⟨back, isOuter⟩ := isPrefix
      cases found
      exact ⟨[], back, isOuter.symm, rfl⟩
    · obtain ⟨before, isFound, rfl⟩ := Option.map_eq_some_iff.mp found
      obtain ⟨front, back, rfl, rfl⟩ := inductionHypothesis isFound
      exact ⟨first :: front, back, rfl, rfl⟩

theorem exists_indexOf (inner front back : Units) :
    ∃ place, indexOf inner (front ++ inner ++ back) = some place := by
  induction front with
  | nil =>
    cases isOuter : ([] : Units) ++ inner ++ back with
    | nil =>
      have isEmpty : inner = [] := (List.append_eq_nil_iff.mp isOuter).1
      exact ⟨0, if_pos isEmpty⟩
    | cons first rest => exact ⟨0, if_pos ⟨back, isOuter⟩⟩
  | cons first front inductionHypothesis =>
    obtain ⟨place, isPlace⟩ := inductionHypothesis
    unfold indexOf
    rw [List.cons_append, List.cons_append]
    dsimp only
    split_ifs
    · exact ⟨0, rfl⟩
    · rw [isPlace]
      exact ⟨place + 1, rfl⟩

theorem isBounded_iff (front inner back : Units) :
    isBounded inner (front ++ inner ++ back) front.length = true ↔
      (front = [] ∨ front.getLast? = some space) ∧ (back = [] ∨ back.head? = some space) := by
  unfold isBounded
  rw [Bool.and_eq_true, Bool.or_eq_true, Bool.or_eq_true]
  refine and_congr ?_ ?_
  · rw [decide_eq_true_iff, decide_eq_true_iff, List.length_eq_zero_iff]
    refine or_congr_right' fun visible => ?_
    have short : front.length - 1 < front.length :=
      Nat.sub_lt (List.length_pos_iff.mpr visible) Nat.one_pos
    rw [List.append_assoc, List.getElem?_append_left short, List.getLast?_eq_getElem?]
  · have isEnd : front.length + inner.length = (front ++ inner ++ back).length ↔ back = [] := by
      rw [List.length_append, List.length_append, left_eq_add, List.length_eq_zero_iff]
    rw [decide_eq_true_iff, decide_eq_true_iff, isEnd, ← List.length_append,
      List.getElem?_append_right (Nat.le_refl _), Nat.sub_self, List.head?_eq_getElem?]

theorem wholeWord_self (text : Units) : WholeWord text text :=
  ⟨[], [], by simp, Or.inl rfl, Or.inl rfl⟩

theorem WholeWord.length_le (wholeWord : WholeWord inner outer) :
    inner.length ≤ outer.length := by
  obtain ⟨front, back, rfl, -⟩ := wholeWord
  simp only [List.length_append]
  omega

theorem WholeWord.eq_of_length_le (wholeWord : WholeWord inner outer)
    (short : outer.length ≤ inner.length) : outer = inner := by
  obtain ⟨front, back, rfl, -⟩ := wholeWord
  simp only [List.length_append] at short
  have noFront : front = [] := List.length_eq_zero_iff.mp (by omega)
  have noBack : back = [] := List.length_eq_zero_iff.mp (by omega)
  rw [noFront, noBack, List.nil_append, List.append_nil]

theorem found_iff :
    (match indexOf inner outer with
      | none => false
      | some place => isBounded inner outer place) = true ↔
      WholeWord inner outer ∧
        ¬∃ place, indexOf inner outer = some place ∧ isBounded inner outer place = false := by
  constructor
  · intro found
    cases isFound : indexOf inner outer with
    | none =>
      rw [isFound] at found
      cases found
    | some place =>
      rw [isFound] at found
      obtain ⟨front, back, rfl, rfl⟩ := exists_of_indexOf isFound
      refine ⟨⟨front, back, rfl, (isBounded_iff front inner back).mp found⟩, ?_⟩
      rintro ⟨place, isPlace, unbounded⟩
      rw [← Option.some.inj isPlace] at unbounded
      exact absurd (found.symm.trans unbounded) (by decide)
  · rintro ⟨⟨front, back, rfl, -⟩, noneHidden⟩
    obtain ⟨place, isPlace⟩ := exists_indexOf inner front back
    rw [isPlace]
    by_contra unbounded
    exact noneHidden ⟨place, isPlace, Bool.eq_false_of_not_eq_true unbounded⟩

theorem not_hidden_of_length_le (short : outer.length ≤ inner.length) :
    ¬Hidden inner outer := by
  rintro ⟨-, wholeWord, place, isPlace, unbounded⟩
  have same := wholeWord.eq_of_length_le short
  obtain ⟨front, back, isOuter, isLength⟩ := exists_of_indexOf isPlace
  have lengths := congrArg List.length isOuter
  simp only [List.length_append] at lengths
  have noFront : front = [] := List.length_eq_zero_iff.mp (by omega)
  have noBack : back = [] := List.length_eq_zero_iff.mp (by omega)
  rw [isOuter, ← isLength, Bool.eq_false_iff, ne_eq, isBounded_iff] at unbounded
  exact unbounded ⟨Or.inl noFront, Or.inl noBack⟩

variable {left right : Units}

theorem related_symm (isRelated : Related left right) : Related right left :=
  Or.symm isRelated

theorem seen_iff (short : inner.length ≤ outer.length) (differ : inner ≠ outer) :
    (minStem ≤ inner.length ∧ (match indexOf inner outer with
      | none => false
      | some place => isBounded inner outer place) = true) ↔
      Related inner outer ∧ ¬Hidden inner outer ∧ ¬Hidden outer inner := by
  rw [found_iff]
  constructor
  · rintro ⟨long, wholeWord, noneHidden⟩
    exact ⟨Or.inl ⟨long, wholeWord⟩, fun hidden => noneHidden hidden.2.2,
      not_hidden_of_length_le short⟩
  · rintro ⟨⟨long, wholeWord⟩ | ⟨-, wholeWord⟩, notHidden, -⟩
    · exact ⟨long, wholeWord, fun hidden => notHidden ⟨long, wholeWord, hidden⟩⟩
    · exact absurd (wholeWord.eq_of_length_le short) differ

theorem related_of_ne (differ : left ≠ right) :
    related left right = true ↔
      if left.length ≤ right.length then
        minStem ≤ left.length ∧ (match indexOf left right with
          | none => false
          | some place => isBounded left right place) = true
      else
        minStem ≤ right.length ∧ (match indexOf right left with
          | none => false
          | some place => isBounded right left place) = true := by
  unfold related
  have positive : ¬minStem ≤ ([] : Units).length := by decide
  by_cases short : left.length ≤ right.length
  · simp only [if_pos short, if_neg differ]
    by_cases isEmpty : left = [] ∨ right = []
    · rw [if_pos isEmpty]
      have isLeft : left = [] := isEmpty.elim (fun isLeft => isLeft) fun isRight =>
        List.length_eq_zero_iff.mp (Nat.le_zero.mp (by simpa [isRight] using short))
      rw [isLeft]
      exact iff_of_false Bool.false_ne_true fun long => positive long.1
    · rw [if_neg isEmpty]
      by_cases long : minStem ≤ left.length
      · rw [if_neg (Nat.not_lt.mpr long)]
        exact (and_iff_right long).symm
      · rw [if_pos (Nat.lt_of_not_le long)]
        exact iff_of_false Bool.false_ne_true fun isLong => long isLong.1
  · simp only [if_neg short, if_neg differ]
    by_cases isEmpty : left = [] ∨ right = []
    · rw [if_pos isEmpty]
      have isRight : right = [] := isEmpty.elim
        (fun isLeft => absurd (by simp [isLeft] : left.length ≤ right.length) short)
        fun isRight => isRight
      rw [isRight]
      exact iff_of_false Bool.false_ne_true fun long => positive long.1
    · rw [if_neg isEmpty]
      by_cases long : minStem ≤ right.length
      · rw [if_neg (Nat.not_lt.mpr long)]
        exact (and_iff_right long).symm
      · rw [if_pos (Nat.lt_of_not_le long)]
        exact iff_of_false Bool.false_ne_true fun isLong => long isLong.1

theorem related_iff :
    related left right = true ↔ Related left right ∧ ¬Hidden left right ∧ ¬Hidden right left := by
  by_cases same : left = right
  · rw [← same]
    have noneHidden : ¬Hidden left left := not_hidden_of_length_le (Nat.le_refl _)
    unfold related Related
    rw [if_pos rfl]
    by_cases isEmpty : left = []
    · rw [if_pos (Or.inl isEmpty), isEmpty]
      refine iff_of_false Bool.false_ne_true fun isRelated => ?_
      exact absurd (isRelated.1.elim And.left And.left) (by decide)
    · rw [if_neg (by simpa using isEmpty), decide_eq_true_iff]
      exact ⟨fun long => ⟨Or.inl ⟨long, wholeWord_self left⟩, noneHidden, noneHidden⟩,
        fun isRelated => isRelated.1.elim And.left And.left⟩
  · rw [related_of_ne same]
    split_ifs with short
    · exact seen_iff short same
    · rw [seen_iff (Nat.le_of_not_le short) (Ne.symm same)]
      exact ⟨fun ⟨isRelated, first, second⟩ => ⟨related_symm isRelated, second, first⟩,
        fun ⟨isRelated, first, second⟩ => ⟨related_symm isRelated, second, first⟩⟩

theorem related_comm :
    related left right = true ↔ related right left = true := by
  rw [related_iff, related_iff]
  exact ⟨fun ⟨isRelated, first, second⟩ => ⟨related_symm isRelated, second, first⟩,
    fun ⟨isRelated, first, second⟩ => ⟨related_symm isRelated, second, first⟩⟩

theorem Related.length_le (isRelated : Related left right) :
    minStem ≤ left.length ∧ minStem ≤ right.length := by
  rcases isRelated with ⟨long, wholeWord⟩ | ⟨long, wholeWord⟩
  · exact ⟨long, long.trans wholeWord.length_le⟩
  · exact ⟨long.trans wholeWord.length_le, long⟩

/-! ### The classes of the groups -/

variable {others : List ConversationRow}

section Classes

variable (tables : Tables) (groups : List ConversationRow)

/-- Two groups the program joins. -/
def Linked (one other : Fin groups.length) : Prop :=
  (groups.get one).bridgeId = (groups.get other).bridgeId ∧
    related (stemAt tables groups one) (stemAt tables groups other) = true

instance decidableLinked : DecidableRel (Linked tables groups) := fun one other =>
  inferInstanceAs (Decidable ((groups.get one).bridgeId = (groups.get other).bridgeId ∧
    related (stemAt tables groups one) (stemAt tables groups other) = true))

def Near (one other : Fin groups.length) : Prop :=
  (groups.get one).bridgeId = (groups.get other).bridgeId ∧
    Related (stemAt tables groups one) (stemAt tables groups other)

def Together (one other : Fin groups.length) : Prop :=
  ∃ bucket ∈ grouped tables groups, one ∈ bucket.items ∧ other ∈ bucket.items

theorem mem_pairs {count : Nat} {pair : Fin count × Fin count} :
    pair ∈ pairs count ↔ pair.1 < pair.2 := by
  obtain ⟨one, other⟩ := pair
  unfold pairs
  simp

theorem parents_eq :
    parents tables groups =
      DisjointSets.unions id
        ((pairs groups.length).filter fun pair => Linked tables groups pair.1 pair.2) := by
  unfold parents DisjointSets.unions
  rw [List.foldl_filter]
  refine congrArg (fun step => List.foldl step id (pairs groups.length)) ?_
  funext parent pair
  by_cases sameBridge : (groups.get pair.1).bridgeId = (groups.get pair.2).bridgeId
  · rw [if_neg (not_not_intro sameBridge)]
    refine if_congr ?_ rfl rfl
    rw [decide_eq_true_iff]
    exact (and_iff_right sameBridge).symm
  · rw [if_pos sameBridge, if_neg fun linked => sameBridge (of_decide_eq_true linked).1]

variable {tables groups}

theorem Linked.symm {one other : Fin groups.length} (linked : Linked tables groups one other) :
    Linked tables groups other one := ⟨linked.1.symm, related_comm.mp linked.2⟩

theorem Linked.near {one other : Fin groups.length} (linked : Linked tables groups one other) :
    Near tables groups one other := ⟨linked.1, (related_iff.mp linked.2).1⟩

theorem find_eq_iff {one other : Fin groups.length} :
    DisjointSets.find (parents tables groups) one =
        DisjointSets.find (parents tables groups) other ↔
      Relation.EqvGen (Linked tables groups) one other := by
  rw [parents_eq, DisjointSets.find_unions_eq_iff]
  constructor
  · intro chain
    refine chain.mono fun left right member => ?_
    exact of_decide_eq_true (List.mem_filter.mp member).2
  · intro chain
    induction chain with
    | rel left right linked =>
      rcases lt_trichotomy left right with before | rfl | after
      · exact .rel _ _ (List.mem_filter.mpr ⟨mem_pairs.mpr before, decide_eq_true linked⟩)
      · exact .refl left
      · exact .symm _ _
          (.rel _ _ (List.mem_filter.mpr ⟨mem_pairs.mpr after, decide_eq_true linked.symm⟩))
    | refl left => exact .refl left
    | symm _ _ _ inductionHypothesis => exact .symm _ _ inductionHypothesis
    | trans _ _ _ _ _ first second => exact .trans _ _ _ first second

theorem together_iff {one other : Fin groups.length} :
    Together tables groups one other ↔ Relation.EqvGen (Linked tables groups) one other := by
  rw [← find_eq_iff]
  exact Bucket.together_iff _ (List.mem_finRange one) (List.mem_finRange other)

theorem exists_neighbour {Element : Type} {relation : Element → Element → Prop}
    {one other : Element} (chain : Relation.EqvGen relation one other) :
    one = other ∨ (∃ next, relation one next ∨ relation next one) ∧
      ∃ next, relation other next ∨ relation next other := by
  induction chain with
  | rel left right linked => exact Or.inr ⟨⟨right, Or.inl linked⟩, ⟨left, Or.inr linked⟩⟩
  | refl element => exact Or.inl rfl
  | symm _ _ _ inductionHypothesis => exact inductionHypothesis.imp Eq.symm And.symm
  | trans _ middle _ _ _ first second =>
    rcases first with rfl | first
    · exact second
    · rcases second with rfl | second
      · exact Or.inr first
      · exact Or.inr ⟨first.1, second.2⟩

theorem bridge_eq_of_chain {one other : Fin groups.length}
    (chain : Relation.EqvGen (Linked tables groups) one other) :
    (groups.get one).bridgeId = (groups.get other).bridgeId := by
  induction chain with
  | rel _ _ linked => exact linked.1
  | refl => rfl
  | symm _ _ _ inductionHypothesis => exact inductionHypothesis.symm
  | trans _ _ _ _ _ first second => exact first.trans second

theorem long_of_chain {one other : Fin groups.length}
    (chain : Relation.EqvGen (Linked tables groups) one other) (differ : one ≠ other) :
    minStem ≤ (stemAt tables groups one).length := by
  obtain ⟨⟨next, linked | linked⟩, -⟩ := (exists_neighbour chain).resolve_left differ
  · exact linked.near.2.length_le.1
  · exact linked.near.2.length_le.2

theorem chain_reordered (place : Fin groups.length ≃ Fin others.length)
    (same : ∀ one, others.get (place one) = groups.get one) {one other : Fin groups.length} :
    Relation.EqvGen (Linked tables groups) one other ↔
      Relation.EqvGen (Linked tables others) (place one) (place other) := by
  have linked : ∀ one other, Linked tables groups one other ↔
      Linked tables others (place one) (place other) := by
    intro one other
    unfold Linked stemAt
    rw [same, same]
  constructor
  · intro chain
    induction chain with
    | rel left right isLinked => exact .rel _ _ ((linked left right).mp isLinked)
    | refl left => exact .refl _
    | symm _ _ _ inductionHypothesis => exact .symm _ _ inductionHypothesis
    | trans _ _ _ _ _ first second => exact .trans _ _ _ first second
  · intro chain
    have back : ∀ {left right}, Relation.EqvGen (Linked tables others) left right →
        Relation.EqvGen (Linked tables groups) (place.symm left) (place.symm right) := by
      intro left right chain
      induction chain with
      | rel left right isLinked =>
        refine .rel _ _ ((linked _ _).mpr ?_)
        rwa [place.apply_symm_apply, place.apply_symm_apply]
      | refl left => exact .refl _
      | symm _ _ _ inductionHypothesis => exact .symm _ _ inductionHypothesis
      | trans _ _ _ _ _ first second => exact .trans _ _ _ first second
    have chain := back chain
    rwa [place.symm_apply_apply, place.symm_apply_apply] at chain

end Classes

/-! ### The families -/

section Families

variable {tables : Tables} {groups : List ConversationRow}

theorem shortest_mem (first : ConversationRow) (rest : List ConversationRow) :
    shortest tables first rest ∈ first :: rest := by
  unfold shortest
  induction rest generalizing first with
  | nil => exact List.mem_cons_self
  | cons row rest inductionHypothesis =>
    rw [List.foldl_cons]
    split_ifs
    · exact List.mem_cons_of_mem first (inductionHypothesis row)
    · rcases List.mem_cons.mp (inductionHypothesis first) with isFirst | isRest
      · rw [isFirst]
        exact List.mem_cons_self
      · exact List.mem_cons_of_mem first (List.mem_cons_of_mem row isRest)

theorem rows_family (bucket : Bucket (Fin groups.length) (Fin groups.length)) :
    (family tables groups bucket).rows.Perm (bucket.items.map groups.get) :=
  List.perm_insertionSort _ _

theorem people_family (bucket : Bucket (Fin groups.length) (Fin groups.length)) :
    (family tables groups bucket).people =
      ((family tables groups bucket).rows.map ConversationRow.members).sum :=
  (((rows_family bucket).map ConversationRow.members).sum_eq).symm

theorem families_perm :
    (families tables groups).Perm ((grouped tables groups).map (family tables groups)) :=
  List.perm_insertionSort _ _

theorem exists_shortest (bucket : Bucket (Fin groups.length) (Fin groups.length)) :
    ∃ place ∈ bucket.items,
      shortest tables (groups.get bucket.first) (bucket.rest.map groups.get) =
        groups.get place := by
  have member := @shortest_mem tables (groups.get bucket.first)
    (bucket.rest.map groups.get)
  rw [← List.map_cons] at member
  obtain ⟨place, isItem, isPlace⟩ := List.mem_map.mp member
  exact ⟨place, isItem, isPlace.symm⟩

variable {bucket : Bucket (Fin groups.length) (Fin groups.length)}

theorem nodup_items (member : bucket ∈ grouped tables groups) : bucket.items.Nodup := by
  rw [Bucket.items_of_mem_gather _ _ member]
  exact (List.nodup_finRange groups.length).filter _

theorem chain_of_mem (member : bucket ∈ grouped tables groups) {one other : Fin groups.length}
    (isOne : one ∈ bucket.items) (isOther : other ∈ bucket.items) :
    Relation.EqvGen (Linked tables groups) one other :=
  together_iff.mp ⟨bucket, member, isOne, isOther⟩

theorem long_of_community (member : bucket ∈ grouped tables groups)
    (several : 1 < bucket.items.length) {one : Fin groups.length} (isOne : one ∈ bucket.items) :
    minStem ≤ (stemAt tables groups one).length := by
  obtain ⟨other, isOther, differ⟩ : ∃ other ∈ bucket.items, one ≠ other := by
    by_contra none
    push Not at none
    have alone : bucket.items ⊆ [one] := fun other isOther =>
      List.mem_singleton.mpr (none other isOther).symm
    have short := ((nodup_items member).subperm alone).length_le
    rw [List.length_singleton] at short
    omega
  exact long_of_chain (chain_of_mem member isOne isOther) differ

theorem eq_of_key {bucket other : Bucket (Fin groups.length) (Fin groups.length)}
    (member : bucket ∈ grouped tables groups) (otherMember : other ∈ grouped tables groups)
    (several : 1 < bucket.items.length)
    (same : (family tables groups bucket).key = (family tables groups other).key) :
    bucket = other := by
  obtain ⟨place, isItem, isShortest⟩ := @exists_shortest tables groups bucket
  obtain ⟨otherPlace, otherItem, isOtherShortest⟩ := @exists_shortest tables groups other
  unfold family at same
  dsimp only at same
  rw [isShortest, isOtherShortest] at same
  simp only [List.append_assoc, List.cons_append] at same
  rw [show ∀ front middle back : Units, front ++ colon :: (middle ++ colon :: back) =
      (front ++ colon :: middle) ++ colon :: back by simp,
    show ∀ front middle back : Units, front ++ colon :: (middle ++ colon :: back) =
      (front ++ colon :: middle) ++ colon :: back by simp] at same
  obtain ⟨same, -⟩ :=
    Text.append_cons_inj_of_back (colon_notMem_stem tables _) (colon_notMem_stem tables _) same
  obtain ⟨sameBridge, sameStem⟩ :=
    Text.append_cons_inj_of_back (colon_notMem_stem tables _) (colon_notMem_stem tables _) same
  have firstItem : bucket.first ∈ bucket.items := List.mem_cons_self
  have otherFirst : other.first ∈ other.items := List.mem_cons_self
  have linked : Linked tables groups place otherPlace := by
    refine ⟨?_, ?_⟩
    · rw [← bridge_eq_of_chain (chain_of_mem member firstItem isItem), sameBridge,
        bridge_eq_of_chain (chain_of_mem otherMember otherFirst otherItem)]
    · have long := long_of_community member several isItem
      unfold stemAt at long ⊢
      rw [← sameStem, related_iff]
      have noneHidden := not_hidden_of_length_le
        (Nat.le_refl (stem tables (groups.get place).label).length)
      exact ⟨Or.inl ⟨long, wholeWord_self _⟩, noneHidden, noneHidden⟩
  have sameRoot := find_eq_iff.mpr (Relation.EqvGen.rel _ _ linked)
  have sameKey : bucket.key = other.key := by
    rw [← Bucket.keyOf_of_mem _ member isItem, sameRoot,
      Bucket.keyOf_of_mem _ otherMember otherItem]
  exact List.inj_on_of_nodup_map (Bucket.nodup_keys_gather _ _) member otherMember sameKey

end Families

/-! ### A family among other groups -/

section Steady

/-- The order of the pairs. -/
def Before {count : Nat} (left right : Fin count × Fin count) : Prop :=
  left.1 < right.1 ∨ (left.1 = right.1 ∧ left.2 < right.2)

instance {count : Nat} : Std.Irrefl (@Before count) where
  irrefl := fun pair before => by
    unfold Before at before
    omega

instance {count : Nat} : Std.Antisymm (@Before count) where
  antisymm := fun left right before after => by
    unfold Before at before after
    omega

theorem pairwise_pairs (count : Nat) : (pairs count).Pairwise Before := by
  unfold pairs
  refine List.pairwise_flatMap.mpr ⟨fun one _ => ?_, ?_⟩
  · refine List.pairwise_map.mpr (((List.pairwise_lt_finRange count).filter _).imp fun before => ?_)
    exact Or.inr ⟨rfl, before⟩
  · refine (List.pairwise_lt_finRange count).imp fun before left isLeft right isRight => ?_
    obtain ⟨_, -, rfl⟩ := List.mem_map.mp isLeft
    obtain ⟨_, -, rfl⟩ := List.mem_map.mp isRight
    exact Or.inl before

variable {tables : Tables} {groups : List ConversationRow}
  {bucket : Bucket (Fin groups.length) (Fin groups.length)}

def rowsOf (groups : List ConversationRow)
    (bucket : Bucket (Fin groups.length) (Fin groups.length)) : List ConversationRow :=
  bucket.items.map groups.get

def embed (groups : List ConversationRow)
    (bucket : Bucket (Fin groups.length) (Fin groups.length))
    (place : Fin (rowsOf groups bucket).length) : Fin groups.length :=
  bucket.items.get (place.cast (List.length_map groups.get))

theorem get_embed (place : Fin (rowsOf groups bucket).length) :
    groups.get (embed groups bucket place) = (rowsOf groups bucket).get place :=
  (List.getElem_map groups.get).symm

theorem strictMono_embed (member : bucket ∈ grouped tables groups) :
    StrictMono (embed groups bucket) := by
  have sorted : bucket.items.Pairwise (· < ·) := by
    rw [Bucket.items_of_mem_gather _ _ member]
    exact (List.pairwise_lt_finRange groups.length).filter _
  intro one other before
  exact List.pairwise_iff_get.mp sorted _ _ before

theorem mem_range_embed {place : Fin groups.length} :
    place ∈ Set.range (embed groups bucket) ↔ place ∈ bucket.items := by
  constructor
  · rintro ⟨position, rfl⟩
    exact List.get_mem _ _
  · intro isItem
    obtain ⟨position, isPlace⟩ := List.get_of_mem isItem
    exact ⟨position.cast (List.length_map groups.get).symm, isPlace⟩

theorem linked_embed {one other : Fin (rowsOf groups bucket).length} :
    Linked tables groups (embed groups bucket one) (embed groups bucket other) ↔
      Linked tables (rowsOf groups bucket) one other := by
  unfold Linked stemAt
  rw [get_embed, get_embed]

theorem linked_range (member : bucket ∈ grouped tables groups) {one other : Fin groups.length}
    (linked : Linked tables groups one other) :
    one ∈ Set.range (embed groups bucket) ↔ other ∈ Set.range (embed groups bucket) := by
  have same := find_eq_iff.mpr (Relation.EqvGen.rel _ _ linked)
  rw [mem_range_embed, mem_range_embed, Bucket.items_of_mem_gather _ _ member]
  simp [same]

/-- The roots of a family are those it has by itself. -/
theorem find_embed (member : bucket ∈ grouped tables groups)
    (place : Fin (rowsOf groups bucket).length) :
    DisjointSets.find (parents tables groups) (embed groups bucket place) =
      embed groups bucket
        (DisjointSets.find (parents tables (rowsOf groups bucket)) place) := by
  classical
  have mono := strictMono_embed member
  rw [parents_eq, parents_eq]
  have starts : DisjointSets.Inside (embed groups bucket) id id :=
    ⟨fun _ => rfl, fun _ outside => outside⟩
  refine DisjointSets.Inside.find ?_ (DisjointSets.grounded_id.unions _) place
  refine starts.unions mono.injective DisjointSets.grounded_id DisjointSets.grounded_id
    (fun pair isPair => ?_) ?_
  · exact linked_range member (of_decide_eq_true (List.mem_filter.mp isPair).2)
  · refine List.Pairwise.eq_of_mem_iff (r := Before)
      (((pairwise_pairs groups.length).filter _).filter _)
      (List.pairwise_map.mpr (((pairwise_pairs _).filter _).imp fun before => ?_)) fun pair => ?_
    · rcases before with before | ⟨same, before⟩
      · exact Or.inl (mono before)
      · exact Or.inr ⟨congrArg (embed groups bucket) same, mono before⟩
    · simp only [List.mem_filter, List.mem_map, decide_eq_true_eq, mem_pairs]
      constructor
      · rintro ⟨⟨before, linked⟩, isIn⟩
        obtain ⟨other, isOther⟩ := (linked_range member linked).mp isIn
        obtain ⟨one, isOne⟩ := isIn
        refine ⟨(one, other), ⟨?_, ?_⟩, Prod.ext isOne isOther⟩
        · rw [← isOne, ← isOther] at before
          exact mono.lt_iff_lt.mp before
        · rw [← isOne, ← isOther] at linked
          exact linked_embed.mp linked
      · rintro ⟨⟨one, other⟩, ⟨before, linked⟩, rfl⟩
        exact ⟨⟨mono before, linked_embed.mpr linked⟩, one, rfl⟩

def rootStem (tables : Tables) (rows : List ConversationRow) (some : 0 < rows.length) : Units :=
  stemAt tables rows (DisjointSets.find (parents tables rows) ⟨0, some⟩)

theorem length_rowsOf_pos : 0 < (rowsOf groups bucket).length := by
  unfold rowsOf Bucket.items
  rw [List.length_map]
  exact Nat.succ_pos _

theorem stemAt_key (member : bucket ∈ grouped tables groups) :
    stemAt tables groups bucket.key = rootStem tables (rowsOf groups bucket) length_rowsOf_pos := by
  have isFirst : bucket.first = embed groups bucket ⟨0, length_rowsOf_pos⟩ := rfl
  have isKey : bucket.key = DisjointSets.find (parents tables groups) bucket.first :=
    (Bucket.keyOf_of_mem _ member List.mem_cons_self).symm
  rw [isKey, isFirst, find_embed member]
  unfold rootStem stemAt
  rw [get_embed]

theorem rootStem_congr {rows others : List ConversationRow} (same : rows = others)
    (some : 0 < rows.length) (someOther : 0 < others.length) :
    rootStem tables rows some = rootStem tables others someOther := by
  subst same
  rfl

theorem family_steady {other : Bucket (Fin others.length) (Fin others.length)}
    (member : bucket ∈ grouped tables groups) (otherMember : other ∈ grouped tables others)
    (same : rowsOf groups bucket = rowsOf others other) :
    (family tables groups bucket).key = (family tables others other).key ∧
      (family tables groups bucket).name = (family tables others other).name := by
  obtain ⟨isFirst, isRest⟩ := List.cons.inj
    (show groups.get bucket.first :: bucket.rest.map groups.get =
      others.get other.first :: other.rest.map others.get from same)
  have sameRoot : stemAt tables groups bucket.key = stemAt tables others other.key := by
    rw [stemAt_key member, stemAt_key otherMember]
    exact rootStem_congr same _ _
  unfold family
  dsimp only
  rw [isFirst, isRest, sameRoot]
  exact ⟨rfl, rfl⟩

end Steady

/-! ### The sections -/

section Sections

variable (tables : Tables) (all : List ConversationRow)

theorem rows_families_perm (groups : List ConversationRow) :
    ((families tables groups).flatMap ConversationFamily.rows).Perm groups := by
  have perm := (@families_perm tables groups).flatMap_right
    ConversationFamily.rows
  refine perm.trans ?_
  rw [List.flatMap_map]
  have each : ((grouped tables groups).flatMap fun bucket =>
      (family tables groups bucket).rows).Perm
        ((grouped tables groups).flatMap fun bucket => bucket.items.map groups.get) :=
    List.Perm.flatMap_left _ fun bucket _ => rows_family bucket
  refine each.trans ?_
  rw [← List.map_flatMap]
  have items : ((grouped tables groups).flatMap Bucket.items).Perm (List.finRange groups.length) :=
    Bucket.items_gather _ _
  refine (items.map groups.get).trans ?_
  rw [show (List.finRange groups.length).map groups.get = groups from List.map_get_finRange groups]

variable {groups : List ConversationRow}

theorem rows_ne_nil {found : ConversationFamily} (member : found ∈ families tables groups) :
    1 ≤ found.rows.length := by
  obtain ⟨bucket, -, rfl⟩ := List.mem_map.mp (families_perm.subset member)
  rw [(rows_family bucket).length_eq, List.length_map]
  exact Nat.succ_pos _

theorem sections_perm :
    ((sections tables all).oneToOne ++ (sections tables all).groups ++
      (sections tables all).communities.flatMap ConversationFamily.rows ++
        (sections tables all).broadcasts ++ (sections tables all).unstated).Perm all := by
  have clustered : ((sections tables all).groups ++
      (sections tables all).communities.flatMap ConversationFamily.rows).Perm
        (ofKind all .group) := by
    refine List.Perm.trans ?_ (rows_families_perm tables (ofKind all .group))
    have several : (sections tables all).communities =
        (families tables (ofKind all .group)).filter fun found =>
          !(found.rows.length = 1 : Bool) := by
      unfold sections
      refine List.filter_congr fun found member => ?_
      have some := rows_ne_nil tables member
      rw [← decide_not]
      exact decide_eq_decide.mpr (by omega)
    rw [several]
    unfold sections
    dsimp only
    rw [← List.flatMap_append]
    exact (List.filter_append_perm _ _).flatMap_right _
  have kinds : (ofKind all .oneToOne ++ ofKind all .group ++ ofKind all .broadcast ++
      ofKind all .unstated).Perm all := by
    refine List.perm_iff_count.mpr fun row => ?_
    have whole : (ofKind all row.kind).count row = all.count row :=
      List.count_filter (decide_eq_true rfl)
    have none : ∀ kind, row.kind ≠ kind → (ofKind all kind).count row = 0 := by
      intro kind differ
      refine List.count_eq_zero.mpr fun member => differ ?_
      exact of_decide_eq_true (List.mem_filter.mp member).2
    simp only [List.count_append]
    cases isKind : row.kind <;> rw [isKind] at whole none <;> simp [whole, none]
  refine List.Perm.trans ?_ kinds
  rw [List.append_assoc (sections tables all).oneToOne]
  exact ((clustered.append_left _).append_right _).append_right _

structure AreCommunities : Prop where
  sectioned : ((sections tables all).oneToOne ++ (sections tables all).groups ++
    (sections tables all).communities.flatMap ConversationFamily.rows ++
      (sections tables all).broadcasts ++ (sections tables all).unstated).Perm all
  /-- The places of the groups are divided among the families. -/
  partition : ((grouped tables (ofKind all .group)).flatMap Bucket.items).Perm
    (List.finRange (ofKind all .group).length)
  listed : (families tables (ofKind all .group)).Perm
    ((grouped tables (ofKind all .group)).map (family tables (ofKind all .group)))
  rows : ∀ bucket ∈ grouped tables (ofKind all .group),
    (family tables (ofKind all .group) bucket).rows.Perm
      (bucket.items.map (ofKind all .group).get)
  /-- Two groups are of one family exactly if a chain of near groups joins them. -/
  joined : ∀ one other, Together tables (ofKind all .group) one other ↔
    Relation.EqvGen (Near tables (ofKind all .group)) one other
  ordered : ∀ (others : List ConversationRow)
    (place : Fin (ofKind all .group).length ≃ Fin others.length),
      (∀ one, others.get (place one) = (ofKind all .group).get one) →
        ∀ one other, Together tables (ofKind all .group) one other ↔
          Together tables others (place one) (place other)
  people : ∀ found ∈ families tables (ofKind all .group),
    found.people = (found.rows.map ConversationRow.members).sum
  distinct : ((sections tables all).communities.map ConversationFamily.key).Nodup
  /-- The same rows as a family of other groups have the same key and name. -/
  steady : ∀ (others : List ConversationRow), ∀ bucket ∈ grouped tables (ofKind all .group),
    ∀ other ∈ grouped tables others,
      rowsOf (ofKind all .group) bucket = rowsOf others other →
        (family tables (ofKind all .group) bucket).key = (family tables others other).key ∧
          (family tables (ofKind all .group) bucket).name = (family tables others other).name
  /-- The search for a root ends in every forest of unions. -/
  ends : ∀ done, DisjointSets.Grounded
    (DisjointSets.unions (id : Fin (ofKind all .group).length → _) done)

/-- Two groups of one bridge, of which the one's stem is hidden in the other's, are joined by a
chain of groups the program sees to be related. -/
def Reached (groups : List ConversationRow) : Prop :=
  ∀ one other : Fin groups.length, (groups.get one).bridgeId = (groups.get other).bridgeId →
    Hidden (stemAt tables groups one) (stemAt tables groups other) →
      Relation.EqvGen (Linked tables groups) one other

theorem near_of_hidden {one other : Fin groups.length}
    (sameBridge : (groups.get one).bridgeId = (groups.get other).bridgeId)
    (hidden : Hidden (stemAt tables groups one) (stemAt tables groups other)) :
    Near tables groups one other := ⟨sameBridge, Or.inl ⟨hidden.1, hidden.2.1⟩⟩

theorem chain_iff_of_reached (reached : Reached tables groups) {one other : Fin groups.length} :
    Relation.EqvGen (Linked tables groups) one other ↔
      Relation.EqvGen (Near tables groups) one other := by
  constructor
  · exact fun chain => chain.mono fun _ _ linked => linked.near
  · intro chain
    induction chain with
    | rel left right near =>
      by_cases forwards : Hidden (stemAt tables groups left) (stemAt tables groups right)
      · exact reached left right near.1 forwards
      · by_cases backwards : Hidden (stemAt tables groups right) (stemAt tables groups left)
        · exact .symm _ _ (reached right left near.1.symm backwards)
        · exact .rel _ _ ⟨near.1, related_iff.mpr ⟨near.2, forwards, backwards⟩⟩
    | refl left => exact .refl left
    | symm _ _ _ inductionHypothesis => exact .symm _ _ inductionHypothesis
    | trans _ _ _ _ _ first second => exact .trans _ _ _ first second

theorem nodup_keys :
    ((sections tables all).communities.map ConversationFamily.key).Nodup := by
  have perm : (sections tables all).communities.Perm
      (((grouped tables (ofKind all .group)).map (family tables (ofKind all .group))).filter
        (1 < ·.rows.length)) := families_perm.filter _
  refine (perm.map ConversationFamily.key).nodup_iff.mpr ?_
  rw [List.filter_map, List.map_map]
  refine List.Nodup.map_on ?_ ((Bucket.nodup_keys_gather _ _).of_map _ |>.filter _)
  intro bucket isBucket other isOther same
  obtain ⟨member, several⟩ := List.mem_filter.mp isBucket
  have several : 1 < (family tables (ofKind all .group) bucket).rows.length :=
    of_decide_eq_true several
  rw [(rows_family bucket).length_eq, List.length_map] at several
  exact eq_of_key member (List.mem_filter.mp isOther).1 several same

/-- The sections are what they are to be if and only if every hidden pair of groups is reached by
another way. -/
theorem areCommunities_iff :
    AreCommunities tables all ↔ Reached tables (ofKind all .group) := by
  constructor
  · intro areCommunities one other sameBridge hidden
    rw [← together_iff, areCommunities.joined]
    exact .rel _ _ (near_of_hidden tables sameBridge hidden)
  · intro reached
    refine ⟨sections_perm tables all, Bucket.items_gather _ _, families_perm,
      fun bucket _ => rows_family bucket, fun one other => ?_,
      fun others place same one other => ?_, fun found member => ?_, nodup_keys tables all,
      fun others bucket member other otherMember same => family_steady member otherMember same,
      fun done => DisjointSets.grounded_id.unions done⟩
    · rw [together_iff, chain_iff_of_reached tables reached]
    · rw [together_iff, together_iff, chain_reordered place same]
    · obtain ⟨bucket, -, rfl⟩ := List.mem_map.mp (families_perm.subset member)
      exact people_family bucket

end Sections

/-! ### A name that stands in another twice -/

namespace TwiceNamed

def letters : Tables where
  nfd := id
  isDiacritic := fun _ => false
  toLowerCase := id
  isWord := fun character => character.any fun unit => 0x61 ≤ unit && unit ≤ 0x7a
  localeCompare := fun _ _ => 0
  notColon := rfl

def row (label : String) : ConversationRow :=
  ⟨unitsOf "!room", unitsOf "whatsapp", unitsOf label, .group, 2⟩

def rows : List ConversationRow := [row "abc", row "xabc abc"]

def first : Fin (ofKind rows .group).length := ⟨0, by decide⟩

def second : Fin (ofKind rows .group).length := ⟨1, by decide⟩

theorem only_itself :
    ∀ one other, Linked letters (ofKind rows .group) one other → one = other := by
  decide

theorem near : Near letters (ofKind rows .group) first second :=
  ⟨rfl, Or.inl ⟨by decide, unitsOf "xabc ", [], by decide, Or.inr (by decide), Or.inl rfl⟩⟩

/-- The second name has the first as a word of its own, behind a longer word, and they are no
community. -/
theorem not_areCommunities : ¬AreCommunities letters rows := by
  intro areCommunities
  have chain := together_iff.mp ((areCommunities.joined first second).mpr (.rel _ _ near))
  have same : ∀ {one other}, Relation.EqvGen (Linked letters (ofKind rows .group)) one other →
      one = other := by
    intro one other chain
    induction chain with
    | rel left right linked => exact only_itself left right linked
    | refl => rfl
    | symm _ _ _ inductionHypothesis => exact inductionHypothesis.symm
    | trans _ _ _ _ _ before after => exact before.trans after
  exact absurd (same chain) (by decide)

end TwiceNamed

end Twalk.Portals
