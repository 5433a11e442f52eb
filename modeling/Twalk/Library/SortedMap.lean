/-
This file is maps whose entries are kept in the order of their keys, each key once. A key that is
inserted again loses the value it had. A map made of a list of entries has the keys of the list, and
is the list itself when that is already in order.
-/

import Mathlib.Data.List.Pairwise
import Mathlib.Data.List.Nodup
import Mathlib.Order.Lattice

namespace Twalk

structure SortedMap (Key Value : Type) [LinearOrder Key] where
  entries : List (Key × Value)
  ordered : entries.Pairwise fun first second => first.1 < second.1

namespace SortedMap

variable {Key Value : Type} [LinearOrder Key]

variable {first second : SortedMap Key Value}

@[ext] theorem ext_entries (same : first.entries = second.entries) : first = second := by
  cases first
  cases second
  congr

def empty : SortedMap Key Value := ⟨[], List.Pairwise.nil⟩

def get? (map : SortedMap Key Value) (key : Key) : Option Value := map.entries.lookup key

variable {map : SortedMap Key Value} {key : Key} {value : Value}

theorem get?_eq_some_iff :
    map.get? key = some value ↔ (key, value) ∈ map.entries := by
  obtain ⟨entries, ordered⟩ := map
  unfold get?
  dsimp only
  induction entries with
  | nil => exact ⟨nofun, nofun⟩
  | cons head rest inductionHypothesis =>
    obtain ⟨other, kept⟩ := head
    obtain ⟨headFirst, restOrdered⟩ := List.pairwise_cons.mp ordered
    rw [List.lookup_cons]
    by_cases same : key = other
    · rw [same, beq_self_eq_true]
      dsimp only
      rw [Option.some.injEq, List.mem_cons, Prod.mk.injEq]
      constructor
      · rintro rfl
        exact .inl ⟨rfl, rfl⟩
      · rintro (⟨-, rfl⟩ | inRest)
        · rfl
        · exact absurd (headFirst _ inRest) (lt_irrefl other)
    · rw [beq_false_of_ne same]
      dsimp only
      rw [inductionHypothesis restOrdered, List.mem_cons, Prod.mk.injEq]
      exact ⟨.inr, fun member => member.resolve_left fun isHead => same isHead.1⟩

theorem ext_get? (same : ∀ key value, first.get? key = some value ↔ second.get? key = some value) :
    first = second := by
  have distinct : ∀ map : SortedMap Key Value, map.entries.Nodup := fun map =>
    map.ordered.imp fun {one other} before isSame => absurd (isSame ▸ before) (lt_irrefl one.1)
  have permuted : first.entries.Perm second.entries :=
    (List.perm_ext_iff_of_nodup (distinct first) (distinct second)).mpr fun entry =>
      get?_eq_some_iff.symm.trans ((same entry.1 entry.2).trans get?_eq_some_iff)
  refine ext_entries (permuted.eq_of_pairwise (fun one other _ _ before after => ?_)
    first.ordered second.ordered)
  exact absurd (before.trans after) (lt_irrefl one.1)

/-! ### Inserting -/

def insertInto (key : Key) (value : Value) : List (Key × Value) → List (Key × Value)
  | [] => [(key, value)]
  | (other, kept) :: rest =>
    if key < other then (key, value) :: (other, kept) :: rest
    else if key = other then (key, value) :: rest
    else (other, kept) :: insertInto key value rest

variable {entries : List (Key × Value)} {entry : Key × Value}

theorem mem_insertInto (ordered : entries.Pairwise fun first second => first.1 < second.1) :
    entry ∈ insertInto key value entries ↔
      entry = (key, value) ∨ entry ∈ entries ∧ entry.1 ≠ key := by
  induction entries with
  | nil => simp [insertInto]
  | cons head rest inductionHypothesis =>
    obtain ⟨other, kept⟩ := head
    obtain ⟨headFirst, restOrdered⟩ := List.pairwise_cons.mp ordered
    unfold insertInto
    split
    · rename_i before
      have later : ∀ entry ∈ (other, kept) :: rest, entry.1 ≠ key := by
        refine List.forall_mem_cons.mpr ⟨before.ne', fun entry member => ?_⟩
        exact (before.trans (headFirst entry member)).ne'
      rw [List.mem_cons]
      exact or_congr_right ⟨fun member => ⟨member, later entry member⟩, And.left⟩
    · split
      · rename_i same
        rw [List.mem_cons, List.mem_cons]
        refine or_congr_right ⟨fun member => ⟨.inr member, ?_⟩, ?_⟩
        · rw [same]
          exact (headFirst entry member).ne'
        · rintro ⟨rfl | member, differs⟩
          · exact absurd same.symm differs
          · exact member
      · rename_i notBefore notSame
        rw [List.mem_cons, inductionHypothesis restOrdered, List.mem_cons]
        constructor
        · rintro (rfl | isNew | ⟨member, differs⟩)
          · exact .inr ⟨.inl rfl, Ne.symm notSame⟩
          · exact .inl isNew
          · exact .inr ⟨.inr member, differs⟩
        · rintro (isNew | ⟨isHead | member, differs⟩)
          · exact .inr (.inl isNew)
          · exact .inl isHead
          · exact .inr (.inr ⟨member, differs⟩)

theorem ordered_insertInto (ordered : entries.Pairwise fun first second => first.1 < second.1) :
    (insertInto key value entries).Pairwise fun first second => first.1 < second.1 := by
  induction entries with
  | nil => exact List.pairwise_singleton _ _
  | cons head rest inductionHypothesis =>
    obtain ⟨other, kept⟩ := head
    obtain ⟨headFirst, restOrdered⟩ := List.pairwise_cons.mp ordered
    unfold insertInto
    split
    · rename_i before
      refine List.pairwise_cons.mpr ⟨List.forall_mem_cons.mpr ⟨before, fun entry member => ?_⟩,
        ordered⟩
      exact before.trans (headFirst entry member)
    · split
      · rename_i same
        rw [same]
        exact List.pairwise_cons.mpr ⟨headFirst, restOrdered⟩
      · rename_i notBefore notSame
        refine List.pairwise_cons.mpr ⟨fun entry member => ?_, inductionHypothesis restOrdered⟩
        rcases (mem_insertInto restOrdered).mp member with rfl | ⟨inRest, -⟩
        · exact lt_of_le_of_ne (not_lt.mp notBefore) (Ne.symm notSame)
        · exact headFirst entry inRest

def insert (map : SortedMap Key Value) (key : Key) (value : Value) : SortedMap Key Value :=
  ⟨insertInto key value map.entries, ordered_insertInto map.ordered⟩

theorem mem_insert :
    entry ∈ (map.insert key value).entries ↔
      entry = (key, value) ∨ entry ∈ map.entries ∧ entry.1 ≠ key :=
  mem_insertInto map.ordered

theorem entries_insert_of_last (last : ∀ entry ∈ map.entries, entry.1 < key) :
    (map.insert key value).entries = map.entries ++ [(key, value)] := by
  obtain ⟨entries, ordered⟩ := map
  unfold insert
  dsimp only at *
  clear ordered
  induction entries with
  | nil => rfl
  | cons head rest inductionHypothesis =>
    obtain ⟨before, restBefore⟩ := List.forall_mem_cons.mp last
    unfold insertInto
    rw [if_neg before.not_gt, if_neg before.ne', inductionHypothesis restBefore, List.cons_append]

/-! ### A map of a list -/

def ofList (entries : List (Key × Value)) : SortedMap Key Value :=
  entries.foldl (fun map entry => map.insert entry.1 entry.2) empty

theorem mem_keys_foldl :
    key ∈ (entries.foldl (fun map entry => map.insert entry.1 entry.2) map).entries.map Prod.fst ↔
      key ∈ map.entries.map Prod.fst ∨ key ∈ entries.map Prod.fst := by
  induction entries generalizing map with
  | nil => simp
  | cons head rest inductionHypothesis =>
    have inserted : key ∈ (map.insert head.1 head.2).entries.map Prod.fst ↔
        key = head.1 ∨ key ∈ map.entries.map Prod.fst := by
      simp only [List.mem_map, mem_insert]
      constructor
      · rintro ⟨entry, rfl | ⟨member, -⟩, rfl⟩
        · exact .inl rfl
        · exact .inr ⟨entry, member, rfl⟩
      · rintro (rfl | ⟨entry, member, rfl⟩)
        · exact ⟨_, .inl rfl, rfl⟩
        · by_cases same : entry.1 = head.1
          · exact ⟨_, .inl rfl, same.symm⟩
          · exact ⟨entry, .inr ⟨member, same⟩, rfl⟩
    rw [List.foldl_cons, inductionHypothesis, inserted, List.map_cons, List.mem_cons]
    tauto

theorem mem_keys_ofList :
    key ∈ (ofList entries).entries.map Prod.fst ↔ key ∈ entries.map Prod.fst := by
  unfold ofList
  rw [mem_keys_foldl]
  exact or_iff_right List.not_mem_nil

theorem mem_of_mem_foldl
    (member : entry ∈ (entries.foldl (fun map entry => map.insert entry.1 entry.2) map).entries) :
    entry ∈ map.entries ∨ entry ∈ entries := by
  induction entries generalizing map with
  | nil => exact .inl member
  | cons head rest inductionHypothesis =>
    rcases inductionHypothesis member with inMap | inRest
    · rcases mem_insert.mp inMap with isHead | ⟨wasThere, -⟩
      · exact .inr (isHead ▸ List.mem_cons_self)
      · exact .inl wasThere
    · exact .inr (List.mem_cons_of_mem _ inRest)

theorem mem_of_mem_ofList (member : entry ∈ (ofList entries).entries) : entry ∈ entries :=
  (mem_of_mem_foldl member).resolve_left List.not_mem_nil

theorem get?_ofList_of_unique (member : (key, value) ∈ entries)
    (unique : ∀ other, (key, other) ∈ entries → other = value) :
    (ofList entries).get? key = some value := by
  obtain ⟨entry, isEntry, rfl⟩ :=
    List.mem_map.mp (mem_keys_ofList.mpr (List.mem_map_of_mem member))
  have isValue : entry.2 = value := unique entry.2 (mem_of_mem_ofList isEntry)
  rw [get?_eq_some_iff, ← isValue]
  exact isEntry

theorem get?_ofList_of_notMem (absent : key ∉ entries.map Prod.fst) :
    (ofList entries).get? key = none := by
  refine Option.eq_none_iff_forall_not_mem.mpr fun value isRead => absent ?_
  exact List.mem_map_of_mem (mem_of_mem_ofList (get?_eq_some_iff.mp isRead))

theorem entries_foldl_of_ordered
    (ordered : (map.entries ++ entries).Pairwise fun first second => first.1 < second.1) :
    (entries.foldl (fun map entry => map.insert entry.1 entry.2) map).entries =
      map.entries ++ entries := by
  induction entries generalizing map with
  | nil => exact (List.append_nil _).symm
  | cons head rest inductionHypothesis =>
    have last : ∀ entry ∈ map.entries, entry.1 < head.1 := fun entry member =>
      (List.pairwise_append.mp ordered).2.2 entry member head List.mem_cons_self
    have inserted : (map.insert head.1 head.2).entries = map.entries ++ [head] :=
      entries_insert_of_last last
    rw [List.foldl_cons, inductionHypothesis (by rw [inserted, List.append_assoc]; exact ordered),
      inserted, List.append_assoc, List.singleton_append]

theorem ofList_entries (map : SortedMap Key Value) : ofList map.entries = map := by
  have ordered : ((empty : SortedMap Key Value).entries ++ map.entries).Pairwise
      fun first second => first.1 < second.1 := map.ordered
  exact ext_entries (entries_foldl_of_ordered ordered)

end SortedMap

end Twalk
