/-
This file is the gathering of items under their keys, in the order in which the keys first come:
each key has one bucket, each item is in the bucket of its key, and a bucket has its items in the
order they came.
-/

import Mathlib.Data.List.Induction
import Mathlib.Data.List.Nodup
import Mathlib.Data.List.Perm.Basic

namespace Twalk

/-- What was gathered under one key, which is never nothing. -/
structure Bucket (Key Item : Type) where
  key : Key
  first : Item
  rest : List Item

namespace Bucket

variable {Key Item : Type}

def items (bucket : Bucket Key Item) : List Item := bucket.first :: bucket.rest

variable [DecidableEq Key]

def push (buckets : List (Bucket Key Item)) (key : Key) (item : Item) : List (Bucket Key Item) :=
  match buckets with
  | [] => [⟨key, item, []⟩]
  | bucket :: others =>
    if bucket.key = key then { bucket with rest := bucket.rest ++ [item] } :: others
    else bucket :: push others key item

def gather (keyOf : Item → Key) (items : List Item) : List (Bucket Key Item) :=
  items.foldl (fun buckets item => push buckets (keyOf item) item) []

theorem items_push (buckets : List (Bucket Key Item)) (key : Key) (item : Item) :
    ((push buckets key item).flatMap items).Perm (item :: buckets.flatMap items) := by
  induction buckets with
  | nil => exact List.Perm.refl _
  | cons bucket others inductionHypothesis =>
    unfold push
    split_ifs
    · have grown : items { bucket with rest := bucket.rest ++ [item] } = bucket.items ++ [item] :=
        rfl
      rw [List.flatMap_cons, List.flatMap_cons, grown, List.append_assoc]
      exact List.perm_middle
    · rw [List.flatMap_cons, List.flatMap_cons]
      exact (inductionHypothesis.append_left bucket.items).trans List.perm_middle

theorem items_gather (keyOf : Item → Key) (gathered : List Item) :
    ((gather keyOf gathered).flatMap items).Perm gathered := by
  induction gathered using List.reverseRecOn with
  | nil => exact List.Perm.refl _
  | append_singleton front item inductionHypothesis =>
    unfold gather
    rw [List.foldl_append]
    exact ((items_push _ (keyOf item) item).trans (inductionHypothesis.cons item)).trans
      (List.perm_append_singleton item front).symm

variable {buckets : List (Bucket Key Item)} {item : Item}

theorem mem_keys_push {key other : Key} :
    other ∈ (push buckets key item).map Bucket.key ↔
      other = key ∨ other ∈ buckets.map Bucket.key := by
  induction buckets with
  | nil => simp [push]
  | cons bucket others inductionHypothesis =>
    unfold push
    split_ifs with same
    · rw [List.map_cons, List.map_cons, ← same]
      simp
    · rw [List.map_cons, List.map_cons, List.mem_cons, List.mem_cons, inductionHypothesis]
      exact or_left_comm

theorem nodup_keys_push (nodup : (buckets.map Bucket.key).Nodup) (key : Key) (item : Item) :
    ((push buckets key item).map Bucket.key).Nodup := by
  induction buckets with
  | nil => exact List.nodup_singleton key
  | cons bucket others inductionHypothesis =>
    obtain ⟨fresh, rest⟩ := List.nodup_cons.mp nodup
    unfold push
    split_ifs with same
    · exact nodup
    · refine List.nodup_cons.mpr ⟨fun member => ?_, inductionHypothesis rest⟩
      rcases mem_keys_push.mp member with isKey | member
      · exact same isKey
      · exact fresh member

theorem nodup_keys_gather (keyOf : Item → Key) (gathered : List Item) :
    ((gather keyOf gathered).map Bucket.key).Nodup := by
  induction gathered using List.reverseRecOn with
  | nil => exact List.nodup_nil
  | append_singleton front item inductionHypothesis =>
    unfold gather
    rw [List.foldl_append]
    exact nodup_keys_push inductionHypothesis (keyOf item) item

variable {bucket : Bucket Key Item}

theorem mem_push (nodup : (buckets.map Bucket.key).Nodup) {key : Key}
    (member : bucket ∈ push buckets key item) :
    (bucket ∈ buckets ∧ bucket.key ≠ key) ∨
      (bucket.key = key ∧ bucket.items = [item] ∧ key ∉ buckets.map Bucket.key) ∨
        ∃ before ∈ buckets, before.key = key ∧ bucket.key = key ∧
          bucket.items = before.items ++ [item] := by
  induction buckets with
  | nil =>
    rw [show bucket = ⟨key, item, []⟩ from List.mem_singleton.mp member]
    exact Or.inr (Or.inl ⟨rfl, rfl, List.not_mem_nil⟩)
  | cons head others inductionHypothesis =>
    obtain ⟨fresh, rest⟩ := List.nodup_cons.mp nodup
    unfold push at member
    split_ifs at member with same
    · rcases List.mem_cons.mp member with rfl | inOthers
      · exact Or.inr (Or.inr ⟨head, List.mem_cons_self, same, same, rfl⟩)
      · refine Or.inl ⟨List.mem_cons_of_mem head inOthers, fun isKey => fresh ?_⟩
        rw [same, ← isKey]
        exact List.mem_map_of_mem inOthers
    · rcases List.mem_cons.mp member with rfl | inOthers
      · exact Or.inl ⟨List.mem_cons_self, same⟩
      · rcases inductionHypothesis rest inOthers with ⟨earlier, apart⟩ | ⟨isKey, alone, absent⟩ |
          ⟨before, earlier, wasKey, isKey, grown⟩
        · exact Or.inl ⟨List.mem_cons_of_mem head earlier, apart⟩
        · refine Or.inr (Or.inl ⟨isKey, alone, fun isMember => ?_⟩)
          rcases List.mem_cons.mp isMember with isHead | isMember
          · exact same isHead.symm
          · exact absent isMember
        · exact Or.inr (Or.inr ⟨before, List.mem_cons_of_mem head earlier, wasKey, isKey, grown⟩)

theorem items_of_mem_gather (keyOf : Item → Key) (gathered : List Item)
    (member : bucket ∈ gather keyOf gathered) :
    bucket.items = gathered.filter (keyOf · = bucket.key) := by
  induction gathered using List.reverseRecOn generalizing bucket with
  | nil => cases member
  | append_singleton front item inductionHypothesis =>
    have isPushed : gather keyOf (front ++ [item]) =
        push (gather keyOf front) (keyOf item) item := by
      unfold gather
      rw [List.foldl_append]
      rfl
    rw [isPushed] at member
    rw [List.filter_append, List.filter_singleton]
    rcases mem_push (nodup_keys_gather keyOf front) member with ⟨earlier, apart⟩ |
      ⟨isKey, alone, absent⟩ | ⟨before, earlier, wasKey, isKey, grown⟩
    · rw [inductionHypothesis earlier]
      simp [Ne.symm apart]
    · have none : front.filter (keyOf · = keyOf item) = [] := by
        refine List.filter_eq_nil_iff.mpr fun other isFront isSame => absent ?_
        -- An item of that key would be in a bucket, which has that key.
        have gathered := (items_gather keyOf front).symm.subset isFront
        obtain ⟨holder, isBucket, isItem⟩ := List.mem_flatMap.mp gathered
        rw [inductionHypothesis isBucket] at isItem
        have isHolder := of_decide_eq_true (List.mem_filter.mp isItem).2
        rw [← of_decide_eq_true isSame, isHolder]
        exact List.mem_map_of_mem isBucket
      rw [alone, isKey, none]
      simp
    · rw [grown, inductionHypothesis earlier, wasKey, isKey]
      simp

theorem keyOf_of_mem (keyOf : Item → Key) {gathered : List Item}
    (member : bucket ∈ gather keyOf gathered) (isItem : item ∈ bucket.items) :
    keyOf item = bucket.key := by
  rw [items_of_mem_gather keyOf gathered member] at isItem
  exact of_decide_eq_true (List.mem_filter.mp isItem).2

theorem together_iff (keyOf : Item → Key) {gathered : List Item} {one other : Item}
    (isOne : one ∈ gathered) (isOther : other ∈ gathered) :
    (∃ bucket ∈ gather keyOf gathered, one ∈ bucket.items ∧ other ∈ bucket.items) ↔
      keyOf one = keyOf other := by
  constructor
  · rintro ⟨bucket, member, oneIn, otherIn⟩
    exact (keyOf_of_mem keyOf member oneIn).trans (keyOf_of_mem keyOf member otherIn).symm
  · intro same
    obtain ⟨bucket, member, oneIn⟩ :=
      List.mem_flatMap.mp ((items_gather keyOf gathered).symm.subset isOne)
    refine ⟨bucket, member, oneIn, ?_⟩
    rw [items_of_mem_gather keyOf gathered member]
    exact List.mem_filter.mpr ⟨isOther,
      decide_eq_true (same.symm.trans (keyOf_of_mem keyOf member oneIn))⟩

end Bucket

end Twalk
