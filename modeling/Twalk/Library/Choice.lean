/-
This file is the theory of choosing from a list that may come in any order and name an
entry more than once: keeping one entry for each key, and taking the least entry that a
test admits from the sorted list. What is chosen depends on the entries alone.
-/

import Mathlib.Data.List.Sort

namespace Twalk

variable {Entry Key : Type}

/-! ### One entry for each key -/

variable {entries : List Entry}

section Once

variable [DecidableEq Key] (key : Entry → Key)

def onceBy (seen : List Key) : List Entry → List Entry
  | [] => []
  | entry :: rest =>
    if key entry ∈ seen then onceBy seen rest else entry :: onceBy (key entry :: seen) rest

variable {key}

theorem mem_of_mem_onceBy {seen : List Key} {entry : Entry}
    (member : entry ∈ onceBy key seen entries) : entry ∈ entries := by
  induction entries generalizing seen with
  | nil => exact member
  | cons head rest inductionHypothesis =>
    unfold onceBy at member
    split at member
    · exact List.mem_cons_of_mem head (inductionHypothesis member)
    · rcases List.mem_cons.mp member with rfl | inRest
      · exact List.mem_cons_self
      · exact List.mem_cons_of_mem head (inductionHypothesis inRest)

theorem nodup_onceBy (seen : List Key) (entries : List Entry) :
    ((onceBy key seen entries).map key).Nodup ∧
      ∀ before ∈ seen, before ∉ (onceBy key seen entries).map key := by
  induction entries generalizing seen with
  | nil => exact ⟨List.nodup_nil, fun _ _ => List.not_mem_nil⟩
  | cons head rest inductionHypothesis =>
    unfold onceBy
    split
    · exact inductionHypothesis seen
    · rename_i unseen
      obtain ⟨distinct, fresh⟩ := inductionHypothesis (key head :: seen)
      refine ⟨List.nodup_cons.mpr ⟨fresh _ List.mem_cons_self, distinct⟩, ?_⟩
      intro before isSeen isKept
      rcases List.mem_cons.mp isKept with rfl | inRest
      · exact unseen isSeen
      · exact fresh before (List.mem_cons_of_mem _ isSeen) inRest

theorem exists_mem_onceBy {seen : List Key} {entry : Entry} (member : entry ∈ entries)
    (unseen : key entry ∉ seen) :
    ∃ kept ∈ onceBy key seen entries, key kept = key entry := by
  induction entries generalizing seen with
  | nil => exact absurd member List.not_mem_nil
  | cons head rest inductionHypothesis =>
    unfold onceBy
    by_cases same : key entry = key head
    · rw [if_neg (same ▸ unseen)]
      exact ⟨head, List.mem_cons_self, same.symm⟩
    · have inRest : entry ∈ rest := by
        rcases List.mem_cons.mp member with rfl | inRest
        · exact absurd rfl same
        · exact inRest
      split
      · exact inductionHypothesis inRest unseen
      · have stillUnseen : key entry ∉ key head :: seen := fun before =>
          (List.mem_cons.mp before).elim same unseen
        obtain ⟨kept, isKept, sameKey⟩ := inductionHypothesis inRest stillUnseen
        exact ⟨kept, List.mem_cons_of_mem head isKept, sameKey⟩

end Once

/-! ### The least entry -/

section Least

variable (before : Entry → Entry → Prop) [DecidableRel before] [IsTrans Entry before]
  [Std.Total before] (admits : Entry → Bool)

theorem least_of_find?_insertionSort {least : Entry}
    (found : (entries.insertionSort before).find? admits = some least) :
    least ∈ entries ∧ admits least = true ∧
      ∀ entry ∈ entries, admits entry = true → before least entry := by
  have ordered := List.pairwise_insertionSort before entries
  obtain ⟨admitted, front, back, isSorted, misses⟩ := List.find?_eq_some_iff_append.mp found
  have sorted : ∀ {entry}, entry ∈ entries.insertionSort before ↔ entry ∈ entries :=
    (List.perm_insertionSort before entries).mem_iff
  refine ⟨sorted.mp (List.mem_of_find?_eq_some found), admitted, fun entry member isAdmitted => ?_⟩
  have isThere := sorted.mpr member
  rw [isSorted] at isThere ordered
  rcases List.mem_append.mp isThere with early | later
  · have missed := misses entry early
    rw [isAdmitted] at missed
    cases missed
  · rcases List.mem_cons.mp later with rfl | after
    · exact (Std.Total.total entry entry).elim id id
    · exact (List.pairwise_cons.mp (List.pairwise_append.mp ordered).2.1).1 entry after

omit [IsTrans Entry before] [Std.Total before] in
theorem find?_insertionSort_eq_none_iff :
    (entries.insertionSort before).find? admits = none ↔
      ∀ entry ∈ entries, admits entry = false := by
  rw [List.find?_eq_none]
  refine forall_congr' fun entry => ?_
  rw [(List.perm_insertionSort before entries).mem_iff, Bool.not_eq_true]

theorem find?_insertionSort_congr {first second : List Entry}
    (antisymmetric : ∀ one ∈ first, ∀ other ∈ second, before one other → before other one →
      one = other)
    (same : ∀ entry, admits entry = true → (entry ∈ first ↔ entry ∈ second)) :
    (first.insertionSort before).find? admits = (second.insertionSort before).find? admits := by
  cases found : (first.insertionSort before).find? admits with
  | none =>
    rw [find?_insertionSort_eq_none_iff] at found
    refine ((find?_insertionSort_eq_none_iff before admits).mpr fun entry member => ?_).symm
    cases isAdmitted : admits entry with
    | false => rfl
    | true => rw [← found entry ((same entry isAdmitted).mpr member), isAdmitted]
  | some least =>
    obtain ⟨isFirst, admitted, isLeast⟩ := least_of_find?_insertionSort before admits found
    cases foundSecond : (second.insertionSort before).find? admits with
    | none =>
      rw [find?_insertionSort_eq_none_iff] at foundSecond
      have refused := foundSecond least ((same least admitted).mp isFirst)
      rw [admitted] at refused
      cases refused
    | some other =>
      obtain ⟨isSecond, otherAdmitted, otherLeast⟩ :=
        least_of_find?_insertionSort before admits foundSecond
      rw [antisymmetric least isFirst other isSecond
        (isLeast other ((same other otherAdmitted).mpr isSecond) otherAdmitted)
        (otherLeast least ((same least admitted).mp isFirst) admitted)]

end Least

end Twalk
