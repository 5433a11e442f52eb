/-
This file is the theory of a rolling buffer. A reader of a log keeps what came last, as far
as a limit allows, and once it is full it drops its oldest entry for each one that arrives.
What it then makes of the entries it kept is what it would have made of the whole log
exactly when nothing it cannot use took a place of the buffer.
-/

import Mathlib.Data.List.Basic

namespace Twalk

variable {Entry Value : Type}

/-! ### What came last -/

def lastFew (limit : Nat) (log : List Entry) : List Entry := log.drop (log.length - limit)

def beforeLastFew (limit : Nat) (log : List Entry) : List Entry := log.take (log.length - limit)

theorem beforeLastFew_append_lastFew (limit : Nat) (log : List Entry) :
    beforeLastFew limit log ++ lastFew limit log = log :=
  List.take_append_drop _ _

@[simp] theorem lastFew_nil (limit : Nat) : lastFew limit ([] : List Entry) = [] := by
  simp [lastFew]

variable {limit : Nat} {log : List Entry}

theorem lastFew_eq_self (fits : log.length ≤ limit) :
    lastFew limit log = log := by
  unfold lastFew
  rw [Nat.sub_eq_zero_of_le fits, List.drop_zero]

theorem length_lastFew (long : limit ≤ log.length) :
    (lastFew limit log).length = limit := by
  unfold lastFew
  rw [List.length_drop]
  omega

theorem mem_of_mem_lastFew {entry : Entry} (member : entry ∈ lastFew limit log) : entry ∈ log :=
  List.mem_of_mem_drop member

theorem lastFew_one_concat (log : List Entry) (entry : Entry) :
    lastFew 1 (log ++ [entry]) = [entry] := by
  unfold lastFew
  simp

/-! ### The buffer -/

def push (limit : Nat) (buffer : List Entry) (entry : Entry) : List Entry :=
  if buffer.length = limit then buffer.tail ++ [entry] else buffer ++ [entry]

theorem push_lastFew (positive : 0 < limit) (log : List Entry) (entry : Entry) :
    push limit (lastFew limit log) entry = lastFew limit (log ++ [entry]) := by
  rcases Nat.lt_or_ge log.length limit with short | long
  · have fits : (log ++ [entry]).length ≤ limit := by
      rw [List.length_append, List.length_singleton]
      exact short
    have unfilled : log.length ≠ limit := Nat.ne_of_lt short
    rw [lastFew_eq_self (Nat.le_of_lt short), lastFew_eq_self fits, push, if_neg unfilled]
  · rw [push, if_pos (length_lastFew long)]
    unfold lastFew
    have next : (log ++ [entry]).length - limit = log.length - limit + 1 := by
      rw [List.length_append, List.length_singleton]
      omega
    rw [next, List.tail_drop, List.drop_append_of_le_length (by omega)]

/-! ### What the buffer is read as -/

/-- Reading the last entries of the part of a log that was seen, newest first, gives the newest
values of the whole log, and says rightly whether there are more, exactly when nothing of value
was left unseen, and the entries that were kept all have one where an earlier one was dropped. -/
theorem filterMap_lastFew_iff (positive : 0 < limit) (value : Entry → Option Value)
    {seen unseen : List Entry}
    (apart : ∀ first ∈ seen, ∀ second ∈ unseen, ∀ shared, value first = some shared →
      value second ≠ some shared) :
    ((lastFew limit seen).reverse.filterMap value =
          (((seen ++ unseen).filterMap value).reverse).take limit ∧
        (limit < seen.length ↔ limit < ((seen ++ unseen).filterMap value).length)) ↔
      (∀ entry ∈ unseen, value entry = none) ∧
        (seen.length ≤ limit ∨ (∀ entry ∈ lastFew limit seen, value entry ≠ none) ∧
          ∃ entry ∈ beforeLastFew limit seen, value entry ≠ none) := by
  have split : seen.filterMap value =
      (beforeLastFew limit seen).filterMap value ++ (lastFew limit seen).filterMap value := by
    rw [← List.filterMap_append, beforeLastFew_append_lastFew]
  have allValued : limit ≤ seen.length →
      ((∀ entry ∈ lastFew limit seen, value entry ≠ none) ↔
        ((lastFew limit seen).filterMap value).length = limit) := by
    intro long
    have counted : (lastFew limit seen).countP (fun entry => (value entry).isSome) =
        (lastFew limit seen).length ↔ ∀ entry ∈ lastFew limit seen, (value entry).isSome :=
      List.countP_eq_length
    rw [length_lastFew long] at counted
    rw [List.length_filterMap_eq_countP, counted]
    simp only [ne_eq, Option.isSome_iff_ne_none]
  constructor
  · rintro ⟨same, more⟩
    have unvalued : ∀ entry ∈ unseen, value entry = none := by
      -- The newest value of the whole log would be one that nothing seen has.
      by_contra some_unseen
      have nonempty : unseen.filterMap value ≠ [] := by
        intro empty
        exact some_unseen fun entry member => List.filterMap_eq_nil_iff.mp empty entry member
      obtain ⟨shared, rest, isCons⟩ := List.exists_cons_of_ne_nil
        (List.reverse_ne_nil_iff.mpr nonempty)
      obtain ⟨count, rfl⟩ := Nat.exists_eq_succ_of_ne_zero (Nat.ne_of_gt positive)
      rw [List.filterMap_append, List.reverse_append, isCons, List.cons_append,
        List.take_succ_cons] at same
      have shown : shared ∈ (lastFew (count + 1) seen).reverse.filterMap value :=
        same ▸ List.mem_cons_self
      obtain ⟨first, member, isShared⟩ := List.mem_filterMap.mp shown
      have late : shared ∈ (unseen.filterMap value).reverse := isCons ▸ List.mem_cons_self
      obtain ⟨second, unseenToo, isSharedToo⟩ := List.mem_filterMap.mp (List.mem_reverse.mp late)
      exact apart first (mem_of_mem_lastFew (List.mem_reverse.mp member)) second unseenToo shared
        isShared isSharedToo
    refine ⟨unvalued, ?_⟩
    rw [List.filterMap_append, List.filterMap_eq_nil_iff.mpr unvalued, List.append_nil] at same more
    rcases Nat.lt_or_ge limit seen.length with long | fits
    · right
      have many := more.mp long
      have full := congrArg List.length same
      rw [List.filterMap_reverse, List.length_reverse, List.length_take, List.length_reverse,
        Nat.min_eq_left (Nat.le_of_lt many)] at full
      refine ⟨(allValued (Nat.le_of_lt long)).mpr full, ?_⟩
      rw [split, List.length_append, full] at many
      have some_earlier : (beforeLastFew limit seen).filterMap value ≠ [] := by
        intro empty
        rw [empty] at many
        exact absurd many (by simp)
      obtain ⟨shared, member⟩ := List.exists_mem_of_ne_nil _ some_earlier
      obtain ⟨entry, isEarlier, isShared⟩ := List.mem_filterMap.mp member
      exact ⟨entry, isEarlier, fun isNone => by rw [isNone] at isShared; cases isShared⟩
    · exact .inl fits
  · rintro ⟨unvalued, fits | ⟨valued, entry, isEarlier, hasValue⟩⟩
    · rw [List.filterMap_append, List.filterMap_eq_nil_iff.mpr unvalued, List.append_nil,
        lastFew_eq_self fits, List.filterMap_reverse]
      have few : (seen.filterMap value).length ≤ limit :=
        Nat.le_trans (List.length_filterMap_le _ _) fits
      refine ⟨(List.take_of_length_le (by simpa using few)).symm, ?_⟩
      exact iff_of_false (Nat.not_lt.mpr fits) (Nat.not_lt.mpr few)
    · have long : limit < seen.length := by
        by_contra fits
        have empty : beforeLastFew limit seen = [] := by
          unfold beforeLastFew
          rw [Nat.sub_eq_zero_of_le (Nat.not_lt.mp fits), List.take_zero]
        rw [empty] at isEarlier
        cases isEarlier
      have full := (allValued (Nat.le_of_lt long)).mp valued
      rw [List.filterMap_append, List.filterMap_eq_nil_iff.mpr unvalued, List.append_nil, split]
      refine ⟨?_, iff_of_true long ?_⟩
      · rw [List.reverse_append, List.take_append_of_le_length (by simp [full]),
          List.take_of_length_le (by simp [full]), List.filterMap_reverse]
      · obtain ⟨shared, isShared⟩ := Option.ne_none_iff_exists'.mp hasValue
        have some_earlier : shared ∈ (beforeLastFew limit seen).filterMap value :=
          List.mem_filterMap.mpr ⟨entry, isEarlier, isShared⟩
        rw [List.length_append, full]
        have counted := List.length_pos_of_mem some_earlier
        omega

end Twalk
