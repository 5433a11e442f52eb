/-
This file is the order of dates and of texts of a fixed width. A day comes before another when
its year does, or its month in the year, or its day in the month, and numbers that are written
with as many digits are in the order of their texts. An instant that is written with fields of a
fixed width, from the year down, is therefore in the order of its text.
-/

import Twalk.Library.Rfc3339

namespace Twalk.Rfc3339

/-! ### Days -/

def Date.Before (first second : Date) : Prop :=
  first.year < second.year ∨ first.year = second.year ∧
    (first.month < second.month ∨ first.month = second.month ∧ first.day < second.day)

theorem before_of_dayNumber_lt {first second : Date} (valid : first.Valid)
    (validToo : second.Valid) (earlier : dayNumber first < dayNumber second) :
    first.Before second := by
  have years := marchYear_le valid validToo earlier.le
  obtain ⟨firstMonth, lastMonth, -, -⟩ := id valid
  obtain ⟨firstMonthToo, lastMonthToo, -, -⟩ := id validToo
  unfold Date.Before
  rcases lt_or_eq_of_le years with earlierYear | sameYear
  · -- Of two years from March, only January and February of the earlier are in the later's year.
    unfold Date.marchYear at earlierYear
    split at earlierYear <;> split at earlierYear <;> omega
  · rw [dayNumber_eq, dayNumber_eq, sameYear] at earlier
    have months := marchMonth_le valid validToo (show first.dayOfYear ≤ second.dayOfYear by omega)
    unfold Date.dayOfYear at earlier
    unfold Date.marchYear at sameYear
    rcases lt_or_eq_of_le months with earlierMonth | sameMonth
    · split at sameYear <;> split at sameYear <;> omega
    · rw [sameMonth] at earlier
      split at sameYear <;> split at sameYear <;> omega

theorem dayNumber_lt_iff {first second : Date} (valid : first.Valid) (validToo : second.Valid) :
    dayNumber first < dayNumber second ↔ first.Before second := by
  refine ⟨before_of_dayNumber_lt valid validToo, fun before => ?_⟩
  rcases lt_trichotomy (dayNumber first) (dayNumber second) with earlier | same | later
  · exact earlier
  · obtain rfl := dayNumber_injective valid validToo same
    unfold Date.Before at before
    omega
  · have after := before_of_dayNumber_lt validToo valid later
    unfold Date.Before at before after
    omega

/-! ### Digits -/

theorem digitChar_lt_iff {digit other : Nat} (small : digit < 10) (otherSmall : other < 10) :
    (digit.digitChar < other.digitChar ↔ digit < other) ∧
      (digit.digitChar = other.digitChar ↔ digit = other) := by
  have isValue := Nat.toNat_digitChar_of_lt_ten small
  have isOtherValue := Nat.toNat_digitChar_of_lt_ten otherSmall
  constructor
  · rw [Char.lt_def, UInt32.lt_iff_toNat_lt]
    change digit.digitChar.toNat < other.digitChar.toNat ↔ digit < other
    omega
  · rw [← Char.toNat_inj]
    omega

variable {place digit other rest otherRest : Nat}

theorem leading_lt_iff (fits : rest < place) (otherFits : otherRest < place) :
    digit * place + rest < other * place + otherRest ↔
      digit < other ∨ digit = other ∧ rest < otherRest := by
  rcases lt_trichotomy digit other with earlier | rfl | later
  · have whole := Nat.mul_le_mul_right place earlier
    rw [Nat.succ_mul] at whole
    omega
  · omega
  · have whole := Nat.mul_le_mul_right place later
    rw [Nat.succ_mul] at whole
    omega

theorem leading_eq_iff (fits : rest < place) (otherFits : otherRest < place) :
    digit * place + rest = other * place + otherRest ↔ digit = other ∧ rest = otherRest := by
  have less := @leading_lt_iff place digit other rest otherRest fits otherFits
  have more := @leading_lt_iff place other digit otherRest rest otherFits fits
  omega

theorem padded_append_lt_mod_iff (width value other : Nat) (back otherBack : List Char) :
    padded width value ++ back < padded width other ++ otherBack ↔
      value % 10 ^ width < other % 10 ^ width ∨
        value % 10 ^ width = other % 10 ^ width ∧ back < otherBack := by
  induction width with
  | zero =>
    rw [padded, padded, List.nil_append, List.nil_append, pow_zero, Nat.mod_one, Nat.mod_one]
    simp only [lt_irrefl, false_or, true_and]
  | succ width inductionHypothesis =>
    have isPlace : 0 < 10 ^ width := Nat.pow_pos (by decide)
    obtain ⟨less, same⟩ := digitChar_lt_iff (Nat.mod_lt (value / 10 ^ width) (by decide : 0 < 10))
      (Nat.mod_lt (other / 10 ^ width) (by decide : 0 < 10))
    rw [padded, padded, List.cons_append, List.cons_append, List.cons_lt_cons_iff, less, same,
      inductionHypothesis, mod_pow_succ value, mod_pow_succ other,
      leading_lt_iff (Nat.mod_lt _ isPlace) (Nat.mod_lt _ isPlace),
      leading_eq_iff (Nat.mod_lt _ isPlace) (Nat.mod_lt _ isPlace), or_assoc, and_or_left,
      and_assoc]

theorem padded_append_lt_iff {width value other : Nat} (fits : value < 10 ^ width)
    (otherFits : other < 10 ^ width) (back otherBack : List Char) :
    padded width value ++ back < padded width other ++ otherBack ↔
      value < other ∨ value = other ∧ back < otherBack := by
  rw [padded_append_lt_mod_iff, Nat.mod_eq_of_lt fits, Nat.mod_eq_of_lt otherFits]

end Twalk.Rfc3339
