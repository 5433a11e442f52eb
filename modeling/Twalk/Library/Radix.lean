/-
This file is the conversion of a number from one radix to another, digit by
digit. The digits of the result stand with the lowest first, and every digit
that is read multiplies what is there by the radix it is read in, and is added
to it: the carry runs through the digits that are there, and what is left of it
becomes new ones. A number's digits are therefore those it has whatever it was
read from, with a single zero where the number is nothing.
-/

import Mathlib.Data.Nat.Digits.Lemmas

namespace Twalk.Radix

variable {base factor : Nat}

/-! ### Carrying -/

def mulAdd (base factor : Nat) : List Nat → Nat → List Nat
  | [], carry => base.digits carry
  | digit :: rest, carry =>
    (carry + digit * factor) % base :: mulAdd base factor rest ((carry + digit * factor) / base)

/-- The digits of a number that is converted, where nothing is one zero. -/
def numeral (base value : Nat) : List Nat := if value = 0 then [0] else base.digits value

theorem numeral_of_pos {value : Nat} (positive : 0 < value) :
    numeral base value = base.digits value :=
  if_neg (Nat.ne_of_gt positive)

theorem mulAdd_digits (isBase : 1 < base) (isFactor : 0 < factor) (value carry : Nat) :
    mulAdd base factor (base.digits value) carry = base.digits (value * factor + carry) := by
  induction value using Nat.strongRecOn generalizing carry with
  | ind value inductionHypothesis =>
    rcases Nat.eq_zero_or_pos value with rfl | positive
    · rw [Nat.digits_zero, mulAdd, Nat.zero_mul, Nat.zero_add]
    · have grows : 0 < value * factor + carry :=
        Nat.add_pos_left (Nat.mul_pos positive isFactor) carry
      have apart : value * factor + carry =
          (carry + value % base * factor) + base * (value / base * factor) := by
        calc value * factor + carry
            = (value % base + base * (value / base)) * factor + carry := by rw [Nat.mod_add_div]
          _ = _ := by ring
      rw [Nat.digits_def' isBase positive, mulAdd,
        inductionHypothesis _ (Nat.div_lt_self positive isBase), Nat.digits_def' isBase grows, apart,
        Nat.add_mul_mod_self_left, Nat.add_mul_div_left _ _ (Nat.lt_trans Nat.zero_lt_one isBase),
        Nat.add_comm (_ / base)]

theorem mulAdd_numeral (isBase : 1 < base) (isFactor : 0 < factor) (value carry : Nat) :
    mulAdd base factor (numeral base value) carry = numeral base (value * factor + carry) := by
  rcases Nat.eq_zero_or_pos value with rfl | positive
  · rw [numeral, if_pos rfl, mulAdd, mulAdd, Nat.zero_mul, Nat.zero_add, Nat.add_zero]
    rcases Nat.eq_zero_or_pos carry with rfl | some
    · rw [Nat.zero_mod, Nat.zero_div, Nat.digits_zero, numeral, if_pos rfl]
    · rw [numeral_of_pos some, Nat.digits_def' isBase some]
  · rw [numeral_of_pos positive, mulAdd_digits isBase isFactor,
      numeral_of_pos (Nat.add_pos_left (Nat.mul_pos positive isFactor) carry)]

/-! ### Reading a number -/

/-- The number that digits write, the highest first. -/
def value (factor : Nat) (digits : List Nat) : Nat := Nat.ofDigits factor digits.reverse

theorem value_concat (digits : List Nat) (digit : Nat) :
    value factor (digits ++ [digit]) = value factor digits * factor + digit := by
  rw [value, List.reverse_append, List.reverse_singleton, List.singleton_append, Nat.ofDigits_cons,
    value, Nat.mul_comm, Nat.add_comm]

theorem value_cons (digit : Nat) (rest : List Nat) :
    value factor (digit :: rest) = digit * factor ^ rest.length + value factor rest := by
  rw [value, Nat.ofDigits_reverse_cons, value, Nat.mul_comm, Nat.add_comm]

theorem value_lt (isFactor : 1 < factor) (digits : List Nat)
    (small : ∀ digit ∈ digits, digit < factor) : value factor digits < factor ^ digits.length := by
  rw [← List.length_reverse]
  exact Nat.ofDigits_lt_base_pow_length isFactor fun digit member =>
    small digit (List.mem_reverse.mp member)

theorem foldl_mulAdd (isBase : 1 < base) (isFactor : 0 < factor) (digits : List Nat) :
    digits.foldl (mulAdd base factor) [0] = numeral base (value factor digits) := by
  induction digits using List.reverseRecOn with
  | nil => rfl
  | append_singleton digits digit inductionHypothesis =>
    rw [List.foldl_concat, inductionHypothesis, mulAdd_numeral isBase isFactor, value_concat]

theorem digits_value (isBase : 1 < base) {first : Nat} {rest : List Nat} (positive : first ≠ 0)
    (small : ∀ digit ∈ first :: rest, digit < base) :
    (base.digits (value base (first :: rest))).reverse = first :: rest := by
  rw [value, Nat.digits_ofDigits base isBase _
    (fun digit member => small digit (List.mem_reverse.mp member)) ?_, List.reverse_reverse]
  intro nonempty
  rwa [List.getLast_reverse, List.head_cons]

theorem value_digits (number : Nat) : value base (base.digits number).reverse = number := by
  rw [value, List.reverse_reverse, Nat.ofDigits_digits]

theorem head_digits {number first : Nat} {rest : List Nat}
    (isNumeral : (base.digits number).reverse = first :: rest) : first ≠ 0 := by
  have positive : number ≠ 0 := by
    rintro rfl
    rw [Nat.digits_zero] at isNumeral
    cases isNumeral
  have last := Nat.getLast_digit_ne_zero base positive
  have isDigits : base.digits number = rest.reverse ++ [first] := by
    rw [← List.reverse_reverse (base.digits number), isNumeral, List.reverse_cons]
  simpa only [isDigits, List.getLast_append_singleton] using last

theorem length_digits (isBase : 1 < base) {number length : Nat} (reached : base ^ length ≤ number)
    (below : number < base ^ (length + 1)) : (base.digits number).length = length + 1 := by
  refine le_antisymm ((Nat.digits_length_le_iff isBase number).mpr below) ?_
  exact (Nat.lt_digits_length_iff isBase number).mpr reached

end Twalk.Radix
