/-
This file is how a byte is written as a percent sign and two hexadecimal digits, and read again.
The reading is that of the programs' number parser, which takes a sign and one digit for a
number of two places.
-/

import Twalk.Library.Utf8

namespace Twalk.Percent

/-! ### Two hexadecimal digits -/

/-- The value of a hexadecimal digit of either case. -/
def hexValue (byte : UInt8) : Option Nat :=
  let code := byte.toNat
  if 48 ≤ code ∧ code ≤ 57 then some (code - 48)
  else if 65 ≤ code ∧ code ≤ 70 then some (code - 55)
  else if 97 ≤ code ∧ code ≤ 102 then some (code - 87)
  else none

/-- The byte that two hexadecimal digits are. -/
def ofDigits (first second : UInt8) : Option UInt8 :=
  (hexValue first).bind fun high =>
    (hexValue second).map fun low => UInt8.ofNat (16 * high + low)

/-- The byte that a text of two bytes parses to as a hexadecimal number. A plus sign may stand in
front of the digits. -/
def fromHex (first second : UInt8) : Option UInt8 :=
  if first = 43 then (hexValue second).map UInt8.ofNat else ofDigits first second

theorem hexValue_plus : hexValue 43 = none := rfl

variable {first second byte : UInt8}

theorem fromHex_of_ofDigits (isDigits : ofDigits first second = some byte) :
    fromHex first second = some byte := by
  unfold fromHex
  rw [if_neg]
  · exact isDigits
  · rintro rfl
    exact nomatch isDigits

theorem fromHex_eq_none {second : UInt8} (noDigit : hexValue second = none) (first : UInt8) :
    fromHex first second = none := by
  unfold fromHex ofDigits
  rw [noDigit]
  split
  · rfl
  · cases hexValue first <;> rfl

theorem lt_of_hexValue {byte : UInt8} {value : Nat} (isDigit : hexValue byte = some value) :
    byte < 0x80 := by
  rw [UInt8.lt_iff_toNat_lt]
  show byte.toNat < 128
  unfold hexValue at isDigit
  dsimp only at isDigit
  split at isDigit
  · omega
  · split at isDigit
    · omega
    · split at isDigit
      · omega
      · exact nomatch isDigit

theorem lt_of_fromHex (parses : fromHex first second = some byte) :
    first < 0x80 ∧ second < 0x80 := by
  unfold fromHex at parses
  split at parses
  · rename_i isPlus
    obtain ⟨low, isLow, _⟩ := Option.map_eq_some_iff.mp parses
    exact ⟨isPlus ▸ by decide, lt_of_hexValue isLow⟩
  · obtain ⟨high, isHigh, later⟩ := Option.bind_eq_some_iff.mp parses
    obtain ⟨low, isLow, _⟩ := Option.map_eq_some_iff.mp later
    exact ⟨lt_of_hexValue isHigh, lt_of_hexValue isLow⟩

/-! ### Writing a byte -/

def upperDigit (value : Nat) : Char :=
  if value < 10 then Char.ofNat (48 + value) else Char.ofNat (55 + value)

def escaped (byte : UInt8) : List Char :=
  ['%', upperDigit (byte.toNat / 16), upperDigit (byte.toNat % 16)]

theorem hexValue_upperDigit {value : Nat} (small : value < 16) :
    ∃ byte, String.utf8EncodeChar (upperDigit value) = [byte] ∧ hexValue byte = some value := by
  have each : ∀ value < 16,
      String.utf8EncodeChar (upperDigit value) = [UInt8.ofNat (upperDigit value).toNat] ∧
        hexValue (UInt8.ofNat (upperDigit value).toNat) = some value := by decide
  exact ⟨_, each value small⟩

theorem ofDigits_escaped (byte : UInt8) :
    ∃ first second, Utf8.bytesOf (escaped byte) = [37, first, second] ∧
      ofDigits first second = some byte := by
  have below := byte.toNat_lt
  obtain ⟨first, isFirst, isHigh⟩ :=
    hexValue_upperDigit (Nat.div_lt_of_lt_mul (show byte.toNat < 16 * 16 from below))
  obtain ⟨second, isSecond, isLow⟩ :=
    hexValue_upperDigit (Nat.mod_lt byte.toNat (show 0 < 16 by decide))
  refine ⟨first, second, ?_, ?_⟩
  · unfold escaped
    rw [Utf8.bytesOf_cons, Utf8.bytesOf_cons, Utf8.bytesOf_cons, isFirst, isSecond]
    rfl
  · unfold ofDigits
    rw [isHigh, isLow]
    show some (UInt8.ofNat (16 * (byte.toNat / 16) + byte.toNat % 16)) = some byte
    rw [Nat.div_add_mod, UInt8.ofNat_toNat]

end Twalk.Percent
