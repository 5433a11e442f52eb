/-
This file is SHA-256 over the UTF-8 bytes of a text, rendered as lowercase
hexadecimal. Identifiers that several parties have to derive alike are such
digests; the programs use nothing of the function but that it is one.
-/

import Mathlib.Data.BitVec
import Twalk.Library.Text

namespace Twalk

namespace Sha256

/-! ### The compression function -/

/-- One word of the function's arithmetic. -/
abbrev Word := BitVec 32

def roundConstants : List Word := [
  0x428a2f98, 0x71374491, 0xb5c0fbcf, 0xe9b5dba5, 0x3956c25b, 0x59f111f1, 0x923f82a4, 0xab1c5ed5,
  0xd807aa98, 0x12835b01, 0x243185be, 0x550c7dc3, 0x72be5d74, 0x80deb1fe, 0x9bdc06a7, 0xc19bf174,
  0xe49b69c1, 0xefbe4786, 0x0fc19dc6, 0x240ca1cc, 0x2de92c6f, 0x4a7484aa, 0x5cb0a9dc, 0x76f988da,
  0x983e5152, 0xa831c66d, 0xb00327c8, 0xbf597fc7, 0xc6e00bf3, 0xd5a79147, 0x06ca6351, 0x14292967,
  0x27b70a85, 0x2e1b2138, 0x4d2c6dfc, 0x53380d13, 0x650a7354, 0x766a0abb, 0x81c2c92e, 0x92722c85,
  0xa2bfe8a1, 0xa81a664b, 0xc24b8b70, 0xc76c51a3, 0xd192e819, 0xd6990624, 0xf40e3585, 0x106aa070,
  0x19a4c116, 0x1e376c08, 0x2748774c, 0x34b0bcb5, 0x391c0cb3, 0x4ed8aa4a, 0x5b9cca4f, 0x682e6ff3,
  0x748f82ee, 0x78a5636f, 0x84c87814, 0x8cc70208, 0x90befffa, 0xa4506ceb, 0xbef9a3f7, 0xc67178f2]

structure Chain where
  a : Word
  b : Word
  c : Word
  d : Word
  e : Word
  f : Word
  g : Word
  h : Word

def Chain.start : Chain :=
  ⟨0x6a09e667, 0xbb67ae85, 0x3c6ef372, 0xa54ff53a, 0x510e527f, 0x9b05688c, 0x1f83d9ab, 0x5be0cd19⟩

def extendSchedule : Nat → List Word → List Word
  | 0, words => words
  | count + 1, words =>
    let near := words.getD 1 0
    let far := words.getD 14 0
    let nearMix := near.rotateRight 17 ^^^ near.rotateRight 19 ^^^ (near >>> 10)
    let farMix := far.rotateRight 7 ^^^ far.rotateRight 18 ^^^ (far >>> 3)
    extendSchedule count ((nearMix + words.getD 6 0 + farMix + words.getD 15 0) :: words)

def round (chain : Chain) (step : Word × Word) : Chain :=
  let mixE := chain.e.rotateRight 6 ^^^ chain.e.rotateRight 11 ^^^ chain.e.rotateRight 25
  let choice := (chain.e &&& chain.f) ^^^ (~~~ chain.e &&& chain.g)
  let first := chain.h + mixE + choice + step.1 + step.2
  let mixA := chain.a.rotateRight 2 ^^^ chain.a.rotateRight 13 ^^^ chain.a.rotateRight 22
  let majority := (chain.a &&& chain.b) ^^^ (chain.a &&& chain.c) ^^^ (chain.b &&& chain.c)
  ⟨first + (mixA + majority), chain.a, chain.b, chain.c, chain.d + first, chain.e, chain.f, chain.g⟩

def compress (chain : Chain) (block : List Word) : Chain :=
  let schedule := (extendSchedule 48 block.reverse).reverse
  let mixed := (roundConstants.zip schedule).foldl round chain
  ⟨chain.a + mixed.a, chain.b + mixed.b, chain.c + mixed.c, chain.d + mixed.d,
    chain.e + mixed.e, chain.f + mixed.f, chain.g + mixed.g, chain.h + mixed.h⟩

/-! ### Padding and rendering -/

/-- The message, a one bit, zeros up to a block boundary, and the length in bits. -/
def pad (bytes : List Nat) : List Nat :=
  bytes ++ [0x80] ++ List.replicate ((119 - bytes.length % 64) % 64) 0 ++
    (List.range 8).reverse.map fun place => 8 * bytes.length / 256 ^ place % 256

def words : List Nat → List Word
  | first :: second :: third :: fourth :: rest =>
    BitVec.ofNat 32 (first * 2 ^ 24 + second * 2 ^ 16 + third * 2 ^ 8 + fourth) :: words rest
  | _ => []

def blocks : Nat → List Word → List (List Word)
  | 0, _ => []
  | count + 1, message => message.take 16 :: blocks count (message.drop 16)

def hexDigit (value : Nat) : Char :=
  if value < 10 then Char.ofNat (48 + value) else Char.ofNat (87 + value)

def hexWord (word : Word) : List Char :=
  (List.range 8).reverse.map fun place => hexDigit (word.toNat / 16 ^ place % 16)

end Sha256

def sha256Hex (text : String) : String :=
  let message := Sha256.words (Sha256.pad (text.toUTF8.data.toList.map UInt8.toNat))
  let chain := (Sha256.blocks (message.length / 16) message).foldl Sha256.compress
    Sha256.Chain.start
  String.ofList ([chain.a, chain.b, chain.c, chain.d, chain.e, chain.f, chain.g, chain.h].flatMap
    Sha256.hexWord)

set_option maxRecDepth 10000 in
example : sha256Hex "abc" = "ba7816bf8f01cfea414140de5dae2223b00361a396177a9cb410ff61f20015ad" := by
  decide

/-! ### What a digest is made of -/

variable {character : Char}

namespace Sha256

def isHexDigit (character : Char) : Bool :=
  decide ('0' ≤ character ∧ character ≤ '9') || decide ('a' ≤ character ∧ character ≤ 'f')

theorem isHexDigit_hexDigit {value : Nat} (small : value < 16) :
    isHexDigit (hexDigit value) = true := by
  have all : ∀ value : Fin 16, isHexDigit (hexDigit value) = true := by decide
  exact all ⟨value, small⟩

theorem utf8Size_of_isHexDigit (isDigit : isHexDigit character = true) :
    character.utf8Size = 1 := by
  have small : character.val ≤ 'f'.val := by
    unfold isHexDigit at isDigit
    rw [Bool.or_eq_true, decide_eq_true_eq, decide_eq_true_eq] at isDigit
    rcases isDigit with ⟨-, digit⟩ | ⟨-, letter⟩
    · exact Nat.le_trans digit (by decide)
    · exact letter
  rw [Char.utf8Size_eq_one_iff]
  exact Nat.le_trans small (by decide)

theorem length_flatMap_hexWord (chain : List Word) :
    (chain.flatMap hexWord).length = 8 * chain.length := by
  induction chain with
  | nil => rfl
  | cons word rest inductionHypothesis =>
    rw [List.flatMap_cons, List.length_append, inductionHypothesis, List.length_cons,
      Nat.mul_add_one, Nat.add_comm]
    rfl

theorem isHexDigit_of_mem_hexWord {word : Word} (member : character ∈ hexWord word) :
    isHexDigit character = true := by
  obtain ⟨place, -, rfl⟩ := List.mem_map.mp member
  exact isHexDigit_hexDigit (Nat.mod_lt _ (by decide))

end Sha256

theorem length_sha256Hex (text : String) : (sha256Hex text).toList.length = 64 := by
  unfold sha256Hex
  rw [String.toList_ofList, Sha256.length_flatMap_hexWord]
  rfl

theorem isHexDigit_of_mem_sha256Hex {text : String} (member : character ∈ (sha256Hex text).toList) :
    Sha256.isHexDigit character = true := by
  unfold sha256Hex at member
  rw [String.toList_ofList] at member
  obtain ⟨word, -, digit⟩ := List.mem_flatMap.mp member
  exact Sha256.isHexDigit_of_mem_hexWord digit

theorem utf8ByteSize_sha256Hex (text : String) : (sha256Hex text).utf8ByteSize = 64 := by
  have narrow := Text.utf8ByteSize_of_narrow fun digit (member : digit ∈ (sha256Hex text).toList) =>
    Sha256.utf8Size_of_isHexDigit (isHexDigit_of_mem_sha256Hex member)
  rw [String.ofList_toList] at narrow
  rw [narrow, length_sha256Hex]

attribute [irreducible] sha256Hex

end Twalk
