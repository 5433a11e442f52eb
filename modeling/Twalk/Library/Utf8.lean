/-
This file is the theory of UTF-8 as programs meet it: the bytes of a text, what a list of bytes
decodes to where it is UTF-8, and what it decodes to when every part that is not is replaced.
The first byte of a character is never one that continues a character, so a place between two
bytes is between two characters exactly when no byte there continues one.
-/

import Mathlib.Data.List.Basic
import Mathlib.Data.Option.Basic

namespace Twalk.Utf8

/-! ### The bytes of a text -/

def bytesOf (characters : List Char) : List UInt8 := characters.flatMap String.utf8EncodeChar

@[simp] theorem bytesOf_nil : bytesOf [] = [] := rfl

theorem bytesOf_cons (character : Char) (rest : List Char) :
    bytesOf (character :: rest) = String.utf8EncodeChar character ++ bytesOf rest := rfl

theorem bytesOf_append (front back : List Char) :
    bytesOf (front ++ back) = bytesOf front ++ bytesOf back := List.flatMap_append

def isContinuation (byte : UInt8) : Bool := 0x80 ≤ byte && byte < 0xC0

/-- Whether the place in front of some bytes is between two characters. -/
def isBoundary (bytes : List UInt8) : Bool := !bytes.head?.any isContinuation

theorem utf8Size_eq_one_iff (character : Char) :
    character.utf8Size = 1 ↔ character.toNat < 128 := by
  rw [Char.utf8Size_eq_one_iff, UInt32.le_iff_toNat_le]
  exact Nat.lt_succ_iff.symm

variable {character : Char}

theorem encode_ascii (isAscii : character.toNat < 128) :
    String.utf8EncodeChar character = [UInt8.ofNat character.toNat] := by
  rw [String.utf8EncodeChar_eq_singleton ((utf8Size_eq_one_iff character).mpr isAscii)]
  rfl

theorem isContinuation_or (byte : UInt8) : isContinuation (byte &&& 0x3f ||| 0x80) = true := by
  have each : ∀ bits : BitVec 8,
      0x80#8 ≤ bits &&& 0x3f#8 ||| 0x80#8 ∧ bits &&& 0x3f#8 ||| 0x80#8 < 0xC0#8 := by decide
  obtain ⟨low, high⟩ := each byte.toBitVec
  unfold isContinuation
  exact Bool.and_eq_true_iff.mpr ⟨decide_eq_true low, decide_eq_true high⟩

theorem lead_le (byte : UInt8) : 0xC0 ≤ byte ||| 0xc0 := by
  have each : ∀ bits : BitVec 8, 0xC0#8 ≤ bits ||| 0xc0#8 := by decide
  exact each byte.toBitVec

theorem encode_wide (wide : 128 ≤ character.toNat) :
    ∃ lead tail, String.utf8EncodeChar character = lead :: tail ∧ 0xC0 ≤ lead ∧
      tail.length + 1 = character.utf8Size ∧ 2 ≤ character.utf8Size ∧
        ∀ byte ∈ tail, isContinuation byte = true := by
  have notOne : character.utf8Size ≠ 1 := by
    rw [ne_eq, utf8Size_eq_one_iff]
    omega
  have positive := character.utf8Size_pos
  have small := character.utf8Size_le_four
  have size : character.utf8Size = 2 ∨ character.utf8Size = 3 ∨ character.utf8Size = 4 := by omega
  rcases size with two | three | four
  · refine ⟨_, _, String.utf8EncodeChar_eq_cons_cons two, lead_le _, two.symm,
      by omega, ?_⟩
    rintro byte (_ | ⟨_, ⟨⟩⟩)
    exact isContinuation_or _
  · have higher : ∀ byte : UInt8, 0xC0 ≤ byte ||| 0xe0 := by
      have each : ∀ bits : BitVec 8, 0xC0#8 ≤ bits ||| 0xe0#8 := by decide
      exact fun byte => each byte.toBitVec
    refine ⟨_, _, String.utf8EncodeChar_eq_cons_cons_cons three, higher _, three.symm,
      by omega, ?_⟩
    rintro byte (_ | ⟨_, _ | ⟨_, ⟨⟩⟩⟩) <;> exact isContinuation_or _
  · have higher : ∀ byte : UInt8, 0xC0 ≤ byte ||| 0xf0 := by
      have each : ∀ bits : BitVec 8, 0xC0#8 ≤ bits ||| 0xf0#8 := by decide
      exact fun byte => each byte.toBitVec
    refine ⟨_, _, String.utf8EncodeChar_eq_cons_cons_cons_cons four, higher _, four.symm,
      by omega, ?_⟩
    rintro byte (_ | ⟨_, _ | ⟨_, _ | ⟨_, ⟨⟩⟩⟩⟩) <;> exact isContinuation_or _

theorem isBoundary_bytesOf (characters : List Char) : isBoundary (bytesOf characters) = true := by
  cases characters with
  | nil => rfl
  | cons character rest =>
    unfold isBoundary
    rw [bytesOf_cons]
    by_cases isAscii : character.toNat < 128
    · rw [encode_ascii isAscii]
      have below : UInt8.ofNat character.toNat < 0x80 := by
        rw [UInt8.lt_iff_toNat_lt, UInt8.toNat_ofNat']
        show character.toNat % 256 < 128
        omega
      simp [isContinuation, UInt8.not_le.mpr below]
    · obtain ⟨lead, tail, isEncoded, isLead, _⟩ := encode_wide (Nat.le_of_not_lt isAscii)
      rw [isEncoded]
      simp [isContinuation, UInt8.not_lt.mpr isLead]

variable {byte : UInt8}

theorem le_of_isContinuation (continues : isContinuation byte = true) :
    0x80 ≤ byte := of_decide_eq_true (Bool.and_eq_true_iff.mp continues).1

theorem le_of_lead (isLead : 0xC0 ≤ byte) : (0x80 : UInt8) ≤ byte :=
  UInt8.le_trans (by decide) isLead

theorem encode_ne {character other : Char} (otherAscii : other.toNat < 128)
    (differ : character ≠ other) :
    ∀ byte ∈ String.utf8EncodeChar character, byte ≠ UInt8.ofNat other.toNat := by
  have below : UInt8.ofNat other.toNat < 0x80 := by
    rw [UInt8.lt_iff_toNat_lt, UInt8.toNat_ofNat']
    show other.toNat % 256 < 128
    omega
  intro byte member isOther
  by_cases isAscii : character.toNat < 128
  · rw [encode_ascii isAscii] at member
    have codes := congrArg UInt8.toNat ((List.mem_singleton.mp member).symm.trans isOther)
    rw [UInt8.toNat_ofNat', UInt8.toNat_ofNat', Nat.mod_eq_of_lt (by omega),
      Nat.mod_eq_of_lt (by omega)] at codes
    exact differ (Char.toNat_inj.mp codes)
  · obtain ⟨lead, tail, isEncoded, isLead, _, _, continues⟩ :=
      encode_wide (Nat.le_of_not_lt isAscii)
    rw [isEncoded] at member
    rw [← isOther] at below
    refine UInt8.not_lt.mpr ?_ below
    rcases List.mem_cons.mp member with rfl | inTail
    · exact le_of_lead isLead
    · exact le_of_isContinuation (continues byte inTail)

variable {characters : List Char}

theorem exists_of_ascii_head {back : List UInt8} (isBytes : bytesOf characters = byte :: back)
    (low : byte < 0x80) :
    ∃ character rest, characters = character :: rest ∧ character.toNat < 128 ∧
      byte = UInt8.ofNat character.toNat ∧ back = bytesOf rest := by
  cases characters with
  | nil => exact nomatch isBytes
  | cons character rest =>
    rw [bytesOf_cons] at isBytes
    by_cases isAscii : character.toNat < 128
    · rw [encode_ascii isAscii] at isBytes
      obtain ⟨isByte, isBack⟩ := List.cons.inj isBytes
      exact ⟨character, rest, rfl, isAscii, isByte.symm, isBack.symm⟩
    · obtain ⟨lead, tail, isEncoded, isLead, _⟩ := encode_wide (Nat.le_of_not_lt isAscii)
      rw [isEncoded] at isBytes
      rw [← (List.cons.inj isBytes).1] at low
      exact absurd low (UInt8.not_lt.mpr (le_of_lead isLead))

/-! ### Decoding -/

def firstChar (bytes : List UInt8) : Option Char := bytes.toByteArray.utf8DecodeChar? 0

theorem firstChar_encode (character : Char) (rest : List UInt8) :
    firstChar (String.utf8EncodeChar character ++ rest) = some character := by
  unfold firstChar
  rw [List.toByteArray_append]
  exact ByteArray.utf8DecodeChar?_utf8EncodeChar_append

variable {bytes : List UInt8}

theorem exists_of_firstChar (isFirst : firstChar bytes = some character) :
    ∃ rest, bytes = String.utf8EncodeChar character ++ rest := by
  obtain ⟨rest, isWhole⟩ := ByteArray.exists_of_utf8DecodeChar?_eq_some isFirst
  refine ⟨rest.data.toList, List.toByteArray_inj.mp ?_⟩
  rw [isWhole, List.toByteArray_append]
  refine congrArg _ (ByteArray.ext ?_)
  rw [List.data_toByteArray]

theorem drop_encode (character : Char) (rest : List UInt8) :
    (String.utf8EncodeChar character ++ rest).drop character.utf8Size = rest := by
  rw [← String.length_utf8EncodeChar, List.drop_left]

def decodeAtMost : Nat → List UInt8 → Option (List Char)
  | _, [] => some []
  | 0, _ :: _ => none
  | most + 1, byte :: rest =>
    (firstChar (byte :: rest)).bind fun character =>
      (decodeAtMost most ((byte :: rest).drop character.utf8Size)).map (character :: ·)

def decode? (bytes : List UInt8) : Option (List Char) := decodeAtMost bytes.length bytes

theorem encode_ne_nil (character : Char) : String.utf8EncodeChar character ≠ [] :=
  String.utf8EncodeChar_ne_nil

variable {most : Nat}

theorem decodeAtMost_bytesOf (enough : characters.length ≤ most) :
    decodeAtMost most (bytesOf characters) = some characters := by
  induction characters generalizing most with
  | nil => cases most <;> rfl
  | cons character rest inductionHypothesis =>
    obtain ⟨most, rfl⟩ := Nat.exists_eq_add_of_le' (Nat.one_le_of_lt enough)
    have bytes := firstChar_encode character (bytesOf rest)
    have rest' := drop_encode character (bytesOf rest)
    rw [bytesOf_cons]
    obtain ⟨byte, others, isBytes⟩ := List.exists_cons_of_ne_nil
      (List.append_ne_nil_of_left_ne_nil (encode_ne_nil character) (bytesOf rest))
    rw [isBytes] at bytes rest' ⊢
    unfold decodeAtMost
    rw [bytes, Option.bind_some, rest', inductionHypothesis (Nat.le_of_succ_le_succ enough)]
    rfl

theorem bytesOf_of_decodeAtMost (decoded : decodeAtMost most bytes = some characters) :
    bytesOf characters = bytes := by
  induction most generalizing bytes characters with
  | zero =>
    cases bytes with
    | nil => cases decoded; rfl
    | cons byte rest => exact nomatch decoded
  | succ most inductionHypothesis =>
    cases bytes with
    | nil => cases decoded; rfl
    | cons byte rest =>
      unfold decodeAtMost at decoded
      obtain ⟨character, isFirst, later⟩ := Option.bind_eq_some_iff.mp decoded
      obtain ⟨others, isOthers, rfl⟩ := Option.map_eq_some_iff.mp later
      obtain ⟨back, isWhole⟩ := exists_of_firstChar isFirst
      rw [isWhole, drop_encode] at isOthers
      rw [bytesOf_cons, inductionHypothesis isOthers, isWhole]

theorem length_le_bytesOf (characters : List Char) :
    characters.length ≤ (bytesOf characters).length := by
  induction characters with
  | nil => exact Nat.le_refl 0
  | cons character rest inductionHypothesis =>
    have positive := List.length_pos_of_ne_nil (encode_ne_nil character)
    rw [bytesOf_cons, List.length_append, List.length_cons]
    omega

theorem decode?_eq_some_iff :
    decode? bytes = some characters ↔ bytesOf characters = bytes := by
  constructor
  · exact bytesOf_of_decodeAtMost
  · rintro rfl
    exact decodeAtMost_bytesOf (length_le_bytesOf characters)

/-! ### Decoding with replacement -/

/-- How many bytes one replacement stands for, where some bytes begin with no character: the
longest beginning of a character there is. -/
def malformed : List UInt8 → Nat
  | lead :: second :: third :: _ =>
    if 0xE0 ≤ lead ∧ lead ≤ 0xEF then
      if isSecond lead second then 2 else 1
    else if 0xF0 ≤ lead ∧ lead ≤ 0xF4 then
      if isSecond lead second then if isContinuation third then 3 else 2 else 1
    else 1
  | [lead, second] => if 0xE0 ≤ lead ∧ lead ≤ 0xF4 ∧ isSecond lead second then 2 else 1
  | _ => 1
where
  /-- Whether a byte can be the second of a character of three or four. -/
  isSecond (lead second : UInt8) : Bool :=
    if lead = 0xE0 then 0xA0 ≤ second && second ≤ 0xBF
    else if lead = 0xED then 0x80 ≤ second && second ≤ 0x9F
    else if lead = 0xF0 then 0x90 ≤ second && second ≤ 0xBF
    else if lead = 0xF4 then 0x80 ≤ second && second ≤ 0x8F
    else isContinuation second

def lossyAtMost : Nat → List UInt8 → List Char
  | _, [] => []
  | 0, _ :: _ => []
  | most + 1, byte :: rest =>
    match firstChar (byte :: rest) with
    | some character => character :: lossyAtMost most ((byte :: rest).drop character.utf8Size)
    | none =>
      Char.ofNat 0xFFFD :: lossyAtMost most ((byte :: rest).drop (malformed (byte :: rest)))

/-- The characters that some bytes are, with a replacement for what is none. -/
def lossy (bytes : List UInt8) : List Char := lossyAtMost bytes.length bytes

theorem lossyAtMost_of_decodeAtMost (decoded : decodeAtMost most bytes = some characters) :
    lossyAtMost most bytes = characters := by
  induction most generalizing bytes characters with
  | zero =>
    cases bytes with
    | nil => cases decoded; rfl
    | cons byte rest => exact nomatch decoded
  | succ most inductionHypothesis =>
    cases bytes with
    | nil => cases decoded; rfl
    | cons byte rest =>
      unfold decodeAtMost at decoded
      obtain ⟨character, isFirst, later⟩ := Option.bind_eq_some_iff.mp decoded
      obtain ⟨others, isOthers, rfl⟩ := Option.map_eq_some_iff.mp later
      unfold lossyAtMost
      rw [isFirst]
      dsimp only
      rw [inductionHypothesis isOthers]

theorem lossy_bytesOf (characters : List Char) : lossy (bytesOf characters) = characters :=
  lossyAtMost_of_decodeAtMost (decodeAtMost_bytesOf (length_le_bytesOf characters))

end Twalk.Utf8
