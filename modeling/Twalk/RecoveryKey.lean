/-
This file is the recovery key as it is read and typed back: two fixed bytes, the
thirty-two of the secret and one of parity, written in base 58 and shown in
groups of four. Writing multiplies out the bytes into digits and reading the
digits into bytes, each with its own rule for what leads with nothing.

The first byte is never zero, so that neither rule has anything to say. What is
typed is then read as a secret exactly where it is, without its white space,
what that secret is written as, and everything that is promised of the key
follows from this one equation.
-/

import Twalk.Library.Fallible
import Twalk.Library.Radix

namespace Twalk.RecoveryKey

/-! ### Texts -/

/-- A text, which is a sequence of code units. A surrogate may stand alone in it. -/
abbrev Units := List UInt16

def unitsOf (ascii : String) : Units := ascii.toList.map fun character => character.val.toUInt16

/-- What a regular expression takes for white space. -/
def isWhitespace (unit : UInt16) : Bool :=
  (0x0009 ≤ unit && unit ≤ 0x000d) || unit == 0x0020 || unit == 0x00a0 || unit == 0x1680 ||
    (0x2000 ≤ unit && unit ≤ 0x200a) || unit == 0x2028 || unit == 0x2029 || unit == 0x202f ||
    unit == 0x205f || unit == 0x3000 || unit == 0xfeff

def stripWhitespace (value : Units) : Units := value.filter fun unit => !isWhitespace unit

def isHighSurrogate (unit : UInt16) : Bool := 0xd800 ≤ unit && unit < 0xdc00

def isLowSurrogate (unit : UInt16) : Bool := 0xdc00 ≤ unit && unit < 0xe000

def characters : Units → List Units
  | [] => []
  | [unit] => [[unit]]
  | high :: low :: rest =>
    if isHighSurrogate high && isLowSurrogate low then [high, low] :: characters rest
    else [high] :: characters (low :: rest)

/-! ### Base 58 -/

def base58Alphabet : Units :=
  unitsOf "123456789ABCDEFGHJKLMNPQRSTUVWXYZabcdefghijkmnopqrstuvwxyz"

def symbol (digit : Nat) : UInt16 := base58Alphabet.getD digit 0

def indexOf : Units → Option Nat
  | [unit] => base58Alphabet.idxOf? unit
  | _ => none

/-- A byte is carried into the digits, and what is left of the carry becomes new ones. -/
def encodeCarry : List Nat → Nat → List Nat
  | [], carry => Nat.digits 58 carry
  | digit :: rest, carry =>
    let carry := carry + digit <<< 8
    carry % 58 :: encodeCarry rest (carry / 58)

def base58Encode (bytes : List UInt8) : Units :=
  let digits := bytes.foldl (fun digits byte => encodeCarry digits byte.toNat) [0]
  List.replicate (bytes.takeWhile (· = 0)).length (symbol 0) ++ digits.reverse.map symbol

def decodeCarry : List Nat → Nat → List Nat
  | [], carry => Nat.digits 256 carry
  | byte :: rest, carry =>
    let carry := carry + byte * 58
    (carry &&& 0xff) :: decodeCarry rest (carry >>> 8)

def base58Decode (value : Units) : Option (List UInt8) := do
  let bytes ← (characters value).foldlM (fun bytes character => do
    let digit ← indexOf character
    return decodeCarry bytes digit) [0]
  let leadingZeroes := ((characters value).takeWhile (· = [symbol 0])).length
  return List.replicate leadingZeroes 0 ++ bytes.reverse.map UInt8.ofNat

/-! ### The key -/

def recoveryKeyPrefix : List UInt8 := [0x8b, 0x01]

def recoveryKeyBytes : Nat := 32

def recoveryKeyGroup : Nat := 4

inductive RecoveryKeyProblem where
  | empty
  | notBase58
  | wrongLength
  | notARecoveryKey
  | parity
  deriving DecidableEq

def compactRecoveryKey (key : Units) : Units := stripWhitespace key

/-- The groups of four, from each fourth character on. -/
def groups (compact : Units) : List Units :=
  (List.range ((compact.length + 3) / recoveryKeyGroup)).map fun index =>
    (compact.drop (index * recoveryKeyGroup)).take recoveryKeyGroup

def groupRecoveryKey (key : Units) : Units :=
  List.intercalate (unitsOf " ") (groups (stripWhitespace key))

def parity (bytes : List UInt8) : UInt8 := bytes.foldl (fun parity byte => parity ^^^ byte) 0

def decodeRecoveryKey (key : Units) : Except RecoveryKeyProblem (List UInt8) :=
  let compact := compactRecoveryKey key
  if compact.length = 0 then .error .empty
  else
    match base58Decode compact with
    | none => .error .notBase58
    | some decoded =>
      if decoded.length ≠ recoveryKeyPrefix.length + recoveryKeyBytes + 1 then .error .wrongLength
      else if decoded[0]? ≠ recoveryKeyPrefix[0]? ∨ decoded[1]? ≠ recoveryKeyPrefix[1]? then
        .error .notARecoveryKey
      else if some (parity (decoded.take (decoded.length - 1))) ≠ decoded[decoded.length - 1]? then
        .error .parity
      else .ok ((decoded.take (decoded.length - 1)).drop recoveryKeyPrefix.length)

def wrongSize (length : Nat) : String :=
  "a secret storage key is " ++ toString recoveryKeyBytes ++ " bytes, not " ++ toString length

def full (bytes : List UInt8) : List UInt8 :=
  (recoveryKeyPrefix ++ bytes) ++ [parity (recoveryKeyPrefix ++ bytes)]

def encodeRecoveryKey (bytes : List UInt8) : Except String Units :=
  if bytes.length ≠ recoveryKeyBytes then .error (wrongSize bytes.length)
  else .ok (base58Encode (full bytes))

/-! ### The alphabet -/

theorem length_base58Alphabet : base58Alphabet.length = 58 := by decide

structure IsSymbol (digit : Nat) : Prop where
  index : base58Alphabet.idxOf? (symbol digit) = some digit
  visible : isWhitespace (symbol digit) = false
  alone : isHighSurrogate (symbol digit) = false

instance (digit : Nat) : Decidable (IsSymbol digit) :=
  decidable_of_iff (base58Alphabet.idxOf? (symbol digit) = some digit ∧
      isWhitespace (symbol digit) = false ∧ isHighSurrogate (symbol digit) = false)
    ⟨fun both => ⟨both.1, both.2.1, both.2.2⟩, fun both => ⟨both.index, both.visible, both.alone⟩⟩

variable {digit : Nat}

theorem isSymbol (small : digit < 58) : IsSymbol digit := by
  have each : ∀ digit < 58, IsSymbol digit := by decide
  exact each digit small

theorem symbol_injective {digit other : Nat} (small : digit < 58) (otherSmall : other < 58)
    (same : symbol digit = symbol other) : digit = other := by
  have index := (isSymbol small).index
  rw [same, (isSymbol otherSmall).index] at index
  exact (Option.some.inj index).symm

theorem symbol_mem (small : digit < 58) : symbol digit ∈ base58Alphabet := by
  have isDigit : digit < base58Alphabet.length := by rwa [length_base58Alphabet]
  rw [symbol, ← List.getElem_eq_getD (h := isDigit) 0]
  exact List.getElem_mem isDigit

theorem indexOf_eq_some_iff {character : Units} :
    indexOf character = some digit ↔ digit < 58 ∧ character = [symbol digit] := by
  constructor
  · intro found
    unfold indexOf at found
    split at found
    · obtain ⟨isDigit, isUnit, -⟩ := List.idxOf?_eq_some_iff.mp found
      rw [symbol, ← List.getElem_eq_getD (h := isDigit) 0, isUnit]
      exact ⟨length_base58Alphabet ▸ isDigit, rfl⟩
    · cases found
  · rintro ⟨small, rfl⟩
    exact (isSymbol small).index

/-! ### Characters -/

theorem flatten_characters (value : Units) : (characters value).flatten = value := by
  induction value using characters.induct with
  | case1 => rfl
  | case2 unit => rfl
  | case3 high low rest pair inductionHypothesis =>
    rw [characters, if_pos pair, List.flatten_cons, inductionHypothesis]
    rfl
  | case4 high low rest apart inductionHypothesis =>
    rw [characters, if_neg apart, List.flatten_cons, inductionHypothesis]
    rfl

theorem exists_of_mem_characters {value character : Units} (member : character ∈ characters value) :
    (∃ unit, character = [unit]) ∨
      ∃ high low, isHighSurrogate high = true ∧ isLowSurrogate low = true ∧
        character = [high, low] := by
  induction value using characters.induct with
  | case1 => cases member
  | case2 unit => exact .inl ⟨unit, List.mem_singleton.mp member⟩
  | case3 high low rest pair inductionHypothesis =>
    rw [characters, if_pos pair] at member
    rcases List.mem_cons.mp member with isPair | later
    · obtain ⟨isHigh, isLow⟩ := (Bool.and_eq_true ..).mp pair
      exact .inr ⟨high, low, isHigh, isLow, isPair⟩
    · exact inductionHypothesis later
  | case4 high low rest apart inductionHypothesis =>
    rw [characters, if_neg apart] at member
    rcases List.mem_cons.mp member with isUnit | later
    · exact .inl ⟨high, isUnit⟩
    · exact inductionHypothesis later

variable {digits : List Nat}

theorem characters_map (small : ∀ digit ∈ digits, digit < 58) :
    characters (digits.map symbol) = digits.map fun digit => [symbol digit] := by
  induction digits with
  | nil => rfl
  | cons digit rest inductionHypothesis =>
    obtain ⟨isDigit, others⟩ := List.forall_mem_cons.mp small
    have read := inductionHypothesis others
    cases rest with
    | nil => rfl
    | cons next rest =>
      rw [List.map_cons, List.map_cons] at read ⊢
      rw [characters, if_neg (by rw [(isSymbol isDigit).alone]; exact Bool.false_ne_true), read]
      rfl

/-! ### Base 58 is read as it is written -/

theorem encodeCarry_eq (digits : List Nat) (carry : Nat) :
    encodeCarry digits carry = Radix.mulAdd 58 256 digits carry := by
  induction digits generalizing carry with
  | nil => rfl
  | cons digit rest inductionHypothesis =>
    rw [encodeCarry, Radix.mulAdd, inductionHypothesis, Nat.shiftLeft_eq]

theorem decodeCarry_eq (bytes : List Nat) (carry : Nat) :
    decodeCarry bytes carry = Radix.mulAdd 256 58 bytes carry := by
  induction bytes generalizing carry with
  | nil => rfl
  | cons byte rest inductionHypothesis =>
    have low : ∀ carry : Nat, carry &&& 0xff = carry % 256 :=
      fun carry => Nat.and_two_pow_sub_one_eq_mod carry 8
    rw [decodeCarry, Radix.mulAdd, inductionHypothesis, low, Nat.shiftRight_eq_div_pow]

def numberOf (bytes : List UInt8) : Nat := Radix.value 256 (bytes.map UInt8.toNat)

theorem base58Encode_eq (bytes : List UInt8) :
    base58Encode bytes = List.replicate (bytes.takeWhile (· = 0)).length (symbol 0) ++
      (Radix.numeral 58 (numberOf bytes)).reverse.map symbol := by
  have carried : bytes.foldl (fun digits byte => encodeCarry digits byte.toNat) [0] =
      Radix.numeral 58 (numberOf bytes) := by
    rw [numberOf, ← Radix.foldl_mulAdd (by decide) (by decide), List.foldl_map]
    exact congrArg (fun step => bytes.foldl step [0])
      (funext fun digits => funext fun byte => encodeCarry_eq digits byte.toNat)
  unfold base58Encode
  rw [carried]

theorem foldlM_eq_some_iff {characters : List Units} {before after : List Nat} :
    (characters.foldlM (fun bytes character => do
        let digit ← indexOf character
        return decodeCarry bytes digit) before) = some after ↔
      ∃ digits : List Nat, (∀ digit ∈ digits, digit < 58) ∧
        (characters = digits.map fun digit => [symbol digit]) ∧
        after = digits.foldl (Radix.mulAdd 256 58) before := by
  induction characters generalizing before with
  | nil =>
    constructor
    · intro done
      exact ⟨[], List.forall_mem_nil _, rfl, (Option.some.inj done).symm⟩
    · rintro ⟨digits, -, none, rfl⟩
      rw [List.map_eq_nil_iff.mp none.symm]
      rfl
  | cons character rest inductionHypothesis =>
    rw [List.foldlM_cons]
    constructor
    · intro read
      obtain ⟨between, isFirst, isRest⟩ := Option.bind_eq_some_iff.mp read
      obtain ⟨digit, isDigit, carried⟩ := Option.bind_eq_some_iff.mp isFirst
      cases carried
      obtain ⟨small, rfl⟩ := indexOf_eq_some_iff.mp isDigit
      obtain ⟨digits, allSmall, rfl, rfl⟩ := inductionHypothesis.mp isRest
      exact ⟨digit :: digits, List.forall_mem_cons.mpr ⟨small, allSmall⟩, rfl,
        by rw [List.foldl_cons, decodeCarry_eq]⟩
    · rintro ⟨digits, small, isMapped, rfl⟩
      cases digits with
      | nil => cases isMapped
      | cons digit digits =>
        obtain ⟨isFirst, isRest⟩ := List.cons.inj isMapped
        obtain ⟨isDigit, others⟩ := List.forall_mem_cons.mp small
        refine Option.bind_eq_some_iff.mpr ⟨decodeCarry before digit, ?_, ?_⟩
        · exact Option.bind_eq_some_iff.mpr
            ⟨digit, indexOf_eq_some_iff.mpr ⟨isDigit, isFirst⟩, rfl⟩
        · exact inductionHypothesis.mpr
            ⟨digits, others, isRest, by rw [List.foldl_cons, decodeCarry_eq]⟩

theorem length_takeWhile_map (small : ∀ digit ∈ digits, digit < 58) :
    ((digits.map fun digit => [symbol digit]).takeWhile (· = [symbol 0])).length =
      (digits.takeWhile (· = 0)).length := by
  induction digits with
  | nil => rfl
  | cons digit rest inductionHypothesis =>
    obtain ⟨isDigit, others⟩ := List.forall_mem_cons.mp small
    rw [List.map_cons, List.takeWhile_cons, List.takeWhile_cons]
    by_cases isZero : digit = 0
    · rw [if_pos (decide_eq_true (by rw [isZero])), if_pos (decide_eq_true isZero),
        List.length_cons, List.length_cons, inductionHypothesis others]
    · have isOther : [symbol digit] ≠ [symbol 0] := fun same =>
        isZero (symbol_injective isDigit (by decide) (List.singleton_inj.mp same))
      rw [if_neg (by rwa [decide_eq_true_eq]), if_neg (by rwa [decide_eq_true_eq]),
        List.length_nil, List.length_nil]

variable {bytes : List UInt8} {value : Units}

theorem base58Decode_eq_some_iff :
    base58Decode value = some bytes ↔ ∃ digits : List Nat, (∀ digit ∈ digits, digit < 58) ∧
      value = digits.map symbol ∧
      bytes = List.replicate (digits.takeWhile (· = 0)).length 0 ++
        (Radix.numeral 256 (Radix.value 58 digits)).reverse.map UInt8.ofNat := by
  have flat : ∀ digits : List Nat,
      (digits.map fun digit => [symbol digit]).flatten = digits.map symbol := by
    intro digits
    rw [← List.flatMap_def, ← List.map_eq_flatMap]
  refine Option.bind_eq_some_iff.trans ?_
  constructor
  · rintro ⟨carried, isCarried, isRead⟩
    obtain ⟨digits, small, areCharacters, rfl⟩ := foldlM_eq_some_iff.mp isCarried
    refine ⟨digits, small, ?_, ?_⟩
    · rw [← flatten_characters value, areCharacters, flat]
    · rw [← Radix.foldl_mulAdd (by decide) (by decide), ← Option.some.inj isRead, areCharacters,
        length_takeWhile_map small]
  · rintro ⟨digits, small, rfl, rfl⟩
    refine ⟨_, foldlM_eq_some_iff.mpr ⟨digits, small, characters_map small, rfl⟩, ?_⟩
    rw [characters_map small, length_takeWhile_map small,
      Radix.foldl_mulAdd (by decide) (by decide)]
    rfl

theorem map_toNat_ofNat (small : ∀ digit ∈ digits, digit < 256) :
    (digits.map UInt8.ofNat).map UInt8.toNat = digits := by
  rw [List.map_map]
  refine (List.map_congr_left fun digit member => ?_).trans (List.map_id digits)
  exact Nat.mod_eq_of_lt (small digit member)

theorem base58Decode_eq_some_iff_encode {first : UInt8} {rest : List UInt8} (positive : first ≠ 0) :
    base58Decode value = some (first :: rest) ↔ value = base58Encode (first :: rest) := by
  have written : base58Encode (first :: rest) =
      (Radix.numeral 58 (numberOf (first :: rest))).reverse.map symbol := by
    rw [base58Encode_eq, List.takeWhile_cons_of_neg (by rwa [decide_eq_true_eq])]
    rfl
  have areBytes : (Nat.digits 256 (numberOf (first :: rest))).reverse =
      (first :: rest).map UInt8.toNat := by
    refine Radix.digits_value (by decide) (fun isZero => positive (UInt8.toNat_inj.mp isZero)) ?_
    intro number member
    obtain ⟨byte, -, rfl⟩ := List.mem_map.mp (show number ∈ (first :: rest).map _ from member)
    exact byte.toNat_lt
  have grows : 0 < numberOf (first :: rest) := by
    rcases Nat.eq_zero_or_pos (numberOf (first :: rest)) with isZero | grows
    · rw [isZero, Nat.digits_zero] at areBytes
      cases areBytes
    · exact grows
  rw [base58Decode_eq_some_iff, written, Radix.numeral_of_pos grows]
  constructor
  · rintro ⟨digits, small, rfl, isRead⟩
    have noneLeads : digits.takeWhile (· = 0) = [] := by
      cases leading : digits.takeWhile (· = 0) with
      | nil => rfl
      | cons leads others =>
        rw [leading, List.length_cons, List.replicate_succ, List.cons_append] at isRead
        exact absurd (List.cons.inj isRead).1 positive
    rw [noneLeads, List.length_nil, List.replicate_zero, List.nil_append] at isRead
    have isPositive : 0 < Radix.value 58 digits := by
      rcases Nat.eq_zero_or_pos (Radix.value 58 digits) with isZero | isPositive
      · rw [isZero] at isRead
        exact absurd (List.cons.inj isRead).1 positive
      · exact isPositive
    rw [Radix.numeral_of_pos isPositive] at isRead
    have sameNumber : numberOf (first :: rest) = Radix.value 58 digits := by
      rw [numberOf, isRead, map_toNat_ofNat fun digit member =>
        Nat.digits_lt_base (by decide) (List.mem_reverse.mp member), Radix.value_digits]
    rw [sameNumber]
    cases digits with
    | nil => cases isPositive
    | cons digit others =>
      have notZero : digit ≠ 0 := by
        rintro rfl
        exact List.cons_ne_nil _ _ noneLeads
      rw [Radix.digits_value (by decide) notZero small]
  · intro isWritten
    refine ⟨(Nat.digits 58 (numberOf (first :: rest))).reverse, fun digit member =>
      Nat.digits_lt_base (by decide) (List.mem_reverse.mp member), isWritten, ?_⟩
    have noneLeads :
        ((Nat.digits 58 (numberOf (first :: rest))).reverse.takeWhile (· = 0)) = [] := by
      cases areDigits : (Nat.digits 58 (numberOf (first :: rest))).reverse with
      | nil => rfl
      | cons digit others =>
        exact List.takeWhile_cons_of_neg (by
          rw [decide_eq_true_eq]
          exact Radix.head_digits areDigits)
    rw [noneLeads, Radix.value_digits, Radix.numeral_of_pos grows, areBytes, List.map_map]
    refine ((List.map_congr_left fun byte _ => ?_).trans (List.map_id _)).symm
    exact UInt8.ofNat_toNat

/-! ### The key is read as it is written -/

theorem exists_body {decoded : List UInt8}
    (isLong : decoded.length = recoveryKeyPrefix.length + recoveryKeyBytes + 1) :
    ∃ first second body last, decoded = first :: second :: (body ++ [last]) ∧
      body.length = recoveryKeyBytes := by
  match decoded, isLong with
  | first :: second :: rest, isLong =>
    have isRest : rest.length = recoveryKeyBytes + 1 := Nat.add_right_cancel (m := 2)
      (isLong.trans (by decide))
    have nonempty : rest ≠ [] := by
      rintro rfl
      cases isRest
    refine ⟨first, second, rest.dropLast, rest.getLast nonempty, ?_, ?_⟩
    · rw [List.dropLast_append_getLast nonempty]
    · rw [List.length_dropLast, isRest, Nat.add_sub_cancel]

theorem take_body (first second : UInt8) (body : List UInt8) (last : UInt8) :
    (first :: second :: (body ++ [last])).take
        ((first :: second :: (body ++ [last])).length - 1) = first :: second :: body ∧
      (first :: second :: (body ++ [last]))[(first :: second :: (body ++ [last])).length - 1]? =
        some last := by
  have isLong : (first :: second :: (body ++ [last])).length - 1 = body.length + 2 := by
    rw [List.length_cons, List.length_cons, List.length_append, List.length_singleton]
    rfl
  rw [isLong]
  constructor
  · rw [List.take_succ_cons, List.take_succ_cons, List.take_left]
  · rw [List.getElem?_cons_succ, List.getElem?_cons_succ, List.getElem?_concat_length]

variable {text : Units}

theorem decodeRecoveryKey_eq_ok_iff :
    decodeRecoveryKey text = .ok bytes ↔ encodeRecoveryKey bytes = .ok (stripWhitespace text) := by
  have isPositive : (0x8b : UInt8) ≠ 0 := by decide
  unfold decodeRecoveryKey encodeRecoveryKey compactRecoveryKey
  rw [ite_error_eq_ok_iff, ite_error_eq_ok_iff, not_not, Except.ok.injEq]
  constructor
  · rintro ⟨-, accepted⟩
    cases isRead : base58Decode (stripWhitespace text) with
    | none =>
      rw [isRead] at accepted
      cases accepted
    | some decoded =>
      rw [isRead] at accepted
      dsimp only at accepted
      obtain ⟨isLong, accepted⟩ := ite_error_eq_ok_iff.mp accepted
      obtain ⟨isKey, accepted⟩ := ite_error_eq_ok_iff.mp accepted
      obtain ⟨isEven, accepted⟩ := ite_error_eq_ok_iff.mp accepted
      obtain ⟨first, second, body, last, rfl, isBody⟩ := exists_body (not_not.mp isLong)
      obtain ⟨isTaken, isLast⟩ := take_body first second body last
      rw [isTaken, isLast, not_not, Option.some.injEq] at isEven
      rw [isTaken] at accepted
      obtain rfl := Except.ok.inj accepted
      rw [not_or, not_not, not_not] at isKey
      obtain rfl : first = 0x8b := Option.some.inj isKey.1
      obtain rfl : second = 0x01 := Option.some.inj isKey.2
      refine ⟨isBody, ((base58Decode_eq_some_iff_encode isPositive).mp ?_).symm⟩
      rw [isRead, ← isEven]
      rfl
  · rintro ⟨isSecret, same⟩
    have isFull : full bytes =
        0x8b :: 0x01 :: (bytes ++ [parity (0x8b :: 0x01 :: bytes)]) := rfl
    rw [isFull] at same
    have isRead := (base58Decode_eq_some_iff_encode isPositive).mpr same.symm
    obtain ⟨isTaken, isLast⟩ := take_body 0x8b 0x01 bytes (parity (0x8b :: 0x01 :: bytes))
    constructor
    · intro isEmpty
      have isZero : base58Decode [] = some [0] := rfl
      rw [List.length_eq_zero_iff.mp isEmpty, isZero] at isRead
      cases isRead
    · rw [isRead]
      refine ite_error_eq_ok_iff.mpr ⟨not_not.mpr ?_, ite_error_eq_ok_iff.mpr ⟨?_,
        ite_error_eq_ok_iff.mpr ⟨?_, ?_⟩⟩⟩
      · rw [List.length_cons, List.length_cons, List.length_append, isSecret]
        rfl
      · rw [not_or, not_not, not_not]
        exact ⟨rfl, rfl⟩
      · rw [isTaken, isLast, not_not]
      · rw [isTaken]
        rfl

/-! ### Groups -/

theorem stripWhitespace_eq_self {key : Units} (visible : ∀ unit ∈ key, isWhitespace unit = false) :
    stripWhitespace key = key :=
  List.filter_eq_self.mpr fun unit member => by rw [visible unit member, Bool.not_false]

theorem isWhitespace_of_mem_stripWhitespace {unit : UInt16} (member : unit ∈ stripWhitespace value)
    : isWhitespace unit = false :=
  Bool.not_eq_true' _ |>.mp (List.mem_filter.mp member).2

theorem flatten_slices (compact : Units) (count : Nat) :
    ((List.range count).map fun index => (compact.drop (index * recoveryKeyGroup)).take
      recoveryKeyGroup).flatten = compact.take (count * recoveryKeyGroup) := by
  induction count with
  | zero => rw [List.range_zero, List.map_nil, List.flatten_nil, Nat.zero_mul, List.take_zero]
  | succ count inductionHypothesis =>
    rw [List.range_succ, List.map_append, List.flatten_append, inductionHypothesis, List.map_singleton,
      List.flatten_singleton, Nat.succ_mul, List.take_add]

theorem flatten_groups (compact : Units) : (groups compact).flatten = compact := by
  rw [groups, flatten_slices]
  refine List.take_of_length_le ?_
  unfold recoveryKeyGroup
  omega

theorem stripWhitespace_intercalate (parts : List Units) :
    stripWhitespace (List.intercalate (unitsOf " ") parts) =
      stripWhitespace parts.flatten := by
  induction parts with
  | nil => rfl
  | cons part rest inductionHypothesis =>
    cases rest with
    | nil => rw [List.intercalate_singleton, List.flatten_singleton]
    | cons next rest =>
      rw [List.intercalate_cons_cons, List.flatten_cons]
      have noSpace : (unitsOf " ").filter (fun unit => !isWhitespace unit) = [] := by decide
      unfold stripWhitespace at inductionHypothesis ⊢
      rw [List.filter_append, List.filter_append, List.filter_append, inductionHypothesis, noSpace,
        List.append_nil]

theorem groupRecoveryKey_groupRecoveryKey (key : Units) :
    groupRecoveryKey (groupRecoveryKey key) = groupRecoveryKey key := by
  have same : stripWhitespace (groupRecoveryKey key) = stripWhitespace key := by
    rw [groupRecoveryKey, stripWhitespace_intercalate, flatten_groups]
    exact stripWhitespace_eq_self fun unit => isWhitespace_of_mem_stripWhitespace
  rw [groupRecoveryKey, same, groupRecoveryKey]

/-! ### What is written down -/

abbrev Secret := { bytes : List UInt8 // bytes.length = recoveryKeyBytes }

def keyOf (secret : Secret) : Units := base58Encode (full secret.1)

theorem encodeRecoveryKey_secret (secret : Secret) :
    encodeRecoveryKey secret.1 = .ok (keyOf secret) :=
  if_neg (not_not.mpr secret.2)

theorem decodeRecoveryKey_eq_ok_iff_keyOf {secret : Secret} :
    decodeRecoveryKey text = .ok secret.1 ↔ stripWhitespace text = keyOf secret := by
  rw [decodeRecoveryKey_eq_ok_iff, encodeRecoveryKey_secret, Except.ok.injEq, eq_comm]

theorem exists_secret_of_decode (isRead : decodeRecoveryKey text = .ok bytes) :
    ∃ secret : Secret, secret.1 = bytes ∧ stripWhitespace text = keyOf secret := by
  have isWritten := decodeRecoveryKey_eq_ok_iff.mp isRead
  obtain ⟨isSecret, -⟩ := ite_error_eq_ok_iff.mp isWritten
  exact ⟨⟨bytes, not_not.mp isSecret⟩, rfl, decodeRecoveryKey_eq_ok_iff_keyOf.mp isRead⟩

theorem length_digits_full (secret : Secret) :
    (Nat.digits 58 (numberOf (full secret.1))).length = 48 := by
  have isFull : full secret.1 =
      0x8b :: 0x01 :: (secret.1 ++ [parity (recoveryKeyPrefix ++ secret.1)]) := rfl
  have isLong : ((secret.1 ++ [parity (recoveryKeyPrefix ++ secret.1)]).map UInt8.toNat).length =
      33 := by
    rw [List.length_map, List.length_append, secret.2]
    rfl
  have below := Radix.value_lt (show 1 < 256 by decide)
    ((secret.1 ++ [parity (recoveryKeyPrefix ++ secret.1)]).map UInt8.toNat)
    (fun digit member => by
      obtain ⟨byte, -, rfl⟩ := List.mem_map.mp member
      exact byte.toNat_lt)
  have number : numberOf (full secret.1) = 0x8b * 256 ^ 34 + (0x01 * 256 ^ 33 +
      Radix.value 256 ((secret.1 ++ [parity (recoveryKeyPrefix ++ secret.1)]).map UInt8.toNat)) := by
    rw [numberOf, isFull, List.map_cons, List.map_cons, Radix.value_cons, Radix.value_cons,
      List.length_cons, isLong]
    rfl
  rw [isLong] at below
  refine Radix.length_digits (by decide) ?_ ?_
  · rw [number]
    exact (show 58 ^ 47 ≤ 0x8b * 256 ^ 34 by norm_num).trans (Nat.le_add_right _ _)
  · rw [number]
    calc 0x8b * 256 ^ 34 + (0x01 * 256 ^ 33 + _)
        < 0x8b * 256 ^ 34 + (0x01 * 256 ^ 33 + 256 ^ 33) :=
          Nat.add_lt_add_left (Nat.add_lt_add_left below _) _
      _ < 58 ^ 48 := by norm_num

theorem keyOf_spec (secret : Secret) :
    (keyOf secret).length = 48 ∧ ∀ unit ∈ keyOf secret, ∃ digit < 58, unit = symbol digit := by
  have grows : 0 < numberOf (full secret.1) := by
    rcases Nat.eq_zero_or_pos (numberOf (full secret.1)) with isZero | grows
    · have isLong := length_digits_full secret
      rw [isZero, Nat.digits_zero] at isLong
      cases isLong
    · exact grows
  have isKey : keyOf secret =
      (Nat.digits 58 (numberOf (full secret.1))).reverse.map symbol := by
    rw [keyOf, base58Encode_eq, Radix.numeral_of_pos grows]
    rfl
  rw [isKey]
  constructor
  · rw [List.length_map, List.length_reverse, length_digits_full]
  · intro unit member
    obtain ⟨digit, isDigit, rfl⟩ := List.mem_map.mp member
    exact ⟨digit, Nat.digits_lt_base (by decide) (List.mem_reverse.mp isDigit), rfl⟩

theorem stripWhitespace_keyOf (secret : Secret) : stripWhitespace (keyOf secret) = keyOf secret := by
  refine stripWhitespace_eq_self fun unit member => ?_
  obtain ⟨digit, small, rfl⟩ := (keyOf_spec secret).2 unit member
  exact (isSymbol small).visible

inductive Spaced : Units → Units → Prop
  | nil : Spaced [] []
  | unit (unit : UInt16) {key text : Units} (rest : Spaced key text) :
    Spaced (unit :: key) (unit :: text)
  | space {space : UInt16} (isSpace : isWhitespace space = true) {key text : Units}
    (rest : Spaced key text) : Spaced key (space :: text)

theorem stripWhitespace_of_spaced {key text : Units} (spaced : Spaced key text) :
    stripWhitespace text = stripWhitespace key := by
  induction spaced with
  | nil => rfl
  | unit unit rest inductionHypothesis =>
    unfold stripWhitespace at inductionHypothesis ⊢
    rw [List.filter_cons, List.filter_cons, inductionHypothesis]
  | space isSpace rest inductionHypothesis =>
    unfold stripWhitespace at inductionHypothesis ⊢
    rw [List.filter_cons_of_neg (by rw [isSpace]; exact Bool.false_ne_true), inductionHypothesis]

/-- A secret and what it is written as, through everything that may happen to it on paper. -/
structure WrittenDown (secret : Secret) (key : Units) : Prop where
  written : encodeRecoveryKey secret.1 = .ok key
  inAlphabet : key.length = 48 ∧ ∀ unit ∈ key, unit ∈ base58Alphabet
  grouped : ∃ parts : List Units, parts.length = 12 ∧ (∀ part ∈ parts, part.length = 4) ∧
    parts.flatten = key ∧ groupRecoveryKey key = List.intercalate (unitsOf " ") parts
  groupedTwice : groupRecoveryKey (groupRecoveryKey key) = groupRecoveryKey key
  spaced : ∀ text, Spaced key text → decodeRecoveryKey text = .ok secret.1
  ones : ∀ count > 0, ∀ bytes,
    decodeRecoveryKey (List.replicate count (symbol 0) ++ key) ≠ .ok bytes
  missing : ∀ index < key.length, ∀ bytes, decodeRecoveryKey (key.eraseIdx index) ≠ .ok bytes
  additional : ∀ index ≤ key.length, ∀ unit, isWhitespace unit = false → ∀ bytes,
    decodeRecoveryKey (key.insertIdx index unit) ≠ .ok bytes
  replaced : ∀ (index : Fin key.length) (unit : UInt16), unit ≠ key[index] →
    decodeRecoveryKey (key.set index unit) ≠ .ok secret.1
  swapped : ∀ first second : Fin key.length, key[first] ≠ key[second] →
    decodeRecoveryKey ((key.set first key[second]).set second key[first]) ≠ .ok secret.1

theorem length_of_decode (isRead : decodeRecoveryKey text = .ok bytes) :
    (stripWhitespace text).length = 48 := by
  obtain ⟨secret, -, isKey⟩ := exists_secret_of_decode isRead
  rw [isKey]
  exact (keyOf_spec secret).1

theorem length_of_decode_visible (visible : ∀ unit ∈ text, isWhitespace unit = false)
    (isRead : decodeRecoveryKey text = .ok bytes) : text.length = 48 := by
  have isLong := length_of_decode isRead
  rwa [stripWhitespace_eq_self visible] at isLong

theorem visible_of_mem_keyOf {secret : Secret} :
    ∀ unit ∈ keyOf secret, isWhitespace unit = false := by
  intro unit member
  obtain ⟨digit, small, rfl⟩ := (keyOf_spec secret).2 unit member
  exact (isSymbol small).visible

theorem groups_keyOf (secret : Secret) : (groups (keyOf secret)).length = 12 ∧
    ∀ part ∈ groups (keyOf secret), part.length = 4 := by
  obtain ⟨isLong, -⟩ := keyOf_spec secret
  unfold groups
  rw [isLong]
  constructor
  · rw [List.length_map, List.length_range]
    rfl
  · intro part member
    obtain ⟨index, inKey, rfl⟩ := List.mem_map.mp member
    have small : index < 12 := List.mem_range.mp inKey
    rw [List.length_take, List.length_drop, isLong]
    unfold recoveryKeyGroup
    omega

theorem decode_set_ne {secret : Secret} (index : Fin (keyOf secret).length) {unit : UInt16}
    (isOther : unit ≠ (keyOf secret)[index]) :
    decodeRecoveryKey ((keyOf secret).set index unit) ≠ .ok secret.1 := by
  intro isRead
  have isKey := decodeRecoveryKey_eq_ok_iff_keyOf.mp isRead
  have isThere : unit ∈ (keyOf secret).set index unit := List.mem_set index.2 unit
  cases isSpace : isWhitespace unit with
  | true =>
    have shorter : (stripWhitespace ((keyOf secret).set index unit)).length <
        ((keyOf secret).set index unit).length :=
      List.length_filter_lt_length_iff_exists.mpr ⟨unit, isThere, by
        rw [isSpace]
        exact Bool.false_ne_true⟩
    rw [isKey, List.length_set] at shorter
    exact Nat.lt_irrefl _ shorter
  | false =>
    rw [stripWhitespace_eq_self ?_] at isKey
    · have same := congrArg (fun key : Units => key[index.1]?) isKey
      rw [List.getElem?_set_self index.2, List.getElem?_eq_getElem index.2] at same
      exact isOther (Option.some.inj same)
    · intro other member
      rcases List.mem_or_eq_of_mem_set member with inKey | rfl
      · exact visible_of_mem_keyOf other inKey
      · exact isSpace

theorem writtenDown (secret : Secret) : WrittenDown secret (keyOf secret) where
  written := encodeRecoveryKey_secret secret
  inAlphabet := by
    refine (keyOf_spec secret).imp_right fun each unit member => ?_
    obtain ⟨digit, small, rfl⟩ := each unit member
    exact symbol_mem small
  grouped := ⟨groups (keyOf secret), (groups_keyOf secret).1, (groups_keyOf secret).2,
    flatten_groups (keyOf secret), by rw [groupRecoveryKey, stripWhitespace_keyOf]⟩
  groupedTwice := groupRecoveryKey_groupRecoveryKey (keyOf secret)
  spaced text isSpaced := decodeRecoveryKey_eq_ok_iff_keyOf.mpr
    ((stripWhitespace_of_spaced isSpaced).trans (stripWhitespace_keyOf secret))
  ones count positive bytes isRead := by
    have isLong := length_of_decode_visible (fun unit member => by
      rcases List.mem_append.mp member with isOne | inKey
      · rw [List.eq_of_mem_replicate isOne]
        exact (isSymbol (by decide)).visible
      · exact visible_of_mem_keyOf unit inKey) isRead
    rw [List.length_append, List.length_replicate, (keyOf_spec secret).1] at isLong
    omega
  missing index inKey bytes isRead := by
    have isLong := length_of_decode_visible (fun unit member =>
      visible_of_mem_keyOf unit (List.mem_of_mem_eraseIdx member)) isRead
    rw [List.length_eraseIdx_of_lt inKey, (keyOf_spec secret).1] at isLong
    omega
  additional index inKey unit visible bytes isRead := by
    have isLong := length_of_decode_visible (fun other member => by
      rcases (List.mem_insertIdx inKey).mp member with rfl | isThere
      · exact visible
      · exact visible_of_mem_keyOf other isThere) isRead
    rw [List.length_insertIdx_of_le_length inKey, (keyOf_spec secret).1] at isLong
    omega
  replaced index unit isOther := decode_set_ne index isOther
  swapped first second differ isRead := by
    have isKey := decodeRecoveryKey_eq_ok_iff_keyOf.mp isRead
    have inKey : ∀ unit ∈ ((keyOf secret).set first (keyOf secret)[second]).set second
        (keyOf secret)[first], unit ∈ keyOf secret := by
      intro unit member
      rcases List.mem_or_eq_of_mem_set member with stillThere | rfl
      · rcases List.mem_or_eq_of_mem_set stillThere with stillThere | rfl
        · exact stillThere
        · exact List.getElem_mem second.2
      · exact List.getElem_mem first.2
    rw [stripWhitespace_eq_self fun unit member => visible_of_mem_keyOf unit (inKey unit member)]
      at isKey
    have same := congrArg (fun key : Units => key[second.1]?) isKey
    rw [List.getElem?_set_self (by rw [List.length_set]; exact second.2),
      List.getElem?_eq_getElem second.2] at same
    exact differ (Option.some.inj same)

/-- A recovery key survives being written down, and nothing is a key but what is written as one. -/
theorem survives_writing :
    (∀ secret : Secret, ∃ key, WrittenDown secret key) ∧
      ∀ text, (∃ bytes, decodeRecoveryKey text = .ok bytes) ↔
        ∃ secret : Secret, encodeRecoveryKey secret.1 = .ok (stripWhitespace text) := by
  refine ⟨fun secret => ⟨keyOf secret, writtenDown secret⟩, fun text => ⟨?_, ?_⟩⟩
  · rintro ⟨bytes, isRead⟩
    obtain ⟨secret, rfl, -⟩ := exists_secret_of_decode isRead
    exact ⟨secret, decodeRecoveryKey_eq_ok_iff.mp isRead⟩
  · rintro ⟨secret, isWritten⟩
    exact ⟨secret.1, decodeRecoveryKey_eq_ok_iff.mpr isWritten⟩

end Twalk.RecoveryKey
