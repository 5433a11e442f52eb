/-
This file is the theory of texts that are kept as code points. A surrogate may stand alone in
such a text, and then the text has no encoding. One that has is as long in characters as it is
in code points, so that what is cut to a length before it is encoded keeps to that length.
-/

import Mathlib.Data.List.DropRight
import Twalk.Library.Text

namespace Twalk

abbrev CodePoint := Fin 0x110000

namespace CodePoints

/-! ### Encoding -/

def scalar (point : CodePoint) : Option Char :=
  if valid : point.val.isValidChar then some (Char.ofNatAux point.val valid) else none

/-- The encoding of a text in which no surrogate stands. -/
def encode (points : List CodePoint) : Option String := (points.mapM scalar).map String.ofList

def ofChar (character : Char) : CodePoint :=
  ⟨character.toNat, by
    rcases character.valid with low | ⟨-, high⟩
    · exact Nat.lt_trans low (by decide)
    · exact high⟩

def ofText (text : String) : List CodePoint := text.toList.map ofChar

variable {point : CodePoint}

theorem scalar_eq_some_iff {character : Char} :
    scalar point = some character ↔ point = ofChar character := by
  unfold scalar
  constructor
  · intro isScalar
    by_cases valid : point.val.isValidChar
    · rw [dif_pos valid] at isScalar
      cases isScalar
      rfl
    · rw [dif_neg valid] at isScalar
      cases isScalar
  · rintro rfl
    rw [dif_pos (show (ofChar character).val.isValidChar from character.valid)]
    refine congrArg some (Char.ext ?_)
    rfl

variable {points : List CodePoint}

theorem mapM_scalar_eq_some_iff {characters : List Char} :
    points.mapM scalar = some characters ↔ points = characters.map ofChar := by
  induction points generalizing characters with
  | nil => cases characters <;> simp
  | cons point rest inductionHypothesis =>
    rw [List.mapM_cons]
    constructor
    · intro isText
      obtain ⟨character, isScalar, isText⟩ := Option.bind_eq_some_iff.mp isText
      obtain ⟨others, isRest, isText⟩ := Option.bind_eq_some_iff.mp isText
      cases isText
      rw [scalar_eq_some_iff.mp isScalar, inductionHypothesis.mp isRest, List.map_cons]
    · intro isMapped
      cases characters with
      | nil => cases isMapped
      | cons character others =>
        obtain ⟨isFirst, isRest⟩ := List.cons.inj isMapped
        rw [scalar_eq_some_iff.mpr isFirst, inductionHypothesis.mpr isRest]
        rfl

theorem encode_eq_some_iff {text : String} :
    encode points = some text ↔ points = ofText text := by
  unfold encode ofText
  rw [Option.map_eq_some_iff]
  constructor
  · rintro ⟨characters, isText, rfl⟩
    rw [String.toList_ofList]
    exact mapM_scalar_eq_some_iff.mp isText
  · intro isText
    exact ⟨text.toList, mapM_scalar_eq_some_iff.mpr isText, String.ofList_toList⟩

theorem length_of_encode_take {most : Nat} {text : String}
    (encoded : encode (points.take most) = some text) : text.toList.length ≤ most := by
  have isCut := congrArg List.length (encode_eq_some_iff.mp encoded)
  unfold ofText at isCut
  rw [List.length_map] at isCut
  rw [← isCut]
  exact List.length_take_le most points

/-! ### White space and letters -/

/-- The white space of a language that counts the four separators of ASCII as such. -/
def isSpace (point : CodePoint) : Bool :=
  let code := point.val
  (9 ≤ code && code ≤ 13) || (28 ≤ code && code ≤ 32) || code == 0x85 || code == 0xa0 ||
    code == 0x1680 || (0x2000 ≤ code && code ≤ 0x200a) || code == 0x2028 || code == 0x2029 ||
    code == 0x202f || code == 0x205f || code == 0x3000

/-- A text without the white space around it. -/
def strip (points : List CodePoint) : List CodePoint :=
  (points.dropWhile isSpace).rdropWhile isSpace

def asciiLower (point : CodePoint) : CodePoint :=
  if letter : 65 ≤ point.val ∧ point.val ≤ 90 then ⟨point.val + 32, by omega⟩ else point

/-- Lower-casing by the whole of a language's tables. What is said of it here is what it makes of
the ASCII characters a text begins with. -/
structure Lowercasing where
  lower : List CodePoint → List CodePoint
  ascii : ∀ front back, (∀ point ∈ front, point.val < 128) →
    front.map asciiLower <+: lower (front ++ back)

/-- What one code point becomes in lower case. Two that are not ASCII become ASCII letters, one of
them with a dot above. -/
def LowersTo (point : CodePoint) (part : List CodePoint) : Prop :=
  if point.val < 128 then part = [asciiLower point]
  else if point.val = 0x130 then part = [ofChar 'i', 0x307]
  else if point.val = 0x212A then part = [ofChar 'k']
  else part ≠ [] ∧ ∀ lowered ∈ part, 128 ≤ lowered.val

inductive Lowers : List CodePoint → List CodePoint → Prop
  | nil : Lowers [] []
  | cons {point : CodePoint} {part rest lowered : List CodePoint} (one : LowersTo point part)
      (later : Lowers rest lowered) : Lowers (point :: rest) (part ++ lowered)

theorem lowersTo_ascii (isAscii : point.val < 128) {part : List CodePoint} :
    LowersTo point part ↔ part = [asciiLower point] := by
  unfold LowersTo
  rw [if_pos isAscii]

theorem Lowers.ascii {front back lowered : List CodePoint}
    (isAscii : ∀ point ∈ front, point.val < 128) (lowers : Lowers (front ++ back) lowered) :
    front.map asciiLower <+: lowered := by
  induction front generalizing lowered with
  | nil => exact List.nil_prefix
  | cons point rest inductionHypothesis =>
    obtain ⟨isFirst, others⟩ := List.forall_mem_cons.mp isAscii
    cases lowers with
    | cons one later =>
      rw [lowersTo_ascii isFirst] at one
      rw [one, List.map_cons]
      exact List.cons_prefix_cons.mpr ⟨rfl, inductionHypothesis others later⟩

theorem Lowers.of_ascii {points lowered : List CodePoint}
    (isAscii : ∀ point ∈ points, point.val < 128) (lowers : Lowers points lowered) :
    lowered = points.map asciiLower := by
  induction lowers with
  | nil => rfl
  | cons one later inductionHypothesis =>
    obtain ⟨isFirst, others⟩ := List.forall_mem_cons.mp isAscii
    rw [(lowersTo_ascii isFirst).mp one, inductionHypothesis others]
    rfl

theorem LowersTo.ne_nil {part : List CodePoint} (lowersTo : LowersTo point part) : part ≠ [] := by
  unfold LowersTo at lowersTo
  split_ifs at lowersTo
  · rw [lowersTo]
    exact List.cons_ne_nil _ _
  · rw [lowersTo]
    exact List.cons_ne_nil _ _
  · rw [lowersTo]
    exact List.cons_ne_nil _ _
  · exact lowersTo.1

theorem Lowers.of_nil {points lowered : List CodePoint} (lowers : Lowers points lowered)
    (isNil : lowered = []) : points = [] := by
  cases lowers with
  | nil => rfl
  | cons one later => exact absurd (List.append_eq_nil_iff.mp isNil).1 one.ne_nil

theorem Lowers.head_ascii {points lowered more : List CodePoint} {first : CodePoint}
    (lowers : Lowers points lowered) (isLowered : lowered = first :: more)
    (isAscii : first.val < 128) (notKelvin : first ≠ ofChar 'k')
    (notDotted : first = ofChar 'i' → more.head? ≠ some 0x307) :
    ∃ point rest, points = point :: rest ∧ point.val < 128 ∧ first = asciiLower point ∧
      Lowers rest more := by
  cases lowers with
  | nil => cases isLowered
  | @cons point part rest lowered one later =>
    unfold LowersTo at one
    split_ifs at one with plain dotted kelvin
    · rw [one] at isLowered
      obtain ⟨rfl, rfl⟩ := List.cons.inj isLowered
      exact ⟨point, rest, rfl, plain, rfl, later⟩
    · rw [one] at isLowered
      obtain ⟨rfl, rfl⟩ := List.cons.inj isLowered
      exact absurd rfl (notDotted rfl)
    · rw [one] at isLowered
      exact absurd (List.cons.inj isLowered).1.symm notKelvin
    · cases part with
      | nil => exact absurd rfl one.1
      | cons wide others =>
        have isWide := one.2 wide List.mem_cons_self
        rw [(List.cons.inj isLowered).1] at isWide
        omega

structure UnicodeLowercasing where
  lower : List CodePoint → List CodePoint
  lowers : ∀ points, Lowers points (lower points)

def UnicodeLowercasing.toLowercasing (unicode : UnicodeLowercasing) : Lowercasing where
  lower := unicode.lower
  ascii := fun front back isAscii => (unicode.lowers (front ++ back)).ascii isAscii

theorem isSpace_ofChar {character : Char} (white : Text.isWhiteSpace character = true) :
    isSpace (ofChar character) = true := by
  unfold Text.isWhiteSpace at white
  unfold isSpace ofChar
  simp only [Bool.or_eq_true, Bool.and_eq_true, decide_eq_true_eq, beq_iff_eq] at *
  omega

theorem ofChar_injective : Function.Injective ofChar := by
  intro first second same
  have sameNat : first.toNat = second.toNat := (congrArg Fin.val same :)
  exact Char.ext (UInt32.toNat_inj.mp sameNat)

theorem asciiLower_ofChar (character : Char) :
    asciiLower (ofChar character) = ofChar character.toLower := by
  refine Fin.ext ?_
  unfold asciiLower
  rcases Text.toLower_cases character with ⟨low, high, lowered⟩ | ⟨noCapital, same⟩
  · rw [dif_pos ⟨low, high⟩]
    exact lowered.symm
  · rw [dif_neg (show ¬ (65 ≤ (ofChar character).val ∧ (ofChar character).val ≤ 90) from
      noCapital), same]

theorem prefix_rdropWhile {Item : Type} {drops : Item → Bool} {last : Item}
    (kept : drops last = false) (front back : List Item) :
    front ++ [last] <+: (front ++ last :: back).rdropWhile drops := by
  induction back using List.reverseRecOn with
  | nil =>
    have stays : (front ++ [last]).rdropWhile drops = front ++ [last] :=
      List.rdropWhile_concat_neg _ _ _ (by rw [kept]; exact Bool.false_ne_true)
    exact ⟨[], by rw [List.append_nil, stays]⟩
  | append_singleton others item inductionHypothesis =>
    rw [show front ++ last :: (others ++ [item]) = (front ++ last :: others) ++ [item] by simp,
      List.rdropWhile_concat]
    split
    · exact inductionHypothesis
    · exact ⟨others ++ [item], by simp⟩

end CodePoints

end Twalk
