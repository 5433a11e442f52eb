/-
This file is what programs do to text that the standard string functions do not
do alike: trimming by the Unicode white space property, reading a text as
characters, and the order of texts.
-/

import Mathlib.Data.List.Basic
import Mathlib.Data.List.DropRight

namespace Twalk.Text

def isWhiteSpace (character : Char) : Bool :=
  let code := character.toNat
  (9 ≤ code && code ≤ 13) || code == 0x20 || code == 0x85 || code == 0xa0 || code == 0x1680 ||
    (0x2000 ≤ code && code ≤ 0x200a) || code == 0x2028 || code == 0x2029 || code == 0x202f ||
    code == 0x205f || code == 0x3000

def trim (text : String) : String :=
  String.ofList
    ((text.toList.dropWhile isWhiteSpace).reverse.dropWhile isWhiteSpace).reverse

/-- A printable text in quotes, as the debug format of the programs writes it. -/
def debug (text : String) : String :=
  "\"" ++ String.join (text.toList.map fun character =>
    match character.toNat with
    | 0x00 => "\\0"
    | 0x09 => "\\t"
    | 0x0a => "\\n"
    | 0x0d => "\\r"
    | 0x22 => "\\\""
    | 0x5c => "\\\\"
    | _ => character.toString) ++ "\""

def count (text : String) : Nat := text.toList.length

def contains (text needle : String) : Bool :=
  text.toList.tails.any fun rest => needle.toList.isPrefixOf rest

/-- What stands before and after the first occurrence of a character. -/
def splitOnce (separator : Char) (text : String) : Option (String × String) :=
  match text.toList.dropWhile fun character => character != separator with
  | [] => none
  | _ :: rest =>
    some (String.ofList (text.toList.takeWhile fun character => character != separator),
      String.ofList rest)

/-- The parts of a text between the occurrences of a character. -/
def split (separator : Char) (text : String) : List String :=
  (text.toList.splitOn separator).map String.ofList

def withoutCarriageReturn (line : String) : String :=
  if line.toList.getLast? = some '\r' then String.ofList line.toList.dropLast else line

/-- The lines of a text: what stands before each line feed, without a carriage return at its end,
and what stands after the last one when that is not empty. -/
def lines (text : String) : List String :=
  (split '\n' text).dropLast.map withoutCarriageReturn ++
    ((split '\n' text).getLast?.filter fun last => last != "").toList

def words (text : String) : List String :=
  ((text.toList.splitOnP isWhiteSpace).filter fun word => !word.isEmpty).map String.ofList

/-! ### Splitting -/

variable {separator : Char}

theorem splitOnce_append {front : List Char} (absent : separator ∉ front) (back : List Char) :
    splitOnce separator (String.ofList (front ++ separator :: back)) =
      some (String.ofList front, String.ofList back) := by
  have plain : ∀ character ∈ front, (character != separator) = true := by
    intro character member
    rw [bne_iff_ne]
    rintro rfl
    exact absent member
  unfold splitOnce
  rw [String.toList_ofList, List.dropWhile_append_of_pos plain,
    List.takeWhile_append_of_pos plain, List.dropWhile_cons_of_neg (by simp),
    List.takeWhile_cons_of_neg (by simp), List.append_nil]

theorem apart_of_mem_splitOnP {Item : Type} {isApart : Item → Bool} {whole part : List Item}
    (member : part ∈ whole.splitOnP isApart) : ∀ item ∈ part, isApart item = false := by
  induction whole generalizing part with
  | nil =>
    rw [List.splitOnP_nil, List.mem_singleton] at member
    rw [member]
    exact nofun
  | cons first rest inductionHypothesis =>
    rw [List.splitOnP_cons_eq_if_modifyHead] at member
    split at member
    · rcases List.mem_cons.mp member with rfl | inRest
      · exact nofun
      · exact inductionHypothesis inRest
    · rename_i isPart
      obtain ⟨head, tail, parts⟩ := List.exists_cons_of_ne_nil (List.splitOnP_ne_nil isApart rest)
      rw [parts, List.modifyHead_cons] at member
      rcases List.mem_cons.mp member with rfl | inTail
      · intro item isItem
        rcases List.mem_cons.mp isItem with rfl | inHead
        · exact Bool.eq_false_iff.mpr isPart
        · exact inductionHypothesis (parts ▸ List.mem_cons_self) item inHead
      · exact inductionHypothesis (parts ▸ List.mem_cons_of_mem _ inTail)

theorem notMem_of_mem_splitOn {mark : Char} {text part : List Char}
    (member : part ∈ text.splitOn mark) : mark ∉ part := by
  rw [List.splitOn_eq_splitOnP] at member
  intro isMark
  have apart := apart_of_mem_splitOnP member mark isMark
  rw [beq_self_eq_true] at apart
  cases apart

theorem append_cons_inj_of_front {Item : Type} {separator : Item}
    {front back otherFront otherBack : List Item} (absent : separator ∉ front)
    (absentToo : separator ∉ otherFront)
    (same : front ++ separator :: back = otherFront ++ separator :: otherBack) :
    front = otherFront ∧ back = otherBack := by
  rcases List.append_eq_append_iff.mp same with ⟨between, isFront, isBack⟩ |
    ⟨between, isFront, isBack⟩
  · cases between with
    | nil => exact ⟨by rw [isFront, List.append_nil], (List.cons.inj isBack).2⟩
    | cons first between =>
      rw [← (List.cons.inj isBack).1] at isFront
      exact absurd (isFront ▸ List.mem_append_right _ List.mem_cons_self) absentToo
  · cases between with
    | nil => exact ⟨by rw [isFront, List.append_nil], (List.cons.inj isBack).2.symm⟩
    | cons first between =>
      rw [← (List.cons.inj isBack).1] at isFront
      exact absurd (isFront ▸ List.mem_append_right _ List.mem_cons_self) absent

theorem append_cons_inj_of_back {Item : Type} {separator : Item}
    {front back otherFront otherBack : List Item} (absent : separator ∉ back)
    (absentToo : separator ∉ otherBack)
    (same : front ++ separator :: back = otherFront ++ separator :: otherBack) :
    front = otherFront ∧ back = otherBack := by
  have reversed := congrArg List.reverse same
  rw [List.reverse_append, List.reverse_append, List.reverse_cons, List.reverse_cons,
    List.append_assoc, List.append_assoc, List.singleton_append, List.singleton_append] at reversed
  obtain ⟨isBack, isFront⟩ := append_cons_inj_of_front
    (fun member => absent (List.mem_reverse.mp member))
    (fun member => absentToo (List.mem_reverse.mp member)) reversed
  exact ⟨List.reverse_injective isFront, List.reverse_injective isBack⟩

theorem toList_of_splitOnce {text front back : String}
    (isSplit : splitOnce separator text = some (front, back)) :
    text.toList = front.toList ++ separator :: back.toList := by
  unfold splitOnce at isSplit
  split at isSplit
  · cases isSplit
  · rename_i first rest isRest
    obtain ⟨rfl, rfl⟩ := Prod.mk.inj (Option.some.inj isSplit)
    have isSeparator := List.head_dropWhile_not (fun character => character != separator)
      (show text.toList.dropWhile (fun character => character != separator) ≠ [] by
        rw [isRest]
        exact List.cons_ne_nil _ _)
    simp only [isRest, List.head_cons, bne_eq_false_iff_eq] at isSeparator
    rw [String.toList_ofList, String.toList_ofList, ← isSeparator, ← isRest,
      isSeparator, List.takeWhile_append_dropWhile]

/-! ### The end of a text -/

def trimEnd (characters : List Char) : List Char :=
  (characters.reverse.dropWhile isWhiteSpace).reverse

theorem trimEnd_isPrefix (characters : List Char) : trimEnd characters <+: characters := by
  have suffix := List.dropWhile_suffix isWhiteSpace (l := characters.reverse)
  have reversed := List.reverse_prefix.mpr suffix
  rwa [List.reverse_reverse] at reversed

variable {character : Char}

theorem trimEnd_append_cons (visible : isWhiteSpace character = false) (front back : List Char) :
    trimEnd (front ++ character :: back) = front ++ character :: trimEnd back := by
  unfold trimEnd
  rw [List.reverse_append, List.reverse_cons, List.append_assoc, List.dropWhile_append]
  cases rest : back.reverse.dropWhile isWhiteSpace with
  | nil => simp [visible]
  | cons first others => simp

theorem trimEnd_of_visible {front : List Char} {last : Char} (visible : isWhiteSpace last = false) :
    trimEnd (front ++ [last]) = front ++ [last] := by
  rw [trimEnd_append_cons visible]
  rfl

theorem toList_trim (text : String) :
    (trim text).toList = trimEnd (text.toList.dropWhile isWhiteSpace) := by
  unfold trim trimEnd
  rw [String.toList_ofList]

variable {characters : List Char}

theorem dropWhile_of_visible (visible : ∀ character ∈ characters, isWhiteSpace character = false) :
    characters.dropWhile isWhiteSpace = characters := by
  cases characters with
  | nil => rfl
  | cons first rest =>
    exact List.dropWhile_cons_of_neg (by rw [visible first List.mem_cons_self]; exact nofun)

variable {text : String}

theorem trim_of_visible (visible : ∀ character ∈ text.toList, isWhiteSpace character = false) :
    trim text = text := by
  unfold trim
  rw [dropWhile_of_visible visible,
    dropWhile_of_visible fun character member => visible character (List.mem_reverse.mp member),
    List.reverse_reverse, String.ofList_toList]

theorem mem_of_mem_trim (member : character ∈ (trim text).toList) : character ∈ text.toList := by
  rw [toList_trim] at member
  exact (List.dropWhile_suffix isWhiteSpace).mem ((trimEnd_isPrefix _).mem member)

theorem dropWhile_trimEnd (characters : List Char) :
    (trimEnd (characters.dropWhile isWhiteSpace)).dropWhile isWhiteSpace =
      trimEnd (characters.dropWhile isWhiteSpace) := by
  cases kept : trimEnd (characters.dropWhile isWhiteSpace) with
  | nil => rfl
  | cons first rest =>
    obtain ⟨back, isBack⟩ := trimEnd_isPrefix (characters.dropWhile isWhiteSpace)
    rw [kept, List.cons_append] at isBack
    have starts := List.head?_dropWhile_not isWhiteSpace characters
    rw [← isBack] at starts
    exact List.dropWhile_cons_of_neg (by simpa using starts)

theorem trimEnd_trimEnd (characters : List Char) :
    trimEnd (trimEnd characters) = trimEnd characters := by
  unfold trimEnd
  rw [List.reverse_reverse, List.dropWhile_idempotent]

theorem trim_trim (text : String) : trim (trim text) = trim text := by
  refine String.toList_inj.mp ?_
  rw [toList_trim (trim text), toList_trim text, dropWhile_trimEnd, trimEnd_trimEnd]

theorem trim_withoutCarriageReturn (line : String) :
    trim (withoutCarriageReturn line) = trim line := by
  unfold withoutCarriageReturn
  split
  · rename_i ends
    obtain ⟨front, isFront⟩ := List.getLast?_eq_some_iff.mp ends
    rw [isFront, List.dropLast_concat]
    refine String.toList_inj.mp ?_
    rw [toList_trim, toList_trim, isFront, String.toList_ofList, List.dropWhile_append]
    cases rest : front.dropWhile isWhiteSpace with
    | nil => decide
    | cons first others =>
      unfold trimEnd
      rw [if_neg (by simp), List.reverse_append]
      rfl
  · rfl

theorem visible_of_any (invisible : characters.any isWhiteSpace = false) :
    ∀ character ∈ characters, isWhiteSpace character = false :=
  fun character member => Bool.eq_false_iff.mpr (List.any_eq_false.mp invisible character member)

variable {word : List Char}

theorem head?_words (isSome : word ≠ [])
    (visible : ∀ character ∈ word, isWhiteSpace character = false) {rest : List Char}
    (apart : ∀ character ∈ rest.head?, isWhiteSpace character = true) :
    (words (String.ofList (word ++ rest))).head? = some (String.ofList word) := by
  have kept : (!word.isEmpty) = true := by
    rw [Bool.not_eq_true', List.isEmpty_eq_false_iff]
    exact isSome
  have first : ∃ others, (word ++ rest).splitOnP isWhiteSpace = word :: others := by
    cases rest with
    | nil => exact ⟨[], by rw [List.append_nil, List.splitOnP_eq_singleton visible]⟩
    | cons separator others =>
      exact ⟨_, List.splitOnP_append_cons_of_forall_mem visible separator (apart separator rfl) _⟩
  obtain ⟨others, isFirst⟩ := first
  unfold words
  rw [String.toList_ofList, isFirst, List.filter_cons, if_pos kept]
  rfl

theorem words_cons (isSome : word ≠ [])
    (visible : ∀ character ∈ word, isWhiteSpace character = false)
    (apart : isWhiteSpace separator = true) (rest : List Char) :
    words (String.ofList (word ++ separator :: rest)) =
      String.ofList word :: words (String.ofList rest) := by
  have kept : (!word.isEmpty) = true := by
    rw [Bool.not_eq_true', List.isEmpty_eq_false_iff]
    exact isSome
  unfold words
  rw [String.toList_ofList, String.toList_ofList,
    List.splitOnP_append_cons_of_forall_mem visible separator apart, List.filter_cons, if_pos kept]
  rfl

theorem words_singleton (isSome : word ≠ [])
    (visible : ∀ character ∈ word, isWhiteSpace character = false) :
    words (String.ofList word) = [String.ofList word] := by
  have kept : (!word.isEmpty) = true := by
    rw [Bool.not_eq_true', List.isEmpty_eq_false_iff]
    exact isSome
  unfold words
  rw [String.toList_ofList, List.splitOnP_eq_singleton visible, List.filter_cons, if_pos kept]
  rfl

/-! ### Words of characters -/

def wordsOf (characters : List Char) : List (List Char) :=
  (characters.splitOnP isWhiteSpace).filter fun word => !word.isEmpty

theorem wordsOf_nil : wordsOf [] = [] := rfl

theorem wordsOf_append_cons {separator : Char} (white : isWhiteSpace separator = true)
    (front back : List Char) :
    wordsOf (front ++ separator :: back) = wordsOf front ++ wordsOf back := by
  unfold wordsOf
  rw [List.splitOnP_append_cons front back white, List.filter_append]

theorem wordsOf_cons {separator : Char} (white : isWhiteSpace separator = true)
    (back : List Char) : wordsOf (separator :: back) = wordsOf back :=
  wordsOf_append_cons white [] back

theorem wordsOf_append_white {white : List Char} (allWhite : white.all isWhiteSpace = true)
    (front back : List Char) :
    wordsOf (white ++ back) = wordsOf back ∧ wordsOf (front ++ white) = wordsOf front := by
  induction white generalizing front with
  | nil => exact ⟨rfl, by rw [List.append_nil]⟩
  | cons separator rest inductionHypothesis =>
    rw [List.all_cons, Bool.and_eq_true] at allWhite
    have ends := inductionHypothesis allWhite.2
    refine ⟨?_, ?_⟩
    · rw [List.cons_append, wordsOf_cons allWhite.1]
      exact (ends front).1
    · have none := (ends []).2
      rw [List.nil_append] at none
      rw [wordsOf_append_cons allWhite.1, none, wordsOf_nil, List.append_nil]

theorem wordsOf_trim (text : String) : wordsOf (trim text).toList = wordsOf text.toList := by
  have ends : ∀ characters : List Char, (characters.takeWhile isWhiteSpace).all isWhiteSpace =
      true := fun characters => List.all_takeWhile
  have front := (wordsOf_append_white (ends text.toList) []
    (text.toList.dropWhile isWhiteSpace)).1
  rw [List.takeWhile_append_dropWhile] at front
  have back : ∀ characters : List Char, wordsOf (trimEnd characters) = wordsOf characters := by
    intro characters
    have isWhole : trimEnd characters ++ (characters.reverse.takeWhile isWhiteSpace).reverse =
        characters := by
      unfold trimEnd
      rw [← List.reverse_append, List.takeWhile_append_dropWhile, List.reverse_reverse]
    have white := (@wordsOf_append_white (characters.reverse.takeWhile
      isWhiteSpace).reverse (by rw [List.all_reverse]; exact ends _) (trimEnd characters) []).2
    rw [isWhole] at white
    exact white.symm
  rw [toList_trim, back, front]

theorem wordsOf_intercalate {separator : Char} (white : isWhiteSpace separator = true)
    (lines : List (List Char)) :
    wordsOf ([separator].intercalate lines) = lines.flatMap wordsOf := by
  induction lines with
  | nil => rfl
  | cons line rest inductionHypothesis =>
    cases rest with
    | nil =>
      rw [List.intercalate_singleton, List.flatMap_cons, List.flatMap_nil, List.append_nil]
    | cons next others =>
      rw [List.intercalate_cons_cons, List.append_assoc, List.singleton_append,
        wordsOf_append_cons white, inductionHypothesis]
      rfl

theorem wordsOf_intercalate_wordsOf {separator : Char} (white : isWhiteSpace separator = true)
    (line : List Char) : wordsOf ([separator].intercalate (wordsOf line)) = wordsOf line := by
  have each : ∀ word ∈ wordsOf line, wordsOf word = [word] := by
    intro word member
    obtain ⟨inSplit, isSome⟩ := List.mem_filter.mp member
    unfold wordsOf
    rw [List.splitOnP_eq_singleton (apart_of_mem_splitOnP inSplit), List.filter_cons, if_pos isSome]
    rfl
  rw [wordsOf_intercalate white, List.flatMap_congr each, List.flatMap_singleton']

/-! ### ASCII case -/

def toAsciiLowercase (text : String) : String := String.ofList (text.toList.map Char.toLower)

def toAsciiUppercase (text : String) : String := String.ofList (text.toList.map Char.toUpper)

theorem toLower_cases (character : Char) :
    (65 ≤ character.toNat ∧ character.toNat ≤ 90 ∧
      character.toLower.toNat = character.toNat + 32) ∨
      (¬ (65 ≤ character.toNat ∧ character.toNat ≤ 90) ∧ character.toLower = character) := by
  unfold Char.toLower
  split
  · rename_i capital
    obtain ⟨low, high⟩ := capital
    have atLeast : 65 ≤ character.toNat := UInt32.le_iff_toNat_le.mp low
    have atMost : character.toNat ≤ 90 := UInt32.le_iff_toNat_le.mp high
    refine Or.inl ⟨atLeast, atMost, ?_⟩
    change (character.val + 32).toNat = character.val.toNat + 32
    rw [UInt32.toNat_add]
    change (character.val.toNat + 32) % 4294967296 = character.val.toNat + 32
    exact Nat.mod_eq_of_lt (by change character.val.toNat ≤ 90 at atMost; omega)
  · rename_i noCapital
    refine Or.inr ⟨fun capital => noCapital ⟨?_, ?_⟩, rfl⟩
    · exact UInt32.le_iff_toNat_le.mpr capital.1
    · exact UInt32.le_iff_toNat_le.mpr capital.2

theorem isIn_toLower {isIn : Char → Bool}
    (alike : ∀ character small : Char, 65 ≤ character.toNat → character.toNat ≤ 90 →
      small.toNat = character.toNat + 32 → isIn small = isIn character) (character : Char) :
    isIn character.toLower = isIn character := by
  rcases toLower_cases character with ⟨low, high, lowered⟩ | ⟨-, same⟩
  · exact alike character _ low high lowered
  · rw [same]

theorem toLower_eq_iff {character other : Char} (noLetter : other.toNat < 65 ∨ 122 < other.toNat) :
    character.toLower = other ↔ character = other := by
  rcases toLower_cases character with ⟨low, high, lowered⟩ | ⟨-, same⟩
  · refine ⟨fun isOther => ?_, fun isOther => ?_⟩
    · rw [isOther] at lowered
      omega
    · rw [isOther] at low high
      omega
  · rw [same]

theorem map_toLower_eq_iff {text front back : List Char}
    (noLetter : separator.toNat < 65 ∨ 122 < separator.toNat) :
    text.map Char.toLower = front ++ separator :: back ↔
      ∃ before after, text = before ++ separator :: after ∧ before.map Char.toLower = front ∧
        after.map Char.toLower = back := by
  rw [List.map_eq_append_iff]
  constructor
  · rintro ⟨before, rest, rfl, isFront, isRest⟩
    obtain ⟨character, after, rfl, lowered, isBack⟩ := List.map_eq_cons_iff.mp isRest
    exact ⟨before, after, by rw [(toLower_eq_iff noLetter).mp lowered], isFront, isBack⟩
  · rintro ⟨before, after, rfl, isFront, isBack⟩
    refine ⟨before, separator :: after, rfl, isFront, ?_⟩
    rw [List.map_cons, isBack, (toLower_eq_iff noLetter).mpr rfl]

theorem toLower_of_isLower (isLower : character.isLower = true) :
    character.toLower = character := by
  unfold Char.toLower
  rw [dif_neg]
  rintro ⟨_, high⟩
  unfold Char.isLower at isLower
  rw [Bool.and_eq_true, decide_eq_true_eq, decide_eq_true_eq] at isLower
  exact absurd (UInt32.le_trans isLower.1 high) (by decide)

theorem toAsciiLowercase_of_isLower (isLower : text.toList.all Char.isLower = true) :
    toAsciiLowercase text = text := by
  have same : text.toList.map Char.toLower = text.toList :=
    (List.map_congr_left fun character member =>
      toLower_of_isLower (List.all_eq_true.mp isLower character member)).trans (List.map_id _)
  unfold toAsciiLowercase
  rw [same, String.ofList_toList]

def stripAsciiCase (start text : String) : Option String :=
  if (text.toList.take start.toList.length).map Char.toLower = start.toList.map Char.toLower then
    some (String.ofList (text.toList.drop start.toList.length))
  else none

/-! ### Bytes -/

theorem utf8ByteSize_of_narrow (narrow : ∀ character ∈ characters, character.utf8Size = 1) :
    (String.ofList characters).utf8ByteSize = characters.length := by
  induction characters with
  | nil => rfl
  | cons first rest inductionHypothesis =>
    rw [String.ofList_cons, String.utf8ByteSize_append, String.utf8ByteSize_singleton,
      narrow first List.mem_cons_self,
      inductionHypothesis fun other member => narrow other (List.mem_cons_of_mem _ member),
      List.length_cons, Nat.add_comm]

theorem length_le_utf8ByteSize (characters : List Char) :
    characters.length ≤ (String.ofList characters).utf8ByteSize := by
  induction characters with
  | nil => exact Nat.zero_le _
  | cons first rest inductionHypothesis =>
    rw [String.ofList_cons, String.utf8ByteSize_append, String.utf8ByteSize_singleton,
      List.length_cons]
    have wide := first.utf8Size_pos
    omega

/-! ### Numerals -/

def decimal (digits : List Char) : Nat :=
  digits.foldl (fun value digit => value * 10 + (digit.toNat - '0'.toNat)) 0

/-- The unsigned number below a limit that a text spells, in decimal digits that a plus sign may
stand before. -/
def parseUnsigned (limit : Nat) (text : String) : Option Nat :=
  let digits := match text.toList with
    | '+' :: rest => rest
    | others => others
  if digits ≠ [] ∧ digits.all Char.isDigit ∧ decimal digits < limit then some (decimal digits)
  else none

theorem parseUnsigned_of_digits {limit : Nat} {digits : List Char} (nonempty : digits ≠ [])
    (areDigits : ∀ digit ∈ digits, digit.isDigit = true) (small : decimal digits < limit) :
    parseUnsigned limit (String.ofList digits) = some (decimal digits) := by
  cases digits with
  | nil => exact absurd rfl nonempty
  | cons first rest =>
    have unsigned : first ≠ '+' := by
      rintro rfl
      exact absurd (areDigits '+' List.mem_cons_self) (by decide)
    have isUnsigned : (match first :: rest with
        | '+' :: rest => rest
        | others => others) = first :: rest := by
      split
      · rename_i signed
        exact absurd (List.cons.inj signed).1 unsigned
      · rfl
    unfold parseUnsigned
    rw [String.toList_ofList]
    dsimp only
    rw [isUnsigned, if_pos ⟨nonempty, List.all_eq_true.mpr areDigits, small⟩]

end Twalk.Text
