/-
This file compares the two readers of a language tag: the SDK's, which strips and lowers the tag
and reads up to the first hyphen or underscore, and the Gateway's, which reads up to the first
hyphen and trims what it read.

Each answers the sentence of the language that stands first in the tag, whole, or none. They
part where an underscore or a separator of ASCII stands next to the language, and where blanks
stand between it and a hyphen.
-/

import Twalk.SuggestionReads

namespace Twalk.LanguageTags

open CodePoints

/-! ### Blanks of either reader -/

def isBlank (character : Char) : Bool := isSpace (ofChar character)

/-- A blank of the SDK's that is none of the Gateway's: the separators of ASCII. -/
def isSeparator (character : Char) : Bool := isBlank character && !Text.isWhiteSpace character

variable {character : Char}

theorem isBlank_of_isWhiteSpace (white : Text.isWhiteSpace character = true) :
    isBlank character = true := isSpace_ofChar white

def Begins (tag language : String) (lead rest : List Char) : Prop :=
  ∃ first second, tag.toList = lead ++ first :: second :: rest ∧
    (∀ character ∈ lead, isBlank character = true) ∧
      language.toList = [first.toLower, second.toLower] ∧
        ∃ sentence, (language, sentence) ∈ Approval.sentences

def SdkTakes (rest : List Char) : Prop :=
  (∀ character ∈ rest, isBlank character = true) ∨ rest.head? = some '-' ∨ rest.head? = some '_'

def GatewayTakes (lead rest : List Char) : Prop :=
  (∀ character ∈ lead, Text.isWhiteSpace character = true) ∧
    ∃ blanks tail, rest = blanks ++ tail ∧
      (∀ character ∈ blanks, Text.isWhiteSpace character = true) ∧
        (tail = [] ∨ tail.head? = some '-')

/-! ### The languages -/

variable {language sentence : String}

theorem letters_of_language (member : (language, sentence) ∈ Approval.sentences) :
    ∃ first second, language.toList = [first, second] ∧ Approval.IsLetter first ∧
      Approval.IsLetter second ∧ first ≠ 'k' ∧ second ≠ 'k' ∧ second ≠ 'i' := by
  have each : ∀ other ∈ Approval.sentences, ∃ first second, other.1.toList = [first, second] ∧
      Approval.IsLetter first ∧ Approval.IsLetter second ∧ first ≠ 'k' ∧ second ≠ 'k' ∧
        second ≠ 'i' := by
    unfold Approval.sentences Approval.IsLetter
    simp
  exact each _ member

theorem letters_of_spelt {first second : Char}
    (isLanguage : language.toList = [first.toLower, second.toLower])
    (member : (language, sentence) ∈ Approval.sentences) :
    Approval.IsLetter first.toLower ∧ Approval.IsLetter second.toLower ∧ first.toLower ≠ 'k' ∧
      second.toLower ≠ 'k' ∧ second.toLower ≠ 'i' := by
  obtain ⟨one, two, isPair, letters⟩ := letters_of_language member
  rw [isPair] at isLanguage
  obtain ⟨isFirst, isRest⟩ := List.cons.inj isLanguage
  rwa [isFirst, (List.cons.inj isRest).1] at letters

theorem visible_of_toLower (letter : Approval.IsLetter character.toLower) :
    isBlank character = false := (Approval.of_toLower letter).1

theorem find_sentence {selects : String × String → Bool}
    (member : (language, sentence) ∈ Approval.sentences)
    (selectsIt : ∀ other, selects other = true ↔ other.1 = language) :
    (Approval.sentences.find? selects).map Prod.snd = some sentence := by
  cases found : Approval.sentences.find? selects with
  | none => exact absurd ((selectsIt _).mpr rfl) (List.find?_eq_none.mp found _ member)
  | some other =>
    obtain ⟨otherLanguage, text⟩ := other
    have same := (selectsIt _).mp (List.find?_some found)
    change otherLanguage = language at same
    rw [same] at found
    rw [Option.map_some, Approval.sentence_unique (List.mem_of_find?_eq_some found) member]

theorem begins_unique {tag language other : String} {lead otherLead rest otherRest : List Char}
    (begins : Begins tag language lead rest) (otherBegins : Begins tag other otherLead otherRest) :
    language = other ∧ lead = otherLead ∧ rest = otherRest := by
  obtain ⟨first, second, isTag, blank, isLanguage, sentence, member⟩ := begins
  obtain ⟨otherFirst, otherSecond, isTag', otherBlank, isOther, otherSentence, otherMember⟩ :=
    otherBegins
  have visible : ∀ {language sentence : String} {first second : Char},
      language.toList = [first.toLower, second.toLower] →
        (language, sentence) ∈ Approval.sentences → isBlank first = false := by
    intro language sentence first second isLanguage member
    exact visible_of_toLower (letters_of_spelt isLanguage member).1
  have leadOf : ∀ {lead : List Char} {first : Char} {more : List Char},
      (∀ character ∈ lead, isBlank character = true) → isBlank first = false →
        (lead ++ first :: more).takeWhile isBlank = lead := by
    intro lead first more blank visible
    rw [List.takeWhile_append_of_pos blank, List.takeWhile_cons_of_neg (by simp [visible]),
      List.append_nil]
  have sameLead : lead = otherLead := by
    rw [← leadOf blank (visible isLanguage member), ← isTag, isTag',
      leadOf otherBlank (visible isOther otherMember)]
  rw [sameLead] at isTag
  have sameTail := List.append_cancel_left (isTag.symm.trans isTag')
  obtain ⟨isFirst, sameTail⟩ := List.cons.inj sameTail
  obtain ⟨isSecond, sameRest⟩ := List.cons.inj sameTail
  rw [isFirst, isSecond] at isLanguage
  exact ⟨String.toList_injective (isLanguage.trans isOther.symm), sameLead, sameRest⟩

/-! ### The Gateway's reading -/

theorem exists_tail_of_takeWhile {Item : Type} [DecidableEq Item] (separator : Item)
    (items : List Item) :
    ∃ tail, items = items.takeWhile (· ≠ separator) ++ tail ∧
      (tail = [] ∨ tail.head? = some separator) := by
  refine ⟨items.dropWhile (· ≠ separator), List.takeWhile_append_dropWhile.symm, ?_⟩
  cases isTail : items.dropWhile (· ≠ separator) with
  | nil => exact Or.inl rfl
  | cons first rest =>
    have stops := List.head?_dropWhile_not (fun item : Item => decide (item ≠ separator)) items
    rw [isTail] at stops
    exact Or.inr (congrArg some (of_not_not (of_decide_eq_false stops)))

theorem takeWhile_of_tail {front tail : List Char} (apart : ∀ character ∈ front, character ≠ '-')
    (ends : tail = [] ∨ tail.head? = some '-') :
    (front ++ tail).takeWhile (· ≠ '-') = front := by
  rw [List.takeWhile_append_of_pos fun character member => decide_eq_true (apart character member)]
  rcases ends with rfl | isHead
  · exact List.append_nil front
  · cases tail with
    | nil => cases isHead
    | cons first rest =>
      rw [Option.some.inj isHead, List.takeWhile_cons_of_neg (by decide), List.append_nil]

theorem exists_white_of_trimEnd (characters : List Char) :
    ∃ blanks, characters = Text.trimEnd characters ++ blanks ∧
      ∀ character ∈ blanks, Text.isWhiteSpace character = true :=
  ⟨characters.rtakeWhile Text.isWhiteSpace, (List.rdropWhile_append_rtakeWhile).symm,
    fun _ member => List.mem_rtakeWhile_imp member⟩

theorem white_ne_hyphen (white : Text.isWhiteSpace character = true) :
    character ≠ '-' := by
  rintro rfl
  cases white

theorem letter_ne_hyphen (letter : Approval.IsLetter character.toLower) :
    character ≠ '-' := by
  rintro rfl
  exact absurd letter.1 (by decide)

theorem gateway_eq_some_iff {tag sentence : String} :
    Approval.sentenceFor tag = some sentence ↔
      ∃ language lead rest, Begins tag language lead rest ∧ GatewayTakes lead rest ∧
        (language, sentence) ∈ Approval.sentences := by
  constructor
  · intro found
    have member := Approval.mem_sentences_of_sentenceFor found
    obtain ⟨one, two, isPair, -⟩ := letters_of_language member
    have lowered := isPair
    unfold Text.toAsciiLowercase at lowered
    rw [String.toList_ofList] at lowered
    obtain ⟨first, others, isSubtag, rfl, isRest⟩ := List.map_eq_cons_iff.mp lowered
    obtain ⟨second, none, rfl, rfl, isNil⟩ := List.map_eq_cons_iff.mp isRest
    rw [List.map_eq_nil_iff.mp isNil] at isSubtag
    unfold Approval.primarySubtag at isSubtag
    rw [Text.toList_trim, String.toList_ofList] at isSubtag
    obtain ⟨tail, isTag, ends⟩ := exists_tail_of_takeWhile '-' tag.toList
    obtain ⟨blanks, isKept, white⟩ := exists_white_of_trimEnd
      ((tag.toList.takeWhile (· ≠ '-')).dropWhile Text.isWhiteSpace)
    rw [isSubtag] at isKept
    have parts := List.takeWhile_append_dropWhile (p := Text.isWhiteSpace)
      (l := tag.toList.takeWhile (· ≠ '-'))
    rw [isKept] at parts
    rw [← parts] at isTag
    have leadWhite : ∀ character ∈
        (tag.toList.takeWhile (· ≠ '-')).takeWhile Text.isWhiteSpace,
          Text.isWhiteSpace character = true := fun character => List.mem_takeWhile_imp
    refine ⟨_, (tag.toList.takeWhile (· ≠ '-')).takeWhile Text.isWhiteSpace, blanks ++ tail,
      ⟨first, second, ?_, ?_, isPair, sentence, member⟩,
      ⟨leadWhite, blanks, tail, rfl, white, ends⟩, member⟩
    · simpa using isTag
    · exact fun character isLead => isBlank_of_isWhiteSpace (leadWhite character isLead)
  · rintro ⟨language, lead, rest, ⟨first, second, isTag, -, isLanguage, -⟩,
      ⟨leadWhite, blanks, tail, rfl, white, ends⟩, member⟩
    obtain ⟨firstLetter, secondLetter, -⟩ := letters_of_spelt isLanguage member
    have isSubtag : (Approval.primarySubtag tag).toList = [first, second] := by
      have apart : ∀ character ∈ lead ++ first :: second :: blanks, character ≠ '-' := by
        intro character isPart
        rcases List.mem_append.mp isPart with isLead | isPart
        · exact white_ne_hyphen (leadWhite character isLead)
        · rcases List.mem_cons.mp isPart with rfl | isPart
          · exact letter_ne_hyphen firstLetter
          · rcases List.mem_cons.mp isPart with rfl | isBlanks
            · exact letter_ne_hyphen secondLetter
            · exact white_ne_hyphen (white character isBlanks)
      have visible : ∀ {character : Char}, Approval.IsLetter character.toLower →
          Text.isWhiteSpace character = false := by
        intro character letter
        by_contra isWhite
        have blank := isBlank_of_isWhiteSpace (Bool.eq_true_of_not_eq_false isWhite)
        rw [visible_of_toLower letter] at blank
        cases blank
      unfold Approval.primarySubtag
      rw [Text.toList_trim, String.toList_ofList, isTag,
        show lead ++ first :: second :: (blanks ++ tail) =
          (lead ++ first :: second :: blanks) ++ tail by simp,
        takeWhile_of_tail apart ends, List.dropWhile_append_of_pos leadWhite,
        List.dropWhile_cons_of_neg (by rw [visible firstLetter]; exact Bool.false_ne_true),
        show first :: second :: blanks = [first] ++ second :: blanks from rfl,
        Text.trimEnd_append_cons (visible secondLetter)]
      have gone : Text.trimEnd blanks = [] := List.rdropWhile_eq_nil_iff.mpr white
      rw [gone]
      rfl
    have isLowered : Text.toAsciiLowercase (Approval.primarySubtag tag) = language := by
      refine String.toList_injective ?_
      unfold Text.toAsciiLowercase
      rw [String.toList_ofList, isSubtag, isLanguage]
      rfl
    unfold Approval.sentenceFor
    rw [isLowered]
    exact find_sentence member (fun other => beq_iff_eq)

/-! ### The SDK's reading -/

theorem strip_map (characters : List Char) :
    strip (characters.map ofChar) =
      ((characters.dropWhile isBlank).rdropWhile isBlank).map ofChar := by
  unfold strip List.rdropWhile
  rw [List.dropWhile_map, ← List.map_reverse, List.dropWhile_map, ← List.map_reverse]
  rfl

theorem exists_blanks (characters : List Char) :
    ∃ lead trail,
      characters = lead ++ (characters.dropWhile isBlank).rdropWhile isBlank ++ trail ∧
        (∀ character ∈ lead, isBlank character = true) ∧
          ∀ character ∈ trail, isBlank character = true := by
  refine ⟨characters.takeWhile isBlank, (characters.dropWhile isBlank).rtakeWhile isBlank, ?_,
    fun _ => List.mem_takeWhile_imp, fun _ => List.mem_rtakeWhile_imp⟩
  rw [List.append_assoc, List.rdropWhile_append_rtakeWhile, List.takeWhile_append_dropWhile]

theorem hyphened_eq_letter {point : CodePoint} {letter : Char} (isLetter : Approval.IsLetter letter)
    (isHyphened : Persona.hyphened point = ofChar letter) : point = ofChar letter := by
  unfold Persona.hyphened at isHyphened
  split_ifs at isHyphened
  · exact absurd isHyphened.symm (Approval.notHyphen_of_letter isLetter).2
  · exact isHyphened

theorem hyphened_eq_hyphen {point : CodePoint} (isHyphened : Persona.hyphened point = ofChar '-') :
    point = ofChar '-' ∨ point = ofChar '_' := by
  unfold Persona.hyphened at isHyphened
  split_ifs at isHyphened with underscore
  · exact Or.inr underscore
  · exact Or.inl isHyphened

theorem lowered_of_subtag {lowered : List CodePoint} {one two : Char}
    (oneLetter : Approval.IsLetter one) (twoLetter : Approval.IsLetter two)
    (isSubtag : (lowered.map Persona.hyphened).takeWhile (· ≠ ofChar '-') =
      [ofChar one, ofChar two]) :
    ∃ more, lowered = ofChar one :: ofChar two :: more ∧
      (more = [] ∨ more.head? = some (ofChar '-') ∨ more.head? = some (ofChar '_')) := by
  obtain ⟨tail, whole, ends⟩ := exists_tail_of_takeWhile (ofChar '-')
    (lowered.map Persona.hyphened)
  rw [isSubtag] at whole
  obtain ⟨first, others, rfl, isFirst, isOthers⟩ := List.map_eq_cons_iff.mp whole
  obtain ⟨second, more, rfl, isSecond, isMore⟩ := List.map_eq_cons_iff.mp isOthers
  refine ⟨more, by rw [hyphened_eq_letter oneLetter isFirst,
    hyphened_eq_letter twoLetter isSecond], ?_⟩
  change more.map Persona.hyphened = tail at isMore
  rw [← isMore, List.map_eq_nil_iff] at ends
  rcases ends with isNil | isHead
  · exact Or.inl isNil
  · rw [List.head?_map] at isHead
    obtain ⟨third, isThird, isHyphen⟩ := Option.map_eq_some_iff.mp isHead
    rw [isThird]
    exact Or.inr ((hyphened_eq_hyphen isHyphen).imp (congrArg some) (congrArg some))

theorem eq_of_toLower {character other : Char} (isLower : character.toLower = other)
    (notLetter : ¬Approval.IsLetter other) : character = other := by
  rcases Text.toLower_cases character with ⟨low, high, lowered⟩ | ⟨-, same⟩
  · rw [isLower] at lowered
    exact absurd (show 97 ≤ other.toNat ∧ other.toNat ≤ 122 by omega) notLetter
  · exact same.symm.trans isLower

theorem spelt_of_lowers {characters : List Char} {lowered more : List CodePoint} {one two : Char}
    (lowers : Lowers (characters.map ofChar) lowered)
    (isLowered : lowered = ofChar one :: ofChar two :: more)
    (oneLetter : Approval.IsLetter one) (twoLetter : Approval.IsLetter two) (oneApart : one ≠ 'k')
    (twoApart : two ≠ 'k' ∧ two ≠ 'i')
    (ends : more = [] ∨ more.head? = some (ofChar '-') ∨ more.head? = some (ofChar '_')) :
    ∃ first second back, characters = first :: second :: back ∧ first.toLower = one ∧
      second.toLower = two ∧
        (back = [] ∨ back.head? = some '-' ∨ back.head? = some '_') := by
  have small : ∀ {letter : Char}, Approval.IsLetter letter → (ofChar letter).val < 128 := by
    intro letter isLetter
    have isVal : (ofChar letter).val = letter.toNat := rfl
    have high := isLetter.2
    omega
  have apart : ∀ {letter other : Char}, letter ≠ other → ofChar letter ≠ ofChar other :=
    fun ne same => ne (ofChar_injective same)
  obtain ⟨point, rest, isPoints, -, isOne, lowers⟩ := lowers.head_ascii isLowered (small oneLetter)
    (apart oneApart) (fun _ isDot => by
      have isWide := congrArg Fin.val (Option.some.inj isDot)
      have isSmall := small twoLetter
      rw [isWide] at isSmall
      exact absurd isSmall (by decide))
  obtain ⟨point', rest', isPoints', -, isTwo, lowers⟩ := lowers.head_ascii rfl (small twoLetter)
    (apart twoApart.1) (fun isDotless => absurd isDotless (apart twoApart.2))
  rw [isPoints'] at isPoints
  obtain ⟨first, others, rfl, rfl, isOthers⟩ := List.map_eq_cons_iff.mp isPoints
  obtain ⟨second, back, rfl, rfl, rfl⟩ := List.map_eq_cons_iff.mp isOthers
  rw [asciiLower_ofChar] at isOne isTwo
  refine ⟨first, second, back, rfl, (ofChar_injective isOne).symm, (ofChar_injective isTwo).symm,
    ?_⟩
  -- What the separator was before, is found the same way.
  have separator : ∀ {character : Char}, more.head? = some (ofChar character) →
      character = '-' ∨ character = '_' → back.head? = some character := by
    intro character isHead isSeparator
    obtain ⟨last, isMore⟩ := List.head?_eq_some_iff.mp isHead
    obtain ⟨before, afterwards, isBack, -, isBefore, -⟩ := lowers.head_ascii isMore
      (by rcases isSeparator with rfl | rfl <;> decide)
      (by rcases isSeparator with rfl | rfl <;> decide)
      (by rcases isSeparator with rfl | rfl <;> exact fun isDotless => absurd isDotless (by decide))
    obtain ⟨original, backs, rfl, rfl, -⟩ := List.map_eq_cons_iff.mp isBack
    rw [asciiLower_ofChar] at isBefore
    refine congrArg some (eq_of_toLower (ofChar_injective isBefore).symm ?_)
    rcases isSeparator with rfl | rfl
    · exact fun letter => absurd letter.1 (by decide)
    · exact fun letter => absurd letter.1 (by decide)
  rcases ends with isNil | isHyphen | isUnderscore
  · exact Or.inl (List.map_eq_nil_iff.mp (lowers.of_nil isNil))
  · exact Or.inr (Or.inl (separator isHyphen (Or.inl rfl)))
  · exact Or.inr (Or.inr (separator isUnderscore (Or.inr rfl)))

variable {lead rest : List Char}

theorem subtag_of_begins (unicode : UnicodeLowercasing) {first second : Char}
    (blank : ∀ character ∈ lead, isBlank character = true)
    (letters : Approval.IsLetter first.toLower ∧ Approval.IsLetter second.toLower)
    (takes : SdkTakes rest) :
    Persona.primarySubtag unicode.toLowercasing ((lead ++ first :: second :: rest).map ofChar) =
      [ofChar first.toLower, ofChar second.toLower] := by
  obtain ⟨firstSame, firstApart⟩ := Approval.notHyphen_of_letter letters.1
  obtain ⟨secondSame, secondApart⟩ := Approval.notHyphen_of_letter letters.2
  obtain ⟨-, firstAscii, -⟩ := Approval.of_toLower letters.1
  obtain ⟨-, secondAscii, -⟩ := Approval.of_toLower letters.2
  have dropped : (lead ++ first :: second :: rest).dropWhile isBlank = first :: second :: rest := by
    rw [List.dropWhile_append_of_pos blank,
      List.dropWhile_cons_of_neg (by rw [visible_of_toLower letters.1]; exact Bool.false_ne_true)]
  have separated : ∀ {separator : Char}, separator = '-' ∨ separator = '_' →
      rest.head? = some separator →
        Persona.primarySubtag unicode.toLowercasing
          ((lead ++ first :: second :: rest).map ofChar) =
            [ofChar first.toLower, ofChar second.toLower] := by
    intro separator isSeparator isHead
    obtain ⟨tail, rfl⟩ := List.head?_eq_some_iff.mp isHead
    have kept : isBlank separator = false := by rcases isSeparator with rfl | rfl <;> decide
    obtain ⟨others, isCore⟩ := prefix_rdropWhile kept [first, second] tail
    unfold Persona.primarySubtag
    rw [strip_map, dropped, show first :: second :: separator :: tail =
      [first, second] ++ separator :: tail from rfl, ← isCore, List.map_append]
    obtain ⟨after, isLowered⟩ := (unicode.lowers
      (([first, second] ++ [separator]).map ofChar ++ others.map ofChar)).ascii (by
        intro point member
        simp only [List.map_append, List.map_cons, List.map_nil, List.mem_append, List.mem_cons,
          List.not_mem_nil, or_false] at member
        rcases member with (rfl | rfl) | rfl
        · exact firstAscii
        · exact secondAscii
        · rcases isSeparator with rfl | rfl <;> decide)
    have becomes : Persona.hyphened (ofChar separator.toLower) = ofChar '-' := by
      rcases isSeparator with rfl | rfl <;> decide
    change (((unicode.lower _).map Persona.hyphened).takeWhile _) = _
    rw [← isLowered]
    simp [asciiLower_ofChar, firstSame, secondSame, firstApart, secondApart, becomes]
  rcases takes with restBlank | isHyphen | isUnderscore
  · have isCore : (first :: second :: rest).rdropWhile isBlank = [first, second] := by
      unfold List.rdropWhile
      rw [show (first :: second :: rest).reverse = rest.reverse ++ [second, first] by simp,
        List.dropWhile_append_of_pos fun character member =>
          restBlank character (List.mem_reverse.mp member),
        List.dropWhile_cons_of_neg (by
          rw [visible_of_toLower letters.2]
          exact Bool.false_ne_true)]
      rfl
    unfold Persona.primarySubtag
    rw [strip_map, dropped, isCore]
    change (((unicode.lower _).map Persona.hyphened).takeWhile _) = _
    rw [(unicode.lowers ([first, second].map ofChar)).of_ascii
      (by simpa using ⟨firstAscii, secondAscii⟩)]
    simp [asciiLower_ofChar, firstSame, secondSame, firstApart, secondApart]
  · exact separated (Or.inl rfl) isHyphen
  · exact separated (Or.inr rfl) isUnderscore

theorem sdk_eq_some_iff (unicode : UnicodeLowercasing) {tag sentence : String} :
    Persona.sentenceFor unicode.toLowercasing (some (ofText tag)) = some sentence ↔
      ∃ language lead rest, Begins tag language lead rest ∧ SdkTakes rest ∧
        (language, sentence) ∈ Approval.sentences := by
  constructor
  · intro selected
    obtain ⟨language, member, isLanguage⟩ := Approval.mem_of_selected selected
    obtain ⟨one, two, isPair, oneLetter, twoLetter, oneApart, twoApart⟩ :=
      letters_of_language member
    unfold Persona.primarySubtag ofText at isLanguage
    rw [isPair, strip_map] at isLanguage
    obtain ⟨more, isLowered, ends⟩ := lowered_of_subtag oneLetter twoLetter isLanguage.symm
    obtain ⟨first, second, back, isCore, rfl, rfl, backEnds⟩ := spelt_of_lowers
      (unicode.lowers _) isLowered oneLetter twoLetter oneApart twoApart ends
    obtain ⟨lead, trail, isTag, blank, trailBlank⟩ := exists_blanks tag.toList
    rw [isCore] at isTag
    refine ⟨language, lead, back ++ trail, ⟨first, second, by simpa using isTag, blank, isPair,
      sentence, member⟩, ?_, member⟩
    rcases backEnds with rfl | isHyphen | isUnderscore
    · exact Or.inl trailBlank
    · exact Or.inr (Or.inl (by rw [List.head?_append, isHyphen, Option.some_or]))
    · exact Or.inr (Or.inr (by rw [List.head?_append, isUnderscore, Option.some_or]))
  · rintro ⟨language, lead, rest, ⟨first, second, isTag, blank, isLanguage, -⟩, takes, member⟩
    obtain ⟨firstLetter, secondLetter, -⟩ := letters_of_spelt isLanguage member
    have isSubtag := subtag_of_begins unicode blank ⟨firstLetter, secondLetter⟩ takes
    rw [← isTag, show [ofChar first.toLower, ofChar second.toLower] = ofText language by
      unfold ofText
      rw [isLanguage]
      rfl] at isSubtag
    unfold Persona.sentenceFor
    cases isText : ofText tag with
    | nil =>
      unfold ofText at isText
      rw [isTag] at isText
      cases lead <;> cases isText
    | cons point others =>
      change Persona.primarySubtag _ (ofText tag) = _ at isSubtag
      rw [isText] at isSubtag
      refine find_sentence member fun other => ?_
      rw [decide_eq_true_iff, isSubtag]
      exact Approval.ofText_injective.eq_iff

/-! ### Where the readers part -/

/-- A language stands whole at the end of a tag, or a blank or a separator of tags follows it. -/
def Alone (rest : List Char) : Prop :=
  rest = [] ∨ ∃ next, rest.head? = some next ∧ (isBlank next = true ∨ next = '-' ∨ next = '_')

/-- What both readers are to do with a tag: they give it one answer, and a sentence they give is
the one of the language the tag begins with. -/
def Agree (unicode : UnicodeLowercasing) (tag : String) : Prop :=
  Persona.sentenceFor unicode.toLowercasing (some (ofText tag)) = Approval.sentenceFor tag ∧
    ∀ sentence, Approval.sentenceFor tag = some sentence →
      ∃ language lead rest, Begins tag language lead rest ∧ Alone rest ∧
        (language, sentence) ∈ Approval.sentences

/-- Where a language stands in a tag in such a way that one of the readers passes it by. -/
inductive Parts (lead rest : List Char) : Prop
  /-- An underscore follows the language. -/
  | underscore (isHead : rest.head? = some '_')
  /-- A separator of ASCII stands before a language the SDK takes. -/
  | before (separator : Char) (member : separator ∈ lead)
      (isSeparator : isSeparator separator = true) (takes : SdkTakes rest)
  /-- Blanks follow the language to the end, a separator of ASCII among them. -/
  | behind (separator : Char) (member : separator ∈ rest)
      (isSeparator : isSeparator separator = true)
      (blank : ∀ character ∈ rest, isBlank character = true)
  /-- White space stands between the language and a hyphen. -/
  | apart (white : ∀ character ∈ lead, Text.isWhiteSpace character = true)
      (space : Char) (spaces tail : List Char) (isRest : rest = space :: spaces ++ '-' :: tail)
      (spacesWhite : ∀ character ∈ space :: spaces, Text.isWhiteSpace character = true)

def PassedBy (tag : String) : Prop :=
  ∃ language lead rest, Begins tag language lead rest ∧ Parts lead rest

theorem all_white_of_no_separator {characters : List Char}
    (blank : ∀ character ∈ characters, isBlank character = true)
    (none : ∀ character ∈ characters, isSeparator character = false) :
    ∀ character ∈ characters, Text.isWhiteSpace character = true := by
  intro character member
  have isNone := none character member
  unfold isSeparator at isNone
  rw [blank character member, Bool.true_and, Bool.not_eq_false'] at isNone
  exact isNone

theorem not_white_of_separator (separator : isSeparator character = true) :
    Text.isWhiteSpace character = false := by
  unfold isSeparator at separator
  rw [Bool.and_eq_true, Bool.not_eq_true'] at separator
  exact separator.2

theorem gatewayTakes_of_blank (blank : ∀ character ∈ rest, isBlank character = true)
    (takes : GatewayTakes lead rest) :
    ∀ character ∈ rest, Text.isWhiteSpace character = true := by
  obtain ⟨-, blanks, tail, rfl, white, rfl | isHead⟩ := takes
  · rwa [List.append_nil]
  · obtain ⟨others, rfl⟩ := List.head?_eq_some_iff.mp isHead
    have isBlankHyphen := blank '-' (List.mem_append_right _ List.mem_cons_self)
    exact absurd isBlankHyphen (by decide)

theorem not_gatewayTakes_underscore (isHead : rest.head? = some '_') :
    ¬GatewayTakes lead rest := by
  rintro ⟨-, blanks, tail, rfl, white, ends⟩
  cases blanks with
  | nil =>
    rcases ends with rfl | isHyphen
    · cases isHead
    · exact absurd (isHead.symm.trans isHyphen) (by decide)
  | cons first others =>
    have isFirst : first = '_' := Option.some.inj isHead
    have isWhite := white first List.mem_cons_self
    rw [isFirst] at isWhite
    exact absurd isWhite (by decide)

theorem parts_iff (leadBlank : ∀ character ∈ lead, isBlank character = true) :
    Parts lead rest ↔ ¬(SdkTakes rest ↔ GatewayTakes lead rest) := by
  constructor
  · rintro (isHead | ⟨separator, member, isSeparator, takes⟩ |
      ⟨separator, member, isSeparator, blank⟩ | ⟨white, space, spaces, tail, rfl, spacesWhite⟩) same
    · exact not_gatewayTakes_underscore isHead (same.mp (Or.inr (Or.inr isHead)))
    · have isWhite := (same.mp takes).1 separator member
      rw [not_white_of_separator isSeparator] at isWhite
      cases isWhite
    · have isWhite := gatewayTakes_of_blank blank (same.mp (Or.inl blank)) separator member
      rw [not_white_of_separator isSeparator] at isWhite
      cases isWhite
    · have spaceWhite := spacesWhite space List.mem_cons_self
      have ne : ∀ {other : Char}, Text.isWhiteSpace other = false → space ≠ other := by
        rintro other visible rfl
        rw [visible] at spaceWhite
        cases spaceWhite
      rcases same.mpr ⟨white, space :: spaces, '-' :: tail, rfl, spacesWhite, Or.inr rfl⟩ with
        blank | isHyphen | isUnderscore
      · exact absurd (blank '-' (List.mem_append_right _ List.mem_cons_self)) (by decide)
      · exact ne (by decide) (Option.some.inj isHyphen)
      · exact ne (by decide) (Option.some.inj isUnderscore)
  · intro differ
    by_cases takes : SdkTakes rest
    · by_cases separated : ∃ separator ∈ lead, isSeparator separator = true
      · obtain ⟨separator, member, isSeparator⟩ := separated
        exact .before separator member isSeparator takes
      · have leadWhite := all_white_of_no_separator leadBlank fun character member =>
          Bool.eq_false_of_not_eq_true fun isSeparator => separated ⟨character, member, isSeparator⟩
        rcases takes with blank | isHyphen | isUnderscore
        · by_cases trailing : ∃ separator ∈ rest, isSeparator separator = true
          · obtain ⟨separator, member, isSeparator⟩ := trailing
            exact .behind separator member isSeparator blank
          · refine absurd (iff_of_true (Or.inl blank) ⟨leadWhite, rest, [], ?_, ?_, Or.inl rfl⟩)
              differ
            · rw [List.append_nil]
            · exact all_white_of_no_separator blank fun character member =>
                Bool.eq_false_of_not_eq_true fun isSeparator =>
                  trailing ⟨character, member, isSeparator⟩
        · exact absurd (iff_of_true (Or.inr (Or.inl isHyphen))
            ⟨leadWhite, [], rest, rfl, fun _ member => (List.not_mem_nil member).elim,
              Or.inr isHyphen⟩) differ
        · exact .underscore isUnderscore
    · by_cases gateway : GatewayTakes lead rest
      · obtain ⟨white, blanks, tail, rfl, blanksWhite, ends⟩ := gateway
        rcases ends with rfl | isHyphen
        · refine absurd (Or.inl fun character member => ?_) takes
          exact isBlank_of_isWhiteSpace (blanksWhite character (by rwa [List.append_nil] at member))
        · obtain ⟨others, rfl⟩ := List.head?_eq_some_iff.mp isHyphen
          cases blanks with
          | nil => exact absurd (Or.inr (Or.inl isHyphen)) takes
          | cons space spaces => exact .apart white space spaces others rfl blanksWhite
      · exact absurd (iff_of_false takes gateway) differ

theorem alone_of_gatewayTakes (takes : GatewayTakes lead rest) :
    Alone rest := by
  obtain ⟨-, blanks, tail, rfl, white, ends⟩ := takes
  cases blanks with
  | nil => exact ends.imp_right fun isHyphen => ⟨'-', isHyphen, Or.inr (Or.inl rfl)⟩
  | cons first others =>
    exact Or.inr ⟨first, rfl, Or.inl (isBlank_of_isWhiteSpace (white first List.mem_cons_self))⟩

/-- The readers agree on a tag unless the language it begins with is passed by. -/
theorem agree_iff (unicode : UnicodeLowercasing) (tag : String) :
    Agree unicode tag ↔ ¬PassedBy tag := by
  constructor
  · rintro ⟨same, -⟩ ⟨language, lead, rest, begins, parts⟩
    have begun := begins
    obtain ⟨first, second, -, blank, -, sentence, member⟩ := begun
    refine (parts_iff blank).mp parts ⟨fun takes => ?_, fun takes => ?_⟩
    · have selected := (sdk_eq_some_iff unicode).mpr ⟨language, lead, rest, begins, takes, member⟩
      rw [same] at selected
      obtain ⟨other, otherLead, otherRest, otherBegins, otherTakes, -⟩ :=
        gateway_eq_some_iff.mp selected
      obtain ⟨-, rfl, rfl⟩ := begins_unique begins otherBegins
      exact otherTakes
    · have found := gateway_eq_some_iff.mpr ⟨language, lead, rest, begins, takes, member⟩
      rw [← same] at found
      obtain ⟨other, otherLead, otherRest, otherBegins, otherTakes, -⟩ :=
        (sdk_eq_some_iff unicode).mp found
      obtain ⟨-, rfl, rfl⟩ := begins_unique begins otherBegins
      exact otherTakes
  · intro notPassed
    refine ⟨Option.ext fun sentence => ?_, fun sentence found => ?_⟩
    · rw [sdk_eq_some_iff, gateway_eq_some_iff]
      refine exists_congr fun language => exists_congr fun lead => exists_congr fun rest =>
        and_congr_right fun begins => and_congr_left fun _ => ?_
      by_contra differ
      have begun := begins
      obtain ⟨_, _, _, blank, _⟩ := begun
      exact notPassed ⟨language, lead, rest, begins, (parts_iff blank).mpr differ⟩
    · obtain ⟨language, lead, rest, begins, takes, member⟩ := gateway_eq_some_iff.mp found
      exact ⟨language, lead, rest, begins, alone_of_gatewayTakes takes, member⟩

/-! ### A region behind an underscore -/

namespace Region

/-- Code points in lower case by tables of the ASCII letters and of the two characters that become
such letters. -/
def lowered (point : CodePoint) : List CodePoint :=
  if point.val < 128 then [asciiLower point]
  else if point.val = 0x130 then [ofChar 'i', ofChar '\u0307']
  else if point.val = 0x212A then [ofChar 'k']
  else [point]

theorem lowersTo_lowered (point : CodePoint) : LowersTo point (lowered point) := by
  unfold LowersTo lowered
  split_ifs with plain dotted kelvin
  · rfl
  · rfl
  · rfl
  · exact ⟨List.cons_ne_nil _ _, fun other member => by
      rw [List.mem_singleton.mp member]
      exact Nat.le_of_not_lt plain⟩

def tables : UnicodeLowercasing where
  lower := fun points => points.flatMap lowered
  lowers := fun points => by
    induction points with
    | nil => exact .nil
    | cons point rest inductionHypothesis =>
      exact .cons (lowersTo_lowered point) inductionHypothesis

theorem begins : Begins "fr_CA" "fr" [] ['_', 'C', 'A'] :=
  ⟨'f', 'r', rfl, fun _ member => (List.not_mem_nil member).elim, rfl,
    "Rédigé avec mon assistant IA.", by unfold Approval.sentences; simp⟩

/-- The SDK gives `fr_CA` the sentence of French, and the Gateway gives it none. -/
theorem not_agree : ¬Agree tables "fr_CA" := by
  rintro ⟨same, -⟩
  obtain ⟨-, -, -, -, -, sentence, member⟩ := begins
  rw [(sdk_eq_some_iff tables).mpr ⟨"fr", [], ['_', 'C', 'A'], begins, Or.inr (Or.inr rfl), member⟩]
    at same
  obtain ⟨other, lead, rest, otherBegins, takes, -⟩ := gateway_eq_some_iff.mp same.symm
  obtain ⟨-, rfl, rfl⟩ := begins_unique begins otherBegins
  exact not_gatewayTakes_underscore rfl takes

end Region

end Twalk.LanguageTags
