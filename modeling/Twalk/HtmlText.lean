/-
This file is about the text that an HTML mail is reduced to. A document is a tree of elements, of
which the text nodes are what a persona should read, the words of two blocks apart. The reduction
reads it a character at a time: a tag ends at the first `>`, wherever that stands, and a line ends
at some tags of blocks and not at others. It reads the words of a document where no `>` stands in an
attribute or a comment, and where one of the tags it knows stands between words that a block parts.
-/

import Twalk.Jmap
import Twalk.Library.Utf8

namespace Twalk.Collector.Jmap

/-! ### Documents -/

def lowered (characters : List Char) : List Char := characters.map Char.toLower

/-- A character of a text as it is written: one of the entities the reader knows, or itself. -/
inductive Letter where
  | entity (entity : String × Char) (known : entity ∈ entities)
  | plain (character : Char) (unescaped : character ≠ '<' ∧ character ≠ '&')

namespace Letter

def written : Letter → List Char
  | entity known _ => known.1.toList
  | plain character _ => [character]

def character : Letter → Char
  | entity known _ => known.2
  | plain character _ => character

end Letter

structure Attribute where
  name : List Char
  quote : Char
  value : List Char
  isName : ∀ character ∈ name, Text.isWhiteSpace character = false ∧
    character ∉ ['"', '\'', '>', '/', '=']
  quoted : (quote = '"' ∨ quote = '\'') ∧ quote ∉ value

def Attribute.written (given : Attribute) : List Char :=
  ' ' :: (given.name ++ '=' :: given.quote :: (given.value ++ [given.quote]))

structure Tag where
  name : List Char
  attributes : List Attribute
  isName : ∃ first rest, name = first :: rest ∧ first.isAlpha = true ∧
    ∀ character ∈ rest, Text.isWhiteSpace character = false ∧ character ≠ '/' ∧ character ≠ '>'

namespace Tag

variable (tag : Tag)

/-- What stands in a tag behind its name. -/
def tail : List Char := tag.attributes.flatMap Attribute.written

def opening : List Char := '<' :: (tag.name ++ tag.tail ++ ['>'])

def closing : List Char := '<' :: '/' :: (tag.name ++ ['>'])

/-- The elements whose contents are no markup. -/
def isRaw : Bool := lowered tag.name == "style".toList || lowered tag.name == "script".toList

end Tag

inductive Document where
  | done
  | text (letters : List Letter) (rest : Document)
  | comment (body : List Char) (closed : ¬"-->".toList <:+: body) (rest : Document)
  | raw (tag : Tag) (isRaw : tag.isRaw = true) (body : List Char)
    (closed : ¬ '<' :: '/' :: lowered tag.name <:+: lowered body) (rest : Document)
  | void (tag : Tag) (notRaw : tag.isRaw = false) (rest : Document)
  | element (tag : Tag) (notRaw : tag.isRaw = false) (children rest : Document)

inductive Item where
  | character (character : Char)
  | tag (start : List Char)

namespace Document

def written : Document → List Char
  | done => []
  | text letters rest => letters.flatMap Letter.written ++ rest.written
  | comment body _ rest => "<!--".toList ++ (body ++ ("-->".toList ++ rest.written))
  | raw tag _ body _ rest => tag.opening ++ (body ++ (tag.closing ++ rest.written))
  | void tag _ rest => tag.opening ++ rest.written
  | element tag _ children rest =>
    tag.opening ++ (children.written ++ (tag.closing ++ rest.written))

def items : Document → List Item
  | done => []
  | text letters rest => letters.map (fun letter => .character letter.character) ++ rest.items
  | comment _ _ rest => rest.items
  | raw _ _ _ _ rest => rest.items
  | void tag _ rest => .tag (lowered ('<' :: tag.name)) :: rest.items
  | element tag _ children rest => .tag (lowered ('<' :: tag.name)) ::
      (children.items ++ .tag (lowered ('<' :: '/' :: tag.name)) :: rest.items)

end Document

def textOf (breaks : List Char → Bool) (items : List Item) : List Char :=
  items.flatMap fun
    | .character character => [character]
    | .tag start => if breaks start then ['\n'] else []

/-- The elements whose words stand apart: paragraphs, headings, list items, table rows and cells. -/
def blockNames : List String := ["p", "h1", "h2", "h3", "h4", "h5", "h6", "li", "tr", "td", "th"]

def isBlock (start : List Char) : Bool :=
  blockNames.any fun name => start == '<' :: name.toList || start == '<' :: '/' :: name.toList

/-- What stands in a text from a byte on, and nothing where that byte is inside a character. -/
def sliceFrom : List Char → Nat → Option (List Char)
  | characters, 0 => some characters
  | [], _ + 1 => none
  | character :: rest, index + 1 =>
    if character.utf8Size ≤ index + 1 then sliceFrom rest (index + 1 - character.utf8Size) else none

def bytes (characters : List Char) : Nat := (characters.map Char.utf8Size).sum

structure ReadsItsText (document : Document) : Prop where
  /-- The words of the text in order, those of two blocks apart. -/
  words : ∃ breaks : List Char → Bool, (∀ start, isBlock start = true → breaks start = true) ∧
    Text.wordsOf (htmlToText (String.ofList document.written)).toList =
      Text.wordsOf (textOf breaks document.items)
  /-- In every text whatsoever, a slice of it or of its copy in lower case that starts where a
  character does is what stands from there on. -/
  slices : ∀ front back, sliceFrom (front ++ back) (bytes front) = some back ∧
    sliceFrom (lowered (front ++ back)) (bytes front) = some (lowered back)

/-! ### Where it does -/

/-- A tag is taken for one that ends a line. -/
def isListed (start : List Char) : Bool := blockTags.any fun tag => tag.toList.isPrefixOf start

/-- A tag holds no `>` before its end, and is not taken for that of a style or of a script. -/
def Tag.Undisturbed (tag : Tag) : Prop :=
  (∀ given ∈ tag.attributes, '>' ∉ given.value) ∧
    ¬"style".toList <+: lowered tag.name ∧ ¬"script".toList <+: lowered tag.name

def Document.Undisturbed : Document → Prop
  | .done => True
  | .text _ rest => rest.Undisturbed
  | .comment body _ rest => '>' ∉ body ∧ rest.Undisturbed
  | .raw tag _ body _ rest =>
    ¬lowered tag.closing <:+: lowered (tag.name ++ (tag.tail ++ '>' :: body)) ∧ rest.Undisturbed
  | .void tag _ rest => tag.Undisturbed ∧ rest.Undisturbed
  | .element tag _ children rest =>
    tag.Undisturbed ∧ children.Undisturbed ∧ rest.Undisturbed

/-- Wherever a block parts two words with nothing but tags between them, one of these tags is taken
for one that ends a line. What is kept is whether a word was being read, and whether a block parted
it since. -/
def partsWords : Bool → Bool → List Item → Bool
  | _, _, [] => true
  | inWord, parted, .character character :: rest =>
    (Text.isWhiteSpace character || !(inWord && parted)) &&
      partsWords (!Text.isWhiteSpace character) false rest
  | inWord, parted, .tag start :: rest =>
    if isListed start then partsWords false false rest
    else partsWords inWord (parted || isBlock start) rest

/-! ### What the reduction keeps -/

section Reduction

variable {rest inner : List Char}

theorem stripTags_tag (closed : '>' ∉ inner) :
    stripTags .tag (inner ++ '>' :: rest) = stripTags .text rest := by
  induction inner with
  | nil => rfl
  | cons character others inductionHypothesis =>
    obtain ⟨notEnd, closed⟩ := not_or.mp (mt List.mem_cons.mpr closed)
    rw [List.cons_append, stripTags, if_neg (Ne.symm notEnd), inductionHypothesis closed]

theorem stripTags_past (count : Nat) (passed : List Char) (isPassed : passed.length = count + 1) :
    stripTags (.past (count + 1)) (passed ++ rest) = stripTags .text rest := by
  induction count generalizing passed with
  | zero =>
    obtain ⟨character, rfl⟩ := List.length_eq_one_iff.mp isPassed
    rfl
  | succ count inductionHypothesis =>
    cases passed with
    | nil => cases isPassed
    | cons character others =>
      rw [List.cons_append, stripTags, if_neg (Nat.succ_ne_zero count)]
      exact inductionHypothesis others (Nat.succ.inj isPassed)

theorem stripTags_letter (letter : Letter) :
    stripTags .text (letter.written ++ rest) = letter.character :: stripTags .text rest := by
  cases letter with
  | plain character unescaped =>
    obtain ⟨notOpening, notEntity⟩ := unescaped
    unfold Letter.written Letter.character
    rw [List.singleton_append, stripTags, if_neg notOpening, if_neg notEntity]
  | entity entity known =>
    unfold entities at known
    simp only [List.mem_cons, List.not_mem_nil, or_false] at known
    rcases known with rfl | rfl | rfl | rfl | rfl | rfl | rfl <;> rfl

theorem stripTags_letters (letters : List Letter) :
    stripTags .text (letters.flatMap Letter.written ++ rest) =
      letters.map Letter.character ++ stripTags .text rest := by
  induction letters with
  | nil => rfl
  | cons letter others inductionHypothesis =>
    rw [List.flatMap_cons, List.append_assoc, stripTags_letter, inductionHypothesis, List.map_cons,
      List.cons_append]

/-! ### Tags -/

theorem lowered_append (front back : List Char) :
    lowered (front ++ back) = lowered front ++ lowered back := List.map_append

theorem isPrefixOf_append_cons {word : List Char} {separator : Char} (absent : separator ∉ word)
    (front back : List Char) :
    word.isPrefixOf (front ++ separator :: back) = word.isPrefixOf front := by
  induction word generalizing front with
  | nil => rfl
  | cons character others inductionHypothesis =>
    obtain ⟨differs, absent⟩ := not_or.mp (mt List.mem_cons.mpr absent)
    cases front with
    | nil =>
      rw [List.nil_append, List.isPrefixOf_cons_cons, beq_false_of_ne (Ne.symm differs),
        Bool.false_and]
      rfl
    | cons first front =>
      rw [List.cons_append, List.isPrefixOf_cons_cons, List.isPrefixOf_cons_cons,
        inductionHypothesis absent]

def tagWords : List String := "<style" :: "<script" :: blockTags

theorem startsLower_of_separator {word : String} (isWord : word ∈ tagWords) {separator : Char}
    (separates : separator = ' ' ∨ separator = '>') (start back : List Char) :
    startsLower word (start ++ separator :: back) = word.toList.isPrefixOf (lowered start) := by
  have apart : ∀ word ∈ tagWords, ' ' ∉ word.toList ∧ '>' ∉ word.toList := by decide
  unfold startsLower
  rw [List.map_append, List.map_cons]
  rcases separates with rfl | rfl
  · exact isPrefixOf_append_cons (apart word isWord).1 _ _
  · exact isPrefixOf_append_cons (apart word isWord).2 _ _

theorem stripTags_markup {start : List Char} (closed : '>' ∉ inner)
    (starts : ∀ word ∈ tagWords, startsLower word ('<' :: (inner ++ '>' :: rest)) =
      word.toList.isPrefixOf start)
    (notStyle : "<style".toList.isPrefixOf start = false)
    (notScript : "<script".toList.isPrefixOf start = false) :
    stripTags .text ('<' :: (inner ++ '>' :: rest)) =
      (if isListed start then ['\n'] else []) ++ stripTags .text rest := by
  have listed : blockTags.any (fun tag => startsLower tag ('<' :: (inner ++ '>' :: rest))) =
      isListed start := by
    unfold isListed
    rw [Bool.eq_iff_iff, List.any_eq_true, List.any_eq_true]
    refine exists_congr fun word => and_congr_right fun isWord => ?_
    rw [starts word (List.mem_cons_of_mem _ (List.mem_cons_of_mem _ isWord))]
  rw [stripTags, if_pos rfl, starts _ List.mem_cons_self, notStyle, if_neg Bool.false_ne_true,
    starts _ (List.mem_cons_of_mem _ List.mem_cons_self), notScript, if_neg Bool.false_ne_true,
    listed, stripTags_tag closed]
  cases isListed start <;> rfl

theorem stripTags_comment {body : List Char} (closed : '>' ∉ body) :
    stripTags .text ("<!--".toList ++ (body ++ ("-->".toList ++ rest))) =
      stripTags .text rest := by
  have isMarkup : "<!--".toList ++ (body ++ ("-->".toList ++ rest)) =
      '<' :: (('!' :: '-' :: '-' :: (body ++ ['-', '-'])) ++ '>' :: rest) := by
    rw [List.cons_append, List.cons_append, List.cons_append, List.append_assoc]
    rfl
  rw [isMarkup, @stripTags_markup rest _ "<!".toList]
  · rfl
  · simp [closed]
  · intro word isWord
    unfold tagWords blockTags at isWord
    simp only [List.mem_cons, List.not_mem_nil, or_false] at isWord
    rcases isWord with rfl | rfl | rfl | rfl | rfl | rfl | rfl | rfl | rfl | rfl | rfl | rfl | rfl |
      rfl | rfl <;> rfl
  · rfl
  · rfl

variable {tag : Tag}

theorem notMem_name (tag : Tag) : '>' ∉ tag.name := by
  obtain ⟨first, rest, isName, isAlpha, others⟩ := tag.isName
  rw [isName]
  intro member
  rcases List.mem_cons.mp member with rfl | inRest
  · exact absurd isAlpha (by decide)
  · exact (others _ inRest).2.2 rfl

theorem notMem_tail (undisturbed : ∀ given ∈ tag.attributes, '>' ∉ given.value) :
    '>' ∉ tag.tail := by
  intro member
  obtain ⟨given, isGiven, isIn⟩ := List.mem_flatMap.mp member
  unfold Attribute.written at isIn
  rw [List.mem_cons, List.mem_append, List.mem_cons, List.mem_cons, List.mem_append,
    List.mem_singleton] at isIn
  rcases isIn with isSpace | inName | isEqual | isQuote | inValue | isQuote
  · exact absurd isSpace (by decide)
  · exact absurd (given.isName _ inName).2 (by decide)
  · exact absurd isEqual (by decide)
  · rcases given.quoted.1 with same | same <;> exact absurd (isQuote.trans same) (by decide)
  · exact undisturbed given isGiven inValue
  · rcases given.quoted.1 with same | same <;> exact absurd (isQuote.trans same) (by decide)

theorem exists_separator (tag : Tag) (rest : List Char) : ∃ separator back,
    (separator = ' ' ∨ separator = '>') ∧ tag.tail ++ '>' :: rest = separator :: back := by
  unfold Tag.tail
  cases tag.attributes with
  | nil => exact ⟨'>', rest, .inr rfl, rfl⟩
  | cons given others => exact ⟨' ', _, .inl rfl, by rw [List.flatMap_cons]; rfl⟩

theorem startsLower_opening {word : String} (isWord : word ∈ tagWords) :
    startsLower word ('<' :: (tag.name ++ (tag.tail ++ '>' :: rest))) =
      word.toList.isPrefixOf (lowered ('<' :: tag.name)) := by
  obtain ⟨separator, back, separates, isTail⟩ := exists_separator tag rest
  rw [isTail]
  exact startsLower_of_separator isWord separates ('<' :: tag.name) back

theorem stripTags_opening (undisturbed : tag.Undisturbed) :
    stripTags .text (tag.opening ++ rest) =
      (if isListed (lowered ('<' :: tag.name)) then ['\n'] else []) ++ stripTags .text rest := by
  obtain ⟨values, notStyle, notScript⟩ := undisturbed
  have isOpening : tag.opening ++ rest = '<' :: ((tag.name ++ tag.tail) ++ '>' :: rest) := by
    unfold Tag.opening
    rw [List.cons_append, List.append_assoc, List.singleton_append]
  rw [isOpening]
  refine stripTags_markup ?_ (fun word isWord => ?_) ?_ ?_
  · exact fun member => (List.mem_append.mp member).elim (notMem_name tag) (notMem_tail values)
  · rw [List.append_assoc]
    exact startsLower_opening isWord
  · exact Bool.eq_false_iff.mpr fun isStyle => notStyle (List.isPrefixOf_iff_prefix.mp isStyle)
  · exact Bool.eq_false_iff.mpr fun isScript => notScript (List.isPrefixOf_iff_prefix.mp isScript)

theorem stripTags_closing (tag : Tag) :
    stripTags .text (tag.closing ++ rest) =
      (if isListed (lowered ('<' :: '/' :: tag.name)) then ['\n'] else []) ++
        stripTags .text rest := by
  have isClosing : tag.closing ++ rest = '<' :: (('/' :: tag.name) ++ '>' :: rest) := by
    unfold Tag.closing
    rw [List.cons_append, List.cons_append, List.append_assoc, List.singleton_append]
    rfl
  rw [isClosing]
  refine stripTags_markup ?_ (fun word isWord => ?_) rfl rfl
  · exact fun member => (List.mem_cons.mp member).elim (fun same => absurd same (by decide))
      (notMem_name tag)
  · exact startsLower_of_separator isWord (.inr rfl) ('<' :: '/' :: tag.name) rest

/-! ### Styles and scripts -/

theorem not_prefix_of_absent {close : List Char} (once : '<' ∉ close) {before after : List Char}
    (isSome : before ≠ []) (absent : ¬ '<' :: close <:+: before) :
    ¬ '<' :: close <+: before ++ ('<' :: close ++ after) := by
  rintro ⟨behind, same⟩
  rcases List.append_eq_append_iff.mp same with ⟨between, isBefore, -⟩ | ⟨between, isClose, isRest⟩
  · exact absent ⟨[], between, by rw [List.nil_append, ← isBefore]⟩
  · cases between with
    | nil =>
      rw [List.append_nil] at isClose
      exact absent (isClose ▸ List.infix_rfl)
    | cons first between =>
      obtain ⟨character, others, rfl⟩ := List.exists_cons_of_ne_nil isSome
      rw [← (List.cons.inj isRest).1] at isClose
      refine once ?_
      rw [(List.cons.inj isClose).2]
      exact List.mem_append_right _ List.mem_cons_self

theorem stripTags_until {close : List Char} (isSome : close ≠ []) (once : '<' ∉ lowered close)
    (absent : ¬lowered ('<' :: close) <:+: lowered inner) :
    stripTags (.until (lowered ('<' :: close))) (inner ++ ('<' :: close ++ rest)) =
      stripTags .text rest := by
  induction inner with
  | nil =>
    have isPrefix : (lowered ('<' :: close)).isPrefixOf
        (('<' :: (close ++ rest)).map Char.toLower) = true :=
      List.isPrefixOf_iff_prefix.mpr ⟨lowered rest, (lowered_append ('<' :: close) rest).symm⟩
    have count : (lowered ('<' :: close)).length = close.length + 1 := List.length_map ..
    obtain ⟨length, isLength⟩ := Nat.exists_eq_succ_of_ne_zero (List.length_pos_iff.mpr isSome).ne'
    rw [List.nil_append, List.cons_append, stripTags, if_pos isPrefix, count, isLength,
      if_neg (by omega)]
    exact stripTags_past length close isLength
  | cons character inner inductionHypothesis =>
    have notYet : ¬(lowered ('<' :: close)).isPrefixOf
        ((character :: (inner ++ ('<' :: close ++ rest))).map Char.toLower) = true := by
      rw [List.isPrefixOf_iff_prefix, List.map_cons, List.map_append, List.map_append]
      exact @not_prefix_of_absent _ once (lowered (character :: inner)) _
        (List.cons_ne_nil _ _) absent
    rw [List.cons_append, stripTags, if_neg notYet]
    exact inductionHypothesis fun isInfix => absent (List.infix_cons isInfix)

theorem stripTags_raw {body : List Char} (isRaw : tag.isRaw = true)
    (absent : ¬lowered tag.closing <:+: lowered (tag.name ++ (tag.tail ++ '>' :: body))) :
    stripTags .text (tag.opening ++ (body ++ (tag.closing ++ rest))) = stripTags .text rest := by
  have isMarkup : tag.opening ++ (body ++ (tag.closing ++ rest)) =
      '<' :: ((tag.name ++ (tag.tail ++ '>' :: body)) ++ (tag.closing ++ rest)) := by
    unfold Tag.opening
    simp only [List.cons_append, List.append_assoc, List.nil_append]
  have starts : ∀ word ∈ tagWords, startsLower word
      ('<' :: ((tag.name ++ (tag.tail ++ '>' :: body)) ++ (tag.closing ++ rest))) =
        word.toList.isPrefixOf ('<' :: lowered tag.name) := by
    intro word isWord
    rw [List.append_assoc, List.append_assoc, List.cons_append]
    exact startsLower_opening isWord
  have isName : lowered tag.name = "style".toList ∨ lowered tag.name = "script".toList := by
    unfold Tag.isRaw at isRaw
    rw [Bool.or_eq_true, beq_iff_eq, beq_iff_eq] at isRaw
    exact isRaw
  have isClosing : lowered tag.closing = '<' :: '/' :: (lowered tag.name ++ ['>']) := by
    unfold Tag.closing lowered
    rw [List.map_cons, List.map_cons, List.map_append]
    rfl
  have dropped := @stripTags_until rest _ ('/' :: (tag.name ++ ['>']))
    (List.cons_ne_nil _ _) (fun member => ?_) absent
  · rw [isMarkup, stripTags, if_pos rfl, starts _ List.mem_cons_self]
    change stripTags (.until (lowered tag.closing)) _ = _ at dropped
    rw [isClosing] at dropped
    rcases isName with isStyle | isScript
    · rw [isStyle] at dropped ⊢
      exact dropped
    · rw [isScript] at dropped ⊢
      rw [if_neg (by decide), starts _ (List.mem_cons_of_mem _ List.mem_cons_self), isScript]
      exact dropped
  · change '<' ∈ lowered (tag.closing.drop 1) at member
    rw [lowered, List.map_drop] at member
    change '<' ∈ (lowered tag.closing).drop 1 at member
    rw [isClosing] at member
    rcases isName with isStyle | isScript
    · rw [isStyle] at member
      exact absurd member (by decide)
    · rw [isScript] at member
      exact absurd member (by decide)

theorem stripTags_written {document : Document} (undisturbed : document.Undisturbed) :
    stripTags .text (document.written ++ rest) =
      textOf isListed document.items ++ stripTags .text rest := by
  induction document generalizing rest with
  | done => rfl
  | text letters others inductionHypothesis =>
    have isText : textOf isListed (letters.map fun letter => .character letter.character) =
        letters.map Letter.character := by
      unfold textOf
      rw [List.flatMap_map, List.map_eq_flatMap]
    unfold Document.written Document.items
    rw [List.append_assoc, stripTags_letters, inductionHypothesis undisturbed, ← isText]
    unfold textOf
    rw [List.flatMap_append, List.append_assoc]
  | comment body _ others inductionHypothesis =>
    unfold Document.written Document.items
    rw [List.append_assoc, List.append_assoc, List.append_assoc, stripTags_comment undisturbed.1,
      inductionHypothesis undisturbed.2]
  | raw tag isRaw body _ others inductionHypothesis =>
    unfold Document.written Document.items
    rw [List.append_assoc, List.append_assoc, List.append_assoc, stripTags_raw isRaw undisturbed.1,
      inductionHypothesis undisturbed.2]
  | void tag _ others inductionHypothesis =>
    unfold Document.written Document.items textOf
    rw [List.append_assoc, stripTags_opening undisturbed.1, inductionHypothesis undisturbed.2,
      List.flatMap_cons, List.append_assoc]
    rfl
  | element tag _ children others childrenHypothesis inductionHypothesis =>
    unfold Document.written Document.items textOf
    rw [List.append_assoc, List.append_assoc, List.append_assoc, stripTags_opening undisturbed.1,
      childrenHypothesis undisturbed.2.1, stripTags_closing, inductionHypothesis undisturbed.2.2,
      List.flatMap_cons, List.flatMap_append, List.flatMap_cons]
    simp only [List.append_assoc]
    rfl

end Reduction

/-! ### The words of what is kept -/

theorem wordsOf_lines (text : List Char) :
    (lines text).flatMap Text.wordsOf = Text.wordsOf text := by
  have white : Text.isWhiteSpace '\n' = true := by decide
  have whole := Text.wordsOf_intercalate white (text.splitOn '\n')
  rw [List.intercalate_splitOn] at whole
  unfold lines
  dsimp only
  split
  · rename_i ends
    obtain ⟨front, isSplit⟩ := List.getLast?_eq_some_iff.mp ends
    rw [whole, isSplit, List.dropLast_concat, List.flatMap_append, List.flatMap_singleton,
      Text.wordsOf_nil, List.append_nil]
  · exact whole.symm

theorem wordsOf_htmlToText (html : String) :
    Text.wordsOf (htmlToText html).toList = Text.wordsOf (stripTags .text html.toList) := by
  -- What is kept has the words of the lines that were read.
  have kept : ∀ (read : List (List Char)) (before : List (List Char)),
      (read.foldl (fun kept line =>
        if (collapse line).isEmpty ∧ kept.getLast? = some [] then kept
        else kept ++ [collapse line]) before).flatMap Text.wordsOf =
        before.flatMap Text.wordsOf ++ read.flatMap Text.wordsOf := by
    intro read
    induction read with
    | nil => exact fun before => (List.append_nil _).symm
    | cons line others inductionHypothesis =>
      intro before
      have collapsed : Text.wordsOf (collapse line) = Text.wordsOf line :=
        Text.wordsOf_intercalate_wordsOf (by decide) line
      rw [List.foldl_cons, inductionHypothesis, List.flatMap_cons]
      split
      · rename_i blank
        rw [← collapsed, List.isEmpty_iff.mp blank.1, Text.wordsOf_nil, List.nil_append]
      · rw [List.flatMap_append, List.flatMap_singleton, collapsed, List.append_assoc]
  unfold htmlToText
  dsimp only
  rw [Text.wordsOf_trim, String.toList_ofList, Text.wordsOf_intercalate (by decide), kept,
    List.flatMap_nil, List.nil_append, wordsOf_lines]

theorem wordsOf_textOf (items : List Item) {inWord parted : Bool} {front : List Char}
    (apart : inWord = false →
      ∀ back, Text.wordsOf (front ++ back) = Text.wordsOf front ++ Text.wordsOf back)
    (parts : partsWords inWord parted items = true) :
    Text.wordsOf (front ++ ((if parted then ['\n'] else []) ++
        textOf (fun start => isListed start || isBlock start) items)) =
      Text.wordsOf (front ++ textOf isListed items) := by
  have white : Text.isWhiteSpace '\n' = true := by decide
  have ended : ∀ (parted : Bool) (front : List Char),
      Text.wordsOf (front ++ if parted then ['\n'] else []) = Text.wordsOf front :=
    fun parted front => (Text.wordsOf_append_white (by cases parted <;> decide) front []).2
  induction items generalizing inWord parted front with
  | nil =>
    rw [textOf, textOf, List.flatMap_nil, List.flatMap_nil, List.append_nil, ended,
      List.append_nil]
  | cons item others inductionHypothesis =>
    -- Behind white space the words are those of what follows alone.
    have restart := @inductionHypothesis false false []
      fun _ _ => rfl
    cases item with
    | character character =>
      rw [partsWords, Bool.and_eq_true] at parts
      obtain ⟨here, behind⟩ := parts
      rw [textOf, textOf, List.flatMap_cons, List.flatMap_cons, List.singleton_append,
        List.singleton_append, ← textOf, ← textOf]
      cases isWhite : Text.isWhiteSpace character with
      | true =>
        rw [isWhite] at behind
        rw [← List.append_assoc, Text.wordsOf_append_cons isWhite, Text.wordsOf_append_cons isWhite,
          ended]
        exact congrArg _ (restart behind)
      | false =>
        rw [isWhite] at here behind
        have next := @inductionHypothesis _ _ (front ++ [character])
          (fun isFalse => Bool.noConfusion isFalse) behind
        rw [List.append_assoc, List.append_assoc] at next
        refine Eq.trans ?_ next
        cases parted with
        | false => rfl
        | true =>
          have between : inWord = false := by simpa using here
          rw [if_pos rfl, List.singleton_append, Text.wordsOf_append_cons white, apart between]
          rfl
    | tag start =>
      rw [partsWords] at parts
      rw [textOf, textOf, List.flatMap_cons, List.flatMap_cons, ← textOf, ← textOf]
      dsimp only
      cases listed : isListed start with
      | true =>
        rw [listed, if_pos rfl] at parts
        rw [Bool.true_or, if_pos rfl, List.singleton_append, List.singleton_append,
          ← List.append_assoc, Text.wordsOf_append_cons white, Text.wordsOf_append_cons white,
          ended]
        exact congrArg _ (restart parts)
      | false =>
        rw [listed, if_neg Bool.false_ne_true] at parts
        rw [Bool.false_or, if_neg Bool.false_ne_true, List.nil_append,
          ← inductionHypothesis apart parts]
        cases parted <;> cases isBlock start <;> try rfl
        -- Two lines that end behind one another part what one does.
        exact (Text.wordsOf_append_cons white front _).trans
          ((congrArg _ (Text.wordsOf_cons white _)).trans
            (Text.wordsOf_append_cons white front _).symm)

/-! ### Slices -/

theorem utf8Size_toLower (character : Char) : character.toLower.utf8Size = character.utf8Size := by
  rcases Text.toLower_cases character with ⟨low, high, lowered⟩ | ⟨-, same⟩
  · rw [(Utf8.utf8Size_eq_one_iff _).mpr (by omega), (Utf8.utf8Size_eq_one_iff _).mpr (by omega)]
  · rw [same]

theorem bytes_lowered (characters : List Char) : bytes (lowered characters) = bytes characters := by
  unfold bytes lowered
  rw [List.map_map]
  exact congrArg List.sum (List.map_congr_left fun character _ => utf8Size_toLower character)

theorem sliceFrom_append (front back : List Char) :
    sliceFrom (front ++ back) (bytes front) = some back := by
  induction front with
  | nil => cases back <;> rfl
  | cons character front inductionHypothesis =>
    have isSome := character.utf8Size_pos
    have total : bytes (character :: front) = (character.utf8Size - 1 + bytes front) + 1 := by
      unfold bytes
      rw [List.map_cons, List.sum_cons]
      omega
    have behind : character.utf8Size - 1 + bytes front + 1 - character.utf8Size = bytes front := by
      omega
    rw [total, List.cons_append, sliceFrom, if_pos (by omega), behind, inductionHypothesis]

/-! ### What a persona reads -/

/-- A document whose markup holds no `>` of its own, and whose blocks are parted by a tag that ends
a line wherever words meet at them, is read as its text. -/
theorem reads_its_text {document : Document} (undisturbed : document.Undisturbed)
    (parted : partsWords false false document.items = true) : ReadsItsText document where
  words := by
    refine ⟨fun start => isListed start || isBlock start,
      fun start isBlock => Bool.or_eq_true_iff.mpr (.inr isBlock), ?_⟩
    have kept := @stripTags_written [] _ undisturbed
    have same := @wordsOf_textOf document.items _ _ [] (fun _ _ => rfl) parted
    rw [List.append_nil] at kept
    rw [wordsOf_htmlToText, String.toList_ofList, kept, stripTags, List.append_nil]
    exact same.symm
  slices front back := by
    refine ⟨sliceFrom_append front back, ?_⟩
    rw [lowered_append, ← bytes_lowered]
    exact sliceFrom_append (lowered front) (lowered back)

def paragraph : Tag where
  name := ['P']
  attributes := []
  isName := ⟨'P', [], rfl, by decide, List.forall_mem_nil _⟩

def paragraphs : Document :=
  .element paragraph rfl (.text [.plain 'a' (by decide), .entity ("&lt;", '<') (by decide)] .done)
    (.element paragraph rfl (.text [.plain 'b' (by decide)] .done) .done)

theorem reads_its_text_paragraphs : ReadsItsText paragraphs :=
  reads_its_text ⟨⟨by decide, by decide, by decide⟩, trivial,
    ⟨by decide, by decide, by decide⟩, trivial, trivial⟩ (by decide)

def title : Attribute where
  name := "title".toList
  quote := '"'
  value := "x > y".toList
  isName := by
    have each : ("title".toList.all fun character => !Text.isWhiteSpace character &&
        !(['"', '\'', '>', '/', '='].contains character)) = true := by decide
    simpa using each
  quoted := by decide

def link : Tag where
  name := ['a']
  attributes := [title]
  isName := ⟨'a', [], rfl, by decide, List.forall_mem_nil _⟩

def titled : Document := .element link rfl (.text [.plain 'H' (by decide)] .done) .done

theorem not_reads_its_text_titled : ¬ReadsItsText titled := by
  rintro ⟨⟨breaks, -, words⟩, -⟩
  rw [wordsOf_htmlToText, String.toList_ofList] at words
  have asRead : Text.wordsOf (stripTags .text titled.written) = ["y\">H".toList] := by
    decide +kernel
  have asMeant : Text.wordsOf (textOf breaks titled.items) = ["H".toList] := by
    change Text.wordsOf ((if breaks ['<', 'a'] then ['\n'] else []) ++
      ('H' :: ((if breaks ['<', '/', 'a'] then ['\n'] else []) ++ []))) = _
    cases breaks ['<', 'a'] <;> cases breaks ['<', '/', 'a'] <;> decide +kernel
  rw [asRead, asMeant] at words
  exact absurd words (by decide)

end Twalk.Collector.Jmap
