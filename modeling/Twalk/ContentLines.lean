/-
This file is the text an agenda writes its content lines as, and that the readers of
`collector/src/caldav.rs` undo it: a line is folded anywhere, each part of it ended as the server
ends its lines, and a parameter is in quotes or has no mark of the line's in it. What `unfold` and
`ContentLine::parse` read are the lines that were written, and `unescape_text` undoes the escapes
of a text.
-/

import Twalk.Ical

namespace Twalk.Collector

/-! ### Writing -/

/-- A parameter to write. What ends a line, or the value of a parameter, is not in one. -/
structure Parameter where
  name : List Char
  value : List Char
  quoted : Bool
  clearName : ∀ character ∈ name, character ∉ ['"', ':', ';', '=', '\r', '\n']
  clearValue : ∀ character ∈ value, character ∉ ['"', '\r', '\n']
  bare : quoted = false → ∀ character ∈ value, character ≠ ':' ∧ character ≠ ';'

namespace Parameter

variable (parameter : Parameter)

def written : List Char :=
  if parameter.quoted then '"' :: parameter.value ++ ['"'] else parameter.value

def text : List Char := parameter.name ++ '=' :: parameter.written

def read : String × String :=
  (Text.toAsciiUppercase (String.ofList parameter.name), String.ofList parameter.value)

end Parameter

/-- A content line to write. -/
structure Content where
  name : List Char
  parameters : List Parameter
  value : List Char
  clearName : ∀ character ∈ name, character ∉ ['"', ':', ';', ' ', '\t', '\r', '\n']
  clearValue : ∀ character ∈ value, character ∉ ['\r', '\n']

def Content.text (content : Content) : List Char :=
  content.name ++ content.parameters.flatMap (fun parameter => ';' :: parameter.text) ++
    ':' :: content.value

def Content.line (content : Content) : ContentLine :=
  ⟨Text.toAsciiUppercase (String.ofList content.name), content.parameters.map Parameter.read,
    String.ofList content.value⟩

/-- What stands on one line of the file, and whether a carriage return ends it. -/
structure Piece where
  characters : List Char
  returned : Bool

def Piece.text (piece : Piece) : List Char :=
  piece.characters ++ (if piece.returned then ['\r'] else []) ++ ['\n']

/-- What stands before a piece that is not the first of its line. -/
def blank (tab : Bool) : Char := if tab then '\t' else ' '

/-- A content line as it stands in a file: folded between any two of its characters, with a blank
or a tab before each further piece. -/
structure Folded (content : Content) where
  first : Piece
  others : List (Bool × Piece)
  whole : first.characters ++ others.flatMap (·.2.characters) = content.text

def Folded.text {content : Content} (folded : Folded content) : List Char :=
  folded.first.text ++
    folded.others.flatMap fun other => blank other.1 :: other.2.text

/-- The escapes of a text: of the marks RFC 5545 gives a meaning, and of the end of a line. -/
def escape : List Char → List Char
  | [] => []
  | character :: rest =>
    if character = '\n' then '\\' :: 'n' :: escape rest
    else if character = '\\' ∨ character = ';' ∨ character = ',' then
      '\\' :: character :: escape rest
    else character :: escape rest

theorem unescape_escape (text : List Char) : unescape (escape text) = text := by
  induction text with
  | nil => rfl
  | cons character rest inductionHypothesis =>
    unfold escape
    split_ifs with ends marked
    · subst ends
      exact congrArg (List.cons '\n') inductionHypothesis
    · rcases marked with rfl | rfl | rfl
      · exact congrArg (List.cons '\\') inductionHypothesis
      · exact congrArg (List.cons ';') inductionHypothesis
      · exact congrArg (List.cons ',') inductionHypothesis
    · have plain : character ≠ '\\' := fun same => marked (.inl same)
      rw [unescape, inductionHypothesis]
      · exact fun _ same _ => plain same
      · exact fun _ same _ => plain same
      · exact fun _ _ same _ => plain same
      · exact fun same _ => plain same

/-! ### Unfolding -/

/-- A line of the file, joined onto the line before it where it begins with a blank or a tab. -/
def joined (lines : List String) (raw : List Char) : List String :=
  match raw, lines.getLast? with
  | ' ' :: rest, some last | '\t' :: rest, some last =>
    lines.dropLast ++ [last ++ String.ofList rest]
  | _, _ => lines ++ [String.ofList raw]

/-- The lines of a file, behind those that were read before it. -/
def unfoldFrom (lines : List String) (characters : List Char) : List String :=
  (characters.splitOn '\n').foldl
    (fun lines raw => joined lines (raw.rdropWhile (· == '\r'))) lines

theorem unfold_eq (ics : String) : unfold ics = unfoldFrom [] ics.toList := rfl

theorem joined_first (lines : List String) {characters : List Char}
    (apart : ∀ character ∈ characters.head?, character ≠ ' ' ∧ character ≠ '\t') :
    joined lines characters = lines ++ [String.ofList characters] := by
  unfold joined
  split
  · exact absurd rfl (apart _ rfl).1
  · exact absurd rfl (apart _ rfl).2
  · rfl

theorem joined_other (lines : List String) (last : String) (tab : Bool) (characters : List Char) :
    joined (lines ++ [last]) (blank tab :: characters) =
      lines ++ [last ++ String.ofList characters] := by
  unfold joined
  rw [List.getLast?_concat, List.dropLast_concat]
  cases tab <;> rfl

theorem unfoldFrom_piece (lines : List String) {piece : Piece} (lead rest : List Char)
    (clear : ∀ character ∈ lead ++ piece.characters, character ∉ ['\r', '\n']) :
    unfoldFrom lines (lead ++ piece.text ++ rest) =
      unfoldFrom (joined lines (lead ++ piece.characters)) rest := by
  have isBroken : lead ++ piece.text ++ rest =
      (lead ++ piece.characters ++ if piece.returned then ['\r'] else []) ++ '\n' :: rest := by
    unfold Piece.text
    simp
  have unreturned : (lead ++ piece.characters).rdropWhile (· == '\r') = lead ++ piece.characters :=
    List.rdropWhile_eq_self_iff.mpr fun nonempty isReturn => by
      have member := clear _ (List.getLast_mem nonempty)
      rw [eq_of_beq isReturn] at member
      exact member (by decide)
  have unbroken : '\n' ∉ lead ++ piece.characters := fun member => clear _ member (by decide)
  unfold unfoldFrom
  rw [isBroken]
  cases piece.returned with
  | false =>
    rw [if_neg Bool.false_ne_true, List.append_nil,
      List.splitOn_append_cons_self_of_not_mem unbroken, List.foldl_cons, unreturned]
  | true =>
    rw [if_pos rfl, List.splitOn_append_cons_self_of_not_mem, List.foldl_cons,
      List.rdropWhile_concat_pos _ _ _ (by decide), unreturned]
    rw [List.mem_append, not_or]
    exact ⟨unbroken, by decide⟩

theorem unfoldFrom_others (lines : List String) (last : String) (others : List (Bool × Piece))
    (rest : List Char)
    (clear : ∀ character ∈ others.flatMap (·.2.characters), character ∉ ['\r', '\n']) :
    unfoldFrom (lines ++ [last])
        ((others.flatMap fun other => blank other.1 :: other.2.text) ++ rest) =
      unfoldFrom (lines ++ [last ++ String.ofList (others.flatMap (·.2.characters))]) rest := by
  induction others generalizing last with
  | nil => simp
  | cons other others inductionHypothesis =>
    rw [List.flatMap_cons, List.forall_mem_append] at clear
    have clearOther : ∀ character ∈ [blank other.1] ++ other.2.characters,
        character ∉ ['\r', '\n'] := by
      refine List.forall_mem_append.mpr ⟨List.forall_mem_singleton.mpr ?_, clear.1⟩
      unfold blank
      cases other.1 <;> decide
    have read := unfoldFrom_piece (lines ++ [last]) [blank other.1]
      ((others.flatMap fun other => blank other.1 :: other.2.text) ++ rest) clearOther
    rw [List.flatMap_cons, List.append_assoc]
    refine read.trans ?_
    rw [List.singleton_append, joined_other, inductionHypothesis _ clear.2, List.flatMap_cons,
      String.ofList_append, String.append_assoc]

theorem unfoldFrom_folded (lines : List String) {content : Content} (folded : Folded content)
    (rest : List Char)
    (clear : ∀ character ∈ content.text, character ∉ ['\r', '\n'])
    (apart : ∀ character ∈ content.text.head?, character ≠ ' ' ∧ character ≠ '\t') :
    unfoldFrom lines (folded.text ++ rest) =
      unfoldFrom (lines ++ [String.ofList content.text]) rest := by
  rw [← folded.whole, List.forall_mem_append] at clear
  have apartFirst : ∀ character ∈ folded.first.characters.head?,
      character ≠ ' ' ∧ character ≠ '\t' := by
    intro character isFirst
    refine apart character ?_
    rw [← folded.whole, List.head?_append, Option.mem_def.mp isFirst]
    rfl
  have read := unfoldFrom_piece lines []
    ((folded.others.flatMap fun other => blank other.1 :: other.2.text) ++ rest) clear.1
  unfold Folded.text
  rw [List.append_assoc]
  refine read.trans ?_
  rw [List.nil_append, joined_first lines apartFirst, unfoldFrom_others lines _ _ rest clear.2,
    ← folded.whole, String.ofList_append]

/-! ### Parsing -/

/-- Whether a text leaves no quotes open and has a mark in quotes only. -/
def quiet (mark : Char) (inQuotes : Bool) : List Char → Bool
  | [] => !inQuotes
  | character :: rest =>
    if character = '"' then quiet mark (!inQuotes) rest
    else (inQuotes || character != mark) && quiet mark inQuotes rest

variable {mark : Char} {inQuotes : Bool} {front : List Char}

theorem quiet_append (isQuiet : quiet mark inQuotes front = true) (rest : List Char) :
    quiet mark inQuotes (front ++ rest) = quiet mark false rest := by
  induction front generalizing inQuotes with
  | nil => rw [List.nil_append, (Bool.not_eq_true' inQuotes).mp isQuiet]
  | cons character front inductionHypothesis =>
    unfold quiet at isQuiet
    rw [List.cons_append, quiet]
    by_cases isQuote : character = '"'
    · rw [if_pos isQuote] at isQuiet ⊢
      exact inductionHypothesis isQuiet
    · rw [if_neg isQuote] at isQuiet ⊢
      obtain ⟨passes, isQuiet⟩ := Bool.and_eq_true_iff.mp isQuiet
      rw [passes, Bool.true_and]
      exact inductionHypothesis isQuiet

theorem quiet_of_plain (plain : ∀ character ∈ front, character ≠ '"' ∧ character ≠ mark) :
    quiet mark false front = true := by
  induction front with
  | nil => rfl
  | cons character front inductionHypothesis =>
    obtain ⟨⟨noQuote, noMark⟩, others⟩ := List.forall_mem_cons.mp plain
    unfold quiet
    rw [if_neg noQuote, inductionHypothesis others, Bool.and_true]
    exact bne_iff_ne.mpr noMark

theorem quiet_quoted (noQuote : ∀ character ∈ front, character ≠ '"') :
    quiet mark false ('"' :: front ++ ['"']) = true := by
  show quiet mark true (front ++ ['"']) = true
  induction front with
  | nil => rfl
  | cons character front inductionHypothesis =>
    obtain ⟨notQuote, others⟩ := List.forall_mem_cons.mp noQuote
    rw [List.cons_append, quiet, if_neg notQuote, inductionHypothesis others]
    rfl

theorem not_splits {character : Char} (passes : (inQuotes || character != mark) = true) :
    ¬(character = mark ∧ inQuotes = false) := by
  rintro ⟨rfl, rfl⟩
  rw [Bool.false_or, bne_self_eq_false] at passes
  exact Bool.false_ne_true passes

theorem splitHead_quiet (isQuiet : quiet ':' inQuotes front = true) (rest : List Char) :
    splitHead inQuotes (front ++ rest) =
      (splitHead false rest).map fun parts => (front ++ parts.1, parts.2) := by
  induction front generalizing inQuotes with
  | nil =>
    rw [(Bool.not_eq_true' inQuotes).mp isQuiet]
    exact (Option.map_id' ..).symm
  | cons character front inductionHypothesis =>
    unfold quiet at isQuiet
    by_cases isQuote : character = '"'
    · subst isQuote
      rw [if_pos rfl] at isQuiet
      rw [List.cons_append, splitHead, inductionHypothesis isQuiet, Option.map_map]
      rfl
    · rw [if_neg isQuote] at isQuiet
      obtain ⟨passes, isQuiet⟩ := Bool.and_eq_true_iff.mp isQuiet
      rw [List.cons_append, splitHead, if_neg (not_splits passes), inductionHypothesis isQuiet,
        Option.map_map]
      · rfl
      · exact isQuote

theorem splitUnquoted_quiet (isQuiet : quiet ';' inQuotes front = true) (current rest : List Char) :
    splitUnquoted ';' inQuotes current (front ++ rest) =
      splitUnquoted ';' false (current ++ front) rest := by
  induction front generalizing inQuotes current with
  | nil => rw [(Bool.not_eq_true' inQuotes).mp isQuiet, List.nil_append, List.append_nil]
  | cons character front inductionHypothesis =>
    unfold quiet at isQuiet
    rw [List.cons_append, splitUnquoted, show current ++ character :: front =
      current ++ [character] ++ front from List.append_cons ..]
    by_cases isQuote : character = '"'
    · subst isQuote
      rw [if_pos rfl] at isQuiet ⊢
      exact inductionHypothesis isQuiet _
    · rw [if_neg isQuote] at isQuiet ⊢
      obtain ⟨passes, isQuiet⟩ := Bool.and_eq_true_iff.mp isQuiet
      rw [if_neg (not_splits passes)]
      exact inductionHypothesis isQuiet _

theorem unquoted {value : List Char} (noQuote : ∀ character ∈ value, character ≠ '"') :
    value.dropWhile (· == '"') = value := by
  cases value with
  | nil => rfl
  | cons first others =>
    exact List.dropWhile_cons_of_neg (by simpa using noQuote first List.mem_cons_self)

namespace Parameter

variable (parameter : Parameter)

theorem noQuote : ∀ character ∈ parameter.value, character ≠ '"' :=
  fun character member same => parameter.clearValue character member (by simp [same])

theorem quiet_text (isMark : mark = ':' ∨ mark = ';') :
    quiet mark false parameter.text = true := by
  have plainName : ∀ character ∈ parameter.name ++ ['='], character ≠ '"' ∧ character ≠ mark := by
    refine List.forall_mem_append.mpr ⟨fun character member => ?_, ?_⟩
    · have clear := parameter.clearName character member
      rcases isMark with rfl | rfl <;> simp_all
    · rcases isMark with rfl | rfl <;> simp
  unfold text
  rw [List.append_cons, quiet_append (quiet_of_plain plainName)]
  unfold written
  cases isQuoted : parameter.quoted with
  | true => exact quiet_quoted parameter.noQuote
  | false =>
    refine quiet_of_plain fun character member => ⟨parameter.noQuote character member, ?_⟩
    have bare := parameter.bare isQuoted character member
    rcases isMark with rfl | rfl
    · exact bare.1
    · exact bare.2

theorem parseParam_text : ContentLine.parseParam parameter.text = some parameter.read := by
  have isName : ∀ character ∈ parameter.name, (character != '=') = true := by
    intro character member
    refine bne_iff_ne.mpr fun same => parameter.clearName character member ?_
    simp [same]
  have split : parameter.text.span (· != '=') = (parameter.name, '=' :: parameter.written) := by
    unfold text
    rw [List.span_eq_takeWhile_dropWhile, List.takeWhile_append_of_pos isName,
      List.dropWhile_append_of_pos isName, List.takeWhile_cons_of_neg (by decide),
      List.dropWhile_cons_of_neg (by decide), List.append_nil]
  have reversed : ∀ character ∈ parameter.value.reverse, character ≠ '"' :=
    fun character member => parameter.noQuote character (List.mem_reverse.mp member)
  have isValue : ((parameter.written.dropWhile (· == '"')).reverse.dropWhile (· == '"')).reverse =
      parameter.value := by
    unfold written
    cases parameter.quoted with
    | true =>
      rw [if_pos rfl, List.cons_append, List.dropWhile_cons_of_pos (by decide)]
      cases isEmpty : parameter.value with
      | nil => rfl
      | cons first others =>
        have isFirst : (first == '"') = false :=
          beq_false_of_ne (parameter.noQuote first (isEmpty ▸ List.mem_cons_self))
        rw [isEmpty] at reversed
        rw [List.cons_append, List.dropWhile_cons_of_neg (by simp [isFirst]), ← List.cons_append,
          List.reverse_append, List.reverse_singleton, List.singleton_append,
          List.dropWhile_cons_of_pos (by decide), unquoted reversed, List.reverse_reverse]
    | false =>
      rw [if_neg Bool.false_ne_true, unquoted parameter.noQuote, unquoted reversed,
        List.reverse_reverse]
  unfold ContentLine.parseParam
  rw [split]
  dsimp only
  rw [isValue]
  rfl

end Parameter

theorem splitHead_content (parameters : List Parameter) (value : List Char) :
    splitHead false (parameters.flatMap (fun parameter => ';' :: parameter.text) ++ ':' :: value) =
      some (parameters.flatMap fun parameter => ';' :: parameter.text, value) := by
  induction parameters with
  | nil => rfl
  | cons parameter parameters inductionHypothesis =>
    rw [List.flatMap_cons, List.append_assoc, List.cons_append]
    show (splitHead false (parameter.text ++ _)).map _ = _
    rw [splitHead_quiet (parameter.quiet_text (.inl rfl)), inductionHypothesis]
    rfl

theorem splitUnquoted_content (current : List Char) (parameters : List Parameter) :
    splitUnquoted ';' false current (parameters.flatMap fun parameter => ';' :: parameter.text) =
      current :: parameters.map Parameter.text := by
  induction parameters generalizing current with
  | nil => rfl
  | cons parameter parameters inductionHypothesis =>
    rw [List.flatMap_cons, List.cons_append]
    show current :: splitUnquoted ';' false [] (parameter.text ++ _) = _
    rw [splitUnquoted_quiet (parameter.quiet_text (.inr rfl)), inductionHypothesis]
    rfl

theorem parse_text (content : Content) :
    ContentLine.parse (String.ofList content.text) = some content.line := by
  have quietName : ∀ mark, mark = ':' ∨ mark = ';' → quiet mark false content.name = true := by
    refine fun mark isMark => quiet_of_plain fun character member => ?_
    have clear := content.clearName character member
    rcases isMark with rfl | rfl <;> simp_all
  have head : splitHead false content.text = some
      (content.name ++ content.parameters.flatMap fun parameter => ';' :: parameter.text,
        content.value) := by
    unfold Content.text
    rw [List.append_assoc, splitHead_quiet (quietName _ (.inl rfl)), splitHead_content]
    rfl
  have parts : splitUnquoted ';' false []
      (content.name ++ content.parameters.flatMap fun parameter => ';' :: parameter.text) =
        content.name :: content.parameters.map Parameter.text := by
    rw [splitUnquoted_quiet (quietName _ (.inr rfl)), splitUnquoted_content]
    rfl
  have read : (content.parameters.map Parameter.text).filterMap ContentLine.parseParam =
      content.parameters.map Parameter.read := by
    rw [List.filterMap_map, ← congrFun List.filterMap_eq_map content.parameters]
    exact List.filterMap_congr fun parameter _ => parameter.parseParam_text
  unfold ContentLine.parse
  rw [String.toList_ofList, head]
  dsimp only
  rw [parts]
  dsimp only
  rw [read]
  rfl

/-! ### A file -/

/-- A content line in a file, and how it is folded there. -/
structure Laid where
  content : Content
  folded : Folded content

theorem Parameter.clear_text (parameter : Parameter) :
    ∀ character ∈ parameter.text, character ∉ ['\r', '\n'] := by
  have clearValue : ∀ character ∈ parameter.value, character ∉ ['\r', '\n'] :=
    fun character member => List.not_mem_of_not_mem_cons (parameter.clearValue character member)
  refine List.forall_mem_append.mpr ⟨fun character member ends => ?_,
    List.forall_mem_cons.mpr ⟨by decide, ?_⟩⟩
  · exact parameter.clearName character member
      (List.mem_append_right ['"', ':', ';', '='] ends)
  · unfold written
    split
    · exact List.forall_mem_append.mpr ⟨List.forall_mem_cons.mpr ⟨by decide, clearValue⟩,
        List.forall_mem_singleton.mpr (by decide)⟩
    · exact clearValue

namespace Content

variable (content : Content)

theorem clear_text : ∀ character ∈ content.text, character ∉ ['\r', '\n'] := by
  refine List.forall_mem_append.mpr ⟨List.forall_mem_append.mpr
    ⟨fun character member ends => ?_, fun character member => ?_⟩,
      List.forall_mem_cons.mpr ⟨by decide, content.clearValue⟩⟩
  · exact content.clearName character member
      (List.mem_append_right ['"', ':', ';', ' ', '\t'] ends)
  · obtain ⟨parameter, -, isIn⟩ := List.mem_flatMap.mp member
    rcases List.mem_cons.mp isIn with rfl | isText
    · decide
    · exact parameter.clear_text character isText

theorem apart_text : ∀ character ∈ content.text.head?, character ≠ ' ' ∧ character ≠ '\t' := by
  intro character isFirst
  have isIn : character ∈ content.name ∨ character = ';' ∨ character = ':' := by
    unfold text at isFirst
    cases isName : content.name with
    | nil =>
      rw [isName] at isFirst
      cases isParameters : content.parameters with
      | nil =>
        rw [isParameters] at isFirst
        exact .inr (.inr (Option.some.inj isFirst).symm)
      | cons parameter others =>
        rw [isParameters] at isFirst
        exact .inr (.inl (Option.some.inj isFirst).symm)
    | cons first others =>
      rw [isName] at isFirst
      exact .inl (Option.some.inj isFirst ▸ List.mem_cons_self)
  rcases isIn with member | rfl | rfl
  · constructor
    · rintro rfl
      exact content.clearName _ member (by decide)
    · rintro rfl
      exact content.clearName _ member (by decide)
  · decide
  · decide

end Content

/-- The content lines of a file are read as they were written, however they are folded there, and
the texts among their values are what they were before they were escaped. -/
theorem contentLines_read (lines : List Laid) :
    (unfold (String.ofList (lines.flatMap fun laid => laid.folded.text))).filterMap
        ContentLine.parse = lines.map (fun laid => laid.content.line) ∧
      ∀ laid ∈ lines, ∀ text, laid.content.value = escape text →
        unescapeText laid.content.line.value = String.ofList text := by
  have unfolded : ∀ before : List String,
      unfoldFrom before (lines.flatMap fun laid => laid.folded.text) =
        before ++ lines.map (fun laid => String.ofList laid.content.text) ++ [""] := by
    induction lines with
    | nil => exact fun before => (List.append_nil before).symm ▸ rfl
    | cons laid lines inductionHypothesis =>
      intro before
      rw [List.flatMap_cons, unfoldFrom_folded before laid.folded _ laid.content.clear_text
        laid.content.apart_text, inductionHypothesis]
      simp
  constructor
  · rw [unfold_eq, String.toList_ofList, unfolded, List.nil_append, List.filterMap_append,
      List.filterMap_map, ← congrFun List.filterMap_eq_map lines]
    refine (congrArg (· ++ _) (List.filterMap_congr fun laid _ => parse_text laid.content)).trans ?_
    exact List.append_nil _
  · intro laid _ text isEscaped
    unfold unescapeText Content.line
    rw [isEscaped, String.toList_ofList, unescape_escape]

end Twalk.Collector
