/-
This file models the session file of the clerk, `SessionFile` of `clerk/src/gateway.rs`: how
the refresh token is read from it and how a rotated token is written into it. The reader is
lenient, it allows an `export`, quotes, comments and several assignments; the writer replaces
the first line that the reader takes for an assignment. What was written therefore reads back,
whatever the file held before. The other lines stay as they are exactly when none of them
ends in a carriage return, which the next reading takes for a part of the line's end.
-/

import Twalk.Reference

namespace Twalk.Clerk

/-! ### Reading -/

def sessionKey : String := "TWALK_GATEWAY_REFRESH_TOKEN"

def trimStart (text : String) : String := String.ofList (text.toList.dropWhile Text.isWhiteSpace)

def between (mark : Char) (value : String) : Option String :=
  match value.toList with
  | first :: rest =>
    if first = mark ∧ rest.getLast? = some mark then some (String.ofList rest.dropLast) else none
  | [] => none

/-- A value without the quotes around it. -/
def unquoted (value : String) : String :=
  ((between '"' value).or (between '\'' value)).getD value

def tokenIn (line : String) : Option String :=
  let line := Text.trim line
  if line.toList.head? = some '#' then none
  else
    let assignment := ((stripPrefix "export " line).map trimStart).getD line
    ((stripPrefix sessionKey assignment).bind fun rest => stripPrefix "=" (trimStart rest)).map
      fun value => unquoted (Text.trim value)

def isAssignment (line : String) : Bool := (tokenIn line).isSome

/-- `SessionFile::read` of what the file holds: the token of the first assignment, unless it is
empty. -/
def SessionFile.read (contents : String) : Option String :=
  ((Text.lines contents).findSome? tokenIn).filter fun token => token != ""

/-! ### Writing -/

def assignment (token : String) : String := sessionKey ++ "=" ++ token

def replaced (token : String) : List String → List String
  | [] => [assignment token]
  | line :: rest =>
    if isAssignment line then assignment token :: rest else line :: replaced token rest

/-- `SessionFile::write` up to the file operations: what the file is to hold. A file that is not
there or cannot be read counts as empty. -/
def SessionFile.written (existing : Option String) (token : String) : String :=
  "\n".intercalate (replaced token (Text.lines (existing.getD ""))) ++ "\n"

/-- A token as the Gateway mints them: hexadecimal digits in lower case. -/
def isToken (token : String) : Bool := token != "" && token.toList.all isIdDigit

/-! ### What was written reads back -/

theorem not_isAssignment_iff {line : String} : isAssignment line = false ↔ tokenIn line = none := by
  unfold isAssignment
  rw [Option.isSome_eq_false_iff, Option.isNone_iff_eq_none]

theorem tokenIn_withoutCarriageReturn (line : String) :
    tokenIn (Text.withoutCarriageReturn line) = tokenIn line := by
  unfold tokenIn
  rw [Text.trim_withoutCarriageReturn]

theorem isAssignment_withoutCarriageReturn (line : String) :
    isAssignment (Text.withoutCarriageReturn line) = isAssignment line := by
  unfold isAssignment
  rw [tokenIn_withoutCarriageReturn]

theorem stripPrefix_append (start rest : String) : stripPrefix start (start ++ rest) = some rest := by
  unfold stripPrefix
  rw [String.toList_append, if_pos (List.isPrefixOf_iff_prefix.mpr (List.prefix_append _ _)),
    List.drop_left, String.ofList_toList]

theorem stripPrefix_of_ne {start : String} {mark first : Char}
    (begins : start.toList.head? = some mark) (differ : mark ≠ first) (rest : List Char) :
    stripPrefix start (String.ofList (first :: rest)) = none := by
  obtain ⟨others, isStart⟩ := List.head?_eq_some_iff.mp begins
  unfold stripPrefix
  rw [String.toList_ofList, isStart, if_neg]
  rw [List.isPrefixOf_iff_prefix, List.cons_prefix_cons]
  exact fun both => differ both.1

section Tokens

variable {token : String} (isOne : isToken token = true)

include isOne

theorem token_ne_empty : token ≠ "" := by
  unfold isToken at isOne
  rw [Bool.and_eq_true, bne_iff_ne] at isOne
  exact isOne.1

theorem isIdDigit_of_mem {digit : Char} (member : digit ∈ token.toList) :
    isIdDigit digit = true := by
  unfold isToken at isOne
  rw [Bool.and_eq_true, List.all_eq_true] at isOne
  exact isOne.2 digit member

theorem exists_last : ∃ front last, token.toList = front ++ [last] ∧
    Text.isWhiteSpace last = false ∧ isIdDigit last = true := by
  obtain isNil | ⟨front, last, isLast⟩ := token.toList.eq_nil_or_concat
  · exact absurd (String.toList_eq_nil_iff.mp isNil) (token_ne_empty isOne)
  · have isDigit : isIdDigit last = true := isIdDigit_of_mem isOne (isLast ▸ by simp)
    exact ⟨front, last, by rw [isLast, List.concat_eq_append],
      isWhiteSpace_of_isIdDigit isDigit, isDigit⟩

theorem trim_append_token (start : List Char)
    (visible : ∀ character ∈ start.head?, Text.isWhiteSpace character = false) :
    Text.trim (String.ofList (start ++ token.toList)) = String.ofList (start ++ token.toList) := by
  refine String.toList_inj.mp ?_
  obtain ⟨front, last, isLast, lastVisible, _⟩ := exists_last isOne
  have kept : (start ++ token.toList).dropWhile Text.isWhiteSpace = start ++ token.toList := by
    cases start with
    | nil =>
      cases characters : token.toList with
      | nil => rfl
      | cons first rest =>
        have isDigit : isIdDigit first = true := isIdDigit_of_mem isOne (characters ▸ by simp)
        rw [List.nil_append, List.dropWhile_cons_of_neg]
        simp [isWhiteSpace_of_isIdDigit isDigit]
    | cons first rest =>
      rw [List.cons_append, List.dropWhile_cons_of_neg]
      simp [visible first rfl]
  rw [Text.toList_trim, String.toList_ofList, kept, isLast, ← List.append_assoc,
    Text.trimEnd_of_visible lastVisible]

theorem unquoted_token : unquoted token = token := by
  obtain ⟨front, last, isLast, _, isDigit⟩ := exists_last isOne
  have unmarked : ∀ mark : Char, isIdDigit mark = false → between mark token = none := by
    intro mark isMark
    unfold between
    cases characters : token.toList with
    | nil => rfl
    | cons first rest =>
      have first_ne : first ≠ mark := by
        rintro rfl
        rw [isIdDigit_of_mem isOne (characters ▸ by simp)] at isMark
        exact Bool.noConfusion isMark
      exact if_neg fun both => first_ne both.1
  unfold unquoted
  rw [unmarked '"' (by decide), unmarked '\'' (by decide)]
  rfl

theorem tokenIn_assignment : tokenIn (assignment token) = some token := by
  have isLine : assignment token =
      String.ofList ('T' :: ("WALK_GATEWAY_REFRESH_TOKEN=".toList ++ token.toList)) := by
    refine String.toList_inj.mp ?_
    unfold assignment
    rw [String.toList_append, String.toList_ofList]
    rfl
  have trimmed : Text.trim (assignment token) = assignment token := by
    rw [isLine, ← List.cons_append]
    refine trim_append_token isOne _ fun character isFirst => ?_
    rw [← Option.some.inj isFirst]
    rfl
  have valueTrimmed : Text.trim token = token := by
    have same := trim_append_token isOne [] (by simp)
    rwa [List.nil_append, String.ofList_toList] at same
  have unexported : stripPrefix "export " (assignment token) = none := by
    rw [isLine]
    exact stripPrefix_of_ne (show "export ".toList.head? = some 'e' from rfl) (by decide) _
  have afterKey : trimStart ("=" ++ token) = "=" ++ token := by
    unfold trimStart
    have isMark : ("=" ++ token).toList = '=' :: token.toList := String.toList_append
    rw [isMark, List.dropWhile_cons_of_neg (by decide), ← isMark, String.ofList_toList]
  have uncommented : (assignment token).toList.head? ≠ some '#' := by
    rw [isLine, String.toList_ofList, List.head?_cons]
    decide
  have keyed : stripPrefix sessionKey (assignment token) = some ("=" ++ token) := by
    unfold assignment
    rw [String.append_assoc]
    exact stripPrefix_append _ _
  unfold tokenIn
  rw [trimmed, if_neg uncommented, unexported]
  show ((stripPrefix sessionKey (assignment token)).bind _).map _ = _
  rw [keyed, Option.bind_some, afterKey, stripPrefix_append, Option.map_some, valueTrimmed,
    unquoted_token isOne]

theorem isAssignment_assignment : isAssignment (assignment token) = true := by
  unfold isAssignment
  rw [tokenIn_assignment isOne]
  rfl

theorem findSome?_replaced (lines : List String) :
    (replaced token lines).findSome? tokenIn = some token := by
  induction lines with
  | nil =>
    unfold replaced
    rw [List.findSome?_cons, tokenIn_assignment isOne]
  | cons line rest inductionHypothesis =>
    unfold replaced
    split
    · rw [List.findSome?_cons, tokenIn_assignment isOne]
    · rename_i isOther
      rw [List.findSome?_cons, not_isAssignment_iff.mp (Bool.eq_false_iff.mpr isOther)]
      exact inductionHypothesis

theorem eraseP_replaced (lines : List String) :
    (replaced token lines).eraseP isAssignment = lines.eraseP isAssignment := by
  induction lines with
  | nil => exact List.eraseP_cons_of_pos (isAssignment_assignment isOne)
  | cons line rest inductionHypothesis =>
    unfold replaced
    split
    · rename_i isFirst
      rw [List.eraseP_cons_of_pos (isAssignment_assignment isOne), List.eraseP_cons_of_pos isFirst]
    · rename_i isOther
      rw [List.eraseP_cons_of_neg isOther, List.eraseP_cons_of_neg isOther, inductionHypothesis]

end Tokens

/-! ### The lines of what was written -/

theorem notMem_of_mem_lines {text line : String} (member : line ∈ Text.lines text) :
    '\n' ∉ line.toList := by
  have unbroken : ∀ part ∈ Text.split '\n' text, '\n' ∉ part.toList := by
    intro part isPart
    obtain ⟨characters, isCharacters, rfl⟩ := List.mem_map.mp isPart
    rw [String.toList_ofList]
    exact Text.notMem_of_mem_splitOn isCharacters
  rcases List.mem_append.mp member with isEnded | isLast
  · obtain ⟨part, isPart, rfl⟩ := List.mem_map.mp isEnded
    unfold Text.withoutCarriageReturn
    split
    · rw [String.toList_ofList]
      exact fun isBreak =>
        unbroken part (List.dropLast_subset _ isPart) (List.dropLast_subset _ isBreak)
    · exact unbroken part (List.dropLast_subset _ isPart)
  · have isLast := (Option.mem_filter_iff.mp (Option.mem_toList.mp isLast)).1
    exact unbroken line (List.mem_of_getLast? isLast)

theorem lines_intercalate {lines : List String} (isSome : lines ≠ [])
    (unbroken : ∀ line ∈ lines, '\n' ∉ line.toList) :
    Text.lines ("\n".intercalate lines ++ "\n") = lines.map Text.withoutCarriageReturn := by
  have joined : "\n".intercalate lines ++ "\n" = "\n".intercalate (lines ++ [""]) := by
    rw [String.intercalate_append_of_ne_nil isSome (List.cons_ne_nil _ _),
      String.intercalate_singleton, String.append_empty]
  have parts : Text.split '\n' ("\n".intercalate lines ++ "\n") = lines ++ [""] := by
    unfold Text.split
    rw [joined, String.toList_intercalate]
    show (List.splitOn '\n' (List.intercalate ['\n'] _)).map String.ofList = _
    rw [List.splitOn_intercalate, List.map_map]
    · have same : String.ofList ∘ String.toList = id := funext fun _ => String.ofList_toList
      rw [same, List.map_id]
    · intro characters isLine
      obtain ⟨line, isMember, rfl⟩ := List.mem_map.mp isLine
      rcases List.mem_append.mp isMember with isLine | isEmpty
      · exact unbroken line isLine
      · rw [List.mem_singleton.mp isEmpty]
        exact List.not_mem_nil
    · simp
  unfold Text.lines
  rw [parts, List.dropLast_concat, List.getLast?_concat]
  exact List.append_nil _

theorem ne_nil_replaced (token : String) (lines : List String) : replaced token lines ≠ [] := by
  cases lines with
  | nil => exact List.cons_ne_nil _ _
  | cons line rest =>
    unfold replaced
    split <;> exact List.cons_ne_nil _ _

theorem mem_replaced {token line : String} {lines : List String}
    (member : line ∈ replaced token lines) : line = assignment token ∨ line ∈ lines := by
  induction lines with
  | nil => exact .inl (List.mem_singleton.mp member)
  | cons first rest inductionHypothesis =>
    unfold replaced at member
    split at member
    · exact (List.mem_cons.mp member).imp id (List.mem_cons_of_mem first)
    · rcases List.mem_cons.mp member with rfl | isRest
      · exact .inr List.mem_cons_self
      · exact (inductionHypothesis isRest).imp id (List.mem_cons_of_mem first)

variable {token : String}

theorem lines_written (isOne : isToken token = true) (existing : Option String) :
    Text.lines (SessionFile.written existing token) =
      (replaced token (Text.lines (existing.getD ""))).map Text.withoutCarriageReturn := by
  refine lines_intercalate (ne_nil_replaced _ _) fun line member => ?_
  rcases mem_replaced member with rfl | isKept
  · intro isBreak
    unfold assignment at isBreak
    rw [String.toList_append, List.mem_append] at isBreak
    rcases isBreak with isKey | isDigit
    · revert isKey
      decide
    · exact absurd (isIdDigit_of_mem isOne isDigit) (by decide)
  · exact notMem_of_mem_lines isKept

theorem read_written (isOne : isToken token = true) (existing : Option String) :
    SessionFile.read (SessionFile.written existing token) = some token := by
  have sameTokens : tokenIn ∘ Text.withoutCarriageReturn = tokenIn := by
    funext line
    rw [Function.comp_apply, tokenIn_withoutCarriageReturn]
  have isFirst : (Text.lines (SessionFile.written existing token)).findSome? tokenIn =
      some token := by
    rw [lines_written isOne, List.findSome?_map, sameTokens]
    exact findSome?_replaced isOne _
  unfold SessionFile.read
  rw [isFirst]
  exact if_pos (bne_iff_ne.mpr (token_ne_empty isOne))

def otherLines (contents : String) : List String := (Text.lines contents).eraseP isAssignment

theorem otherLines_written_iff (isOne : isToken token = true) (existing : Option String) :
    otherLines (SessionFile.written existing token) = otherLines (existing.getD "") ↔
      ∀ line ∈ otherLines (existing.getD ""), line.toList.getLast? ≠ some '\r' := by
  have sameAssignments : isAssignment ∘ Text.withoutCarriageReturn = isAssignment := by
    funext line
    rw [Function.comp_apply, isAssignment_withoutCarriageReturn]
  have others : otherLines (SessionFile.written existing token) =
      (otherLines (existing.getD "")).map Text.withoutCarriageReturn := by
    unfold otherLines
    rw [lines_written isOne, List.eraseP_map, sameAssignments, eraseP_replaced isOne]
  have ends : ∀ line : String, Text.withoutCarriageReturn line = line ↔
      line.toList.getLast? ≠ some '\r' := by
    intro line
    unfold Text.withoutCarriageReturn
    split
    · rename_i isReturn
      obtain ⟨front, isFront⟩ := List.getLast?_eq_some_iff.mp isReturn
      refine iff_of_false (fun same => ?_) fun differs => differs isReturn
      have shorter := congrArg (fun text : String => text.toList.length) same
      rw [isFront, List.dropLast_concat, String.toList_ofList] at shorter
      simp at shorter
    · exact iff_of_true rfl ‹_›
  rw [others]
  refine ⟨fun same line member => ?_, fun each => ?_⟩
  · have pointwise := List.map_eq_map_iff.mp (same.trans (List.map_id _).symm)
    exact (ends line).mp (pointwise line member)
  · exact (List.map_congr_left fun line member => (ends line).mpr (each line member)).trans
      (List.map_id _)

end Twalk.Clerk
