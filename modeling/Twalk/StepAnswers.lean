/-
This file is what the answer of a login step carries: what is present in it, where each value
comes from, and that a pasted jar is read alike in its three spellings.

The answer is right where the names the step chose let it be. Two fields of one name write one
member, a jar and an entry can meet under the jar's own names, and a name that every object
inherits is found in a paste that does not have it. A field that may be left out is asked for
all the same once it is drawn, so a step with one left blank is not answered.
-/

import Twalk.StepFields

namespace Twalk.StepFields

/-! ### Fields and their controls -/

def InputField.isEntry (field : InputField) : Bool :=
  !field.isGrouped && !(controlOf field).isRefused

theorem controlOf_cases (field : InputField) :
    (∃ drawn, controlOf field = .entry field drawn) ∨
      ∃ because, controlOf field = .refused field because := by
  unfold controlOf
  split
  · exact Or.inr ⟨_, rfl⟩
  · split
    · exact Or.inr ⟨_, rfl⟩
    · exact Or.inl ⟨_, rfl⟩
    · split
      · exact Or.inr ⟨_, rfl⟩
      · exact Or.inl ⟨_, rfl⟩

variable {field : InputField}

theorem controlOf_of_isEntry (isEntry : field.isEntry = true) :
    ∃ drawn, controlOf field = .entry field drawn := by
  obtain ⟨_, isDrawn⟩ := Bool.and_eq_true_iff.mp isEntry
  rcases controlOf_cases field with drawn | ⟨because, isRefused⟩
  · exact drawn
  · rw [isRefused] at isDrawn
    exact absurd isDrawn (by simp [Control.isRefused])

variable {fields : List InputField} {control : Control}

theorem mem_controlsOf_iff :
    control ∈ controlsOf fields ↔
      (∃ field ∈ fields, field.isGrouped = false ∧ control = controlOf field) ∨
        (∃ field ∈ fields, field.isGrouped = true) ∧
          control = jarControl (fields.filter InputField.isGrouped) := by
  have arranged := arranged_foldl fields
  unfold controlsOf
  generalize fields.foldl addField ([], none) = drawn at arranged
  cases arranged with
  | single none =>
    have singles : ∀ field ∈ fields, field.isGrouped = false := fun field member => by
      simpa using List.filter_eq_nil_iff.mp none field member
    rw [List.mem_map]
    constructor
    · rintro ⟨field, member, rfl⟩
      exact Or.inl ⟨field, member, singles field member, rfl⟩
    · rintro (⟨field, member, _, rfl⟩ | ⟨⟨field, member, isGrouped⟩, _⟩)
      · exact ⟨field, member, rfl⟩
      · exact absurd ((singles field member).symm.trans isGrouped) Bool.false_ne_true
  | jar front back some others =>
    have single : ∀ field, field ∈ front ∨ field ∈ back ↔
        field ∈ fields ∧ field.isGrouped = false := fun field => by
      rw [← List.mem_append, others, List.mem_filter]
      simp
    have grouped : ∃ field ∈ fields, field.isGrouped = true := by
      obtain ⟨field, member⟩ := List.exists_mem_of_ne_nil _ some
      exact ⟨field, List.mem_of_mem_filter member, (List.mem_filter.mp member).2⟩
    rw [List.mem_append, List.mem_cons, List.mem_map, List.mem_map, and_iff_right grouped]
    constructor
    · rintro (⟨field, member, rfl⟩ | isJar | ⟨field, member, rfl⟩)
      · exact Or.inl ⟨field, ((single field).mp (Or.inl member)).1,
          ((single field).mp (Or.inl member)).2, rfl⟩
      · exact Or.inr isJar
      · exact Or.inl ⟨field, ((single field).mp (Or.inr member)).1,
          ((single field).mp (Or.inr member)).2, rfl⟩
    · rintro (⟨field, member, isSingle, rfl⟩ | isJar)
      · rcases (single field).mpr ⟨member, isSingle⟩ with inFront | inBack
        · exact Or.inl ⟨field, inFront, rfl⟩
        · exact Or.inr (Or.inr ⟨field, inBack, rfl⟩)
      · exact Or.inr (Or.inl isJar)

theorem controlOf_mem (member : field ∈ fields) (isSingle : field.isGrouped = false) :
    controlOf field ∈ controlsOf fields :=
  mem_controlsOf_iff.mpr (Or.inl ⟨field, member, isSingle, rfl⟩)

theorem entry_mem (member : field ∈ fields) (isEntry : field.isEntry = true) :
    ∃ drawn, Control.entry field drawn ∈ controlsOf fields := by
  obtain ⟨isSingle, _⟩ := Bool.and_eq_true_iff.mp isEntry
  obtain ⟨drawn, isControl⟩ := controlOf_of_isEntry isEntry
  exact ⟨drawn, isControl ▸ controlOf_mem member (by simpa using isSingle)⟩

theorem jarControl_mem (grouped : ∃ field ∈ fields, field.isGrouped = true) :
    jarControl (fields.filter InputField.isGrouped) ∈ controlsOf fields :=
  mem_controlsOf_iff.mpr (Or.inr ⟨grouped, rfl⟩)

theorem isEntry_of_mem {drawn : Option EntryType}
    (member : Control.entry field drawn ∈ controlsOf fields) :
    field ∈ fields ∧ field.isEntry = true := by
  rcases mem_controlsOf_iff.mp member with ⟨other, inFields, isSingle, isControl⟩ | ⟨_, isJar⟩
  · rcases controlOf_cases other with ⟨otherDrawn, isDrawn⟩ | ⟨because, isRefused⟩
    · rw [isDrawn] at isControl
      cases isControl
      exact ⟨inFields, by simp [InputField.isEntry, isSingle, isDrawn, Control.isRefused]⟩
    · rw [isRefused] at isControl
      exact nomatch isControl
  · exact nomatch isJar

theorem isEntry_or_isGrouped (canAnswer : answerable (controlsOf fields) = true)
    (member : field ∈ fields) (isRequired : field.required = true) :
    field.isEntry = true ∨ field.isGrouped = true := by
  cases isGrouped : field.isGrouped with
  | true => exact Or.inr rfl
  | false =>
    left
    rcases controlOf_cases field with ⟨drawn, isDrawn⟩ | ⟨because, isRefused⟩
    · simp [InputField.isEntry, isGrouped, isDrawn, Control.isRefused]
    · exfalso
      have isMember := controlOf_mem member isGrouped
      rw [isRefused] at isMember
      have noneRequired := (Bool.and_eq_true_iff.mp canAnswer).2
      rw [Bool.not_eq_true', List.any_eq_false] at noneRequired
      exact noneRequired _ isMember isRequired

/-! ### Three spellings of a jar -/

/-- A character that the name of a cookie is made of. -/
def isTokenCharacter (character : Char) : Bool :=
  !isPatternSpace character && !(['=', ';', ':', '\x7b', '['].contains character)

/-- A cookie that a header can spell. -/
structure HasHeader (pair : String × String) : Prop where
  named : pair.1 ≠ ""
  token : ∀ character ∈ pair.1.toList, isTokenCharacter character = true
  valued : pair.2 ≠ ""
  unseparated : ∀ character ∈ pair.2.toList, isSeparator character = false
  unpadded : trimmed pair.2.toList = pair.2.toList

def headerPiece (pair : String × String) : List Char := pair.1.toList ++ '=' :: pair.2.toList

/-- The value of a `Cookie` header. -/
def headerText : List (String × String) → List Char
  | [] => []
  | [pair] => headerPiece pair
  | pair :: rest => headerPiece pair ++ ';' :: ' ' :: headerText rest

inductive Spells (browser : Browser) : String → List (String × String) → Prop where
  | header (named : Bool) (pairs : List (String × String)) (some : pairs ≠ [])
      (each : ∀ pair ∈ pairs, HasHeader pair) :
    Spells browser
      (String.ofList ((if named then "Cookie: ".toList else []) ++ headerText pairs)) pairs
  | object (pasted : String) (pairs : List (String × String))
      (begins : beginsJson (trim pasted).toList = true)
      (parsed : browser.parseJson (trim pasted) =
        some (.object (pairs.map fun pair => (pair.1, .string pair.2)))) :
    Spells browser pasted pairs
  | exported (pasted : String) (pairs : List (String × String)) (entries : List Json)
      (begins : beginsJson (trim pasted).toList = true)
      (parsed : browser.parseJson (trim pasted) = some (.array entries))
      (each : List.Forall₂
        (fun entry pair => entry.get? "name" = some (.string pair.1) ∧
          entry.get? "value" = some (.string pair.2)) entries pairs) :
    Spells browser pasted pairs

def valueIn (pairs : List (String × String)) (name : String) : Option String :=
  (latest (fun pair => pair.1 == name) pairs).map Prod.snd

def SameJar (pairs others : List (String × String)) : Prop :=
  ∀ name, name ≠ "" → valueIn pairs name = valueIn others name

def namedPairs (pairs : List (String × String)) : List (String × String) :=
  pairs.filter fun pair => pair.1 != ""

variable {characters : List Char}

theorem trimmed_of_visible
    (first : ∀ character ∈ characters.head?, isPatternSpace character = false)
    (last : ∀ character ∈ characters.getLast?, isPatternSpace character = false) :
    trimmed characters = characters := by
  have front : characters.dropWhile isPatternSpace = characters := by
    cases characters with
    | nil => rfl
    | cons character rest =>
      rw [List.dropWhile_cons, first character rfl]
      rfl
  unfold trimmed
  rw [front, List.rdropWhile_eq_self_iff]
  intro isSome
  rw [last _ (List.getLast?_eq_some_getLast isSome)]
  exact Bool.false_ne_true

theorem visible_of_trimmed (unpadded : trimmed characters = characters) :
    (∀ character ∈ characters.head?, isPatternSpace character = false) ∧
      ∀ character ∈ characters.getLast?, isPatternSpace character = false := by
  have isSuffix : characters.dropWhile isPatternSpace <:+ characters := List.dropWhile_suffix _
  have isPrefix : trimmed characters <+: characters.dropWhile isPatternSpace :=
    List.rdropWhile_prefix isPatternSpace _
  have front : characters.dropWhile isPatternSpace = characters := by
    refine isSuffix.eq_of_length_le ?_
    have shorter := isPrefix.length_le
    rwa [unpadded] at shorter
  have back : characters.rdropWhile isPatternSpace = characters := by
    unfold trimmed at unpadded
    rwa [front] at unpadded
  constructor
  · intro character isFirst
    cases characters with
    | nil => exact nomatch isFirst
    | cons first rest =>
      cases isFirst
      have visible := List.dropWhile_eq_self_iff.mp front (Nat.zero_lt_succ _)
      simpa using visible
  · intro character isLast
    obtain ⟨isSome, rfl⟩ := List.mem_getLast?_eq_getLast isLast
    simpa using List.rdropWhile_eq_self_iff.mp back isSome

namespace HasHeader

variable {pair : String × String} (isHeader : HasHeader pair)

include isHeader

theorem token_ne {character other : Char} (member : character ∈ pair.1.toList)
    (special : isTokenCharacter other = false) : character ≠ other := by
  rintro rfl
  exact Bool.false_ne_true (special.symm.trans (isHeader.token character member))

theorem token_visible {character : Char} (member : character ∈ pair.1.toList) :
    isPatternSpace character = false := by
  have isToken := isHeader.token character member
  unfold isTokenCharacter at isToken
  simpa using (Bool.and_eq_true_iff.mp isToken).1

theorem takeWhile_piece : (headerPiece pair).takeWhile (· != '=') = pair.1.toList := by
  unfold headerPiece
  rw [List.takeWhile_append_of_pos]
  · simp
  · intro character member
    exact bne_iff_ne.mpr (isHeader.token_ne member (by decide))

theorem dropWhile_piece : (headerPiece pair).dropWhile (· != '=') = '=' :: pair.2.toList := by
  unfold headerPiece
  rw [List.dropWhile_append_of_pos]
  · simp
  · intro character member
    exact bne_iff_ne.mpr (isHeader.token_ne member (by decide))

theorem name_ne_nil : pair.1.toList ≠ [] :=
  fun isNil => isHeader.named (String.toList_eq_nil_iff.mp isNil)

theorem value_ne_nil : pair.2.toList ≠ [] :=
  fun isNil => isHeader.valued (String.toList_eq_nil_iff.mp isNil)

theorem head?_piece : ∃ first ∈ pair.1.toList, (headerPiece pair).head? = some first := by
  unfold headerPiece
  obtain ⟨first, rest, isName⟩ := List.exists_cons_of_ne_nil isHeader.name_ne_nil
  rw [isName]
  exact ⟨first, List.mem_cons_self, rfl⟩

theorem getLast?_piece : (headerPiece pair).getLast? = pair.2.toList.getLast? := by
  unfold headerPiece
  obtain ⟨first, rest, isValue⟩ := List.exists_cons_of_ne_nil isHeader.value_ne_nil
  rw [isValue]
  simp [List.getLast?_cons]

theorem trimmed_name : trimmed pair.1.toList = pair.1.toList :=
  trimmed_of_visible
    (fun _ isFirst => isHeader.token_visible (List.mem_of_mem_head? isFirst))
    fun _ isLast => isHeader.token_visible (List.mem_of_getLast? isLast)

theorem withoutHeaderName_piece : withoutHeaderName (headerPiece pair) = headerPiece pair := by
  have isName := isHeader.takeWhile_piece
  have folded : ∀ letter, folds letter '=' = false → ∀ character, folds letter character = true →
      (character != '=') = true := by
    rintro letter apart character same
    refine bne_iff_ne.mpr ?_
    rintro rfl
    exact Bool.false_ne_true (apart.symm.trans same)
  unfold withoutHeaderName
  split
  · rename_i c o p k i e colon rest isPiece
    split
    · rename_i isHeaderName
      exfalso
      simp only [Bool.and_eq_true] at isHeaderName
      obtain ⟨⟨⟨⟨⟨⟨isC, isO⟩, isP⟩, isK⟩, isI⟩, isE⟩, isColon⟩ := isHeaderName
      rw [isPiece, eq_of_beq isColon] at isName
      rw [List.takeWhile_cons, if_pos (folded 'c' (by decide) c isC),
        List.takeWhile_cons, if_pos (folded 'o' (by decide) o isO),
        List.takeWhile_cons, if_pos (folded 'o' (by decide) p isP),
        List.takeWhile_cons, if_pos (folded 'k' (by decide) k isK),
        List.takeWhile_cons, if_pos (folded 'i' (by decide) i isI),
        List.takeWhile_cons, if_pos (folded 'e' (by decide) e isE),
        List.takeWhile_cons, if_pos (by decide)] at isName
      have colonIn : ':' ∈ pair.1.toList := by
        rw [← isName]
        simp
      exact isHeader.token_ne colonIn (by decide) rfl
    · rfl
  · rfl

theorem pairOf_of_trimmed {piece : List Char}
    (isPiece : withoutHeaderName (trimmed piece) = headerPiece pair) :
    pairOf piece = some pair := by
  unfold pairOf
  dsimp only
  rw [isPiece, isHeader.dropWhile_piece, isHeader.takeWhile_piece]
  dsimp only
  rw [isHeader.trimmed_name, isHeader.unpadded, if_neg]
  · rw [String.ofList_toList, String.ofList_toList]
  · rintro (isNil | isNil | isNil)
    · exact isHeader.name_ne_nil isNil
    · exact isHeader.name_ne_nil isNil
    · exact isHeader.value_ne_nil isNil

theorem last_visible : ∀ character ∈ (headerPiece pair).getLast?,
    isPatternSpace character = false := by
  rw [isHeader.getLast?_piece]
  exact (visible_of_trimmed isHeader.unpadded).2

theorem first_visible : ∀ character ∈ (headerPiece pair).head?,
    isPatternSpace character = false := by
  obtain ⟨first, member, isFirst⟩ := isHeader.head?_piece
  rw [isFirst]
  rintro _ ⟨⟩
  exact isHeader.token_visible member

theorem trimmed_piece : trimmed (headerPiece pair) = headerPiece pair :=
  trimmed_of_visible isHeader.first_visible isHeader.last_visible

theorem unseparated_piece : ∀ character ∈ headerPiece pair, isSeparator character = false := by
  intro character member
  rcases List.mem_append.mp member with inName | inRest
  · have visible := isHeader.token_visible inName
    have noSemicolon : character ≠ ';' := isHeader.token_ne inName (by decide)
    unfold isSeparator
    have noFeed : character ≠ '\n' := by
      rintro rfl
      exact absurd visible (by decide)
    have noReturn : character ≠ '\r' := by
      rintro rfl
      exact absurd visible (by decide)
    simp [noSemicolon, noFeed, noReturn]
  · rcases List.mem_cons.mp inRest with rfl | inValue
    · rfl
    · exact isHeader.unseparated character inValue

end HasHeader

inductive Lead : List Char → Prop where
  | nothing : Lead []
  | blank : Lead [' ']
  | name : Lead "Cookie: ".toList

variable {lead : List Char}

theorem Lead.unseparated (isLead : Lead lead) :
    ∀ character ∈ lead, isSeparator character = false := by
  have none : lead.all (fun character => !isSeparator character) = true := by
    cases isLead <;> decide
  exact fun character member => (Bool.not_eq_true' _).mp (List.all_eq_true.mp none character member)

theorem trimmed_blank_cons (characters : List Char) :
    trimmed (' ' :: characters) = trimmed characters := by
  unfold trimmed
  rw [List.dropWhile_cons_of_pos (by decide)]

/-- A cookie is read with what stands in front of it. -/
theorem pairOf_lead (isLead : Lead lead) {pair : String × String} (isHeader : HasHeader pair) :
    pairOf (lead ++ headerPiece pair) = some pair := by
  refine isHeader.pairOf_of_trimmed ?_
  cases isLead with
  | nothing =>
    rw [List.nil_append, isHeader.trimmed_piece]
    exact isHeader.withoutHeaderName_piece
  | blank =>
    rw [List.singleton_append, trimmed_blank_cons, isHeader.trimmed_piece]
    exact isHeader.withoutHeaderName_piece
  | name =>
    obtain ⟨first, member, isFirst⟩ := isHeader.head?_piece
    have isWhole : trimmed ("Cookie: ".toList ++ headerPiece pair) =
        "Cookie: ".toList ++ headerPiece pair := by
      refine trimmed_of_visible (fun character isHead => ?_) fun character isLast => ?_
      · cases isHead
        rfl
      · rw [List.getLast?_append] at isLast
        have some : (headerPiece pair).getLast? ≠ none := by
          rw [ne_eq, List.getLast?_eq_none_iff]
          rintro isNil
          rw [isNil] at isFirst
          exact nomatch isFirst
        obtain ⟨last, isLastOf⟩ := Option.ne_none_iff_exists'.mp some
        rw [isLastOf] at isLast
        cases isLast
        exact isHeader.last_visible _ isLastOf
    have visible : (headerPiece pair).dropWhile isPatternSpace = headerPiece pair := by
      obtain ⟨rest, isPiece⟩ := List.head?_eq_some_iff.mp isFirst
      rw [isPiece, List.dropWhile_cons_of_neg]
      rw [isHeader.token_visible member]
      exact Bool.false_ne_true
    rw [isWhole]
    show (' ' :: headerPiece pair).dropWhile isPatternSpace = _
    rw [List.dropWhile_cons_of_pos (by decide), visible]

variable {pairs : List (String × String)}

theorem pairs_headerText (some : pairs ≠ []) (each : ∀ pair ∈ pairs, HasHeader pair)
    (isLead : Lead lead) :
    ((lead ++ headerText pairs).splitOnP isSeparator).filterMap pairOf = pairs := by
  induction pairs generalizing lead with
  | nil => exact absurd rfl some
  | cons pair rest inductionHypothesis =>
    obtain ⟨isHeader, others⟩ := List.forall_mem_cons.mp each
    have unseparated : ∀ character ∈ lead ++ headerPiece pair, isSeparator character = false := by
      intro character member
      rcases List.mem_append.mp member with inLead | inPiece
      · exact isLead.unseparated character inLead
      · exact isHeader.unseparated_piece character inPiece
    cases rest with
    | nil =>
      show ((lead ++ headerPiece pair).splitOnP isSeparator).filterMap pairOf = [pair]
      rw [List.splitOnP_eq_singleton unseparated, List.filterMap_cons, pairOf_lead isLead isHeader]
      rfl
    | cons next others' =>
      have unfolded : lead ++ headerText (pair :: next :: others') =
          (lead ++ headerPiece pair) ++ ';' :: ([' '] ++ headerText (next :: others')) := by
        simp [headerText]
      rw [unfolded, List.splitOnP_append_cons_of_forall_mem unseparated ';' rfl,
        List.filterMap_cons, pairOf_lead isLead isHeader]
      dsimp only
      rw [inductionHypothesis (List.cons_ne_nil _ _) others .blank]

theorem headerText_ends (some : pairs ≠ []) (each : ∀ pair ∈ pairs, HasHeader pair) :
    (∃ first, (headerText pairs).head? = .some first ∧ isTokenCharacter first = true) ∧
      ∀ character ∈ (headerText pairs).getLast?, isPatternSpace character = false := by
  induction pairs with
  | nil => exact absurd rfl some
  | cons pair rest inductionHypothesis =>
    obtain ⟨isHeader, others⟩ := List.forall_mem_cons.mp each
    obtain ⟨first, member, isFirst⟩ := isHeader.head?_piece
    cases rest with
    | nil => exact ⟨⟨first, isFirst, isHeader.token first member⟩, isHeader.last_visible⟩
    | cons next others' =>
      obtain ⟨⟨later, isLater, _⟩, lastVisible⟩ :=
        inductionHypothesis (List.cons_ne_nil _ _) others
      obtain ⟨tail, isPiece⟩ := List.head?_eq_some_iff.mp isFirst
      obtain ⟨laterTail, isText⟩ := List.head?_eq_some_iff.mp isLater
      have unfolded : headerText (pair :: next :: others') =
          headerPiece pair ++ ';' :: ' ' :: headerText (next :: others') := rfl
      constructor
      · rw [unfolded, isPiece]
        exact ⟨first, rfl, isHeader.token first member⟩
      · rw [unfolded, isText]
        rw [isText] at lastVisible
        simpa [List.getLast?_append, List.getLast?_cons] using lastVisible

theorem token_parts {character : Char} (isToken : isTokenCharacter character = true) :
    isPatternSpace character = false ∧ character ≠ '\x7b' ∧ character ≠ '[' := by
  unfold isTokenCharacter at isToken
  obtain ⟨visible, plain⟩ := Bool.and_eq_true_iff.mp isToken
  refine ⟨by simpa using visible, ?_, ?_⟩
  · rintro rfl
    exact absurd plain (by decide)
  · rintro rfl
    exact absurd plain (by decide)

theorem beginsJson_ne_nil (begins : beginsJson characters = true) :
    characters ≠ [] := by
  rintro rfl
  exact nomatch begins

theorem filterMap_memberOf (pairs : List (String × String)) :
    (pairs.map fun pair => (pair.1, Json.string pair.2)).filterMap memberOf = namedPairs pairs := by
  unfold namedPairs
  induction pairs with
  | nil => rfl
  | cons pair rest inductionHypothesis =>
    rw [List.map_cons, List.filterMap_cons, List.filter_cons, inductionHypothesis]
    by_cases unnamed : pair.1 = ""
    · simp [memberOf, unnamed]
    · simp [memberOf, unnamed]

theorem filterMap_exported {entries : List Json}
    (each : List.Forall₂ (fun entry pair => entry.get? "name" = some (.string pair.1) ∧ entry.get?
      "value" = some (.string pair.2)) entries pairs) :
    entries.filterMap exported = namedPairs pairs := by
  unfold namedPairs
  induction each with
  | nil => rfl
  | @cons entry pair _ _ head _ inductionHypothesis =>
    rw [List.filterMap_cons, List.filter_cons, inductionHypothesis]
    unfold exported
    rw [head.1, head.2]
    by_cases unnamed : pair.1 = ""
    · simp [unnamed]
    · simp [unnamed]

theorem parseCookies_of_spells {browser : Browser} {pasted : String}
    (spells : Spells browser pasted pairs) :
    trim pasted ≠ "" ∧
      parseCookies browser pasted = filled (PlainObject.empty.setAll (namedPairs pairs)) := by
  cases spells with
  | header named pairs some each =>
    obtain ⟨⟨first, isFirst, isToken⟩, lastVisible⟩ := headerText_ends some each
    obtain ⟨tail, isText⟩ := List.head?_eq_some_iff.mp isFirst
    obtain ⟨visible, noBrace, noBracket⟩ := token_parts isToken
    have allNamed : namedPairs pairs = pairs := by
      unfold namedPairs
      rw [List.filter_eq_self]
      intro pair member
      exact bne_iff_ne.mpr (each pair member).named
    have lead : ∃ lead, (if named then "Cookie: ".toList else []) = lead ∧ Lead lead ∧
        ∀ start ∈ (lead ++ headerText pairs).head?, isPatternSpace start = false ∧
          start ≠ '\x7b' ∧ start ≠ '[' := by
      cases named with
      | false =>
        refine ⟨[], rfl, .nothing, ?_⟩
        rw [List.nil_append, isFirst]
        rintro _ ⟨⟩
        exact ⟨visible, noBrace, noBracket⟩
      | true =>
        refine ⟨_, rfl, .name, ?_⟩
        rintro _ ⟨⟩
        decide
    obtain ⟨lead, isLead, leads, starts⟩ := lead
    rw [isLead]
    have isWhole : trimmed (lead ++ headerText pairs) = lead ++ headerText pairs := by
      refine trimmed_of_visible (fun start isStart => (starts start isStart).1) ?_
      intro character isLast
      rw [isText] at isLast lastVisible
      refine lastVisible character ?_
      simpa [List.getLast?_append, List.getLast?_cons] using isLast
    have isTrim : trim (String.ofList (lead ++ headerText pairs)) =
        String.ofList (lead ++ headerText pairs) := by
      unfold trim
      rw [String.toList_ofList, isWhole]
    have written : String.ofList (lead ++ headerText pairs) ≠ "" := by
      intro isNil
      have isList := congrArg String.toList isNil
      rw [String.toList_ofList, isText] at isList
      simp at isList
    have noJson : beginsJson (lead ++ headerText pairs) = false := by
      unfold beginsJson
      cases isHead : (lead ++ headerText pairs).head? with
      | none => rfl
      | some start =>
        obtain ⟨_, apart⟩ := starts start isHead
        simp [apart]
    refine ⟨fun isNil => written (isTrim.symm.trans isNil), ?_⟩
    unfold parseCookies
    dsimp only
    rw [isTrim, if_neg written, String.toList_ofList, noJson, pairs_headerText some each leads,
      allNamed]
    rfl
  | object pasted pairs begins parsed =>
    have written : trim pasted ≠ "" := fun isNil =>
      beginsJson_ne_nil begins (congrArg String.toList isNil)
    refine ⟨written, ?_⟩
    unfold parseCookies
    dsimp only
    rw [if_neg written, begins, parsed]
    dsimp only [fromJson]
    rw [filterMap_memberOf, if_pos rfl]
  | exported pasted pairs entries begins parsed each =>
    have written : trim pasted ≠ "" := fun isNil =>
      beginsJson_ne_nil begins (congrArg String.toList isNil)
    refine ⟨written, ?_⟩
    unfold parseCookies
    dsimp only
    rw [if_neg written, begins, parsed]
    dsimp only [fromJson]
    rw [filterMap_exported each, if_pos rfl]

/-! ### One jar is read alike -/

def Alike (jar other : CookieJar) : Prop := ∀ name, jar.own? name = other.own? name

theorem alike_of_sameJar {pairs others : List (String × String)} (same : SameJar pairs others) :
    Alike (PlainObject.empty.setAll (namedPairs pairs))
      (PlainObject.empty.setAll (namedPairs others)) := by
  intro name
  by_cases isPrototype : name = PlainObject.prototypeName
  · rw [isPrototype, PlainObject.own?_setAll_prototype, PlainObject.own?_setAll_prototype]
  · rw [PlainObject.own?_setAll _ _ isPrototype, PlainObject.own?_setAll _ _ isPrototype]
    unfold namedPairs
    rw [latest_filter, latest_filter]
    by_cases unnamed : name = ""
    · have nobody : ∀ list : List (String × String),
          latest (fun pair => pair.1 != "" && pair.1 == name) list = none := by
        intro list
        rw [latest_eq_none_iff]
        intro pair _
        rw [unnamed]
        cases isNil : pair.1 == "" <;> simp_all
      rw [nobody, nobody]
    · have everyone : ∀ list : List (String × String),
          latest (fun pair => pair.1 != "" && pair.1 == name) list =
            latest (fun pair => pair.1 == name) list := by
        intro list
        refine latest_congr fun pair _ => ?_
        cases isName : pair.1 == name with
        | false => simp
        | true =>
          rw [Bool.and_true, bne_iff_ne, eq_of_beq isName]
          exact unnamed
      rw [everyone, everyone]
      exact congrArg (Option.or · _) (same name unnamed)

theorem own_eq_nil_iff {jar : CookieJar} : jar.own = [] ↔ ∀ name, jar.own? name = none := by
  constructor
  · intro isNil name
    unfold PlainObject.own?
    rw [isNil]
    rfl
  · intro none
    cases isOwn : jar.own with
    | nil => rfl
    | cons property rest =>
      obtain ⟨name, value⟩ := property
      have isSome := PlainObject.lookup_cons_self name value rest
      rw [← isOwn] at isSome
      exact nomatch isSome.symm.trans (none name)

theorem filled_of_alike {jar other cookies : CookieJar} (alike : Alike jar other)
    (isFilled : filled jar = .ok cookies) : cookies = jar ∧ filled other = .ok other := by
  unfold filled at isFilled ⊢
  rw [ite_error_eq_ok_iff] at isFilled
  refine ⟨(Except.ok.inj isFilled.2).symm, if_neg fun isNil => isFilled.1 ?_⟩
  rw [own_eq_nil_iff] at isNil ⊢
  exact fun name => (alike name).trans (isNil name)

variable {jar other : CookieJar}

theorem get_of_alike (alike : Alike jar other) :
    jar.get = other.get := by
  funext name
  unfold PlainObject.get
  rw [alike name]

theorem found_of_alike (alike : Alike jar other) :
    found jar = found other := by
  funext field
  unfold found
  rw [get_of_alike alike]

variable {pasted retyped : String}

theorem outcomeOfJar_of_alike {browser : Browser} (alike : Alike jar other)
    (isRead : parseCookies browser pasted = .ok jar)
    (isReread : parseCookies browser retyped = .ok other) (fields : List InputField) :
    outcomeOfJar browser fields pasted = outcomeOfJar browser fields retyped := by
  have sameMissing : isMissing jar = isMissing other := by
    funext name
    unfold isMissing
    rw [get_of_alike alike]
  have sameText : jarText jar fields = jarText other fields := by
    unfold jarText jarOf
    rw [found_of_alike alike]
  unfold outcomeOfJar
  rw [isRead, isReread]
  dsimp only [missing]
  rw [sameMissing, sameText]

/-! ### What an answer carries -/

def IsPresent (data : PlainObject Sent) (field : InputField) : Prop :=
  if field.isGrouped then
    ∃ members, data.own? jarMember = some (.jar members) ∧
      ∃ value, value ≠ "" ∧ members.own? field.id = some (.text value)
  else
    ∃ value, value ≠ "" ∧ data.own? field.id = some (.text value)

structure HoldsPaste (fields : List InputField) (cookies : CookieJar)
    (members : PlainObject Found) : Prop where
  verbatim : ∀ field ∈ fields, ∀ value, value ≠ "" → cookies.own? field.source = some value →
    members.own? field.id = some (.text value)
  nothingElse : ∀ id value, members.own? id = some value → ∃ field ∈ fields, field.id = id ∧
    ∃ given, cookies.own? field.source = some given ∧ value = .text given
  apart : ((carried cookies fields).map Prod.fst).Nodup

def memberName : Control → Option String
  | .entry field _ => some field.id
  | .jar _ _ _ _ => some jarMember
  | .refused _ _ => none

structure Carries (browser : Browser) (fields : List InputField) (values : Values)
    (data : PlainObject Sent) : Prop where
  required : ∀ field ∈ fields, field.required = true → IsPresent data field
  belongs : ∀ id sent, data.own? id = some sent →
    (∃ field ∈ fields, field.isEntry = true ∧ field.id = id) ∨
      id = jarMember ∧ ∃ field ∈ fields, field.isGrouped = true
  verbatim : ∀ field ∈ fields, field.isEntry = true → ∃ typed,
    values.own? field.id = some typed ∧ data.own? field.id = some (.text typed)
  jars : (∃ field ∈ fields, field.isGrouped = true) → ∃ pasted cookies members,
    values.own? jarId = some pasted ∧ parseCookies browser pasted = .ok cookies ∧
      data.own? jarMember = some (.jar members) ∧
      HoldsPaste (fields.filter InputField.isGrouped) cookies members
  unpasted : (∃ field ∈ fields, field.isGrouped = true) → data.own? jarId = none
  apart : ((controlsOf fields).filterMap memberName).Nodup
  spellings : (∃ field ∈ fields, field.isGrouped = true) → ∀ pasted retyped pairs others,
    values.own? jarId = some pasted → Spells browser pasted pairs →
      Spells browser retyped others → SameJar pairs others →
        answerOf browser (controlsOf fields) (values.set jarId retyped) = .ok (.ok data)

/-- A control that the bridge can do without. -/
def Control.isOptional : Control → Bool
  | .entry field _ => !field.required
  | .jar _ _ fields _ => fields.all fun field => !field.required
  | .refused _ _ => false

/-- Whether a control that the bridge can do without has nothing typed for it. -/
def isLeftBlank (values : Values) (control : Control) : Bool :=
  control.isOptional && trim ((values.own? control.id).getD "") == ""

/-- The answer of a step is right: what is answered carries what was asked for, and what may be
left blank never blocks. -/
structure AnswersTheStep (browser : Browser) (payload : Json) (bare : Option String)
    (values : Values) : Prop where
  carries : ∀ data, answerable (controlsOf (inputFields payload bare)) = true →
    answerOf browser (controlsOf (inputFields payload bare)) values = .ok (.ok data) →
      Carries browser (inputFields payload bare) values data
  unblocked : (∃ data, answerOf browser
      ((controlsOf (inputFields payload bare)).filter fun control => !isLeftBlank values control)
      values = .ok (.ok data)) →
    ∃ data, answerOf browser (controlsOf (inputFields payload bare)) values = .ok (.ok data)

/-! ### Where the names let it be -/

structure ClearJar (fields : List InputField) (cookies : CookieJar) : Prop where
  apart : ((carried cookies fields).map Prod.fst).Nodup
  settable : ∀ field ∈ fields, ∀ value, value ≠ "" → cookies.own? field.source = some value →
    field.id ≠ PlainObject.prototypeName
  own : ∀ field ∈ fields, field.source ∈ PlainObject.inherited →
    cookies.own? field.source = none →
      field.required = false ∧ field.id = PlainObject.prototypeName

structure Clear (browser : Browser) (fields : List InputField) (values : Values) : Prop where
  apart : ((controlsOf fields).filterMap memberName).Nodup
  settable : ∀ field ∈ fields, field.isEntry = true → field.id ≠ PlainObject.prototypeName
  unpasted : (∃ field ∈ fields, field.isGrouped = true) →
    ∀ field ∈ fields, field.isEntry = true → field.id ≠ jarId
  jars : ∀ pasted cookies, values.own? jarId = some pasted →
    parseCookies browser pasted = .ok cookies →
      ClearJar (fields.filter InputField.isGrouped) cookies

/-- The names of a step that is ready keep its controls apart, and nothing is left blank of a step
that is ready but for it. -/
structure Fits (browser : Browser) (payload : Json) (bare : Option String) (values : Values) :
    Prop where
  clear : answerable (controlsOf (inputFields payload bare)) = true →
    (∀ control ∈ controlsOf (inputFields payload bare), Ready browser values control) →
      Clear browser (inputFields payload bare) values
  filledIn : (∀ control ∈ controlsOf (inputFields payload bare),
      isLeftBlank values control = false → Ready browser values control) →
    ∀ control ∈ controlsOf (inputFields payload bare), isLeftBlank values control = false

/-! ### What ready controls enter -/

variable {sent : Sent}

section

variable {browser : Browser} {fields : List InputField} {values : Values}

theorem name_of_entered (isReady : Ready browser values control) :
    (entered browser values control).map Prod.fst = memberName control := by
  cases control with
  | refused field because => rfl
  | entry field drawn =>
    obtain ⟨typed, isOwn, visible, fits⟩ := isReady
    rw [entered_entry isOwn visible fits]
    rfl
  | jar allCookies domain fields names =>
    obtain ⟨typed, isOwn, visible, cookies, isRead, complete, sent, written⟩ := isReady
    rw [entered_jar isOwn visible isRead complete written]
    rfl

theorem names_of_entered {controls : List Control}
    (ready : ∀ control ∈ controls, Ready browser values control) :
    (controls.filterMap (entered browser values)).map Prod.fst =
      controls.filterMap memberName := by
  rw [List.map_filterMap]
  exact List.filterMap_congr fun control member => name_of_entered (ready control member)

variable {data : PlainObject Sent}

theorem own?_of_entered (ready : ∀ control ∈ controlsOf fields, Ready browser values control)
    (apart : ((controlsOf fields).filterMap memberName).Nodup)
    (isData : data = PlainObject.empty.setAll ((controlsOf fields).filterMap (entered browser
      values))) (member : control ∈ controlsOf fields) {name : String}
    (enters : entered browser values control = some (name, sent))
    (settable : name ≠ PlainObject.prototypeName) : data.own? name = some sent := by
  rw [← names_of_entered ready] at apart
  rw [isData]
  exact PlainObject.own?_setAll_of_mem apart settable
    (List.mem_filterMap.mpr ⟨control, member, enters⟩)

theorem entered_of_isEntry (ready : ∀ control ∈ controlsOf fields, Ready browser values control)
    (member : field ∈ fields) (isEntry : field.isEntry = true) :
    ∃ typed, typed ≠ "" ∧ values.own? field.id = some typed ∧
      ∃ control ∈ controlsOf fields,
        entered browser values control = some (field.id, .text typed) := by
  obtain ⟨drawn, isControl⟩ := entry_mem member isEntry
  obtain ⟨typed, isOwn, visible, fits⟩ := ready _ isControl
  refine ⟨typed, ?_, isOwn, _, isControl, entered_entry isOwn visible fits⟩
  rintro rfl
  exact visible trim_empty

theorem entered_of_isGrouped
    (ready : ∀ control ∈ controlsOf fields, Ready browser values control)
    (grouped : ∃ field ∈ fields, field.isGrouped = true) :
    ∃ pasted cookies sent, values.own? jarId = some pasted ∧ trim pasted ≠ "" ∧
      parseCookies browser pasted = .ok cookies ∧
      missing (requiredSources (fields.filter InputField.isGrouped)) cookies = [] ∧
      jarText cookies (fields.filter InputField.isGrouped) = .ok sent ∧
      ∃ control ∈ controlsOf fields,
        entered browser values control = some (jarMember, sent) := by
  have isControl := jarControl_mem grouped
  obtain ⟨pasted, isOwn, visible, cookies, isRead, complete, sent, written⟩ := ready _ isControl
  exact ⟨pasted, cookies, sent, isOwn, visible, isRead, complete, written, _, isControl,
    entered_jar isOwn visible isRead complete written⟩

end

/-! ### What a jar carries -/

variable {cookies : CookieJar}

theorem found_of_own {value : String} (isOwn : cookies.own? field.source = some value)
    (written : value ≠ "") :
    found cookies field = some (.text value) := by
  unfold found PlainObject.get
  rw [isOwn]
  exact if_neg written

theorem found_cases {value : Found} (isFound : found cookies field = some value) :
    (∃ given, given ≠ "" ∧ cookies.own? field.source = some given ∧ value = .text given) ∨
      field.source ∈ PlainObject.inherited ∧ cookies.own? field.source = none ∧
        ∀ given, value ≠ .text given := by
  unfold found PlainObject.get at isFound
  cases isOwn : cookies.own? field.source with
  | some given =>
    rw [isOwn] at isFound
    dsimp only at isFound
    by_cases written : given = ""
    · rw [if_pos written] at isFound
      exact nomatch isFound
    · rw [if_neg written] at isFound
      exact Or.inl ⟨given, written, rfl, (Option.some.inj isFound).symm⟩
  | none =>
    rw [isOwn] at isFound
    dsimp only at isFound
    by_cases isInherited : field.source ∈ PlainObject.inherited
    · rw [if_pos isInherited] at isFound
      refine Or.inr ⟨isInherited, rfl, fun given isText => ?_⟩
      have same := (Option.some.inj isFound).trans isText
      split at same <;> exact nomatch same
    · rw [if_neg isInherited] at isFound
      exact nomatch isFound

theorem found_of_inherited (isInherited : field.source ∈ PlainObject.inherited)
    (noOwn : cookies.own? field.source = none) :
    ∃ value, found cookies field = some value ∧ ∀ given, value ≠ .text given := by
  unfold found PlainObject.get
  rw [noOwn]
  dsimp only
  rw [if_pos isInherited]
  refine ⟨_, rfl, fun given isText => ?_⟩
  split at isText <;> exact nomatch isText

variable {id : String}

theorem mem_carried_iff {value : Found} :
    (id, value) ∈ carried cookies fields ↔
      ∃ field ∈ fields, field.id = id ∧ found cookies field = some value := by
  unfold carried
  rw [List.mem_filterMap]
  constructor
  · rintro ⟨field, member, isPair⟩
    obtain ⟨found, isFound, isSame⟩ := Option.map_eq_some_iff.mp isPair
    cases isSame
    exact ⟨field, member, rfl, isFound⟩
  · rintro ⟨field, member, rfl, isFound⟩
    exact ⟨field, member, by rw [isFound]; rfl⟩

theorem holdsPaste_of_clearJar (clear : ClearJar fields cookies) :
    HoldsPaste fields cookies (PlainObject.empty.setAll (carried cookies fields)) := by
  refine ⟨?_, ?_, clear.apart⟩
  · intro field member value written isOwn
    refine PlainObject.own?_setAll_of_mem clear.apart
      (clear.settable field member value written isOwn) (mem_carried_iff.mpr ?_)
    exact ⟨field, member, rfl, found_of_own isOwn written⟩
  · intro id value isOwn
    obtain ⟨settable, isCarried⟩ := PlainObject.mem_of_own?_setAll isOwn
    obtain ⟨field, member, rfl, isFound⟩ := mem_carried_iff.mp isCarried
    refine ⟨field, member, rfl, ?_⟩
    rcases found_cases isFound with ⟨given, _, isGiven, isText⟩ | ⟨isInherited, noOwn, _⟩
    · exact ⟨given, isGiven, isText⟩
    · exact absurd (clear.own field member isInherited noOwn).2 settable

theorem jarText_of_clearJar (clear : ClearJar fields cookies)
    (written : jarText cookies fields = .ok sent) :
    sent = .jar (PlainObject.empty.setAll (carried cookies fields)) := by
  obtain ⟨jar, made, _⟩ := bind_eq_ok.mp written
  have plain : ∀ member, jar.members.own? "toJSON" ≠ some (.function member) := by
    intro member isFunction
    rw [members_of_jarOf made] at isFunction
    obtain ⟨_, _, _, given, _, isText⟩ := (holdsPaste_of_clearJar clear).nothingElse _ _ isFunction
    exact nomatch isText
  have isText := jarText_of_made made plain
  rw [members_of_jarOf made] at isText
  exact Except.ok.inj (written.symm.trans isText)

theorem clearJar_of_holdsPaste
    (holds : HoldsPaste fields cookies (PlainObject.empty.setAll (carried cookies fields)))
    (required : ∀ field ∈ fields, field.required = true → (PlainObject.empty.setAll (carried cookies
      fields)).own? field.id ≠ none) :
    ClearJar fields cookies := by
  refine ⟨holds.apart, ?_, ?_⟩
  · intro field member value written isOwn
    exact (PlainObject.mem_of_own?_setAll (holds.verbatim field member value written isOwn)).1
  · intro field member isInherited noOwn
    obtain ⟨value, isFound, noText⟩ := found_of_inherited isInherited noOwn
    have isPrototype : field.id = PlainObject.prototypeName := by
      by_contra settable
      have isHeld := PlainObject.own?_setAll_of_mem holds.apart settable
        (mem_carried_iff.mpr ⟨field, member, rfl, isFound⟩)
      obtain ⟨_, _, _, given, _, isText⟩ := holds.nothingElse _ _ isHeld
      exact noText given isText
    refine ⟨?_, isPrototype⟩
    cases isRequired : field.required with
    | false => rfl
    | true =>
      have isHeld := required field member isRequired
      rw [isPrototype, PlainObject.own?_setAll_prototype] at isHeld
      exact absurd rfl isHeld

/-! ### An answer carries what was asked for -/

section

variable {browser : Browser} {fields : List InputField} {values : Values}
  {data : PlainObject Sent}

theorem own_of_complete {grouped : List InputField} (clear : ClearJar grouped cookies)
    (complete : missing (requiredSources grouped) cookies = []) (member : field ∈ grouped)
    (isRequired : field.required = true) :
    ∃ value, value ≠ "" ∧ cookies.own? field.source = some value := by
  have isWanted : field.source ∈ requiredSources grouped :=
    List.mem_map.mpr ⟨field, List.mem_filter.mpr ⟨member, isRequired⟩, rfl⟩
  have isThere : ¬isMissing cookies field.source = true :=
    List.filter_eq_nil_iff.mp complete _ isWanted
  unfold isMissing PlainObject.get at isThere
  cases isOwn : cookies.own? field.source with
  | some value =>
    rw [isOwn] at isThere
    exact ⟨value, by simpa using isThere, rfl⟩
  | none =>
    rw [isOwn] at isThere
    dsimp only at isThere
    by_cases isInherited : field.source ∈ PlainObject.inherited
    · have optional := (clear.own field member isInherited isOwn).1
      exact absurd (optional.symm.trans isRequired) Bool.false_ne_true
    · rw [if_neg isInherited] at isThere
      exact absurd rfl isThere

theorem entered_of_own?
    (isData : data = PlainObject.empty.setAll ((controlsOf fields).filterMap (entered browser
      values))) (isOwn : data.own? id = some sent) :
    id ≠ PlainObject.prototypeName ∧
      ∃ control ∈ controlsOf fields, entered browser values control = some (id, sent) := by
  rw [isData] at isOwn
  obtain ⟨settable, isEntered⟩ := PlainObject.mem_of_own?_setAll isOwn
  exact ⟨settable, List.mem_filterMap.mp isEntered⟩

theorem belongs_of_ready (ready : ∀ control ∈ controlsOf fields, Ready browser values control)
    (isData : data = PlainObject.empty.setAll ((controlsOf fields).filterMap (entered browser
      values))) (isOwn : data.own? id = some sent) :
    (∃ field ∈ fields, field.isEntry = true ∧ field.id = id) ∨
      id = jarMember ∧ ∃ field ∈ fields, field.isGrouped = true := by
  obtain ⟨_, control, member, enters⟩ := entered_of_own? isData isOwn
  have isName := name_of_entered (ready control member)
  rw [enters] at isName
  cases control with
  | refused field because => exact nomatch isName
  | entry field drawn =>
    obtain ⟨inFields, isEntry⟩ := isEntry_of_mem member
    exact Or.inl ⟨field, inFields, isEntry, (Option.some.inj isName).symm⟩
  | jar allCookies domain grouped names =>
    refine Or.inr ⟨Option.some.inj isName, ?_⟩
    rcases mem_controlsOf_iff.mp member with ⟨field, _, _, isControl⟩ | ⟨grouped, _⟩
    · rcases controlOf_cases field with ⟨_, isEntry⟩ | ⟨_, isRefused⟩
      · exact nomatch isControl.trans isEntry
      · exact nomatch isControl.trans isRefused
    · exact grouped

theorem own?_retyped (values : Values) (retyped : String) :
    (values.set jarId retyped).own? jarId = some retyped :=
  PlainObject.own?_set_self values (by decide) retyped

theorem outcomeOf_retyped (clear : Clear browser fields values)
    (grouped : ∃ field ∈ fields, field.isGrouped = true)
    (isPasted : values.own? jarId = some pasted) (visible : trim pasted ≠ "")
    (revisible : trim retyped ≠ "") (alike : Alike jar other)
    (isRead : parseCookies browser pasted = .ok jar)
    (isReread : parseCookies browser retyped = .ok other) (member : control ∈ controlsOf fields) :
    outcomeOf browser (values.set jarId retyped) control = outcomeOf browser values control := by
  cases control with
  | refused field because => rfl
  | entry field drawn =>
    obtain ⟨inFields, isEntry⟩ := isEntry_of_mem member
    have apart : field.id ≠ jarId := clear.unpasted grouped field inFields isEntry
    have sameTyped : typedUnder (values.set jarId retyped) field.id =
        typedUnder values field.id := by
      unfold typedUnder PlainObject.get
      rw [PlainObject.own?_set_of_ne values apart]
    unfold outcomeOf
    show (if _ then _ else (typedUnder (values.set jarId retyped) field.id).bind _) = _
    rw [sameTyped]
    rfl
  | jar allCookies domain fields names =>
    rw [outcomeOf_of_own rfl (own?_retyped values retyped) revisible,
      outcomeOf_of_own rfl isPasted visible]
    exact (outcomeOfJar_of_alike alike isRead isReread fields).symm

theorem spellings_of_clear (clear : Clear browser fields values)
    (grouped : ∃ field ∈ fields, field.isGrouped = true)
    (ready : ∀ control ∈ controlsOf fields, Ready browser values control)
    (isData : data = PlainObject.empty.setAll ((controlsOf fields).filterMap (entered browser
      values))) {pairs others : List (String × String)} (isPasted : values.own? jarId = some pasted)
    (spells : Spells browser pasted pairs) (respells : Spells browser retyped others)
    (same : SameJar pairs others) :
    answerOf browser (controlsOf fields) (values.set jarId retyped) = .ok (.ok data) := by
  obtain ⟨visible, isParsed⟩ := parseCookies_of_spells spells
  obtain ⟨revisible, isReparsed⟩ := parseCookies_of_spells respells
  obtain ⟨_, cookies, _, isOwn, _, isRead, _⟩ := entered_of_isGrouped ready grouped
  cases isOwn.symm.trans isPasted
  have alike := alike_of_sameJar same
  obtain ⟨_, isFilled⟩ := filled_of_alike alike (isParsed.symm.trans isRead)
  have sameCookies := (filled_of_alike alike (isParsed.symm.trans isRead)).1
  rw [sameCookies] at isRead
  have sameOutcome : ∀ control ∈ controlsOf fields,
      outcomeOf browser (values.set jarId retyped) control = outcomeOf browser values control :=
    fun control member => outcomeOf_retyped clear grouped isPasted visible revisible alike isRead
      (isReparsed.trans isFilled) member
  refine answerOf_eq_ok_iff.mpr ⟨fun control member => ?_, ?_⟩
  · rw [ready_iff, sameOutcome control member]
    exact ready_iff.mp (ready control member)
  · rw [isData]
    refine congrArg _ (List.filterMap_congr fun control member => ?_)
    unfold entered
    rw [sameOutcome control member]

theorem carries_of_clear (clear : Clear browser fields values)
    (canAnswer : answerable (controlsOf fields) = true)
    (ready : ∀ control ∈ controlsOf fields, Ready browser values control)
    (isData : data =
      PlainObject.empty.setAll ((controlsOf fields).filterMap (entered browser values))) :
    Carries browser fields values data := by
  have entries : ∀ field ∈ fields, field.isEntry = true → ∃ typed, typed ≠ "" ∧
      values.own? field.id = some typed ∧ data.own? field.id = some (.text typed) := by
    intro field member isEntry
    obtain ⟨typed, written, isOwn, control, isControl, enters⟩ :=
      entered_of_isEntry ready member isEntry
    exact ⟨typed, written, isOwn, own?_of_entered ready clear.apart isData isControl enters
      (clear.settable field member isEntry)⟩
  have jars : (∃ field ∈ fields, field.isGrouped = true) → ∃ pasted cookies,
      values.own? jarId = some pasted ∧ parseCookies browser pasted = .ok cookies ∧
        missing (requiredSources (fields.filter InputField.isGrouped)) cookies = [] ∧
        data.own? jarMember = some (.jar (PlainObject.empty.setAll
          (carried cookies (fields.filter InputField.isGrouped)))) := by
    intro grouped
    obtain ⟨pasted, cookies, sent, isOwn, _, isRead, complete, written, control, isControl,
      enters⟩ := entered_of_isGrouped ready grouped
    have isText := jarText_of_clearJar (clear.jars pasted cookies isOwn isRead) written
    rw [isText] at enters
    exact ⟨pasted, cookies, isOwn, isRead, complete,
      own?_of_entered ready clear.apart isData isControl enters (by decide)⟩
  refine ⟨?_, fun id sent isOwn => belongs_of_ready ready isData isOwn, ?_, ?_, ?_, clear.apart, ?_⟩
  · intro field member isRequired
    unfold IsPresent
    rcases isEntry_or_isGrouped canAnswer member isRequired with isEntry | isGrouped
    · have isSingle := (Bool.and_eq_true_iff.mp isEntry).1
      rw [Bool.not_eq_true'] at isSingle
      obtain ⟨typed, written, _, isHeld⟩ := entries field member isEntry
      rw [if_neg (by rw [isSingle]; exact Bool.false_ne_true)]
      exact ⟨typed, written, isHeld⟩
    · obtain ⟨pasted, cookies, isOwn, isRead, complete, isHeld⟩ := jars ⟨field, member, isGrouped⟩
      have isMember := List.mem_filter.mpr ⟨member, isGrouped⟩
      have clearJar := clear.jars pasted cookies isOwn isRead
      obtain ⟨value, written, isGiven⟩ := own_of_complete clearJar complete isMember isRequired
      rw [if_pos isGrouped]
      exact ⟨_, isHeld, value, written,
        (holdsPaste_of_clearJar clearJar).verbatim field isMember value written isGiven⟩
  · intro field member isEntry
    obtain ⟨typed, _, isOwn, isHeld⟩ := entries field member isEntry
    exact ⟨typed, isOwn, isHeld⟩
  · intro grouped
    obtain ⟨pasted, cookies, isOwn, isRead, _, isHeld⟩ := jars grouped
    exact ⟨pasted, cookies, _, isOwn, isRead, isHeld,
      holdsPaste_of_clearJar (clear.jars pasted cookies isOwn isRead)⟩
  · intro grouped
    cases isHeld : data.own? jarId with
    | none => rfl
    | some sent =>
      rcases belongs_of_ready ready isData isHeld with ⟨field, member, isEntry, isId⟩ | ⟨isJar, _⟩
      · exact absurd isId (clear.unpasted grouped field member isEntry)
      · exact absurd isJar (by decide)
  · intro grouped pasted retyped pairs others isPasted spells respells same
    exact spellings_of_clear clear grouped ready isData isPasted spells respells same

theorem clear_of_carries (carries : Carries browser fields values data)
    (ready : ∀ control ∈ controlsOf fields, Ready browser values control)
    (isData : data =
      PlainObject.empty.setAll ((controlsOf fields).filterMap (entered browser values))) :
    Clear browser fields values := by
  refine ⟨carries.apart, ?_, ?_, ?_⟩
  · intro field member isEntry
    obtain ⟨typed, _, isHeld⟩ := carries.verbatim field member isEntry
    exact (entered_of_own? isData isHeld).1
  · intro grouped field member isEntry isJar
    obtain ⟨typed, _, isHeld⟩ := carries.verbatim field member isEntry
    rw [isJar, carries.unpasted grouped] at isHeld
    exact nomatch isHeld
  · intro pasted cookies isOwn isRead
    by_cases grouped : ∃ field ∈ fields, field.isGrouped = true
    · obtain ⟨otherPasted, otherCookies, members, otherOwn, otherRead, isHeld, holds⟩ :=
        carries.jars grouped
      cases otherOwn.symm.trans isOwn
      cases otherRead.symm.trans isRead
      obtain ⟨entered, enteredCookies, sent, enteredOwn, _, enteredRead, _, written, control,
        isControl, enters⟩ := entered_of_isGrouped ready grouped
      cases enteredOwn.symm.trans isOwn
      cases enteredRead.symm.trans isRead
      have isSent := own?_of_entered ready carries.apart isData isControl enters (by decide)
      rw [Option.some.inj (isSent.symm.trans isHeld)] at written
      rw [members_of_jarText written] at holds isHeld
      refine clearJar_of_holdsPaste holds fun field member isRequired => ?_
      obtain ⟨inFields, isGrouped⟩ := List.mem_filter.mp member
      have present := carries.required field inFields isRequired
      unfold IsPresent at present
      rw [if_pos isGrouped, isHeld] at present
      obtain ⟨_, isSame, value, _, isText⟩ := present
      cases isSame
      rw [isText]
      exact nofun
    · have none : fields.filter InputField.isGrouped = [] := by
        rw [List.filter_eq_nil_iff]
        exact fun field member isGrouped => grouped ⟨field, member, isGrouped⟩
      rw [none]
      exact ⟨List.nodup_nil, fun _ member => absurd member List.not_mem_nil,
        fun _ member => absurd member List.not_mem_nil⟩

end

/-! ### Optional fields -/

theorem isLeftBlank_of_ready {browser : Browser} {values : Values}
    (isReady : Ready browser values control) : isLeftBlank values control = false := by
  unfold isLeftBlank
  cases control with
  | refused field because => rfl
  | entry field drawn =>
    obtain ⟨typed, isOwn, visible, _⟩ := isReady
    simp [Control.id, isOwn, visible]
  | jar allCookies domain fields names =>
    obtain ⟨typed, isOwn, visible, _⟩ := isReady
    simp [Control.id, isOwn, visible]

/-- The answer of a step is right exactly where its names keep its controls apart, once all of them
are ready, and nothing is left blank that the rest of the step could do without. -/
theorem answersTheStep_iff (browser : Browser) (payload : Json) (bare : Option String)
    (values : Values) :
    AnswersTheStep browser payload bare values ↔ Fits browser payload bare values := by
  constructor
  · rintro ⟨carries, unblocked⟩
    constructor
    · intro canAnswer ready
      have answers := answerOf_eq_ok_iff.mpr ⟨ready, rfl⟩
      exact clear_of_carries (carries _ canAnswer answers) ready rfl
    · intro others control member
      have rest : ∃ data, answerOf browser ((controlsOf (inputFields payload bare)).filter
          fun control => !isLeftBlank values control) values = .ok (.ok data) := by
        refine ⟨_, answerOf_eq_ok_iff.mpr ⟨fun control isKept => ?_, rfl⟩⟩
        obtain ⟨member, notBlank⟩ := List.mem_filter.mp isKept
        exact others control member (by simpa using notBlank)
      obtain ⟨data, answers⟩ := unblocked rest
      exact isLeftBlank_of_ready ((answerOf_eq_ok_iff.mp answers).1 control member)
  · rintro ⟨clear, filledIn⟩
    constructor
    · intro data canAnswer answers
      obtain ⟨ready, isData⟩ := answerOf_eq_ok_iff.mp answers
      exact carries_of_clear (clear canAnswer ready) canAnswer ready isData
    · rintro ⟨data, answers⟩
      have others : ∀ control ∈ controlsOf (inputFields payload bare),
          isLeftBlank values control = false → Ready browser values control := by
        intro control member notBlank
        refine (answerOf_eq_ok_iff.mp answers).1 control (List.mem_filter.mpr ⟨member, ?_⟩)
        rw [notBlank]
        rfl
      refine ⟨_, answerOf_eq_ok_iff.mpr ⟨fun control member => ?_, rfl⟩⟩
      exact others control member (filledIn others control member)

/-! ### A step with one optional field left blank -/

namespace OptionalBlank

def browser : Browser := { parseJson := fun _ => none, tests := fun _ _ => none }

def payload : Json :=
  .object [("fields", .array
    [.object [("id", .string "phone_number"), ("type", .string "phone_number")],
      .object [("id", .string "email"), ("type", .string "email"), ("required", .bool false)]])]

def values : Values := ⟨[("phone_number", "+33600000000")]⟩

def number : Control :=
  .entry
    { id := "phone_number"
      name := "phone_number"
      description := none
      type := some "phone_number"
      pattern := none
      sourceName := none
      cookieDomain := none
      required := true
      options := [] }
    (some ⟨.tel, "tel", false⟩)

def address : Control :=
  .entry
    { id := "email"
      name := "email"
      description := none
      type := some "email"
      pattern := none
      sourceName := none
      cookieDomain := none
      required := false
      options := [] }
    (some ⟨.email, "email", false⟩)

theorem controls_eq : controlsOf (inputFields payload none) = [number, address] := by decide

theorem answers_number :
    answerOf browser [number] values = .ok (.ok ⟨[("phone_number", .text "+33600000000")]⟩) := rfl

theorem refuses_both :
    answerOf browser [number, address] values = .ok (.problems [⟨"email", .empty⟩]) := rfl

/-- The step without the address is answered, and the step is not. -/
theorem not_answersTheStep : ¬AnswersTheStep browser payload none values := by
  intro answers
  have unblocked := answers.unblocked
  rw [controls_eq] at unblocked
  obtain ⟨data, isAnswered⟩ := unblocked ⟨_, answers_number⟩
  exact nomatch refuses_both.symm.trans isAnswered

end OptionalBlank

end Twalk.StepFields
