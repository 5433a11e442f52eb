/-
This file is what the clerk reads back off its own posts: the reference in the last line, which the
sweep and the decisions go by, and the network in the first, out of `clerk/src/reference.rs`,
`clerk/src/text.rs` and `clerk/src/consumers.rs`. A post is made by formatting, and its texts are
checked by nobody: a line is read word by word and the first line is cut at a separator. Whatever
stands between the two lines changes nothing; the expiry and the network change what is read exactly
where they do not keep to a word and to a part of a line.
-/

import Twalk.Library.Cuts
import Twalk.Suggestions
import Twalk.Ticks

namespace Twalk.Clerk

/-! ### The post and its readers -/

def approvalPostOf (dates : Dates) (lang : Lang) (body network : String)
    (context : Option Answering) (path times : String) (expiresAt : Option String)
    (deliveryLine reference : String) : String :=
  let network := networkName network
  let expiry := (expiresAt.map (expiryWords dates lang)).getD ""
  let context := (context.map contextLine).getD ""
  match lang with
  | .fr => "Réponse proposée · " ++ network ++ expiry ++ "\n" ++ context ++ path ++ times ++
      "« " ++ body ++ " »\n" ++ deliveryLine ++
      "\n✅ envoyer tel quel · ❌ refuser · répondre ici pour envoyer un autre texte" ++ "\n" ++
      reference
  | .en => "Proposed reply · " ++ network ++ expiry ++ "\n" ++ context ++ path ++ times ++
      "“" ++ body ++ "”\n" ++ deliveryLine ++
      "\n✅ send as is · ❌ decline · reply here to send a different text" ++ "\n" ++ reference

/-- What stands between the parts of a post's first line. -/
def partsSeparator : List Char := [' ', '·', ' ']

def networkOffPost (content : String) : Option String := do
  let first ← (Text.lines content).head?
  let (_, rest) ← Cut.cutAt partsSeparator first.toList
  (some (Text.trim (String.ofList (Cut.before partsSeparator rest)))).filter (· != "")

/-- The difference of two numbers of 64 bits, kept among them. -/
def saturatingSub (first second : Int) : Int := max minSeconds (min (first - second) maxSeconds)

/-! ### A post that reads back -/

/-- What a post is made of besides its reference. -/
structure Texts where
  lang : Lang
  body : String
  network : String
  context : Option Answering
  path : String
  times : String
  deliveryLine : String

def Texts.post (texts : Texts) (dates : Dates) (reference : Reference) : String :=
  approvalPostOf dates texts.lang texts.body texts.network texts.context texts.path texts.times
    reference.expiresAt texts.deliveryLine (line reference)

structure ReadsWhole (dates : Dates) (texts : Texts) (reference : Reference) : Prop where
  parsed : parse (texts.post dates reference) = some reference
  recognised : ∀ (posts : List String) (id : String),
    alreadyPosted (texts.post dates reference :: posts) id =
      (reference.suggestionId == id || alreadyPosted posts id)
  swept : ∀ createdAt now : Int,
    verdict dates.expiresAtUnix (texts.post dates reference) createdAt now =
      match reference.expiresAt.bind dates.expiresAtUnix with
      | some expires => if expires ≤ now then .expired else .stands
      | none => if pastCeiling createdAt now then .pastCeiling else .standsUndated
  agrees : ∀ createdAt now : Int,
    (postHasExpired dates.expiresAtUnix (texts.post dates reference) now = true ↔
      verdict dates.expiresAtUnix (texts.post dates reference) createdAt now = .expired) ∧
    (postHasExpired dates.expiresAtUnix (texts.post dates reference) now = true ↔
      expiresWithin dates.expiresAtUnix (texts.post dates reference) now 0 = true) ∧
    (postHasExpired dates.expiresAtUnix (texts.post dates reference) now = true ↔
      ∃ expiresAt ∈ reference.expiresAt, hasExpired dates.expiresAtUnix expiresAt now = true)
  within : ∀ now window : Int,
    expiresWithin dates.expiresAtUnix (texts.post dates reference) now window = true ↔
      ∃ expires ∈ reference.expiresAt.bind dates.expiresAtUnix, saturatingSub expires now ≤ window
  network : networkOffPost (texts.post dates reference) = some (networkName texts.network)

def IsWord (text : String) : Prop :=
  text ≠ "" ∧ ∀ character ∈ text.toList, Text.isWhiteSpace character = false

structure IsPart (name : String) (expires : Bool) : Prop where
  isSome : name ≠ ""
  trimmed : Text.trim name = name
  unbroken : '\n' ∉ name.toList
  whole : ¬partsSeparator <:+: name.toList ++ if expires then partsSeparator.dropLast else []

/-! ### The reference -/

theorem isWord_of_mem_words {text word : String} (member : word ∈ Text.words text) :
    IsWord word := by
  obtain ⟨part, isPart, rfl⟩ := List.mem_map.mp member
  obtain ⟨inSplit, isSome⟩ := List.mem_filter.mp isPart
  constructor
  · intro isEmpty
    rw [Bool.not_eq_true', List.isEmpty_eq_false_iff] at isSome
    exact isSome (String.toList_ofList.symm.trans (congrArg String.toList isEmpty))
  · intro character isCharacter
    rw [String.toList_ofList] at isCharacter
    exact Text.apart_of_mem_splitOnP inSplit character isCharacter

theorem of_readReference {rest : String} {reference : Reference}
    (isRead : readReference rest = some reference) :
    isSuggestionId reference.suggestionId = true ∧
      ∀ expiresAt ∈ reference.expiresAt, IsWord expiresAt := by
  have inWords : ∀ word ∈ Text.words rest, IsWord word := fun word => isWord_of_mem_words
  unfold readReference at isRead
  split at isRead
  · rename_i id more isWords
    split at isRead
    · rename_i isId
      rw [isWords] at inWords
      cases isRead
      refine ⟨isId, fun expiresAt isExpiry => ?_⟩
      dsimp only at isExpiry
      split at isExpiry
      · cases isExpiry
        exact inWords expiresAt (by simp)
      · cases isExpiry
    · cases isRead
  · cases isRead

theorem parse_line_none {id : String} (isId : isSuggestionId id = true) :
    parse (line ⟨id, none⟩) = some ⟨id, none⟩ := by
  have digits := isId
  rw [isSuggestionId, Bool.and_eq_true, beq_iff_eq, List.all_eq_true] at digits
  have visible : ∀ digit ∈ id.toList, Text.isWhiteSpace digit = false := fun digit member =>
    isWhiteSpace_of_isIdDigit (digits.2 digit member)
  have isSome : id.toList ≠ [] := List.ne_nil_of_length_eq_add_one digits.1
  have unbroken : '\n' ∉ id.toList := fun inId => absurd (visible _ inId) (by decide)
  have kept : Text.trimEnd id.toList = id.toList := by
    rw [← List.dropLast_append_getLast isSome,
      Text.trimEnd_of_visible (visible _ (List.getLast_mem isSome))]
  have isLast : lastReference (line ⟨id, none⟩) = some id := by
    rw [line, lastReference_prefix, laterReference_append unbroken, firstLine_append unbroken]
    have nothing : laterReference (afterId none) = none ∧ firstLine (afterId none) = "" := by
      decide
    rw [nothing.1, nothing.2, String.append_empty, kept, String.ofList_toList]
    rfl
  have words : Text.words id = [id] := by
    have alone := Text.words_singleton isSome visible
    rwa [String.ofList_toList] at alone
  unfold parse readReference
  rw [isLast, Option.bind_some, words]
  exact if_pos isId

theorem parse_append_line (front : String) {reference : Reference}
    (isId : isSuggestionId reference.suggestionId = true) :
    parse (front ++ "\n" ++ line reference) = parse (line reference) := by
  obtain ⟨first, -, isLast⟩ := lastReference_line isId
  unfold parse
  rw [lastReference_append, isLast]
  cases reference.expiresAt.bind laterReference <;> rfl

theorem parse_append_line_iff (front : String) (reference : Reference) :
    parse (front ++ "\n" ++ line reference) = some reference ↔
      isSuggestionId reference.suggestionId = true ∧
        ∀ expiresAt ∈ reference.expiresAt, IsWord expiresAt := by
  constructor
  · intro isParsed
    obtain ⟨rest, -, isRead⟩ := Option.bind_eq_some_iff.mp isParsed
    exact of_readReference isRead
  · rintro ⟨isId, isWord⟩
    rw [parse_append_line front isId]
    obtain ⟨id, expiresAt⟩ := reference
    cases expiresAt with
    | none => exact parse_line_none isId
    | some expiresAt =>
      obtain ⟨isSome, visible⟩ := isWord expiresAt rfl
      exact parse_line isId (fun isEmpty => isSome (String.toList_inj.mp isEmpty)) visible

/-! ### The first line -/

theorem withoutCarriageReturn_append {last : Char} (isOther : last ≠ '\r')
    (front back : List Char) :
    (Text.withoutCarriageReturn (String.ofList (front ++ last :: back))).toList =
      front ++ last :: (Text.withoutCarriageReturn (String.ofList back)).toList := by
  have ends : (front ++ last :: back).getLast? = some '\r' ↔ back.getLast? = some '\r' := by
    rw [List.getLast?_append, List.getLast?_cons]
    cases isLast : back.getLast? with
    | none =>
      have other : some last ≠ some '\r' := fun same => isOther (Option.some.inj same)
      exact iff_of_false other nofun
    | some character => exact Iff.rfl
  unfold Text.withoutCarriageReturn
  rw [String.toList_ofList, String.toList_ofList]
  by_cases isReturn : back.getLast? = some '\r'
  · have isSome : back ≠ [] := fun isEmpty => by
      rw [isEmpty] at isReturn
      cases isReturn
    rw [if_pos (ends.mpr isReturn), if_pos isReturn, String.toList_ofList, String.toList_ofList,
      List.dropLast_append_of_ne_nil (List.cons_ne_nil _ _), List.dropLast_cons_of_ne_nil isSome]
  · rw [if_neg fun both => isReturn (ends.mp both), if_neg isReturn, String.toList_ofList,
      String.toList_ofList]

def lineOf (characters : List Char) : List Char := characters.takeWhile (· != '\n')

theorem lineOf_append {front : List Char} (unbroken : '\n' ∉ front) (back : List Char) :
    lineOf (front ++ back) = front ++ lineOf back := by
  unfold lineOf
  refine List.takeWhile_append_of_pos fun character member => ?_
  rw [bne_iff_ne]
  rintro rfl
  exact unbroken member

theorem lineOf_append_cons (front back : List Char) :
    lineOf (front ++ '\n' :: back) = lineOf front := by
  unfold lineOf
  induction front with
  | nil => rfl
  | cons first rest inductionHypothesis =>
    rw [List.cons_append, List.takeWhile_cons, List.takeWhile_cons, inductionHypothesis]

theorem length_lineOf_append {front : List Char} (broken : '\n' ∈ front) (back : List Char) :
    (lineOf (front ++ back)).length < front.length := by
  obtain ⟨before, after, rfl, absent⟩ := List.eq_append_cons_of_mem broken
  rw [List.append_assoc, List.cons_append, lineOf_append_cons, List.length_append]
  have shorter := (List.takeWhile_prefix (l := before) (· != '\n')).length_le
  exact Nat.lt_of_le_of_lt shorter (Nat.lt_add_of_pos_right (Nat.succ_pos _))

theorem head?_lines (front back : List Char) :
    (Text.lines (String.ofList (front ++ '\n' :: back))).head? =
      some (Text.withoutCarriageReturn (String.ofList (lineOf front))) := by
  obtain ⟨before, after, isSplit, absent⟩ :=
    List.eq_append_cons_of_mem (show '\n' ∈ front ++ '\n' :: back by simp)
  have isLine : lineOf front = before := by
    rw [← lineOf_append_cons front back, isSplit, lineOf_append_cons]
    exact (congrArg lineOf (List.append_nil before).symm).trans
      ((lineOf_append absent []).trans (List.append_nil before))
  have parts : Text.split '\n' (String.ofList (front ++ '\n' :: back)) =
      String.ofList before :: Text.split '\n' (String.ofList after) := by
    unfold Text.split
    rw [String.toList_ofList, String.toList_ofList, isSplit,
      List.splitOn_append_cons_self_of_not_mem absent, List.map_cons]
  have more : Text.split '\n' (String.ofList after) ≠ [] := by
    unfold Text.split
    rw [Ne, List.map_eq_nil_iff]
    exact List.splitOn_ne_nil _ _
  unfold Text.lines
  rw [parts, List.dropLast_cons_of_ne_nil more, isLine]
  rfl

/-! ### The network -/

theorem partsSeparator_ne_nil : partsSeparator ≠ [] := List.cons_ne_nil _ _

theorem withoutCarriageReturn_isPrefix (characters : List Char) :
    (Text.withoutCarriageReturn (String.ofList characters)).toList <+: characters := by
  unfold Text.withoutCarriageReturn
  rw [String.toList_ofList]
  split
  · rw [String.toList_ofList]
    exact List.dropLast_prefix characters
  · rw [String.toList_ofList]

theorem trim_sublist (characters : List Char) :
    (Text.trim (String.ofList characters)).toList.Sublist characters := by
  rw [Text.toList_trim, String.toList_ofList]
  exact (Text.trimEnd_isPrefix _).sublist.trans (List.dropWhile_sublist _)

variable {name : String}

theorem eq_of_trim {characters : List Char}
    (isTrimmed : Text.trim (String.ofList characters) = name)
    (short : characters.length ≤ name.toList.length) : characters = name.toList := by
  have inside := trim_sublist characters
  rw [isTrimmed] at inside
  exact (inside.eq_of_length_le short).symm

/-- The network that what follows the lead of a first line is read as. -/
def networkOf (rest : List Char) : Option String :=
  (some (Text.trim (String.ofList (Cut.before partsSeparator rest)))).filter (· != "")

theorem networkOf_eq_some_iff {rest : List Char} :
    networkOf rest = some name ↔
      Text.trim (String.ofList (Cut.before partsSeparator rest)) = name ∧ name ≠ "" := by
  unfold networkOf
  rw [Option.filter_eq_some_iff, Option.some.injEq, bne_iff_ne]

def ledBy (following : List Char) : List Char :=
  (Text.withoutCarriageReturn (String.ofList (lineOf following))).toList

theorem networkOffPost_eq {lead following back : List Char} (unbroken : '\n' ∉ lead)
    (single : ¬partsSeparator <:+: lead ++ partsSeparator.dropLast) :
    networkOffPost (String.ofList ((lead ++ partsSeparator ++ following) ++ '\n' :: back)) =
      networkOf (ledBy following) := by
  have isLine : lineOf (lead ++ partsSeparator ++ following) =
      (lead ++ [' ', '·']) ++ ' ' :: lineOf following := by
    have unbrokenToo : '\n' ∉ lead ++ partsSeparator := by
      rw [List.mem_append, not_or]
      exact ⟨unbroken, by decide⟩
    rw [lineOf_append unbrokenToo, partsSeparator, List.append_assoc, List.append_assoc]
    rfl
  have isCut : Cut.cutAt partsSeparator
      ((lead ++ [' ', '·']) ++ ' ' :: ledBy following) = some (lead, ledBy following) := by
    rw [List.append_assoc]
    exact (Cut.cutAt_append_iff partsSeparator_ne_nil _ _).mpr single
  have isLed : (Text.withoutCarriageReturn (String.ofList
      ((lead ++ [' ', '·']) ++ ' ' :: lineOf following))).toList =
        (lead ++ [' ', '·']) ++ ' ' :: ledBy following :=
    withoutCarriageReturn_append (by decide) _ _
  unfold networkOffPost
  rw [head?_lines, isLine, Option.bind_eq_bind, Option.bind_some, isLed, isCut,
    Option.bind_eq_bind, Option.bind_some]
  unfold networkOf
  rfl

theorem ledBy_isPrefix (following : List Char) : ledBy following <+: lineOf following :=
  withoutCarriageReturn_isPrefix _

theorem lineOf_eq_self {characters : List Char} (unbroken : '\n' ∉ characters) :
    lineOf characters = characters := by
  have alone := lineOf_append unbroken []
  rw [List.append_nil] at alone
  exact alone.trans (List.append_nil characters)

theorem unbroken_of_trim {back : List Char} (isTrimmed : Text.trim (String.ofList
      (Cut.before partsSeparator (ledBy (name.toList ++ back)))) = name) :
    '\n' ∉ name.toList := by
  intro broken
  have kept := trim_sublist (Cut.before partsSeparator (ledBy (name.toList ++ back)))
  rw [isTrimmed] at kept
  have isPrefix := Cut.before_isPrefix partsSeparator (ledBy (name.toList ++ back))
  have isLed := ledBy_isPrefix (name.toList ++ back)
  exact absurd (kept.length_le.trans (isPrefix.length_le.trans isLed.length_le))
    (Nat.not_le_of_lt (length_lineOf_append broken back))

theorem networkOf_ledBy_iff (name : String) :
    networkOf (ledBy name.toList) = some name ↔ IsPart name false := by
  rw [networkOf_eq_some_iff]
  have isPrefix := Cut.before_isPrefix partsSeparator (ledBy name.toList)
  have isLed := ledBy_isPrefix name.toList
  constructor
  · rintro ⟨isTrimmed, isSome⟩
    have unbroken : '\n' ∉ name.toList :=
      @unbroken_of_trim name [] (by rw [List.append_nil]; exact isTrimmed)
    rw [lineOf_eq_self unbroken] at isLed
    have isName := eq_of_trim isTrimmed (isPrefix.length_le.trans isLed.length_le)
    have isWhole : ledBy name.toList = name.toList := by
      have longEnough := isPrefix.length_le
      rw [isName] at longEnough
      exact isLed.eq_of_length_le longEnough
    rw [isWhole] at isName
    refine ⟨isSome, ?_, unbroken, ?_⟩
    · rw [← isTrimmed, Text.trim_trim]
    · rw [if_neg Bool.false_ne_true, List.append_nil]
      exact (Cut.before_eq_self_iff partsSeparator_ne_nil).mp isName
  · rintro ⟨isSome, isTrimmed, unbroken, whole⟩
    rw [if_neg Bool.false_ne_true, List.append_nil] at whole
    have isWhole : ledBy name.toList = name.toList := by
      refine eq_of_trim ?_ (isLed.length_le.trans ?_)
      · unfold ledBy
        rw [lineOf_eq_self unbroken, String.ofList_toList, String.ofList_toList,
          Text.trim_withoutCarriageReturn, isTrimmed]
      · rw [lineOf_eq_self unbroken]
    rw [isWhole, (Cut.before_eq_self_iff partsSeparator_ne_nil).mpr whole, String.ofList_toList]
    exact ⟨isTrimmed, isSome⟩

theorem networkOf_ledBy_append_iff (name : String) (back : List Char) :
    networkOf (ledBy (name.toList ++ (partsSeparator ++ back))) = some name ↔
      IsPart name true := by
  rw [networkOf_eq_some_iff]
  have isLed (unbroken : '\n' ∉ name.toList) :
      ledBy (name.toList ++ (partsSeparator ++ back)) =
        name.toList ++ (partsSeparator ++ ledBy back) := by
    have isLine : lineOf (name.toList ++ (partsSeparator ++ back)) =
        (name.toList ++ [' ', '·']) ++ ' ' :: lineOf back := by
      rw [lineOf_append unbroken, lineOf_append (by decide), List.append_assoc]
      rfl
    unfold ledBy
    rw [isLine, withoutCarriageReturn_append (by decide), List.append_assoc]
    rfl
  constructor
  · rintro ⟨isTrimmed, isSome⟩
    have unbroken := unbroken_of_trim isTrimmed
    rw [isLed unbroken] at isTrimmed
    have isName := eq_of_trim isTrimmed
      (Cut.length_before_append_le partsSeparator_ne_nil name.toList (ledBy back))
    refine ⟨isSome, ?_, unbroken, ?_⟩
    · rw [← isTrimmed, Text.trim_trim]
    · rw [if_pos rfl]
      exact (Cut.before_append_iff partsSeparator_ne_nil).mp isName
  · rintro ⟨isSome, isTrimmed, unbroken, whole⟩
    rw [if_pos rfl] at whole
    rw [isLed unbroken, (Cut.before_append_iff partsSeparator_ne_nil).mpr whole,
      String.ofList_toList]
    exact ⟨isTrimmed, isSome⟩

/-! ### The whole post -/

/-- What a post's first line says before the network. -/
def leadOf : Lang → List Char
  | .fr => "Réponse proposée".toList
  | .en => "Proposed reply".toList

theorem leadOf_single (lang : Lang) : '\n' ∉ leadOf lang ∧
    ¬partsSeparator <:+: leadOf lang ++ partsSeparator.dropLast := by
  cases lang <;> decide

theorem opens_append {opening : List Char} {text : String} (opens : opening <+: text.toList)
    (more : String) : opening <+: (text ++ more).toList := by
  rw [String.toList_append]
  exact opens.trans (List.prefix_append _ _)

theorem opens_expiryWords (dates : Dates) (lang : Lang) (expiresAt : String) :
    partsSeparator <+: (expiryWords dates lang expiresAt).toList := by
  unfold expiryWords
  cases lang <;> cases dates.dayUtc expiresAt <;> cases dates.clockUtc expiresAt
  all_goals
    repeat' refine opens_append ?_ _
    exact ⟨_, rfl⟩

theorem exists_post (texts : Texts) (dates : Dates) (reference : Reference) :
    ∃ back, texts.post dates reference = String.ofList
      ((leadOf texts.lang ++ partsSeparator ++ ((networkName texts.network).toList ++
        ((reference.expiresAt.map (expiryWords dates texts.lang)).getD "").toList)) ++
          '\n' :: back) := by
  have opens : (leadOf texts.lang ++ partsSeparator ++ ((networkName texts.network).toList ++
      ((reference.expiresAt.map (expiryWords dates texts.lang)).getD "").toList)) ++ ['\n'] <+:
        (texts.post dates reference).toList := by
    obtain ⟨lang, body, network, context, path, times, deliveryLine⟩ := texts
    unfold Texts.post approvalPostOf
    cases lang <;>
    · dsimp only
      iterate 10 refine opens_append ?_ _
      rw [String.toList_append, String.toList_append, String.toList_append, ← List.append_assoc]
      exact ⟨[], List.append_nil _⟩
  obtain ⟨back, isBack⟩ := opens
  refine ⟨back, String.toList_inj.mp ?_⟩
  rw [String.toList_ofList, ← isBack, List.append_assoc]
  rfl

theorem exists_front (texts : Texts) (dates : Dates) (reference : Reference) :
    ∃ front, texts.post dates reference = front ++ "\n" ++ line reference := by
  obtain ⟨lang, body, network, context, path, times, deliveryLine⟩ := texts
  cases lang <;> exact ⟨_, rfl⟩

theorem networkOffPost_post_iff (texts : Texts) (dates : Dates) (reference : Reference) :
    networkOffPost (texts.post dates reference) = some (networkName texts.network) ↔
      IsPart (networkName texts.network) reference.expiresAt.isSome := by
  obtain ⟨back, isPost⟩ := exists_post texts dates reference
  obtain ⟨unbroken, single⟩ := leadOf_single texts.lang
  rw [isPost, networkOffPost_eq unbroken single]
  cases reference.expiresAt with
  | none =>
    have nothing : (networkName texts.network).toList ++ "".toList =
        (networkName texts.network).toList := List.append_nil _
    rw [Option.map_none, Option.getD_none, nothing]
    exact networkOf_ledBy_iff _
  | some expiresAt =>
    obtain ⟨words, isWords⟩ := opens_expiryWords dates texts.lang expiresAt
    rw [Option.map_some, Option.getD_some, ← isWords]
    exact networkOf_ledBy_append_iff _ _

theorem saturatingSub_le_zero_iff (first second : Int) :
    saturatingSub first second ≤ 0 ↔ first ≤ second := by
  unfold saturatingSub minSeconds maxSeconds
  omega

theorem hasExpired_iff {expiresAtUnix : String → Option Int} {expiresAt : String} {now : Int} :
    hasExpired expiresAtUnix expiresAt now = true ↔
      ∃ expires ∈ expiresAtUnix expiresAt, expires ≤ now := by
  unfold hasExpired
  rw [Option.any_eq_true]
  simp only [decide_eq_true_eq, Option.mem_def]

theorem readsWhole_of_parsed {texts : Texts} {dates : Dates} {reference : Reference}
    (parsed : parse (texts.post dates reference) = some reference)
    (network : networkOffPost (texts.post dates reference) = some (networkName texts.network)) :
    ReadsWhole dates texts reference := by
  have whetherExpired : ∀ now : Int,
      postHasExpired dates.expiresAtUnix (texts.post dates reference) now = true ↔
        ∃ expires ∈ reference.expiresAt.bind dates.expiresAtUnix, expires ≤ now := by
    intro now
    unfold postHasExpired expiryOf
    rw [parsed, Option.bind_some]
    cases reference.expiresAt with
    | none => simp
    | some expiresAt =>
      rw [Option.any_some, hasExpired_iff, Option.bind_some]
  have within : ∀ now window : Int,
      expiresWithin dates.expiresAtUnix (texts.post dates reference) now window = true ↔
        ∃ expires ∈ reference.expiresAt.bind dates.expiresAtUnix,
          saturatingSub expires now ≤ window := by
    intro now window
    unfold expiresWithin expiryOf
    rw [parsed, Option.bind_some, Option.any_eq_true]
    simp only [decide_eq_true_eq, Option.mem_def]
    rfl
  have swept : ∀ createdAt now : Int,
      verdict dates.expiresAtUnix (texts.post dates reference) createdAt now =
        match reference.expiresAt.bind dates.expiresAtUnix with
        | some expires => if expires ≤ now then .expired else .stands
        | none => if pastCeiling createdAt now then .pastCeiling else .standsUndated := by
    intro createdAt now
    cases found : reference.expiresAt.bind dates.expiresAtUnix with
    | none => simp [verdict, parsed, found]
    | some expires => simp [verdict, parsed, found]
  refine ⟨parsed, fun posts id => ?_, swept, fun createdAt now => ⟨?_, ?_, ?_⟩, within, network⟩
  · unfold alreadyPosted
    rw [List.filterMap_cons_some parsed, List.any_cons]
  · rw [whetherExpired, swept]
    cases reference.expiresAt.bind dates.expiresAtUnix with
    | none =>
      dsimp only
      split <;> simp
    | some expires =>
      dsimp only
      split <;> simp [*]
  · rw [whetherExpired, within]
    simp only [saturatingSub_le_zero_iff]
  · rw [whetherExpired]
    cases reference.expiresAt with
    | none => simp
    | some expiresAt =>
      simp only [Option.bind_some, Option.mem_def, Option.some.injEq, exists_eq_left',
        hasExpired_iff]

/-- A post is read back whole exactly where its suggestion has an id of the contract's, an expiry
that is a word or none, and a network whose name is a part of the first line. -/
theorem readsWhole_iff (dates : Dates) (texts : Texts) (reference : Reference) :
    ReadsWhole dates texts reference ↔
      (isSuggestionId reference.suggestionId = true ∧
        ∀ expiresAt ∈ reference.expiresAt, IsWord expiresAt) ∧
      IsPart (networkName texts.network) reference.expiresAt.isSome := by
  obtain ⟨front, isPost⟩ := exists_front texts dates reference
  have isParsed := parse_append_line_iff front reference
  rw [← isPost] at isParsed
  rw [← isParsed, ← networkOffPost_post_iff texts dates reference]
  exact ⟨fun reads => ⟨reads.parsed, reads.network⟩,
    fun both => readsWhole_of_parsed both.1 both.2⟩

/-! ### An expiry of two words -/

namespace TwoWords

def dates : Dates where
  expiresAtUnix := fun text => if text = "2026-12-01 11:00:00Z" then some 1796122800 else none
  dayUtc := fun text => if text = "2026-12-01 11:00:00Z" then some "01/12" else none
  clockUtc := fun text => if text = "2026-12-01 11:00:00Z" then some "11:00 UTC" else none

def texts : Texts := ⟨.en, "At noon.", "whatsapp", none, "", "", "Delivery: can reach"⟩

def reference : Reference :=
  ⟨"aaaaaaaaaaaaaaaaaaaaaaaaaaaaaaaaaaaaaaaaaaaaaaaaaaaaaaaaaaaaaaaa", some "2026-12-01 11:00:00Z"⟩

/-- A day and a time that a space parts are read as a day alone, which is no instant. -/
theorem not_readsWhole : ¬∀ (dates : Dates) (texts : Texts) (reference : Reference) (now : Int),
    isSuggestionId reference.suggestionId = true →
      (∀ expiresAt ∈ reference.expiresAt, hasExpired dates.expiresAtUnix expiresAt now = false) →
        ReadsWhole dates texts reference := by
  intro always
  have reads := always dates texts reference 1796000000 (by decide)
    (fun expiresAt isExpiry => by
      cases isExpiry
      decide)
  obtain ⟨front, isPost⟩ := exists_front texts dates reference
  have isParsed := reads.parsed
  rw [isPost] at isParsed
  have isWord := ((parse_append_line_iff front reference).mp isParsed).2 _ rfl
  exact absurd (isWord.2 ' ' (by decide)) (by decide)

end TwoWords

end Twalk.Clerk
