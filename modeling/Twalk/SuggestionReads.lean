/-
This file proves that what the SDK publishes the Gateway can read, offer and disclose. The two
select the sentence of a language by functions of their own, which agree where both find one; a
body is cut so that the sentence fits after it; the id is one digest of one natural key; and the
instant a suggestion goes stale at is read as the instant it was written for.
-/

import Twalk.Disclosed
import Twalk.HermesAnswer
import Twalk.ListingReads
import Twalk.PersonaSuggestion

namespace Twalk.Approval

open Consent Persona CodePoints

/-! ### The sentence -/

theorem contractSentences_eq : contractSentences = sentences := rfl

/-- A lower-case ASCII letter. -/
def IsLetter (character : Char) : Prop := 97 ≤ character.toNat ∧ character.toNat ≤ 122

theorem letters_of_mem {language sentence : String} (member : (language, sentence) ∈ sentences) :
    ∃ first second, language.toList = [first, second] ∧ IsLetter first ∧ IsLetter second := by
  have each : ∀ other ∈ sentences, ∃ first second,
      other.1.toList = [first, second] ∧ IsLetter first ∧ IsLetter second := by
    unfold sentences IsLetter
    simp
  exact each _ member

theorem sentence_unique {language first second : String} (isFirst : (language, first) ∈ sentences)
    (isSecond : (language, second) ∈ sentences) : first = second := by
  have each : ∀ one ∈ sentences, ∀ other ∈ sentences, one.1 = other.1 → one.2 = other.2 := by
    unfold sentences
    simp
  exact each _ isFirst _ isSecond rfl

theorem of_toLower {character : Char} (letter : IsLetter character.toLower) :
    isSpace (ofChar character) = false ∧ (ofChar character).val < 128 ∧
      asciiLower (ofChar character) = ofChar character.toLower := by
  have isVal : (ofChar character).val = character.toNat := rfl
  unfold IsLetter at letter
  have small : (ofChar character).val < 128 ∧ 65 ≤ (ofChar character).val := by
    rw [isVal]
    rcases Text.toLower_cases character with ⟨low, high, -⟩ | ⟨-, same⟩
    · omega
    · rw [same] at letter
      omega
  refine ⟨?_, small.1, ?_⟩
  · unfold isSpace
    simp only [Bool.or_eq_false_iff, Bool.and_eq_false_iff, decide_eq_false_iff_not,
      beq_eq_false_iff_ne]
    omega
  · refine Fin.ext ?_
    unfold asciiLower
    rcases Text.toLower_cases character with ⟨low, high, lowered⟩ | ⟨noCapital, same⟩
    · rw [dif_pos ⟨low, high⟩]
      exact lowered.symm
    · rw [dif_neg (show ¬ (65 ≤ (ofChar character).val ∧ (ofChar character).val ≤ 90) from
        noCapital), same]

theorem notHyphen_of_letter {character : Char} (letter : IsLetter character) :
    hyphened (ofChar character) = ofChar character ∧ ofChar character ≠ ofChar '-' := by
  have isVal : (ofChar character).val = character.toNat := rfl
  unfold IsLetter at letter
  have ne : ∀ other : Char, other.toNat < 97 → ofChar character ≠ ofChar other := by
    intro other small same
    have sameVal : (ofChar character).val = (ofChar other).val := congrArg Fin.val same
    change character.toNat = other.toNat at sameVal
    omega
  exact ⟨if_neg (ne '_' (by decide)), ne '-' (by decide)⟩

theorem letters_prefix (lowercase : Lowercasing) {white : List Char} (rest : List Char)
    {first second : Char} (isWhite : ∀ character ∈ white, Text.isWhiteSpace character = true)
    (letters : IsLetter first.toLower ∧ IsLetter second.toLower) :
    [ofChar first.toLower, ofChar second.toLower] <+:
      Persona.primarySubtag lowercase ((white ++ first :: second :: rest).map ofChar) := by
  obtain ⟨firstVisible, firstAscii, firstLower⟩ := of_toLower letters.1
  obtain ⟨secondVisible, secondAscii, secondLower⟩ := of_toLower letters.2
  obtain ⟨firstSame, firstApart⟩ := notHyphen_of_letter letters.1
  obtain ⟨secondSame, secondApart⟩ := notHyphen_of_letter letters.2
  have stripped : [ofChar first, ofChar second] <+:
      strip ((white ++ first :: second :: rest).map ofChar) := by
    unfold strip
    rw [List.map_append, List.map_cons, List.map_cons, List.dropWhile_append_of_pos
      (by simpa using fun character member => isSpace_ofChar (isWhite character member)),
      List.dropWhile_cons_of_neg (by rw [firstVisible]; exact Bool.false_ne_true)]
    exact prefix_rdropWhile secondVisible [ofChar first] (rest.map ofChar)
  obtain ⟨others, isStripped⟩ := stripped
  have lowered := lowercase.ascii [ofChar first, ofChar second] others
    (by simpa using ⟨firstAscii, secondAscii⟩)
  rw [isStripped, List.map_cons, List.map_cons, List.map_nil, firstLower, secondLower] at lowered
  obtain ⟨after, isLowered⟩ := lowered
  unfold Persona.primarySubtag
  rw [← isLowered]
  simp [firstSame, secondSame, firstApart, secondApart]

theorem exists_letters_of_primarySubtag {tag : String} {first second : Char}
    (isSubtag : (primarySubtag tag).toList = [first, second]) :
    ∃ white rest, tag.toList = white ++ first :: second :: rest ∧
      ∀ character ∈ white, Text.isWhiteSpace character = true := by
  unfold primarySubtag at isSubtag
  rw [Text.toList_trim, String.toList_ofList] at isSubtag
  obtain ⟨more, isKept⟩ := Text.trimEnd_isPrefix
    ((tag.toList.takeWhile (· ≠ '-')).dropWhile Text.isWhiteSpace)
  rw [isSubtag] at isKept
  have whole := List.takeWhile_append_dropWhile (p := (· ≠ '-')) (l := tag.toList)
  have part := List.takeWhile_append_dropWhile (p := Text.isWhiteSpace)
    (l := tag.toList.takeWhile (· ≠ '-'))
  rw [← isKept] at part
  rw [← part] at whole
  refine ⟨(tag.toList.takeWhile (· ≠ '-')).takeWhile Text.isWhiteSpace,
    more ++ tag.toList.dropWhile (· ≠ '-'), ?_, ?_⟩
  · rw [← List.cons_append, ← List.cons_append, ← List.append_assoc]
    exact whole.symm
  · exact fun character member => List.mem_takeWhile_imp member

theorem ofText_injective : Function.Injective ofText := by
  intro first second same
  have encoded := encode_eq_some_iff.mpr same
  rw [encode_eq_some_iff.mpr rfl] at encoded
  exact Option.some.inj encoded

variable {lowercase : Lowercasing} {sentence : String}

theorem mem_of_selected {tag : List CodePoint}
    (selected : Persona.sentenceFor lowercase (some tag) = some sentence) :
    ∃ language, (language, sentence) ∈ sentences ∧
      ofText language = Persona.primarySubtag lowercase tag := by
  unfold Persona.sentenceFor at selected
  cases tag with
  | nil => cases selected
  | cons point rest =>
    obtain ⟨⟨language, text⟩, isFound, rfl⟩ := Option.map_eq_some_iff.mp selected
    exact ⟨language, List.mem_of_find?_eq_some isFound,
      of_decide_eq_true (List.find?_some isFound :)⟩

theorem sentenceFor_agree {tag first second : String}
    (selected : Persona.sentenceFor lowercase (some (ofText tag)) = some first)
    (found : Approval.sentenceFor tag = some second) : first = second := by
  have member := mem_sentences_of_sentenceFor found
  obtain ⟨language, selectedMember, isLanguage⟩ := mem_of_selected selected
  obtain ⟨one, two, isPair, oneLetter, twoLetter⟩ := letters_of_mem member
  unfold Text.toAsciiLowercase at isPair
  rw [String.toList_ofList] at isPair
  obtain ⟨before, after, isSubtag, rfl, rfl⟩ : ∃ before after,
      (primarySubtag tag).toList = [before, after] ∧ before.toLower = one ∧
        after.toLower = two := by
    obtain ⟨before, rest, isSubtag, isBefore, isRest⟩ := List.map_eq_cons_iff.mp isPair
    obtain ⟨after, others, rfl, isAfter, isNil⟩ := List.map_eq_cons_iff.mp isRest
    rw [List.map_eq_nil_iff.mp isNil] at isSubtag
    exact ⟨before, after, isSubtag, isBefore, isAfter⟩
  obtain ⟨white, rest, isTag, isWhite⟩ := exists_letters_of_primarySubtag isSubtag
  have leads := letters_prefix lowercase rest isWhite ⟨oneLetter, twoLetter⟩
  rw [← isTag] at leads
  change _ <+: Persona.primarySubtag lowercase (ofText tag) at leads
  rw [← isLanguage] at leads
  -- A tag of the contract's has two letters, and these are they.
  have same : ofText language = ofText (Text.toAsciiLowercase (primarySubtag tag)) := by
    obtain ⟨_, _, isOther, -, -⟩ := letters_of_mem selectedMember
    have short : (ofText language).length = 2 := by
      unfold ofText
      rw [isOther]
      rfl
    rw [← List.IsPrefix.eq_of_length leads short.symm]
    unfold ofText Text.toAsciiLowercase
    rw [String.toList_ofList, isSubtag]
    rfl
  rw [ofText_injective same] at selectedMember
  exact sentence_unique selectedMember member

/-! ### The document -/

section Document

variable {personaId source time expiresAt sentence : String} {trigger event : Json}
  {suggestion : Persona.Suggestion} {attempt : Int}

theorem optionalMember_of_ne {name text : String} (isSome : text ≠ "") :
    optionalMember name (some text) = [(name, .string text)] := by
  unfold optionalMember
  rw [stated_eq_some_iff.mpr ⟨rfl, isSome⟩]

theorem names_optionalMember (name : String) (value : Option String) :
    (optionalMember name value).map Prod.fst ⊆ [name] := by
  unfold optionalMember
  split <;> simp

theorem names_contextOf (trigger : Json) (suggestion : Persona.Suggestion) :
    (contextOf trigger suggestion).map Prod.fst ⊆ ["context"] := by
  unfold contextOf
  split <;> simp

theorem read_suggestData (personaId : String) (trigger : Json) (attempt : Int)
    (hasExpiry : expiresAt ≠ "")
    (hasSentence : sentence ≠ "") (isDisclosed : suggestion.disclosure = some sentence) :
    ∃ data, suggestData personaId trigger suggestion attempt (some expiresAt) = data ∧
      text data "persona_id" = some personaId ∧
      data.get? "suggestion" =
        some (.object [("body", .string (capChars suggestion.body Persona.maxBodyChars)),
          ("format", .string suggestion.format)]) ∧
      optionalText data "disclosure" = some (some sentence) ∧
      optionalText data "expires_at" = some (some expiresAt) := by
  refine ⟨_, rfl, ?_⟩
  have context := names_contextOf trigger suggestion
  have rationale := names_optionalMember "rationale"
    ((stated suggestion.rationale).map (capChars · maxRationaleChars))
  unfold suggestData text optionalText
  rw [isDisclosed, optionalMember_of_ne hasExpiry, optionalMember_of_ne hasSentence]
  refine ⟨by simp, by simp [Json.get?, Json.lookup], ?_, ?_⟩
  all_goals
    rw [List.append_assoc, Json.get?_object_append_of_notMem]
    · simp [Json.get?, Json.lookup]
    · rw [List.map_append, List.map_append, List.map_append]
      intro member
      rcases List.mem_append.mp member with member | member
      · rcases List.mem_append.mp member with member | member
        · rcases List.mem_append.mp member with member | member
          · simp at member
          · have named := context member
            simp at named
        · split at member <;> simp at member
      · have named := rationale member
        simp at named

theorem read_of_members {document data : Json} {read : SuggestionDocument}
    (id : text document "id" = some read.id) (source : text document "source" = some read.source)
    (subject : text document "subject" = some read.subject)
    (network : text document "network" = some read.network)
    (connection : optionalText document "connection" = some read.connection)
    (consent : text document "consent" = some read.consent)
    (traceparent : optionalText document "traceparent" = some read.traceparent)
    (isData : document.get? "data" = some data)
    (persona : text data "persona_id" = some read.personaId)
    (suggestion : data.get? "suggestion" =
      some (.object [("body", .string read.body), ("format", .string read.format)]))
    (disclosure : optionalText data "disclosure" = some read.disclosure)
    (expiresAt : optionalText data "expires_at" = some read.expiresAt) :
    SuggestionDocument.read document = some read := by
  simp only [SuggestionDocument.read, id, source, subject, network, connection, consent,
    traceparent, isData, persona, suggestion, disclosure, expiresAt, Option.bind_eq_bind,
    Option.bind_some]
  simp [text, Json.get?, Json.lookup]

theorem read_suggestEvent (hasExpiry : expiresAt ≠ "") (hasSentence : sentence ≠ "")
    (isDisclosed : suggestion.disclosure = some sentence)
    (built : suggestEvent personaId source trigger suggestion attempt time (some expiresAt) =
      .ok event) :
    ∃ network connection consent, attributeOf trigger "network" = some network ∧
      attributeOf trigger "connection" = some connection ∧
      attributeOf trigger "consent" = some consent ∧
      SuggestionDocument.read event = some {
        id := suggestId personaId (eventIdOf trigger) attempt
        source := source
        subject := eventIdOf trigger
        network := network
        connection := some connection
        consent := consent
        traceparent := stated (attributeOf trigger "traceparent")
        personaId := personaId
        body := capChars suggestion.body Persona.maxBodyChars
        format := suggestion.format
        disclosure := some sentence
        expiresAt := some expiresAt } := by
  obtain ⟨data, isData, readPersona, readSuggestion, readDisclosure, readExpiry⟩ :=
    read_suggestData personaId trigger attempt hasExpiry hasSentence isDisclosed
  unfold suggestEvent baseEvent at built
  split at built
  · cases built
  · split at built
    · cases built
    · split at built
      · rename_i network consent isNetwork isConsent
        split at built
        · cases built
        · rename_i connection isConnection
          cases built
          refine ⟨network, connection, consent, (stated_eq_some_iff.mp isNetwork).1,
            (stated_eq_some_iff.mp isConnection).1, (stated_eq_some_iff.mp isConsent).1, ?_⟩
          rw [isData]
          unfold optionalMember
          cases stated (attributeOf trigger "traceparent") with
          | none =>
            refine read_of_members ?_ ?_ ?_ ?_ ?_ ?_ ?_ ?_ readPersona readSuggestion
              readDisclosure readExpiry
            all_goals simp [text, optionalText, Json.get?, Json.lookup]
          | some traceparent =>
            refine read_of_members ?_ ?_ ?_ ?_ ?_ ?_ ?_ ?_ readPersona readSuggestion
              readDisclosure readExpiry
            all_goals simp [text, optionalText, Json.get?, Json.lookup]
      · cases built

end Document

/-! ### The connection -/

variable {id : String}

theorem spelled_of_idIsValid (valid : idIsValid id = true) :
    ∀ character ∈ id.toList,
      (character.isLower || character.isDigit || character == '-') = true := by
  unfold idIsValid at valid
  cases isId : id.toList with
  | nil => simp
  | cons first rest =>
    rw [isId] at valid
    simp only [Bool.and_eq_true] at valid
    refine List.forall_mem_cons.mpr ⟨?_, List.all_eq_true.mp valid.2⟩
    rw [valid.1.1]
    rfl

theorem visible_of_idIsValid (valid : idIsValid id = true) :
    ∀ character ∈ id.toList, Text.isWhiteSpace character = false := by
  have visible : ∀ character : Char,
      (character.isLower || character.isDigit || character == '-') = true →
      Text.isWhiteSpace character = false := by
    intro character allowed
    rw [Bool.or_eq_true, Bool.or_eq_true] at allowed
    have bounds : 45 ≤ character.toNat ∧ character.toNat ≤ 122 := by
      rcases allowed with (lower | digit) | hyphen
      · unfold Char.isLower at lower
        rw [Bool.and_eq_true, decide_eq_true_eq, decide_eq_true_eq] at lower
        exact ⟨Nat.le_trans (by decide) (UInt32.le_iff_toNat_le.mp lower.1),
          UInt32.le_iff_toNat_le.mp lower.2⟩
      · unfold Char.isDigit at digit
        rw [Bool.and_eq_true, decide_eq_true_eq, decide_eq_true_eq] at digit
        exact ⟨Nat.le_trans (by decide) (UInt32.le_iff_toNat_le.mp digit.1),
          Nat.le_trans (UInt32.le_iff_toNat_le.mp digit.2) (by decide)⟩
      · rw [eq_of_beq hyphen]
        decide
    unfold Text.isWhiteSpace
    simp only [Bool.or_eq_false_iff, Bool.and_eq_false_iff, decide_eq_false_iff_not,
      beq_eq_false_iff_ne]
    omega
  exact fun character member => visible character (spelled_of_idIsValid valid character member)

variable {connection : Connection}

theorem resolve_of_mem {registry : Registry} (member : connection ∈ registry.connections)
    (kind : String) :
    registry.resolve (some connection.id) kind = .ok connection := by
  have valid := registry.idsValid connection member
  unfold Registry.resolve
  rw [Option.map_some, Text.trim_of_visible (visible_of_idIsValid valid), Option.filter_some,
    if_pos (bne_iff_ne.mpr (ne_empty_of_idIsValid valid))]
  dsimp only
  rw [Registry.get_of_mem member]

/-! ### The expiry -/

/-- `rfc3339_millis`: an instant of the Gateway's clock, in nanoseconds from the epoch, to the
millisecond. -/
def rfc3339Millis (now : Int) : String :=
  if Rfc3339.Writable now then Rfc3339.write (now / 1000000 * 1000000) else ""

theorem hasPassed_of_read {instant : String → Option Int} {expiresAt now : String}
    {expiry clock : Int} (isExpiry : instant expiresAt = some expiry)
    (isClock : instant now = some clock) :
    hasPassed instant expiresAt now = decide (expiry ≤ clock) := by
  unfold hasPassed
  rw [isExpiry, isClock]

theorem read_rfc3339 {moment : Nat} (inTime : moment < pastTheLastYear) :
    Rfc3339.read (Persona.rfc3339 moment) =
      some ((moment / 1000000 * 1000000000 : Nat) : Int) := by
  refine Rfc3339.read_write ?_
  unfold pastTheLastYear at inTime
  unfold Rfc3339.Writable Rfc3339.firstDay Rfc3339.lastDay
  omega

theorem read_rfc3339Millis {now : Int} (writable : Rfc3339.Writable now) :
    Rfc3339.read (rfc3339Millis now) = some (now / 1000000 * 1000000) := by
  unfold rfc3339Millis
  rw [if_pos writable]
  refine Rfc3339.read_write ?_
  unfold Rfc3339.Writable Rfc3339.firstDay Rfc3339.lastDay at *
  omega

theorem hasPassed_iff {moment : Nat} (inTime : moment < pastTheLastYear) {now : Int}
    (writable : Rfc3339.Writable now) :
    hasPassed Rfc3339.read (Persona.rfc3339 moment) (rfc3339Millis now) = true ↔
      ((moment / 1000000 * 1000000000 : Nat) : Int) ≤ now := by
  rw [hasPassed_of_read (read_rfc3339 inTime) (read_rfc3339Millis writable), decide_eq_true_eq]
  omega

theorem rfc3339_ne_empty (moment : Nat) : Persona.rfc3339 moment ≠ "" := by
  intro isEmpty
  have nothing := congrArg String.toList isEmpty
  unfold Persona.rfc3339 Rfc3339.write Rfc3339.written at nothing
  rw [String.toList_ofList] at nothing
  simp at nothing

/-! ### What is published -/

theorem of_expiresAt {policy : SuggestionPolicy} {producedAt : Nat} {expiresAt : String}
    (isExpiry : policy.expiresAt producedAt = some expiresAt) :
    producedAt + policy.ttlSeconds * 1000000 < pastTheLastYear ∧
      expiresAt = Persona.rfc3339 (producedAt + policy.ttlSeconds * 1000000) := by
  unfold SuggestionPolicy.expiresAt at isExpiry
  generalize producedAt + policy.ttlSeconds * 1000000 = moment at isExpiry ⊢
  obtain ⟨inTime, same⟩ := Option.ite_none_right_eq_some.mp isExpiry
  exact ⟨inTime, (Option.some.inj same).symm⟩

/-- What a publication is made of. -/
theorem publishes_eq_ok {policy : SuggestionPolicy} {personaId source : String}
    {trigger event : Json} {proposed : Proposed}
    {answered : Except String (Option (List CodePoint))} {producedAt : Nat}
    (published : publishes lowercase policy personaId source trigger proposed answered
      producedAt = .ok event) :
    ∃ language sentence expiresAt suggestion, languageOf proposed answered = .ok language ∧
      Persona.sentenceFor lowercase language = some sentence ∧
      policy.expiresAt producedAt = some expiresAt ∧
      proposed.encoded sentence = some suggestion ∧
      suggestEvent personaId source trigger suggestion firstAttempt (rfc3339 producedAt)
        (some expiresAt) = .ok event := by
  obtain ⟨sentence, isDisclosed, published⟩ := bind_eq_ok.mp published
  obtain ⟨language, isLanguage, isDisclosed⟩ := bind_eq_ok.mp isDisclosed
  cases selected : Persona.sentenceFor lowercase language with
  | none =>
    rw [selected] at isDisclosed
    cases isDisclosed
  | some other =>
    rw [selected] at isDisclosed
    cases isDisclosed
    cases isExpiry : policy.expiresAt producedAt with
    | none =>
      rw [isExpiry] at published
      cases published
    | some expiresAt =>
      rw [isExpiry] at published
      dsimp only at published
      cases isEncoded : proposed.encoded sentence with
      | none =>
        rw [isEncoded] at published
        cases published
      | some suggestion =>
        rw [isEncoded] at published
        dsimp only at published
        refine ⟨language, sentence, expiresAt, suggestion, isLanguage, selected, rfl, isEncoded, ?_⟩
        cases built : suggestEvent personaId source trigger suggestion firstAttempt
            (rfc3339 producedAt) (some expiresAt) with
        | error refusal =>
          rw [built] at published
          cases published
        | ok document =>
          rw [built] at published
          cases published
          rfl

theorem of_encoded {proposed : Proposed} {suggestion : Persona.Suggestion}
    (encoded : proposed.encoded sentence = some suggestion) :
    encode (proposed.body.take Persona.maxBodyChars) = some suggestion.body ∧
      suggestion.format = proposed.format ∧ suggestion.disclosure = some sentence := by
  obtain ⟨body, isBody, encoded⟩ := Option.bind_eq_some_iff.mp encoded
  obtain ⟨rationale, -, encoded⟩ := Option.bind_eq_some_iff.mp encoded
  obtain ⟨context, -, encoded⟩ := Option.bind_eq_some_iff.mp encoded
  cases encoded
  exact ⟨isBody, rfl, rfl⟩

theorem capChars_of_encoded {points : List CodePoint} {body : String}
    (encoded : encode (points.take Persona.maxBodyChars) = some body) :
    capChars body Persona.maxBodyChars = body := by
  unfold capChars
  rw [List.take_of_length_le (length_of_encode_take encoded), String.ofList_toList]

theorem exists_format {format : String} (known : format ∈ suggestionFormats) :
    ∃ parsed : Format, Format.parse format = some parsed ∧ parsed.asStr = format := by
  have each : ∀ other ∈ suggestionFormats, ∃ parsed : Format, parsed.asStr = other := by
    unfold suggestionFormats
    simp only [List.forall_mem_cons]
    exact ⟨⟨.plain, rfl⟩, ⟨.markdown, rfl⟩, ⟨.html, rfl⟩, List.forall_mem_nil _⟩
  obtain ⟨parsed, rfl⟩ := each format known
  exact ⟨parsed, Format.parse_asStr parsed, rfl⟩

theorem parse_label (label : State) : State.parse label.asStr = some label := by
  cases label <;> rfl

theorem suggestId_eq (personaId triggerEventId : String) :
    suggestId personaId triggerEventId firstAttempt =
      (HermesAnswer.Reference.mk personaId triggerEventId 1).suggestionEventId := by
  unfold suggestId deterministicId HermesAnswer.Reference.suggestionEventId
  congr 1

/-! ### The law -/

structure OfContract (registry : Registry) (trigger : Json) : Prop where
  network : ∃ network : Network, attributeOf trigger "network" = some network.asStr
  consent : ∃ label : State, attributeOf trigger "consent" = some label.asStr
  connection : ∃ connection ∈ registry.connections,
    attributeOf trigger "connection" = some connection.id

def FirstDelivered (approvals : Approvals) (upTo : Option Nat) (id : String) (event : Json)
    (sequence : Nat) : Prop :=
  ∃ before message after,
    Shown.delivered upTo (Shown.showing approvals).windowed = before ++ message :: after ∧
      message.payload.payload = event ∧ message.position = sequence ∧
      ∀ other ∈ before, ∀ document,
        SuggestionDocument.read other.payload.payload = some document → document.id ≠ id

/-- A suggestion as the Gateway holds it, read back from what a persona published of a proposal in
a language at an instant: under the id the Gateway computes, with what was copied from the
message, the text as it was cut, the contract's sentence of the language with room for it, and
stale from its last second on. -/
structure ReadBack (lowercase : Lowercasing) (policy : SuggestionPolicy) (personaId : String)
    (trigger : Json) (proposed : Proposed) (language : Option (List CodePoint))
    (producedAt : Nat) (suggestion : Suggestion) : Prop where
  id : suggestion.eventId =
    (HermesAnswer.Reference.mk personaId (eventIdOf trigger) 1).suggestionEventId
  answers : suggestion.personaId = personaId ∧ suggestion.triggerEventId = eventIdOf trigger
  copied : attributeOf trigger "network" = some suggestion.network.asStr ∧
    attributeOf trigger "connection" = some suggestion.connection ∧
    attributeOf trigger "consent" = some suggestion.consentLabel.asStr
  content : encode (proposed.body.take Persona.maxBodyChars) = some suggestion.suggestion.body ∧
    suggestion.suggestion.format.asStr = proposed.format
  disclosed : ∃ sentence, suggestion.disclosure = some sentence ∧
    Persona.sentenceFor lowercase language = some sentence ∧
    (∀ tag other, language = some (ofText tag) → Approval.sentenceFor tag = some other →
      other = sentence) ∧
    fitsWithDisclosure suggestion.suggestion.body sentence = true
  expires : ∃ expiresAt, suggestion.expiresAt = some expiresAt ∧
    ∀ now, Rfc3339.Writable now →
      (hasPassed Rfc3339.read expiresAt (rfc3339Millis now) = true ↔
        (((producedAt / 1000000 + policy.ttlSeconds) * 1000000000 : Nat) : Int) ≤ now)

variable {document : SuggestionDocument}

theorem findSuggestion_of_first {approvals : Approvals} {upTo : Option Nat} {event : Json}
    {sequence : Nat} {suggestion : Suggestion}
    (first : FirstDelivered approvals upTo id event sequence)
    (isRead : SuggestionDocument.read event = some document) (named : document.id = id)
    (accepted : approvals.suggestionOf document sequence = .ok suggestion) :
    approvals.findSuggestion (.delivers upTo) id = .ok suggestion := by
  obtain ⟨before, message, after, isDelivered, rfl, rfl, others⟩ := first
  refine (Shown.findSuggestion_eq_ok_iff approvals).mpr
    ⟨upTo, (document, message.position), rfl, ?_, accepted⟩
  have isEntry : Shown.lookedUpOf message = some (document, message.position) := by
    unfold Shown.lookedUpOf
    rw [isRead]
    rfl
  unfold Shown.lookedUp
  rw [isDelivered, List.filterMap_append, List.filterMap_cons_some isEntry, List.find?_append]
  have unlike : (before.filterMap Shown.lookedUpOf).find? (fun entry => entry.1.id == id) =
      none := by
    refine List.find?_eq_none.mpr fun entry member isNamed => ?_
    obtain ⟨other, isOther, isEntry⟩ := List.mem_filterMap.mp member
    obtain ⟨document, isRead, rfl⟩ := Option.map_eq_some_iff.mp isEntry
    exact others other isOther document isRead (eq_of_beq isNamed)
  rw [unlike, List.find?_cons_of_pos (by rw [named]; exact beq_self_eq_true id)]
  rfl

theorem suggestionOf_of_parsed {approvals : Approvals} {network : Network} {label : State}
    {format : Format} (isNetwork : document.network = network.asStr)
    (isConsent : document.consent = label.asStr) (isFormat : Format.parse document.format = format)
    (isConnection : document.connection = some connection.id)
    (registered : connection ∈ approvals.connections.connections)
    (isDisclosed : document.disclosure = some sentence)
    (ofContract : isContractSentence sentence = true) (sequence : Nat) :
    approvals.suggestionOf document sequence = .ok {
      eventId := document.id
      source := document.source
      personaId := document.personaId
      triggerEventId := document.subject
      network := network
      connection := connection.id
      consentLabel := label
      suggestion := ⟨document.body, format⟩
      disclosure := some sentence
      expiresAt := document.expiresAt
      traceparent := document.traceparent
      streamSequence := sequence } := by
  refine bind_eq_ok.mpr ⟨network, by rw [isNetwork, Network.parse_asStr]; rfl, ?_⟩
  refine bind_eq_ok.mpr ⟨label, by rw [isConsent, parse_label]; rfl, ?_⟩
  refine bind_eq_ok.mpr ⟨format, by rw [isFormat]; rfl, ?_⟩
  refine bind_eq_ok.mpr ⟨connection.id, ?_, ?_⟩
  · unfold connectionOf
    rw [isConnection, resolve_of_mem registered]
  · exact bind_eq_ok.mpr ⟨some sentence, by rw [isDisclosed]; exact if_pos ofContract, rfl⟩

/-- Everything a persona publishes of what its handler proposes, the Gateway reads back. -/
theorem published_read_back {lowercase : Lowercasing} {policy : SuggestionPolicy}
    {personaId source : String} {trigger event : Json} {proposed : Proposed}
    {answered : Except String (Option (List CodePoint))} {producedAt : Nat}
    {approvals : Approvals} {upTo : Option Nat} {sequence : Nat}
    (contract : OfContract approvals.connections trigger)
    (published : publishes lowercase policy personaId source trigger proposed answered
      producedAt = .ok event)
    (first : FirstDelivered approvals upTo
      (suggestId personaId (eventIdOf trigger) firstAttempt) event sequence) :
    ∃ language suggestion, languageOf proposed answered = .ok language ∧
      approvals.findSuggestion (.delivers upTo)
        (suggestId personaId (eventIdOf trigger) firstAttempt) = .ok suggestion ∧
      ReadBack lowercase policy personaId trigger proposed language producedAt suggestion := by
  obtain ⟨language, sentence, expiresAt, texts, isLanguage, selected, isExpiry, isEncoded, built⟩ :=
    publishes_eq_ok published
  obtain ⟨inTime, rfl⟩ := of_expiresAt isExpiry
  obtain ⟨isBody, sameFormat, isDisclosed⟩ := of_encoded isEncoded
  obtain ⟨tag, isTag⟩ : ∃ tag, language = some tag := by
    cases language with
    | none => cases selected
    | some tag => exact ⟨tag, rfl⟩
  rw [isTag] at selected
  obtain ⟨subtag, isSentence, -⟩ := mem_of_selected selected
  have hasSentence : sentence ≠ "" := by
    have each : ∀ other ∈ sentences, other.2 ≠ "" := by
      unfold sentences
      simp
    exact each _ isSentence
  obtain ⟨network, connection, consent, isNetwork, isConnection, isConsent, isRead⟩ :=
    read_suggestEvent (rfc3339_ne_empty _) hasSentence isDisclosed built
  obtain ⟨kind, isKind⟩ := contract.network
  obtain ⟨label, isLabel⟩ := contract.consent
  obtain ⟨registered, isRegistered, isId⟩ := contract.connection
  obtain ⟨format, parsed, isFormat⟩ := exists_format proposed.formatKnown
  cases isNetwork.symm.trans isKind
  cases isConsent.symm.trans isLabel
  cases isConnection.symm.trans isId
  rw [capChars_of_encoded isBody, sameFormat] at isRead
  have accepted := findSuggestion_of_first first isRead rfl
    (suggestionOf_of_parsed rfl rfl parsed rfl isRegistered rfl
      (isContractSentence_of_mem isSentence) sequence)
  refine ⟨language, _, isLanguage, accepted, ?_⟩
  exact {
    id := suggestId_eq personaId (eventIdOf trigger)
    answers := ⟨rfl, rfl⟩
    copied := ⟨isNetwork, isConnection, isConsent⟩
    content := ⟨isBody, isFormat⟩
    disclosed := by
      refine ⟨sentence, rfl, by rw [isTag]; exact selected, ?_, ?_⟩
      · rintro text other isText found
        rw [isTag] at isText
        cases isText
        exact (sentenceFor_agree selected found).symm
      · exact fitsWithDisclosure_of_le (length_of_encode_take isBody) isSentence
    expires := by
      refine ⟨_, rfl, fun now writable => ?_⟩
      rw [hasPassed_iff inTime writable,
        Nat.add_mul_div_right producedAt policy.ttlSeconds (show 0 < 1000000 by decide)] }

namespace OneProposal

theorem lower_ascii (front back : List CodePoint) (_ : ∀ point ∈ front, point.val < 128) :
    front.map asciiLower <+: (front ++ back).map asciiLower := by
  rw [List.map_append]
  exact List.prefix_append _ _

def asciiLowercasing : Lowercasing where
  lower := List.map asciiLower
  ascii := lower_ascii

def message : Json :=
  .object [("id", .string OneDraft.triggerId),
    ("type", .string "fr.linagora.twalk.inbound.message.received.v1"),
    ("network", .string "whatsapp"), ("connection", .string "whatsapp"),
    ("consent", .string "granted")]

theorem plain_known : "text/plain" ∈ suggestionFormats := List.mem_cons_self

/-- A reply in the French of Canada. -/
def proposed : Proposed where
  body := ofText "Oui."
  format := "text/plain"
  confidence := none
  rationale := none
  language := some (ofText "fr_CA")
  disclosure := none
  context := none
  formatKnown := plain_known
  disclosureKnown := nofun

/-- A window of an hour. -/
def policy : SuggestionPolicy := ⟨3600, by decide⟩

def producedAt : Nat := 1790942400123456

theorem selected : Persona.sentenceFor asciiLowercasing (some (ofText "fr_CA")) =
    some "Rédigé avec mon assistant IA." := by
  decide

theorem encoded : proposed.encoded "Rédigé avec mon assistant IA." =
    some ⟨"Oui.", "text/plain", none, none, some "Rédigé avec mon assistant IA.", none⟩ := by
  have short : (ofText "Oui.").take Persona.maxBodyChars = ofText "Oui." :=
    List.take_of_length_le (by decide)
  unfold Proposed.encoded proposed
  dsimp only
  rw [short, encode_eq_some_iff.mpr rfl]
  rfl

theorem exists_suggestEvent (suggestion : Persona.Suggestion) (time : String)
    (expiresAt : Option String) :
    ∃ event, suggestEvent "assistant" "hermes://example.org/personas/assistant" message suggestion
      firstAttempt time expiresAt = .ok event :=
  ⟨_, rfl⟩

def gateway (event : Json) : Approvals :=
  { OneDraft.gateway message event with lookupWindow := 10 }

theorem published_read_back_of_proposal : ∃ event suggestion,
    publishes asciiLowercasing policy "assistant" "hermes://example.org/personas/assistant" message
        proposed (.ok none) producedAt = .ok event ∧
      (gateway event).findSuggestion (.delivers none)
        (suggestId "assistant" OneDraft.triggerId firstAttempt) = .ok suggestion ∧
      ReadBack asciiLowercasing policy "assistant" message proposed (some (ofText "fr_CA"))
        producedAt suggestion := by
  have inTime : policy.expiresAt producedAt =
      some (rfc3339 (producedAt + policy.ttlSeconds * 1000000)) := by
    have soon : producedAt + policy.ttlSeconds * 1000000 < pastTheLastYear := by
      unfold producedAt policy pastTheLastYear
      norm_num only
    unfold SuggestionPolicy.expiresAt
    dsimp only
    rw [if_pos soon]
  obtain ⟨event, built⟩ := exists_suggestEvent
    ⟨"Oui.", "text/plain", none, none, some "Rédigé avec mon assistant IA.", none⟩
    (rfc3339 producedAt) (some (rfc3339 (producedAt + policy.ttlSeconds * 1000000)))
  have published : publishes asciiLowercasing policy "assistant"
      "hermes://example.org/personas/assistant" message proposed (.ok none) producedAt =
        .ok event := by
    refine bind_eq_ok.mpr ⟨"Rédigé avec mon assistant IA.", ?_, ?_⟩
    · exact bind_eq_ok.mpr ⟨some (ofText "fr_CA"), rfl, by rw [selected]; rfl⟩
    · rw [inTime]
      dsimp only
      rw [encoded]
      dsimp only
      rw [built]
      rfl
  have contract : OfContract (gateway event).connections message :=
    ⟨⟨.whatsapp, rfl⟩, ⟨.granted, rfl⟩, ⟨OneDraft.whatsapp, List.mem_cons_self, rfl⟩⟩
  have first : FirstDelivered (gateway event) none
      (suggestId "assistant" (eventIdOf message) firstAttempt) event 2 :=
    ⟨[], _, [], rfl, rfl, rfl, fun _ member => absurd member List.not_mem_nil⟩
  obtain ⟨language, suggestion, isLanguage, found, readBack⟩ :=
    published_read_back contract published first
  cases isLanguage
  exact ⟨event, suggestion, published, found, readBack⟩

end OneProposal

end Twalk.Approval
