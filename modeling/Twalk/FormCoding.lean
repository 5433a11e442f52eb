/-
This file is the collector's form coding: how pairs are written into a query, and how the query
of a pasted callback is read.

What is written reads back as it was. The reader slices two bytes behind every percent sign, and
a slice that ends inside a character does not return: a pasted text is read exactly where no
percent sign stands so close in front of a character of several bytes.
-/

import Mathlib.Data.String.Basic
import Twalk.Library.Fallible
import Twalk.Library.Percent
import Twalk.Library.SortedMap
import Twalk.Library.Text

namespace Twalk.Oidc

open Utf8

/-! ### Writing a form -/

def isUnreserved (byte : UInt8) : Bool :=
  let code := byte.toNat
  (65 ≤ code && code ≤ 90) || (97 ≤ code && code ≤ 122) || (48 ≤ code && code ≤ 57) ||
    code == 45 || code == 95 || code == 46 || code == 126

def encodeByte (byte : UInt8) : List Char :=
  if isUnreserved byte then [Char.ofNat byte.toNat] else Percent.escaped byte

def percentEncode (value : String) : String :=
  String.ofList ((bytesOf value.toList).flatMap encodeByte)

/-- Pairs as `application/x-www-form-urlencoded`. -/
def form (pairs : List (String × String)) : String :=
  "&".intercalate (pairs.map fun pair => percentEncode pair.1 ++ "=" ++ percentEncode pair.2)

/-! ### Reading a form -/

/-- What a program that is wrong about a text does. -/
inductive Panic where
  | notACharBoundary
deriving DecidableEq, Repr

/-- The byte `+`. -/
def plus : UInt8 := 43

/-- The byte `%`. -/
def percent : UInt8 := 37

def decodeBytes : List UInt8 → Except Panic (List UInt8)
  | [] => .ok []
  | byte :: rest =>
    if byte = plus then
      (decodeBytes rest).map (32 :: ·)
    else if byte = percent then
      match rest with
      | first :: second :: back =>
        if isBoundary (first :: second :: back) ∧ isBoundary back then
          match Percent.fromHex first second with
          | some decoded => (decodeBytes back).map (decoded :: ·)
          | none => (decodeBytes (first :: second :: back)).map (percent :: ·)
        else
          .error .notACharBoundary
      | short => (decodeBytes short).map (percent :: ·)
    else
      (decodeBytes rest).map (byte :: ·)

def percentDecode (value : String) : Except Panic String :=
  (decodeBytes (bytesOf value.toList)).map fun bytes => String.ofList (lossy bytes)

def decodePair (pair : String) : Except Panic (String × String) :=
  let halves := (Text.splitOnce '=' pair).getD (pair, "")
  (percentDecode halves.1).bind fun key =>
    (percentDecode halves.2).map fun value => (key, value)

def parseForm (query : String) : Except Panic (SortedMap String String) :=
  (((Text.split '&' query).filter fun pair => pair != "").mapM decodePair).map SortedMap.ofList

/-! ### Decoding byte by byte -/

theorem decodeBytes_plus (rest : List UInt8) :
    decodeBytes (plus :: rest) = (decodeBytes rest).map (32 :: ·) := by
  rw [decodeBytes.eq_def]
  exact if_pos rfl

variable {byte : UInt8}

theorem decodeBytes_cons (noPlus : byte ≠ plus) (noPercent : byte ≠ percent) (rest : List UInt8) :
    decodeBytes (byte :: rest) = (decodeBytes rest).map (byte :: ·) := by
  rw [decodeBytes.eq_def]
  exact (if_neg noPlus).trans (if_neg noPercent)

theorem decodeBytes_append {front : List UInt8}
    (plain : ∀ byte ∈ front, byte ≠ plus ∧ byte ≠ percent) (rest : List UInt8) :
    decodeBytes (front ++ rest) = (decodeBytes rest).map (front ++ ·) := by
  induction front with
  | nil =>
    rw [List.nil_append]
    cases decodeBytes rest <;> rfl
  | cons byte others inductionHypothesis =>
    obtain ⟨⟨noPlus, noPercent⟩, later⟩ := List.forall_mem_cons.mp plain
    rw [List.cons_append, decodeBytes_cons noPlus noPercent, inductionHypothesis later]
    cases decodeBytes rest <;> rfl

variable {back : List UInt8}

theorem decodeBytes_escape {first second byte : UInt8}
    (boundary : isBoundary (first :: second :: back) = true) (ends : isBoundary back = true)
    (parses : Percent.fromHex first second = some byte) :
    decodeBytes (percent :: first :: second :: back) = (decodeBytes back).map (byte :: ·) := by
  rw [decodeBytes.eq_def]
  dsimp only
  rw [if_neg (by decide), if_pos rfl, if_pos ⟨boundary, ends⟩, parses]

theorem decodeBytes_percent {first second : UInt8}
    (boundary : isBoundary (first :: second :: back) = true) (ends : isBoundary back = true)
    (parses : Percent.fromHex first second = none) :
    decodeBytes (percent :: first :: second :: back) =
      (decodeBytes (first :: second :: back)).map (percent :: ·) := by
  rw [decodeBytes.eq_def]
  dsimp only
  rw [if_neg (by decide), if_pos rfl, if_pos ⟨boundary, ends⟩, parses]

theorem decodeBytes_inside {first second : UInt8} (inside : isBoundary back = false) :
    decodeBytes (percent :: first :: second :: back) = .error .notACharBoundary := by
  rw [decodeBytes.eq_def]
  dsimp only
  rw [if_neg (by decide), if_pos rfl, if_neg]
  rintro ⟨_, ends⟩
  exact Bool.false_ne_true (inside.symm.trans ends)

/-! ### What is written reads back -/

theorem bytesOf_encodeByte (byte : UInt8) (rest : List UInt8) (boundary : isBoundary rest = true) :
    decodeBytes (bytesOf (encodeByte byte) ++ rest) = (decodeBytes rest).map (byte :: ·) := by
  unfold encodeByte
  by_cases unreserved : isUnreserved byte = true
  · have each : ∀ code < 256, isUnreserved (UInt8.ofNat code) = true →
        bytesOf [Char.ofNat code] = [UInt8.ofNat code] ∧
          UInt8.ofNat code ≠ plus ∧ UInt8.ofNat code ≠ percent := by
      decide +kernel
    have isPlain := each byte.toNat byte.toNat_lt
    rw [UInt8.ofNat_toNat] at isPlain
    obtain ⟨isByte, noPlus, noPercent⟩ := isPlain unreserved
    rw [if_pos unreserved, isByte]
    exact decodeBytes_cons noPlus noPercent rest
  · obtain ⟨first, second, isEscaped, isRead⟩ := Percent.ofDigits_escaped byte
    rw [if_neg unreserved, isEscaped]
    have parses := Percent.fromHex_of_ofDigits isRead
    refine decodeBytes_escape ?_ boundary parses
    have isAscii := (Percent.lt_of_fromHex parses).1
    simp [isBoundary, isContinuation, UInt8.not_le.mpr isAscii]

theorem decodeBytes_encoded (bytes : List UInt8) :
    decodeBytes (bytesOf (bytes.flatMap encodeByte)) = .ok bytes := by
  induction bytes with
  | nil => rfl
  | cons byte rest inductionHypothesis =>
    rw [List.flatMap_cons, bytesOf_append,
      bytesOf_encodeByte byte _ (isBoundary_bytesOf _), inductionHypothesis]
    rfl

theorem percentDecode_percentEncode (value : String) :
    percentDecode (percentEncode value) = .ok value := by
  unfold percentDecode percentEncode
  rw [String.toList_ofList, decodeBytes_encoded]
  show Except.ok (String.ofList (lossy (bytesOf value.toList))) = _
  rw [lossy_bytesOf, String.ofList_toList]

theorem encodeByte_ne {character separator : Char} (member : character ∈ encodeByte byte)
    (isSeparator : separator = '&' ∨ separator = '=') :
    character ≠ separator := by
  have each : ∀ code < 256, ((encodeByte (UInt8.ofNat code)).all fun character =>
      character != '&' && character != '=') = true := by decide +kernel
  have apart := each byte.toNat byte.toNat_lt
  rw [UInt8.ofNat_toNat] at apart
  obtain ⟨notAnd, notEqual⟩ := (Bool.and_eq_true ..).mp (List.all_eq_true.mp apart character member)
  rcases isSeparator with rfl | rfl
  · exact bne_iff_ne.mp notAnd
  · exact bne_iff_ne.mp notEqual

theorem notMem_percentEncode {value : String} {separator : Char}
    (isSeparator : separator = '&' ∨ separator = '=') :
    separator ∉ (percentEncode value).toList := by
  unfold percentEncode
  rw [String.toList_ofList]
  intro member
  obtain ⟨byte, _, inEncoded⟩ := List.mem_flatMap.mp member
  exact encodeByte_ne inEncoded isSeparator rfl

def written (pair : String × String) : String :=
  percentEncode pair.1 ++ "=" ++ percentEncode pair.2

theorem toList_written (pair : String × String) :
    (written pair).toList =
      (percentEncode pair.1).toList ++ '=' :: (percentEncode pair.2).toList := by
  unfold written
  rw [String.toList_append, String.toList_append, List.append_assoc]
  rfl

theorem decodePair_written (pair : String × String) : decodePair (written pair) = .ok pair := by
  have isSplit : Text.splitOnce '=' (written pair) =
      some (percentEncode pair.1, percentEncode pair.2) := by
    have noEquals : '=' ∉ (percentEncode pair.1).toList := notMem_percentEncode (.inr rfl)
    have split := Text.splitOnce_append noEquals (percentEncode pair.2).toList
    rwa [← toList_written, String.ofList_toList, String.ofList_toList,
      String.ofList_toList] at split
  unfold decodePair
  rw [isSplit]
  dsimp only [Option.getD_some]
  rw [percentDecode_percentEncode, percentDecode_percentEncode]
  rfl

theorem split_form (pairs : List (String × String)) :
    ((Text.split '&' (form pairs)).filter fun pair => pair != "") = pairs.map written := by
  unfold Text.split form
  rw [String.toList_intercalate, List.map_map]
  cases pairs with
  | nil => rfl
  | cons pair rest =>
    have apart : ∀ piece ∈ (pair :: rest).map (String.toList ∘ written), '&' ∉ piece := by
      intro piece member
      obtain ⟨source, _, rfl⟩ := List.mem_map.mp member
      show '&' ∉ (written source).toList
      rw [toList_written, List.mem_append, List.mem_cons]
      rintro (inKey | isEquals | inValue)
      · exact notMem_percentEncode (.inl rfl) inKey
      · exact absurd isEquals (by decide)
      · exact notMem_percentEncode (.inl rfl) inValue
    have isSplit : (['&'].intercalate ((pair :: rest).map (String.toList ∘ written))).splitOn '&' =
        (pair :: rest).map (String.toList ∘ written) :=
      List.splitOn_intercalate '&' apart (by simp)
    show (((['&'].intercalate ((pair :: rest).map (String.toList ∘ written))).splitOn '&').map
      String.ofList).filter _ = _
    rw [isSplit, List.map_map]
    have whole : String.ofList ∘ String.toList ∘ written = written := by
      funext source
      exact String.ofList_toList
    rw [whole, List.filter_eq_self]
    intro text member
    obtain ⟨source, _, rfl⟩ := List.mem_map.mp member
    rw [bne_iff_ne]
    intro isEmpty
    have characters := congrArg String.toList isEmpty
    rw [toList_written] at characters
    simp at characters

theorem parseForm_form {pairs : List (String × String)} (distinct : (pairs.map Prod.fst).Nodup) :
    ∃ map, parseForm (form pairs) = .ok map ∧ ∀ pair, pair ∈ map.entries ↔ pair ∈ pairs := by
  have decoded : (pairs.map written).mapM decodePair = .ok pairs := by
    induction pairs with
    | nil => rfl
    | cons pair rest inductionHypothesis =>
      rw [List.map_cons, List.mapM_cons, decodePair_written,
        inductionHypothesis (List.nodup_cons.mp distinct).2]
      rfl
  refine ⟨SortedMap.ofList pairs, ?_, fun pair => ?_⟩
  · unfold parseForm
    rw [split_form, decoded]
    rfl
  · refine ⟨SortedMap.mem_of_mem_ofList, fun member => ?_⟩
    have isKey := SortedMap.mem_keys_ofList.mpr (List.mem_map_of_mem member)
    obtain ⟨entry, inMap, sameKey⟩ := List.mem_map.mp isKey
    have isPair := List.inj_on_of_nodup_map distinct (SortedMap.mem_of_mem_ofList inMap) member
      sameKey
    exact isPair ▸ inMap

/-! ### Where a pasted text is read -/

/-- Whether two bytes behind a percent sign end inside one of the characters that follow it. -/
def endsInside : List Char → Bool
  | [] => false
  | [first] => 2 < first.utf8Size
  | first :: second :: _ => 2 < first.utf8Size || first.utf8Size == 1 && 1 < second.utf8Size

/-- Whether a percent sign stands so in front of a character of several bytes that a slice behind
it ends inside the character. -/
def hasCut : List Char → Bool
  | [] => false
  | character :: rest => (character == '%' && endsInside rest) || hasCut rest

theorem encode_plain {character : Char} (noPlus : character ≠ '+') (noPercent : character ≠ '%') :
    ∀ byte ∈ String.utf8EncodeChar character, byte ≠ plus ∧ byte ≠ percent := fun byte member =>
  ⟨encode_ne (show '+'.toNat < 128 by decide) noPlus byte member,
    encode_ne (show '%'.toNat < 128 by decide) noPercent byte member⟩

/-- What a percent sign comes to: a slice inside a character, a byte with two characters passed
over, or the sign itself. -/
inductive AtPercent (rest : List Char) : Prop where
  | inside (ends : endsInside rest = true)
      (fails : decodeBytes (percent :: bytesOf rest) = .error .notACharBoundary)
  | escape (first second : Char) (back : List Char) (isRest : rest = first :: second :: back)
      (apart : endsInside rest = false) (noSign : first ≠ '%' ∧ second ≠ '%') (byte : UInt8)
      (decodes : decodeBytes (percent :: bytesOf rest) =
        (decodeBytes (bytesOf back)).map (byte :: ·))
  | sign (apart : endsInside rest = false)
      (decodes : decodeBytes (percent :: bytesOf rest) =
        (decodeBytes (bytesOf rest)).map (percent :: ·))

theorem decodeBytes_short {rest : List UInt8} (short : rest.length ≤ 1) :
    decodeBytes (percent :: rest) = (decodeBytes rest).map (percent :: ·) := by
  match rest, short with
  | [], _ => rfl
  | [_], _ => rfl

theorem isBoundary_of_isContinuation (continues : isContinuation byte = true) (rest : List UInt8) :
    isBoundary (byte :: rest) = false := by
  simp [isBoundary, continues]

theorem atPercent_of_wide {first : Char} (wide : 128 ≤ first.toNat) (more : List Char) :
    AtPercent (first :: more) := by
  obtain ⟨lead, tail, isEncoded, isLead, length, atLeast, continues⟩ := encode_wide wide
  have isBytes : bytesOf (first :: more) = lead :: (tail ++ bytesOf more) := by
    rw [bytesOf_cons, isEncoded, List.cons_append]
  have boundary := isBoundary_bytesOf (first :: more)
  rw [isBytes] at boundary
  match tail, length, continues, isBytes, boundary with
  | [], length, _, _, _ =>
    rw [List.length_nil] at length
    omega
  | [second], length, continues, isBytes, boundary =>
    refine .sign ?_ ?_
    · cases more with
      | nil => simp [endsInside, ← length]
      | cons next others => simp [endsInside, ← length]
    · rw [isBytes]
      refine decodeBytes_percent boundary (isBoundary_bytesOf more) ?_
      cases parses : Percent.fromHex lead second with
      | none => rfl
      | some byte =>
        exact absurd (Percent.lt_of_fromHex parses).1 (UInt8.not_lt.mpr (le_of_lead isLead))
  | second :: third :: others, length, continues, isBytes, boundary =>
    have isLong : 2 < first.utf8Size := by
      rw [← length]
      simp
    refine .inside ?_ ?_
    · cases more with
      | nil => simp [endsInside, isLong]
      | cons next others => simp [endsInside, isLong]
    · rw [isBytes]
      exact decodeBytes_inside (isBoundary_of_isContinuation (continues third (by simp)) _)

theorem atPercent (rest : List Char) : AtPercent rest := by
  match rest with
  | [] => exact .sign rfl (decodeBytes_short (Nat.zero_le 1))
  | first :: more =>
    by_cases isAscii : first.toNat < 128
    · have isOne := (utf8Size_eq_one_iff first).mpr isAscii
      match more with
      | [] =>
        refine .sign (by simp [endsInside, isOne]) (decodeBytes_short ?_)
        rw [bytesOf_cons, encode_ascii isAscii]
        exact Nat.le_refl 1
      | second :: back =>
        by_cases secondAscii : second.toNat < 128
        · have secondOne := (utf8Size_eq_one_iff second).mpr secondAscii
          have boundary := isBoundary_bytesOf (first :: second :: back)
          have isBytes : bytesOf (first :: second :: back) =
              UInt8.ofNat first.toNat :: UInt8.ofNat second.toNat :: bytesOf back := by
            rw [bytesOf_cons, bytesOf_cons, encode_ascii isAscii, encode_ascii secondAscii]
            rfl
          rw [isBytes] at boundary
          cases parses : Percent.fromHex (UInt8.ofNat first.toNat) (UInt8.ofNat second.toNat) with
          | none =>
            refine .sign (by simp [endsInside, isOne, secondOne]) ?_
            rw [isBytes]
            exact decodeBytes_percent boundary (isBoundary_bytesOf back) parses
          | some byte =>
            refine .escape first second back rfl (by simp [endsInside, isOne, secondOne])
              ⟨?_, ?_⟩ byte ?_
            · rintro rfl
              exact nomatch parses
            · rintro rfl
              rw [Percent.fromHex_eq_none rfl] at parses
              exact nomatch parses
            · rw [isBytes]
              exact decodeBytes_escape boundary (isBoundary_bytesOf back) parses
        · obtain ⟨lead, tail, isEncoded, _, length, atLeast, continues⟩ :=
            encode_wide (Nat.le_of_not_lt secondAscii)
          obtain ⟨third, others, rfl⟩ : ∃ third others, tail = third :: others :=
            List.exists_cons_of_length_pos (by omega)
          refine .inside (by simp [endsInside, isOne, show 1 < second.utf8Size by omega]) ?_
          rw [bytesOf_cons, bytesOf_cons, encode_ascii isAscii, isEncoded]
          exact decodeBytes_inside (isBoundary_of_isContinuation (continues third (by simp)) _)
    · exact atPercent_of_wide (Nat.le_of_not_lt isAscii) more

theorem exists_map_eq_ok {Value Output : Type} {decoded : Except Panic Value}
    {work : Value → Output} :
    (∃ result, decoded.map work = .ok result) ↔ ∃ result, decoded = .ok result := by
  cases decoded with
  | error panic => exact iff_of_false (by rintro ⟨_, ⟨⟩⟩) (by rintro ⟨_, ⟨⟩⟩)
  | ok value => exact iff_of_true ⟨_, rfl⟩ ⟨_, rfl⟩

theorem hasCut_cons_of_ne {character : Char} (noSign : character ≠ '%') (rest : List Char) :
    hasCut (character :: rest) = hasCut rest := by
  simp [hasCut, noSign]

theorem hasCut_percent {rest : List Char} (apart : endsInside rest = false) :
    hasCut ('%' :: rest) = hasCut rest := by
  simp [hasCut, apart]

theorem decodeBytes_iff (characters : List Char) :
    (∃ bytes, decodeBytes (bytesOf characters) = .ok bytes) ↔ hasCut characters = false := by
  induction isLength : characters.length using Nat.strong_induction_on generalizing characters with
  | _ length inductionHypothesis =>
    cases characters with
    | nil => exact iff_of_true ⟨[], rfl⟩ rfl
    | cons character rest =>
      have shorter : rest.length < length := by
        rw [← isLength]
        exact Nat.lt_succ_self _
      by_cases isPlus : character = '+'
      · rw [isPlus, hasCut_cons_of_ne (by decide)]
        show (∃ bytes, decodeBytes (plus :: bytesOf rest) = .ok bytes) ↔ _
        rw [decodeBytes_plus, exists_map_eq_ok]
        exact inductionHypothesis _ shorter rest rfl
      · by_cases isPercent : character = '%'
        · rw [isPercent]
          show (∃ bytes, decodeBytes (percent :: bytesOf rest) = .ok bytes) ↔ _
          cases atPercent rest with
          | inside ends fails =>
            rw [fails]
            refine iff_of_false (by rintro ⟨_, ⟨⟩⟩) ?_
            simp [hasCut, ends]
          | escape first second back isRest apart noSign byte decodes =>
            have passed : hasCut ('%' :: rest) = hasCut back := by
              rw [hasCut_percent apart, isRest, hasCut_cons_of_ne noSign.1,
                hasCut_cons_of_ne noSign.2]
            rw [decodes, exists_map_eq_ok, passed]
            refine inductionHypothesis _ (Nat.lt_trans ?_ shorter) back rfl
            rw [isRest, List.length_cons, List.length_cons]
            omega
          | sign apart decodes =>
            rw [decodes, exists_map_eq_ok, hasCut_percent apart]
            exact inductionHypothesis _ shorter rest rfl
        · rw [hasCut_cons_of_ne isPercent, bytesOf_cons,
            decodeBytes_append (encode_plain isPlus isPercent), exists_map_eq_ok]
          exact inductionHypothesis _ shorter rest rfl

theorem percentDecode_iff (value : String) :
    (∃ text, percentDecode value = .ok text) ↔ hasCut value.toList = false := by
  unfold percentDecode
  rw [exists_map_eq_ok]
  exact decodeBytes_iff value.toList

/-! ### The parts of a query -/

theorem endsInside_append {front : List Char} (ends : endsInside front = true)
    (back : List Char) : endsInside (front ++ back) = true := by
  match front with
  | [] => exact nomatch ends
  | [first] =>
    cases back with
    | nil => exact ends
    | cons second rest =>
      have isLong : 2 < first.utf8Size := of_decide_eq_true ends
      simp [endsInside, isLong]
  | first :: second :: rest => exact ends

theorem hasCut_append_left {front : List Char} (cut : hasCut front = true) (back : List Char) :
    hasCut (front ++ back) = true := by
  induction front with
  | nil => exact nomatch cut
  | cons character rest inductionHypothesis =>
    rw [List.cons_append]
    unfold hasCut at cut ⊢
    rcases Bool.or_eq_true_iff.mp cut with here | later
    · obtain ⟨isSign, ends⟩ := Bool.and_eq_true_iff.mp here
      rw [isSign, endsInside_append ends back]
      rfl
    · rw [inductionHypothesis later, Bool.or_true]

theorem hasCut_append_right {back : List Char} (cut : hasCut back = true) (front : List Char) :
    hasCut (front ++ back) = true := by
  induction front with
  | nil => exact cut
  | cons character rest inductionHypothesis =>
    rw [List.cons_append]
    unfold hasCut
    rw [inductionHypothesis, Bool.or_true]

theorem uncut_of_isPart {part whole : List Char} (isPart : part <:+: whole)
    (uncut : hasCut whole = false) : hasCut part = false := by
  obtain ⟨front, back, rfl⟩ := isPart
  cases cut : hasCut part with
  | false => rfl
  | true =>
    have wholeCut := hasCut_append_left (hasCut_append_right cut front) back
    exact absurd (uncut.symm.trans wholeCut) Bool.false_ne_true

theorem infix_of_mem_splitOn {separator : Char} {part whole : List Char}
    (member : part ∈ whole.splitOn separator) : part <:+: whole := by
  have infixOf : ∀ parts : List (List Char), part ∈ parts →
      part <:+: [separator].intercalate parts := by
    intro parts inParts
    induction parts with
    | nil => exact absurd inParts List.not_mem_nil
    | cons first rest inductionHypothesis =>
      cases rest with
      | nil =>
        rw [List.mem_singleton.mp inParts]
        exact (List.intercalate_singleton).symm ▸ List.infix_refl first
      | cons next others =>
        rw [List.intercalate_cons_cons]
        rcases List.mem_cons.mp inParts with rfl | later
        · exact List.IsPrefix.isInfix ⟨_, (List.append_assoc _ _ _).symm⟩
        · exact (inductionHypothesis later).trans (List.suffix_append _ _).isInfix
  have isWhole : [separator].intercalate (whole.splitOn separator) = whole :=
    List.intercalate_splitOn separator
  rw [← isWhole]
  exact infixOf _ member

theorem decodePair_of_uncut {pair : String} (uncut : hasCut pair.toList = false) :
    ∃ decoded, decodePair pair = .ok decoded := by
  have halves : hasCut ((Text.splitOnce '=' pair).getD (pair, "")).1.toList = false ∧
      hasCut ((Text.splitOnce '=' pair).getD (pair, "")).2.toList = false := by
    cases isSplit : Text.splitOnce '=' pair with
    | none => exact ⟨uncut, rfl⟩
    | some parts =>
      obtain ⟨front, back⟩ := parts
      have isWhole := Text.toList_of_splitOnce isSplit
      refine ⟨uncut_of_isPart ?_ uncut, uncut_of_isPart ?_ uncut⟩
      · rw [isWhole]
        exact (List.prefix_append _ _).isInfix
      · rw [isWhole]
        exact ((List.suffix_cons '=' back.toList).trans (List.suffix_append _ _)).isInfix
  obtain ⟨key, isKey⟩ := (percentDecode_iff _).mpr halves.1
  obtain ⟨value, isValue⟩ := (percentDecode_iff _).mpr halves.2
  unfold decodePair
  dsimp only
  rw [isKey, isValue]
  exact ⟨_, rfl⟩

theorem parseForm_of_uncut {query : String} (uncut : hasCut query.toList = false) :
    ∃ map, parseForm query = .ok map := by
  unfold parseForm
  rw [exists_map_eq_ok]
  refine exists_mapM_eq_ok fun pair member => decodePair_of_uncut ?_
  obtain ⟨part, isPart, rfl⟩ := List.mem_map.mp (List.mem_of_mem_filter member)
  rw [String.toList_ofList]
  exact uncut_of_isPart (infix_of_mem_splitOn isPart) uncut

/-! ### The coding -/

/-- A form of pairs gives exactly them back, where no key stands twice in it. -/
def RoundTrips (pairs : List (String × String)) : Prop :=
  (pairs.map Prod.fst).Nodup →
    ∃ map, parseForm (form pairs) = .ok map ∧ ∀ pair, pair ∈ map.entries ↔ pair ∈ pairs

def Returns (pasted : String) : Prop :=
  (∃ text, percentDecode pasted = .ok text) ∧ ∃ map, parseForm pasted = .ok map

/-- The form coding round-trips, and returns on a pasted text exactly where no percent sign of it
stands so in front of a character of several bytes that the slice behind it ends inside. -/
theorem formCoding_iff (pairs : List (String × String)) (pasted : String) :
    RoundTrips pairs ∧ Returns pasted ↔ hasCut pasted.toList = false := by
  constructor
  · rintro ⟨_, decodes, _⟩
    exact (percentDecode_iff pasted).mp decodes
  · intro uncut
    exact ⟨parseForm_form, (percentDecode_iff pasted).mpr uncut, parseForm_of_uncut uncut⟩

/-- A callback whose code has a stray percent sign in front of an accented letter is not read. -/
theorem not_returns_accent : ¬Returns "code=%aé" := by
  rintro ⟨decodes, _⟩
  have cut : hasCut "code=%aé".toList = true := by decide
  exact absurd ((percentDecode_iff _).mp decodes) (by rw [cut]; exact Bool.noConfusion)

end Twalk.Oidc
