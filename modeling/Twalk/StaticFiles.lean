/-
This file is how the Gateway resolves a request path to a file of the Companion's build: the
decoding of the path's segments, the file or the redirect it comes to, and the fallback.

The file is always under the root, since a segment is only taken in where it decodes to a plain
name. The location of a redirect is made from the path as it was asked for, so a path that begins
with two slashes is redirected to another origin. A number parser reads the escapes, and it takes
a sign and one digit for an escape too.
-/

import Twalk.Library.Fallible
import Twalk.Library.Percent
import Twalk.Library.Text

namespace Twalk.StaticFiles

open Utf8

/-! ### Paths -/

/-- A path of the file system, by its characters. -/
abbrev Path := List Char

/-- A path below another, or an absolute one in its place. -/
def join (base relative : Path) : Path :=
  if relative.head? = some '/' then relative
  else if base = [] ∨ base.getLast? = some '/' then base ++ relative
  else base ++ '/' :: relative

/-- A name that stands for an entry of the directory it is looked up in, and for nothing else. -/
def isPlainName (name : Path) : Bool :=
  name != [] && name != ".".toList && name != "..".toList && !name.contains '/' &&
    !name.contains (Char.ofNat 0)

/-! ### Decoding a segment -/

/-- The byte `%`. -/
def percent : UInt8 := 37

/-- The bytes of a segment, from the place that was reached. -/
def decodeBytes : List UInt8 → Option (List UInt8)
  | [] => some []
  | byte :: rest =>
    if byte = percent then
      match rest with
      | first :: second :: back =>
        if isBoundary (first :: second :: back) ∧ isBoundary back then
          (Percent.fromHex first second).bind fun decoded => (decodeBytes back).map (decoded :: ·)
        else
          none
      | _ => none
    else
      (decodeBytes rest).map (byte :: ·)

def percentDecode (segment : List Char) : Option (List Char) :=
  (decodeBytes (bytesOf segment)).bind decode?

/-- Whether a decoded segment is no name of the build. -/
def isRefused (decoded : List Char) : Bool :=
  decoded == [] || decoded == ".".toList || decoded == "..".toList || decoded.contains '/' ||
    decoded.contains '\\' || decoded.contains (Char.ofNat 0)

def pushSegment (out : Path) (segment : List Char) : Option Path :=
  if segment = [] ∨ segment = ".".toList then some out
  else
    (percentDecode segment).bind fun decoded =>
      if isRefused decoded then none else some (join out decoded)

def safeRelativePath (requestPath : List Char) : Option Path :=
  (requestPath.splitOn '/').foldlM pushSegment []

/-! ### Content types -/

def extensionOf (requestPath : List Char) : Option String :=
  let name := (requestPath.splitOn '/').getLastD []
  if name.contains '.' then
    some (Text.toAsciiLowercase (String.ofList ((name.splitOn '.').getLastD [])))
  else none

def contentTypeFor (requestPath : List Char) : String :=
  match extensionOf requestPath with
  | some "wasm" => "application/wasm"
  | some "js" | some "mjs" => "text/javascript; charset=utf-8"
  | some "css" => "text/css; charset=utf-8"
  | some "json" | some "map" => "application/json"
  | some "webmanifest" => "application/manifest+json"
  | some "svg" => "image/svg+xml"
  | some "png" => "image/png"
  | some "jpg" | some "jpeg" => "image/jpeg"
  | some "gif" => "image/gif"
  | some "webp" => "image/webp"
  | some "avif" => "image/avif"
  | some "ico" => "image/vnd.microsoft.icon"
  | some "woff2" => "font/woff2"
  | some "woff" => "font/woff"
  | some "ttf" => "font/ttf"
  | some "txt" => "text/plain; charset=utf-8"
  | some "xml" => "application/xml"
  | some "pdf" => "application/pdf"
  | some "mp4" => "video/mp4"
  | some "webm" => "video/webm"
  | _ => "text/html; charset=utf-8"

/-! ### Resolving -/

inductive Resolution where
  | file (path : Path) (contentType : String)
  | redirect (location : List Char)
  | fallback (path : Path)
  | notFound
deriving DecidableEq, Repr

structure Resolver where
  root : Path
  fallback : Path
  isFile : Path → Bool

namespace Resolver

variable (resolver : Resolver)

def fallbackPath : Path := join resolver.root resolver.fallback

def fallBack : Resolution :=
  if resolver.isFile resolver.fallbackPath then .fallback resolver.fallbackPath else .notFound

def pageOf (relative : Path) : Path := join resolver.root (relative ++ ".html".toList)

def indexOf (relative : Path) : Path := join (join resolver.root relative) "index.html".toList

def trimEndSlashes (requestPath : List Char) : List Char := requestPath.rdropWhile (· == '/')

def endsWithSlash (requestPath : List Char) : Bool := requestPath.getLast? == some '/'

def derived (requestPath : List Char) (relative : Path) : Path :=
  if endsWithSlash requestPath ∨ relative = [] then resolver.indexOf relative
  else resolver.pageOf relative

def resolve (requestPath : List Char) : Resolution :=
  match safeRelativePath requestPath with
  | none => resolver.fallBack
  | some relative =>
    if relative ≠ [] ∧ ¬endsWithSlash requestPath ∧
        resolver.isFile (join resolver.root relative) then
      .file (join resolver.root relative) (contentTypeFor requestPath)
    else if resolver.isFile (resolver.derived requestPath relative) then
      .file (resolver.derived requestPath relative) (contentTypeFor requestPath)
    else if endsWithSlash requestPath ∧ relative ≠ [] ∧
        resolver.isFile (resolver.pageOf relative) then
      .redirect (trimEndSlashes requestPath)
    else if ¬endsWithSlash requestPath ∧ relative ≠ [] ∧
        resolver.isFile (resolver.indexOf relative) then
      .redirect (requestPath ++ ['/'])
    else
      resolver.fallBack

end Resolver

/-! ### What a segment decodes to -/

def IsDigit (character : Char) (value : Nat) : Prop :=
  character.toNat < 128 ∧ Percent.hexValue (UInt8.ofNat character.toNat) = some value

/-- The bytes that a text with escapes stands for, and whether a sign and one digit stand for two
digits in one of them. -/
inductive Reads : Bool → List Char → List UInt8 → Prop
  | nil : Reads false [] []
  | plain {signed : Bool} {character : Char} {rest : List Char} {bytes : List UInt8}
      (noSign : character ≠ '%') (later : Reads signed rest bytes) :
    Reads signed (character :: rest) (String.utf8EncodeChar character ++ bytes)
  | escape {signed : Bool} {first second : Char} {high low : Nat} {rest : List Char}
      {bytes : List UInt8} (isHigh : IsDigit first high) (isLow : IsDigit second low)
      (later : Reads signed rest bytes) :
    Reads signed ('%' :: first :: second :: rest) (UInt8.ofNat (16 * high + low) :: bytes)
  | signed {signed : Bool} {second : Char} {low : Nat} {rest : List Char} {bytes : List UInt8}
      (isLow : IsDigit second low) (later : Reads signed rest bytes) :
    Reads true ('%' :: '+' :: second :: rest) (UInt8.ofNat low :: bytes)

theorem decodeBytes_cons {byte : UInt8} (noSign : byte ≠ percent) (rest : List UInt8) :
    decodeBytes (byte :: rest) = (decodeBytes rest).map (byte :: ·) := by
  rw [decodeBytes.eq_def]
  exact if_neg noSign

theorem decodeBytes_append {front : List UInt8} (plain : ∀ byte ∈ front, byte ≠ percent)
    (rest : List UInt8) : decodeBytes (front ++ rest) = (decodeBytes rest).map (front ++ ·) := by
  induction front with
  | nil =>
    rw [List.nil_append]
    cases decodeBytes rest <;> rfl
  | cons byte others inductionHypothesis =>
    obtain ⟨noSign, later⟩ := List.forall_mem_cons.mp plain
    rw [List.cons_append, decodeBytes_cons noSign, inductionHypothesis later, Option.map_map]
    rfl

theorem encode_plain {character : Char} (noSign : character ≠ '%') :
    ∀ byte ∈ String.utf8EncodeChar character, byte ≠ percent :=
  encode_ne (show '%'.toNat < 128 by decide) noSign

variable {first second : Char}

theorem decodeBytes_escape (firstAscii : first.toNat < 128) (secondAscii : second.toNat < 128)
    (rest : List Char) :
    decodeBytes (bytesOf ('%' :: first :: second :: rest)) =
      (Percent.fromHex (UInt8.ofNat first.toNat) (UInt8.ofNat second.toNat)).bind fun decoded =>
        (decodeBytes (bytesOf rest)).map (decoded :: ·) := by
  have isBytes : bytesOf (first :: second :: rest) =
      UInt8.ofNat first.toNat :: UInt8.ofNat second.toNat :: bytesOf rest := by
    rw [bytesOf_cons, bytesOf_cons, encode_ascii firstAscii, encode_ascii secondAscii]
    rfl
  have boundary := isBoundary_bytesOf (first :: second :: rest)
  rw [isBytes] at boundary
  show decodeBytes (percent :: bytesOf (first :: second :: rest)) = _
  rw [isBytes, decodeBytes.eq_def]
  dsimp only
  rw [if_pos rfl, if_pos ⟨boundary, isBoundary_bytesOf rest⟩]

theorem exists_of_decodeBytes_percent {rest : List Char} {bytes : List UInt8}
    (decodes : decodeBytes (bytesOf ('%' :: rest)) = some bytes) :
    ∃ first second back decoded others, rest = first :: second :: back ∧ first.toNat < 128 ∧
      second.toNat < 128 ∧
      Percent.fromHex (UInt8.ofNat first.toNat) (UInt8.ofNat second.toNat) = some decoded ∧
      decodeBytes (bytesOf back) = some others ∧ bytes = decoded :: others := by
  change decodeBytes (percent :: bytesOf rest) = some bytes at decodes
  rw [decodeBytes.eq_def] at decodes
  dsimp only at decodes
  rw [if_pos rfl] at decodes
  split at decodes
  · rename_i first second back isBytes
    split at decodes
    · obtain ⟨decoded, parses, later⟩ := Option.bind_eq_some_iff.mp decodes
      obtain ⟨others, isOthers, rfl⟩ := Option.map_eq_some_iff.mp later
      obtain ⟨firstLow, secondLow⟩ := Percent.lt_of_fromHex parses
      obtain ⟨one, more, rfl, oneAscii, rfl, isMore⟩ := exists_of_ascii_head isBytes firstLow
      obtain ⟨two, last, rfl, twoAscii, rfl, rfl⟩ := exists_of_ascii_head isMore.symm secondLow
      exact ⟨one, two, last, decoded, others, rfl, oneAscii, twoAscii, parses, isOthers, rfl⟩
    · exact nomatch decodes
  · exact nomatch decodes

theorem fromHex_cases (firstAscii : first.toNat < 128) (secondAscii : second.toNat < 128)
    {decoded : UInt8}
    (parses : Percent.fromHex (UInt8.ofNat first.toNat) (UInt8.ofNat second.toNat) = some decoded) :
    (∃ high low, IsDigit first high ∧ IsDigit second low ∧
        decoded = UInt8.ofNat (16 * high + low)) ∨
      first = '+' ∧ ∃ low, IsDigit second low ∧ decoded = UInt8.ofNat low := by
  unfold Percent.fromHex at parses
  split at parses
  · rename_i isPlus
    obtain ⟨low, isLow, rfl⟩ := Option.map_eq_some_iff.mp parses
    have codes := congrArg UInt8.toNat isPlus
    rw [UInt8.toNat_ofNat', Nat.mod_eq_of_lt (by omega)] at codes
    exact Or.inr ⟨Char.toNat_inj.mp codes, low, ⟨secondAscii, isLow⟩, rfl⟩
  · obtain ⟨high, isHigh, later⟩ := Option.bind_eq_some_iff.mp parses
    obtain ⟨low, isLow, rfl⟩ := Option.map_eq_some_iff.mp later
    exact Or.inl ⟨high, low, ⟨firstAscii, isHigh⟩, ⟨secondAscii, isLow⟩, rfl⟩

theorem fromHex_digits {high low : Nat} (isHigh : IsDigit first high) (isLow : IsDigit second low) :
    Percent.fromHex (UInt8.ofNat first.toNat) (UInt8.ofNat second.toNat) =
      some (UInt8.ofNat (16 * high + low)) := by
  refine Percent.fromHex_of_ofDigits ?_
  unfold Percent.ofDigits
  rw [isHigh.2, isLow.2]
  rfl

theorem fromHex_signed {second : Char} {low : Nat} (isLow : IsDigit second low) :
    Percent.fromHex (UInt8.ofNat '+'.toNat) (UInt8.ofNat second.toNat) =
      some (UInt8.ofNat low) := by
  unfold Percent.fromHex
  rw [if_pos (by decide), isLow.2]
  rfl

theorem decodeBytes_eq_some_iff {characters : List Char} {bytes : List UInt8} :
    decodeBytes (bytesOf characters) = some bytes ↔ ∃ signed, Reads signed characters bytes := by
  constructor
  · intro decodes
    induction isLength : characters.length using Nat.strong_induction_on
      generalizing characters bytes with
    | _ length inductionHypothesis =>
      cases characters with
      | nil =>
        cases decodes
        exact ⟨false, .nil⟩
      | cons character rest =>
        by_cases isSign : character = '%'
        · rw [isSign] at decodes ⊢
          obtain ⟨first, second, back, decoded, others, rfl, firstAscii, secondAscii, parses,
            isOthers, rfl⟩ := exists_of_decodeBytes_percent decodes
          have shorter : back.length < length := by
            rw [← isLength, List.length_cons, List.length_cons, List.length_cons]
            omega
          obtain ⟨signed, later⟩ := inductionHypothesis _ shorter isOthers rfl
          rcases fromHex_cases firstAscii secondAscii parses with
            ⟨high, low, isHigh, isLow, rfl⟩ | ⟨rfl, low, isLow, rfl⟩
          · exact ⟨signed, .escape isHigh isLow later⟩
          · exact ⟨true, .signed isLow later⟩
        · rw [bytesOf_cons, decodeBytes_append (encode_plain isSign)] at decodes
          obtain ⟨others, isOthers, rfl⟩ := Option.map_eq_some_iff.mp decodes
          have shorter : rest.length < length := by
            rw [← isLength]
            exact Nat.lt_succ_self _
          obtain ⟨signed, later⟩ := inductionHypothesis _ shorter isOthers rfl
          exact ⟨signed, .plain isSign later⟩
  · rintro ⟨signed, reads⟩
    induction reads with
    | nil => rfl
    | plain noSign later inductionHypothesis =>
      rw [bytesOf_cons, decodeBytes_append (encode_plain noSign), inductionHypothesis]
      rfl
    | escape isHigh isLow later inductionHypothesis =>
      rw [decodeBytes_escape isHigh.1 isLow.1, fromHex_digits isHigh isLow, inductionHypothesis]
      rfl
    | signed isLow later inductionHypothesis =>
      rw [decodeBytes_escape (show '+'.toNat < 128 by decide) isLow.1, fromHex_signed isLow,
        inductionHypothesis]
      rfl

theorem signed_unique {signed other : Bool} {characters : List Char}
    {bytes otherBytes : List UInt8} (reads : Reads signed characters bytes)
    (otherReads : Reads other characters otherBytes) : signed = other := by
  induction reads generalizing other otherBytes with
  | nil => cases otherReads; rfl
  | plain noSign later inductionHypothesis =>
    cases otherReads with
    | plain _ otherLater => exact inductionHypothesis otherLater
    | escape => exact absurd rfl noSign
    | signed => exact absurd rfl noSign
  | escape isHigh isLow later inductionHypothesis =>
    cases otherReads with
    | plain otherNoSign _ => exact absurd rfl otherNoSign
    | escape _ _ otherLater => exact inductionHypothesis otherLater
    | signed => exact nomatch isHigh.2
  | signed isLow later inductionHypothesis =>
    cases otherReads with
    | plain otherNoSign _ => exact absurd rfl otherNoSign
    | escape otherHigh _ _ => exact nomatch otherHigh.2
    | signed => rfl

theorem percentDecode_eq_some_iff {segment decoded : List Char} :
    percentDecode segment = some decoded ↔ ∃ signed, Reads signed segment (bytesOf decoded) := by
  unfold percentDecode
  rw [Option.bind_eq_some_iff, ← decodeBytes_eq_some_iff]
  constructor
  · rintro ⟨bytes, decodes, isText⟩
    rw [decode?_eq_some_iff.mp isText]
    exact decodes
  · intro decodes
    exact ⟨_, decodes, decode?_eq_some_iff.mpr rfl⟩

/-! ### Paths below the root -/

/-- A path that neither is empty nor begins or ends with a slash. -/
structure IsSolid (path : Path) : Prop where
  some : path ≠ []
  front : path.head? ≠ .some '/'
  back : path.getLast? ≠ .some '/'

variable {name : Path}

theorem isSolid_of_isPlainName (isPlain : isPlainName name = true) :
    IsSolid name := by
  unfold isPlainName at isPlain
  simp only [Bool.and_eq_true, bne_iff_ne, Bool.not_eq_true'] at isPlain
  obtain ⟨⟨⟨⟨some, _⟩, _⟩, noSlash⟩, _⟩ := isPlain
  have absent : '/' ∉ name := by simpa using noSlash
  exact ⟨some, fun isFirst => absent (List.mem_of_head? isFirst),
    fun isLast => absent (List.mem_of_getLast? isLast)⟩

variable {relative : Path}

theorem join_nil_left (isSolid : IsSolid relative) :
    join [] relative = relative := by
  unfold join
  rw [if_neg isSolid.front, if_pos (Or.inl rfl), List.nil_append]

theorem join_solid {base relative : Path} (isBase : IsSolid base) (isSolid : IsSolid relative) :
    join base relative = base ++ '/' :: relative := by
  unfold join
  rw [if_neg isSolid.front, if_neg]
  rintro (isNil | isLast)
  · exact isBase.some isNil
  · exact isBase.back isLast

theorem isSolid_append {base relative : Path} (isBase : IsSolid base)
    (isSolid : IsSolid relative) : IsSolid (base ++ '/' :: relative) := by
  obtain ⟨first, others, rfl⟩ := List.exists_cons_of_ne_nil isBase.some
  obtain ⟨next, rest, rfl⟩ := List.exists_cons_of_ne_nil isSolid.some
  refine ⟨List.cons_ne_nil _ _, isBase.front, ?_⟩
  have back := isSolid.back
  simpa [List.getLast?_append, List.getLast?_cons] using back

theorem exists_join (base : Path) (isSolid : IsSolid relative) :
    ∃ lead, (∀ other, IsSolid other → join base other = lead ++ other) ∧
      join base relative = lead ++ relative := by
  have each : ∃ lead, ∀ other, IsSolid other → join base other = lead ++ other := by
    by_cases open' : base = [] ∨ base.getLast? = some '/'
    · refine ⟨base, fun other isOther => ?_⟩
      unfold join
      rw [if_neg isOther.front, if_pos open']
    · refine ⟨base ++ ['/'], fun other isOther => ?_⟩
      unfold join
      rw [if_neg isOther.front, if_neg open', List.append_assoc]
      rfl
  exact each.imp fun lead joins => ⟨joins, joins relative isSolid⟩

theorem join_join (base : Path) {relative name : Path} (isSolid : IsSolid relative)
    (isName : IsSolid name) : join (join base relative) name = join base (join relative name) := by
  obtain ⟨lead, joins, isJoined⟩ := exists_join base isSolid
  rw [isJoined, join_solid isSolid isName, joins _ (isSolid_append isSolid isName)]
  unfold join
  rw [if_neg isName.front, if_neg, List.append_assoc]
  rintro (isNil | isLast)
  · exact isSolid.some (List.append_eq_nil_iff.mp isNil).2
  · rw [List.getLast?_append] at isLast
    have back := isSolid.back
    obtain ⟨last, isLastOf⟩ := Option.ne_none_iff_exists'.mp
      (fun isNone => isSolid.some (List.getLast?_eq_none_iff.mp isNone))
    rw [isLastOf] at isLast back
    exact back isLast

variable {names : List Path}

theorem foldl_join (base : Path) (plain : ∀ name ∈ names, isPlainName name = true) {start : Path}
    (isSolid : IsSolid start) :
    names.foldl join (join base start) = join base (names.foldl join start) ∧
      IsSolid (names.foldl join start) := by
  induction names generalizing start with
  | nil => exact ⟨rfl, isSolid⟩
  | cons name rest inductionHypothesis =>
    obtain ⟨isPlain, others⟩ := List.forall_mem_cons.mp plain
    have isName := isSolid_of_isPlainName isPlain
    have longer : IsSolid (join start name) := by
      rw [join_solid isSolid isName]
      exact isSolid_append isSolid isName
    rw [List.foldl_cons, List.foldl_cons, join_join base isSolid isName]
    exact inductionHypothesis others longer

def relativeOf (names : List Path) : Path := names.foldl join []

theorem relativeOf_nil : relativeOf [] = [] := rfl

theorem join_relativeOf (base : Path) (some : names ≠ [])
    (plain : ∀ name ∈ names, isPlainName name = true) :
    join base (relativeOf names) = names.foldl join base ∧ IsSolid (relativeOf names) := by
  obtain ⟨first, rest, rfl⟩ := List.exists_cons_of_ne_nil some
  obtain ⟨isPlain, others⟩ := List.forall_mem_cons.mp plain
  have isFirst := isSolid_of_isPlainName isPlain
  obtain ⟨joins, isSolid⟩ := foldl_join base others isFirst
  unfold relativeOf
  rw [List.foldl_cons, List.foldl_cons, join_nil_left isFirst]
  exact ⟨joins.symm, isSolid⟩

def IsUnder (root path : Path) : Prop :=
  ∃ names, names ≠ [] ∧ (∀ name ∈ names, isPlainName name = true) ∧ path = names.foldl join root

theorem join_join_nil (base : Path) (isName : IsSolid name) :
    join (join base []) name = join base name := by
  have noSlash : ([] : Path).head? ≠ some '/' := nofun
  by_cases isOpen : base = [] ∨ base.getLast? = some '/'
  · have same : join base [] = base := by
      unfold join
      rw [if_neg noSlash, if_pos isOpen, List.append_nil]
    rw [same]
  · have longer : join base [] = base ++ ['/'] := by
      unfold join
      rw [if_neg noSlash, if_neg isOpen]
    have isOpen' : base ++ ['/'] = [] ∨ (base ++ ['/']).getLast? = some '/' := Or.inr (by simp)
    rw [longer]
    unfold join
    rw [if_neg isName.front, if_pos isOpen', if_neg isName.front, if_neg isOpen,
      List.append_assoc]
    rfl

theorem isPlainName_index : isPlainName "index.html".toList = true := by decide

theorem isUnder_indexOf (resolver : Resolver) (plain : ∀ name ∈ names, isPlainName name = true) :
    IsUnder resolver.root (resolver.indexOf (relativeOf names)) := by
  refine ⟨names ++ ["index.html".toList], by simp, ?_, ?_⟩
  · intro name member
    rcases List.mem_append.mp member with inNames | isIndex
    · exact plain name inNames
    · rw [List.mem_singleton.mp isIndex]
      exact isPlainName_index
  · rw [List.foldl_append, List.foldl_cons, List.foldl_nil]
    unfold Resolver.indexOf
    by_cases isNil : names = []
    · rw [isNil, relativeOf_nil]
      exact join_join_nil resolver.root (isSolid_of_isPlainName isPlainName_index)
    · rw [(join_relativeOf resolver.root isNil plain).1]

theorem isPlainName_html (isPlain : isPlainName name = true) :
    isPlainName (name ++ ".html".toList) = true := by
  unfold isPlainName at isPlain ⊢
  simp only [Bool.and_eq_true, bne_iff_ne, Bool.not_eq_true'] at isPlain ⊢
  obtain ⟨⟨⟨⟨some, _⟩, _⟩, noSlash⟩, noNul⟩ := isPlain
  have longer : 5 < (name ++ ".html".toList).length := by
    rw [List.length_append]
    have positive := List.length_pos_of_ne_nil some
    have html : ".html".toList.length = 5 := rfl
    omega
  refine ⟨⟨⟨⟨?_, ?_⟩, ?_⟩, ?_⟩, ?_⟩
  · intro isNil
    rw [isNil] at longer
    exact absurd longer (by decide)
  · intro isDot
    rw [isDot] at longer
    exact absurd longer (by decide)
  · intro isParent
    rw [isParent] at longer
    exact absurd longer (by decide)
  · rw [List.contains_eq_mem, decide_eq_false_iff_not, List.mem_append] at *
    rintro (inName | inHtml)
    · exact noSlash inName
    · exact absurd inHtml (by decide)
  · rw [List.contains_eq_mem, decide_eq_false_iff_not, List.mem_append] at *
    rintro (inName | inHtml)
    · exact noNul inName
    · exact absurd inHtml (by decide)

theorem join_append {base name : Path} (isName : IsSolid name) (back : Path) :
    join base name ++ back = join base (name ++ back) := by
  have front : (name ++ back).head? ≠ some '/' := by
    obtain ⟨first, rest, rfl⟩ := List.exists_cons_of_ne_nil isName.some
    exact isName.front
  unfold join
  rw [if_neg isName.front, if_neg front]
  split
  · exact List.append_assoc _ _ _
  · exact List.append_assoc _ _ _

theorem isUnder_pageOf (resolver : Resolver) (some : names ≠ [])
    (plain : ∀ name ∈ names, isPlainName name = true) :
    IsUnder resolver.root (resolver.pageOf (relativeOf names)) := by
  obtain ⟨front, last, rfl⟩ := (List.eq_nil_or_concat names).resolve_left some
  rw [List.concat_eq_append] at plain ⊢
  have isLast : isPlainName last = true := plain last (by simp)
  have isPage : relativeOf (front ++ [last]) ++ ".html".toList =
      relativeOf (front ++ [last ++ ".html".toList]) := by
    unfold relativeOf
    rw [List.foldl_append, List.foldl_append]
    exact join_append (isSolid_of_isPlainName isLast) _
  have pagePlain : ∀ name ∈ front ++ [last ++ ".html".toList], isPlainName name = true := by
    intro name member
    rcases List.mem_append.mp member with inFront | isHtml
    · exact plain name (List.mem_append_left _ inFront)
    · rw [List.mem_singleton.mp isHtml]
      exact isPlainName_html isLast
  refine ⟨front ++ [last ++ ".html".toList], by simp, pagePlain, ?_⟩
  unfold Resolver.pageOf
  rw [isPage, (join_relativeOf resolver.root (by simp) pagePlain).1]

theorem isPlainName_of_not_refused {decoded : Path} (taken : isRefused decoded = false) :
    isPlainName decoded = true := by
  unfold isRefused at taken
  unfold isPlainName
  simp only [Bool.or_eq_false_iff, beq_eq_false_iff_ne] at taken
  obtain ⟨⟨⟨⟨⟨some, noDot⟩, noParent⟩, noSlash⟩, _⟩, noNul⟩ := taken
  simp only [Bool.and_eq_true, bne_iff_ne, Bool.not_eq_true']
  exact ⟨⟨⟨⟨some, noDot⟩, noParent⟩, noSlash⟩, noNul⟩

variable {requestPath : List Char}

theorem exists_names (isSafe : safeRelativePath requestPath = some relative) :
    ∃ names, (∀ name ∈ names, isPlainName name = true) ∧ relative = relativeOf names := by
  have each : ∀ (segments : List (List Char)) (names : List Path),
      (∀ name ∈ names, isPlainName name = true) →
        segments.foldlM pushSegment (relativeOf names) = some relative →
          ∃ names, (∀ name ∈ names, isPlainName name = true) ∧ relative = relativeOf names := by
    intro segments
    induction segments with
    | nil =>
      intro names plain folded
      exact ⟨names, plain, (Option.some.inj folded).symm⟩
    | cons segment rest inductionHypothesis =>
      intro names plain folded
      rw [List.foldlM_cons] at folded
      obtain ⟨next, isNext, continued⟩ := Option.bind_eq_some_iff.mp folded
      unfold pushSegment at isNext
      split at isNext
      · rw [← Option.some.inj isNext] at continued
        exact inductionHypothesis names plain continued
      · obtain ⟨decoded, _, isPushed⟩ := Option.bind_eq_some_iff.mp isNext
        split at isPushed
        · exact nomatch isPushed
        · rename_i taken
          have isName := isPlainName_of_not_refused (Bool.eq_false_iff.mpr taken)
          refine inductionHypothesis (names ++ [decoded]) (fun name member => ?_) ?_
          · rcases List.mem_append.mp member with inNames | isDecoded
            · exact plain name inNames
            · rw [List.mem_singleton.mp isDecoded]
              exact isName
          · unfold relativeOf
            rw [List.foldl_append]
            show rest.foldlM pushSegment (join (relativeOf names) decoded) = _
            rw [Option.some.inj isPushed]
            exact continued
  exact each _ [] (fun _ member => absurd member List.not_mem_nil) isSafe

theorem isUnder_of_file (resolver : Resolver) {path : Path} {contentType : String}
    (answers : resolver.resolve requestPath = .file path contentType) :
    IsUnder resolver.root path := by
  have fellBack : resolver.fallBack ≠ .file path contentType := by
    unfold Resolver.fallBack
    split <;> exact nofun
  unfold Resolver.resolve at answers
  cases isSafe : safeRelativePath requestPath with
  | none =>
    rw [isSafe] at answers
    exact absurd answers fellBack
  | some relative =>
    rw [isSafe] at answers
    obtain ⟨names, plain, rfl⟩ := exists_names isSafe
    have namesSome : relativeOf names ≠ [] → names ≠ [] := by
      rintro some rfl
      exact some rfl
    dsimp only at answers
    split at answers
    · rename_i exact
      have isPath := (Resolution.file.inj answers).1
      have some := namesSome exact.1
      exact ⟨names, some, plain, isPath ▸ (join_relativeOf resolver.root some plain).1⟩
    · split at answers
      · rw [← (Resolution.file.inj answers).1]
        unfold Resolver.derived
        split
        · exact isUnder_indexOf resolver plain
        · rename_i notIndex
          exact isUnder_pageOf resolver
            (namesSome fun isNil => notIndex (Or.inr isNil)) plain
      · split at answers
        · exact nomatch answers
        · split at answers
          · exact nomatch answers
          · exact absurd answers fellBack

/-! ### Redirects -/

/-- The location that a request path is redirected to: the page is there under the other spelling
and not under this one. -/
inductive Redirects (resolver : Resolver) (requestPath : List Char) : List Char → Prop
  | toPage (relative : Path) (isSafe : safeRelativePath requestPath = some relative)
      (some : relative ≠ []) (ends : Resolver.endsWithSlash requestPath = true)
      (noIndex : resolver.isFile (resolver.indexOf relative) = false)
      (isPage : resolver.isFile (resolver.pageOf relative) = true) :
    Redirects resolver requestPath (Resolver.trimEndSlashes requestPath)
  | toIndex (relative : Path) (isSafe : safeRelativePath requestPath = some relative)
      (some : relative ≠ []) (ends : Resolver.endsWithSlash requestPath = false)
      (noFile : resolver.isFile (join resolver.root relative) = false)
      (noPage : resolver.isFile (resolver.pageOf relative) = false)
      (isIndex : resolver.isFile (resolver.indexOf relative) = true) :
    Redirects resolver requestPath (requestPath ++ ['/'])

theorem derived_of_ends (resolver : Resolver) (relative : Path)
    (ends : Resolver.endsWithSlash requestPath = true) :
    resolver.derived requestPath relative = resolver.indexOf relative := if_pos (Or.inl ends)

theorem derived_of_open (resolver : Resolver) (ends : Resolver.endsWithSlash requestPath = false)
    (some : relative ≠ []) :
    resolver.derived requestPath relative = resolver.pageOf relative := by
  refine if_neg ?_
  rintro (isEnd | isNil)
  · exact Bool.false_ne_true (ends.symm.trans isEnd)
  · exact some isNil

theorem resolve_of_page (resolver : Resolver)
    (isSafe : safeRelativePath requestPath = some relative) (some : relative ≠ [])
    (ends : Resolver.endsWithSlash requestPath = false)
    (isPage : resolver.isFile (resolver.pageOf relative) = true) :
    ∃ path contentType, resolver.resolve requestPath = .file path contentType := by
  unfold Resolver.resolve
  rw [isSafe]
  dsimp only
  rw [derived_of_open resolver ends some, isPage]
  split
  · exact ⟨_, _, rfl⟩
  · exact ⟨_, _, rfl⟩

theorem resolve_of_index (resolver : Resolver)
    (isSafe : safeRelativePath requestPath = some relative)
    (ends : Resolver.endsWithSlash requestPath = true)
    (isIndex : resolver.isFile (resolver.indexOf relative) = true) :
    ∃ path contentType, resolver.resolve requestPath = .file path contentType := by
  unfold Resolver.resolve
  rw [isSafe]
  dsimp only
  rw [derived_of_ends resolver relative ends, isIndex]
  split
  · exact ⟨_, _, rfl⟩
  · exact ⟨_, _, rfl⟩

theorem resolve_eq_redirect_iff (resolver : Resolver) {requestPath location : List Char} :
    resolver.resolve requestPath = .redirect location ↔
      Redirects resolver requestPath location := by
  have fellBack : resolver.fallBack ≠ .redirect location := by
    unfold Resolver.fallBack
    split <;> exact nofun
  constructor
  · intro answers
    unfold Resolver.resolve at answers
    cases isSafe : safeRelativePath requestPath with
    | none =>
      rw [isSafe] at answers
      exact absurd answers fellBack
    | some relative =>
      rw [isSafe] at answers
      dsimp only at answers
      split at answers
      · exact nomatch answers
      · rename_i notExact
        split at answers
        · exact nomatch answers
        · rename_i notDerived
          split at answers
          · rename_i isPage
            obtain ⟨ends, some, isFile⟩ := isPage
            rw [derived_of_ends resolver relative ends] at notDerived
            rw [← Resolution.redirect.inj answers]
            exact .toPage relative isSafe some ends (Bool.eq_false_iff.mpr notDerived) isFile
          · split at answers
            · rename_i isIndex
              obtain ⟨noEnd, some, isFile⟩ := isIndex
              have ends := Bool.eq_false_iff.mpr noEnd
              rw [derived_of_open resolver ends some] at notDerived
              rw [← Resolution.redirect.inj answers]
              refine .toIndex relative isSafe some ends (Bool.eq_false_iff.mpr fun isExact => ?_)
                (Bool.eq_false_iff.mpr notDerived) isFile
              exact notExact ⟨some, noEnd, isExact⟩
            · exact absurd answers fellBack
  · intro redirects
    unfold Resolver.resolve
    cases redirects with
    | toPage relative isSafe some ends noIndex isPage =>
      rw [isSafe]
      dsimp only
      rw [derived_of_ends resolver relative ends, noIndex, ends, isPage]
      simp [some]
    | toIndex relative isSafe some ends noFile noPage isIndex =>
      rw [isSafe]
      dsimp only
      rw [derived_of_open resolver ends some, noFile, noPage, ends, isIndex]
      simp [some]

/-! ### The location resolves -/

theorem safeRelativePath_concat (requestPath : List Char) :
    safeRelativePath (requestPath ++ ['/']) = safeRelativePath requestPath := by
  unfold safeRelativePath
  have isSplit : (requestPath ++ ['/']).splitOn '/' = requestPath.splitOn '/' ++ [[]] :=
    List.splitOnP_append_cons requestPath [] (beq_self_eq_true '/')
  have passes : ∀ out : Path, pushSegment out [] = some out := fun out => if_pos (Or.inl rfl)
  rw [isSplit, List.foldlM_append]
  cases (requestPath.splitOn '/').foldlM pushSegment [] with
  | none => rfl
  | some out =>
    show ([[]] : List (List Char)).foldlM pushSegment out = some out
    rw [List.foldlM_cons, passes]
    rfl

theorem trimEndSlashes_concat (requestPath : List Char) :
    Resolver.trimEndSlashes (requestPath ++ ['/']) = Resolver.trimEndSlashes requestPath :=
  List.rdropWhile_concat_pos (fun character => character == '/') _ _ rfl

theorem trimEndSlashes_concat_of_ne {last : Char} (noSlash : last ≠ '/')
    (requestPath : List Char) :
    Resolver.trimEndSlashes (requestPath ++ [last]) = requestPath ++ [last] :=
  List.rdropWhile_concat_neg (fun character => character == '/') _ _ (by simpa using noSlash)

theorem safeRelativePath_trimEndSlashes (requestPath : List Char) :
    safeRelativePath (Resolver.trimEndSlashes requestPath) = safeRelativePath requestPath := by
  induction requestPath using List.reverseRecOn with
  | nil => rfl
  | append_singleton front last inductionHypothesis =>
    by_cases isSlash : last = '/'
    · rw [isSlash, trimEndSlashes_concat, inductionHypothesis, safeRelativePath_concat]
    · rw [trimEndSlashes_concat_of_ne isSlash]

theorem endsWithSlash_trimEndSlashes (requestPath : List Char) :
    Resolver.endsWithSlash (Resolver.trimEndSlashes requestPath) = false := by
  unfold Resolver.endsWithSlash Resolver.trimEndSlashes
  rw [beq_eq_false_iff_ne]
  intro isSlash
  obtain ⟨some, isLast⟩ := List.mem_getLast?_eq_getLast isSlash
  have noSlash := List.rdropWhile_last_not (fun character => character == '/') requestPath some
  rw [← isLast] at noSlash
  exact noSlash rfl

theorem resolve_location (resolver : Resolver) {requestPath location : List Char}
    (redirects : Redirects resolver requestPath location) :
    ∃ path contentType, resolver.resolve location = .file path contentType := by
  cases redirects with
  | toPage relative isSafe some ends noIndex isPage =>
    exact resolve_of_page resolver ((safeRelativePath_trimEndSlashes requestPath).trans isSafe)
      some (endsWithSlash_trimEndSlashes requestPath) isPage
  | toIndex relative isSafe some ends noFile noPage isIndex =>
    refine resolve_of_index resolver ((safeRelativePath_concat requestPath).trans isSafe) ?_
      isIndex
    simp [Resolver.endsWithSlash]

/-! ### The origin of a location -/

/-- A path on the same origin: one slash, and neither a slash nor a backslash behind it. -/
def IsOnOrigin (location : List Char) : Prop :=
  ∃ rest, location = '/' :: rest ∧ rest.head? ≠ some '/' ∧ rest.head? ≠ some '\\'

theorem exists_trimEndSlashes {first : Char} (noSlash : first ≠ '/') (more : List Char) :
    ∃ rest, Resolver.trimEndSlashes ('/' :: first :: more) = '/' :: first :: rest := by
  induction more using List.reverseRecOn with
  | nil => exact ⟨[], trimEndSlashes_concat_of_ne noSlash ['/']⟩
  | append_singleton front last inductionHypothesis =>
    have isConcat : '/' :: first :: (front ++ [last]) = ('/' :: first :: front) ++ [last] := rfl
    rw [isConcat]
    by_cases isSlash : last = '/'
    · rw [isSlash, trimEndSlashes_concat]
      exact inductionHypothesis
    · exact ⟨front ++ [last], trimEndSlashes_concat_of_ne isSlash _⟩

theorem pushSegment_backslash (out : Path) (rest : List Char) :
    pushSegment out ('\\' :: rest) = none := by
  have noName : ¬('\\' :: rest = [] ∨ '\\' :: rest = ".".toList) := by
    rintro (isNil | isDot)
    · exact nomatch isNil
    · exact absurd (List.cons.inj isDot).1 (by decide)
  unfold pushSegment
  rw [if_neg noName]
  cases isDecoded : percentDecode ('\\' :: rest) with
  | none => rfl
  | some decoded =>
    obtain ⟨signed, reads⟩ := percentDecode_eq_some_iff.mp isDecoded
    have isFirst : ∃ more, decoded = '\\' :: more := by
      generalize isBytes : bytesOf decoded = bytes at reads
      cases reads with
      | plain noSign later =>
        rw [encode_ascii (show '\\'.toNat < 128 by decide)] at isBytes
        obtain ⟨character, more, isText, isAscii, isCode, _⟩ :=
          exists_of_ascii_head isBytes (by decide)
        have codes := congrArg UInt8.toNat isCode
        rw [UInt8.toNat_ofNat', UInt8.toNat_ofNat', Nat.mod_eq_of_lt (by decide),
          Nat.mod_eq_of_lt (by omega)] at codes
        exact ⟨more, by rw [isText, Char.toNat_inj.mp codes]⟩
    obtain ⟨more, rfl⟩ := isFirst
    have refused : isRefused ('\\' :: more) = true := by simp [isRefused]
    rw [Option.bind_some, if_pos refused]

theorem splitOn_slash_cons (rest : List Char) :
    ('/' :: rest).splitOn '/' = [] :: rest.splitOn '/' := by
  exact List.splitOnP_append_cons (p := (· == '/')) [] rest rfl

theorem safeRelativePath_backslash (more : List Char) :
    safeRelativePath ('/' :: '\\' :: more) = none := by
  unfold safeRelativePath
  rw [splitOn_slash_cons, List.foldlM_cons]
  have passes : pushSegment [] [] = some [] := if_pos (Or.inl rfl)
  rw [passes]
  obtain ⟨segment, others, isSplit⟩ :
      ∃ segment others, ('\\' :: more).splitOn '/' = ('\\' :: segment) :: others := by
    obtain ⟨segment, others, isRest⟩ := List.exists_cons_of_ne_nil
      (List.splitOnP_ne_nil (· == '/') more)
    refine ⟨segment, others, ?_⟩
    show ('\\' :: more).splitOnP (· == '/') = _
    rw [List.splitOnP_cons_eq_if_modifyHead, isRest]
    rfl
  show (('\\' :: more).splitOn '/').foldlM pushSegment [] = none
  rw [isSplit, List.foldlM_cons, pushSegment_backslash]
  rfl

theorem safeRelativePath_root : safeRelativePath ['/'] = some [] := by decide

theorem isOnOrigin_iff (resolver : Resolver) {rest location : List Char}
    (redirects : Redirects resolver ('/' :: rest) location) :
    IsOnOrigin location ↔ rest.head? ≠ some '/' := by
  have isSome : ∃ relative, safeRelativePath ('/' :: rest) = some relative ∧ relative ≠ [] := by
    cases redirects with
    | toPage relative isSafe some _ _ _ => exact ⟨relative, isSafe, some⟩
    | toIndex relative isSafe some _ _ _ _ => exact ⟨relative, isSafe, some⟩
  obtain ⟨relative, isSafe, some⟩ := isSome
  constructor
  · rintro ⟨others, rfl, noSlash, _⟩ isSlash
    obtain ⟨more, rfl⟩ := List.head?_eq_some_iff.mp isSlash
    generalize isLocation : '/' :: others = location at redirects
    cases redirects with
    | toPage relative _ _ _ _ _ =>
      have isPrefix : '/' :: others <+: '/' :: '/' :: more :=
        isLocation ▸ List.rdropWhile_prefix _ _
      have notEnded := endsWithSlash_trimEndSlashes ('/' :: '/' :: more)
      rw [← isLocation] at notEnded
      cases others with
      | nil => exact nomatch notEnded
      | cons next later =>
        have isNext := (List.cons_prefix_cons.mp (List.cons_prefix_cons.mp isPrefix).2).1
        rw [isNext] at noSlash
        exact noSlash rfl
    | toIndex relative _ _ _ _ _ _ =>
      obtain ⟨_, isRest⟩ := List.cons.inj isLocation
      rw [isRest] at noSlash
      exact noSlash rfl
  · intro noSlash
    cases rest with
    | nil =>
      rw [safeRelativePath_root] at isSafe
      exact absurd (Option.some.inj isSafe).symm some
    | cons first more =>
      have firstPlain : first ≠ '/' := fun isSlash => noSlash (by rw [isSlash]; rfl)
      have noBackslash : first ≠ '\\' := by
        rintro rfl
        rw [safeRelativePath_backslash] at isSafe
        exact nomatch isSafe
      cases redirects with
      | toPage relative _ _ _ _ _ =>
        obtain ⟨kept, isTrimmed⟩ := exists_trimEndSlashes firstPlain more
        refine ⟨first :: kept, isTrimmed, ?_, ?_⟩
        · exact fun isSlash => firstPlain (Option.some.inj isSlash)
        · exact fun isBackslash => noBackslash (Option.some.inj isBackslash)
      | toIndex relative _ _ _ _ _ _ =>
        refine ⟨first :: (more ++ ['/']), rfl, ?_, ?_⟩
        · exact fun isSlash => firstPlain (Option.some.inj isSlash)
        · exact fun isBackslash => noBackslash (Option.some.inj isBackslash)

/-! ### A request path stays in the build -/

/-- What is said of a request path: a file is under the root, a redirect stays on the origin and
ends in a file, and a path is decoded where each percent sign has two digits and the bytes are
UTF-8. -/
structure StaysInBuild (resolver : Resolver) (requestPath : List Char) : Prop where
  contained : ∀ path contentType, resolver.resolve requestPath = .file path contentType →
    IsUnder resolver.root path
  redirects : ∀ location, resolver.resolve requestPath = .redirect location →
    IsOnOrigin location ∧ ∃ path contentType, resolver.resolve location = .file path contentType
  decodes : ∀ decoded, percentDecode requestPath = some decoded ↔
    Reads false requestPath (bytesOf decoded)

theorem decodes_iff (requestPath : List Char) :
    (∀ decoded, percentDecode requestPath = some decoded ↔
      Reads false requestPath (bytesOf decoded)) ↔
        ¬∃ decoded, Reads true requestPath (bytesOf decoded) := by
  constructor
  · rintro decodes ⟨decoded, reads⟩
    have isDecoded := percentDecode_eq_some_iff.mpr ⟨true, reads⟩
    exact absurd (signed_unique reads ((decodes decoded).mp isDecoded)) Bool.noConfusion
  · intro unsigned decoded
    rw [percentDecode_eq_some_iff]
    constructor
    · rintro ⟨signed, reads⟩
      cases signed with
      | false => exact reads
      | true => exact absurd ⟨decoded, reads⟩ unsigned
    · exact fun reads => ⟨false, reads⟩

/-- A request path stays in the build exactly where it is not redirected from two slashes, and no
escape of it is a sign and a digit. -/
theorem staysInBuild_iff (resolver : Resolver) (rest : List Char) :
    StaysInBuild resolver ('/' :: rest) ↔
      (rest.head? = some '/' → ¬∃ location, Redirects resolver ('/' :: rest) location) ∧
        ¬∃ decoded, Reads true ('/' :: rest) (bytesOf decoded) := by
  constructor
  · rintro ⟨_, redirected, decodes⟩
    refine ⟨?_, (decodes_iff _).mp decodes⟩
    rintro isSlash ⟨location, redirects⟩
    have onOrigin := (redirected location ((resolve_eq_redirect_iff resolver).mpr redirects)).1
    exact (isOnOrigin_iff resolver redirects).mp onOrigin isSlash
  · rintro ⟨single, unsigned⟩
    refine ⟨fun path contentType => isUnder_of_file resolver, ?_, (decodes_iff _).mpr unsigned⟩
    intro location answers
    have redirects := (resolve_eq_redirect_iff resolver).mp answers
    refine ⟨(isOnOrigin_iff resolver redirects).mpr fun isSlash => ?_,
      resolve_location resolver redirects⟩
    exact single isSlash ⟨location, redirects⟩

/-! ### A redirect to another origin -/

namespace TwoSlashes

/-- A build with the page of a directory. -/
def resolver : Resolver :=
  { root := "/srv".toList
    fallback := "200.html".toList
    isFile := fun path => path == "/srv/docs/index.html".toList }

/-- The path of the directory with two slashes in front is redirected to a host of its name. -/
theorem not_staysInBuild : ¬StaysInBuild resolver "//docs".toList := by
  intro stays
  have redirected : resolver.resolve "//docs".toList = .redirect "//docs/".toList := by decide
  obtain ⟨⟨rest, isLocation, noSlash, _⟩, _⟩ := stays.redirects _ redirected
  rw [← (List.cons.inj isLocation).2] at noSlash
  exact noSlash rfl

end TwoSlashes

end Twalk.StaticFiles
