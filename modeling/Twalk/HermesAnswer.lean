/-
This file models what the Gateway reads of a push of Hermes, the first half of
`companion-gateway/src/hermes_answer.rs`, with the contract's sentences as
`companion-gateway/src/disclosure.rs` looks them up. What the model wrote is unwrapped and parsed
into a draft or into a question to the owner. Each carries a reference, wherever it stands in the
text: the persona, the message and the attempt that the id of a suggestion is the digest of.
-/

import Twalk.Approval

namespace Twalk

namespace Approval

/-! ### The sentence of a language -/

def primarySubtag (tag : String) : String :=
  Text.trim (String.ofList (tag.toList.takeWhile (· ≠ '-')))

def sentenceFor (tag : String) : Option String :=
  (sentences.find? fun sentence =>
    sentence.1 == Text.toAsciiLowercase (primarySubtag tag)).map Prod.snd

theorem mem_sentences_of_sentenceFor {tag sentence : String}
    (found : sentenceFor tag = some sentence) :
    (Text.toAsciiLowercase (primarySubtag tag), sentence) ∈ sentences := by
  obtain ⟨⟨language, text⟩, isFound, rfl⟩ := Option.map_eq_some_iff.mp found
  have same := eq_of_beq (List.find?_some isFound :)
  rw [← show language = _ from same]
  exact List.mem_of_find?_eq_some isFound

variable {language sentence : String}

theorem isContractSentence_of_mem (member : (language, sentence) ∈ sentences) :
    isContractSentence sentence = true :=
  List.any_eq_true.mpr ⟨_, member, beq_self_eq_true sentence⟩

theorem count_le_of_mem (member : (language, sentence) ∈ sentences) :
    Text.count sentence ≤ maxDisclosure := by
  have each : ∀ other ∈ sentences, Text.count other.2 ≤ maxDisclosure := by
    unfold sentences Text.count maxDisclosure
    simp
  exact each _ member

theorem fitsWithDisclosure_of_le {language body sentence : String}
    (short : Text.count body ≤ maxBody) (member : (language, sentence) ∈ sentences) :
    fitsWithDisclosure body sentence = true := by
  have shortToo := count_le_of_mem member
  unfold maxBody maxDisclosure contractMaxBody at *
  unfold fitsWithDisclosure contractMaxBody
  rw [decide_eq_true_eq]
  omega

end Approval

namespace HermesAnswer

/-! ### Constants -/

def signaturePrefix : String := "sha256="

def hookEvent : String := "transform_llm_output"

def webhookPlatform : String := "webhook"

/-- How far a push's own timestamp may be from this clock. -/
def clockSkewSeconds : Int := 300

/-- The token a persona puts in the wake, and Hermes copies into its answer. -/
def referencePrefix : String := "TWALK-REF:"

def maxSummary : Nat := 280

def maxAsked : Nat := maxSummary

def maxProposed : Nat := 8

/-! ### Instants -/

/-- An integer out of a slice of a text, which may carry a sign. -/
def numberOf (slice : List Char) : Option Int :=
  let digits : List Char → Option Nat := fun characters =>
    if characters ≠ [] ∧ characters.all Char.isDigit then
      some (characters.foldl (fun value digit => value * 10 + (digit.toNat - 48)) 0)
    else none
  match slice with
  | '-' :: rest => (digits rest).map fun value => -(value : Int)
  | '+' :: rest => (digits rest).map fun value => (value : Int)
  | _ => (digits slice).map fun value => (value : Int)

def daysFromCivil (year month day : Int) : Int :=
  let year := if month ≤ 2 then year - 1 else year
  let era := (if 0 ≤ year then year else year - 399).tdiv 400
  let yearOfEra := year - era * 400
  let dayOfYear := (153 * (if 2 < month then month - 3 else month + 9) + 2).tdiv 5 + day - 1
  let dayOfEra := yearOfEra * 365 + yearOfEra.tdiv 4 - yearOfEra.tdiv 100 + dayOfYear
  era * 146097 + dayOfEra - 719468

/-- The seconds a text's own time is ahead by, and zero for one that names no offset. -/
def offsetOf (tail : List Char) : Option Int :=
  match tail.dropWhile fun character => character != '+' && character != '-' with
  | [] => some 0
  | sign :: rest => do
    let hours ← match rest with
      | first :: second :: _ => numberOf [first, second]
      | _ => none
    let minutes := match rest.drop 2 with
      | separator :: first :: second :: _ =>
        if separator.toNat < 128 then (numberOf [first, second]).getD 0 else 0
      | _ => 0
    return (if sign = '-' then -1 else 1) * (hours * 3600 + minutes * 60)

/-- Seconds from the epoch out of an instant's text. Its fields stand at fixed bytes, so that what
stands before the twentieth is ASCII. -/
def parseRfc3339Seconds (value : String) : Option Int :=
  let characters := value.toList
  if value.utf8ByteSize < 20 ∨ ¬ (characters.take 19).all (·.toNat < 128) then none
  else do
    let field := fun start width => numberOf ((characters.drop start).take width)
    let year ← field 0 4
    let month ← field 5 2
    let day ← field 8 2
    let hour ← field 11 2
    let minute ← field 14 2
    let second ← field 17 2
    if 1 ≤ month ∧ month ≤ 12 ∧ 1 ≤ day ∧ day ≤ 31 then do
      let ahead ← offsetOf (characters.drop 19)
      return daysFromCivil year month day * 86400 + hour * 3600 + minute * 60 + second - ahead
    else none

def isFresh (timestamp : String) (now : Int) : Bool :=
  match parseRfc3339Seconds timestamp with
  | none => false
  | some sent => (now - sent).natAbs ≤ clockSkewSeconds

/-- The day of the calendar that many days from the epoch. -/
def civilFromDays (days : Int) : Int × Nat × Nat :=
  let days := days + 719468
  let era := (if 0 ≤ days then days else days - 146096).tdiv 146097
  let dayOfEra := days - era * 146097
  let yearOfEra := (dayOfEra - dayOfEra.tdiv 1460 + dayOfEra.tdiv 36524 -
    dayOfEra.tdiv 146096).tdiv 365
  let year := yearOfEra + era * 400
  let dayOfYear := dayOfEra - (365 * yearOfEra + yearOfEra.tdiv 4 - yearOfEra.tdiv 100)
  let fromMarch := (5 * dayOfYear + 2).tdiv 153
  let day := (dayOfYear - (153 * fromMarch + 2).tdiv 5 + 1).toNat
  let month := (if fromMarch < 10 then fromMarch + 3 else fromMarch - 9).toNat
  (if month ≤ 2 then year + 1 else year, month, day)

/-- A number with zeros before it up to a width. -/
def padded (width value : Nat) : String :=
  let digits := (toString value).toList
  String.ofList (List.replicate (width - digits.length) '0' ++ digits)

/-- An instant, in seconds from the epoch, as the contract's date and time. -/
def rfc3339Seconds (seconds : Nat) : String :=
  let (year, month, day) := civilFromDays (seconds / 86400 : Nat)
  let inDay := seconds % 86400
  padded 4 year.toNat ++ "-" ++ padded 2 month ++ "-" ++ padded 2 day ++ "T" ++
    padded 2 (inDay / 3600) ++ ":" ++ padded 2 (inDay % 3600 / 60) ++ ":" ++
      padded 2 (inDay % 60) ++ "Z"

/-! ### What a reply names -/

/-- The tables of letters a language's standard library has. -/
structure Letters where
  toLowercase : String → String
  isAlphanumeric : Char → Bool

def Letters.words (letters : Letters) (alsoInWord : Char → Bool) (text : String) : List String :=
  ((letters.toLowercase text).toList.splitOnP fun character =>
    !letters.isAlphanumeric character && !alsoInWord character).map String.ofList

/-- The ISO weekday of an instant, in seconds from the epoch of the owner's own time. -/
def weekdayOf (localSeconds : Int) : Nat := ((localSeconds / 86400 % 7).toNat + 3) % 7 + 1

/-- The names of the weekdays, by their ISO number. -/
def weekdayNames : List (Nat × List String) := [
  (1, ["lundi", "monday", "montag", "lunes", "lunedì", "lunedi"]),
  (2, ["mardi", "tuesday", "dienstag", "martes", "martedì", "martedi"]),
  (3, ["mercredi", "wednesday", "mittwoch", "miércoles", "miercoles", "mercoledì", "mercoledi"]),
  (4, ["jeudi", "thursday", "donnerstag", "jueves", "giovedì", "giovedi"]),
  (5, ["vendredi", "friday", "freitag", "viernes", "venerdì", "venerdi"]),
  (6, ["samedi", "saturday", "samstag", "sonnabend", "sábado", "sabado", "sabato"]),
  (7, ["dimanche", "sunday", "sonntag", "domingo", "domenica"])]

def weekdaysNamed (letters : Letters) (text : String) : List Nat :=
  let words := (letters.words (fun _ => false) text).filter fun word => word != ""
  (weekdayNames.filter fun weekday => weekday.2.any words.contains).map Prod.fst

/-- Whether what follows one or two digits makes a time of them: an hour mark, minutes, or a
meridiem. -/
def marksATime (rest : List Char) : Bool :=
  let hour : List Char → Bool := fun rest =>
    match rest with
    | mark :: _ => mark = 'h' || mark = 'H'
    | [] => false
  let meridiem : List Char → Bool := fun rest =>
    match rest with
    | half :: mark :: _ =>
      (half = 'a' || half = 'A' || half = 'p' || half = 'P') && (mark = 'm' || mark = 'M')
    | _ => false
  match rest with
  | ' ' :: spaced => hour spaced || meridiem spaced
  | ':' :: tens :: units :: _ => tens.isDigit && units.isDigit
  | _ => hour rest || meridiem rest

/-- Whether a run of one or two digits in a text is followed by what makes a time of it. The digits
of the run so far are counted. -/
def digitsNameATime : Nat → List Char → Bool
  | run, [] => (run = 1 || run = 2) && marksATime []
  | run, character :: rest =>
    if character.isDigit then digitsNameATime (run + 1) rest
    else ((run = 1 || run = 2) && marksATime (character :: rest)) || digitsNameATime 0 rest

/-- Whether a reply's text names something like a time. -/
def namesATime (letters : Letters) (text : String) : Bool :=
  digitsNameATime 0 text.toList ||
    (letters.words (· = '-') text).any fun word =>
      ["midi", "minuit", "noon", "midnight"].contains word

def covers (range : Int × Int) (instant : Int) : Bool :=
  range.1 ≤ instant && instant < range.2

/-! ### The reference -/

/-- The three facts the envelope of a suggestion is keyed on. -/
structure Reference where
  personaId : String
  triggerEventId : String
  attempt : Nat
deriving DecidableEq, Repr

namespace Reference

/-- What follows the first occurrence of a text. -/
def following (needle : List Char) : List Char → Option (List Char)
  | [] => if needle = [] then some [] else none
  | character :: rest =>
    if needle.isPrefixOf (character :: rest) then some ((character :: rest).drop needle.length)
    else following needle rest

def isPersonaId (id : String) : Bool :=
  id != "" && id.toList.all fun character =>
    character.isLower || character.isDigit || character == '_' || character == '-'

/-- The number some digits are, unless 64 bits cannot hold it. -/
def attemptOf (digits : List Char) : Option Nat :=
  let value := digits.foldl (fun value digit => value * 10 + (digit.toNat - 48)) 0
  if digits ≠ [] ∧ 1 ≤ value ∧ value ≤ 0xffffffffffffffff then some value else none

def find (haystack : String) : Option Reference := do
  let rest ← following referencePrefix.toList haystack.toList
  let (personaId, rest) ← Text.splitOnce ':' (String.ofList rest)
  let (triggerEventId, tail) ← Text.splitOnce ':' rest
  if isPersonaId personaId ∧ Approval.isEventId triggerEventId then
    let attempt ← attemptOf (tail.toList.takeWhile Char.isDigit)
    return ⟨personaId, triggerEventId, attempt⟩
  else none

def token (reference : Reference) : String :=
  referencePrefix ++ reference.personaId ++ ":" ++ reference.triggerEventId ++ ":" ++
    toString reference.attempt

def suggestionEventId (reference : Reference) : String :=
  sha256Hex (reference.personaId ++ ":" ++ reference.triggerEventId ++ ":" ++
    toString reference.attempt)

end Reference

/-! ### What arrives -/

/-- A push, as much of it as is read. What the push says of its session, its model and its delivery
is only logged. -/
structure Push where
  hookEventName : String
  timestamp : String
  responseText : String
  platform : String

def textOrEmpty (document : Json) (name : String) : Option String :=
  match document.get? name with
  | none => some ""
  | some (.string value) => some value
  | some _ => none

def Push.read (document : Json) : Option Push := do
  let hookEventName ← Approval.text document "hook_event_name"
  let _ ← textOrEmpty document "delivery_id"
  let timestamp ← textOrEmpty document "timestamp"
  let extra ← document.get? "extra"
  let _ ← match extra with
    | .object members => some members
    | _ => none
  let responseText ← textOrEmpty extra "response_text"
  let _ ← textOrEmpty extra "session_id"
  let platform ← textOrEmpty extra "platform"
  let _ ← textOrEmpty extra "model"
  return ⟨hookEventName, timestamp, responseText, platform⟩

/-- The answer Hermes is asked to write. -/
structure Answer where
  reference : Reference
  reply : String
  language : String
  disclosure : String
  summary : Option String
  proposed : List String

/-- A wake that ended in a question to the owner instead of a draft. -/
structure Deferral where
  reference : Reference
  asked : String

inductive Outcome where
  | drafted (answer : Answer)
  | deferred (deferral : Deferral)

/-- What of an answer is not what the route asks for. -/
inductive Unreadable where
  | notJson
  | notAnObject
  | deferredNotText
  | summaryNotText
deriving DecidableEq, Repr

inductive AnswerRefusal where
  | unauthenticated
  | malformed
  | stale (timestamp : String)
  | unreadable (why : Unreadable)
  | noReference
  | noLanguage
  | languageUnreadable (language : String)
  | languageUnsupported (language : String)
  | emptyReply
  | replyTooLong (length : Nat)
  | emptySummary
  | summaryTooLong (length : Nat)
  | emptyDeferral
  | proposedUnreadable (said : Json)
  | tooManyProposed (count : Nat)
  | proposedNotRead (instant : String)
  | proposedNotFree (instant : String)
  | proposedWrongDay (named offered : List Nat)
  | proposedUncheckable (detail : String)
  | shared (refusal : Approval.Refusal)

def AnswerRefusal.code : AnswerRefusal → String
  | unauthenticated => "unauthenticated"
  | malformed => "invalid_request"
  | stale _ => "hermes_answer_stale"
  | unreadable _ => "hermes_answer_unreadable"
  | noReference => "hermes_answer_has_no_reference"
  | noLanguage => "hermes_answer_has_no_language"
  | languageUnreadable _ => "hermes_answer_language_unreadable"
  | languageUnsupported _ => "hermes_answer_language_unsupported"
  | emptyReply => "hermes_answer_is_empty"
  | replyTooLong _ => "hermes_answer_too_long"
  | emptySummary => "hermes_answer_summary_is_empty"
  | summaryTooLong _ => "hermes_answer_summary_too_long"
  | emptyDeferral => "hermes_answer_deferral_is_empty"
  | proposedUnreadable _ => "hermes_answer_proposed_unreadable"
  | tooManyProposed _ => "hermes_answer_proposed_too_many"
  | proposedNotRead _ => "hermes_answer_proposed_not_read"
  | proposedNotFree _ => "hermes_answer_proposed_not_free"
  | proposedWrongDay _ _ => "hermes_answer_proposed_wrong_day"
  | proposedUncheckable _ => "hermes_answer_proposed_uncheckable"
  | shared refusal => refusal.code

/-! ### Parsing an answer -/

/-- A text without the end it may have. -/
def stripSuffix (tail value : String) : Option String :=
  if tail.toList.isSuffixOf value.toList then
    some (String.ofList (value.toList.take (value.toList.length - tail.toList.length)))
  else none

/-- The inside of a fenced block, and any other text as it is. -/
def unfence (text : String) : String :=
  match Approval.stripPrefix "```" text with
  | none => text
  | some rest =>
    let body := ((Text.splitOnce '\n' rest).map Prod.snd).getD ""
    Text.trim ((stripSuffix "```" (String.ofList (Text.trimEnd body.toList))).getD body)

def isLanguageTag (value : String) : Bool :=
  match value.toList.splitOn '-' with
  | [] => false
  | primary :: subtags =>
    2 ≤ primary.length && primary.length ≤ 3 && primary.all Char.isLower &&
      subtags.all fun subtag =>
        1 ≤ subtag.length && subtag.length ≤ 8 && subtag.all Char.isAlphanum

def trimmedMember (value : Json) (name : String) : String :=
  Text.trim (((value.get? name).bind Json.asStr).getD "")

def referenceOf (value : Json) (text : String) : Except AnswerRefusal Reference :=
  match (((value.get? "reference").bind Json.asStr).bind Reference.find).or
    (Reference.find text) with
  | some reference => .ok reference
  | none => .error .noReference

def languageOf (value : Json) : Except AnswerRefusal (String × String) :=
  let language := trimmedMember value "language"
  if language = "" then .error .noLanguage
  else if !isLanguageTag language then .error (.languageUnreadable language)
  else
    match Approval.sentenceFor language with
    | none => .error (.languageUnsupported language)
    | some disclosure => .ok (Approval.primarySubtag language, disclosure)

def replyOf (value : Json) : Except AnswerRefusal String :=
  let reply := trimmedMember value "reply"
  if reply = "" then .error .emptyReply
  else if Approval.maxBody < Text.count reply then .error (.replyTooLong (Text.count reply))
  else .ok reply

def summaryOf (value : Json) : Except AnswerRefusal (Option String) :=
  match value.get? "summary" with
  | none => .ok none
  | some .null => .ok none
  | some (.string summary) =>
    let summary := Text.trim summary
    if summary = "" then .error .emptySummary
    else if maxSummary < Text.count summary then .error (.summaryTooLong (Text.count summary))
    else .ok (some summary)
  | some _ => .error (.unreadable .summaryNotText)

def proposedInstant (instant : Json) : Except AnswerRefusal String :=
  match instant.asStr.map Text.trim with
  | none => .error (.proposedUnreadable instant)
  | some said =>
    if (parseRfc3339Seconds said).isNone then .error (.proposedUnreadable (.string said))
    else .ok said

def proposedOf (value : Json) : Except AnswerRefusal (List String) :=
  match value.get? "proposed" with
  | none => .ok []
  | some .null => .ok []
  | some (.array instants) =>
    if maxProposed < instants.length then .error (.tooManyProposed instants.length)
    else instants.mapM proposedInstant
  | some said => .error (.proposedUnreadable said)

section Parsing

variable (jsonOf : String → Option Json)

def objectOf (written : String) : Except AnswerRefusal (Json × String) :=
  let text := unfence (Text.trim written)
  match jsonOf text with
  | none => .error (.unreadable .notJson)
  | some (.object members) => .ok (.object members, text)
  | some _ => .error (.unreadable .notAnObject)

def parseAnswer (written : String) : Except AnswerRefusal Answer := do
  let (value, text) ← objectOf jsonOf written
  let reference ← referenceOf value text
  let (language, disclosure) ← languageOf value
  let reply ← replyOf value
  let summary ← summaryOf value
  let proposed ← proposedOf value
  return ⟨reference, reply, language, disclosure, summary, proposed⟩

/-- The question of an answer that carries one, trimmed. -/
def askedOf (value : Json) : Except AnswerRefusal (Option String) :=
  match value.get? "deferred" with
  | none => .ok none
  | some .null => .ok none
  | some (.string asked) => .ok (some (Text.trim asked))
  | some _ => .error (.unreadable .deferredNotText)

def parseOutcome (written : String) : Except AnswerRefusal Outcome :=
  match objectOf jsonOf written with
  | .error _ => (parseAnswer jsonOf written).map .drafted
  | .ok (value, text) => do
    let asked ← askedOf value
    match asked with
    | none => (parseAnswer jsonOf written).map .drafted
    | some asked =>
      if trimmedMember value "reply" ≠ "" then (parseAnswer jsonOf written).map .drafted
      else if asked = "" then .error .emptyDeferral
      else do
        let reference ← referenceOf value text
        return .deferred ⟨reference, String.ofList (asked.toList.take maxAsked)⟩

end Parsing

end HermesAnswer

end Twalk
