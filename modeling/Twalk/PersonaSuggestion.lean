/-
This file models what a persona's process makes of the suggestion its handler returns:
`_process` and `_disclosed` of `sdk/python/twalk_sdk/persona.py`, with the sentences of
`sdk/python/twalk_sdk/disclosure.py` and the policy of `sdk/python/twalk_sdk/policy.py`. A handler's
texts are code points, of which a surrogate may be one. The sentence is selected by the language,
the texts are cut and encoded, and one reading of the clock gives both instants.
-/

import Twalk.Envelope
import Twalk.Library.CodePoints
import Twalk.Library.Rfc3339

namespace Twalk.Persona

open CodePoints

/-! ### The sentence -/

def contractSentences : List (String × String) :=
  [("en", "Drafted with my AI assistant."), ("fr", "Rédigé avec mon assistant IA."),
    ("it", "Scritto con il mio assistente IA."), ("es", "Redactado con mi asistente de IA."),
    ("de", "Verfasst mit meinem KI-Assistenten.")]

/-- An underscore as the hyphen a tag has in its place. -/
def hyphened (point : CodePoint) : CodePoint := if point = ofChar '_' then ofChar '-' else point

section Sentence

variable (lowercase : Lowercasing)

def primarySubtag (tag : List CodePoint) : List CodePoint :=
  ((lowercase.lower (strip tag)).map hyphened).takeWhile (· ≠ ofChar '-')

def sentenceFor (tag : Option (List CodePoint)) : Option String :=
  match tag with
  | none => none
  | some [] => none
  | some (first :: rest) =>
    (contractSentences.find? fun sentence =>
      ofText sentence.1 = primarySubtag lowercase (first :: rest)).map Prod.snd

end Sentence

/-! ### The policy -/

/-- How a persona's suggestions age. -/
structure SuggestionPolicy where
  ttlSeconds : Nat
  atLeastASecond : 1 ≤ ttlSeconds

/-- The first microsecond past the last year of a `datetime`. -/
def pastTheLastYear : Nat := 253402300800000000

/-- An instant, in microseconds from the epoch, to the second. -/
def rfc3339 (moment : Nat) : String := Rfc3339.write (moment / 1000000 * 1000000000 : Nat)

def SuggestionPolicy.expiresAt (policy : SuggestionPolicy) (producedAt : Nat) : Option String :=
  let moment := producedAt + policy.ttlSeconds * 1000000
  if moment < pastTheLastYear then some (rfc3339 moment) else none

/-! ### The suggestion -/

def suggestionFormats : List String := ["text/plain", "text/markdown", "text/html"]

/-- What a handler returns. The type refuses another format and another sentence than the
contract's when it is built; its checks of the confidence and of the context only refuse more. -/
structure Proposed where
  body : List CodePoint
  format : String
  confidence : Option Json
  rationale : Option (List CodePoint)
  language : Option (List CodePoint)
  disclosure : Option String
  context : Option (List CodePoint)
  formatKnown : format ∈ suggestionFormats
  disclosureKnown : ∀ sentence ∈ disclosure, sentence ∈ contractSentences.map Prod.snd

/-- A text that is left out, or cut and encoded. -/
def encodeOptional (most : Nat) : Option (List CodePoint) → Option (Option String)
  | none => some none
  | some points => (encode (points.take most)).map some

/-- A suggestion with the sentence that was selected, its texts cut and encoded. A context is not
cut, since a longer one is refused when it is built. -/
def Proposed.encoded (proposed : Proposed) (sentence : String) : Option Suggestion := do
  let body ← encode (proposed.body.take maxBodyChars)
  let rationale ← encodeOptional maxRationaleChars proposed.rationale
  let context ← encodeOptional (proposed.context.getD []).length proposed.context
  return {
    body := body
    format := proposed.format
    confidence := proposed.confidence
    rationale := rationale
    disclosure := some sentence
    context := context }

/-- Why no suggestion is published. -/
inductive Unpublished where
  | languageAskFailed (detail : String)
  | noSentence (language : Option (List CodePoint))
  | pastTheLastYear
  | unencodable
  | envelope (error : EnvelopeError)

/-- The language of a suggestion: the author's when they said, and the model's answer otherwise. -/
def languageOf (proposed : Proposed) (answered : Except String (Option (List CodePoint))) :
    Except Unpublished (Option (List CodePoint)) :=
  match proposed.language with
  | some language => .ok (some language)
  | none => answered.mapError .languageAskFailed

def disclosed (lowercase : Lowercasing) (proposed : Proposed)
    (answered : Except String (Option (List CodePoint))) : Except Unpublished String := do
  let language ← languageOf proposed answered
  match sentenceFor lowercase language with
  | some sentence => return sentence
  | none => throw (.noSentence language)

def publishes (lowercase : Lowercasing) (policy : SuggestionPolicy) (personaId source : String)
    (trigger : Json) (proposed : Proposed) (answered : Except String (Option (List CodePoint)))
    (producedAt : Nat) : Except Unpublished Json := do
  let sentence ← disclosed lowercase proposed answered
  match policy.expiresAt producedAt with
  | none => throw .pastTheLastYear
  | some expiresAt =>
    match proposed.encoded sentence with
    | none => throw .unencodable
    | some suggestion =>
      (suggestEvent personaId source trigger suggestion firstAttempt (rfc3339 producedAt)
        (some expiresAt)).mapError .envelope

end Twalk.Persona
