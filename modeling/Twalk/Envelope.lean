/-
This file models the envelopes a persona publishes, `sdk/python/twalk_sdk/envelope.py`, with the
trigger they are built from, `sdk/python/twalk_sdk/trigger.py`, and the age its policy gives a
suggestion. An id is the digest of a natural key, so a trigger that comes back is answered under
the id it was answered under before. The network, the connection and the consent label of an
envelope are the trigger's own, copied.
-/

import Twalk.Grant
import Twalk.Library.Sha256
import Twalk.Library.Text

namespace Twalk.Persona

/-! ### The trigger -/

def attributeOf (event : Json) (name : String) : Option String := event.textAt [name]

/-- The natural key of everything a persona publishes about a trigger. -/
def eventIdOf (event : Json) : String := (attributeOf event "id").getD ""

def eventTypeOf (event : Json) : String := (attributeOf event "type").getD ""

/-- The name of the sender, as the trigger's own envelope carries it. -/
def senderDisplayName (event : Json) : Option String :=
  event.textAt ["data", "contact", "display_name"]

/-! ### What is published -/

def thinkingType : String := "fr.linagora.twalk.persona.thinking.emitted.v1"

def suggestType : String := "fr.linagora.twalk.persona.suggest.produced.v1"

def schemaBase : String := "https://schemas.twalk.dev/cloudevents/v1"

/-- The number of a persona's first suggestion for a trigger, and the only one it produces. -/
def firstAttempt : Int := 1

def disclosureMaxChars : Nat := 200

/-- The contract's cap on a body, less the disclosure and its newline. -/
def maxBodyChars : Nat := 65536 - 1 - disclosureMaxChars

def maxContactChars : Nat := 120

def maxRationaleChars : Nat := 2048

/-- What a persona proposes. -/
structure Suggestion where
  body : String
  format : String
  confidence : Option Json
  rationale : Option String
  disclosure : Option String
  context : Option String

/-- The persona asked for an envelope the contract has no shape for. -/
inductive EnvelopeError where
  | attemptStartsAtOne (attempt : Int)
  | noEventId
  | noExtensions (network consent : Option String)
  | noConnection
deriving DecidableEq, Repr

/-- The digest of a natural key's parts, joined by colons. -/
def deterministicId (parts : List String) : String := sha256Hex (":".intercalate parts)

def thinkingId (personaId triggerEventId : String) : String :=
  deterministicId [personaId, triggerEventId]

def suggestId (personaId triggerEventId : String) (attempt : Int) : String :=
  deterministicId [personaId, triggerEventId, toString attempt]

def upToLastDot (text : String) : String :=
  match text.toList.reverse.dropWhile (· ≠ '.') with
  | [] => text
  | _ :: front => String.ofList front.reverse

def removePrefix (lead text : String) : String :=
  if lead.toList.isPrefixOf text.toList then String.ofList (text.toList.drop lead.toList.length)
  else text

def dataschemaOf (eventType : String) : String :=
  schemaBase ++ "/" ++ upToLastDot (removePrefix "fr.linagora.twalk." eventType) ++ ".schema.json"

def capChars (value : String) (most : Nat) : String := String.ofList (value.toList.take most)

/-- A text, unless it is absent or empty. -/
def stated (value : Option String) : Option String := value.filter fun text => text != ""

/-- A member of a document that is left out when there is nothing to say. -/
def optionalMember (name : String) (value : Option String) : List (String × Json) :=
  match stated value with
  | some text => [(name, .string text)]
  | none => []

def baseEvent (eventType eventId source : String) (trigger : Json) (time : String) :
    Except EnvelopeError (List (String × Json)) :=
  if eventIdOf trigger = "" then .error .noEventId
  else
    match stated (attributeOf trigger "network"), stated (attributeOf trigger "consent") with
    | some network, some consent =>
      match stated (attributeOf trigger "connection") with
      | none => .error .noConnection
      | some connection => .ok ([
          ("specversion", .string "1.0"),
          ("id", .string eventId),
          ("source", .string source),
          ("type", .string eventType),
          ("time", .string time),
          ("subject", .string (eventIdOf trigger)),
          ("datacontenttype", .string "application/json"),
          ("dataschema", .string (dataschemaOf eventType))] ++
          optionalMember "traceparent" (attributeOf trigger "traceparent") ++ [
          ("network", .string network),
          ("connection", .string connection),
          ("consent", .string consent)])
    | _, _ => .error (.noExtensions (attributeOf trigger "network") (attributeOf trigger "consent"))

def triggerReference (trigger : Json) : Json :=
  .object [("event_id", .string (eventIdOf trigger)), ("event_type", .string (eventTypeOf trigger))]

def contextOf (trigger : Json) (suggestion : Suggestion) : List (String × Json) :=
  match stated suggestion.context with
  | none => []
  | some summary =>
    let contact := (stated (senderDisplayName trigger)).map (capChars · maxContactChars)
    [("context", .object (("summary", .string summary) :: optionalMember "contact" contact))]

def suggestData (personaId : String) (trigger : Json) (suggestion : Suggestion) (attempt : Int)
    (expiresAt : Option String) : Json :=
  .object ([
    ("persona_id", .string personaId),
    ("trigger", triggerReference trigger),
    ("suggestion", .object [
      ("body", .string (capChars suggestion.body maxBodyChars)),
      ("format", .string suggestion.format)]),
    ("attempt", .number attempt)] ++
    contextOf trigger suggestion ++
    (match suggestion.confidence with
      | some confidence => [("confidence", confidence)]
      | none => []) ++
    optionalMember "rationale"
      ((stated suggestion.rationale).map (capChars · maxRationaleChars)) ++
    optionalMember "expires_at" expiresAt ++
    optionalMember "disclosure" suggestion.disclosure)

def suggestEvent (personaId source : String) (trigger : Json) (suggestion : Suggestion)
    (attempt : Int) (time : String) (expiresAt : Option String) : Except EnvelopeError Json :=
  if attempt < 1 then .error (.attemptStartsAtOne attempt)
  else
    (baseEvent suggestType (suggestId personaId (eventIdOf trigger) attempt) source trigger
      time).map fun members =>
        .object (members ++ [("data", suggestData personaId trigger suggestion attempt expiresAt)])

def thinkingEvent (personaId source : String) (trigger : Json) (model : Option String)
    (time : String) : Except EnvelopeError Json :=
  (baseEvent thinkingType (thinkingId personaId (eventIdOf trigger)) source trigger
    time).map fun members =>
      .object (members ++ [("data", .object ([
        ("persona_id", .string personaId),
        ("trigger", triggerReference trigger)] ++ optionalMember "model" model))])

example : dataschemaOf suggestType =
    "https://schemas.twalk.dev/cloudevents/v1/persona.suggest.produced.schema.json" := by decide

/-! ### What an envelope says -/

section Envelope

variable {personaId source : String} {trigger : Json} {suggestion : Suggestion} {attempt : Int}
  {time : String} {expiresAt : Option String} {document : Json}

theorem stated_eq_some_iff {value : Option String} {text : String} :
    stated value = some text ↔ value = some text ∧ text ≠ "" := by
  unfold stated
  rw [Option.filter_eq_some_iff, bne_iff_ne]

/-- What the trigger of an envelope that is built carries: it names its network, its connection
and its consent, and all three are copied. -/
structure Carried (eventId : String) (trigger document : Json) : Prop where
  id : document.textAt ["id"] = some eventId
  subject : document.textAt ["subject"] = some (eventIdOf trigger)
  network : document.textAt ["network"] = attributeOf trigger "network"
  connection : document.textAt ["connection"] = attributeOf trigger "connection"
  consent : document.textAt ["consent"] = consentOf trigger

theorem carried_of_baseEvent {eventType eventId : String} {members : List (String × Json)}
    {data : Json} (built : baseEvent eventType eventId source trigger time = .ok members) :
    Carried eventId trigger (.object (members ++ [("data", data)])) := by
  unfold baseEvent at built
  split at built
  · cases built
  · split at built
    · rename_i network consent isNetwork isConsent
      split at built
      · cases built
      · rename_i connection isConnection
        cases built
        have network := (stated_eq_some_iff.mp isNetwork).1
        have consent := (stated_eq_some_iff.mp isConsent).1
        have connection := (stated_eq_some_iff.mp isConnection).1
        unfold optionalMember
        refine ⟨?_, ?_, ?_, ?_, ?_⟩
        · simp [Json.textAt, Json.get?, Json.lookup]
        · simp [Json.textAt, Json.get?, Json.lookup]
        · rw [network]
          split <;> simp [Json.textAt, Json.get?, Json.lookup]
        · rw [connection]
          split <;> simp [Json.textAt, Json.get?, Json.lookup]
        · rw [consentOf, show trigger.textAt ["consent"] = _ from consent]
          split <;> simp [Json.textAt, Json.get?, Json.lookup]
    · cases built

theorem carried_of_suggestEvent
    (built : suggestEvent personaId source trigger suggestion attempt time expiresAt =
      .ok document) :
    Carried (suggestId personaId (eventIdOf trigger) attempt) trigger document := by
  unfold suggestEvent at built
  split at built
  · cases built
  · cases base : baseEvent suggestType (suggestId personaId (eventIdOf trigger) attempt) source
        trigger time with
    | error refusal =>
      rw [base] at built
      cases built
    | ok members =>
      rw [base] at built
      cases built
      exact carried_of_baseEvent base

end Envelope

end Twalk.Persona
