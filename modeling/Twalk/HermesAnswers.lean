/-
This file models what becomes of a push of Hermes, the second half of
`companion-gateway/src/hermes_answer.rs`, with the reads of `companion-gateway/src/approval.rs` and
the rows of `companion-gateway/src/store.rs` it rests on: the sender is authenticated, the answer
read, its message found on the bus and its contact's consent asked for, the times it offers are
checked, and then the suggestion is published, or the question written into the owner's journal.
What can go wrong outside is an argument of a reception.
-/

import Twalk.HermesAnswer

namespace Twalk.HermesAnswer

open Consent Approval

/-! ### The message an answer is about -/

/-- What is read of the message an answer is about. -/
structure TriggerEnvelopeDocument where
  id : String
  eventType : String
  subject : String
  network : String
  connection : Option String
  consent : String
  traceparent : Option String
  displayName : Option String

def optionalObject (document : Json) (name : String) : Option (Option Json) :=
  match document.get? name with
  | none => some none
  | some .null => some none
  | some (.object members) => some (some (.object members))
  | some _ => none

def readDisplayName (document : Json) : Option (Option String) := do
  match ← optionalObject document "data" with
  | none => some none
  | some data =>
    match ← optionalObject data "contact" with
    | none => some none
    | some contact => optionalText contact "display_name"

def TriggerEnvelopeDocument.read (document : Json) : Option TriggerEnvelopeDocument := do
  let connection ← optionalText document "connection"
  let id ← text document "id"
  let eventType ← text document "type"
  let subject ← text document "subject"
  let network ← text document "network"
  let consent ← text document "consent"
  let traceparent ← optionalText document "traceparent"
  let displayName ← readDisplayName document
  return ⟨id, eventType, subject, network, connection, consent, traceparent, displayName⟩

structure TriggerEnvelope where
  connection : String
  eventId : String
  eventType : String
  contact : String
  displayName : Option String
  network : Network
  consentLabel : State
  traceparent : Option String

/-- The message a document on the bus says. -/
def triggerEnvelopeOf (connections : Registry) (document : TriggerEnvelopeDocument) :
    Except Refusal TriggerEnvelope := do
  let network ← readable (.network document.network) (Network.parse document.network)
  let consentLabel ← readable (.consent document.consent) (State.parse document.consent)
  let connection ← connectionOf connections document.connection network
  return {
    connection := connection
    eventId := document.id
    eventType := document.eventType
    contact := document.subject
    displayName := (document.displayName.map Text.trim).filter fun name => name != ""
    network := network
    consentLabel := consentLabel
    traceparent := document.traceparent }

def envelopeNamed (eventId : String) (payload : Json) : Option TriggerEnvelopeDocument :=
  (TriggerEnvelopeDocument.read payload).filter fun document => document.id == eventId

/-- Finds the inbound message of an id, searching back from the head of the stream. -/
def triggerEnvelope (approvals : Approvals) (read : BusRead) (eventId : String) :
    Except Refusal TriggerEnvelope := do
  match ← approvals.bus.scan approvals.lookupWindow read inboundSubject none
    (envelopeNamed eventId) with
  | .hit document _ => triggerEnvelopeOf approvals.connections document
  | .nothing true => .error (.triggerNotFound eventId)
  | .nothing false => .error (.triggerOutOfReach eventId approvals.lookupWindow)

/-! ### The journals -/

/-- A row of `hermes_read`: a read of a calendar, the delivery its caller named it by and what it
came to. -/
structure HermesRead where
  connection : String
  windowFrom : String
  windowTo : String
  delivery : Option String
  outcome : String

structure DeferralRow where
  triggerEventId : String
  personaId : String
  attempt : Nat
  asked : String
  deferredAt : String

structure Journals where
  hermesReads : List HermesRead
  deferrals : List DeferralRow

def Journals.windowsReadFor (journals : Journals) (triggerEventId : String) :
    List (String × String × String) :=
  (journals.hermesReads.filter fun read =>
    (read.delivery.any fun delivery =>
      Text.contains (Text.toAsciiLowercase delivery) (Text.toAsciiLowercase triggerEventId)) &&
        read.outcome == "served").map fun read => (read.connection, read.windowFrom, read.windowTo)

def Deferral.row (deferral : Deferral) (deferredAt : String) : DeferralRow where
  triggerEventId := deferral.reference.triggerEventId
  personaId := deferral.reference.personaId
  attempt := deferral.reference.attempt
  asked := deferral.asked
  deferredAt := deferredAt

/-! ### The answers -/

structure Gap where
  start : Int
  stop : Int
  offsetSeconds : Option Int

/-- The answer half of the Gateway. The governed reads answer with the free gaps of a window of a
connection, or with none where the collector knows of none. -/
structure Answers where
  approvals : Approvals
  journals : Journals
  secret : String
  hermesDomain : String
  suggestionTtl : Nat
  freeGaps : Option (String → String × String → String → Except String (Option (List Gap)))

/-- How a publication goes. One the bus stored may go unacknowledged. -/
inductive Publishing where
  | refused (detail : String)
  | unacknowledged (detail : String)
  | acknowledged

/-- One push: its bytes and its signature, the clock in whole seconds when the timestamp is checked
and when something is produced, which reads fail and how what is written goes. -/
structure Reception where
  body : List UInt8
  signature : Option String
  checkedAt : Nat
  producedAt : Nat
  bus : Option String
  trigger : BusRead
  consent : Option String
  windows : Option String
  recording : Option String
  publishing : Publishing

inductive Received where
  | published (suggestionEventId language : String) (streamSequence : Nat)
  | deferred (triggerEventId : String)
  | ignored (reason : String)
deriving DecidableEq, Repr

structure Receipt where
  after : Answers
  published : Option BusMessage
  answer : Except AnswerRefusal Received

/-- What the Gateway takes from its libraries: the MAC of some bytes under a secret, the JSON of some
bytes and of a text, and the letters of a text. -/
structure Libraries where
  hmacSha256 : String → List UInt8 → List UInt8
  fromSlice : List UInt8 → Option Json
  fromStr : String → Option Json
  letters : Letters

/-! ### The signature -/

def hexDigit (character : Char) : Option Nat :=
  if character.isDigit then some (character.toNat - 48)
  else if 97 ≤ character.toNat ∧ character.toNat ≤ 102 then some (character.toNat - 87)
  else if 65 ≤ character.toNat ∧ character.toNat ≤ 70 then some (character.toNat - 55)
  else none

/-- The bytes a text spells, two characters for each. A sign before one digit counts for nothing. -/
def hexBytes : List Char → Option (List UInt8)
  | [] => some []
  | [_] => none
  | first :: second :: rest => do
    let high ← if first = '+' then some 0 else hexDigit first
    let low ← hexDigit second
    let others ← hexBytes rest
    return UInt8.ofNat (high * 16 + low) :: others

def signatureMatches (libraries : Libraries) (secret : String) (presented : Option String)
    (signed : List UInt8) : Bool :=
  match (presented.map Text.trim).bind (stripPrefix signaturePrefix) with
  | none => false
  | some digits =>
    match hexBytes digits.toList with
    | none => false
    | some expected => expected == libraries.hmacSha256 secret signed

/-! ### The times a draft offers -/

section Proposals

variable (libraries : Libraries) (answers : Answers)

def coveringWindow (windows : List (String × String × String)) (instant : Int) : Option Nat :=
  windows.findIdx? fun window =>
    match parseRfc3339Seconds window.2.1, parseRfc3339Seconds window.2.2 with
    | some first, some last => covers (first, last) instant
    | _, _ => false

def placeInstant (windows : List (String × String × String)) (said : String) :
    Except AnswerRefusal (Nat × String × Int) :=
  match parseRfc3339Seconds said with
  | none => .error (.proposedUnreadable (.string said))
  | some instant =>
    match coveringWindow windows instant with
    | none => .error (.proposedNotRead said)
    | some index => .ok (index, said, instant)

/-- The day an instant falls on in the owner's own time, as far as the gap it lies in says. -/
def checkInstant (gaps : List Gap) (offered : Nat × String × Int) :
    Except AnswerRefusal (Option Nat) :=
  match gaps.find? fun gap => covers (gap.start, gap.stop) offered.2.2 with
  | none => .error (.proposedNotFree offered.2.1)
  | some gap => .ok (gap.offsetSeconds.map fun offset => weekdayOf (offered.2.2 + offset))

def checkWindow (freeGaps : String → String × String → String → Except String (Option (List Gap)))
    (delivery : String) (placed : List (Nat × String × Int))
    (window : (String × String × String) × Nat) : Except AnswerRefusal (List Nat) :=
  let offered := placed.filter fun place => place.1 == window.2
  if offered.isEmpty then .ok []
  else
    match freeGaps window.1.1 window.1.2 delivery with
    | .error detail => .error (.proposedUncheckable detail)
    | .ok none => .error (.proposedUncheckable ("the calendar read of " ++ window.1.2.1 ++ "–" ++
        window.1.2.2 ++ " answered no free gaps at all, so this deployment cannot tell a free " ++
        "moment from a busy one"))
    | .ok (some gaps) => (offered.mapM (checkInstant gaps)).map (List.filterMap id)

def checkTheDaysItNames (reply : String) (offered : List Nat) : Except AnswerRefusal Unit :=
  let named := weekdaysNamed libraries.letters reply
  if named.isEmpty ∨ offered.isEmpty ∨ offered.any named.contains then .ok ()
  else .error (.proposedWrongDay named ((weekdayNames.map Prod.fst).filter offered.contains))

def checkProposals (failing : Option String) (answer : Answer) : Except AnswerRefusal Unit :=
  if answer.proposed.isEmpty then .ok ()
  else
    match answers.freeGaps, failing with
    | none, _ => .error (.proposedUncheckable "this deployment relays no calendar read")
    | some _, some detail => .error (.proposedUncheckable detail)
    | some freeGaps, none => do
      let windows := answers.journals.windowsReadFor answer.reference.triggerEventId
      let placed ← answer.proposed.mapM (placeInstant windows)
      let days ← windows.zipIdx.mapM (checkWindow freeGaps answer.reference.token placed)
      checkTheDaysItNames libraries answer.reply days.flatten

end Proposals

/-! ### The envelope -/

/-- What of the message an answer is about is read of it. -/
def Answer.context (answer : Answer) (trigger : TriggerEnvelope) : List (String × Json) :=
  match answer.summary with
  | none => []
  | some summary => [("context", .object (("summary", .string summary) ::
      match trigger.displayName with
      | some name => [("contact", .string name)]
      | none => []))]

def Answer.times (letters : Letters) (answer : Answer) : List (String × Json) :=
  if answer.proposed ≠ [] then
    [("times", .object [("state", .string "checked"),
      ("count", .number answer.proposed.length)])]
  else if namesATime letters answer.reply then
    [("times", .object [("state", .string "unverified")])]
  else []

def optionalMember (name : String) : Option String → List (String × Json)
  | some value => [(name, .string value)]
  | none => []

section Envelope

variable (libraries : Libraries) (answers : Answers)

/-- The suggestion, as a persona's own SDK would have built it. -/
def envelope (answer : Answer) (trigger : TriggerEnvelope) (producedAt : Nat) : Json :=
  .object ([
    ("specversion", .string "1.0"),
    ("id", .string answer.reference.suggestionEventId),
    ("source", .string ("hermes://" ++ answers.hermesDomain ++ "/personas/" ++
      answer.reference.personaId)),
    ("type", .string "fr.linagora.twalk.persona.suggest.produced.v1"),
    ("time", .string (rfc3339Seconds producedAt)),
    ("subject", .string trigger.eventId),
    ("datacontenttype", .string "application/json"),
    ("dataschema", .string
      "https://schemas.twalk.dev/cloudevents/v1/persona.suggest.produced.schema.json"),
    ("network", .string trigger.network.asStr),
    ("connection", .string trigger.connection),
    ("consent", .string trigger.consentLabel.asStr),
    ("data", .object ([
      ("persona_id", .string answer.reference.personaId),
      ("trigger", .object [("event_id", .string trigger.eventId),
        ("event_type", .string trigger.eventType)]),
      ("suggestion", .object [("body", .string answer.reply),
        ("format", .string Format.plain.asStr)]),
      ("disclosure", .string answer.disclosure),
      ("attempt", .number answer.reference.attempt),
      ("expires_at", .string (rfc3339Seconds (producedAt + answers.suggestionTtl)))] ++
      answer.context trigger ++ answer.times libraries.letters))] ++
    optionalMember "traceparent" trigger.traceparent)

def message (answer : Answer) (trigger : TriggerEnvelope) (producedAt : Nat) : BusMessage where
  subject := suggestSubject
  headers := [("Nats-Msg-Id", answer.reference.suggestionEventId),
    ("network", trigger.network.asStr), ("connection", trigger.connection),
    ("consent", trigger.consentLabel.asStr)] ++
      match trigger.traceparent with
      | some traceparent => [("traceparent", traceparent)]
      | none => []
  payload := envelope libraries answers answer trigger producedAt

end Envelope

/-! ### The act -/

section Act

variable (libraries : Libraries) (answers : Answers)

/-- A refusal of the approval path, as this one words it. -/
def shared {Value : Type} : Except Refusal Value → Except AnswerRefusal Value
  | .ok value => .ok value
  | .error refusal => .error (.shared refusal)

def granted (reception : Reception) (reference : Reference) :
    Except AnswerRefusal TriggerEnvelope := shared do
  attempted reception.bus .busUnreachable
  let trigger ← triggerEnvelope answers.approvals reception.trigger reference.triggerEventId
  answers.approvals.readConsent reception.consent trigger.contact
  answers.approvals.consentNow trigger.contact trigger.connection trigger.network
  return trigger

/-- What was written, out of a push that is Hermes's, is a wake's and is fresh. -/
inductive Reading where
  | ignored (reason : String)
  | answered (outcome : Outcome)

/-- Everything that is asked of a push before the bus is. -/
def readPush (reception : Reception) : Except AnswerRefusal Reading :=
  if !signatureMatches libraries answers.secret reception.signature reception.body then
    .error .unauthenticated
  else
    match (libraries.fromSlice reception.body).bind Push.read with
    | none => .error .malformed
    | some push =>
      if push.hookEventName ≠ hookEvent then .ok (.ignored "not_our_hook")
      else if push.platform ≠ webhookPlatform then .ok (.ignored "not_a_webhook_run")
      else if !isFresh push.timestamp reception.checkedAt then .error (.stale push.timestamp)
      else (parseOutcome libraries.fromStr push.responseText).map .answered

/-- The question is written into the owner's journal, and nothing is published. -/
def defer (reception : Reception) (deferral : Deferral) : Receipt :=
  match granted answers reception deferral.reference, reception.recording with
  | .error refusal, _ => ⟨answers, none, .error refusal⟩
  | .ok _, some detail => ⟨answers, none, .error (.shared (.storeUnavailable detail))⟩
  | .ok _, none =>
    ⟨{ answers with journals := { answers.journals with deferrals := answers.journals.deferrals ++
        [deferral.row (rfc3339Seconds reception.producedAt)] } },
      none, .ok (.deferred deferral.reference.triggerEventId)⟩

/-- The message of a draft, once every fact in it is checked. -/
def checked (reception : Reception) (answer : Answer) : Except AnswerRefusal TriggerEnvelope := do
  let trigger ← granted answers reception answer.reference
  checkProposals libraries answers reception.windows answer
  return trigger

def send (suggestionEventId : String) (published : BusMessage) : Answers × Nat :=
  let (stream, sequence) := answers.approvals.bus.stream.publish suggestionEventId published
  ({ answers with approvals :=
      { answers.approvals with bus := { answers.approvals.bus with stream := stream } } }, sequence)

def draft (reception : Reception) (answer : Answer) : Receipt :=
  match checked libraries answers reception answer with
  | .error refusal => ⟨answers, none, .error refusal⟩
  | .ok trigger =>
    let published := message libraries answers answer trigger reception.producedAt
    let (after, sequence) := send answers answer.reference.suggestionEventId published
    match reception.publishing with
    | .refused detail => ⟨answers, none, .error (.shared (.busUnreachable detail))⟩
    | .unacknowledged detail => ⟨after, some published, .error (.shared (.busUnreachable detail))⟩
    | .acknowledged => ⟨after, some published,
        .ok (.published answer.reference.suggestionEventId answer.language sequence)⟩

/-- The whole act. -/
def receive (reception : Reception) : Receipt :=
  match readPush libraries answers reception with
  | .error refusal => ⟨answers, none, .error refusal⟩
  | .ok (.ignored reason) => ⟨answers, none, .ok (.ignored reason)⟩
  | .ok (.answered (.drafted answer)) => draft libraries answers reception answer
  | .ok (.answered (.deferred deferral)) => defer answers reception deferral

end Act

end Twalk.HermesAnswer
