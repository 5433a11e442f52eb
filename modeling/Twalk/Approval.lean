/-
This file models the act in `companion-gateway/src/approval.rs` with the reads
and rows of `companion-gateway/src/store.rs` it rests on: an approval finds the
suggestion and the message it answers on the bus, checks what can refuse it, and
only then writes a row, publishes the reply and marks the row. What can go wrong
in a call is an argument of it: the reads that fail, and the point at which the
act ends early.
-/

import Twalk.ApprovalRequest
import Twalk.ConsentStore
import Twalk.Library.Stream

namespace Twalk.Approval

open Consent Store

/-! ### The disclosure -/

/-- The contract's sentences, one for each language. -/
def sentences : List (String × String) :=
  [("en", "Drafted with my AI assistant."), ("fr", "Rédigé avec mon assistant IA."),
    ("it", "Scritto con il mio assistente IA."), ("es", "Redactado con mi asistente de IA."),
    ("de", "Verfasst mit meinem KI-Assistenten.")]

def isContractSentence (candidate : String) : Bool :=
  sentences.any fun sentence => sentence.2 == candidate

/-- The body as the contact receives it: the reply, then the sentence on a line of its own. -/
def append (body sentence : String) : String := body ++ "\n" ++ sentence

def fitsWithDisclosure (body sentence : String) : Bool :=
  Text.count body + 1 + Text.count sentence ≤ contractMaxBody

/-! ### What the bus is asked for -/

structure BusMessage where
  subject : String
  headers : List (String × String)
  payload : Json

structure Bus where
  firstSequence : Nat
  stream : MessageStream BusMessage

def suggestSubject : String := "twalk.persona.suggest.produced.v1"

def inboundSubject : String := "twalk.inbound.message.received.v1"

def replySubject : String := "twalk.persona.reply.approved.v1"

def text (document : Json) (name : String) : Option String := (document.get? name).bind Json.asStr

def optionalText (document : Json) (name : String) : Option (Option String) :=
  match document.get? name with
  | none => some none
  | some .null => some none
  | some (.string value) => some (some value)
  | some _ => none

/-- What the Gateway reads of a suggestion event. -/
structure SuggestionDocument where
  id : String
  source : String
  subject : String
  network : String
  connection : Option String
  consent : String
  traceparent : Option String
  personaId : String
  body : String
  format : String
  disclosure : Option String
  expiresAt : Option String

def SuggestionDocument.read (document : Json) : Option SuggestionDocument := do
  let id ← text document "id"
  let source ← text document "source"
  let subject ← text document "subject"
  let network ← text document "network"
  let connection ← optionalText document "connection"
  let consent ← text document "consent"
  let traceparent ← optionalText document "traceparent"
  let data ← document.get? "data"
  let personaId ← text data "persona_id"
  let suggestion ← data.get? "suggestion"
  let body ← text suggestion "body"
  let format ← text suggestion "format"
  let disclosure ← optionalText data "disclosure"
  let expiresAt ← optionalText data "expires_at"
  return ⟨id, source, subject, network, connection, consent, traceparent, personaId, body, format,
    disclosure, expiresAt⟩

/-- What the Gateway reads of the message a suggestion answers. -/
structure TriggerDocument where
  id : String
  source : String
  subject : String
  network : String
  connection : Option String
  messageId : Option String

def readMessageId (document : Json) : Option (Option String) :=
  match document.get? "data" with
  | none => some none
  | some (.object members) => optionalText (.object members) "message_id"
  | some _ => none

def TriggerDocument.read (document : Json) : Option TriggerDocument := do
  let id ← text document "id"
  let source ← text document "source"
  let subject ← text document "subject"
  let network ← text document "network"
  let connection ← optionalText document "connection"
  let messageId ← readMessageId document
  return ⟨id, source, subject, network, connection, messageId⟩

structure Suggestion where
  eventId : String
  source : String
  personaId : String
  triggerEventId : String
  network : Network
  connection : String
  consentLabel : State
  suggestion : Content
  disclosure : Option String
  expiresAt : Option String
  traceparent : Option String
  streamSequence : Nat

inductive Target where
  | room (roomId : String)
  | mail (connection inReplyTo recipient : String)
deriving DecidableEq, Repr

/-- The contract's `data.target`. -/
def Target.json : Target → Json
  | room roomId => .object [("room_id", .string roomId)]
  | mail connection inReplyTo recipient => .object [("connection", .string connection),
      ("in_reply_to", .string inReplyTo), ("recipient", .string recipient)]

structure Trigger where
  contact : String
  connection : String
  network : Network
  target : Target

/-! ### The store -/

/-- A row of `approval`. -/
structure RecordedApproval where
  eventId : String
  suggestionEventId : String
  approvedBy : String
  personaId : String
  network : Network
  contact : String
  edited : Bool
  writtenBy : WrittenBy
  approvedAt : String
  publishedAt : Option String
  streamSequence : Option Nat

/-- A row of `disclosure_decision`. -/
structure SwitchRow where
  enabled : Bool
  occurredAt : String
  actor : String
  reason : Option String

structure SwitchState where
  enabled : Bool
  since : Option String
  actor : Option String
  reason : Option String

structure StatusRow where
  connection : String
  state : String
  hint : Option String

structure ApprovalStore where
  consent : ConsentStore
  approvals : List RecordedApproval
  disclosureDecisions : List SwitchRow
  statusChanges : List StatusRow

namespace ApprovalStore

def approval (store : ApprovalStore) (suggestionEventId : String) : Option RecordedApproval :=
  store.approvals.find? fun row => row.suggestionEventId == suggestionEventId

/-- Records one approval before it is published. The same approval twice writes nothing; the
same suggestion and approver under another event is refused. -/
def recordApproval (store : ApprovalStore) (row : RecordedApproval) : Option ApprovalStore :=
  if store.approvals.any fun held => held.eventId == row.eventId then some store
  else if store.approvals.any fun held =>
    held.suggestionEventId == row.suggestionEventId && held.approvedBy == row.approvedBy then none
  else some { store with approvals := store.approvals ++ [row] }

def markRow (eventId publishedAt : String) (sequence : Nat) (row : RecordedApproval) :
    RecordedApproval :=
  if row.eventId = eventId ∧ row.publishedAt = none then
    { row with publishedAt := some publishedAt, streamSequence := some sequence }
  else row

def markApprovalPublished (store : ApprovalStore) (eventId publishedAt : String)
    (sequence : Nat) : ApprovalStore :=
  { store with approvals := store.approvals.map (markRow eventId publishedAt sequence) }

def disclosureState (store : ApprovalStore) : SwitchState :=
  match store.disclosureDecisions.getLast? with
  | some row => ⟨row.enabled, some row.occurredAt, some row.actor, row.reason⟩
  | none => ⟨true, none, none, none⟩

/-- The state a connection last said it was in. -/
def connectionStatus (store : ApprovalStore) (connection : String) : Option StatusRow :=
  latest (fun row => row.connection == connection) store.statusChanges

end ApprovalStore

/-! ### Refusals -/

/-- What of a suggestion or of its trigger cannot be read. -/
inductive Unreadable where
  | network (value : String)
  | consent (value : String)
  | format (value : String)
  | connection (why : Unresolved)
  | disclosure (length : Nat)
  | mailWithoutMessageId
  | mailSubject (subject : String)
  | tooLong (length : Nat)
deriving DecidableEq, Repr

inductive Refusal where
  | notTheOwner (stated owner : String)
  | suggestionNotFound
  | suggestionOutOfReach (window : Nat)
  | triggerNotFound (triggerEventId : String)
  | triggerOutOfReach (triggerEventId : String) (window : Nat)
  | triggerHasNoRoom (source : String)
  | suggestionUnreadable (why : Unreadable)
  | expired (expiresAt now : String)
  | neverConsented (label : State)
  | consentRevoked (contact : String) (network : Network)
  | consentPending (contact : String) (network : Network)
  | connectionNotConnected (connection state : String) (hint : Option String)
  | alreadyApproved (row : RecordedApproval)
  | busUnreachable (detail : String)
  | storeUnavailable (detail : String)
  | unrecorded (detail : String)

def Refusal.code : Refusal → String
  | notTheOwner _ _ => "approved_by_is_not_the_owner"
  | suggestionNotFound => "suggestion_not_found"
  | suggestionOutOfReach _ => "suggestion_out_of_reach"
  | triggerNotFound _ => "trigger_not_found"
  | triggerOutOfReach _ _ => "trigger_out_of_reach"
  | triggerHasNoRoom _ => "trigger_has_no_room"
  | suggestionUnreadable _ => "suggestion_unreadable"
  | expired _ _ => "suggestion_expired"
  | neverConsented _ => "suggestion_was_never_consented"
  | consentRevoked _ _ => "consent_revoked"
  | consentPending _ _ => "consent_pending"
  | connectionNotConnected _ _ _ => "connection_not_connected"
  | alreadyApproved _ => "already_approved"
  | busUnreachable _ => "bus_unreachable"
  | storeUnavailable _ => "store_unavailable"
  | unrecorded _ => "approval_published_but_not_recorded"

/-! ### Reading the bus -/

inductive BusRead where
  | fails (detail : String)
  | delivers (upTo : Option Nat)

/-- The outcome of a bounded read of the bus. -/
inductive Found (Value : Type) where
  | hit (value : Value) (sequence : Nat)
  | nothing (exhaustive : Bool)

def firstHit {Value : Type} (accepts : Json → Option Value) :
    List (Message BusMessage) → Option (Value × Nat)
  | [] => none
  | message :: rest =>
    match accepts message.payload.payload with
    | some value => some (value, message.position)
    | none => firstHit accepts rest

/-- Reads one subject up to the anchor, or to the end of the stream, from at most a window
before it. -/
def Bus.scan {Value : Type} (bus : Bus) (window : Nat) (read : BusRead) (subject : String)
    (anchor : Option Nat) (accepts : Json → Option Value) : Except Refusal (Found Value) :=
  match read with
  | .fails detail => .error (.busUnreachable detail)
  | .delivers upTo =>
    let first := max bus.firstSequence 1
    let ceiling := anchor.getD bus.stream.lastPosition
    if bus.stream.lastPosition = 0 ∨ ceiling < first then .ok (.nothing true)
    else
      let start := max (ceiling - window) first
      let batch := bus.stream.messages.filter fun message =>
        message.payload.subject == subject && start ≤ message.position &&
          message.position ≤ ceiling
      let delivered := match upTo with
        | some count => batch.take count
        | none => batch
      match firstHit accepts delivered with
      | some (value, sequence) => .ok (.hit value sequence)
      | none => .ok (.nothing (start ≤ first))

/-- The connection an event on the bus belongs to. -/
def connectionOf (registry : Registry) (carried : Option String) (network : Network) :
    Except Refusal String :=
  match registry.resolve carried network.asStr with
  | .ok connection => .ok connection.id
  | .error why => .error (.suggestionUnreadable (.connection why))

def contractSentence : Option String → Except Refusal (Option String)
  | none => .ok none
  | some sentence =>
    if isContractSentence sentence then .ok (some sentence)
    else .error (.suggestionUnreadable (.disclosure (Text.count sentence)))

def readable {Value : Type} (why : Unreadable) : Option Value → Except Refusal Value
  | some value => .ok value
  | none => .error (.suggestionUnreadable why)

/-- What follows a text's lead. -/
def stripPrefix (lead value : String) : Option String :=
  if lead.toList.isPrefixOf value.toList then
    some (String.ofList (value.toList.drop lead.toList.length))
  else none

/-- The room id out of an inbound event's source, `matrix://<homeserver>/!room:server`. -/
def roomFromSource (source : String) : Option String :=
  match stripPrefix "matrix://" source with
  | none => none
  | some rest =>
    match rest.toList.dropWhile (· ≠ '/') with
    | [] => none
    | _ :: room =>
      if room.head? = some '!' ∧ ':' ∈ room ∧ '/' ∉ room then some (String.ofList room) else none

def startsWith (lead value : String) : Bool := lead.toList.isPrefixOf value.toList

/-! ### The act -/

/-- Which reads of a call fail, with what they say. -/
structure Reads where
  bus : Option String
  suggestion : BusRead
  trigger : BusRead
  consent : Option String
  switch : Option String
  approval : Option String
  status : Option String

/-- A read that may fail. -/
def attempted (failure : Option String) (refusal : String → Refusal) : Except Refusal Unit :=
  match failure with
  | some detail => .error (refusal detail)
  | none => .ok ()

structure Approvals where
  store : ApprovalStore
  bus : Bus
  connections : Registry
  owner : String
  lookupWindow : Nat

/-- The approval as it will be published. -/
structure Approved where
  suggestion : Suggestion
  trigger : Trigger
  approvedBy : String
  content : Content
  edited : Bool
  writtenBy : WrittenBy
  disclosure : Option String

namespace Approved

/-- The contract's deterministic id. -/
def eventId (approved : Approved) : String :=
  sha256Hex (approved.suggestion.eventId ++ ":" ++ approved.approvedBy)

/-- What the contact receives. -/
def finalBody (approved : Approved) : String :=
  match approved.disclosure with
  | some sentence => append approved.content.body sentence
  | none => approved.content.body

def data (approved : Approved) : Json :=
  .object ([
    ("persona_id", .string approved.suggestion.personaId),
    ("suggestion_event_id", .string approved.suggestion.eventId),
    ("approved_by", .string approved.approvedBy),
    ("final", .object [
      ("body", .string approved.finalBody),
      ("format", .string approved.content.format.asStr)]),
    ("edited", .bool approved.edited),
    ("written_by", .string approved.writtenBy.asStr),
    ("target", approved.trigger.target.json)] ++
    match approved.disclosure with
    | some sentence => [("disclosure", .string sentence)]
    | none => [])

def envelope (approved : Approved) (producedAt : String) : Json :=
  .object ([
    ("specversion", .string "1.0"),
    ("id", .string approved.eventId),
    ("source", .string approved.suggestion.source),
    ("type", .string "fr.linagora.twalk.persona.reply.approved.v1"),
    ("time", .string producedAt),
    ("subject", .string approved.suggestion.eventId),
    ("datacontenttype", .string "application/json"),
    ("dataschema", .string
      "https://schemas.twalk.dev/cloudevents/v1/persona.reply.approved.schema.json"),
    ("network", .string approved.suggestion.network.asStr),
    ("connection", .string approved.suggestion.connection),
    ("consent", .string approved.suggestion.consentLabel.asStr),
    ("data", approved.data)] ++
    match approved.suggestion.traceparent with
    | some traceparent => [("traceparent", .string traceparent)]
    | none => [])

def message (approved : Approved) (producedAt : String) : BusMessage where
  subject := replySubject
  headers := [("network", approved.suggestion.network.asStr),
    ("connection", approved.suggestion.connection),
    ("consent", approved.suggestion.consentLabel.asStr)] ++
    match approved.suggestion.traceparent with
    | some traceparent => [("traceparent", traceparent)]
    | none => []
  payload := approved.envelope producedAt

def row (approved : Approved) (approvedAt : String) : RecordedApproval where
  eventId := approved.eventId
  suggestionEventId := approved.suggestion.eventId
  approvedBy := approved.approvedBy
  personaId := approved.suggestion.personaId
  network := approved.trigger.network
  contact := approved.trigger.contact
  edited := approved.edited
  writtenBy := approved.writtenBy
  approvedAt := approvedAt
  publishedAt := none
  streamSequence := none

end Approved

/-- Whether an instant is at or before another. One that cannot be read makes nothing stale. -/
def hasPassed (instant : String → Option Int) (expiresAt now : String) : Bool :=
  match instant expiresAt, instant now with
  | some expiry, some now => expiry ≤ now
  | _, _ => false

/-- Who wrote what is going out: a text identical to the draft is the draft. -/
def writer (request : Request) (content draft : Content) : WrittenBy :=
  match request.writtenBy with
  | .owner => if content ≠ draft then .owner else .persona
  | .persona => .persona

/-- The sentence that is appended: the suggestion's, while the switch is on and the persona
wrote the reply. -/
def disclosureOf (switch : SwitchState) (writtenBy : WrittenBy) (suggestion : Suggestion) :
    Option String :=
  if switch.enabled ∧ writtenBy = .persona then suggestion.disclosure else none

def targetOf (document : TriggerDocument) (connection : String) : Except Refusal Target :=
  match roomFromSource document.source with
  | some roomId => .ok (.room roomId)
  | none =>
    if startsWith "jmap://" document.source then
      match document.messageId with
      | none => .error (.suggestionUnreadable .mailWithoutMessageId)
      | some inReplyTo =>
        if startsWith "mailto:" document.subject then
          .ok (.mail connection inReplyTo document.subject)
        else .error (.suggestionUnreadable (.mailSubject document.subject))
    else .error (.triggerHasNoRoom document.source)

namespace Approvals

variable (approvals : Approvals)

def checkApprover (approvedBy : Option String) : Except Refusal Unit :=
  match approvedBy with
  | none => .ok ()
  | some stated =>
    if stated = approvals.owner then .ok () else .error (.notTheOwner stated approvals.owner)

def suggestionOf (document : SuggestionDocument) (sequence : Nat) :
    Except Refusal Suggestion := do
  let network ← readable (.network document.network) (Network.parse document.network)
  let consentLabel ← readable (.consent document.consent) (State.parse document.consent)
  let format ← readable (.format document.format) (Format.parse document.format)
  let connection ← connectionOf approvals.connections document.connection network
  let disclosure ← contractSentence document.disclosure
  return {
    eventId := document.id
    source := document.source
    personaId := document.personaId
    triggerEventId := document.subject
    network := network
    connection := connection
    consentLabel := consentLabel
    suggestion := ⟨document.body, format⟩
    disclosure := disclosure
    expiresAt := document.expiresAt
    traceparent := document.traceparent
    streamSequence := sequence }

def suggestionNamed (eventId : String) (payload : Json) : Option SuggestionDocument :=
  (SuggestionDocument.read payload).filter fun document => document.id == eventId

def findSuggestion (read : BusRead) (eventId : String) : Except Refusal Suggestion := do
  match ← approvals.bus.scan approvals.lookupWindow read suggestSubject none
    (suggestionNamed eventId) with
  | .hit document sequence => approvals.suggestionOf document sequence
  | .nothing true => .error .suggestionNotFound
  | .nothing false => .error (.suggestionOutOfReach approvals.lookupWindow)

/-- The message a document on the bus says. One that names no network of the contract's is read
on the suggestion's. -/
def triggerOf (suggestion : Suggestion) (document : TriggerDocument) :
    Except Refusal Trigger := do
  let network := (Network.parse document.network).getD suggestion.network
  let connection ← connectionOf approvals.connections document.connection network
  let target ← targetOf document connection
  return ⟨document.subject, connection, network, target⟩

def triggerNamed (eventId : String) (payload : Json) : Option TriggerDocument :=
  (TriggerDocument.read payload).filter fun document => document.id == eventId

/-- Finds the message a suggestion answers, searching back from the suggestion's own position. -/
def findTrigger (read : BusRead) (suggestion : Suggestion) : Except Refusal Trigger := do
  match ← approvals.bus.scan approvals.lookupWindow read inboundSubject
    (some suggestion.streamSequence) (triggerNamed suggestion.triggerEventId) with
  | .hit document _ => approvals.triggerOf suggestion document
  | .nothing true => .error (.triggerNotFound suggestion.triggerEventId)
  | .nothing false => .error (.triggerOutOfReach suggestion.triggerEventId approvals.lookupWindow)

def checkExpiry (instant : String → Option Int) (expiresAt : Option String) (now : String) :
    Except Refusal Unit :=
  match expiresAt with
  | none => .ok ()
  | some expiresAt =>
    if hasPassed instant expiresAt now then .error (.expired expiresAt now) else .ok ()

def checkLabel (label : State) : Except Refusal Unit :=
  if label = .granted then .ok () else .error (.neverConsented label)

def readConsent (failure : Option String) (contact : String) : Except Refusal Unit :=
  if approvals.store.consent.owner.isOwner contact then .ok ()
  else attempted failure fun detail =>
    .storeUnavailable ("the consent state could not be read: " ++ detail)

def consentNow (contact connection : String) (network : Network) : Except Refusal Unit :=
  match (approvals.store.consent.effective contact connection network).state with
  | .granted => .ok ()
  | .revoked => .error (.consentRevoked contact network)
  | .pending => .error (.consentPending contact network)

def checkFits (body : String) (disclosure : Option String) : Except Refusal Unit :=
  match disclosure with
  | none => .ok ()
  | some sentence =>
    if fitsWithDisclosure body sentence then .ok ()
    else .error (.suggestionUnreadable (.tooLong (Text.count body)))

def checkNotApproved (suggestionEventId : String) : Except Refusal Unit :=
  match approvals.store.approval suggestionEventId with
  | none => .ok ()
  | some row => if row.publishedAt.isSome then .error (.alreadyApproved row) else .ok ()

def connectionCanSend (connection : String) : Except Refusal Unit :=
  match approvals.store.connectionStatus connection with
  | some current =>
    if current.state = "connected" then .ok ()
    else .error (.connectionNotConnected connection current.state current.hint)
  | none =>
    match approvals.connections.get connection with
    | none => .ok ()
    | some known =>
      if known.kind = "email" ∨ known.kind = "calendar" then
        .error (.connectionNotConnected connection "unknown" (some
          ("No collector has reported this connection yet: start the collector that holds it, " ++
            "or check its log")))
      else .ok ()

/-- What `approve` asks of the request, of the bus and of the perimeter: the approval as it would
be published, or the refusal. -/
def prepared (instant : String → Option Int) (request : Request) (now : String)
    (reads : Reads) : Except Refusal Approved := do
  approvals.checkApprover request.approvedBy
  attempted reads.bus .busUnreachable
  let suggestion ← approvals.findSuggestion reads.suggestion request.suggestionEventId
  checkExpiry instant suggestion.expiresAt now
  checkLabel suggestion.consentLabel
  let trigger ← approvals.findTrigger reads.trigger suggestion
  approvals.readConsent reads.consent trigger.contact
  approvals.consentNow trigger.contact trigger.connection trigger.network
  let content := request.edited.getD suggestion.suggestion
  let writtenBy := writer request content suggestion.suggestion
  attempted reads.switch fun detail =>
    .storeUnavailable ("the disclosure switch could not be read: " ++ detail)
  let disclosure := disclosureOf approvals.store.disclosureState writtenBy suggestion
  checkFits content.body disclosure
  return {
    suggestion := suggestion
    trigger := trigger
    approvedBy := approvals.owner
    content := content
    edited := content ≠ suggestion.suggestion
    writtenBy := writtenBy
    disclosure := disclosure }

/-- Everything `approve` asks before it writes: the approval must not stand already, and the
connection it leaves by must be able to send. -/
def approvable (instant : String → Option Int) (request : Request) (now : String)
    (reads : Reads) : Except Refusal Approved := do
  let approved ← approvals.prepared instant request now reads
  attempted reads.approval .storeUnavailable
  approvals.checkNotApproved approved.suggestion.eventId
  attempted reads.status .storeUnavailable
  approvals.connectionCanSend approved.trigger.connection
  return approved

end Approvals

inductive Marking where
  | stops
  | fails (detail : String)
  | completes (publishedAt : String)

/-- How the publication goes. One the bus stored may go unacknowledged. -/
inductive Publication where
  | stops
  | refused (detail : String)
  | unacknowledged (detail : String)
  | acknowledged (marking : Marking)

/-- How the writing half of a call goes. -/
inductive Recording where
  | fails (detail : String)
  | succeeds (publication : Publication)

/-- One call: what it asks, when, which of its reads fail and how its writing half goes. -/
structure Call where
  request : Request
  now : String
  reads : Reads
  recording : Recording

/-- What a call comes to: the Gateway after it, the message it published, and what it answers.
A call the process stopped in answers nothing. -/
structure Outcome where
  after : Approvals
  published : Option BusMessage
  answer : Option (Except Refusal Approved)

namespace Approvals

/-- The Gateway once the bus has taken the reply, and the position it answers with. -/
def send (approvals : Approvals) (approved : Approved) (now : String) : Approvals × Nat :=
  let (stream, sequence) :=
    approvals.bus.stream.publish approved.eventId (approved.message now)
  ({ approvals with bus := { approvals.bus with stream := stream } }, sequence)

def mark (approvals : Approvals) (approved : Approved) (message : BusMessage)
    (sequence : Nat) : Marking → Outcome
  | .stops => ⟨approvals, some message, none⟩
  | .fails detail => ⟨approvals, some message, some (.error (.unrecorded detail))⟩
  | .completes publishedAt =>
    ⟨{ approvals with
        store := approvals.store.markApprovalPublished approved.eventId publishedAt sequence },
      some message, some (.ok approved)⟩

def publishReply (approvals : Approvals) (approved : Approved) (now : String) :
    Publication → Outcome
  | .stops => ⟨approvals, none, none⟩
  | .refused detail => ⟨approvals, none, some (.error (.busUnreachable detail))⟩
  | .unacknowledged detail =>
    ⟨(approvals.send approved now).1, some (approved.message now),
      some (.error (.busUnreachable detail))⟩
  | .acknowledged marking =>
    (approvals.send approved now).1.mark approved (approved.message now)
      (approvals.send approved now).2 marking

def deliver (approvals : Approvals) (approved : Approved) (now : String) :
    Recording → Outcome
  | .fails detail => ⟨approvals, none, some (.error (.storeUnavailable detail))⟩
  | .succeeds publication =>
    match approvals.store.recordApproval (approved.row now) with
    | none => ⟨approvals, none, some (.error (.storeUnavailable
        ("failed to record the approval: UNIQUE constraint failed: " ++
          "approval.suggestion_event_id, approval.approved_by")))⟩
    | some store => { approvals with store := store }.publishReply approved now publication

def approve (approvals : Approvals) (instant : String → Option Int) (call : Call) : Outcome :=
  match approvals.approvable instant call.request call.now call.reads with
  | .error refusal => ⟨approvals, none, some (.error refusal)⟩
  | .ok approved => approvals.deliver approved call.now call.recording

end Approvals

end Twalk.Approval
