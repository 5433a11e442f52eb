/-
This file models how the Sensor turns what it observed into an event of the contract:
the builders of `sensor/src/normalize.rs`, and `quoted_message` of `sensor/src/main.rs`,
which reads the message an event quotes. What a decision withholds is not in the event
in any form: two inputs that differ in nothing else give the same envelope.
-/

import Twalk.Library.Sha256
import Twalk.Perimeters

namespace Twalk.Sensor

open Consent (Network)
open Cache (Consent)

/-! ### Texts -/

/-- The first characters of a text. -/
def capChars (value : String) (maxChars : Nat) : String := String.ofList (value.toList.take maxChars)

def excerpt (body : String) : String := capChars body 512

def cloudEventId (matrixEventId matrixRoomId : String) : String :=
  sha256Hex (matrixEventId ++ ":" ++ matrixRoomId)

def isHexDigit (character : Char) : Bool :=
  character.isDigit || ('a' ≤ character && character ≤ 'f') || ('A' ≤ character && character ≤ 'F')

def originateTraceparent (eventId : String) : String :=
  let hex :=
    if 48 ≤ eventId.utf8ByteSize && eventId.toList.all isHexDigit then
      Text.toAsciiLowercase eventId
    else sha256Hex eventId
  let traceId := capChars hex 32
  let spanId := String.ofList ((hex.toList.drop 32).take 16)
  s!"00-{traceId}-{spanId}-01"

/-- A media type of the contract's form in lower case, and the unknown one for any other. -/
def mimeTypeOrDefault (reported : Option String) : String :=
  match reported.map Text.toAsciiLowercase with
  | none => "application/octet-stream"
  | some lowercased =>
    match Text.splitOnce '/' lowercased with
    | none => "application/octet-stream"
    | some (kind, subtype) =>
      if kind != "" && kind.toList.all Char.isLower && subtype != "" &&
          subtype.toList.all (fun character => character.isAlphanum ||
            character == '.' || character == '+' || character == '-') then lowercased
      else "application/octet-stream"

/-! ### Quotations -/

/-- Who wrote the message an excerpt quotes, as far as the Sensor could tell. -/
inductive QuotedAuthor where
  | owner
  | contact (consent : Consent)
  | unknown
deriving DecidableEq, Repr

def QuotedAuthor.isGranted : QuotedAuthor → Bool
  | owner => true
  | contact consent => consent == .granted
  | unknown => false

structure QuotedExcerpt where
  text : String
  author : QuotedAuthor
deriving DecidableEq, Repr

namespace QuotedExcerpt

/-- The text to publish inside an event that a contact's consent labels. -/
def publishable (quoted : QuotedExcerpt) (carrier : Consent) : Option String :=
  if !carrier.reducesPublication && quoted.author.isGranted then some (excerpt quoted.text)
  else none

/-- The text to publish inside an event that no consent label describes. -/
def publishableUnlabelled (quoted : QuotedExcerpt) : Option String :=
  if quoted.author.isGranted then some (excerpt quoted.text) else none

def unread (quoted : QuotedExcerpt) : QuotedExcerpt :=
  if quoted.author.isGranted then quoted else { quoted with text := "" }

def untold (quoted : QuotedExcerpt) : QuotedExcerpt := { quoted with text := "" }

end QuotedExcerpt

structure ReplyTo where
  matrixEventId : String
  quoted : Option QuotedExcerpt
deriving DecidableEq, Repr

/-! ### Attachments and contacts -/

inductive AttachmentKind where
  | image | video | audio | file | sticker
deriving DecidableEq, Repr

def AttachmentKind.asStr : AttachmentKind → String
  | image => "image"
  | video => "video"
  | audio => "audio"
  | file => "file"
  | sticker => "sticker"

structure Attachment where
  kind : AttachmentKind
  mxcUri : String
  mimeType : Option String
  sizeBytes : Option Nat
  caption : Option String
  dimensions : Option (Nat × Nat)
  durationMs : Option Nat
  encryption : Option Json

def optional (name : String) (value : Option Json) : List (String × Json) :=
  value.toList.map fun value => (name, value)

def attachmentEntry (attachment : Attachment) (reduced : Bool) : Json :=
  .object ([
    ("kind", .string attachment.kind.asStr),
    ("mime_type", .string (mimeTypeOrDefault attachment.mimeType)),
    ("size_bytes", .number (attachment.sizeBytes.getD 0))] ++
    (if reduced then []
      else [("mxc_uri", .string attachment.mxcUri)] ++
        optional "encryption" attachment.encryption ++
        optional "caption" (attachment.caption.map fun caption => .string (capChars caption 1024)))
    ++
    optional "dimensions" (attachment.dimensions.map fun dimensions => .object [
      ("width", .number dimensions.1), ("height", .number dimensions.2)]) ++
    optional "duration_ms" (attachment.durationMs.map fun duration => .number duration))

def contactEntry (displayName : String) (consent : Consent) (networkIdentifier : Option String) :
    Json :=
  .object ([("display_name", .string (capChars displayName 256))] ++
    if consent = .granted then
      optional "network_identifier" (networkIdentifier.map fun identifier =>
        .string (capChars identifier 256))
    else [])

/-! ### The envelope -/

/-- What every envelope of the Sensor carries beside its data. -/
structure EventHead where
  eventType : String
  dataschema : String
  id : String
  serverName : String
  matrixRoomId : String
  producedAt : String
  subject : String
  network : Network
  connection : String
  consent : Option Consent

def EventHead.envelope (head : EventHead) (data : Json) : Json :=
  .object ([
    ("specversion", .string "1.0"),
    ("id", .string head.id),
    ("source", .string s!"matrix://{head.serverName}/{head.matrixRoomId}"),
    ("type", .string head.eventType),
    ("time", .string head.producedAt),
    ("subject", .string head.subject),
    ("datacontenttype", .string "application/json"),
    ("dataschema", .string head.dataschema),
    ("traceparent", .string (originateTraceparent head.id)),
    ("network", .string head.network.asStr),
    ("connection", .string head.connection)] ++
    optional "consent" (head.consent.map fun consent => .string consent.asStr) ++
    [("data", data)])

/-! ### Messages -/

structure InboundMessage where
  matrixEventId : String
  matrixRoomId : String
  serverName : String
  sender : String
  body : String
  network : Network
  connection : String
  consent : Consent
  displayName : String
  networkIdentifier : Option String
  replyTo : Option ReplyTo
  threadRoot : Option String
  attachments : List Attachment
  producedAt : String
  networkTimestamp : Option String

/-- The relation of a contact's message to the one it answers, with what it may quote of it. -/
def inboundReply (consent : Consent) (replyTo : Option ReplyTo) : Json :=
  match replyTo with
  | none => .null
  | some reply =>
    if consent.reducesPublication then
      .object [("matrix_event_id", .string reply.matrixEventId)]
    else
      .object [("matrix_event_id", .string reply.matrixEventId),
        ("excerpt", .string
          ((reply.quoted.bind fun quoted => quoted.publishable consent).getD ""))]

def buildMessageReceived (input : InboundMessage) : Json :=
  let reduced := input.consent.reducesPublication
  EventHead.envelope {
      eventType := "fr.linagora.twalk.inbound.message.received.v1"
      dataschema :=
        "https://schemas.twalk.dev/cloudevents/v1/inbound.message.received.schema.json"
      id := cloudEventId input.matrixEventId input.matrixRoomId
      serverName := input.serverName
      matrixRoomId := input.matrixRoomId
      producedAt := input.producedAt
      subject := input.sender
      network := input.network
      connection := input.connection
      consent := some input.consent }
    (.object ([
      ("format", .string "text/plain"),
      ("reply_to", inboundReply input.consent input.replyTo),
      ("attachments", .array (input.attachments.map fun attachment =>
        attachmentEntry attachment reduced)),
      ("contact", contactEntry input.displayName input.consent input.networkIdentifier)] ++
      (if reduced then [] else [("body", .string (capChars input.body 65536))]) ++
      optional "thread_root" (input.threadRoot.map .string) ++
      optional "network_timestamp" (input.networkTimestamp.map .string)))

structure OutboundMessage where
  matrixEventId : String
  matrixRoomId : String
  serverName : String
  ownerMatrixId : String
  body : String
  network : Network
  connection : String
  replyTo : Option ReplyTo
  threadRoot : Option String
  attachments : List Attachment
  producedAt : String
  networkTimestamp : Option String

/-- The relation of the owner's message to the one it answers, with what it may quote of it. -/
def outboundReply (replyTo : Option ReplyTo) : Json :=
  match replyTo with
  | none => .null
  | some reply =>
    .object ([("matrix_event_id", .string reply.matrixEventId)] ++
      optional "excerpt" ((reply.quoted.bind QuotedExcerpt.publishableUnlabelled).map .string))

def buildOutboundMessageSent (input : OutboundMessage) : Json :=
  EventHead.envelope {
      eventType := "fr.linagora.twalk.outbound.message.sent.v1"
      dataschema := "https://schemas.twalk.dev/cloudevents/v1/outbound.message.sent.schema.json"
      id := cloudEventId input.matrixEventId input.matrixRoomId
      serverName := input.serverName
      matrixRoomId := input.matrixRoomId
      producedAt := input.producedAt
      subject := input.ownerMatrixId
      network := input.network
      connection := input.connection
      consent := none }
    (.object ([
      ("body", .string (capChars input.body 65536)),
      ("format", .string "text/plain"),
      ("reply_to", outboundReply input.replyTo),
      ("attachments", .array (input.attachments.map fun attachment =>
        attachmentEntry attachment false))] ++
      optional "thread_root" (input.threadRoot.map .string) ++
      optional "network_timestamp" (input.networkTimestamp.map .string)))

/-! ### Reactions -/

structure InboundReaction where
  matrixEventId : String
  matrixRoomId : String
  serverName : String
  reactor : String
  reaction : String
  targetEventId : String
  targetExcerpt : Option QuotedExcerpt
  network : Network
  connection : String
  consent : Consent
  displayName : String
  networkIdentifier : Option String
  producedAt : String
  networkTimestamp : Option String

/-- The message a reaction applies to, with what may be quoted of it. -/
def target (targetEventId : String) (published : Option String) : Json :=
  .object ([("matrix_event_id", .string targetEventId)] ++
    optional "excerpt" (published.map .string))

def buildReactionAdded (input : InboundReaction) : Json :=
  EventHead.envelope {
      eventType := "fr.linagora.twalk.inbound.reaction.added.v1"
      dataschema := "https://schemas.twalk.dev/cloudevents/v1/inbound.reaction.added.schema.json"
      id := cloudEventId input.matrixEventId input.matrixRoomId
      serverName := input.serverName
      matrixRoomId := input.matrixRoomId
      producedAt := input.producedAt
      subject := input.reactor
      network := input.network
      connection := input.connection
      consent := some input.consent }
    (.object ([
      ("reaction", .string (capChars input.reaction 64)),
      ("target", target input.targetEventId
        (input.targetExcerpt.bind fun quoted => quoted.publishable input.consent)),
      ("contact", contactEntry input.displayName input.consent input.networkIdentifier)] ++
      optional "network_timestamp" (input.networkTimestamp.map .string)))

structure OutboundReaction where
  matrixEventId : String
  matrixRoomId : String
  serverName : String
  ownerMatrixId : String
  reaction : String
  targetEventId : String
  targetExcerpt : Option QuotedExcerpt
  network : Network
  connection : String
  producedAt : String
  networkTimestamp : Option String

def buildOutboundReactionAdded (input : OutboundReaction) : Json :=
  EventHead.envelope {
      eventType := "fr.linagora.twalk.outbound.reaction.added.v1"
      dataschema := "https://schemas.twalk.dev/cloudevents/v1/outbound.reaction.added.schema.json"
      id := cloudEventId input.matrixEventId input.matrixRoomId
      serverName := input.serverName
      matrixRoomId := input.matrixRoomId
      producedAt := input.producedAt
      subject := input.ownerMatrixId
      network := input.network
      connection := input.connection
      consent := none }
    (.object ([
      ("reaction", .string (capChars input.reaction 64)),
      ("target", target input.targetEventId
        (input.targetExcerpt.bind QuotedExcerpt.publishableUnlabelled))] ++
      optional "network_timestamp" (input.networkTimestamp.map .string)))

/-! ### Presence -/

inductive Presence where
  | online | offline | unavailable
deriving DecidableEq, Repr

def Presence.asStr : Presence → String
  | online => "online"
  | offline => "offline"
  | unavailable => "unavailable"

structure InboundPresence where
  matrixUserId : String
  presence : Presence
  serverName : String
  matrixRoomId : String
  network : Network
  connection : String
  consent : Consent
  displayName : String
  networkIdentifier : Option String
  producedAt : String
  receiptTimestampMs : Nat
  lastActiveAt : Option String

def presenceEventId (matrixUserId : String) (presence : Presence) (receiptTimestampMs : Nat) :
    String :=
  sha256Hex (matrixUserId ++ ":" ++ presence.asStr ++ ":" ++ toString receiptTimestampMs)

def buildPresenceUpdated (input : InboundPresence) : Json :=
  EventHead.envelope {
      eventType := "fr.linagora.twalk.inbound.presence.updated.v1"
      dataschema := "https://schemas.twalk.dev/cloudevents/v1/inbound.presence.updated.schema.json"
      id := presenceEventId input.matrixUserId input.presence input.receiptTimestampMs
      serverName := input.serverName
      matrixRoomId := input.matrixRoomId
      producedAt := input.producedAt
      subject := input.matrixUserId
      network := input.network
      connection := input.connection
      consent := some input.consent }
    (.object ([
      ("presence", .string input.presence.asStr),
      ("contact", contactEntry input.displayName input.consent input.networkIdentifier)] ++
      optional "last_active_at" (input.lastActiveAt.map .string)))

/-! ### Reading what is quoted -/

/-- A message of a room, as it could be fetched and read. -/
structure TimelineMessage where
  sender : UserId
  body : String

/-- Who wrote a message of a room, and the decision about them there. -/
def quotedAuthor (observer : Observer) (cache : Cache.ConsentCache) (room : Room)
    (connection : String) (sender : UserId) : QuotedAuthor :=
  if sender = observer.ownUser || observer.owner.any (fun owner => owner.isOwner sender.asStr) then
    .owner
  else if observer.bridgeBots.contains sender.asStr then .unknown
  else
    match resolve room.bridgeContents sender.localpart with
    | some _ => .contact (cache.state sender.asStr connection)
    | none => .unknown

/-- `quoted_message`: the excerpt of a message and its author; the text is dropped here already where
the author is not granted. -/
def quotedMessage (observer : Observer) (cache : Cache.ConsentCache) (room : Room)
    (connection : String) (fetched : Option TimelineMessage) : Option QuotedExcerpt :=
  fetched.map fun message =>
    let author := quotedAuthor observer cache room connection message.sender
    ⟨if author.isGranted then excerpt message.body else "", author⟩

/-! ### What a decision withholds -/

/-- An attachment without what its sender said or sent in it. -/
def Attachment.untold (attachment : Attachment) : Attachment :=
  { attachment with mxcUri := "", caption := none, encryption := none }

/-- A relation without the text that is quoted. -/
def ReplyTo.untold (reply : ReplyTo) : ReplyTo :=
  { reply with quoted := reply.quoted.map QuotedExcerpt.untold }

/-- A relation without the text that is quoted of an author who is not granted. -/
def ReplyTo.unread (reply : ReplyTo) : ReplyTo :=
  { reply with quoted := reply.quoted.map QuotedExcerpt.unread }

namespace InboundMessage

/-- A message without its body, its captions, its media references and keys, its sender's identifier
and the text it quotes. -/
def untold (input : InboundMessage) : InboundMessage :=
  { input with
    body := ""
    networkIdentifier := none
    replyTo := input.replyTo.map ReplyTo.untold
    attachments := input.attachments.map Attachment.untold }

def unidentified (input : InboundMessage) : InboundMessage :=
  { input with networkIdentifier := none }

/-- A message without the text it quotes of an author who is not granted. -/
def unread (input : InboundMessage) : InboundMessage :=
  { input with replyTo := input.replyTo.map ReplyTo.unread }

end InboundMessage

/-- A message of the owner's without the text it quotes of an author who is not granted. -/
def OutboundMessage.unread (input : OutboundMessage) : OutboundMessage :=
  { input with replyTo := input.replyTo.map ReplyTo.unread }

namespace InboundReaction

def untold (input : InboundReaction) : InboundReaction :=
  { input with
    networkIdentifier := none
    targetExcerpt := input.targetExcerpt.map QuotedExcerpt.untold }

def unidentified (input : InboundReaction) : InboundReaction :=
  { input with networkIdentifier := none }

def unread (input : InboundReaction) : InboundReaction :=
  { input with targetExcerpt := input.targetExcerpt.map QuotedExcerpt.unread }

end InboundReaction

def OutboundReaction.unread (input : OutboundReaction) : OutboundReaction :=
  { input with targetExcerpt := input.targetExcerpt.map QuotedExcerpt.unread }

def InboundPresence.unidentified (input : InboundPresence) : InboundPresence :=
  { input with networkIdentifier := none }

theorem publishable_unread (quoted : QuotedExcerpt) (carrier : Consent) :
    quoted.unread.publishable carrier = quoted.publishable carrier := by
  unfold QuotedExcerpt.unread
  cases granted : quoted.author.isGranted with
  | true => rfl
  | false => simp [QuotedExcerpt.publishable, granted]

theorem publishableUnlabelled_unread (quoted : QuotedExcerpt) :
    quoted.unread.publishableUnlabelled = quoted.publishableUnlabelled := by
  unfold QuotedExcerpt.unread
  cases granted : quoted.author.isGranted with
  | true => rfl
  | false => simp [QuotedExcerpt.publishableUnlabelled, granted]

theorem publishable_of_reduced {carrier : Consent} (reduced : carrier.reducesPublication = true)
    (quoted : QuotedExcerpt) : quoted.publishable carrier = none := by
  unfold QuotedExcerpt.publishable
  rw [reduced]
  rfl

variable {consent : Consent}

theorem contactEntry_of_not_granted (withheld : consent ≠ .granted) (displayName : String)
    (networkIdentifier : Option String) :
    contactEntry displayName consent networkIdentifier = contactEntry displayName consent none := by
  unfold contactEntry
  rw [if_neg withheld, if_neg withheld]

theorem attachmentEntry_untold (attachment : Attachment) :
    attachmentEntry attachment.untold true = attachmentEntry attachment true := rfl

theorem not_granted_of_reduced (reduced : consent.reducesPublication = true) :
    consent ≠ .granted := by
  rintro rfl
  cases reduced

theorem inboundReply_untold (reduced : consent.reducesPublication = true) (replyTo : Option ReplyTo)
    :
    inboundReply consent (replyTo.map ReplyTo.untold) = inboundReply consent replyTo := by
  cases replyTo with
  | none => rfl
  | some reply =>
    dsimp only [Option.map, inboundReply]
    rw [if_pos reduced, if_pos reduced]
    rfl

theorem inboundReply_unread (consent : Consent) (replyTo : Option ReplyTo) :
    inboundReply consent (replyTo.map ReplyTo.unread) = inboundReply consent replyTo := by
  cases replyTo with
  | none => rfl
  | some reply =>
    dsimp only [Option.map, inboundReply, ReplyTo.unread]
    cases reply.quoted with
    | none => rfl
    | some quoted =>
      dsimp only [Option.map, Option.bind]
      rw [publishable_unread]

theorem outboundReply_unread (replyTo : Option ReplyTo) :
    outboundReply (replyTo.map ReplyTo.unread) = outboundReply replyTo := by
  cases replyTo with
  | none => rfl
  | some reply =>
    dsimp only [Option.map, outboundReply, ReplyTo.unread]
    cases reply.quoted with
    | none => rfl
    | some quoted =>
      dsimp only [Option.map, Option.bind]
      rw [publishableUnlabelled_unread]

/-! ### One builder after the other -/

theorem buildMessageReceived_untold {input : InboundMessage}
    (reduced : input.consent.reducesPublication = true) :
    buildMessageReceived input.untold = buildMessageReceived input := by
  unfold buildMessageReceived InboundMessage.untold
  dsimp only
  rw [inboundReply_untold reduced, reduced, List.map_map,
    show (fun attachment => attachmentEntry attachment true) ∘ Attachment.untold =
      fun attachment => attachmentEntry attachment true from funext attachmentEntry_untold,
    ← contactEntry_of_not_granted (not_granted_of_reduced reduced) input.displayName
      input.networkIdentifier]
  rfl

theorem buildMessageReceived_unidentified {input : InboundMessage}
    (withheld : input.consent ≠ .granted) :
    buildMessageReceived input.unidentified = buildMessageReceived input := by
  unfold buildMessageReceived
  rw [contactEntry_of_not_granted withheld input.displayName input.networkIdentifier]
  rfl

theorem buildMessageReceived_unread (input : InboundMessage) :
    buildMessageReceived input.unread = buildMessageReceived input := by
  unfold buildMessageReceived InboundMessage.unread
  dsimp only
  rw [inboundReply_unread]

theorem buildOutboundMessageSent_unread (input : OutboundMessage) :
    buildOutboundMessageSent input.unread = buildOutboundMessageSent input := by
  unfold buildOutboundMessageSent OutboundMessage.unread
  dsimp only
  rw [outboundReply_unread]

variable {input : InboundReaction}

theorem buildReactionAdded_untold (reduced : input.consent.reducesPublication = true) :
    buildReactionAdded input.untold = buildReactionAdded input := by
  have nothing : ∀ quoted : Option QuotedExcerpt,
      (quoted.bind fun quoted => quoted.publishable input.consent) = none := by
    intro quoted
    exact Option.bind_eq_none_iff.mpr fun quoted _ => publishable_of_reduced reduced quoted
  unfold buildReactionAdded InboundReaction.untold
  dsimp only
  rw [nothing, nothing,
    ← contactEntry_of_not_granted (not_granted_of_reduced reduced) input.displayName
      input.networkIdentifier]

theorem buildReactionAdded_unidentified (withheld : input.consent ≠ .granted) :
    buildReactionAdded input.unidentified = buildReactionAdded input := by
  unfold buildReactionAdded
  rw [contactEntry_of_not_granted withheld input.displayName input.networkIdentifier]
  rfl

theorem buildReactionAdded_unread (input : InboundReaction) :
    buildReactionAdded input.unread = buildReactionAdded input := by
  unfold buildReactionAdded InboundReaction.unread
  dsimp only
  cases input.targetExcerpt with
  | none => rfl
  | some quoted =>
    dsimp only [Option.map, Option.bind]
    rw [publishable_unread]

theorem buildOutboundReactionAdded_unread (input : OutboundReaction) :
    buildOutboundReactionAdded input.unread = buildOutboundReactionAdded input := by
  unfold buildOutboundReactionAdded OutboundReaction.unread
  dsimp only
  cases input.targetExcerpt with
  | none => rfl
  | some quoted =>
    dsimp only [Option.map, Option.bind]
    rw [publishableUnlabelled_unread]

theorem buildPresenceUpdated_unidentified {input : InboundPresence}
    (withheld : input.consent ≠ .granted) :
    buildPresenceUpdated input.unidentified = buildPresenceUpdated input := by
  unfold buildPresenceUpdated
  rw [contactEntry_of_not_granted withheld input.displayName input.networkIdentifier]
  rfl

theorem quotedMessage_withholds (observer : Observer) (cache : Cache.ConsentCache) (room : Room)
    (connection : String) {sender : UserId}
    (withheld : (quotedAuthor observer cache room connection sender).isGranted = false)
    (body other : String) :
    quotedMessage observer cache room connection (some ⟨sender, body⟩) =
      quotedMessage observer cache room connection (some ⟨sender, other⟩) := by
  simp [quotedMessage, withheld]

/-! ### Two inputs that differ in what is withheld -/

theorem eq_of_view {Input Output : Type} {view : Input → Input} {build : Input → Output}
    {first second : Input} (hidesFirst : build (view first) = build first)
    (hidesSecond : build (view second) = build second) (same : view first = view second) :
    build first = build second := by
  rw [← hidesFirst, same, hidesSecond]

/-- A message nobody may read does not influence what is published: of a revoked sender neither the
content nor the identifier, of one who is not granted not the identifier, and of a quoted author who
is not granted not the text. -/
theorem unread_is_unpublished :
    (∀ first second : InboundMessage, first.consent = .revoked →
      first.untold = second.untold → buildMessageReceived first = buildMessageReceived second) ∧
    (∀ first second : InboundReaction, first.consent = .revoked →
      first.untold = second.untold → buildReactionAdded first = buildReactionAdded second) ∧
    (∀ first second : InboundMessage, first.consent ≠ .granted →
      first.unidentified = second.unidentified →
        buildMessageReceived first = buildMessageReceived second) ∧
    (∀ first second : InboundReaction, first.consent ≠ .granted →
      first.unidentified = second.unidentified →
        buildReactionAdded first = buildReactionAdded second) ∧
    (∀ first second : InboundPresence, first.consent ≠ .granted →
      first.unidentified = second.unidentified →
        buildPresenceUpdated first = buildPresenceUpdated second) ∧
    (∀ first second : InboundMessage, first.unread = second.unread →
      buildMessageReceived first = buildMessageReceived second) ∧
    (∀ first second : OutboundMessage, first.unread = second.unread →
      buildOutboundMessageSent first = buildOutboundMessageSent second) ∧
    (∀ first second : InboundReaction, first.unread = second.unread →
      buildReactionAdded first = buildReactionAdded second) ∧
    (∀ first second : OutboundReaction, first.unread = second.unread →
      buildOutboundReactionAdded first = buildOutboundReactionAdded second) := by
  refine ⟨?_, ?_, ?_, ?_, ?_, ?_, ?_, ?_, ?_⟩
  · intro first second revoked same
    have sameConsent : first.consent = second.consent := (congrArg InboundMessage.consent same :)
    exact eq_of_view (buildMessageReceived_untold (by rw [revoked]; rfl))
      (buildMessageReceived_untold (by rw [← sameConsent, revoked]; rfl)) same
  · intro first second revoked same
    have sameConsent : first.consent = second.consent := (congrArg InboundReaction.consent same :)
    exact eq_of_view (buildReactionAdded_untold (by rw [revoked]; rfl))
      (buildReactionAdded_untold (by rw [← sameConsent, revoked]; rfl)) same
  · intro first second withheld same
    have sameConsent : first.consent = second.consent := (congrArg InboundMessage.consent same :)
    exact eq_of_view (buildMessageReceived_unidentified withheld)
      (buildMessageReceived_unidentified (sameConsent ▸ withheld)) same
  · intro first second withheld same
    have sameConsent : first.consent = second.consent := (congrArg InboundReaction.consent same :)
    exact eq_of_view (buildReactionAdded_unidentified withheld)
      (buildReactionAdded_unidentified (sameConsent ▸ withheld)) same
  · intro first second withheld same
    have sameConsent : first.consent = second.consent := (congrArg InboundPresence.consent same :)
    exact eq_of_view (buildPresenceUpdated_unidentified withheld)
      (buildPresenceUpdated_unidentified (sameConsent ▸ withheld)) same
  · intro first second same
    exact eq_of_view (buildMessageReceived_unread first) (buildMessageReceived_unread second) same
  · intro first second same
    exact eq_of_view (buildOutboundMessageSent_unread first)
      (buildOutboundMessageSent_unread second) same
  · intro first second same
    exact eq_of_view (buildReactionAdded_unread first) (buildReactionAdded_unread second) same
  · intro first second same
    exact eq_of_view (buildOutboundReactionAdded_unread first)
      (buildOutboundReactionAdded_unread second) same

namespace RevokedSender

/-- A revoked contact's picture, with the words and the media it came with. -/
def picture (body caption mxcUri : String) : InboundMessage where
  matrixEventId := "$event"
  matrixRoomId := "!room:example.org"
  serverName := "example.org"
  sender := "@whatsapp_33612345678:example.org"
  body := body
  network := .whatsapp
  connection := "whatsapp"
  consent := .revoked
  displayName := "Alice"
  networkIdentifier := some "+33612345678"
  replyTo := none
  threadRoot := none
  attachments := [⟨.image, mxcUri, some "image/png", some 9, some caption, none, none, none⟩]
  producedAt := "2026-01-01T00:00:00Z"
  networkTimestamp := none

theorem pictures_alike :
    buildMessageReceived (picture "one" "first" "mxc://example.org/a") =
      buildMessageReceived (picture "two" "second" "mxc://example.org/b") :=
  unread_is_unpublished.1 _ _ rfl rfl

end RevokedSender

end Twalk.Sensor
