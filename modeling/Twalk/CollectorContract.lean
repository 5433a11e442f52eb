/-
This file holds what the collector publishes against the contract of the bus. The
documents are what `message_received` of `collector/src/jmap.rs` and the three
builders of `collector/src/caldav.rs` write; the schemas are the contract's. The
collector caps the words of a mail and passes the rest on as it was sent, so an
envelope is valid exactly when what was sent is within what the contract allows.
-/

import Twalk.CalendarRuns
import Twalk.Contracts
import Twalk.Jmap

namespace Twalk.Collector

open Schema Contract
open Cache (Consent)

/-! ### The documents -/

def Envelope.document {Data : Type} (envelope : Envelope Data) (extensions : List (String × Json))
    (data : Json) : Json :=
  .object ([
    ("specversion", .string "1.0"),
    ("id", .string envelope.id),
    ("source", .string envelope.source),
    ("type", .string envelope.eventType),
    ("time", .string envelope.time),
    ("subject", .string envelope.subject),
    ("datacontenttype", .string "application/json"),
    ("dataschema", .string envelope.dataschema)] ++ extensions ++ [("data", data)])

namespace Jmap

def Attachment.document (attachment : Attachment) : Json :=
  .object [
    ("kind", .string attachment.kind),
    ("mime_type", .string attachment.mimeType),
    ("size_bytes", .number attachment.sizeBytes)]

def replyDocument : Option String → Json
  | some id => .object [("message_id", .string id)]
  | none => .null

def Received.document (received : Received) : Json :=
  .object ([
    ("format", .string received.format),
    ("reply_to", replyDocument received.replyTo),
    ("attachments", .array (received.attachments.map Attachment.document)),
    ("contact", .object [("display_name", .string received.displayName)]),
    ("audience", .string received.audience)] ++
    Json.member "network_timestamp" (received.networkTimestamp.map .string) ++
    Json.member "message_id" (received.messageId.map .string) ++
    Json.member "thread_root" (received.threadRoot.map .string) ++
    Json.member "body" (received.body.map .string) ++
    Json.member "title" (received.title.map .string))

def document (envelope : Envelope Received) : Json :=
  envelope.document [
    ("network", .string envelope.data.network),
    ("connection", .string envelope.connection),
    ("consent", .string envelope.data.consent)] envelope.data.document

end Jmap

namespace Caldav

def textOrNull (value : Option String) : Json := (value.map Json.string).getD .null

def personDocument (person : Person) : Json :=
  .object [("identity", .string person.identity), ("name", textOrNull person.name)]

def participantDocument (participant : Participant) : Json :=
  .object [
    ("identity", .string participant.identity),
    ("name", textOrNull participant.name),
    ("role", .string participant.role),
    ("partstat", .string participant.partstat)]

/-- The event as `reduce` writes it. -/
def Published.document (published : Published) : Json :=
  .object [
    ("uid", .string published.uid),
    ("title", .string published.title),
    ("location", textOrNull published.location),
    ("start", .string published.start),
    ("end", .string published.finish),
    ("all_day", .bool published.allDay),
    ("timezone", textOrNull published.timezone),
    ("status", .string published.status),
    ("recurrence", textOrNull published.recurrence),
    ("organizer", (published.organizer.map personDocument).getD .null),
    ("participants", .array (published.participants.map participantDocument)),
    ("participants_withheld", .number published.participantsWithheld)]

def Data.document : Data → Json
  | created event => event.document
  | changed event fields => .object [
      ("event", event.document),
      ("changed_fields", .array (fields.map .string))]
  | removed uid title => .object [("uid", .string uid), ("title", .string title)]

/-- The envelope of a calendar event as it is written. -/
def document (envelope : Envelope Data) : Json :=
  envelope.document [("connection", .string envelope.connection)] envelope.data.document

end Caldav

/-! ### A mail -/

namespace Jmap

theorem attachmentKind_mem (mimeType : String) :
    attachmentKind mimeType ∈ ["image", "video", "audio", "file", "sticker", "location"] := by
  unfold attachmentKind
  split <;> simp

theorem attachment_iff {sent : Attachment}
    (known : sent.kind ∈ ["image", "video", "audio", "file", "sticker", "location"]) :
    Contract.attachment ["kind", "mime_type", "size_bytes"] sent.document = true ↔
      Pattern.accepts mimePattern sent.mimeType.toList = true := by
  unfold Contract.attachment Attachment.document
  rw [object_iff]
  simp [Json.lookup, Contract.text, Contract.integer, all, hasType, Kind.holds, minimum] at known ⊢
  exact fun _ => known

theorem attachments_iff {sent : List Attachment}
    (known : ∀ attachment ∈ sent,
      attachment.kind ∈ ["image", "video", "audio", "file", "sticker", "location"]) :
    Contract.attachments ["kind", "mime_type", "size_bytes"]
        (.array (sent.map Attachment.document)) = true ↔
      sent.length ≤ 16 ∧ ∀ attachment ∈ sent,
        Pattern.accepts mimePattern attachment.mimeType.toList = true := by
  unfold Contract.attachments
  rw [all_iff, List.forall_mem_cons, List.forall_mem_cons, List.forall_mem_singleton,
    maxItems_array, List.length_map, items_map,
    and_iff_right (show hasType [.array] _ = true from rfl)]
  exact and_congr_right fun _ => forall₂_congr fun attachment member =>
    attachment_iff (known attachment member)

theorem reply_iff {replyTo : Option String} :
    oneOf [hasType [.null], roomReply, mailReply] (replyDocument replyTo) = true ↔
      ∀ id, replyTo = some id →
        id.toList.length ≤ 998 ∧ Pattern.accepts messageIdPattern id.toList = true := by
  cases replyTo with
  | none => simp [replyDocument, oneOf, hasType, Kind.holds, roomReply, mailReply, object, all]
  | some id =>
    simp [replyDocument, oneOf, hasType, Kind.holds, roomReply, mailReply, object, all, required,
      Json.lookup, closed, properties, Json.get?, Contract.text]

theorem receivedData_iff {received : Received} (plain : received.format = "text/plain")
    (named : received.displayName.toList.length ≤ 256)
    (heard : received.audience = "direct" ∨ received.audience = "group")
    (body : ∀ text, received.body = some text → text.toList.length ≤ 65536)
    (title : ∀ text, received.title = some text → text.toList.length ≤ 1024) :
    receivedData received.document = true ↔
      oneOf [hasType [.null], roomReply, mailReply] (replyDocument received.replyTo) = true ∧
      Contract.attachments ["kind", "mime_type", "size_bytes"]
        (.array (received.attachments.map Attachment.document)) = true ∧
      (∀ id, received.threadRoot = some id →
        oneOf [pattern eventPattern, all [pattern messageIdPattern, maxLength 998]]
          (.string id) = true) ∧
      ∀ id, received.messageId = some id →
        id.toList.length ≤ 998 ∧ Pattern.accepts messageIdPattern id.toList = true := by
  have contacted : contact (.object [("display_name", .string received.displayName)]) = true := by
    unfold contact
    rw [object_iff]
    simpa [Json.lookup, Contract.text, all, hasType, Kind.holds] using named
  have formatted : messageFormat (.string "text/plain") = true := by decide
  unfold receivedData Received.document
  rw [object_iff]
  simp only [List.forall_mem_append, Json.forall_mem_member, List.forall_mem_cons,
    List.not_mem_nil, IsEmpty.forall_iff, implies_true]
  simp [Json.lookup, Json.lookup_append, Json.lookup_member, Contract.text, all, hasType,
    Kind.holds, plain, contacted, formatted, heard, format, always]
  constructor
  · rintro ⟨-, reply, sent, root, id, -⟩
    exact ⟨reply, sent, root, id⟩
  · rintro ⟨reply, sent, root, id⟩
    exact ⟨body, reply, sent, root, id, title⟩

theorem get?_data (envelope : Envelope Received) :
    (document envelope).get? "data" = some envelope.data.document := rfl

theorem get?_attachments (received : Received) :
    received.document.get? "attachments" =
      some (.array (received.attachments.map Attachment.document)) := rfl

theorem get?_reply (received : Received) :
    received.document.get? "reply_to" = some (replyDocument received.replyTo) := rfl

theorem get?_body (received : Received) :
    received.document.get? "body" = received.body.map .string := by
  unfold Received.document
  simp [Json.get?, Json.lookup, Json.lookup_append, Json.lookup_member]

theorem get?_title (received : Received) :
    received.document.get? "title" = received.title.map .string := by
  unfold Received.document
  simp [Json.get?, Json.lookup, Json.lookup_append, Json.lookup_member]

theorem isRevoked_document (envelope : Envelope Received) :
    isRevoked (document envelope) = true ↔ envelope.data.consent = "revoked" := by
  unfold isRevoked document Envelope.document
  simp [all, required, properties, Json.lookup, Json.get?]

theorem items_attachments {each : Schema} (attachments : List Attachment)
    (holds : ∀ attachment : Attachment, each attachment.document = true) :
    Schema.items each (.array (attachments.map Attachment.document)) = true := by
  rw [items_map]
  exact fun attachment _ => holds attachment

variable {envelope : Envelope Received}

theorem withoutContent_document
    (body : envelope.data.body = none ↔ envelope.data.consent = "revoked")
    (title : envelope.data.consent = "revoked" → envelope.data.title = none) :
    withoutContent (document envelope) = true := by
  unfold withoutContent
  by_cases revoked : envelope.data.consent = "revoked"
  · rw [ifThenElse_of ((isRevoked_document envelope).mpr revoked)]
    have sent : Schema.items
        (properties [("mxc_uri", never), ("encryption", never), ("caption", never)])
        (.array (envelope.data.attachments.map Attachment.document)) = true :=
      items_attachments _ fun _ => rfl
    have reply : ifThenElse (hasType [.object]) (properties [("excerpt", never)]) always
        (replyDocument envelope.data.replyTo) = true := by
      cases envelope.data.replyTo <;> rfl
    simp [properties, get?_data, get?_body, get?_title, get?_reply, get?_attachments,
      body.mpr revoked, title revoked, sent, reply]
  · rw [ifThenElse_of_not (Bool.eq_false_iff.mpr (revoked ∘ (isRevoked_document envelope).mp))]
    have reply : ifThenElse (all [hasType [.object], required ["matrix_event_id"]])
        (required ["excerpt"]) always (replyDocument envelope.data.replyTo) = true := by
      cases envelope.data.replyTo <;> rfl
    have held : required ["body"] envelope.data.document = true := by
      obtain ⟨text, isBody⟩ := Option.ne_none_iff_exists'.mp (revoked ∘ body.mp)
      unfold Received.document
      simp [required, Json.lookup, Json.lookup_append, Json.lookup_member, isBody]
    simp [properties, get?_data, get?_reply, reply, all, held]

theorem referencesMedia_document (isMail : envelope.data.network = "email") :
    referencesMedia (document envelope) = true := by
  have sent : Schema.items (properties [("mxc_uri", never), ("encryption", never)])
      (.array (envelope.data.attachments.map Attachment.document)) = true :=
    items_attachments _ fun _ => rfl
  have network : (all [required ["network"], properties [("network", constant "email")]])
      (document envelope) = true := by
    unfold document Envelope.document
    simp [all, required, properties, Json.lookup, Json.get?, isMail]
  unfold referencesMedia
  rw [ifThenElse_of network]
  simp [properties, get?_data, get?_attachments, sent]

theorem messageReceived_iff (typed : envelope.eventType = messageReceivedType)
    (digest : Pattern.accepts digestPattern envelope.id.toList = true)
    (isMail : envelope.data.network = "email")
    (labelled : envelope.data.consent ∈ ["granted", "pending", "revoked"])
    (body : envelope.data.body = none ↔ envelope.data.consent = "revoked")
    (title : envelope.data.consent = "revoked" → envelope.data.title = none) :
    messageReceived (document envelope) = true ↔
      oneOf [pattern roomPattern, pattern mailboxPattern] (.string envelope.source) = true ∧
      oneOf [pattern userPattern, all [pattern mailtoPattern, maxLength 512]]
        (.string envelope.subject) = true ∧
      idIsValid envelope.connection = true ∧ receivedData envelope.data.document = true := by
  have networked : network (.string "email") = true := by decide
  unfold messageReceived
  rw [all_iff, List.forall_mem_cons, List.forall_mem_cons, List.forall_mem_singleton,
    withoutContent_document body title, referencesMedia_document isMail]
  unfold Contract.envelope document Envelope.document
  rw [object_iff]
  simp [Json.lookup, Contract.text, all, hasType, Kind.holds, digest, format, always, typed,
    messageReceivedType, isMail, networked, connection, consent, accepts_connection] at labelled ⊢
  simp [labelled]

/-! ### The Email object -/

def addressOf (person : Json) : Option String :=
  ((person.get? "email").bind Json.asStr).bind fun text =>
    if Text.trim text ≠ "" ∧ (Text.trim text).toList.contains '@' then some (Text.trim text)
    else none

def senderAddress (email : Json) : Option String :=
  (Jmap.items email "from").findSome? addressOf

def mediaType (part : Json) : String :=
  ((part.get? "type").bind Json.asStr).getD "application/octet-stream"

def withoutBrackets (id : String) : String := trimMatches (fun c => c == '<' || c == '>') id

/-- A Message-ID that the contract takes: at most 996 characters between its brackets, none of them
a bracket or white space. -/
def Identifies (id : String) : Prop :=
  IsMessageId (withoutBrackets id).toList ∧ (withoutBrackets id).toList.length ≤ 996

structure WithinContract (email : Json) : Prop where
  sender : ∀ address, senderAddress email = some address →
    IsAddress address.toList ∧ address.toList.length ≤ 505
  attachments : (Jmap.items email "attachments").length ≤ 16
  mediaTypes : ∀ part ∈ Jmap.items email "attachments", IsMediaType (mediaType part).toList
  messageIds : ∀ name ∈ ["messageId", "inReplyTo", "references"], ∀ id,
    (texts email name).head? = some id → Identifies id

structure Reads (email : Json) (mail : Mail) : Prop where
  sender : ∃ address, senderAddress email = some address ∧
    mail.sender.email = Text.toAsciiLowercase address
  attachments : mail.attachments = (Jmap.items email "attachments").map Mail.attachmentOf
  messageId : mail.messageId = (Mail.messageIds email "messageId").head?
  inReplyTo : mail.inReplyTo = (Mail.messageIds email "inReplyTo").head?
  references : mail.references.head? = (Mail.messageIds email "references").head?

theorem email_parse : Option.map Correspondent.email ∘ Correspondent.parse =
    Option.map Text.toAsciiLowercase ∘ addressOf := by
  funext person
  unfold Function.comp Correspondent.parse addressOf
  rw [Option.bind_eq_bind]
  cases person.get? "email" with
  | none => rfl
  | some value =>
    rw [Option.bind_some, Option.bind_some]
    cases value.asStr with
    | none => rfl
    | some text =>
      dsimp only [Option.bind_eq_bind, Option.bind_some]
      split <;> rfl

variable {email : Json}

theorem senderAddress_of_sender {sender : Correspondent}
    (found : (Jmap.items email "from").findSome? Correspondent.parse = some sender) :
    ∃ address, senderAddress email = some address ∧
      sender.email = Text.toAsciiLowercase address := by
  have addressed := congrArg (Option.map Correspondent.email) found
  rw [List.map_findSome?, Option.map_some, email_parse, ← List.map_findSome?,
    Option.map_eq_some_iff] at addressed
  obtain ⟨address, isAddress, lowered⟩ := addressed
  exact ⟨address, isAddress, lowered.symm⟩

variable {mail : Mail}

theorem reads_of_parse (parsed : Mail.parse email = some mail) :
    Reads email mail := by
  unfold Mail.parse at parsed
  obtain ⟨value, -, parsed⟩ := Option.bind_eq_some_iff.mp parsed
  obtain ⟨id, -, parsed⟩ := Option.bind_eq_some_iff.mp parsed
  obtain ⟨sender, found, parsed⟩ := Option.bind_eq_some_iff.mp parsed
  cases Option.some.inj parsed
  exact ⟨senderAddress_of_sender found, rfl, rfl, rfl, rfl⟩

/-! ### What is sent and what the contract takes -/

def bracketed (id : String) : String := "<" ++ withoutBrackets id ++ ">"

theorem toList_bracketed (id : String) :
    (bracketed id).toList = '<' :: ((withoutBrackets id).toList ++ ['>']) := by
  unfold bracketed
  rw [String.toList_append, String.toList_append]
  rfl

theorem head?_messageIds (email : Json) (name : String) :
    (Mail.messageIds email name).head? = (texts email name).head?.map bracketed := List.head?_map

theorem identifies_iff (id : String) :
    (bracketed id).toList.length ≤ 998 ∧
        Pattern.accepts messageIdPattern (bracketed id).toList = true ↔ Identifies id := by
  unfold Identifies
  rw [toList_bracketed, accepts_messageId, List.length_cons, List.length_append,
    List.length_singleton]
  exact ⟨fun ⟨few, isId⟩ => ⟨isId, by omega⟩, fun ⟨isId, few⟩ => ⟨by omega, isId⟩⟩

theorem root_iff (id : String) :
    oneOf [pattern eventPattern, all [pattern messageIdPattern, maxLength 998]]
        (.string (bracketed id)) = true ↔ Identifies id := by
  have noEvent : Pattern.accepts eventPattern (bracketed id).toList = false := by
    rw [toList_bracketed]
    exact Pattern.not_accepts_exactly (by simp) (by simp)
  rw [oneOf_pattern_of_not noEvent, ← identifies_iff, all_iff, List.forall_mem_cons,
    List.forall_mem_singleton, pattern_string, maxLength_string, and_comm]

theorem subject_iff (address : String) :
    oneOf [pattern userPattern, all [pattern mailtoPattern, maxLength 512]]
        (.string ("mailto:" ++ Text.toAsciiLowercase address)) = true ↔
      IsAddress address.toList ∧ address.toList.length ≤ 505 := by
  have spelled : ("mailto:" ++ Text.toAsciiLowercase address).toList =
      "mailto:".toList ++ address.toList.map Char.toLower := by
    unfold Text.toAsciiLowercase
    rw [String.toList_append]
    exact congrArg _ String.toList_ofList
  have noUser : Pattern.accepts userPattern
      ("mailto:" ++ Text.toAsciiLowercase address).toList = false := by
    rw [spelled]
    exact Pattern.not_accepts_exactly (by simp) (by simp)
  have length : ("mailto:" ++ Text.toAsciiLowercase address).toList.length ≤ 512 ↔
      address.toList.length ≤ 505 := by
    rw [spelled, List.length_append, List.length_map, show "mailto:".toList.length = 7 from rfl]
    omega
  rw [oneOf_pattern_of_not noUser, ← isAddress_toLower,
    ← accepts_mailto, ← spelled, ← length, all_iff, List.forall_mem_cons,
    List.forall_mem_singleton, pattern_string, maxLength_string]

theorem source_iff {host accountId inboxId : String} :
    oneOf [pattern roomPattern, pattern mailboxPattern]
        (.string s!"jmap://{host}/{accountId}/{inboxId}") = true ↔
      IsSegment host.toList ∧ IsSegment accountId.toList ∧ IsSegment inboxId.toList := by
  have spelled : s!"jmap://{host}/{accountId}/{inboxId}".toList = "jmap://".toList ++
      (host.toList ++ '/' :: (accountId.toList ++ '/' :: inboxId.toList)) := by
    simp [toString]
  have noRoom : Pattern.accepts roomPattern
      s!"jmap://{host}/{accountId}/{inboxId}".toList = false := by
    rw [spelled]
    exact Pattern.not_accepts_exactly (by simp) (by simp)
  rw [oneOf_pattern_of_not noRoom, pattern_string, spelled,
    mailboxPattern, Pattern.accepts_exactly_append, accepts_segments]

/-- What the contract asks of the place a mailbox is read at. -/
structure Placed (connection host accountId inboxId : String) : Prop where
  connection : idIsValid connection = true
  host : IsSegment host.toList
  account : IsSegment accountId.toList
  inbox : IsSegment inboxId.toList

theorem length_capped (text : String) (most : Nat) :
    (capped text most).toList.length ≤ most := by
  unfold capped
  rw [String.toList_ofList, List.length_take]
  exact Nat.min_le_left _ _

theorem caps_messageReceived (envelopes : Envelopes) (mail : Mail) (consent : Consent)
    (time : String) {received : Received}
    (isReceived : (envelopes.messageReceived mail consent time).data = received) :
    received.displayName.toList.length ≤ 256 ∧
      (received.audience = "direct" ∨ received.audience = "group") ∧
      (∀ text, received.body = some text → text.toList.length ≤ 65536) ∧
      ∀ text, received.title = some text → text.toList.length ≤ 1024 := by
  subst isReceived
  unfold Envelopes.messageReceived
  dsimp only
  refine ⟨length_capped _ _, ?_, fun text isBody => ?_, fun text isTitle => ?_⟩
  · unfold audience
    split
    · exact .inl rfl
    · exact .inr rfl
  · obtain ⟨-, isText⟩ := Option.ite_none_left_eq_some.mp isBody
    rw [← Option.some.inj isText]
    exact length_capped _ _
  · obtain ⟨-, isText⟩ := Option.ite_none_left_eq_some.mp isTitle
    rw [← Option.some.inj isText]
    exact length_capped _ _

theorem known_attachments (email : Json) :
    ∀ attachment ∈ (Jmap.items email "attachments").map Mail.attachmentOf,
      attachment.kind ∈ ["image", "video", "audio", "file", "sticker", "location"] := by
  rw [List.forall_mem_map]
  intro part _
  unfold Mail.attachmentOf
  dsimp only
  exact attachmentKind_mem _

theorem media_iff (part : Json) :
    Pattern.accepts mimePattern (Mail.attachmentOf part).mimeType.toList = true ↔
      IsMediaType (mediaType part).toList := by
  rw [← accepts_mime_toLower]
  unfold Mail.attachmentOf Text.toAsciiLowercase mediaType
  rw [String.toList_ofList]

theorem data_iff (reads : Reads email mail) (envelopes : Envelopes) (consent : Consent)
    (time : String) :
    receivedData (envelopes.messageReceived mail consent time).data.document = true ↔
      (Jmap.items email "attachments").length ≤ 16 ∧
      (∀ part ∈ Jmap.items email "attachments", IsMediaType (mediaType part).toList) ∧
      ∀ name ∈ ["messageId", "inReplyTo", "references"], ∀ id,
        (texts email name).head? = some id → Identifies id := by
  obtain ⟨received, isReceived⟩ : ∃ received,
      (envelopes.messageReceived mail consent time).data = received := ⟨_, rfl⟩
  obtain ⟨named, heard, body, title⟩ := caps_messageReceived envelopes mail consent time isReceived
  have plain : received.format = "text/plain" := isReceived ▸ rfl
  have replyTo : received.replyTo = (texts email "inReplyTo").head?.map bracketed := by
    rw [← head?_messageIds, ← reads.inReplyTo, ← isReceived]
    rfl
  have messageId : received.messageId = (texts email "messageId").head?.map bracketed := by
    rw [← head?_messageIds, ← reads.messageId, ← isReceived]
    rfl
  have root : received.threadRoot = (texts email "references").head?.map bracketed := by
    rw [← head?_messageIds, ← reads.references, ← isReceived]
    rfl
  have sent : received.attachments = (Jmap.items email "attachments").map Mail.attachmentOf := by
    rw [← reads.attachments, ← isReceived]
    rfl
  have ids : ∀ (name : String) (holds : String → Prop),
      (∀ id, holds (bracketed id) ↔ Identifies id) →
        ((∀ id, (texts email name).head?.map bracketed = some id → holds id) ↔
          ∀ id, (texts email name).head? = some id → Identifies id) := by
    intro name holds same
    cases (texts email name).head? with
    | none => simp
    | some id => simpa using same id
  rw [isReceived, receivedData_iff plain named heard body title, sent, attachments_iff, replyTo,
    reply_iff, messageId, root, ids "inReplyTo" _ identifies_iff, ids "references" _ root_iff,
    ids "messageId" _ identifies_iff, List.length_map, List.forall_mem_map]
  · simp only [List.forall_mem_cons, List.not_mem_nil, IsEmpty.forall_iff, implies_true, and_true]
    simp only [media_iff]
    exact ⟨fun ⟨answers, ⟨few, each⟩, roots, own⟩ => ⟨few, each, own, answers, roots⟩,
      fun ⟨few, each, own, answers, roots⟩ => ⟨answers, ⟨few, each⟩, roots, own⟩⟩
  · exact known_attachments email

theorem valid_iff (parsed : Mail.parse email = some mail)
    (connection host accountId inboxId : String) (owner : Owner) (consent : Consent) (time : String)
    :
    messageReceived (document ((Envelopes.new connection host accountId inboxId
        owner).messageReceived mail consent time)) = true ↔
      Placed connection host accountId inboxId ∧ WithinContract email := by
  have reads := reads_of_parse parsed
  obtain ⟨address, isAddress, lowered⟩ := reads.sender
  rw [messageReceived_iff rfl (accepts_digest _) rfl, data_iff reads]
  · have subject : ((Envelopes.new connection host accountId inboxId owner).messageReceived mail
        consent time).subject = "mailto:" ++ Text.toAsciiLowercase address := by
      rw [← lowered]
      rfl
    rw [subject, subject_iff]
    refine ⟨fun ⟨source, sender, registered, few, media, ids⟩ => ⟨?_, ?_⟩,
      fun ⟨placed, within⟩ => ?_⟩
    · obtain ⟨isHost, isAccount, isInbox⟩ := source_iff.mp source
      exact ⟨registered, isHost, isAccount, isInbox⟩
    · refine ⟨fun other isOther => ?_, few, media, ids⟩
      rw [isAddress] at isOther
      exact Option.some.inj isOther ▸ sender
    · exact ⟨source_iff.mpr ⟨placed.host, placed.account, placed.inbox⟩,
        within.sender address isAddress, placed.connection, within.attachments, within.mediaTypes,
        within.messageIds⟩
  · cases consent <;> simp [Envelopes.messageReceived, Consent.asStr]
  · cases consent <;> simp [Envelopes.messageReceived, Consent.reducesPublication, Consent.asStr]
  · cases consent <;> simp [Envelopes.messageReceived, Consent.reducesPublication, Consent.asStr]

end Jmap

/-! ### A calendar event -/

namespace Caldav

def IsMailto (identity : String) : Prop :=
  ∃ address, identity.toList = "mailto:".toList ++ address ∧ IsAddress address ∧
    address.length ≤ 505

theorem mailto_iff {identity : String} : mailto (.string identity) = true ↔ IsMailto identity := by
  unfold mailto
  rw [text_string, List.forall_mem_cons, List.forall_mem_singleton, pattern_string,
    maxLength_string]
  constructor
  · rintro ⟨accepted, few⟩
    obtain ⟨address, spelled, -⟩ := Pattern.accepts_exactly.mp accepted
    rw [spelled, accepts_mailto] at accepted
    rw [spelled, List.length_append, show "mailto:".toList.length = 7 from rfl] at few
    exact ⟨address, spelled, accepted, by omega⟩
  · rintro ⟨address, spelled, isAddress, few⟩
    rw [spelled, accepts_mailto, List.length_append, show "mailto:".toList.length = 7 from rfl]
    exact ⟨isAddress, by omega⟩

theorem textOrNull_iff {value : Option String} {most : Nat} :
    Contract.textOrNull [maxLength most] (textOrNull value) = true ↔
      ∀ text, value = some text → text.toList.length ≤ most := by
  cases value with
  | none => simp [Contract.textOrNull, textOrNull, all, hasType, Kind.holds, maxLength, Json.asStr]
  | some text => simp [Contract.textOrNull, textOrNull, all, hasType, Kind.holds]

/-- A person the contract takes. -/
def Introduced (identity : String) (name : Option String) : Prop :=
  IsMailto identity ∧ ∀ text, name = some text → text.toList.length ≤ 512

theorem organizer_iff {organizer : Option Person} :
    oneOf [hasType [.null], person] ((organizer.map personDocument).getD .null) = true ↔
      ∀ one, organizer = some one → Introduced one.identity one.name := by
  cases organizer with
  | none =>
    rw [oneOf_pair_of_not_right]
    · simp [hasType, Kind.holds]
    · rfl
  | some one =>
    rw [oneOf_pair_of_not]
    · simp [person, personDocument, object_iff, Json.lookup, mailto_iff, textOrNull_iff, Introduced]
    · rfl

theorem participant_iff {one : Participant}
    (role : one.role ∈ ["chair", "required", "optional", "non-participant"])
    (partstat : one.partstat ∈
      ["needs-action", "accepted", "declined", "tentative", "delegated"]) :
    participant (participantDocument one) = true ↔ Introduced one.identity one.name := by
  unfold participant participantDocument
  rw [object_iff]
  simp [Json.lookup, mailto_iff, textOrNull_iff, Introduced, Contract.text, all, hasType,
    Kind.holds] at role partstat ⊢
  simp [role, partstat]

/-- What the contract asks of an event that is published. -/
structure Fits (published : Published) : Prop where
  uid : published.uid.toList.length ≤ 512
  title : published.title.toList.length ≤ 1024
  location : ∀ place, published.location = some place → place.toList.length ≤ 1024
  timezone : ∀ zone, published.timezone = some zone → zone.toList.length ≤ 128
  recurrence : ∀ rule, published.recurrence = some rule → rule.toList.length ≤ 1024
  organizer : ∀ one, published.organizer = some one → Introduced one.identity one.name
  few : published.participants.length ≤ 512
  participants : ∀ one ∈ published.participants, Introduced one.identity one.name

/-- What an event holds however it is written in a calendar. -/
structure Worded (event : Vevent) : Prop where
  uid : event.uid ≠ ""
  status : event.status ∈ ["confirmed", "tentative", "cancelled"]
  roles : ∀ one ∈ event.participants,
    one.role ∈ ["chair", "required", "optional", "non-participant"]
  partstats : ∀ one ∈ event.participants,
    one.partstat ∈ ["needs-action", "accepted", "declined", "tentative", "delegated"]

theorem calendarEvent_iff {published : Published} (worded : Worded published.toVevent) :
    calendarEvent published.document = true ↔ Fits published := by
  have uid : 1 ≤ published.uid.toList.length := by
    rw [Nat.one_le_iff_ne_zero, ne_eq, List.length_eq_zero_iff, String.toList_eq_nil_iff]
    exact worded.uid
  have people : ∀ one ∈ published.participants,
      (participant (participantDocument one) = true ↔ Introduced one.identity one.name) :=
    fun one member => participant_iff (worded.roles one member) (worded.partstats one member)
  have status := worded.status
  unfold calendarEvent Published.document
  rw [object_iff]
  simp [Json.lookup, Contract.text, all, hasType, Kind.holds, textOrNull_iff, organizer_iff, uid,
    Contract.integer, minimum, moment, anyOf, format, always] at status ⊢
  rw [forall₂_congr people]
  constructor
  · rintro ⟨uid, title, location, timezone, -, recurrence, organizer, few, each⟩
    exact ⟨uid, title, location, timezone, recurrence, organizer, few, each⟩
  · intro within
    exact ⟨within.uid, within.title, within.location, within.timezone, status,
      within.recurrence, within.organizer, within.few, within.participants⟩

/-! ### From the calendar to the bus -/

theorem statusOf_mem (event : List ContentLine) :
    statusOf event ∈ ["confirmed", "tentative", "cancelled"] := by
  unfold statusOf
  split <;> simp

theorem roleOf_mem (line : ContentLine) :
    roleOf line ∈ ["chair", "required", "optional", "non-participant"] := by
  unfold roleOf
  split <;> simp

theorem partstatOf_mem (line : ContentLine) :
    partstatOf line ∈ ["needs-action", "accepted", "declined", "tentative", "delegated"] := by
  unfold partstatOf
  split <;> simp

theorem exists_line_of_mem_participantsOf {event : List ContentLine} {one : Participant}
    (member : one ∈ participantsOf event) :
    ∃ line, one.role = roleOf line ∧ one.partstat = partstatOf line := by
  obtain ⟨line, -, isOne⟩ := List.mem_filterMap.mp member
  obtain ⟨identity, -, built⟩ := Option.bind_eq_some_iff.mp isOne
  cases Option.some.inj built
  exact ⟨line, rfl, rfl⟩

theorem eq_some_of_readable {Value : Type} {read : Option Value} {value : Value}
    (isRead : Moment.readable read = .ok value) : read = some value := by
  unfold Moment.readable at isRead
  split at isRead
  · exact congrArg some (Except.ok.inj isRead)
  · cases isRead

theorem worded_of_parseVevent {chrono : Chrono} {ics : String} {event : Vevent}
    (parsed : parseVevent chrono ics = .ok event) : Worded event := by
  unfold parseVevent at parsed
  obtain ⟨lines, -, parsed⟩ := bind_eq_ok.mp parsed
  obtain ⟨uid, isUid, parsed⟩ := bind_eq_ok.mp parsed
  obtain ⟨dtstart, -, parsed⟩ := bind_eq_ok.mp parsed
  obtain ⟨start, -, parsed⟩ := bind_eq_ok.mp parsed
  obtain ⟨finish, -, parsed⟩ := bind_eq_ok.mp parsed
  cases Except.ok.inj parsed
  refine ⟨?_, statusOf_mem lines, fun one member => ?_, fun one member => ?_⟩
  · have isSome := eq_some_of_readable isUid
    rw [Option.filter_eq_some_iff, bne_iff_ne] at isSome
    exact isSome.2
  · obtain ⟨line, role, -⟩ := exists_line_of_mem_participantsOf member
    exact role ▸ roleOf_mem line
  · obtain ⟨line, -, partstat⟩ := exists_line_of_mem_participantsOf member
    exact partstat ▸ partstatOf_mem line

section Publication

variable (owner : Owner) (decision : String → Consent)

theorem worded_reduce {event : Vevent} (worded : Worded event) (location : Location) :
    Worded (reduce owner decision event location).toVevent := by
  have reduced := reduced_reduce owner decision event location
  have kept : ∀ one ∈ (reduce owner decision event location).participants,
      one ∈ event.participants := by
    intro one member
    rw [reduced.participants] at member
    exact List.mem_of_mem_filter member
  exact ⟨reduced.same.1 ▸ worded.uid, reduced.same.2.2.2.2.2.1 ▸ worded.status,
    fun one member => worded.roles one (kept one member),
    fun one member => worded.partstats one (kept one member)⟩

structure WithinContract (event : Vevent) (location : Location) : Prop where
  uid : event.uid.toList.length ≤ 512
  timezone : ∀ zone, event.timezone = some zone → zone.toList.length ≤ 128
  recurrence : ∀ rule, event.recurrence = some rule → rule.toList.length ≤ 1024
  title : ¬OrganizerWithheld owner decision event → event.title.toList.length ≤ 1024
  location : location = .carried → ¬OrganizerWithheld owner decision event →
    ∀ place, event.location = some place → place.toList.length ≤ 1024
  organizer : ¬OrganizerWithheld owner decision event →
    ∀ one, event.organizer = some one → Introduced one.identity one.name
  few : (event.participants.filter fun one =>
    ¬Withheld owner decision one.identity).length ≤ 512
  participants : ∀ one ∈ event.participants, ¬Withheld owner decision one.identity →
    Introduced one.identity one.name

theorem fits_reduce_iff (event : Vevent) (location : Location) :
    Fits (reduce owner decision event location) ↔
      WithinContract owner decision event location := by
  obtain ⟨participants, absent, present, -, uid, -, -, -, timezone, -, recurrence⟩ :=
    reduced_reduce owner decision event location
  have kept : (∀ one ∈ (reduce owner decision event location).participants,
      Introduced one.identity one.name) ↔ ∀ one ∈ event.participants,
        ¬Withheld owner decision one.identity → Introduced one.identity one.name := by
    rw [participants]
    simp only [List.mem_filter, decide_eq_true_eq, and_imp]
  by_cases withheld : OrganizerWithheld owner decision event
  · obtain ⟨organizer, title, place⟩ := absent withheld
    constructor
    · intro within
      exact ⟨uid ▸ within.uid, timezone ▸ within.timezone, recurrence ▸ within.recurrence,
        fun free => absurd withheld free, fun _ free => absurd withheld free,
        fun free => absurd withheld free, participants ▸ within.few, kept.mp within.participants⟩
    · intro within
      exact ⟨uid ▸ within.uid, by rw [title]; exact Nat.zero_le _, by rw [place]; exact nofun,
        timezone ▸ within.timezone, recurrence ▸ within.recurrence,
        by rw [organizer]; exact nofun, participants ▸ within.few, kept.mpr within.participants⟩
  · obtain ⟨organizer, title, place⟩ := present withheld
    constructor
    · intro within
      refine ⟨uid ▸ within.uid, timezone ▸ within.timezone, recurrence ▸ within.recurrence,
        fun _ => title ▸ within.title, fun carried _ text isPlace => within.location text ?_,
        fun _ => organizer ▸ within.organizer, participants ▸ within.few,
        kept.mp within.participants⟩
      rw [place, if_pos carried, isPlace]
    · intro within
      refine ⟨uid ▸ within.uid, title ▸ within.title withheld, fun text isPlace => ?_,
        timezone ▸ within.timezone, recurrence ▸ within.recurrence,
        organizer ▸ within.organizer withheld, participants ▸ within.few,
        kept.mpr within.participants⟩
      rw [place] at isPlace
      split at isPlace
      · rename_i carried
        exact within.location carried withheld text isPlace
      · cases isPlace

structure Placed (connection sideHost ownerId calendarId : String) : Prop where
  connection : idIsValid connection = true
  owner : IsMailto (ownerMailto owner.primary)
  host : IsSegment sideHost.toList
  account : IsSegment ownerId.toList
  calendar : IsSegment calendarId.toList

def sourceOf (sideHost ownerId calendarId : String) : String :=
  "caldav://" ++ sideHost ++ ("/dav/calendars/" ++ ownerId ++ "/" ++ calendarId ++ "/")

variable {connection sideHost ownerId calendarId : String}

theorem source_new :
    (Envelopes.new connection owner sideHost (collectionPath ownerId calendarId)).source =
      sourceOf sideHost ownerId calendarId := rfl

theorem toList_sourceOf {sideHost ownerId calendarId : String} :
    (sourceOf sideHost ownerId calendarId).toList =
      "caldav://".toList ++ (sideHost.toList ++ ("/dav/calendars/".toList ++
        (ownerId.toList ++ '/' :: (calendarId.toList ++ ['/'])))) := by
  unfold sourceOf
  simp only [String.toList_append, List.append_assoc]
  rfl

theorem source_iff {sideHost ownerId calendarId : String} :
    Contract.text [format "uri-reference", pattern calendarPattern]
        (.string (sourceOf sideHost ownerId calendarId)) = true ↔
      IsSegment sideHost.toList ∧ IsSegment ownerId.toList ∧ IsSegment calendarId.toList := by
  rw [text_string, List.forall_mem_cons, List.forall_mem_singleton, pattern_string,
    toList_sourceOf, accepts_calendar]
  exact and_iff_right rfl

theorem calendarEnvelope_iff {contractType eventType schema text time : String} {data : Data}
    {shape : Schema} (typed : eventType = contractType) :
    calendarEnvelope contractType shape (document
        ((Envelopes.new connection owner sideHost (collectionPath ownerId calendarId)).envelope
          eventType schema (sha256Hex text) time data)) = true ↔
      Placed owner connection sideHost ownerId calendarId ∧ shape data.document = true := by
  subst typed
  have digest := accepts_digest text
  have placed : Placed owner connection sideHost ownerId calendarId ↔
      (IsSegment sideHost.toList ∧ IsSegment ownerId.toList ∧ IsSegment calendarId.toList) ∧
        IsMailto (ownerMailto owner.primary) ∧ idIsValid connection = true := by
    constructor
    · rintro ⟨known, owned, host, account, calendar⟩
      exact ⟨⟨host, account, calendar⟩, owned, known⟩
    · rintro ⟨⟨host, account, calendar⟩, owned, known⟩
      exact ⟨known, owned, host, account, calendar⟩
  rw [placed, ← source_iff]
  unfold calendarEnvelope Contract.envelope document Envelope.document Envelopes.envelope
  dsimp only
  rw [object_iff, source_new]
  generalize sourceOf sideHost ownerId calendarId = source
  simp [Json.lookup, text_string, digest, Envelopes.new, mailto_iff, connection_iff, format, always]
  constructor
  · rintro ⟨accepted, owned, known, shaped⟩
    exact ⟨⟨accepted, owned, known⟩, shaped⟩
  · rintro ⟨⟨accepted, owned, known⟩, shaped⟩
    exact ⟨accepted, owned, known, shaped⟩

variable {owner decision} {chrono : Chrono} {ics : String} {event : Vevent}
  {connection sideHost ownerId calendarId : String} {location : Location}

theorem created_iff (parsed : parseVevent chrono ics = .ok event) (href etag time : String) :
    eventCreated (document
        ((Envelopes.new connection owner sideHost (collectionPath ownerId calendarId)).created href
          etag (reduce owner decision event location) time)) = true ↔
      Placed owner connection sideHost ownerId calendarId ∧
        WithinContract owner decision event location := by
  have typed : createdType = "fr.linagora.twalk.calendar.event.created.v1" := rfl
  unfold eventCreated Envelopes.created
  rw [calendarEnvelope_iff owner typed, ← fits_reduce_iff,
    ← calendarEvent_iff (worded_reduce owner decision (worded_of_parseVevent parsed) location)]
  rfl

theorem changedFields_iff {before published : Published}
    (moved : changedFields before published ≠ []) :
    all [hasType [.array], minItems 1, maxItems 16, uniqueItems,
      items (Contract.text [enum changeable])]
        (.array ((changedFields before published).map .string)) = true := by
  have among : (changedFields before published).Sublist changeable :=
    (List.filter_sublist (l := _)).map Prod.fst
  have texts : ((changedFields before published).map Json.string).filterMap Json.asStr =
      changedFields before published := by
    rw [List.filterMap_map]
    exact List.filterMap_some
  rw [all_iff]
  simp only [List.forall_mem_cons, List.not_mem_nil, IsEmpty.forall_iff, implies_true, and_true,
    minItems_array, maxItems_array, List.length_map, items_map, text_string, enum_string]
  refine ⟨rfl, List.length_pos_iff.mpr moved, among.length_le.trans (by decide), ?_,
    fun field member => among.subset member⟩
  unfold uniqueItems
  rw [Json.asArray_array, Option.all_some, decide_eq_true_eq, texts]
  exact among.nodup (by decide)

theorem changed_iff (parsed : parseVevent chrono ics = .ok event) {before : Published}
    (moved : changedFields before (reduce owner decision event location) ≠ [])
    (href etag time : String) :
    eventChanged (document
        ((Envelopes.new connection owner sideHost (collectionPath ownerId calendarId)).changed href
          etag (reduce owner decision event location)
          (changedFields before (reduce owner decision event location)) time)) = true ↔
      Placed owner connection sideHost ownerId calendarId ∧
        WithinContract owner decision event location := by
  have typed : changedType = "fr.linagora.twalk.calendar.event.changed.v1" := rfl
  unfold eventChanged Envelopes.changed
  rw [calendarEnvelope_iff owner typed, ← fits_reduce_iff,
    ← calendarEvent_iff (worded_reduce owner decision (worded_of_parseVevent parsed) location)]
  have fields := changedFields_iff moved
  dsimp only [Data.document]
  rw [object_iff]
  simp [Json.lookup, fields]

theorem removed_iff (parsed : parseVevent chrono ics = .ok event) (href ctag time : String) :
    eventRemoved (document
        ((Envelopes.new connection owner sideHost (collectionPath ownerId calendarId)).removed href
          ctag (reduce owner decision event location).uid
          (reduce owner decision event location).title time)) = true ↔
      Placed owner connection sideHost ownerId calendarId ∧ event.uid.toList.length ≤ 512 ∧
        (¬OrganizerWithheld owner decision event → event.title.toList.length ≤ 1024) := by
  have typed : removedType = "fr.linagora.twalk.calendar.event.removed.v1" := rfl
  have some : 1 ≤ event.uid.toList.length := by
    rw [Nat.one_le_iff_ne_zero, ne_eq, List.length_eq_zero_iff, String.toList_eq_nil_iff]
    exact (worded_of_parseVevent parsed).uid
  obtain ⟨-, absent, present, -, uid, -⟩ := reduced_reduce owner decision event location
  have title : (reduce owner decision event location).title.toList.length ≤ 1024 ↔
      (¬OrganizerWithheld owner decision event → event.title.toList.length ≤ 1024) := by
    by_cases withheld : OrganizerWithheld owner decision event
    · rw [(absent withheld).2.1]
      exact ⟨fun _ free => absurd withheld free, fun _ => Nat.zero_le _⟩
    · rw [(present withheld).2.1]
      exact ⟨fun few _ => few, fun few => few withheld⟩
  unfold eventRemoved Envelopes.removed
  rw [calendarEnvelope_iff owner typed, uid, ← title]
  dsimp only [Data.document]
  rw [object_iff]
  simp [Json.lookup, text_string, some]

end Publication

end Caldav

/-! ### Every envelope -/

/-- An envelope that the collector publishes is valid exactly when the place it is read at, and what
the mail or the event says without a cap, are within the contract: a mail's sender, the number and
the media types of its attachments and its Message-IDs; an event's uid, title, location, zone, rule,
organizer and participants, as far as they are not withheld. -/
theorem published_valid_iff (connection : String) (owner : Owner) :
    (∀ (email : Json) (mail : Jmap.Mail) (host accountId inboxId : String) (consent : Consent)
      (time : String),
      Jmap.Mail.parse email = some mail →
        (messageReceived (Jmap.document ((Jmap.Envelopes.new connection host accountId inboxId
            owner).messageReceived mail consent time)) = true ↔
          Jmap.Placed connection host accountId inboxId ∧ Jmap.WithinContract email)) ∧
    ∀ (chrono : Chrono) (ics : String) (event : Vevent) (decision : String → Consent)
      (location : Caldav.Location)
      (sideHost ownerId calendarId href etag ctag time : String),
      parseVevent chrono ics = .ok event →
        let envelopes := Caldav.Envelopes.new connection owner sideHost
          (Caldav.collectionPath ownerId calendarId)
        let published := Caldav.reduce owner decision event location
        let placed := Caldav.Placed owner connection sideHost ownerId calendarId
        (eventCreated (Caldav.document (envelopes.created href etag published time)) = true ↔
          placed ∧ Caldav.WithinContract owner decision event location) ∧
        (∀ before, Caldav.changedFields before published ≠ [] →
          (eventChanged (Caldav.document (envelopes.changed href etag published
              (Caldav.changedFields before published) time)) = true ↔
            placed ∧ Caldav.WithinContract owner decision event location)) ∧
        (eventRemoved (Caldav.document (envelopes.removed href ctag published.uid published.title
            time)) = true ↔
          placed ∧ event.uid.toList.length ≤ 512 ∧
            (¬Caldav.OrganizerWithheld owner decision event →
              event.title.toList.length ≤ 1024)) := by
  refine ⟨fun email mail host accountId inboxId consent time parsed => ?_, ?_⟩
  · exact Jmap.valid_iff parsed connection host accountId inboxId owner consent time
  · intro chrono ics event decision location sideHost ownerId calendarId href etag ctag time parsed
    exact ⟨Caldav.created_iff parsed href etag time,
      fun before moved => Caldav.changed_iff parsed moved href etag time,
      Caldav.removed_iff parsed href ctag time⟩

namespace Album

/-- A mail with more photos than the contract has room for. -/
def photos : Json :=
  .object [
    ("id", .string "m1"),
    ("from", .array [.object [("email", .string "alice@example.org")]]),
    ("attachments", .array (List.replicate 17
      (.object [("type", .string "image/jpeg"), ("size", .number 2048)])))]

def mail : Jmap.Mail where
  id := "m1"
  mailboxIds := []
  receivedAt := ""
  sender := ⟨none, "alice@example.org"⟩
  recipients := []
  cc := []
  subject := ""
  body := ""
  messageId := none
  inReplyTo := none
  references := []
  attachments := List.replicate 17 ⟨"image", "image/jpeg", 2048⟩
  autoSubmitted := none
  listId := none
  listUnsubscribe := none
  precedence := none
  hasItipPart := false

def owner : Owner := .new "me@example.org" []

def envelopes : Jmap.Envelopes := .new "mail" "mail.example.org" "u1" "inbox-1" owner

def meeting : String :=
  "BEGIN:VEVENT\nUID:sync\nSUMMARY:Weekly sync\nDTSTART:20261005T090000Z\nEND:VEVENT"

def sync : Vevent where
  uid := "sync"
  title := "Weekly sync"
  location := none
  start := "2026-10-05T09:00:00Z"
  finish := "2026-10-05T09:00:00Z"
  allDay := false
  timezone := none
  status := "confirmed"
  recurrence := none
  organizer := none
  participants := []

theorem parse_photos : Jmap.Mail.parse photos = some mail := by decide +kernel

theorem parse_meeting : parseVevent Caldav.utcChrono meeting = .ok sync := by decide +kernel

theorem published_valid_photos :
    (messageReceived (Jmap.document (envelopes.messageReceived mail .granted
        "2026-10-01T08:00:00Z")) = true ↔
      Jmap.Placed "mail" "mail.example.org" "u1" "inbox-1" ∧ Jmap.WithinContract photos) ∧
    (eventRemoved (Caldav.document ((Caldav.Envelopes.new "agenda" owner "dav.example.org"
        (Caldav.collectionPath "me" "work")).removed "/work/sync.ics" "2"
        (Caldav.reduce owner (fun _ => .granted) sync .carried).uid
        (Caldav.reduce owner (fun _ => .granted) sync .carried).title "2026-10-01T08:00:00Z")) =
          true ↔
      Caldav.Placed owner "agenda" "dav.example.org" "me" "work" ∧
        sync.uid.toList.length ≤ 512 ∧
        (¬Caldav.OrganizerWithheld owner (fun _ => .granted) sync →
          sync.title.toList.length ≤ 1024)) :=
  ⟨(published_valid_iff "mail" owner).1 photos mail "mail.example.org" "u1" "inbox-1" .granted
      "2026-10-01T08:00:00Z" parse_photos,
    ((published_valid_iff "agenda" owner).2 Caldav.utcChrono meeting sync (fun _ => .granted)
      .carried "dav.example.org" "me" "work" "/work/sync.ics" "sync-1" "2" "2026-10-01T08:00:00Z"
      parse_meeting).2.2⟩

/-- The mail is read, it is a person's, and what is published about it is not valid. -/
theorem photos_invalid :
    Jmap.Mail.parse photos = some mail ∧ Jmap.frontier mail owner = .ok () ∧
      ∀ consent : Consent, messageReceived (Jmap.document (envelopes.messageReceived mail consent
        "2026-10-01T08:00:00Z")) = false := by
  refine ⟨parse_photos, by decide +kernel, fun consent => ?_⟩
  rw [Bool.eq_false_iff]
  intro valid
  obtain ⟨-, within⟩ := (Jmap.valid_iff parse_photos _ _ _ _ _ _ _).mp valid
  exact absurd within.attachments (by decide)

end Album

end Twalk.Collector
