/-
This file models the pure half of `collector/src/jmap.rs`: a mail as the Email
object says it and as far as the contract goes, the frontier that lets a person's
message through, the envelope it is published as, and the reading of what a JMAP
server answers. A mail's envelope id is a digest of the account and of the mail's
own id, whatever else the mail says.
-/

import Twalk.Caldav
import Twalk.Library.Json
import Twalk.Library.Sorting

namespace Twalk.Collector.Jmap

open Cache (Consent)

/-! ### Reading documents -/

def items (document : Json) (name : String) : List Json :=
  ((document.get? name).bind Json.asArray).getD []

def texts (document : Json) (name : String) : List String :=
  (items document name).filterMap Json.asStr

def keys : Json → List String
  | .object members => sortTexts (members.map Prod.fst).dedup
  | _ => []

/-- A text without some of the characters at its ends. -/
def trimMatches (isTrimmed : Char → Bool) (text : String) : String :=
  String.ofList ((text.toList.dropWhile isTrimmed).reverse.dropWhile isTrimmed).reverse

/-! ### HTML reduced to text -/

/-- Where the reduction of an HTML text is: in text, in a tag, before a closing tag whose contents
are dropped, or past characters that were read already. -/
inductive HtmlMode where
  | text
  | tag
  | until (close : List Char)
  | past (count : Nat)
deriving DecidableEq, Repr

def blockTags : List String :=
  ["<br", "<p", "</p", "<div", "</div", "<li", "<tr", "<h1", "<h2", "<h3", "<h4", "<blockquote",
    "</blockquote"]

def entities : List (String × Char) :=
  [("&amp;", '&'), ("&lt;", '<'), ("&gt;", '>'), ("&quot;", '"'), ("&#39;", '\''),
    ("&apos;", '\''), ("&nbsp;", ' ')]

/-- Whether what is left of a text starts with a word, its ASCII letters in any case. -/
def startsLower (word : String) (rest : List Char) : Bool :=
  word.toList.isPrefixOf (rest.map Char.toLower)

def stripTags : HtmlMode → List Char → List Char
  | _, [] => []
  | .past (count + 1), _ :: rest => stripTags (if count = 0 then .text else .past count) rest
  | .past 0, character :: rest => character :: stripTags .text rest
  | .until close, character :: rest =>
    if close.isPrefixOf ((character :: rest).map Char.toLower) then
      stripTags (if close.length ≤ 1 then .text else .past (close.length - 1)) rest
    else stripTags (.until close) rest
  | .tag, character :: rest => stripTags (if character = '>' then .text else .tag) rest
  | .text, character :: rest =>
    if character = '<' then
      if startsLower "<style" (character :: rest) then
        stripTags (.until "</style>".toList) rest
      else if startsLower "<script" (character :: rest) then
        stripTags (.until "</script>".toList) rest
      else if blockTags.any fun tag => startsLower tag (character :: rest) then
        '\n' :: stripTags .tag rest
      else stripTags .tag rest
    else if character = '&' then
      match entities.find? fun entity => entity.1.toList.isPrefixOf (character :: rest) with
      | some (entity, replacement) =>
        replacement :: stripTags (.past (entity.toList.length - 1)) rest
      | none => character :: stripTags .text rest
    else character :: stripTags .text rest

def collapse (line : List Char) : List Char :=
  [' '].intercalate
    ((line.splitOnP Text.isWhiteSpace).filter fun word => !word.isEmpty)

def lines (text : List Char) : List (List Char) :=
  let split := text.splitOn '\n'
  if split.getLast? = some [] then split.dropLast else split

def htmlToText (html : String) : String :=
  let reduced := (lines (stripTags .text html.toList)).foldl (fun kept line =>
    let collapsed := collapse line
    if collapsed.isEmpty ∧ kept.getLast? = some [] then kept else kept ++ [collapsed]) []
  Text.trim (String.ofList (['\n'].intercalate reduced))

/-! ### Mails -/

/-- One person on a mail, the address lower-cased. -/
structure Correspondent where
  name : Option String
  email : String
deriving DecidableEq, Repr

namespace Correspondent

def parse (value : Json) : Option Correspondent := do
  let email := Text.trim (← (← value.get? "email").asStr)
  if email ≠ "" ∧ email.toList.contains '@' then
    return {
      name := (((value.get? "name").bind Json.asStr).map Text.trim).filter fun name => name != ""
      email := Text.toAsciiLowercase email }
  else none

def mailto (person : Correspondent) : String := "mailto:" ++ person.email

end Correspondent

structure Attachment where
  kind : String
  mimeType : String
  sizeBytes : Nat
deriving DecidableEq, Repr

/-- A mail, as the Email object says it and as far as the contract goes. -/
structure Mail where
  id : String
  mailboxIds : List String
  receivedAt : String
  sender : Correspondent
  recipients : List Correspondent
  cc : List Correspondent
  subject : String
  body : String
  messageId : Option String
  inReplyTo : Option String
  references : List String
  attachments : List Attachment
  autoSubmitted : Option String
  listId : Option String
  listUnsubscribe : Option String
  precedence : Option String
  hasItipPart : Bool
deriving DecidableEq, Repr

def attachmentKind (mimeType : String) : String :=
  match String.ofList (mimeType.toList.takeWhile (· != '/')) with
  | "image" => "image"
  | "video" => "video"
  | "audio" => "audio"
  | _ => "file"

namespace Mail

def people (email : Json) (name : String) : List Correspondent :=
  (items email name).filterMap Correspondent.parse

def header (email : Json) (name : String) : Option String :=
  (((email.get? s!"header:{name}:asText").bind Json.asStr).map Text.trim).filter
    fun value => value != ""

/-- The text of the first part of a list that has one. -/
def valueOf (email : Json) (parts : String) : Option String :=
  (items email parts).findSome? fun part => do
    (← (← (← email.get? "bodyValues").get? (← (← part.get? "partId").asStr)).get? "value").asStr

def messageIds (email : Json) (name : String) : List String :=
  (texts email name).map fun id => "<" ++ trimMatches (fun c => c == '<' || c == '>') id ++ ">"

def itipPart (email : Json) : Bool :=
  (items email "attachments" ++ items email "textBody" ++ items email "htmlBody").any fun part =>
    ((part.get? "type").bind Json.asStr).any fun media =>
      Text.toAsciiLowercase media == "text/calendar"

def attachmentOf (part : Json) : Attachment :=
  let mimeType := Text.toAsciiLowercase
    (((part.get? "type").bind Json.asStr).getD "application/octet-stream")
  ⟨attachmentKind mimeType, mimeType, ((part.get? "size").bind Json.asNat).getD 0⟩

def parse (email : Json) : Option Mail := do
  let id ← (← email.get? "id").asStr
  let sender ← (items email "from").findSome? Correspondent.parse
  return {
    id
    mailboxIds := ((email.get? "mailboxIds").map keys).getD []
    receivedAt := ((email.get? "receivedAt").bind Json.asStr).getD ""
    sender
    recipients := people email "to"
    cc := people email "cc"
    subject := ((email.get? "subject").bind Json.asStr).getD ""
    body :=
      match valueOf email "textBody" with
      | some text => text
      | none => ((valueOf email "htmlBody").map htmlToText).getD ""
    messageId := (messageIds email "messageId").head?
    inReplyTo := (messageIds email "inReplyTo").head?
    references := messageIds email "references"
    attachments := (items email "attachments").map attachmentOf
    autoSubmitted := header email "Auto-Submitted"
    listId := header email "List-Id"
    listUnsubscribe := header email "List-Unsubscribe"
    precedence := header email "Precedence"
    hasItipPart := itipPart email }

end Mail

/-! ### The frontier -/

/-- Why a mail is not published as a person's message. -/
inductive Dropped where
  | nonHumanSender | calendarInvitation | owner
deriving DecidableEq, Repr

def Dropped.asStr : Dropped → String
  | nonHumanSender => "non_human_sender"
  | calendarInvitation => "calendar_invitation"
  | owner => "owner"

/-- The frontier: a person writing, or why not, the more specific reason first. -/
def frontier (mail : Mail) (owner : Owner) : Except Dropped Unit :=
  if owner.holds mail.sender.email then .error .owner
  else if mail.hasItipPart then .error .calendarInvitation
  else
    let autoSubmitted := mail.autoSubmitted.any fun value =>
      Text.toAsciiLowercase (Text.trim value) != "no"
    let precedence := mail.precedence.any fun value =>
      ["bulk", "list", "junk"].contains (Text.toAsciiLowercase (Text.trim value))
    if autoSubmitted || mail.listId.isSome || mail.listUnsubscribe.isSome || precedence then
      .error .nonHumanSender
    else .ok ()

def audience (mail : Mail) (owner : Owner) : String :=
  if !mail.recipients.isEmpty && (mail.recipients.all fun person => owner.holds person.email) &&
      mail.cc.isEmpty then "direct"
  else "group"

/-! ### The envelope -/

def messageReceivedType : String := "fr.linagora.twalk.inbound.message.received.v1"

def schema : String :=
  "https://schemas.twalk.dev/cloudevents/v1/inbound.message.received.schema.json"

def bodyMax : Nat := 65536
def titleMax : Nat := 1024
def displayNameMax : Nat := 256

def capped (text : String) (max : Nat) : String := String.ofList (text.toList.take max)

/-- What a `message.received` says, with the labels beside its data. -/
structure Received where
  network : String
  consent : String
  format : String
  replyTo : Option String
  attachments : List Attachment
  displayName : String
  audience : String
  networkTimestamp : Option String
  messageId : Option String
  threadRoot : Option String
  body : Option String
  title : Option String
deriving DecidableEq, Repr

/-- Where the events of one mailbox come from. -/
structure Envelopes where
  connection : String
  source : String
  accountId : String
  owner : Owner

namespace Envelopes

def new (connection host accountId inboxId : String) (owner : Owner) : Envelopes where
  connection := connection
  source := s!"jmap://{host}/{accountId}/{inboxId}"
  accountId := accountId
  owner := owner

def messageId (accountId mailId : String) : String := sha256Hex s!"jmap:{accountId}:{mailId}"

/-- The envelope for a mail the frontier let through, in the shape the sender's consent selects: a
revoked sender's is without the words. -/
def messageReceived (envelopes : Envelopes) (mail : Mail) (consent : Consent) (time : String) :
    Envelope Received where
  eventType := messageReceivedType
  dataschema := schema
  id := messageId envelopes.accountId mail.id
  source := envelopes.source
  time := time
  subject := mail.sender.mailto
  connection := envelopes.connection
  data := {
    network := "email"
    consent := consent.asStr
    format := "text/plain"
    replyTo := mail.inReplyTo
    attachments := mail.attachments
    displayName := capped (mail.sender.name.getD mail.sender.email) displayNameMax
    audience := audience mail envelopes.owner
    networkTimestamp := if mail.receivedAt = "" then none else some mail.receivedAt
    messageId := mail.messageId
    threadRoot := mail.references.head?
    body := if consent.reducesPublication then none else some (capped mail.body bodyMax)
    title :=
      if consent.reducesPublication ∨ mail.subject = "" then none
      else some (capped mail.subject titleMax) }

end Envelopes

/-! ### What the server answers -/

/-- What `Email/changes` said. -/
structure Changes where
  newState : String
  hasMore : Bool
  created : List String
  updated : List String
deriving DecidableEq, Repr

def Changes.parse (result : Json) : Changes where
  newState := ((result.get? "newState").bind Json.asStr).getD ""
  hasMore := ((result.get? "hasMoreChanges").bind Json.asBool).getD false
  created := texts result "created"
  updated := texts result "updated"

def inMailbox (emailGet : Json) (mailboxId : String) : List String :=
  ((items emailGet "list").filter fun email =>
    ((email.pointer ["mailboxIds", mailboxId]).bind Json.asBool).getD false).filterMap
      fun email => (email.get? "id").bind Json.asStr

/-- The ids an `Email/query` answered, in the order the server gave them. -/
def queriedIds (emailQuery : Json) : List String := texts emailQuery "ids"

def inboxId (mailboxGet : Json) : Option String := do
  let list ← (← mailboxGet.get? "list").asArray
  let inbox ← (list.find? fun mailbox => mailbox.textAt ["role"] == some "inbox").or
    (list.find? fun mailbox => (mailbox.textAt ["name"]).any fun name =>
      Text.toAsciiLowercase name == "inbox")
  inbox.textAt ["id"]

def mailboxWithRole (mailboxGet : Json) (role : String) : Option String := do
  let list ← (← mailboxGet.get? "list").asArray
  let mailbox ← list.find? fun mailbox => mailbox.textAt ["role"] == some role
  mailbox.textAt ["id"]

/-- How many ids one `Email/query` page asks for. -/
def queryPage : Nat := 200

/-! ### What the server is asked -/

/-- A method call, with the arguments that vary. -/
inductive Call where
  | mailboxGet (accountId : String)
  | emailState (accountId : String)
  | emailChanges (accountId sinceState : String)
  | emailMailboxes (accountId : String) (ids : List String)
  | emailGet (accountId : String) (ids : List String)
  | emailReceivedAfter (accountId inboxId after : String) (position : Nat)
  | emailReceivedBefore (accountId inboxId before : String)
  | emailMoves (accountId : String) (update : List (String × String))
deriving DecidableEq, Repr

/-- A JMAP server, as one round meets it: its session resource, and what it answers the calls of one
request. -/
structure Server where
  session : Except SideError Json
  post : List Call → Except SideError Json

def methodResult (response : Json) (index : Nat) : Except String Json :=
  match ((response.get? "methodResponses").bind Json.asArray).bind fun calls => calls[index]? with
  | none => .error "noResponse"
  | some call =>
    let args := (call.item? 1).getD .null
    if ((call.item? 0).bind Json.asStr).getD "" = "error" then
      .error (((args.get? "type").bind Json.asStr).getD "unknown")
    else .ok args

def method (response : Json) (index : Nat) : Except SideError Json :=
  match methodResult response index with
  | .ok result => .ok result
  | .error kind => .error (.unreachable s!"the JMAP server answered {kind}")

def mailCapability : String := "urn:ietf:params:jmap:mail"

/-- The account a session is about: the primary mail account, or the first with the mail
capability. -/
def sessionAccount (document : Json) : Except String String :=
  if ((document.get? "apiUrl").bind Json.asStr).isNone then .error "the session names no apiUrl"
  else
    let first := (document.get? "accounts").bind fun accounts => (keys accounts).find? fun id =>
      (accounts.pointer [id, "accountCapabilities", mailCapability]).isSome
    match (document.textAt ["primaryAccounts", mailCapability]).or first with
    | some account => .ok account
    | none => .error "the session names no account with the mail capability"

end Twalk.Collector.Jmap
