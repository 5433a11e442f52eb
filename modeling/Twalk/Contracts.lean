/-
This file is the contract of the bus, as far as the collector and the Sensor publish
under it: the JSON schemas of `contracts/cloudevents/v1/` for messages, reactions,
presence and calendar events, with the definitions they share. Every schema is the
file of the same name, keyword by keyword; `$ref` is the definition it names.
-/

import Twalk.Connections
import Twalk.Library.Schema
import Twalk.Library.Sha256
import Twalk.Library.Text

namespace Twalk.Contract

open Schema

/-! ### Patterns -/

/-- `[^/]`. -/
def notSlash (character : Char) : Bool := character != '/'

/-- `[A-Za-z0-9_-]`. -/
def isUrlSafe (character : Char) : Bool :=
  character.isAlphanum || character == '_' || character == '-'

/-- `[A-Za-z0-9+/]`. -/
def isBase64 (character : Char) : Bool :=
  character.isAlphanum || character == '+' || character == '/'

/-- `[a-zA-Z0-9.+-]`. -/
def isSubtype (character : Char) : Bool :=
  character.isAlphanum || character == '.' || character == '+' || character == '-'

/-- `[a-zA-Z0-9._=/+-]`. -/
def isLocalpart (character : Char) : Bool :=
  character.isAlphanum || ['.', '_', '=', '/', '+', '-'].contains character

/-- `[a-z0-9]`. -/
def isLowerAlphanumeric (character : Char) : Bool := character.isLower || character.isDigit

/-- `[^@\s]`. -/
def isAddressed (character : Char) : Bool := character != '@' && !isPatternSpace character

/-- `[^<>\s]`. -/
def isUnbracketed (character : Char) : Bool :=
  character != '<' && character != '>' && !isPatternSpace character

/-- `^[a-f0-9]{64}$`. -/
def digestPattern : Pattern := [.times Sha256.isHexDigit 64]

/-- `^[0-9a-f]{2}-[0-9a-f]{32}-[0-9a-f]{16}-[0-9a-f]{2}$`. -/
def traceparentPattern : Pattern := [
  .times Sha256.isHexDigit 2, .exactly "-", .times Sha256.isHexDigit 32, .exactly "-",
  .times Sha256.isHexDigit 16, .exactly "-", .times Sha256.isHexDigit 2]

/-- `^matrix://[^/]+/![A-Za-z0-9]+:[^/]+$`. -/
def roomPattern : Pattern := [
  .exactly "matrix://", .oneOrMore notSlash, .exactly "/!", .oneOrMore Char.isAlphanum,
  .exactly ":", .oneOrMore notSlash]

def mailboxPattern : Pattern := [
  .exactly "jmap://", .oneOrMore notSlash, .exactly "/", .oneOrMore notSlash, .exactly "/",
  .oneOrMore notSlash]

def calendarPattern : Pattern := [
  .exactly "caldav://", .oneOrMore notSlash, .exactly "/dav/calendars/", .oneOrMore notSlash,
  .exactly "/", .oneOrMore notSlash, .exactly "/"]

/-- `^@[a-zA-Z0-9._=/+-]+:[^/]+$`. -/
def userPattern : Pattern := [
  .exactly "@", .oneOrMore isLocalpart, .exactly ":", .oneOrMore notSlash]

/-- `^mailto:[^@\s]+@[^@\s]+$`. -/
def mailtoPattern : Pattern := [
  .exactly "mailto:", .oneOrMore isAddressed, .exactly "@", .oneOrMore isAddressed]

/-- `^\$[A-Za-z0-9_-]+$`. -/
def eventPattern : Pattern := [.exactly "$", .oneOrMore isUrlSafe]

/-- `^<[^<>\s]+>$`. -/
def messageIdPattern : Pattern := [.exactly "<", .oneOrMore isUnbracketed, .exactly ">"]

/-- `^mxc://[^/]+/[A-Za-z0-9]+$`. -/
def mediaPattern : Pattern := [
  .exactly "mxc://", .oneOrMore notSlash, .exactly "/", .oneOrMore Char.isAlphanum]

/-- `^[a-z]+/[a-zA-Z0-9.+-]+$`. -/
def mimePattern : Pattern := [.oneOrMore Char.isLower, .exactly "/", .oneOrMore isSubtype]

/-- `^[a-z0-9][a-z0-9-]{0,63}$`. -/
def connectionPattern : Pattern := [
  .times isLowerAlphanumeric 1,
  .several (fun character => isLowerAlphanumeric character || character == '-') 0 (some 63)]

/-! ### The envelope -/

def text (rules : List Schema) : Schema := all (hasType [.string] :: rules)

def textOrNull (rules : List Schema) : Schema := all (hasType [.string, .null] :: rules)

/-- `definitions/network.schema.json`. -/
def network : Schema :=
  text [enum ["whatsapp", "telegram", "signal", "discord", "sms", "matrix", "email"]]

/-- `definitions/connection.schema.json`. -/
def connection : Schema := text [pattern connectionPattern]

def consent : Schema := text [enum ["granted", "pending", "revoked"]]

def room : Schema := text [format "uri-reference", pattern roomPattern]

def user : Schema := text [pattern userPattern]

def mailto : Schema := text [pattern mailtoPattern, maxLength 512]

/-- What the schemas of all types say of an envelope; they differ in its type, in what its source
and its subject are, in the extensions it needs, and in its data. -/
def envelope (eventType : String) (source subject : Schema) (extensions : List (String × Schema))
    (data : Schema) : Schema :=
  object
    (["specversion", "id", "source", "type", "time", "subject", "datacontenttype"] ++
      extensions.map Prod.fst ++ ["data"])
    ([("specversion", text [constant "1.0"]),
      ("id", text [pattern digestPattern]),
      ("source", source),
      ("type", text [constant eventType]),
      ("time", text [format "date-time"]),
      ("subject", subject),
      ("datacontenttype", text [constant "application/json"]),
      ("dataschema", text [format "uri"]),
      ("traceparent", text [pattern traceparentPattern])] ++ extensions ++ [("data", data)])

/-! ### Messages -/

def integer (least : Int) : Schema := all [hasType [.integer], minimum least]

/-- The `encryption` of an attachment. -/
def encryption : Schema := object ["key", "iv", "hashes", "v"] [
  ("key", object ["kty", "key_ops", "alg", "k", "ext"] [
    ("kty", text [constant "oct"]),
    ("key_ops", all [hasType [.array], uniqueItems, items (text []),
      all [contains (constant "encrypt"), contains (constant "decrypt")]]),
    ("alg", text [constant "A256CTR"]),
    ("k", text [pattern [.times isUrlSafe 43]]),
    ("ext", all [hasType [.boolean], constantFlag true])]),
  ("iv", text [pattern [.times isBase64 22]]),
  ("hashes", object ["sha256"] [("sha256", text [pattern [.times isBase64 43]])]),
  ("v", text [constant "v2"])]

def attachment (needed : List String) : Schema := object needed [
  ("kind", text [enum ["image", "video", "audio", "file", "sticker", "location"]]),
  ("mxc_uri", text [pattern mediaPattern]),
  ("mime_type", text [pattern mimePattern]),
  ("size_bytes", integer 0),
  ("caption", text [maxLength 1024]),
  ("dimensions", object ["width", "height"] [("width", integer 1), ("height", integer 1)]),
  ("duration_ms", integer 0),
  ("encryption", encryption)]

def attachments (needed : List String) : Schema :=
  all [hasType [.array], maxItems 16, items (attachment needed)]

def contact : Schema := object ["display_name"] [
  ("display_name", text [maxLength 256]),
  ("network_identifier", text [maxLength 256]),
  ("avatar_mxc_uri", text [pattern mediaPattern])]

def messageFormat : Schema := text [enum ["text/plain", "text/markdown", "text/html"]]

/-- The relation of a message of a room to the one it answers. -/
def roomReply : Schema := object ["matrix_event_id"] [
  ("matrix_event_id", text [pattern eventPattern]),
  ("excerpt", text [maxLength 512])]

def mailReply : Schema := object ["message_id"] [
  ("message_id", text [maxLength 998, pattern messageIdPattern])]

def isRevoked : Schema := all [required ["consent"], properties [("consent", constant "revoked")]]

def withoutContent : Schema := ifThenElse isRevoked
  (properties [("data", properties [
    ("body", never),
    ("title", never),
    ("reply_to", ifThenElse (hasType [.object]) (properties [("excerpt", never)]) always),
    ("attachments", items (properties [
      ("mxc_uri", never), ("encryption", never), ("caption", never)]))])])
  (properties [("data", all [
    required ["body"],
    properties [("reply_to", ifThenElse (all [hasType [.object], required ["matrix_event_id"]])
      (required ["excerpt"]) always)]])])

def referencesMedia : Schema := ifThenElse
  (all [required ["network"], properties [("network", constant "email")]])
  (properties [("data", properties [
    ("attachments", items (properties [("mxc_uri", never), ("encryption", never)]))])])
  (ifThenElse isRevoked always
    (properties [("data", properties [("attachments", items (required ["mxc_uri"]))])]))

def receivedData : Schema := object ["format", "reply_to", "attachments", "contact"] [
  ("body", text [maxLength 65536]),
  ("format", messageFormat),
  ("reply_to", oneOf [hasType [.null], roomReply, mailReply]),
  ("attachments", attachments ["kind", "mime_type", "size_bytes"]),
  ("contact", contact),
  ("network_timestamp", text [format "date-time"]),
  ("thread_root", text [oneOf [
    pattern eventPattern, all [pattern messageIdPattern, maxLength 998]]]),
  ("message_id", text [maxLength 998, pattern messageIdPattern]),
  ("title", text [maxLength 1024]),
  ("audience", text [enum ["direct", "group"]])]

def messageReceived : Schema := all [
  envelope "fr.linagora.twalk.inbound.message.received.v1"
    (text [format "uri-reference", oneOf [pattern roomPattern, pattern mailboxPattern]])
    (text [oneOf [pattern userPattern, all [pattern mailtoPattern, maxLength 512]]])
    [("network", network), ("connection", connection), ("consent", consent)]
    receivedData,
  withoutContent,
  referencesMedia]

def messageSent : Schema :=
  envelope "fr.linagora.twalk.outbound.message.sent.v1" room user
    [("network", network), ("connection", connection)]
    (object ["body", "format", "reply_to", "attachments"] [
      ("body", text [maxLength 65536]),
      ("format", messageFormat),
      ("reply_to", oneOf [hasType [.null], roomReply]),
      ("attachments", attachments ["kind", "mxc_uri", "mime_type", "size_bytes"]),
      ("network_timestamp", text [format "date-time"]),
      ("thread_root", text [pattern eventPattern])])

/-! ### Reactions and presence -/

def target : Schema := object ["matrix_event_id"] [
  ("matrix_event_id", text [pattern eventPattern]),
  ("excerpt", text [maxLength 512])]

def reactionAdded : Schema :=
  envelope "fr.linagora.twalk.inbound.reaction.added.v1" room user
    [("network", network), ("connection", connection), ("consent", consent)]
    (object ["reaction", "target", "contact"] [
      ("reaction", text [maxLength 64]),
      ("target", target),
      ("contact", contact),
      ("network_timestamp", text [format "date-time"])])

def ownReactionAdded : Schema :=
  envelope "fr.linagora.twalk.outbound.reaction.added.v1" room user
    [("network", network), ("connection", connection)]
    (object ["reaction", "target"] [
      ("reaction", text [maxLength 64]),
      ("target", target),
      ("network_timestamp", text [format "date-time"])])

def presenceUpdated : Schema :=
  envelope "fr.linagora.twalk.inbound.presence.updated.v1" room user
    [("network", network), ("connection", connection), ("consent", consent)]
    (object ["presence", "contact"] [
      ("presence", text [enum ["online", "offline", "unavailable"]]),
      ("last_active_at", text [format "date-time"]),
      ("contact", contact)])

/-! ### Calendar events -/

def moment : Schema := text [anyOf [format "date-time", format "date"]]

def person : Schema := object ["identity", "name"] [
  ("identity", mailto), ("name", textOrNull [maxLength 512])]

def participant : Schema := object ["identity", "name", "role", "partstat"] [
  ("identity", mailto),
  ("name", textOrNull [maxLength 512]),
  ("role", text [enum ["chair", "required", "optional", "non-participant"]]),
  ("partstat", text [enum ["needs-action", "accepted", "declined", "tentative", "delegated"]])]

def calendarEvent : Schema := object
  ["uid", "title", "start", "end", "all_day", "timezone", "status", "recurrence", "organizer",
    "participants", "participants_withheld"] [
  ("uid", text [minLength 1, maxLength 512]),
  ("title", text [maxLength 1024]),
  ("location", textOrNull [maxLength 1024]),
  ("start", moment),
  ("end", moment),
  ("all_day", hasType [.boolean]),
  ("timezone", textOrNull [maxLength 128]),
  ("status", text [enum ["confirmed", "tentative", "cancelled"]]),
  ("recurrence", textOrNull [maxLength 1024]),
  ("organizer", oneOf [hasType [.null], person]),
  ("participants", all [hasType [.array], maxItems 512, items participant]),
  ("participants_withheld", integer 0)]

/-- The names of the fields a change may name. -/
def changeable : List String :=
  ["title", "location", "start", "end", "all_day", "timezone", "status", "recurrence", "organizer",
    "participants"]

def calendarEnvelope (eventType : String) (data : Schema) : Schema :=
  envelope eventType (text [format "uri-reference", pattern calendarPattern]) mailto
    [("connection", connection)] data

def eventCreated : Schema :=
  calendarEnvelope "fr.linagora.twalk.calendar.event.created.v1" calendarEvent

def eventChanged : Schema :=
  calendarEnvelope "fr.linagora.twalk.calendar.event.changed.v1"
    (object ["event", "changed_fields"] [
      ("event", calendarEvent),
      ("changed_fields", all [hasType [.array], minItems 1, maxItems 16, uniqueItems,
        items (text [enum changeable])])])

def eventRemoved : Schema :=
  calendarEnvelope "fr.linagora.twalk.calendar.event.removed.v1"
    (object ["uid", "title"] [
      ("uid", text [minLength 1, maxLength 512]),
      ("title", text [maxLength 1024])])

/-! ### What the patterns ask -/

theorem text_string {rules : List Schema} {value : String} :
    text rules (.string value) = true ↔ ∀ rule ∈ rules, rule (.string value) = true := by
  unfold text
  rw [all_iff, List.forall_mem_cons]
  exact ⟨And.right, fun each => ⟨rfl, each⟩⟩

/-- An address that a `mailto:` of the contract can be made of. -/
def IsAddress (address : List Char) : Prop :=
  ∃ user domain, address = user ++ '@' :: domain ∧ user ≠ [] ∧ domain ≠ [] ∧
    ∀ character ∈ user ++ domain, isAddressed character = true

def IsMessageId (id : List Char) : Prop :=
  id ≠ [] ∧ ∀ character ∈ id, isUnbracketed character = true

def IsMediaType (media : List Char) : Prop :=
  ∃ kind subtype, media = kind ++ '/' :: subtype ∧ kind ≠ [] ∧
    (∀ character ∈ kind, character.isAlpha = true) ∧ subtype ≠ [] ∧
    ∀ character ∈ subtype, isSubtype character = true

/-- A part of a path that names something. -/
def IsSegment (part : List Char) : Prop := part ≠ [] ∧ '/' ∉ part

theorem accepts_mailto {address : List Char} :
    Pattern.accepts mailtoPattern ("mailto:".toList ++ address) = true ↔ IsAddress address := by
  unfold mailtoPattern
  rw [Pattern.accepts_exactly_append, Pattern.accepts_oneOrMore_separator '@' rfl]
  simp only [Pattern.accepts_singleton, Pattern.takes_oneOrMore]
  constructor
  · rintro ⟨user, domain, rfl, isUser, users, isDomain, domains⟩
    exact ⟨user, domain, rfl, isUser, isDomain, fun character member =>
      (List.mem_append.mp member).elim (users character) (domains character)⟩
  · rintro ⟨user, domain, rfl, isUser, isDomain, each⟩
    exact ⟨user, domain, rfl, isUser,
      fun character member => each character (List.mem_append_left _ member), isDomain,
      fun character member => each character (List.mem_append_right _ member)⟩

theorem accepts_messageId {id : List Char} :
    Pattern.accepts messageIdPattern ('<' :: (id ++ ['>'])) = true ↔ IsMessageId id := by
  have opened : '<' :: (id ++ ['>']) = "<".toList ++ (id ++ ['>']) := rfl
  unfold messageIdPattern
  rw [opened, Pattern.accepts_exactly_append, Pattern.accepts_oneOrMore_separator '>' rfl]
  constructor
  · rintro ⟨front, back, same, isSome, each, ends⟩
    rw [List.isEmpty_iff.mp ends] at same
    rw [(List.append_inj' same rfl).1]
    exact ⟨isSome, each⟩
  · rintro ⟨isSome, each⟩
    exact ⟨id, [], rfl, isSome, each, rfl⟩

theorem accepts_mime {mime : List Char} :
    Pattern.accepts mimePattern mime = true ↔
      ∃ kind subtype, mime = kind ++ '/' :: subtype ∧ kind ≠ [] ∧
        (∀ character ∈ kind, character.isLower = true) ∧ subtype ≠ [] ∧
        ∀ character ∈ subtype, isSubtype character = true := by
  unfold mimePattern
  rw [Pattern.accepts_oneOrMore_separator '/' rfl]
  simp only [Pattern.accepts_singleton, Pattern.takes_oneOrMore]

theorem notSlash_iff {part : List Char} :
    (∀ character ∈ part, notSlash character = true) ↔ '/' ∉ part := by
  unfold notSlash
  constructor
  · exact fun each member => absurd (each _ member) (by decide)
  · intro outside character member
    exact bne_iff_ne.mpr fun same => outside (same ▸ member)

theorem accepts_segment {rest : Pattern} {characters : List Char} :
    Pattern.accepts (.oneOrMore notSlash :: .exactly "/" :: rest) characters = true ↔
      ∃ front back, characters = front ++ '/' :: back ∧ front ≠ [] ∧ '/' ∉ front ∧
        Pattern.accepts rest back = true := by
  rw [Pattern.accepts_oneOrMore_separator '/' rfl]
  simp only [notSlash_iff]

theorem accepts_segments {first second third : List Char} :
    Pattern.accepts [.oneOrMore notSlash, .exactly "/", .oneOrMore notSlash, .exactly "/",
        .oneOrMore notSlash] (first ++ '/' :: (second ++ '/' :: third)) = true ↔
      IsSegment first ∧ IsSegment second ∧ IsSegment third := by
  simp only [accepts_segment, Pattern.accepts_singleton, Pattern.takes_oneOrMore, notSlash_iff]
  constructor
  · rintro ⟨front, _, same, isFront, frontPlain, middle, back, rfl, isMiddle, middlePlain, isBack,
      backPlain⟩
    have counts := congrArg (List.count '/') same
    simp only [List.count_append, List.count_cons_self, List.count_eq_zero.mpr frontPlain,
      List.count_eq_zero.mpr middlePlain, List.count_eq_zero.mpr backPlain] at counts
    have firstPlain : '/' ∉ first := List.count_eq_zero.mp (by omega)
    have secondPlain : '/' ∉ second := List.count_eq_zero.mp (by omega)
    have thirdPlain : '/' ∉ third := List.count_eq_zero.mp (by omega)
    obtain ⟨rfl, rest⟩ := Pattern.eq_of_append_separator firstPlain frontPlain same
    obtain ⟨rfl, rfl⟩ := Pattern.eq_of_append_separator secondPlain middlePlain rest
    exact ⟨⟨isFront, firstPlain⟩, ⟨isMiddle, secondPlain⟩, isBack, thirdPlain⟩
  · rintro ⟨⟨isFirst, firstPlain⟩, ⟨isSecond, secondPlain⟩, isThird, thirdPlain⟩
    exact ⟨first, _, rfl, isFirst, firstPlain, second, third, rfl, isSecond, secondPlain, isThird,
      thirdPlain⟩

theorem accepts_calendar {host owner calendar : List Char} :
    Pattern.accepts calendarPattern ("caldav://".toList ++ (host ++ ("/dav/calendars/".toList ++
        (owner ++ '/' :: (calendar ++ ['/']))))) = true ↔
      IsSegment host ∧ IsSegment owner ∧ IsSegment calendar := by
  have dav : ("/dav/calendars/".toList : List Char) = '/' :: "dav/calendars/".toList := rfl
  have davCount : List.count '/' "dav/calendars/".toList = 2 := by decide
  unfold calendarPattern
  rw [Pattern.accepts_exactly_append, Pattern.accepts_cons]
  constructor
  · rintro ⟨front, _, same, taken, accepted⟩
    obtain ⟨_, rfl, path⟩ := Pattern.accepts_exactly.mp accepted
    obtain ⟨middle, _, rfl, isMiddle, middlePlain, ending⟩ := accepts_segment.mp path
    obtain ⟨last, none, rfl, isLast, lastPlain, ended⟩ := accepts_segment.mp ending
    obtain ⟨isFront, frontPlain⟩ := Pattern.takes_oneOrMore.mp taken
    rw [notSlash_iff] at frontPlain
    rw [List.isEmpty_iff.mp ended, dav, List.cons_append, List.cons_append] at same
    have counts := congrArg (List.count '/') same
    simp only [List.count_append, List.count_cons_self, davCount, List.count_nil,
      List.count_eq_zero.mpr frontPlain, List.count_eq_zero.mpr middlePlain,
      List.count_eq_zero.mpr lastPlain] at counts
    have hostPlain : '/' ∉ host := List.count_eq_zero.mp (by omega)
    have ownerPlain : '/' ∉ owner := List.count_eq_zero.mp (by omega)
    have calendarPlain : '/' ∉ calendar := List.count_eq_zero.mp (by omega)
    obtain ⟨rfl, afterHost⟩ := Pattern.eq_of_append_separator hostPlain frontPlain same
    obtain ⟨rfl, afterOwner⟩ := Pattern.eq_of_append_separator ownerPlain middlePlain
      (List.append_cancel_left afterHost)
    obtain ⟨rfl, -⟩ := Pattern.eq_of_append_separator calendarPlain lastPlain afterOwner
    exact ⟨⟨isFront, hostPlain⟩, ⟨isMiddle, ownerPlain⟩, isLast, calendarPlain⟩
  · rintro ⟨⟨isHost, hostPlain⟩, ⟨isOwner, ownerPlain⟩, isCalendar, calendarPlain⟩
    refine ⟨host, _, rfl, Pattern.takes_oneOrMore.mpr ⟨isHost, notSlash_iff.mpr hostPlain⟩, ?_⟩
    rw [Pattern.accepts_exactly_append, accepts_segment]
    refine ⟨owner, _, rfl, isOwner, ownerPlain, ?_⟩
    rw [accepts_segment]
    exact ⟨calendar, [], rfl, isCalendar, calendarPlain, rfl⟩

theorem accepts_digest (text : String) :
    Pattern.accepts digestPattern (sha256Hex text).toList = true := by
  unfold digestPattern
  rw [Pattern.accepts_singleton, Pattern.takes_times]
  exact ⟨length_sha256Hex text, fun _ member => isHexDigit_of_mem_sha256Hex member⟩

/-! ### Letters of either case -/

theorem isAddressed_toLower (character : Char) :
    isAddressed character.toLower = isAddressed character := by
  refine Text.isIn_toLower (fun capital small low high lowered => ?_) character
  have plain : ∀ one : Char, 65 ≤ one.toNat → one.toNat ≤ 122 → isAddressed one = true := by
    intro one atLeast atMost
    have other : one ≠ '@' := by
      rintro rfl
      exact absurd atLeast (by decide)
    have visible : isPatternSpace one = false := by
      unfold isPatternSpace
      simp
      omega
    unfold isAddressed
    rw [bne_iff_ne.mpr other, visible]
    rfl
  rw [plain small (by omega) (by omega), plain capital low (by omega)]

theorem isAddress_toLower {address : List Char} :
    IsAddress (address.map Char.toLower) ↔ IsAddress address := by
  unfold IsAddress
  constructor
  · rintro ⟨user, domain, same, isUser, isDomain, each⟩
    obtain ⟨before, after, rfl, rfl, rfl⟩ := (Text.map_toLower_eq_iff (.inl (by decide))).mp same
    refine ⟨before, after, rfl, fun none => isUser (by rw [none]; rfl),
      fun none => isDomain (by rw [none]; rfl), fun character member => ?_⟩
    rw [← isAddressed_toLower]
    refine each _ ?_
    rw [← List.map_append]
    exact List.mem_map_of_mem member
  · rintro ⟨user, domain, rfl, isUser, isDomain, each⟩
    refine ⟨user.map Char.toLower, domain.map Char.toLower, ?_, ?_, ?_, ?_⟩
    · exact (Text.map_toLower_eq_iff (.inl (by decide))).mpr ⟨user, domain, rfl, rfl, rfl⟩
    · rwa [ne_eq, List.map_eq_nil_iff]
    · rwa [ne_eq, List.map_eq_nil_iff]
    · rw [← List.map_append, List.forall_mem_map]
      intro character member
      rw [isAddressed_toLower]
      exact each character member

theorem isAlpha_eq (character : Char) :
    character.isAlpha = (character.isUpper || character.isLower) := rfl

theorem isLower_toLower (character : Char) : character.toLower.isLower = character.isAlpha := by
  have range : ∀ one : Char, (one.isLower = true ↔ 97 ≤ one.toNat ∧ one.toNat ≤ 122) ∧
      (one.isUpper = true ↔ 65 ≤ one.toNat ∧ one.toNat ≤ 90) := by
    intro one
    unfold Char.isLower Char.isUpper
    simp only [Bool.and_eq_true, decide_eq_true_eq, ge_iff_le, UInt32.le_iff_toNat_le]
    exact ⟨Iff.rfl, Iff.rfl⟩
  rw [Bool.eq_iff_iff, isAlpha_eq, Bool.or_eq_true, (range _).1, (range _).1, (range _).2]
  rcases Text.toLower_cases character with ⟨low, high, lowered⟩ | ⟨noCapital, same⟩
  · omega
  · rw [same]
    omega

theorem isSubtype_toLower (character : Char) :
    isSubtype character.toLower = isSubtype character := by
  refine Text.isIn_toLower (fun capital small low high lowered => ?_) character
  have plain : ∀ one : Char, 65 ≤ one.toNat ∧ one.toNat ≤ 90 ∨ 97 ≤ one.toNat ∧ one.toNat ≤ 122 →
      isSubtype one = true := by
    intro one letter
    have isAlphanum : one.isAlphanum = true := by
      unfold Char.isAlphanum
      rw [isAlpha_eq]
      unfold Char.isUpper Char.isLower
      simp only [Bool.or_eq_true, Bool.and_eq_true, decide_eq_true_eq, ge_iff_le,
        UInt32.le_iff_toNat_le]
      exact .inl letter
    unfold isSubtype
    rw [isAlphanum]
    rfl
  rw [plain small (by omega), plain capital (by omega)]

theorem accepts_mime_toLower {media : List Char} :
    Pattern.accepts mimePattern (media.map Char.toLower) = true ↔ IsMediaType media := by
  rw [accepts_mime]
  constructor
  · rintro ⟨kind, subtype, same, isKind, kinds, isSubtype, subtypes⟩
    obtain ⟨before, after, rfl, rfl, rfl⟩ := (Text.map_toLower_eq_iff (.inl (by decide))).mp same
    rw [List.forall_mem_map] at kinds subtypes
    rw [ne_eq, List.map_eq_nil_iff] at isKind isSubtype
    refine ⟨before, after, rfl, isKind, fun character member => ?_, isSubtype,
      fun character member => ?_⟩
    · rw [← isLower_toLower]
      exact kinds character member
    · rw [← isSubtype_toLower]
      exact subtypes character member
  · rintro ⟨kind, subtype, rfl, isKind, kinds, isSubtype, subtypes⟩
    refine ⟨kind.map Char.toLower, subtype.map Char.toLower, ?_, ?_, ?_, ?_, ?_⟩
    · exact (Text.map_toLower_eq_iff (.inl (by decide))).mpr ⟨kind, subtype, rfl, rfl, rfl⟩
    · rwa [ne_eq, List.map_eq_nil_iff]
    · rw [List.forall_mem_map]
      intro character member
      rw [isLower_toLower]
      exact kinds character member
    · rwa [ne_eq, List.map_eq_nil_iff]
    · rw [List.forall_mem_map]
      intro character member
      rw [isSubtype_toLower]
      exact subtypes character member

/-! ### Connections -/

theorem accepts_connection_cons {first : Char} {rest : List Char} :
    Pattern.accepts connectionPattern (first :: rest) = true ↔
      isLowerAlphanumeric first = true ∧ rest.length ≤ 63 ∧
        ∀ character ∈ rest, (isLowerAlphanumeric character || character == '-') = true := by
  have taken : ∀ characters : List Char,
      (Piece.several (fun character => isLowerAlphanumeric character || character == '-') 0
        (some 63)).takes characters = true ↔ characters.length ≤ 63 ∧
          ∀ character ∈ characters, (isLowerAlphanumeric character || character == '-') = true := by
    intro characters
    dsimp only [Piece.takes]
    rw [Option.all_some, Bool.and_eq_true, Bool.and_eq_true, List.all_eq_true, decide_eq_true_eq,
      decide_eq_true_eq]
    exact ⟨fun ⟨⟨each, _⟩, few⟩ => ⟨few, each⟩, fun ⟨few, each⟩ => ⟨⟨each, Nat.zero_le _⟩, few⟩⟩
  unfold connectionPattern
  rw [Pattern.accepts_cons]
  simp only [Pattern.accepts_singleton, Pattern.takes_times, taken]
  constructor
  · rintro ⟨front, back, same, ⟨single, each⟩, tail⟩
    obtain ⟨only, rfl⟩ := List.length_eq_one_iff.mp single
    obtain ⟨rfl, rfl⟩ := List.cons.inj same
    exact ⟨each first List.mem_cons_self, tail⟩
  · rintro ⟨isFirst, tail⟩
    exact ⟨[first], rest, rfl, ⟨rfl, List.forall_mem_singleton.mpr isFirst⟩, tail⟩

theorem accepts_connection {id : String} :
    Pattern.accepts connectionPattern id.toList = true ↔ idIsValid id = true := by
  have narrow : ∀ character : Char,
      (isLowerAlphanumeric character || character == '-') = true → character.utf8Size = 1 := by
    intro character isIn
    rw [Char.utf8Size_eq_one_iff]
    unfold isLowerAlphanumeric Char.isLower Char.isDigit at isIn
    simp only [Bool.or_eq_true, Bool.and_eq_true, decide_eq_true_eq, beq_iff_eq, ge_iff_le] at isIn
    rcases isIn with (⟨-, high⟩ | ⟨-, high⟩) | rfl
    · exact Nat.le_trans high (by decide)
    · exact Nat.le_trans high (by decide)
    · decide
  unfold idIsValid
  cases spelled : id.toList with
  | nil =>
    rw [show Pattern.accepts connectionPattern [] = false by decide]
  | cons first rest =>
    have size : isLowerAlphanumeric first = true →
        (∀ character ∈ rest, (isLowerAlphanumeric character || character == '-') = true) →
        id.utf8ByteSize = rest.length + 1 := by
      intro isFirst each
      rw [← String.ofList_toList (s := id), spelled, Text.utf8ByteSize_of_narrow, List.length_cons]
      rw [List.forall_mem_cons]
      exact ⟨narrow first (Bool.or_eq_true _ _ ▸ .inl isFirst),
        fun character member => narrow character (each character member)⟩
    dsimp only
    rw [accepts_connection_cons, Bool.and_eq_true, Bool.and_eq_true, List.all_eq_true,
      decide_eq_true_eq]
    constructor
    · rintro ⟨isFirst, few, each⟩
      exact ⟨⟨isFirst, size isFirst each ▸ Nat.succ_le_succ few⟩, each⟩
    · rintro ⟨⟨isFirst, few⟩, each⟩
      rw [size isFirst each] at few
      exact ⟨isFirst, Nat.le_of_succ_le_succ few, each⟩

theorem connection_iff {id : String} : connection (.string id) = true ↔ idIsValid id = true := by
  unfold connection
  rw [text_string, List.forall_mem_singleton, pattern_string, accepts_connection]

end Twalk.Contract
