/-
This file is about a quotation that travels as text. A client writes a reply for those that do not
know replies too: before the sender's own words stands a fallback, the id of the author and the
lines of what is answered, each quoted. The Sensor publishes the text as it came, so where it
publishes a text at all it publishes the fallback, whoever is quoted in it; and so do an excerpt of
that reply and the body the SDK sends to Hermes for it.
-/

import Twalk.Handlers

namespace Twalk.Sensor

/-! ### A reply as a client writes it -/

/-- The plain-text fallback of a reply: whom it quotes, and the lines of what they said. -/
structure Fallback where
  author : UserId
  line : String
  further : List String

/-- The fallback as it stands before the sender's own words: every line quoted, the first with the
author's id, and an empty line. -/
def Fallback.text (fallback : Fallback) : String :=
  "> <" ++ fallback.author.asStr ++ "> " ++ fallback.line ++ "\n" ++
    String.join (fallback.further.map fun line => "> " ++ line ++ "\n") ++ "\n"

/-- The type of a message, with what it says of its media. A caption is what the text says beside
the name of the file. -/
inductive MessageType where
  | text
  | location
  | media (attachment : Attachment) (filename : Option String)
  | sticker (attachment : Option Attachment)
  | other

/-- The caption rule of a media message. -/
def caption (body : String) (filename : Option String) : Option String :=
  if filename.any fun filename => body != filename then some body else none

/-- `attachments_for`: the attachments of a message, unless its type has no shape in the
contract. -/
def attachmentsFor (msgtype : MessageType) (body : String) : Option (List Attachment) :=
  match msgtype with
  | .text => some []
  | .location => some []
  | .media attachment filename => some [{ attachment with caption := caption body filename }]
  | .sticker attachment =>
    some (attachment.toList.map fun attachment => { attachment with caption := none })
  | .other => none

structure Written where
  eventId : String
  room : Room
  sender : UserId
  originServerTs : UInt
  relatesTo : Option Relation
  msgtype : MessageType
  own : String
  displayName : Option String
  fetched : Option TimelineMessage

namespace Written

variable (written : Written)

/-- The text of a message that quotes what it answers. -/
def body (fallback : Fallback) : String := fallback.text ++ written.own

def quoting (fallback : Fallback) : MessageEvent where
  eventId := written.eventId
  room := written.room
  sender := written.sender
  originServerTs := written.originServerTs
  relatesTo := written.relatesTo
  attachments := attachmentsFor written.msgtype (written.body fallback)
  body := written.body fallback
  displayName := written.displayName
  fetched := written.fetched

/-- The same message, as it is fetched later because another one quotes it. -/
def timeline (fallback : Fallback) : TimelineMessage := ⟨written.sender, written.body fallback⟩

end Written

/-! ### What the SDK sends -/

/-- `reference`: what brings the answer home. -/
def webhookReference (personaId triggerEventId : String) (attempt : Nat) : String :=
  "TWALK-REF:" ++ personaId ++ ":" ++ triggerEventId ++ ":" ++ toString attempt

def textOrNull (text : Option String) : Json := (text.map Json.string).getD .null

def isReply (event : Json) : Bool :=
  match event.pointer ["data", "reply_to"] with
  | some (.object _) => true
  | _ => false

def attachmentsOf (event : Json) : List Json :=
  (((event.pointer ["data", "attachments"]).bind Json.asArray).getD []).filter fun
    | .object _ => true
    | _ => false

/-- `webhook_body`: what crosses to Hermes for an inbound message. -/
def webhookBody (trigger : Json) (personaId : String) (attempt : Nat)
    (userLanguage : Option String) : Json :=
  .object ([
    ("event_type", .string "twalk.message.received"),
    ("template_version", .number 2),
    ("reference", .string
      (webhookReference personaId ((trigger.textAt ["id"]).getD "") attempt)),
    ("network", textOrNull (trigger.textAt ["network"])),
    ("received_at", (trigger.get? "time").getD .null),
    ("message", .string ((trigger.textAt ["data", "body"]).getD "")),
    ("format", .string ((trigger.textAt ["data", "format"]).getD "text/plain")),
    ("quotes_an_earlier_message", .bool (isReply trigger)),
    ("has_attachments", .bool !(attachmentsOf trigger).isEmpty),
    ("user_language", textOrNull userLanguage)] ++
    optional "title" (((trigger.textAt ["data", "title"]).filter (· ≠ "")).map .string))

/-! ### What is published of a text -/

theorem capChars_capChars (value : String) (limit : Nat) :
    capChars (capChars value limit) limit = capChars value limit := by
  unfold capChars
  rw [String.toList_ofList, List.take_take, Nat.min_self]

theorem capChars_ne {front firstRest secondRest : List Char} {first second : Char}
    (differ : first ≠ second) {limit : Nat} (inside : front.length < limit) :
    capChars (String.ofList (front ++ first :: firstRest)) limit ≠
      capChars (String.ofList (front ++ second :: secondRest)) limit := by
  intro same
  have lists := congrArg (fun kept : String => kept.toList[front.length]?) same
  simp only [capChars, String.toList_ofList, List.getElem?_take, if_pos inside,
    List.getElem?_append_right (Nat.le_refl _), Nat.sub_self, List.getElem?_cons_zero,
    Option.some.injEq] at lists
  exact differ lists

def Fallback.ofLine (author : UserId) (line : String) : Fallback := ⟨author, line, []⟩

theorem body_ofLine (written : Written) (author : UserId) (character : Char) :
    written.body (Fallback.ofLine author (String.singleton character)) =
      String.ofList (("> <" ++ author.asStr ++ "> ").toList ++
        character :: ("\n" ++ "\n" ++ written.own).toList) := by
  apply String.toList_injective
  simp [Written.body, Fallback.text, Fallback.ofLine]

variable {author : UserId}

/-- Where an output keeps some 512 characters of the text, two fallbacks of one author tell
outputs apart; where it keeps nothing of it, none do. -/
theorem alike_iff {Output : Type} (written : Written) {out : Fallback → Output} {told : Prop}
    {withheld : UserId → Prop} (isWithheld : withheld author)
    (short : author.asStr.toList.length ≤ 255)
    (silent : ¬told → ∀ first second, out first = out second)
    (speaks : told → ∃ (read : Output → Option String) (limit : Nat), 512 ≤ limit ∧
      ∀ fallback, read (out fallback) = some (capChars (written.body fallback) limit)) :
    (∀ first second : Fallback, withheld first.author → withheld second.author →
      out first = out second) ↔ ¬told := by
  constructor
  · intro alike isTold
    obtain ⟨read, limit, wide, reads⟩ := speaks isTold
    have same := congrArg read (alike (.ofLine author (String.singleton 'x'))
      (.ofLine author (String.singleton 'y')) isWithheld isWithheld)
    rw [reads, reads, Option.some.injEq, body_ofLine, body_ofLine] at same
    refine capChars_ne (by decide) ?_ same
    simp only [String.toList_append, List.length_append]
    have lead : "> <".toList.length = 3 := rfl
    have trail : "> ".toList.length = 2 := rfl
    omega
  · intro untold first second _ _
    exact silent untold first second

/-! ### The event of a reply -/

def Written.observed (written : Written) : Observed :=
  .message written.room (written.relatesTo.any Relation.isReplacement)
    (attachmentsFor written.msgtype written.own).isSome

theorem observed_quoting (written : Written) (fallback : Fallback) :
    (Delivered.message (written.quoting fallback)).observed = written.observed := by
  unfold Delivered.observed Written.observed Written.quoting
  cases written.msgtype <;> rfl

theorem body_buildMessageReceived {input : InboundMessage}
    (speaks : input.consent.reducesPublication = false) :
    (buildMessageReceived input).textAt ["data", "body"] =
      some (capChars input.body 65536) := by
  unfold buildMessageReceived
  cases consent : input.consent with
  | pending => rfl
  | granted => rfl
  | revoked =>
    rw [consent] at speaks
    cases speaks

theorem body_buildOutboundMessageSent (input : OutboundMessage) :
    (buildOutboundMessageSent input).textAt ["data", "body"] =
      some (capChars input.body 65536) := rfl

theorem excerpt_buildMessageReceived {input : InboundMessage}
    (speaks : input.consent.reducesPublication = false) {reply : ReplyTo}
    (is : input.replyTo = some reply) :
    (buildMessageReceived input).textAt ["data", "reply_to", "excerpt"] =
      some ((reply.quoted.bind fun quoted => quoted.publishable input.consent).getD "") := by
  unfold buildMessageReceived inboundReply
  rw [is]
  cases consent : input.consent with
  | pending => rfl
  | granted => rfl
  | revoked =>
    rw [consent] at speaks
    cases speaks

theorem excerpt_buildOutboundMessageSent {input : OutboundMessage} {reply : ReplyTo}
    (is : input.replyTo = some reply) :
    (buildOutboundMessageSent input).textAt ["data", "reply_to", "excerpt"] =
      reply.quoted.bind QuotedExcerpt.publishableUnlabelled := by
  unfold buildOutboundMessageSent outboundReply
  rw [is]
  dsimp only
  cases reply.quoted.bind QuotedExcerpt.publishableUnlabelled <;> rfl

theorem excerpt_buildReactionAdded (input : InboundReaction) :
    (buildReactionAdded input).textAt ["data", "target", "excerpt"] =
      input.targetExcerpt.bind fun quoted => quoted.publishable input.consent := by
  unfold buildReactionAdded target
  cases input.targetExcerpt.bind fun quoted => quoted.publishable input.consent <;> rfl

theorem excerpt_buildOutboundReactionAdded (input : OutboundReaction) :
    (buildOutboundReactionAdded input).textAt ["data", "target", "excerpt"] =
      input.targetExcerpt.bind QuotedExcerpt.publishableUnlabelled := by
  unfold buildOutboundReactionAdded target
  cases input.targetExcerpt.bind QuotedExcerpt.publishableUnlabelled <;> rfl

/-! ### A reply that quotes -/

def Watch.Withheld (watch : Watch) (sender : UserId) (observed : Observed) (room : Room)
    (author : UserId) : Prop :=
  ∀ place, attribution watch.registry watch.observer watch.client sender observed = some place →
    (quotedAuthor watch.observer watch.cache room place.connection author).isGranted = false

/-- The contact or the owner an event is of may be published whole. -/
def Watch.Speaks (watch : Watch) (sender : UserId) (place : Attribution) : Prop :=
  (watch.ownerSending sender).isSome = true ∨
    (watch.cache.state sender.asStr place.connection).reducesPublication = false

/-- The text of a message is published: it is attributed, the instants it names can be written, and
its sender is the owner or was not revoked. -/
def Watch.Tells (watch : Watch) (now : Int) (written : Written) : Prop :=
  ∃ place, attribution watch.registry watch.observer watch.client written.sender
      written.observed = some place ∧
    Rfc3339.Writable now ∧ written.originServerTs.value ≤ lastMillisecond ∧
    watch.Speaks written.sender place

def Handling.textAt (path : List String) : Handling → Option String
  | .built envelope => envelope.textAt path
  | _ => none

variable {place : Attribution} {written : Written}

section Messages

variable (watch : Watch) (now : Int)

theorem handle_quoting (written : Written) (fallback : Fallback) :
    watch.handle now (.message (written.quoting fallback)) =
      match attribution watch.registry watch.observer watch.client written.sender
        written.observed with
      | none => .skipped
      | some place => watch.handleMessage now (written.quoting fallback) place := by
  unfold Watch.handle
  rw [observed_quoting]
  rfl

theorem instants_of_tellable {originServerTs : UInt} (writable : Rfc3339.Writable now)
    (early : originServerTs.value ≤ lastMillisecond) :
    ∃ producedAt networkTimestamp, (do
      let producedAt ← rfc3339 now
      let networkTimestamp ← rfc3339Ms originServerTs.value
      return (producedAt, networkTimestamp)) = some (producedAt, networkTimestamp) := by
  obtain ⟨networkTimestamp, isTimestamp⟩ :=
    Option.isSome_iff_exists.mp ((rfc3339Ms_isSome_iff originServerTs.value).mpr early)
  exact ⟨_, networkTimestamp, by rw [rfc3339_of_writable writable, isTimestamp]; rfl⟩

theorem handleMessage_of_tellable (event : MessageEvent) (place : Attribution)
    (writable : Rfc3339.Writable now) (early : event.originServerTs.value ≤ lastMillisecond) :
    ∃ producedAt networkTimestamp, watch.handleMessage now event place =
      match watch.ownerSending event.sender with
      | some owner => .built (buildOutboundMessageSent
          (watch.ownMessage event owner place producedAt networkTimestamp))
      | none => .built (buildMessageReceived
          (watch.contactMessage event place producedAt networkTimestamp)) := by
  obtain ⟨producedAt, networkTimestamp, instants⟩ := instants_of_tellable now writable early
  refine ⟨producedAt, networkTimestamp, ?_⟩
  unfold Watch.handleMessage
  rw [instants]
  rfl

theorem handleMessage_of_silent (silent : ¬watch.Speaks written.sender place)
    (first second : Fallback) :
    watch.handleMessage now (written.quoting first) place =
      watch.handleMessage now (written.quoting second) place := by
  obtain ⟨notOwner, speechless⟩ := not_or.mp silent
  have contact : watch.ownerSending written.sender = none :=
    Option.not_isSome_iff_eq_none.mp notOwner
  have reduced := (Bool.not_eq_false _).mp speechless
  have alike : ∀ producedAt networkTimestamp,
      buildMessageReceived
          (watch.contactMessage (written.quoting first) place producedAt networkTimestamp) =
        buildMessageReceived
          (watch.contactMessage (written.quoting second) place producedAt networkTimestamp) := by
    intro producedAt networkTimestamp
    refine eq_of_view (buildMessageReceived_untold reduced)
      (buildMessageReceived_untold reduced) ?_
    unfold InboundMessage.untold Watch.contactMessage Written.quoting
    dsimp only
    cases written.msgtype <;> rfl
  unfold Watch.handleMessage
  rw [show watch.ownerSending (written.quoting first).sender = none from contact,
    show watch.ownerSending (written.quoting second).sender = none from contact]
  dsimp only
  congr 1
  funext ⟨producedAt, networkTimestamp⟩
  exact alike producedAt networkTimestamp

theorem handle_eq_of_untold (untold : ¬watch.Tells now written) (first second : Fallback) :
    watch.handle now (.message (written.quoting first)) =
      watch.handle now (.message (written.quoting second)) := by
  rw [handle_quoting, handle_quoting]
  cases isPlace : attribution watch.registry watch.observer watch.client written.sender
    written.observed with
  | none => rfl
  | some place =>
    dsimp only
    by_cases tellable : Rfc3339.Writable now ∧ written.originServerTs.value ≤ lastMillisecond
    · exact handleMessage_of_silent watch now
        (fun speaks => untold ⟨place, isPlace, tellable.1, tellable.2, speaks⟩) first second
    · have panics : ∀ fallback, watch.handleMessage now (written.quoting fallback) place =
          .panicked := fun fallback =>
        not_not.mp ((not_congr (handleMessage_ne_panicked_iff watch now _ place)).mpr tellable)
      rw [panics, panics]

theorem body_handle_of_tells (tells : watch.Tells now written) (fallback : Fallback) :
    (watch.handle now (.message (written.quoting fallback))).textAt ["data", "body"] =
      some (capChars (written.body fallback) 65536) := by
  obtain ⟨place, isPlace, writable, early, speaks⟩ := tells
  rw [handle_quoting, isPlace]
  dsimp only
  obtain ⟨producedAt, networkTimestamp, handled⟩ := handleMessage_of_tellable watch now
    (written.quoting fallback) place writable early
  rw [handled]
  cases owner : watch.ownerSending written.sender with
  | some identity =>
    rw [show watch.ownerSending (written.quoting fallback).sender = some identity from owner]
    exact body_buildOutboundMessageSent _
  | none =>
    rw [show watch.ownerSending (written.quoting fallback).sender = none from owner]
    rcases speaks with isOwner | speaks
    · rw [owner] at isOwner
      cases isOwner
    · exact body_buildMessageReceived speaks

theorem handle_alike_iff (written : Written)
    (withheld : watch.Withheld written.sender written.observed written.room author)
    (short : author.asStr.toList.length ≤ 255) :
    (∀ first second : Fallback,
      watch.Withheld written.sender written.observed written.room first.author →
      watch.Withheld written.sender written.observed written.room second.author →
      watch.handle now (.message (written.quoting first)) =
        watch.handle now (.message (written.quoting second))) ↔ ¬watch.Tells now written :=
  alike_iff written withheld short (handle_eq_of_untold watch now) fun tells =>
    ⟨Handling.textAt ["data", "body"], 65536, by decide, body_handle_of_tells watch now tells⟩

end Messages

/-! ### What quotes the reply -/

def Watch.MayQuote (watch : Watch) (room : Room) (place : Attribution) (author : UserId) : Prop :=
  (quotedAuthor watch.observer watch.cache room place.connection author).isGranted = true

def MessageEvent.answering (carrier : MessageEvent) (answered : TimelineMessage) : MessageEvent :=
  { carrier with fetched := some answered }

def ReactionEvent.answering (carrier : ReactionEvent) (answered : TimelineMessage) :
    ReactionEvent :=
  { carrier with fetched := some answered }

/-- A message carries an excerpt of the reply it answers: it is published whole, its relation is
that of a reply, and the reply's sender may be quoted there. -/
def Watch.Excerpts (watch : Watch) (now : Int) (carrier : MessageEvent) (author : UserId) : Prop :=
  ∃ place, attribution watch.registry watch.observer watch.client carrier.sender
      (Delivered.message carrier).observed = some place ∧
    Rfc3339.Writable now ∧ carrier.originServerTs.value ≤ lastMillisecond ∧
    watch.Speaks carrier.sender place ∧ (relationTargets carrier.relatesTo).1.isSome = true ∧
    watch.MayQuote carrier.room place author

def Watch.ExcerptsTarget (watch : Watch) (now : Int) (carrier : ReactionEvent) (author : UserId) :
    Prop :=
  ∃ place, attribution watch.registry watch.observer watch.client carrier.sender
      (Delivered.reaction carrier).observed = some place ∧
    Rfc3339.Writable now ∧ watch.Speaks carrier.sender place ∧
    watch.MayQuote carrier.room place author

section Carriers

variable (watch : Watch) (now : Int)

variable {room : Room}

theorem excerpt_eq_of_mayQuote (mayQuote : watch.MayQuote room place written.sender)
    (fallback : Fallback) :
    quotedMessage watch.observer watch.cache room place.connection
        (some (written.timeline fallback)) =
      some ⟨excerpt (written.body fallback),
        quotedAuthor watch.observer watch.cache room place.connection written.sender⟩ := by
  unfold quotedMessage Written.timeline
  dsimp only [Option.map_some]
  rw [show (quotedAuthor watch.observer watch.cache room place.connection
    written.sender).isGranted = true from mayQuote, if_pos rfl]

theorem excerpt_alike (mayNot : ¬watch.MayQuote room place written.sender) (first second : Fallback)
    :
    quotedMessage watch.observer watch.cache room place.connection
        (some (written.timeline first)) =
      quotedMessage watch.observer watch.cache room place.connection
        (some (written.timeline second)) :=
  quotedMessage_withholds watch.observer watch.cache room place.connection
    ((Bool.not_eq_true _).mp mayNot) _ _

theorem publishable_of_mayQuote (mayQuote : watch.MayQuote room place author)
    {carrier : Cache.Consent} (speaks : carrier.reducesPublication = false) (body : String) :
    QuotedExcerpt.publishable ⟨excerpt body,
        quotedAuthor watch.observer watch.cache room place.connection author⟩ carrier =
      some (capChars body 512) := by
  unfold QuotedExcerpt.publishable
  dsimp only
  rw [speaks, show (quotedAuthor watch.observer watch.cache room place.connection
    author).isGranted = true from mayQuote]
  exact congrArg some (capChars_capChars body 512)

theorem publishableUnlabelled_of_mayQuote (mayQuote : watch.MayQuote room place author)
    (body : String) :
    QuotedExcerpt.publishableUnlabelled ⟨excerpt body,
        quotedAuthor watch.observer watch.cache room place.connection author⟩ =
      some (capChars body 512) := by
  unfold QuotedExcerpt.publishableUnlabelled
  dsimp only
  rw [show (quotedAuthor watch.observer watch.cache room place.connection
    author).isGranted = true from mayQuote]
  exact congrArg some (capChars_capChars body 512)

variable {carrier : MessageEvent} {first second : TimelineMessage}

theorem ownMessage_answering_eq
    (same : quotedMessage watch.observer watch.cache carrier.room place.connection (some first) =
      quotedMessage watch.observer watch.cache carrier.room place.connection (some second))
    (owner : Cache.Owner) (producedAt networkTimestamp : String) :
    watch.ownMessage (carrier.answering first) owner place producedAt networkTimestamp =
      watch.ownMessage (carrier.answering second) owner place producedAt networkTimestamp := by
  unfold Watch.ownMessage MessageEvent.answering
  dsimp only
  rw [same]

theorem contactMessage_answering_eq
    (same : quotedMessage watch.observer watch.cache carrier.room place.connection (some first) =
      quotedMessage watch.observer watch.cache carrier.room place.connection (some second))
    (producedAt networkTimestamp : String) :
    watch.contactMessage (carrier.answering first) place producedAt networkTimestamp =
      watch.contactMessage (carrier.answering second) place producedAt networkTimestamp := by
  unfold Watch.contactMessage MessageEvent.answering
  dsimp only
  rw [same]

theorem messages_answering_eq_of_no_target (noTarget : (relationTargets carrier.relatesTo).1 = none)
    (place : Attribution) (first second : TimelineMessage) (producedAt networkTimestamp : String) :
    (∀ owner, watch.ownMessage (carrier.answering first) owner place producedAt networkTimestamp =
      watch.ownMessage (carrier.answering second) owner place producedAt networkTimestamp) ∧
    watch.contactMessage (carrier.answering first) place producedAt networkTimestamp =
      watch.contactMessage (carrier.answering second) place producedAt networkTimestamp := by
  unfold Watch.ownMessage Watch.contactMessage MessageEvent.answering
  dsimp only
  rw [noTarget]
  exact ⟨fun _ => rfl, rfl⟩

theorem contactMessage_answering_eq_of_reduced
    (reduced : (watch.cache.state carrier.sender.asStr place.connection).reducesPublication = true)
    (first second : TimelineMessage) (producedAt networkTimestamp : String) :
    watch.contactMessage (carrier.answering first) place producedAt networkTimestamp =
      watch.contactMessage (carrier.answering second) place producedAt networkTimestamp := by
  unfold Watch.contactMessage MessageEvent.answering
  dsimp only
  rw [reduced]
  rfl

variable {answered : TimelineMessage}

theorem replyTo_ownMessage {parent : String}
    (isParent : (relationTargets carrier.relatesTo).1 = some parent) {quoted : QuotedExcerpt}
    (isQuoted : quotedMessage watch.observer watch.cache carrier.room place.connection
      (some answered) = some quoted) (owner : Cache.Owner) (producedAt networkTimestamp : String) :
    (watch.ownMessage (carrier.answering answered) owner place producedAt
      networkTimestamp).replyTo = some ⟨parent, some quoted⟩ := by
  unfold Watch.ownMessage MessageEvent.answering
  dsimp only
  rw [isParent, isQuoted]
  rfl

theorem replyTo_contactMessage {parent : String}
    (isParent : (relationTargets carrier.relatesTo).1 = some parent)
    (speaks : (watch.cache.state carrier.sender.asStr place.connection).reducesPublication = false)
    {quoted : QuotedExcerpt}
    (isQuoted : quotedMessage watch.observer watch.cache carrier.room place.connection
      (some answered) = some quoted) (producedAt networkTimestamp : String) :
    (watch.contactMessage (carrier.answering answered) place producedAt
      networkTimestamp).replyTo = some ⟨parent, some quoted⟩ := by
  unfold Watch.contactMessage MessageEvent.answering
  dsimp only
  rw [isParent, speaks, isQuoted]
  rfl

theorem handleMessage_congr {first second : MessageEvent} (sender : first.sender = second.sender)
    (originServerTs : first.originServerTs = second.originServerTs)
    (own : ∀ owner producedAt networkTimestamp, watch.ownerSending second.sender = some owner →
      watch.ownMessage first owner place producedAt networkTimestamp =
        watch.ownMessage second owner place producedAt networkTimestamp)
    (contact : ∀ producedAt networkTimestamp, watch.ownerSending second.sender = none →
      watch.contactMessage first place producedAt networkTimestamp =
        watch.contactMessage second place producedAt networkTimestamp) :
    watch.handleMessage now first place = watch.handleMessage now second place := by
  unfold Watch.handleMessage
  rw [sender, originServerTs]
  cases owner : watch.ownerSending second.sender with
  | some identity =>
    dsimp only
    congr 1
    funext ⟨producedAt, networkTimestamp⟩
    rw [own identity producedAt networkTimestamp owner]
  | none =>
    dsimp only
    congr 1
    funext ⟨producedAt, networkTimestamp⟩
    rw [contact producedAt networkTimestamp owner]

theorem handleMessage_answering_eq (silent : ¬(watch.Speaks carrier.sender place ∧
      (relationTargets carrier.relatesTo).1.isSome = true ∧
      watch.MayQuote carrier.room place written.sender)) (first second : Fallback) :
    watch.handleMessage now (carrier.answering (written.timeline first)) place =
      watch.handleMessage now (carrier.answering (written.timeline second)) place := by
  by_cases target : (relationTargets carrier.relatesTo).1.isSome = true
  · by_cases mayQuote : watch.MayQuote carrier.room place written.sender
    · obtain ⟨notOwner, speechless⟩ := not_or.mp fun speaks => silent ⟨speaks, target, mayQuote⟩
      refine handleMessage_congr watch now rfl rfl (fun owner _ _ isOwner => ?_)
        fun producedAt networkTimestamp _ => contactMessage_answering_eq_of_reduced watch
          ((Bool.not_eq_false _).mp speechless) _ _ producedAt networkTimestamp
      refine absurd ?_ notOwner
      rw [show watch.ownerSending carrier.sender = some owner from isOwner]
      rfl
    · have same := excerpt_alike watch mayQuote first second
      exact handleMessage_congr watch now rfl rfl
        (fun owner producedAt networkTimestamp _ =>
          ownMessage_answering_eq watch same owner producedAt networkTimestamp)
        fun producedAt networkTimestamp _ =>
          contactMessage_answering_eq watch same producedAt networkTimestamp
  · have noTarget := Option.not_isSome_iff_eq_none.mp target
    exact handleMessage_congr watch now rfl rfl
      (fun owner producedAt networkTimestamp _ => (messages_answering_eq_of_no_target watch noTarget
        place _ _ producedAt networkTimestamp).1 owner)
      fun producedAt networkTimestamp _ => (messages_answering_eq_of_no_target watch noTarget place
        _ _ producedAt networkTimestamp).2

theorem excerpts_alike_iff (carrier : MessageEvent) (written : Written)
    (withheld : watch.Withheld carrier.sender (Delivered.message carrier).observed carrier.room
      author) (short : author.asStr.toList.length ≤ 255) :
    (∀ first second : Fallback,
      watch.Withheld carrier.sender (Delivered.message carrier).observed carrier.room
        first.author →
      watch.Withheld carrier.sender (Delivered.message carrier).observed carrier.room
        second.author →
      watch.handle now (.message (carrier.answering (written.timeline first))) =
        watch.handle now (.message (carrier.answering (written.timeline second)))) ↔
      ¬watch.Excerpts now carrier written.sender := by
  have handled : ∀ answered : TimelineMessage,
      watch.handle now (.message (carrier.answering answered)) =
        match attribution watch.registry watch.observer watch.client carrier.sender
          (Delivered.message carrier).observed with
        | none => .skipped
        | some place => watch.handleMessage now (carrier.answering answered) place :=
    fun answered => rfl
  refine alike_iff written withheld short (fun untold first second => ?_) fun tells => ?_
  · rw [handled, handled]
    cases isPlace : attribution watch.registry watch.observer watch.client carrier.sender
      (Delivered.message carrier).observed with
    | none => rfl
    | some place =>
      dsimp only
      by_cases tellable : Rfc3339.Writable now ∧ carrier.originServerTs.value ≤ lastMillisecond
      · exact handleMessage_answering_eq watch now
          (fun excerpts => untold ⟨place, isPlace, tellable.1, tellable.2, excerpts⟩) first second
      · have panics : ∀ answered, watch.handleMessage now (carrier.answering answered) place =
            .panicked := fun answered =>
          not_not.mp ((not_congr (handleMessage_ne_panicked_iff watch now _ place)).mpr tellable)
        rw [panics, panics]
  · obtain ⟨place, isPlace, writable, early, speaks, target, mayQuote⟩ := tells
    obtain ⟨parent, isParent⟩ := Option.isSome_iff_exists.mp target
    refine ⟨Handling.textAt ["data", "reply_to", "excerpt"], 512, Nat.le_refl 512,
      fun fallback => ?_⟩
    rw [handled, isPlace]
    dsimp only
    obtain ⟨producedAt, networkTimestamp, isHandled⟩ := handleMessage_of_tellable watch now
      (carrier.answering (written.timeline fallback)) place writable early
    rw [isHandled]
    have quoted := excerpt_eq_of_mayQuote watch mayQuote fallback
    cases owner : watch.ownerSending carrier.sender with
    | some identity =>
      rw [show watch.ownerSending (carrier.answering (written.timeline fallback)).sender =
        some identity from owner]
      have replies := replyTo_ownMessage watch isParent quoted identity producedAt
        networkTimestamp
      refine (excerpt_buildOutboundMessageSent replies).trans ?_
      exact publishableUnlabelled_of_mayQuote watch mayQuote _
    | none =>
      rw [show watch.ownerSending (carrier.answering (written.timeline fallback)).sender =
        none from owner]
      rcases speaks with isOwner | speaks
      · rw [owner] at isOwner
        cases isOwner
      · have replies := replyTo_contactMessage watch isParent speaks quoted producedAt
          networkTimestamp
        refine (excerpt_buildMessageReceived speaks replies).trans ?_
        have consent : (watch.contactMessage (carrier.answering (written.timeline fallback)) place
            producedAt networkTimestamp).consent =
              watch.cache.state carrier.sender.asStr place.connection := rfl
        dsimp only
        rw [Option.bind_some, consent, publishable_of_mayQuote watch mayQuote speaks,
          Option.getD_some]

theorem ownReaction_answering_eq {carrier : ReactionEvent}
    (same : quotedMessage watch.observer watch.cache carrier.room place.connection (some first) =
      quotedMessage watch.observer watch.cache carrier.room place.connection (some second))
    (owner : Cache.Owner) (producedAt : String) :
    watch.ownReaction (carrier.answering first) owner place producedAt =
      watch.ownReaction (carrier.answering second) owner place producedAt := by
  unfold Watch.ownReaction ReactionEvent.answering
  dsimp only
  rw [same]

theorem contactReaction_answering_eq {carrier : ReactionEvent}
    (same : quotedMessage watch.observer watch.cache carrier.room place.connection (some first) =
      quotedMessage watch.observer watch.cache carrier.room place.connection (some second))
    (producedAt : String) :
    watch.contactReaction (carrier.answering first) place producedAt =
      watch.contactReaction (carrier.answering second) place producedAt := by
  unfold Watch.contactReaction ReactionEvent.answering
  dsimp only
  rw [same]

theorem contactReaction_answering_eq_of_reduced {carrier : ReactionEvent}
    (reduced : (watch.cache.state carrier.sender.asStr place.connection).reducesPublication = true)
    (first second : TimelineMessage) (producedAt : String) :
    watch.contactReaction (carrier.answering first) place producedAt =
      watch.contactReaction (carrier.answering second) place producedAt := by
  unfold Watch.contactReaction ReactionEvent.answering
  dsimp only
  rw [reduced]
  rfl

theorem handleReaction_congr {first second : ReactionEvent} (sender : first.sender = second.sender)
    (own : ∀ owner producedAt, watch.ownerSending second.sender = some owner →
      watch.ownReaction first owner place producedAt =
        watch.ownReaction second owner place producedAt)
    (contact : ∀ producedAt, watch.ownerSending second.sender = none →
      watch.contactReaction first place producedAt =
        watch.contactReaction second place producedAt) :
    watch.handleReaction now first place = watch.handleReaction now second place := by
  unfold Watch.handleReaction
  rw [sender]
  cases owner : watch.ownerSending second.sender with
  | some identity =>
    dsimp only
    congr 1
    funext producedAt
    rw [own identity producedAt owner]
  | none =>
    dsimp only
    congr 1
    funext producedAt
    rw [contact producedAt owner]

theorem handleReaction_answering_eq {carrier : ReactionEvent}
    (silent : ¬(watch.Speaks carrier.sender place ∧
      watch.MayQuote carrier.room place written.sender)) (first second : Fallback) :
    watch.handleReaction now (carrier.answering (written.timeline first)) place =
      watch.handleReaction now (carrier.answering (written.timeline second)) place := by
  by_cases mayQuote : watch.MayQuote carrier.room place written.sender
  · obtain ⟨notOwner, speechless⟩ := not_or.mp fun speaks => silent ⟨speaks, mayQuote⟩
    refine handleReaction_congr watch now rfl (fun owner _ isOwner => ?_) fun producedAt _ =>
      contactReaction_answering_eq_of_reduced watch ((Bool.not_eq_false _).mp speechless) _ _
        producedAt
    refine absurd ?_ notOwner
    rw [show watch.ownerSending carrier.sender = some owner from isOwner]
    rfl
  · have same := excerpt_alike watch mayQuote first second
    exact handleReaction_congr watch now rfl
      (fun owner producedAt _ => ownReaction_answering_eq watch same owner producedAt)
      fun producedAt _ => contactReaction_answering_eq watch same producedAt

theorem targets_alike_iff (carrier : ReactionEvent) (written : Written)
    (withheld : watch.Withheld carrier.sender (Delivered.reaction carrier).observed carrier.room
      author) (short : author.asStr.toList.length ≤ 255) :
    (∀ first second : Fallback,
      watch.Withheld carrier.sender (Delivered.reaction carrier).observed carrier.room
        first.author →
      watch.Withheld carrier.sender (Delivered.reaction carrier).observed carrier.room
        second.author →
      watch.handle now (.reaction (carrier.answering (written.timeline first))) =
        watch.handle now (.reaction (carrier.answering (written.timeline second)))) ↔
      ¬watch.ExcerptsTarget now carrier written.sender := by
  have handled : ∀ answered : TimelineMessage,
      watch.handle now (.reaction (carrier.answering answered)) =
        match attribution watch.registry watch.observer watch.client carrier.sender
          (Delivered.reaction carrier).observed with
        | none => .skipped
        | some place => watch.handleReaction now (carrier.answering answered) place :=
    fun answered => rfl
  refine alike_iff written withheld short (fun untold first second => ?_) fun tells => ?_
  · rw [handled, handled]
    cases isPlace : attribution watch.registry watch.observer watch.client carrier.sender
      (Delivered.reaction carrier).observed with
    | none => rfl
    | some place =>
      dsimp only
      by_cases writable : Rfc3339.Writable now
      · exact handleReaction_answering_eq watch now
          (fun excerpts => untold ⟨place, isPlace, writable, excerpts⟩) first second
      · have panics : ∀ answered, watch.handleReaction now (carrier.answering answered) place =
            .panicked := fun answered =>
          not_not.mp ((not_congr (handleReaction_ne_panicked_iff watch now _ place)).mpr writable)
        rw [panics, panics]
  · obtain ⟨place, isPlace, writable, speaks, mayQuote⟩ := tells
    refine ⟨Handling.textAt ["data", "target", "excerpt"], 512, Nat.le_refl 512,
      fun fallback => ?_⟩
    have quoted := excerpt_eq_of_mayQuote watch mayQuote fallback
    rw [handled, isPlace]
    dsimp only
    cases owner : watch.ownerSending carrier.sender with
    | some identity =>
      have isHandled : watch.handleReaction now (carrier.answering (written.timeline fallback))
          place = .built (buildOutboundReactionAdded (watch.ownReaction
            (carrier.answering (written.timeline fallback)) identity place
            (Rfc3339.write now))) := by
        unfold Watch.handleReaction
        rw [show watch.ownerSending (carrier.answering (written.timeline fallback)).sender =
          some identity from owner, rfc3339_of_writable writable]
        rfl
      have fetched : (watch.ownReaction (carrier.answering (written.timeline fallback)) identity
          place (Rfc3339.write now)).targetExcerpt = some ⟨excerpt (written.body fallback),
            quotedAuthor watch.observer watch.cache carrier.room place.connection
              written.sender⟩ := quoted
      rw [isHandled]
      refine (excerpt_buildOutboundReactionAdded _).trans ?_
      rw [fetched, Option.bind_some, publishableUnlabelled_of_mayQuote watch mayQuote]
    | none =>
      rcases speaks with isOwner | speaks
      · rw [owner] at isOwner
        cases isOwner
      · have isHandled : watch.handleReaction now (carrier.answering (written.timeline fallback))
            place = .built (buildReactionAdded (watch.contactReaction
              (carrier.answering (written.timeline fallback)) place (Rfc3339.write now))) := by
          unfold Watch.handleReaction
          rw [show watch.ownerSending (carrier.answering (written.timeline fallback)).sender =
            none from owner, rfc3339_of_writable writable]
          rfl
        have fetched : (watch.contactReaction (carrier.answering (written.timeline fallback)) place
            (Rfc3339.write now)).targetExcerpt = some ⟨excerpt (written.body fallback),
              quotedAuthor watch.observer watch.cache carrier.room place.connection
                written.sender⟩ := by
          unfold Watch.contactReaction ReactionEvent.answering
          dsimp only
          rw [speaks]
          exact quoted
        have consent : (watch.contactReaction (carrier.answering (written.timeline fallback)) place
            (Rfc3339.write now)).consent =
              watch.cache.state carrier.sender.asStr place.connection := rfl
        rw [isHandled]
        refine (excerpt_buildReactionAdded _).trans ?_
        rw [fetched, Option.bind_some, consent, publishable_of_mayQuote watch mayQuote speaks]

end Carriers

/-! ### The body of the webhook -/

/-- What the SDK sends for a message, if there is an event of it. -/
def Handling.webhook (personaId : String) (attempt : Nat) (userLanguage : Option String) :
    Handling → Option Json
  | .built envelope => some (webhookBody envelope personaId attempt userLanguage)
  | _ => none

theorem message_webhookBody (trigger : Json) (personaId : String) (attempt : Nat)
    (userLanguage : Option String) :
    (webhookBody trigger personaId attempt userLanguage).textAt ["message"] =
      some ((trigger.textAt ["data", "body"]).getD "") := rfl

theorem message_webhook {handling : Handling} {body : String}
    (published : handling.textAt ["data", "body"] = some body) (personaId : String) (attempt : Nat)
    (userLanguage : Option String) :
    ((handling.webhook personaId attempt userLanguage).bind fun body => body.textAt ["message"]) =
      some body := by
  cases handling with
  | built envelope =>
    have isPublished : envelope.textAt ["data", "body"] = some body := published
    refine (message_webhookBody envelope personaId attempt userLanguage).trans ?_
    rw [isPublished]
    rfl
  | skipped => cases published
  | panicked => cases published

/-! ### The result -/

/-- Quoting a person is a way around the decision about them exactly where a text is published. Two
replies that differ in whom their fallback quotes and in what it quotes of them, neither author
granted, are published alike exactly where the reply's text is not published at all; so are a later
message and a later reaction exactly where they carry no excerpt of the reply; and so is the body
that the SDK sends for it. -/
theorem quotations_alike_iff (watch : Watch) (now : Int) (written : Written) {author : UserId}
    (short : author.asStr.toList.length ≤ 255) :
    (watch.Withheld written.sender written.observed written.room author →
      ((∀ first second : Fallback,
        watch.Withheld written.sender written.observed written.room first.author →
        watch.Withheld written.sender written.observed written.room second.author →
        watch.handle now (.message (written.quoting first)) =
          watch.handle now (.message (written.quoting second))) ↔ ¬watch.Tells now written)) ∧
    (∀ carrier : MessageEvent,
      watch.Withheld carrier.sender (Delivered.message carrier).observed carrier.room author →
      ((∀ first second : Fallback,
        watch.Withheld carrier.sender (Delivered.message carrier).observed carrier.room
          first.author →
        watch.Withheld carrier.sender (Delivered.message carrier).observed carrier.room
          second.author →
        watch.handle now (.message (carrier.answering (written.timeline first))) =
          watch.handle now (.message (carrier.answering (written.timeline second)))) ↔
        ¬watch.Excerpts now carrier written.sender)) ∧
    (∀ carrier : ReactionEvent,
      watch.Withheld carrier.sender (Delivered.reaction carrier).observed carrier.room author →
      ((∀ first second : Fallback,
        watch.Withheld carrier.sender (Delivered.reaction carrier).observed carrier.room
          first.author →
        watch.Withheld carrier.sender (Delivered.reaction carrier).observed carrier.room
          second.author →
        watch.handle now (.reaction (carrier.answering (written.timeline first))) =
          watch.handle now (.reaction (carrier.answering (written.timeline second)))) ↔
        ¬watch.ExcerptsTarget now carrier written.sender)) ∧
    (watch.Withheld written.sender written.observed written.room author →
      watch.ownerSending written.sender = none →
      ∀ (personaId : String) (attempt : Nat) (userLanguage : Option String),
        ((∀ first second : Fallback,
          watch.Withheld written.sender written.observed written.room first.author →
          watch.Withheld written.sender written.observed written.room second.author →
          (watch.handle now (.message (written.quoting first))).webhook personaId attempt
              userLanguage =
            (watch.handle now (.message (written.quoting second))).webhook personaId attempt
              userLanguage) ↔ ¬watch.Tells now written)) := by
  refine ⟨fun withheld => handle_alike_iff watch now written withheld short,
    fun carrier withheld => excerpts_alike_iff watch now carrier written withheld short,
    fun carrier withheld => targets_alike_iff watch now carrier written withheld short,
    fun withheld _ personaId attempt userLanguage => ?_⟩
  refine alike_iff written withheld short (fun untold first second => ?_) fun tells => ?_
  · rw [handle_eq_of_untold watch now untold first second]
  · exact ⟨fun body => body.bind fun body => body.textAt ["message"], 65536, by decide,
      fun fallback => message_webhook (body_handle_of_tells watch now tells fallback) personaId
        attempt userLanguage⟩

namespace OneFallback

def reply : Written where
  eventId := "$reply"
  room := FarAhead.room
  sender := ⟨"alice", "example.com"⟩
  originServerTs := ⟨1790000000000, by decide⟩
  relatesTo := some (.reply "$parent")
  msgtype := .text
  own := "No."
  displayName := none
  fetched := none

/-- Whom it quotes, and nobody decided about either. -/
def bob : UserId := ⟨"bob", "example.com"⟩

theorem attributed_reply : attribution FarAhead.watch.registry FarAhead.watch.observer
    FarAhead.watch.client reply.sender reply.observed = some ⟨FarAhead.room, .matrix, "matrix"⟩ :=
  rfl

theorem withheld_bob :
    FarAhead.watch.Withheld reply.sender reply.observed reply.room bob := by
  intro place isPlace
  obtain rfl := Option.some.inj (attributed_reply.symm.trans isPlace)
  rfl

theorem quotations_alike_iff_reply :
    (∀ first second : Fallback,
      FarAhead.watch.Withheld reply.sender reply.observed reply.room first.author →
      FarAhead.watch.Withheld reply.sender reply.observed reply.room second.author →
      FarAhead.watch.handle 1790000000000000000 (.message (reply.quoting first)) =
        FarAhead.watch.handle 1790000000000000000 (.message (reply.quoting second))) ↔
      ¬FarAhead.watch.Tells 1790000000000000000 reply :=
  (@quotations_alike_iff FarAhead.watch 1790000000000000000 reply bob (by decide)).1
    withheld_bob

/-- What is quoted of somebody who was not granted is published. -/
theorem told_apart : ¬∀ (watch : Watch) (now : Int) (written : Written) (first second : Fallback),
    watch.Withheld written.sender written.observed written.room first.author →
    watch.Withheld written.sender written.observed written.room second.author →
    watch.handle now (.message (written.quoting first)) =
      watch.handle now (.message (written.quoting second)) := by
  intro alike
  refine (handle_alike_iff FarAhead.watch 1790000000000000000 reply withheld_bob
    (by decide)).mp (alike FarAhead.watch 1790000000000000000 reply) ?_
  exact ⟨_, attributed_reply, by decide, by decide, .inr rfl⟩

end OneFallback

end Twalk.Sensor
