/-
This file traces what a push of Hermes can make the Gateway publish. The push is the sender's own,
a wake's and fresh; the message it names is on the bus and its contact's consent is granted now;
what the envelope copies is the message's, and the body leaves room for the sentence of its
language. A question is held to the same and leaves one row. Of the reference the message alone is
checked: the persona it names and the attempt it counts are taken as they come.
-/

import Twalk.ApprovalChecks
import Twalk.Disclosed
import Twalk.HermesAnswers
import Twalk.Reached

namespace Twalk.HermesAnswer

open Consent Approval Store

/-! ### What a push has to be -/

section Sound

variable (libraries : Libraries) (answers : Answers) (reception : Reception)

/-- The push is signed over the bytes that were received, it is the hook's and a wake's, and its
timestamp is within the accepted skew. -/
structure Authentic (push : Push) : Prop where
  signed : ∃ presented digits, reception.signature = some presented ∧
    stripPrefix signaturePrefix (Text.trim presented) = some digits ∧
    hexBytes digits.toList = some (libraries.hmacSha256 answers.secret reception.body)
  parsed : (libraries.fromSlice reception.body).bind Push.read = some push
  hook : push.hookEventName = hookEvent
  platform : push.platform = webhookPlatform
  fresh : ∃ sent, parseRfc3339Seconds push.timestamp = some sent ∧
    (reception.checkedAt - sent).natAbs ≤ clockSkewSeconds

/-- A reference names an inbound message on the bus, which is read as it says it is, and the
effective consent of its contact on its connection is granted. -/
structure NamesGranted (reference : Reference) (document : TriggerEnvelopeDocument)
    (trigger : TriggerEnvelope) : Prop where
  onTheBus : ∃ message ∈ answers.approvals.bus.stream.messages,
    message.payload.subject = inboundSubject ∧
      TriggerEnvelopeDocument.read message.payload.payload = some document
  named : document.id = reference.triggerEventId
  eventId : trigger.eventId = document.id
  contact : trigger.contact = document.subject
  network : trigger.network.asStr = document.network
  consentLabel : State.parse document.consent = some trigger.consentLabel
  connection : connectionOf answers.approvals.connections document.connection trigger.network =
    .ok trigger.connection
  traceparent : trigger.traceparent = document.traceparent
  displayName : trigger.displayName =
    (document.displayName.map Text.trim).filter fun name => name != ""
  granted : (answers.approvals.store.consent.effective trigger.contact trigger.connection
    trigger.network).state = .granted

/-- What an envelope copies is the message's, and what it is disclosed by is the sentence of the
answer's language, for which the body leaves room. -/
structure Traced (answer : Answer) (trigger : TriggerEnvelope) (envelope : Json) : Prop where
  id : envelope.textAt ["id"] = some answer.reference.suggestionEventId
  subject : envelope.textAt ["subject"] = some trigger.eventId
  answered : envelope.textAt ["data", "trigger", "event_id"] = some trigger.eventId
  network : envelope.textAt ["network"] = some trigger.network.asStr
  connection : envelope.textAt ["connection"] = some trigger.connection
  consent : envelope.textAt ["consent"] = some trigger.consentLabel.asStr
  traceparent : envelope.textAt ["traceparent"] = trigger.traceparent
  contact : ∀ name, envelope.textAt ["data", "context", "contact"] = some name →
    trigger.displayName = some name
  body : envelope.textAt ["data", "suggestion", "body"] = some answer.reply
  disclosure : envelope.textAt ["data", "disclosure"] = some answer.disclosure
  ofItsLanguage : sentenceFor answer.language = some answer.disclosure
  fits : fitsWithDisclosure answer.reply answer.disclosure = true

def Activated (store : ConsentStore) (personaId : String) : Prop :=
  ∃ connection, store.stateAt ⟨.persona, personaId⟩ connection = some .granted

def Counted (bus : Bus) (reference : Reference) : Prop :=
  ∀ earlier, 1 ≤ earlier → earlier < reference.attempt →
    ∃ message ∈ bus.stream.messages, message.payload.subject = suggestSubject ∧
      message.payload.payload.textAt ["id"] =
        some { reference with attempt := earlier }.suggestionEventId

def Vouched (approvals : Approvals) (reference : Reference) : Prop :=
  Activated approvals.store.consent reference.personaId ∧ Counted approvals.bus reference

/-- What may be published: the suggestion of a draft that an authentic push carries, traced to a
granted message, of a reference every part of which is so. -/
structure Publishable (published : BusMessage) (answer : Answer) : Prop where
  push : ∃ push, Authentic libraries answers reception push ∧
    parseOutcome libraries.fromStr push.responseText = .ok (.drafted answer)
  message : ∃ document trigger, NamesGranted answers answer.reference document trigger ∧
    Traced answer trigger published.payload
  vouched : Vouched answers.approvals answer.reference

/-- What a deferral comes to: an authentic push about a granted message leaves one row in the
journal and nothing else. -/
structure Deferrable (receipt : Receipt) (deferral : Deferral) : Prop where
  push : ∃ push, Authentic libraries answers reception push ∧
    parseOutcome libraries.fromStr push.responseText = .ok (.deferred deferral)
  message : ∃ document trigger, NamesGranted answers deferral.reference document trigger
  silent : receipt.published = none
  oneRow : ∃ row : DeferralRow, row.triggerEventId = deferral.reference.triggerEventId ∧
    row.asked = deferral.asked ∧ receipt.after = { answers with
      journals := { answers.journals with deferrals := answers.journals.deferrals ++ [row] } }

/-- What a push can make the Gateway do. -/
structure KeepsItsPromise : Prop where
  published : ∀ published, (receive libraries answers reception).published = some published →
    ∃ answer, Publishable libraries answers reception published answer
  deferred : ∀ triggerEventId,
    (receive libraries answers reception).answer = .ok (.deferred triggerEventId) →
      ∃ deferral, deferral.reference.triggerEventId = triggerEventId ∧
        Deferrable libraries answers reception (receive libraries answers reception) deferral

def Accepts (answer : Answer) : Prop :=
  readPush libraries answers reception = .ok (.answered (.drafted answer)) ∧
    (∃ trigger, checked libraries answers reception answer = .ok trigger) ∧
    ∀ detail, reception.publishing ≠ .refused detail

end Sound

/-! ### The push -/

section Proofs

variable {libraries : Libraries} {answers : Answers} {reception : Reception}

theorem signed_of_signatureMatches {secret : String} {presented : Option String}
    {signed : List UInt8} (isSigned : signatureMatches libraries secret presented signed = true) :
    ∃ text digits, presented = some text ∧
      stripPrefix signaturePrefix (Text.trim text) = some digits ∧
      hexBytes digits.toList = some (libraries.hmacSha256 secret signed) := by
  unfold signatureMatches at isSigned
  split at isSigned
  · cases isSigned
  · rename_i digits isDigits
    obtain ⟨trimmed, isTrimmed, isStripped⟩ := Option.bind_eq_some_iff.mp isDigits
    obtain ⟨text, isText, rfl⟩ := Option.map_eq_some_iff.mp isTrimmed
    split at isSigned
    · cases isSigned
    · rename_i expected isExpected
      rw [eq_of_beq isSigned] at isExpected
      exact ⟨text, digits, isText, isStripped, isExpected⟩

theorem exists_sent_of_isFresh {timestamp : String} {now : Int}
    (fresh : isFresh timestamp now = true) :
    ∃ sent, parseRfc3339Seconds timestamp = some sent ∧
      (now - sent).natAbs ≤ clockSkewSeconds := by
  unfold isFresh at fresh
  split at fresh
  · cases fresh
  · rename_i sent isSent
    exact ⟨sent, isSent, of_decide_eq_true fresh⟩

theorem authentic_of_readPush {outcome : Outcome}
    (isRead : readPush libraries answers reception = .ok (.answered outcome)) :
    ∃ push, Authentic libraries answers reception push ∧
      parseOutcome libraries.fromStr push.responseText = .ok outcome := by
  unfold readPush at isRead
  split at isRead
  · cases isRead
  · rename_i isSigned
    have signed : signatureMatches libraries answers.secret reception.signature
        reception.body = true := by simpa using isSigned
    split at isRead
    · cases isRead
    · rename_i push parsed
      split at isRead
      · cases isRead
      · rename_i hook
        split at isRead
        · cases isRead
        · rename_i platform
          split at isRead
          · cases isRead
          · rename_i fresh
            refine ⟨push, ⟨signed_of_signatureMatches signed, parsed, not_not.mp hook,
              not_not.mp platform, exists_sent_of_isFresh (by simpa using fresh)⟩, ?_⟩
            cases parsedOutcome : parseOutcome libraries.fromStr push.responseText with
            | error refusal =>
              rw [parsedOutcome] at isRead
              cases isRead
            | ok other =>
              rw [parsedOutcome] at isRead
              cases isRead
              rfl

/-! ### The message -/

variable {trigger : TriggerEnvelope}

theorem of_triggerEnvelopeOf {connections : Registry} {document : TriggerEnvelopeDocument}
    (isTrigger : triggerEnvelopeOf connections document = .ok trigger) :
    Network.parse document.network = some trigger.network ∧
      State.parse document.consent = some trigger.consentLabel ∧
      connectionOf connections document.connection trigger.network = .ok trigger.connection ∧
      trigger.eventId = document.id ∧ trigger.contact = document.subject ∧
      trigger.traceparent = document.traceparent ∧
      trigger.displayName = (document.displayName.map Text.trim).filter fun name => name != "" := by
  obtain ⟨network, isNetwork, isTrigger⟩ := bind_eq_ok.mp isTrigger
  obtain ⟨label, isLabel, isTrigger⟩ := bind_eq_ok.mp isTrigger
  obtain ⟨connection, isConnection, isTrigger⟩ := bind_eq_ok.mp isTrigger
  cases isTrigger
  refine ⟨?_, ?_, isConnection, rfl, rfl, rfl, rfl⟩
  · cases parsed : Network.parse document.network with
    | none =>
      rw [parsed] at isNetwork
      cases isNetwork
    | some other =>
      rw [parsed] at isNetwork
      cases isNetwork
      rfl
  · cases parsed : State.parse document.consent with
    | none =>
      rw [parsed] at isLabel
      cases isLabel
    | some other =>
      rw [parsed] at isLabel
      cases isLabel
      rfl

theorem exists_of_triggerEnvelope {approvals : Approvals} {read : BusRead} {eventId : String}
    (found : triggerEnvelope approvals read eventId = .ok trigger) :
    ∃ document, (∃ message ∈ approvals.bus.stream.messages,
        message.payload.subject = inboundSubject ∧
          TriggerEnvelopeDocument.read message.payload.payload = some document) ∧
      document.id = eventId ∧ triggerEnvelopeOf approvals.connections document = .ok trigger := by
  obtain ⟨outcome, isOutcome, found⟩ := bind_eq_ok.mp found
  cases outcome with
  | nothing exhaustive => cases exhaustive <;> cases found
  | hit document sequence =>
    obtain ⟨message, onBus, isSubject, -, accepted⟩ := Bus.exists_of_scan isOutcome
    obtain ⟨isRead, named⟩ := Option.filter_eq_some_iff.mp accepted
    exact ⟨document, ⟨message, onBus, isSubject, isRead⟩, eq_of_beq named, found⟩

theorem namesGranted_of_granted {reference : Reference}
    (isGranted : granted answers reception reference = .ok trigger) :
    ∃ document, NamesGranted answers reference document trigger := by
  unfold granted at isGranted
  generalize isShared : (do
    attempted reception.bus .busUnreachable
    let trigger ← triggerEnvelope answers.approvals reception.trigger reference.triggerEventId
    answers.approvals.readConsent reception.consent trigger.contact
    answers.approvals.consentNow trigger.contact trigger.connection trigger.network
    return trigger : Except Refusal TriggerEnvelope) = outcome at isGranted
  cases outcome with
  | error refusal => cases isGranted
  | ok other =>
    cases isGranted
    obtain ⟨-, -, isShared⟩ := bind_eq_ok.mp isShared
    obtain ⟨found, isFound, isShared⟩ := bind_eq_ok.mp isShared
    obtain ⟨-, -, isShared⟩ := bind_eq_ok.mp isShared
    obtain ⟨_, isNow, isShared⟩ := bind_eq_ok.mp isShared
    cases isShared
    obtain ⟨document, onTheBus, named, isTrigger⟩ := exists_of_triggerEnvelope isFound
    obtain ⟨network, label, connection, eventId, contact, traceparent, displayName⟩ :=
      of_triggerEnvelopeOf isTrigger
    exact ⟨document, onTheBus, named, eventId, contact, Network.asStr_of_parse network, label,
      connection, traceparent, displayName, Approvals.consentNow_eq_ok_iff.mp isNow⟩

/-! ### The answer -/

theorem primarySubtag_primarySubtag (tag : String) :
    primarySubtag (primarySubtag tag) = primarySubtag tag := by
  have whole : (primarySubtag tag).toList.takeWhile (· ≠ '-') = (primarySubtag tag).toList := by
    refine List.takeWhile_eq_self_iff.mpr fun character member => ?_
    have inTag := Text.mem_of_mem_trim member
    rw [String.toList_ofList] at inTag
    have passes := List.all_takeWhile (p := (· ≠ '-')) (l := tag.toList)
    exact List.all_eq_true.mp passes character inTag
  have trimmed : Text.trim (primarySubtag tag) = primarySubtag tag := Text.trim_trim _
  calc primarySubtag (primarySubtag tag)
      = Text.trim (String.ofList ((primarySubtag tag).toList.takeWhile (· ≠ '-'))) := rfl
    _ = primarySubtag tag := by rw [whole, String.ofList_toList, trimmed]

theorem sentenceFor_of_languageOf {value : Json} {language disclosure : String}
    (isLanguage : languageOf value = .ok (language, disclosure)) :
    sentenceFor language = some disclosure := by
  unfold languageOf at isLanguage
  dsimp only at isLanguage
  generalize trimmedMember value "language" = tag at isLanguage
  by_cases isEmpty : tag = ""
  · rw [if_pos isEmpty] at isLanguage
    cases isLanguage
  · rw [if_neg isEmpty] at isLanguage
    cases isTag : isLanguageTag tag with
    | false =>
      rw [isTag, if_pos (by rfl)] at isLanguage
      cases isLanguage
    | true =>
      rw [isTag, if_neg (by decide)] at isLanguage
      cases selected : sentenceFor tag with
      | none =>
        rw [selected] at isLanguage
        cases isLanguage
      | some sentence =>
        rw [selected] at isLanguage
        obtain ⟨rfl, rfl⟩ := Prod.mk.inj (Except.ok.inj isLanguage)
        rw [← selected, sentenceFor, primarySubtag_primarySubtag, sentenceFor]

theorem count_le_of_replyOf {value : Json} {reply : String} (isReply : replyOf value = .ok reply) :
    Text.count reply ≤ maxBody := by
  unfold replyOf at isReply
  dsimp only at isReply
  split at isReply
  · cases isReply
  · split at isReply
    · cases isReply
    · rename_i short
      cases isReply
      exact Nat.le_of_not_lt short

variable {answer : Answer}

theorem of_parseAnswer {written : String}
    (parsed : parseAnswer libraries.fromStr written = .ok answer) :
    sentenceFor answer.language = some answer.disclosure ∧
      fitsWithDisclosure answer.reply answer.disclosure = true := by
  obtain ⟨⟨value, text⟩, -, parsed⟩ := bind_eq_ok.mp parsed
  obtain ⟨reference, -, parsed⟩ := bind_eq_ok.mp parsed
  obtain ⟨⟨language, disclosure⟩, isLanguage, parsed⟩ := bind_eq_ok.mp parsed
  obtain ⟨reply, isReply, parsed⟩ := bind_eq_ok.mp parsed
  obtain ⟨summary, -, parsed⟩ := bind_eq_ok.mp parsed
  obtain ⟨proposed, -, parsed⟩ := bind_eq_ok.mp parsed
  cases parsed
  have selected := sentenceFor_of_languageOf isLanguage
  have short := count_le_of_replyOf isReply
  exact ⟨selected, fitsWithDisclosure_of_le short (mem_sentences_of_sentenceFor selected)⟩

theorem parseAnswer_of_drafted {written : String}
    (parsed : parseOutcome libraries.fromStr written = .ok (.drafted answer)) :
    parseAnswer libraries.fromStr written = .ok answer := by
  have unwrapped : ∀ outcome : Except AnswerRefusal Answer,
      outcome.map Outcome.drafted = .ok (.drafted answer) → outcome = .ok answer := by
    intro outcome isDrafted
    cases outcome with
    | error refusal => cases isDrafted
    | ok other =>
      cases isDrafted
      rfl
  unfold parseOutcome at parsed
  split at parsed
  · exact unwrapped _ parsed
  · obtain ⟨asked, -, parsed⟩ := bind_eq_ok.mp parsed
    cases asked with
    | none => exact unwrapped _ parsed
    | some asked =>
      dsimp only at parsed
      split at parsed
      · exact unwrapped _ parsed
      · split at parsed
        · cases parsed
        · obtain ⟨reference, -, parsed⟩ := bind_eq_ok.mp parsed
          cases parsed

/-! ### The envelope -/

theorem displayName_of_contact {letters : Letters} {name : String}
    (named : (Json.object (answer.context trigger ++ answer.times letters)).textAt
      ["context", "contact"] = some name) : trigger.displayName = some name := by
  unfold Answer.context at named
  cases summarized : answer.summary with
  | none =>
    have absent : Json.lookup "context" (answer.times letters) = none := by
      unfold Answer.times
      split
      · rfl
      · split <;> rfl
    rw [summarized] at named
    simp [Json.textAt, Json.get?, absent] at named
  | some summary =>
    rw [summarized] at named
    cases displayed : trigger.displayName with
    | none =>
      rw [displayed] at named
      simp [Json.textAt, Json.get?, Json.lookup] at named
    | some shown =>
      rw [displayed] at named
      simpa [Json.textAt, Json.get?, Json.lookup] using named

theorem traced (trigger : TriggerEnvelope) (producedAt : Nat)
    (ofItsLanguage : sentenceFor answer.language = some answer.disclosure)
    (fits : fitsWithDisclosure answer.reply answer.disclosure = true) :
    Traced answer trigger (envelope libraries answers answer trigger producedAt) := by
  unfold envelope
  refine ⟨?_, ?_, ?_, ?_, ?_, ?_, ?traceparent, ?contact, ?_, ?_, ofItsLanguage, fits⟩
  case traceparent =>
    cases trigger.traceparent with
    | none => simp [Json.textAt, Json.get?, Json.lookup, optionalMember]
    | some traceparent => simp [Json.textAt, Json.get?, Json.lookup, optionalMember]
  case contact =>
    intro name named
    have inContext : (Json.object (answer.context trigger ++ answer.times libraries.letters)).textAt
        ["context", "contact"] = some name := by
      simpa [Json.textAt, Json.get?, Json.lookup] using named
    exact displayName_of_contact inContext
  all_goals simp [Json.textAt, Json.get?, Json.lookup]

/-! ### What a push comes to -/

theorem granted_of_checked (isChecked : checked libraries answers reception answer = .ok trigger) :
    granted answers reception answer.reference = .ok trigger := by
  obtain ⟨found, isGranted, isChecked⟩ := bind_eq_ok.mp isChecked
  obtain ⟨_, _, isChecked⟩ := bind_eq_ok.mp isChecked
  cases isChecked
  exact isGranted

theorem exists_of_published {published : BusMessage}
    (isPublished : (receive libraries answers reception).published = some published) :
    ∃ answer trigger, Accepts libraries answers reception answer ∧
      checked libraries answers reception answer = .ok trigger ∧
        published = message libraries answers answer trigger reception.producedAt := by
  unfold receive at isPublished
  cases isRead : readPush libraries answers reception with
  | error refusal =>
    rw [isRead] at isPublished
    cases isPublished
  | ok reading =>
    rw [isRead] at isPublished
    cases reading with
    | ignored reason => cases isPublished
    | answered outcome =>
      cases outcome with
      | deferred deferral =>
        dsimp only at isPublished
        unfold defer at isPublished
        split at isPublished <;> cases isPublished
      | drafted answer =>
        dsimp only at isPublished
        unfold draft at isPublished
        cases isChecked : checked libraries answers reception answer with
        | error refusal =>
          rw [isChecked] at isPublished
          cases isPublished
        | ok trigger =>
          rw [isChecked] at isPublished
          refine ⟨answer, trigger, ⟨isRead, ⟨trigger, isChecked⟩, ?_⟩, isChecked, ?_⟩
          · intro detail isRefused
            rw [isRefused] at isPublished
            cases isPublished
          · cases going : reception.publishing with
            | refused detail =>
              rw [going] at isPublished
              cases isPublished
            | unacknowledged detail =>
              rw [going] at isPublished
              exact (Option.some.inj isPublished).symm
            | acknowledged =>
              rw [going] at isPublished
              exact (Option.some.inj isPublished).symm

theorem published_of_accepts (accepts : Accepts libraries answers reception answer) :
    ∃ published, (receive libraries answers reception).published = some published := by
  obtain ⟨isRead, ⟨trigger, isChecked⟩, taken⟩ := accepts
  unfold receive
  rw [isRead]
  dsimp only
  unfold draft
  rw [isChecked]
  cases going : reception.publishing with
  | refused detail => exact absurd going (taken detail)
  | unacknowledged detail => exact ⟨_, rfl⟩
  | acknowledged => exact ⟨_, rfl⟩

theorem vouched_of_accepts (keeps : KeepsItsPromise libraries answers reception)
    (accepts : Accepts libraries answers reception answer) :
    Vouched answers.approvals answer.reference := by
  obtain ⟨published, isPublished⟩ := published_of_accepts accepts
  obtain ⟨other, publishable⟩ := keeps.published published isPublished
  obtain ⟨push, authentic, parsed⟩ := publishable.push
  obtain ⟨same, sameAuthentic, sameParsed⟩ := authentic_of_readPush accepts.1
  cases Option.some.inj (authentic.parsed.symm.trans sameAuthentic.parsed)
  cases parsed.symm.trans sameParsed
  exact publishable.vouched

/-- A question leaves one row, and nothing else. -/
theorem deferrable_of_deferred {triggerEventId : String}
    (isDeferred : (receive libraries answers reception).answer = .ok (.deferred triggerEventId)) :
    ∃ deferral, deferral.reference.triggerEventId = triggerEventId ∧
      Deferrable libraries answers reception (receive libraries answers reception) deferral := by
  unfold receive at isDeferred ⊢
  cases isRead : readPush libraries answers reception with
  | error refusal =>
    rw [isRead] at isDeferred
    cases isDeferred
  | ok reading =>
    rw [isRead] at isDeferred
    cases reading with
    | ignored reason => cases isDeferred
    | answered outcome =>
      cases outcome with
      | drafted answer =>
        dsimp only at isDeferred
        unfold draft at isDeferred
        split at isDeferred
        · cases isDeferred
        · cases going : reception.publishing <;>
            (rw [going] at isDeferred; cases isDeferred)
      | deferred deferral =>
        dsimp only at isDeferred ⊢
        unfold defer at isDeferred ⊢
        cases isGranted : granted answers reception deferral.reference with
        | error refusal =>
          rw [isGranted] at isDeferred
          cases isDeferred
        | ok trigger =>
          rw [isGranted] at isDeferred
          cases recording : reception.recording with
          | some detail =>
            rw [recording] at isDeferred
            cases isDeferred
          | none =>
            rw [recording] at isDeferred
            cases isDeferred
            obtain ⟨document, names⟩ := namesGranted_of_granted isGranted
            exact ⟨deferral, rfl, authentic_of_readPush isRead, ⟨document, trigger, names⟩, rfl,
              _, rfl, rfl, rfl⟩

/-- The Gateway keeps what is promised of a push exactly when a draft it accepts names a persona
that is activated and counts the attempts there were: what it asks of the reference otherwise is
asked in every case. -/
theorem keepsItsPromise_iff (libraries : Libraries) (answers : Answers) (reception : Reception) :
    KeepsItsPromise libraries answers reception ↔
      ∀ answer, Accepts libraries answers reception answer →
        Vouched answers.approvals answer.reference := by
  constructor
  · exact fun keeps _ accepts => vouched_of_accepts keeps accepts
  · intro vouched
    refine ⟨fun published isPublished => ?_, fun _ isDeferred => deferrable_of_deferred isDeferred⟩
    obtain ⟨answer, trigger, accepts, isChecked, rfl⟩ := exists_of_published isPublished
    obtain ⟨push, authentic, parsed⟩ := authentic_of_readPush accepts.1
    obtain ⟨ofItsLanguage, fits⟩ := of_parseAnswer (parseAnswer_of_drafted parsed)
    obtain ⟨document, names⟩ := namesGranted_of_granted (granted_of_checked isChecked)
    exact ⟨answer, ⟨push, authentic, parsed⟩,
      ⟨document, trigger, names, traced trigger reception.producedAt ofItsLanguage fits⟩,
      vouched answer accepts⟩

end Proofs

/-! ### A persona there is none of -/

namespace OneAnswer

def ghost : Reference :=
  ⟨"ghost", OneDraft.triggerId, 1⟩

/-- What the model wrote, as it stands in the push and as the document it is. -/
def written : String :=
  "\x7b\"reference\":\"TWALK-REF:ghost:" ++ OneDraft.triggerId ++
    ":1\",\"reply\":\"Oui.\",\"language\":\"fr\"\x7d"

def said : Json :=
  .object [("reference", .string
      "TWALK-REF:ghost:bbbbbbbbbbbbbbbbbbbbbbbbbbbbbbbbbbbbbbbbbbbbbbbbbbbbbbbbbbbbbbbb:1"),
    ("reply", .string "Oui."), ("language", .string "fr")]

def pushed : Json :=
  .object [("hook_event_name", .string "transform_llm_output"),
    ("timestamp", .string "2026-10-02T12:00:00Z"),
    ("extra", .object [("response_text", .string written), ("platform", .string "webhook")])]

def body : List UInt8 :=
  ("\x7b\"hook_event_name\":\"transform_llm_output\",\"timestamp\":\"2026-10-02T12:00:00Z\"," ++
    "\"extra\":\x7b\"response_text\":\"\x7b\\\"reference\\\":\\\"TWALK-REF:ghost:" ++
    OneDraft.triggerId ++ ":1\\\",\\\"reply\\\":\\\"Oui.\\\",\\\"language\\\":\\\"fr\\\"\x7d\"," ++
    "\"platform\":\"webhook\"\x7d\x7d").toUTF8.toList

/-- The MAC of the body under the Gateway's secret. -/
def digest : List UInt8 :=
  [136, 237, 5, 186, 66, 3, 114, 11, 252, 161, 36, 213, 24, 151, 88, 243,
    96, 58, 11, 170, 203, 78, 138, 253, 195, 32, 180, 234, 58, 15, 57, 250]

def libraries : Libraries where
  hmacSha256 := fun _ _ => digest
  fromSlice := fun _ => some pushed
  fromStr := fun _ => some said
  letters := ⟨Text.toAsciiLowercase, Char.isAlphanum⟩

def asked : Json :=
  .object [("id", .string OneDraft.triggerId),
    ("type", .string "fr.linagora.twalk.inbound.message.received.v1"),
    ("subject", .string OneDraft.alice), ("network", .string "whatsapp"),
    ("connection", .string "whatsapp"), ("consent", .string "granted")]

def trigger : TriggerEnvelope where
  connection := "whatsapp"
  eventId := OneDraft.triggerId
  eventType := "fr.linagora.twalk.inbound.message.received.v1"
  contact := OneDraft.alice
  displayName := none
  network := .whatsapp
  consentLabel := .granted
  traceparent := none

/-- A Gateway whose owner granted a contact and activated no persona. -/
def answers : Answers where
  approvals := { OneDraft.gateway asked asked with
    bus := ⟨1, (MessageStream.empty.publish OneDraft.triggerId ⟨inboundSubject, [], asked⟩).1⟩
    lookupWindow := 10 }
  journals := ⟨[], []⟩
  secret := "a-shared-secret"
  hermesDomain := "example.org"
  suggestionTtl := 3600
  freeGaps := none

def reception : Reception where
  body := body
  signature := some "sha256=88ed05ba4203720bfca124d5189758f3603a0baacb4e8afdc320b4ea3a0f39fa"
  checkedAt := 1790942400
  producedAt := 1790942400
  bus := none
  trigger := .delivers none
  consent := none
  windows := none
  recording := none
  publishing := .acknowledged

def answer : Answer where
  reference := ghost
  reply := "Oui."
  language := "fr"
  disclosure := "Rédigé avec mon assistant IA."
  summary := none
  proposed := []

theorem read : readPush libraries answers reception = .ok (.answered (.drafted answer)) := by
  rfl

theorem accepted : checked libraries answers reception answer = .ok trigger := by
  rfl

theorem not_activated : ¬Activated answers.approvals.store.consent "ghost" := by
  rintro ⟨connection, isGranted⟩
  have contacts : ∀ row ∈ answers.approvals.store.consent.journal,
      row.subject.kind = .contact := by
    decide
  obtain ⟨row, member, -, covers⟩ := exists_row_of_stateAt isGranted
  have isContact := contacts row member
  rw [(JournalRow.covers_iff.mp covers).1] at isContact
  cases isContact

/-- A suggestion goes out under the name of a persona the owner never activated. -/
theorem published_of_nobody : ¬∀ libraries answers reception,
    KeepsItsPromise libraries answers reception := by
  intro always
  have accepts : Accepts libraries answers reception answer := ⟨read, ⟨trigger, accepted⟩, nofun⟩
  exact not_activated (vouched_of_accepts (always libraries answers reception) accepts).1

end OneAnswer

end Twalk.HermesAnswer
