/-
This file follows the label of a message from the persona that answers it to the Gateway that is
asked to approve the answer. A grant reaches the messages that waited for it, and the persona
answers each one under the label it arrived with; the Gateway approves nothing whose label is
not granted. So what a grant reached is refused for its consent, whatever has been granted
since. The other way round nothing is lost: what can be approved answers somebody who was granted.
-/

import Twalk.Disclosed
import Twalk.Envelope

namespace Twalk.Approval

open Consent Store

variable {approvals : Approvals} {instant : String → Option Int}

/-! ### The label of a suggestion that is found -/

theorem text_eq_textAt (document : Json) (name : String) :
    text document name = document.textAt [name] := by
  unfold text Json.textAt
  rw [Json.pointer_cons]
  simp

theorem SuggestionDocument.read_said {document : Json} {said : SuggestionDocument}
    (read : SuggestionDocument.read document = some said) :
    document.textAt ["id"] = some said.id ∧ document.textAt ["consent"] = some said.consent := by
  unfold SuggestionDocument.read at read
  obtain ⟨id, isId, read⟩ := Option.bind_eq_some_iff.mp read
  iterate 4 obtain ⟨_, -, read⟩ := Option.bind_eq_some_iff.mp read
  obtain ⟨consent, isConsent, read⟩ := Option.bind_eq_some_iff.mp read
  iterate 8 obtain ⟨_, -, read⟩ := Option.bind_eq_some_iff.mp read
  cases read
  exact ⟨(text_eq_textAt _ _).symm.trans isId, (text_eq_textAt _ _).symm.trans isConsent⟩

variable {suggestion : Suggestion}

theorem Approvals.exists_of_findSuggestion {read : BusRead} {eventId : String}
    (found : approvals.findSuggestion read eventId = .ok suggestion) :
    ∃ message ∈ approvals.bus.stream.messages, message.payload.subject = suggestSubject ∧
      message.payload.payload.textAt ["id"] = some eventId ∧
      (message.payload.payload.textAt ["consent"]).bind State.parse =
        some suggestion.consentLabel := by
  obtain ⟨outcome, scanned, answered⟩ := bind_eq_ok.mp found
  cases outcome with
  | nothing exhaustive => cases exhaustive <;> cases answered
  | hit document sequence =>
    obtain ⟨message, member, subject, -, accepted⟩ := Bus.exists_of_scan scanned
    obtain ⟨read, test⟩ := Option.filter_eq_some_iff.mp accepted
    obtain ⟨isId, isConsent⟩ := SuggestionDocument.read_said read
    unfold Approvals.suggestionOf at answered
    simp only [bind_eq_ok] at answered
    obtain ⟨_, -, label, isLabel, _, -, _, -, _, -, made⟩ := answered
    cases made
    refine ⟨message, member, subject, isId.trans (congrArg some (eq_of_beq test)), ?_⟩
    rw [isConsent, Option.bind_some]
    unfold readable at isLabel
    split at isLabel
    · rename_i parsed
      rw [parsed, Except.ok.inj isLabel]
    · cases isLabel

/-! ### What a persona published -/

def OnlyAnswers (approvals : Approvals) (personaId : String) (trigger : Json) (attempt : Int) :
    Prop :=
  ∀ message ∈ approvals.bus.stream.messages, message.payload.subject = suggestSubject →
    message.payload.payload.textAt ["id"] =
      some (Persona.suggestId personaId (Persona.eventIdOf trigger) attempt) →
    ∃ source suggestion time expiresAt,
      Persona.suggestEvent personaId source trigger suggestion attempt time expiresAt =
        .ok message.payload.payload

theorem consentLabel_of_reached {read : String → Option Int} {reach : Persona.GrantReach}
    {grant : Persona.Grant} {trigger : Json} {personaId : String} {attempt : Int}
    (reached : reach.reaches read trigger grant = true)
    (only : OnlyAnswers approvals personaId trigger attempt) {bus : BusRead}
    (found : approvals.findSuggestion bus
      (Persona.suggestId personaId (Persona.eventIdOf trigger) attempt) = .ok suggestion) :
    suggestion.consentLabel = .pending := by
  obtain ⟨message, member, subject, isId, label⟩ := Approvals.exists_of_findSuggestion found
  obtain ⟨_, _, _, _, built⟩ := only message member subject isId
  have waits : Persona.consentOf trigger = some "pending" := by
    unfold Persona.GrantReach.reaches at reached
    simp only [Bool.and_eq_true, beq_iff_eq] at reached
    exact reached.1.1.1
  rw [(Persona.carried_of_suggestEvent built).consent, waits] at label
  exact (Option.some.inj label).symm

/-! ### What an approval is refused for -/

def Refusal.isForConsent : Refusal → Bool
  | neverConsented _ | consentRevoked _ _ | consentPending _ _ => true
  | _ => false

def RefusedForItsConsent (answer : Option (Except Refusal Approved)) : Prop :=
  ∃ refusal, answer = some (.error refusal) ∧ refusal.isForConsent = true

/-- Nothing stands against an approval but, it may be, the label: the suggestion and the message
it answers are found, the contact is granted, nothing has expired, the suggestion is not approved
yet and its connection can send. -/
structure OpenToApproval (approvals : Approvals) (instant : String → Option Int) (call : Call)
    (suggestion : Suggestion) (trigger : Trigger) : Prop where
  found : approvals.findSuggestion call.reads.suggestion call.request.suggestionEventId =
    .ok suggestion
  answered : approvals.findTrigger call.reads.trigger suggestion = .ok trigger
  unexpired : ∀ expiresAt ∈ suggestion.expiresAt, hasPassed instant expiresAt call.now = false
  granted : (approvals.store.consent.effective trigger.contact trigger.connection
    trigger.network).state = .granted
  unapproved : approvals.store.approval suggestion.eventId = none
  canSend : approvals.connectionCanSend trigger.connection = .ok ()

def EverGranted (store : ConsentStore) (trigger : Trigger) : Prop :=
  ∃ row ∈ store.journal, row.state = .granted ∧
    (row.covers ⟨.contact, trigger.contact⟩ trigger.connection = true ∨
      row.covers ⟨.network, trigger.network.asStr⟩ trigger.connection = true)

theorem exists_row_of_stateAt {store : ConsentStore} {subject : Subject} {connection : String}
    {state : State} (isState : store.stateAt subject connection = some state) :
    ∃ row ∈ store.journal, row.state = state ∧ row.covers subject connection = true := by
  rw [ConsentStore.stateAt_eq] at isState
  obtain ⟨row, last, stated⟩ := Option.map_eq_some_iff.mp isState
  exact ⟨row, latest_mem last, stated, latest_concerns last⟩

theorem everGranted_of_effective {store : ConsentStore} {trigger : Trigger}
    (granted : (store.effective trigger.contact trigger.connection trigger.network).state =
      .granted) : EverGranted store trigger := by
  unfold ConsentStore.effective at granted
  split at granted
  · cases granted
  · rw [Effective.resolve_state] at granted
    cases own : store.stateAt ⟨.contact, trigger.contact⟩ trigger.connection with
    | some state =>
      rw [own] at granted
      obtain ⟨row, member, stated, covers⟩ := exists_row_of_stateAt own
      exact ⟨row, member, stated.trans granted, .inl covers⟩
    | none =>
      rw [own, Option.none_or] at granted
      cases default : store.stateAt ⟨.network, trigger.network.asStr⟩ trigger.connection with
      | some state =>
        rw [default] at granted
        obtain ⟨row, member, stated, covers⟩ := exists_row_of_stateAt default
        exact ⟨row, member, stated.trans granted, .inr covers⟩
      | none =>
        rw [default] at granted
        cases granted

/-! ### The result -/

theorem Approvals.approvable_of_pending {call : Call} {trigger : Trigger}
    (isOpen : OpenToApproval approvals instant call suggestion trigger)
    (approver : approvals.checkApprover call.request.approvedBy = .ok ())
    (up : call.reads.bus = none) (pending : suggestion.consentLabel = .pending) :
    approvals.approvable instant call.request call.now call.reads =
      .error (.neverConsented .pending) := by
  have fresh : checkExpiry instant suggestion.expiresAt call.now = .ok () :=
    checkExpiry_eq_ok_iff.mpr isOpen.unexpired
  simp only [approvable, prepared, approver, up, attempted, isOpen.found, fresh, pending,
    checkLabel, bind, Except.bind]
  rfl

theorem Approvals.exists_refusal_of_turnedAway {call : Call}
    (turnedAway : (∃ stated ∈ call.request.approvedBy, stated ≠ approvals.owner) ∨
      call.reads.bus ≠ none) :
    ∃ refusal, approvals.approvable instant call.request call.now call.reads = .error refusal ∧
      refusal.isForConsent = false := by
  cases approver : approvals.checkApprover call.request.approvedBy with
  | error refusal =>
    refine ⟨refusal, by simp only [approvable, prepared, approver, bind, Except.bind], ?_⟩
    unfold checkApprover at approver
    split at approver
    · cases approver
    · split at approver
      · cases approver
      · cases approver
        rfl
  | ok done =>
    rcases turnedAway with ⟨stated, isStated, other⟩ | down
    · exact absurd (checkApprover_eq_ok_iff.mp approver stated isStated) other
    · obtain ⟨detail, isDown⟩ := Option.ne_none_iff_exists'.mp down
      exact ⟨.busUnreachable detail,
        by simp only [approvable, prepared, approver, isDown, attempted, bind, Except.bind], rfl⟩

/-- The answer to a message that a grant reached is refused for its consent, however much is
granted by then, unless the request is turned away before the suggestion is read: it states an
approver who is not the owner, or the bus cannot be reached. And what can be approved answers
a contact who was granted, or whose network was. -/
theorem reached_approvable_iff {read : String → Option Int} {reach : Persona.GrantReach}
    {grant : Persona.Grant} {trigger : Json} {personaId : String} {attempt : Int}
    (reached : reach.reaches read trigger grant = true)
    (only : OnlyAnswers approvals personaId trigger attempt) {call : Call}
    (asked : call.request.suggestionEventId =
      Persona.suggestId personaId (Persona.eventIdOf trigger) attempt)
    {suggestion : Suggestion} {answered : Trigger}
    (isOpen : OpenToApproval approvals instant call suggestion answered) :
    (¬ RefusedForItsConsent (approvals.approve instant call).answer ↔
      (∃ stated ∈ call.request.approvedBy, stated ≠ approvals.owner) ∨ call.reads.bus ≠ none) ∧
    ∀ (approvals : Approvals) (request : Request) (now : String) (reads : Reads)
      (approved : Approved), approvals.approvable instant request now reads = .ok approved →
        EverGranted approvals.store.consent approved.trigger := by
  refine ⟨⟨fun unrefused => ?_, fun turnedAway refused => ?_⟩,
    fun approvals request now reads approved ok => everGranted_of_effective
      (Approvals.passed_of_prepared (Approvals.prepared_of_approvable ok).1).consent⟩
  · by_contra heard
    obtain ⟨owner, up⟩ := not_or.mp heard
    have approver : approvals.checkApprover call.request.approvedBy = .ok () := by
      refine Approvals.checkApprover_eq_ok_iff.mpr fun stated isStated => ?_
      by_contra other
      exact owner ⟨stated, isStated, other⟩
    have pending := consentLabel_of_reached reached only (asked ▸ isOpen.found)
    refine unrefused ⟨.neverConsented .pending, ?_, rfl⟩
    rw [Approvals.approve_of_refused
      (Approvals.approvable_of_pending isOpen approver (not_not.mp up) pending)]
  · obtain ⟨refusal, asks, other⟩ :
        ∃ refusal, approvals.approvable instant call.request call.now call.reads =
          .error refusal ∧ refusal.isForConsent = false :=
      Approvals.exists_refusal_of_turnedAway turnedAway
    obtain ⟨_, answer, forConsent⟩ := refused
    rw [Approvals.approve_of_refused asks] at answer
    cases answer
    rw [other] at forConsent
    cases forConsent

/-! ### A message a grant reached -/

namespace OneReached

open OneDraft (alice triggerId registry granted clock calm)

def waiting : Json := .object [
  ("id", .string triggerId), ("type", .string Persona.messageReceivedType),
  ("source", .string "matrix://example.org/!a:example.org"), ("subject", .string alice),
  ("time", .string "2026-10-02T10:59:21Z"), ("network", .string "whatsapp"),
  ("connection", .string "whatsapp"), ("consent", .string "pending")]

/-- The instant the message names, in microseconds. -/
def reads (text : String) : Option Int :=
  if text = "2026-10-02T10:59:21Z" then some 1790938761000000 else none

/-- The owner grants the contact forty seconds later. -/
def grant : Persona.Grant := ⟨alice, ["whatsapp"], ["whatsapp"], 1790938801000000⟩

def anHour : Persona.GrantReach := ⟨3600, by decide⟩

def answer : Persona.Suggestion :=
  ⟨"Yes, on Friday.", "text/plain", none, none, some "Drafted with my AI assistant.", none⟩

def suggestionId : String := Persona.suggestId "assistant" triggerId 1

def suggested : Json :=
  ((Persona.suggestEvent "assistant" "hermes://example.org/personas/assistant" waiting answer 1
    "2026-10-02T11:00:05Z" (some "2026-10-02T13:00:00Z")).toOption).getD .null

def stream : MessageStream BusMessage where
  messages := [⟨1, "trigger", ⟨inboundSubject, [], waiting⟩⟩,
    ⟨2, "suggestion", ⟨suggestSubject, [], suggested⟩⟩]
  lastPosition := 2
  ordered := by simp
  bounded := by simp
  positive := by simp
  distinct := by simp

def gateway : Approvals where
  store := ⟨granted, [], [], []⟩
  bus := ⟨1, stream⟩
  connections := registry
  owner := "@owner:example.org"
  lookupWindow := 20000

theorem isEventId_sha256Hex (text : String) : isEventId (sha256Hex text) = true := by
  unfold isEventId
  rw [Bool.and_eq_true, utf8ByteSize_sha256Hex]
  refine ⟨rfl, List.all_eq_true.mpr fun character member => ?_⟩
  have digit := isHexDigit_of_mem_sha256Hex member
  unfold Sha256.isHexDigit at digit
  rw [Bool.or_eq_true, decide_eq_true_eq, decide_eq_true_eq] at digit
  rw [Bool.or_eq_true]
  rcases digit with digit | letter
  · refine .inl ?_
    rw [Char.isDigit, Bool.and_eq_true, decide_eq_true_eq, decide_eq_true_eq]
    exact digit
  · refine .inr ?_
    rw [Bool.and_eq_true, decide_eq_true_eq, decide_eq_true_eq]
    exact letter

def request (approvedBy : Option String) : Request :=
  Request.of ⟨suggestionId, isEventId_sha256Hex _⟩ approvedBy none

def call (approvedBy : Option String) : Call :=
  ⟨request approvedBy, "2026-10-02T12:00:00.000Z", calm,
    .succeeds (.acknowledged (.completes "2026-10-02T12:00:00.000Z"))⟩

def read : SuggestionDocument :=
  ⟨suggestionId, "hermes://example.org/personas/assistant", triggerId, "whatsapp", some "whatsapp",
    "pending", none, "assistant", "Yes, on Friday.", "text/plain",
    some "Drafted with my AI assistant.", some "2026-10-02T13:00:00Z"⟩

def found : Suggestion :=
  ⟨suggestionId, "hermes://example.org/personas/assistant", "assistant", triggerId, .whatsapp,
    "whatsapp", .pending, ⟨"Yes, on Friday.", .plain⟩, some "Drafted with my AI assistant.",
    some "2026-10-02T13:00:00Z", none, 2⟩

theorem built : Persona.suggestEvent "assistant" "hermes://example.org/personas/assistant" waiting
    answer 1 "2026-10-02T11:00:05Z" (some "2026-10-02T13:00:00Z") = .ok suggested := rfl

theorem read_suggested : SuggestionDocument.read suggested = some read := rfl

theorem findSuggestion_gateway :
    gateway.findSuggestion calm.suggestion suggestionId = .ok found := by
  have named : Approvals.suggestionNamed suggestionId suggested = some read := by
    unfold Approvals.suggestionNamed
    rw [read_suggested, Option.filter_some]
    exact if_pos (beq_self_eq_true suggestionId)
  have scanned : gateway.bus.scan gateway.lookupWindow calm.suggestion suggestSubject none
      (Approvals.suggestionNamed suggestionId) = .ok (.hit read 2) := by
    simp [Bus.scan, gateway, stream, calm, firstHit, named, inboundSubject, suggestSubject]
  unfold Approvals.findSuggestion
  rw [scanned]
  rfl

theorem onlyAnswers_gateway : OnlyAnswers gateway "assistant" waiting 1 := by
  intro message member subject _
  rcases List.mem_pair.mp member with rfl | rfl
  · exact absurd subject (by decide)
  · exact ⟨_, _, _, _, built⟩

theorem openToApproval_gateway (approvedBy : Option String) : ∃ trigger,
    OpenToApproval gateway clock (call approvedBy) found trigger := by
  obtain ⟨trigger, answered, isGranted⟩ := Option.bind_eq_some_iff.mp (by decide :
    (gateway.findTrigger calm.trigger found).toOption.bind (fun trigger => some (decide
      ((gateway.store.consent.effective trigger.contact trigger.connection
        trigger.network).state = .granted ∧
          gateway.store.connectionStatus trigger.connection = none ∧
          trigger.connection = "whatsapp"))) = some true)
  obtain ⟨granted, silent, onWhatsapp⟩ := of_decide_eq_true (Option.some.inj isGranted)
  refine ⟨trigger, findSuggestion_gateway, eq_ok_of_toOption answered, ?_, granted, rfl, ?_⟩
  · intro expiresAt expires
    cases expires
    show hasPassed clock "2026-10-02T13:00:00Z" "2026-10-02T12:00:00.000Z" = false
    decide
  · rw [onWhatsapp]
    rfl

theorem reaches_waiting : anHour.reaches reads waiting grant = true := by decide

/-- A request in the name of somebody else is turned away before the label is looked at. -/
theorem reached_not_refused_for_consent :
    ¬ RefusedForItsConsent (gateway.approve clock (call (some "@bob:example.org"))).answer := by
  obtain ⟨trigger, isOpen⟩ := openToApproval_gateway (some "@bob:example.org")
  exact (reached_approvable_iff reaches_waiting onlyAnswers_gateway rfl isOpen).1.mpr
    (.inl ⟨_, rfl, by decide⟩)

/-- The owner grants a contact who has written, the persona answers, and the owner's approval is
refused because the message was pending when it arrived. -/
theorem reached_is_never_approvable :
    anHour.reaches reads waiting grant = true ∧ OnlyAnswers gateway "assistant" waiting 1 ∧
      (∃ trigger, OpenToApproval gateway clock (call none) found trigger) ∧
      RefusedForItsConsent (gateway.approve clock (call none)).answer := by
  refine ⟨reaches_waiting, onlyAnswers_gateway, openToApproval_gateway none, ?_⟩
  obtain ⟨trigger, isOpen⟩ := openToApproval_gateway none
  rw [Approvals.approve_of_refused (Approvals.approvable_of_pending isOpen rfl rfl rfl)]
  exact ⟨_, rfl, rfl⟩

end OneReached

end Twalk.Approval
