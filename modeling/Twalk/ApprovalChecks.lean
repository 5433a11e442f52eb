/-
This file says what an approval that passes the checks has passed: the suggestion
and the message it answers stand on the bus, nothing has expired, the label and
the state of the sender are granted, and what is published is made of the three
of them and the request. It also says when a call changes anything at all.
-/

import Twalk.Approval

namespace Twalk.Approval

open Consent Store

variable {approvals : Approvals} {instant : String → Option Int}

/-! ### The reads -/

theorem exists_of_firstHit {Value : Type} {accepts : Json → Option Value}
    {messages : List (Message BusMessage)} {value : Value} {sequence : Nat}
    (found : firstHit accepts messages = some (value, sequence)) :
    ∃ message ∈ messages, message.position = sequence ∧
      accepts message.payload.payload = some value := by
  induction messages with
  | nil => cases found
  | cons head rest inductionHypothesis =>
    unfold firstHit at found
    split at found
    · rename_i accepted hit
      cases found
      exact ⟨head, List.mem_cons_self, rfl, hit⟩
    · obtain ⟨message, member, rest⟩ := inductionHypothesis found
      exact ⟨message, List.mem_cons_of_mem _ member, rest⟩

variable {read : BusRead}

theorem Bus.exists_of_scan {Value : Type} {bus : Bus} {window : Nat} {subject : String}
    {anchor : Option Nat} {accepts : Json → Option Value} {value : Value} {sequence : Nat}
    (found : bus.scan window read subject anchor accepts = .ok (.hit value sequence)) :
    ∃ message ∈ bus.stream.messages, message.payload.subject = subject ∧
      message.position = sequence ∧ accepts message.payload.payload = some value := by
  unfold Bus.scan at found
  cases read with
  | fails detail => cases found
  | delivers upTo =>
    simp only at found
    split at found
    · cases found
    · split at found
      · rename_i hit value' sequence' isHit
        cases found
        obtain ⟨message, member, position, accepted⟩ := exists_of_firstHit isHit
        have inBatch : message ∈ bus.stream.messages.filter fun message =>
            message.payload.subject == subject &&
              max (anchor.getD bus.stream.lastPosition - window) (max bus.firstSequence 1) ≤
                message.position && message.position ≤ anchor.getD bus.stream.lastPosition := by
          cases upTo with
          | none => exact member
          | some count => exact List.mem_of_mem_take member
        obtain ⟨onBus, tests⟩ := List.mem_filter.mp inBatch
        rw [Bool.and_eq_true, Bool.and_eq_true] at tests
        exact ⟨message, onBus, eq_of_beq tests.1.1, position, accepted⟩
      · cases found

variable {suggestion : Suggestion}

theorem Approvals.eventId_of_findSuggestion {eventId : String}
    (found : approvals.findSuggestion read eventId = .ok suggestion) :
    suggestion.eventId = eventId := by
  obtain ⟨outcome, scanned, answered⟩ := bind_eq_ok.mp found
  cases outcome with
  | nothing exhaustive => cases exhaustive <;> cases answered
  | hit document sequence =>
    obtain ⟨message, -, -, -, accepted⟩ := Bus.exists_of_scan scanned
    have named : document.id = eventId := by
      have test := (Option.filter_eq_some_iff.mp accepted).2
      exact eq_of_beq test
    unfold Approvals.suggestionOf at answered
    simp only [bind_eq_ok] at answered
    obtain ⟨network, -, consent, -, format, -, connection, -, disclosure, -, made⟩ := answered
    cases made
    exact named

structure Answers (approvals : Approvals) (suggestion : Suggestion) (document : TriggerDocument)
    (trigger : Trigger) : Prop where
  stands : ∃ message ∈ approvals.bus.stream.messages, message.payload.subject = inboundSubject ∧
    TriggerDocument.read message.payload.payload = some document
  named : document.id = suggestion.triggerEventId
  contact : trigger.contact = document.subject
  network : trigger.network = (Network.parse document.network).getD suggestion.network
  connection : ∃ connection, approvals.connections.resolve document.connection
    trigger.network.asStr = .ok connection ∧ trigger.connection = connection.id
  target : targetOf document trigger.connection = .ok trigger.target

theorem Approvals.answers_of_findTrigger {trigger : Trigger}
    (found : approvals.findTrigger read suggestion = .ok trigger) :
    ∃ document, Answers approvals suggestion document trigger := by
  obtain ⟨outcome, scanned, answered⟩ := bind_eq_ok.mp found
  cases outcome with
  | nothing exhaustive => cases exhaustive <;> cases answered
  | hit document sequence =>
    obtain ⟨message, member, subject, -, accepted⟩ := Bus.exists_of_scan scanned
    obtain ⟨read, test⟩ := Option.filter_eq_some_iff.mp accepted
    unfold Approvals.triggerOf at answered
    simp only [bind_eq_ok] at answered
    obtain ⟨connection, resolved, target, targeted, made⟩ := answered
    cases made
    refine ⟨document, ⟨message, member, subject, read⟩, eq_of_beq test, rfl, rfl, ?_, targeted⟩
    unfold connectionOf at resolved
    split at resolved
    · rename_i known isKnown
      cases resolved
      exact ⟨known, isKnown, rfl⟩
    · cases resolved

/-! ### The checks one by one -/

variable {done : Unit}

theorem Approvals.checkApprover_eq_ok_iff {approvedBy : Option String} :
    approvals.checkApprover approvedBy = .ok done ↔
      ∀ stated ∈ approvedBy, stated = approvals.owner := by
  cases approvedBy with
  | none => exact ⟨fun _ => by simp, fun _ => rfl⟩
  | some stated => by_cases same : stated = approvals.owner <;> simp [checkApprover, same]

variable {now : String}

theorem Approvals.checkExpiry_eq_ok_iff {expiresAt : Option String} :
    checkExpiry instant expiresAt now = .ok done ↔
      ∀ expires ∈ expiresAt, hasPassed instant expires now = false := by
  cases expiresAt with
  | none => exact ⟨fun _ => by simp, fun _ => rfl⟩
  | some expires => cases passed : hasPassed instant expires now <;> simp [checkExpiry, passed]

theorem Approvals.checkLabel_eq_ok_iff {label : State} :
    checkLabel label = .ok done ↔ label = .granted := by
  cases label <;> simp [checkLabel]

theorem Approvals.consentNow_eq_ok_iff {contact connection : String} {network : Network} :
    approvals.consentNow contact connection network = .ok done ↔
      (approvals.store.consent.effective contact connection network).state = .granted := by
  unfold consentNow
  cases (approvals.store.consent.effective contact connection network).state <;> simp

theorem Approvals.checkFits_eq_ok_iff {body : String} {disclosure : Option String} :
    checkFits body disclosure = .ok done ↔
      ∀ sentence ∈ disclosure, fitsWithDisclosure body sentence = true := by
  cases disclosure with
  | none => exact ⟨fun _ => by simp, fun _ => rfl⟩
  | some sentence => cases fits : fitsWithDisclosure body sentence <;> simp [checkFits, fits]

/-! ### What was passed -/

structure Passed (approvals : Approvals) (instant : String → Option Int) (request : Request)
    (now : String) (reads : Reads) (approved : Approved) : Prop where
  approver : ∀ stated ∈ request.approvedBy, stated = approvals.owner
  found : approvals.findSuggestion reads.suggestion request.suggestionEventId =
    .ok approved.suggestion
  fresh : ∀ expiresAt ∈ approved.suggestion.expiresAt, hasPassed instant expiresAt now = false
  label : approved.suggestion.consentLabel = .granted
  answered : approvals.findTrigger reads.trigger approved.suggestion = .ok approved.trigger
  consent : (approvals.store.consent.effective approved.trigger.contact
    approved.trigger.connection approved.trigger.network).state = .granted
  owner : approved.approvedBy = approvals.owner
  content : approved.content = request.edited.getD approved.suggestion.suggestion
  edited : approved.edited = decide (approved.content ≠ approved.suggestion.suggestion)
  writtenBy : approved.writtenBy =
    writer request approved.content approved.suggestion.suggestion
  disclosure : approved.disclosure =
    disclosureOf approvals.store.disclosureState approved.writtenBy approved.suggestion
  fits : ∀ sentence ∈ approved.disclosure,
    fitsWithDisclosure approved.content.body sentence = true

variable {approved : Approved}

theorem Approvals.passed_of_prepared {request : Request} {reads : Reads}
    (ok : approvals.prepared instant request now reads = .ok approved) :
    Passed approvals instant request now reads approved := by
  unfold Approvals.prepared at ok
  simp only [bind_eq_ok] at ok
  obtain ⟨_, approver, _, -, suggestion, found, _, fresh, _, label, trigger, answered, _, -, _,
    consent, _, -, _, fits, made⟩ := ok
  cases made
  exact ⟨checkApprover_eq_ok_iff.mp approver, found, checkExpiry_eq_ok_iff.mp fresh,
    checkLabel_eq_ok_iff.mp label, answered, consentNow_eq_ok_iff.mp consent, rfl, rfl, rfl, rfl,
    rfl, checkFits_eq_ok_iff.mp fits⟩

theorem Approvals.prepared_of_approvable {request : Request} {reads : Reads}
    (ok : approvals.approvable instant request now reads = .ok approved) :
    approvals.prepared instant request now reads = .ok approved ∧
      approvals.checkNotApproved approved.suggestion.eventId = .ok () := by
  unfold Approvals.approvable at ok
  simp only [bind_eq_ok] at ok
  obtain ⟨candidate, prepared, _, -, _, unapproved, _, -, _, -, made⟩ := ok
  cases made
  exact ⟨prepared, unapproved⟩

/-! ### What a call publishes -/

variable {call : Call}

theorem Approvals.approve_of_refused {refusal : Refusal}
    (refused : approvals.approvable instant call.request call.now call.reads = .error refusal) :
    approvals.approve instant call = ⟨approvals, none, some (.error refusal)⟩ := by
  unfold approve
  rw [refused]

theorem Approvals.approve_of_approvable
    (ok : approvals.approvable instant call.request call.now call.reads = .ok approved) :
    approvals.approve instant call = approvals.deliver approved call.now call.recording := by
  unfold approve
  rw [ok]

theorem Approvals.published_of_publishReply {publication : Publication} {message : BusMessage}
    (published : (approvals.publishReply approved now publication).published = some message) :
    message = approved.message now := by
  cases publication with
  | stops => cases published
  | refused detail => cases published
  | unacknowledged detail => exact (Option.some.inj published).symm
  | acknowledged marking => cases marking <;> exact (Option.some.inj published).symm

theorem Approvals.exists_of_published {message : BusMessage}
    (published : (approvals.approve instant call).published = some message) :
    ∃ approved, approvals.approvable instant call.request call.now call.reads = .ok approved ∧
      message = approved.message call.now := by
  cases asked : approvals.approvable instant call.request call.now call.reads with
  | error refusal =>
    rw [approve_of_refused asked] at published
    cases published
  | ok approved =>
    rw [approve_of_approvable asked] at published
    refine ⟨approved, rfl, ?_⟩
    unfold deliver at published
    cases recording : call.recording with
    | fails detail =>
      rw [recording] at published
      cases published
    | succeeds publication =>
      rw [recording] at published
      cases stored : approvals.store.recordApproval (approved.row call.now) with
      | none =>
        simp only [stored] at published
        cases published
      | some store =>
        simp only [stored] at published
        exact published_of_publishReply published

/-! ### What the event says -/

namespace Approved

variable (approved : Approved) (producedAt : String)

@[simp] theorem pointer_envelope_data (path : List String) :
    (approved.envelope producedAt).pointer ("data" :: path) = approved.data.pointer path := by
  simp [envelope, Json.get?, Json.lookup]

@[simp] theorem textAt_envelope_network :
    (approved.envelope producedAt).textAt ["network"] =
      some approved.suggestion.network.asStr := by
  simp [envelope, Json.textAt, Json.get?, Json.lookup]

@[simp] theorem textAt_envelope_connection :
    (approved.envelope producedAt).textAt ["connection"] =
      some approved.suggestion.connection := by
  simp [envelope, Json.textAt, Json.get?, Json.lookup]

@[simp] theorem textAt_envelope_subject :
    (approved.envelope producedAt).textAt ["subject"] = some approved.suggestion.eventId := by
  simp [envelope, Json.textAt, Json.get?, Json.lookup]

@[simp] theorem textAt_envelope_approvedBy :
    (approved.envelope producedAt).textAt ["data", "approved_by"] =
      some approved.approvedBy := by
  rw [Json.textAt, pointer_envelope_data]
  simp [data, Json.get?, Json.lookup]

@[simp] theorem textAt_envelope_body :
    (approved.envelope producedAt).textAt ["data", "final", "body"] =
      some approved.finalBody := by
  rw [Json.textAt, pointer_envelope_data]
  simp [data, Json.get?, Json.lookup]

@[simp] theorem pointer_envelope_edited :
    (approved.envelope producedAt).pointer ["data", "edited"] =
      some (.bool approved.edited) := by
  rw [pointer_envelope_data]
  simp [data, Json.get?, Json.lookup]

@[simp] theorem textAt_envelope_writtenBy :
    (approved.envelope producedAt).textAt ["data", "written_by"] =
      some approved.writtenBy.asStr := by
  rw [Json.textAt, pointer_envelope_data]
  simp [data, Json.get?, Json.lookup]

@[simp] theorem pointer_envelope_target :
    (approved.envelope producedAt).pointer ["data", "target"] =
      some approved.trigger.target.json := by
  rw [pointer_envelope_data]
  simp [data, Json.get?, Json.lookup]

@[simp] theorem pointer_envelope_disclosure :
    (approved.envelope producedAt).pointer ["data", "disclosure"] =
      approved.disclosure.map Json.string := by
  rw [pointer_envelope_data]
  cases disclosed : approved.disclosure <;>
    simp [data, disclosed, Json.get?, Json.lookup]

end Approved

end Twalk.Approval
