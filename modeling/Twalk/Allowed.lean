/-
This file is what an approval promises of every reply that leaves: who approved
it, that nothing about it has expired or been revoked, where it goes, whose
perimeter it names and how long it is. The checks make good all of it but two
things the event takes from the suggestion: the network and the connection, where
consent was read on those of the message it answers, and the body, where a draft
goes out as it stands and without the sentence.
-/

import Twalk.Disclosed

namespace Twalk.Approval

open Consent Store

/-! ### What is promised -/

def AnswersIn (document : TriggerDocument) (connection : String) (target : Json) : Prop :=
  (∃ roomId, roomFromSource document.source = some roomId ∧ target = (Target.room roomId).json) ∨
    ∃ messageId, roomFromSource document.source = none ∧
      startsWith "jmap://" document.source = true ∧ document.messageId = some messageId ∧
      startsWith "mailto:" document.subject = true ∧
      target = (Target.mail connection messageId document.subject).json

/-- What holds of a reply that was allowed to leave, given the suggestion and the message it
answers. -/
structure Allowed (approvals : Approvals) (instant : String → Option Int) (call : Call)
    (now : Int) (suggestion : Suggestion) (document : TriggerDocument) (trigger : Trigger)
    (event : Json) : Prop where
  approver : ∀ stated ∈ call.request.approvedBy, stated = approvals.owner
  current : ∀ expiresAt ∈ suggestion.expiresAt, ∀ expiry, instant expiresAt = some expiry →
    now < expiry
  label : suggestion.consentLabel = .granted
  answers : Answers approvals suggestion document trigger
  consent : (approvals.store.consent.effective trigger.contact trigger.connection
    trigger.network).state = .granted
  target : ∃ target, event.pointer ["data", "target"] = some target ∧
    AnswersIn document trigger.connection target
  network : event.textAt ["network"] = some trigger.network.asStr
  connection : event.textAt ["connection"] = some trigger.connection
  body : ∃ body, event.textAt ["data", "final", "body"] = some body ∧
    1 ≤ Text.count body ∧ Text.count body ≤ contractMaxBody

/-- A draft that is sent as it stands and without a sentence is within the contract's bounds. -/
def DraftFits (approvals : Approvals) (request : Request) (suggestion : Suggestion) : Prop :=
  request.edited = none →
    (approvals.store.disclosureState.enabled = false ∨ suggestion.disclosure = none) →
    1 ≤ Text.count suggestion.suggestion.body ∧
      Text.count suggestion.suggestion.body ≤ contractMaxBody

/-! ### How long a reply is -/

theorem count_append (body sentence : String) :
    Text.count (append body sentence) = Text.count body + 1 + Text.count sentence := by
  unfold Text.count append
  rw [String.toList_append, String.toList_append, List.length_append, List.length_append]
  rfl

section Passed

variable {approvals : Approvals} {instant : String → Option Int} {request : Request}
  {now : String} {reads : Reads} {approved : Approved}

theorem Passed.bounds_of_disclosed (passed : Passed approvals instant request now reads approved)
    {sentence : String} (disclosed : approved.disclosure = some sentence) :
    1 ≤ Text.count approved.finalBody ∧ Text.count approved.finalBody ≤ contractMaxBody := by
  have fits := passed.fits sentence disclosed
  unfold fitsWithDisclosure at fits
  rw [decide_eq_true_iff] at fits
  unfold Approved.finalBody
  rw [disclosed]
  show 1 ≤ Text.count (append _ _) ∧ _
  rw [count_append]
  exact ⟨by omega, fits⟩

theorem Passed.bounds_of_edited (passed : Passed approvals instant request now reads approved)
    {content : Content} (edited : request.edited = some content) :
    1 ≤ Text.count approved.finalBody ∧ Text.count approved.finalBody ≤ contractMaxBody := by
  cases disclosed : approved.disclosure with
  | some sentence => exact passed.bounds_of_disclosed disclosed
  | none =>
    have sent : approved.content = content := by rw [passed.content, edited]; rfl
    have whole : approved.finalBody = content.body := by
      unfold Approved.finalBody
      rw [disclosed, sent]
    obtain ⟨nonempty, short⟩ := request.edited_bounds edited
    have reserved : maxBody ≤ contractMaxBody := by decide
    rw [whole]
    exact ⟨nonempty, Nat.le_trans short reserved⟩

theorem Passed.disclosure_of_unedited
    (passed : Passed approvals instant request now reads approved)
    (unedited : request.edited = none) :
    approved.disclosure = if approvals.store.disclosureState.enabled then
      approved.suggestion.disclosure else none := by
  have persona : approved.writtenBy = .persona := by
    rw [passed.writtenBy]
    unfold writer
    rw [request.claimed unedited]
  rw [passed.disclosure, persona]
  unfold disclosureOf
  simp

theorem Passed.bounds_iff (passed : Passed approvals instant request now reads approved) :
    (1 ≤ Text.count approved.finalBody ∧ Text.count approved.finalBody ≤ contractMaxBody) ↔
      DraftFits approvals request approved.suggestion := by
  cases edited : request.edited with
  | some content =>
    refine ⟨fun _ unedited => ?_, fun _ => passed.bounds_of_edited edited⟩
    rw [edited] at unedited
    cases unedited
  | none =>
    have disclosure := passed.disclosure_of_unedited edited
    cases disclosed : approved.disclosure with
    | some sentence =>
      refine ⟨fun _ _ bare => ?_, fun _ => passed.bounds_of_disclosed disclosed⟩
      rw [disclosed] at disclosure
      rcases bare with off | without
      · rw [off] at disclosure
        cases disclosure
      · rw [without, ite_self] at disclosure
        cases disclosure
    | none =>
      have whole : approved.finalBody = approved.suggestion.suggestion.body := by
        unfold Approved.finalBody
        rw [disclosed, passed.content, edited]
        rfl
      rw [whole]
      refine ⟨fun bounds _ _ => bounds, fun fits => fits edited ?_⟩
      rw [disclosed] at disclosure
      cases on : approvals.store.disclosureState.enabled with
      | false => exact Or.inl rfl
      | true =>
        rw [on, if_pos rfl] at disclosure
        exact Or.inr disclosure.symm

theorem Answers.answersIn {document : TriggerDocument} {suggestion : Suggestion}
    {trigger : Trigger} (answers : Answers approvals suggestion document trigger) :
    AnswersIn document trigger.connection trigger.target.json := by
  have target := answers.target
  unfold targetOf at target
  split at target
  · rename_i roomId room
    rw [← Except.ok.inj target]
    exact Or.inl ⟨roomId, room, rfl⟩
  · rename_i noRoom
    split at target
    · rename_i isMail
      split at target
      · cases target
      · rename_i messageId named
        split at target
        · rename_i isMailto
          rw [← Except.ok.inj target]
          exact Or.inr ⟨messageId, noRoom, isMail, named, isMailto, rfl⟩
        · cases target
    · cases target

theorem lt_of_not_hasPassed {expiresAt : String} {expiry time : Int}
    (clock : instant now = some time) (reads : instant expiresAt = some expiry)
    (current : hasPassed instant expiresAt now = false) : time < expiry := by
  unfold hasPassed at current
  rw [reads, clock] at current
  exact Int.not_le.mp (of_decide_eq_false current)

end Passed

/-! ### The result -/

/-- A call that passes its checks publishes a reply that was allowed to leave exactly when the
suggestion names the network and the connection of the message it answers and a draft that goes
out bare is within the contract's bounds. A call that does not publishes nothing and writes no
row. -/
theorem allowed_iff {approvals : Approvals} {instant : String → Option Int} (call : Call)
    {time : Int} (clock : instant call.now = some time) :
    ((∀ approved, approvals.approvable instant call.request call.now call.reads ≠ .ok approved) →
      (approvals.approve instant call).after = approvals ∧
        (approvals.approve instant call).published = none) ∧
    ∀ approved, approvals.approvable instant call.request call.now call.reads = .ok approved →
      (∀ message, (approvals.approve instant call).published = some message →
        message.payload = approved.envelope call.now) ∧
      ∃ document, Answers approvals approved.suggestion document approved.trigger ∧
        (Allowed approvals instant call time approved.suggestion document approved.trigger
            (approved.envelope call.now) ↔
          (approved.suggestion.network = approved.trigger.network ∧
              approved.suggestion.connection = approved.trigger.connection) ∧
            DraftFits approvals call.request approved.suggestion) := by
  refine ⟨fun refused => ?_, fun approved asked => ⟨fun message published => ?_, ?_⟩⟩
  · cases asked : approvals.approvable instant call.request call.now call.reads with
    | ok approved => exact absurd asked (refused approved)
    | error refusal =>
      rw [Approvals.approve_of_refused asked]
      exact ⟨rfl, rfl⟩
  · obtain ⟨other, askedOther, rfl⟩ := Approvals.exists_of_published published
    rw [Except.ok.inj (asked.symm.trans askedOther)]
    rfl
  · have passed := Approvals.passed_of_prepared (Approvals.prepared_of_approvable asked).1
    obtain ⟨document, answers⟩ := Approvals.answers_of_findTrigger passed.answered
    refine ⟨document, answers, ?_⟩
    rw [← passed.bounds_iff]
    constructor
    · intro allowed
      have network := allowed.network
      have connection := allowed.connection
      obtain ⟨body, is, bounds⟩ := allowed.body
      rw [Approved.textAt_envelope_network] at network
      rw [Approved.textAt_envelope_connection] at connection
      rw [Approved.textAt_envelope_body] at is
      cases is
      exact ⟨⟨Network.asStr_injective (Option.some.inj network), Option.some.inj connection⟩,
        bounds⟩
    · rintro ⟨⟨network, connection⟩, bounds⟩
      exact {
        approver := passed.approver
        current := fun expiresAt expires expiry reads =>
          lt_of_not_hasPassed clock reads (passed.fresh expiresAt expires)
        label := passed.label
        answers := answers
        consent := passed.consent
        target := ⟨_, Approved.pointer_envelope_target approved call.now, answers.answersIn⟩
        network := by rw [Approved.textAt_envelope_network, network]
        connection := by rw [Approved.textAt_envelope_connection, connection]
        body := ⟨_, Approved.textAt_envelope_body approved call.now, bounds⟩ }

/-! ### A suggestion that names another perimeter -/

namespace OneDraft

set_option maxRecDepth 10000 in
/-- A draft whose perimeter is that of the message it answers. -/
theorem allowed_unedited : ∃ approved document trigger,
    Allowed (gateway (OneDraft.trigger "whatsapp" "whatsapp") withSentence) clock (call none)
      1790942400 (approved : Approved).suggestion document trigger
      (approved.envelope (call none).now) := by
  obtain ⟨approved, asked, agrees⟩ := Option.bind_eq_some_iff.mp (by decide :
    ((gateway (trigger "whatsapp" "whatsapp") withSentence).approvable clock (request none)
      (call none).now calm).toOption.bind (fun approved => some (decide
        ((approved.suggestion.network = approved.trigger.network ∧
          approved.suggestion.connection = approved.trigger.connection) ∧
            approved.suggestion.disclosure ≠ none))) = some true)
  obtain ⟨perimeter, carries⟩ := of_decide_eq_true (Option.some.inj agrees)
  obtain ⟨-, document, -, iff⟩ := (allowed_iff (call none) (rfl :
    clock (call none).now = some 1790942400)).2 approved (eq_ok_of_toOption asked)
  refine ⟨approved, document, approved.trigger, iff.mpr ⟨perimeter, fun _ bare => ?_⟩⟩
  rcases bare with off | without
  · cases off
  · exact absurd without carries

set_option maxRecDepth 10000 in
/-- Consent is read on the perimeter of the message, and the reply leaves under another. -/
theorem reply_leaves_under_another_perimeter :
    ¬∀ (approvals : Approvals) (instant : String → Option Int) (call : Call) (time : Int)
      (message : BusMessage), instant call.now = some time →
        (approvals.approve instant call).published = some message →
        ∃ suggestion document trigger,
          approvals.findSuggestion call.reads.suggestion call.request.suggestionEventId =
            .ok suggestion ∧
          approvals.findTrigger call.reads.trigger suggestion = .ok trigger ∧
          Allowed approvals instant call time suggestion document trigger message.payload := by
  intro always
  obtain ⟨message, published, named⟩ := Option.bind_eq_some_iff.mp (by decide :
    ((gateway (trigger "signal" "signal") withSentence).approve clock
      (call none)).published.bind (fun message => message.payload.textAt ["network"]) =
        some "whatsapp")
  obtain ⟨suggestion, _, trigger, found, answered, allowed⟩ :=
    always _ clock (call none) 1790942400 message rfl published
  have read : (((gateway (OneDraft.trigger "signal" "signal") withSentence).findSuggestion
      calm.suggestion suggestionId).toOption.bind fun suggestion =>
        ((gateway (OneDraft.trigger "signal" "signal") withSentence).findTrigger calm.trigger
          suggestion).toOption.map Trigger.network) = some .signal := by decide
  have onSignal : trigger.network = .signal := by
    rw [show (gateway (OneDraft.trigger "signal" "signal") withSentence).findSuggestion
      calm.suggestion suggestionId = .ok suggestion from found] at read
    have there : ((gateway (OneDraft.trigger "signal" "signal") withSentence).findTrigger
        calm.trigger suggestion).toOption.map Trigger.network = some .signal := read
    rw [show (gateway (OneDraft.trigger "signal" "signal") withSentence).findTrigger calm.trigger
      suggestion = .ok trigger from answered] at there
    exact Option.some.inj there
  have network := allowed.network
  rw [named, onSignal] at network
  exact absurd network (by decide)

end OneDraft

end Twalk.Approval
