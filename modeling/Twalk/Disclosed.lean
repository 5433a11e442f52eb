/-
This file follows the disclosure from the suggestion to the event that is
published. The sentence goes out with the persona's words while the switch is on,
and a reply without it is the owner's own text. Whether a reply is the persona's
text is asked of the whole content, the format with the body: the draft's body
sent under another format is taken for an edit, and the owner may claim it.
-/

import Twalk.ApprovalChecks

namespace Twalk.Approval

open Consent Store

/-! ### What the contact is told -/

def sentContent (request : Request) (suggestion : Suggestion) : Content :=
  request.edited.getD suggestion.suggestion

/-- The draft goes out as the persona's, with the sentence, and a reply that goes out without the
sentence is a text of the owner's. -/
structure KeepsDisclosure (request : Request) (suggestion : Suggestion) (sentence : String)
    (event : Json) : Prop where
  draft : (sentContent request suggestion).body = suggestion.suggestion.body →
    event.textAt ["data", "written_by"] = some "persona" ∧
      event.pointer ["data", "edited"] = some (.bool false) ∧
      event.textAt ["data", "final", "body"] =
        some (append suggestion.suggestion.body sentence) ∧
      event.pointer ["data", "disclosure"] = some (.string sentence)
  undisclosed : event.pointer ["data", "disclosure"] = none →
    (sentContent request suggestion).body ≠ suggestion.suggestion.body ∧
      request.writtenBy = .owner

def KeepsFormat (request : Request) (suggestion : Suggestion) : Prop :=
  (sentContent request suggestion).body = suggestion.suggestion.body →
    (sentContent request suggestion).format = suggestion.suggestion.format

theorem Content.ext_of {first second : Content} (body : first.body = second.body)
    (format : first.format = second.format) : first = second := by
  cases first
  cases second
  cases body
  cases format
  rfl

theorem writer_eq_owner_iff {request : Request} {content draft : Content} :
    writer request content draft = .owner ↔ request.writtenBy = .owner ∧ content ≠ draft := by
  unfold writer
  cases request.writtenBy with
  | persona => simp
  | owner => by_cases same : content = draft <;> simp [same]

section Passed

variable {approvals : Approvals} {instant : String → Option Int} {request : Request} {now : String} {reads : Reads} {approved : Approved}

variable {sentence : String}

theorem Passed.disclosure_eq (passed : Passed approvals instant request now reads approved)
    (on : approvals.store.disclosureState.enabled = true)
    (carries : approved.suggestion.disclosure = some sentence) :
    approved.disclosure = if approved.writtenBy = .persona then some sentence else none := by
  rw [passed.disclosure]
  unfold disclosureOf
  rw [on, carries]
  simp

theorem Passed.keepsDisclosure (passed : Passed approvals instant request now reads approved)
    (on : approvals.store.disclosureState.enabled = true)
    (carries : approved.suggestion.disclosure = some sentence)
    (keeps : KeepsFormat request approved.suggestion) :
    KeepsDisclosure request approved.suggestion sentence (approved.envelope now) where
  draft := by
    intro same
    have asDraft : approved.content = approved.suggestion.suggestion := by
      rw [passed.content]
      exact Content.ext_of same (keeps same)
    have persona : approved.writtenBy = .persona := by
      rw [passed.writtenBy]
      cases wrote : writer request approved.content approved.suggestion.suggestion with
      | persona => rfl
      | owner => exact absurd asDraft (writer_eq_owner_iff.mp wrote).2
    have disclosed := passed.disclosure_eq on carries
    rw [if_pos persona] at disclosed
    refine ⟨?_, ?_, ?_, ?_⟩
    · rw [Approved.textAt_envelope_writtenBy, persona]
      rfl
    · rw [Approved.pointer_envelope_edited, passed.edited, asDraft]
      simp
    · rw [Approved.textAt_envelope_body]
      unfold Approved.finalBody
      rw [disclosed, asDraft]
    · rw [Approved.pointer_envelope_disclosure, disclosed]
      rfl
  undisclosed := by
    intro bare
    rw [Approved.pointer_envelope_disclosure, Option.map_eq_none_iff,
      passed.disclosure_eq on carries] at bare
    have owner : writer request approved.content approved.suggestion.suggestion = .owner := by
      rw [← passed.writtenBy]
      cases wrote : approved.writtenBy with
      | owner => rfl
      | persona =>
        rw [if_pos wrote] at bare
        cases bare
    obtain ⟨claims, differs⟩ := writer_eq_owner_iff.mp owner
    refine ⟨fun same => differs ?_, claims⟩
    rw [passed.content]
    exact Content.ext_of same (keeps same)

theorem Passed.keepsFormat (passed : Passed approvals instant request now reads approved)
    (keeps : KeepsDisclosure request approved.suggestion sentence (approved.envelope now)) :
    KeepsFormat request approved.suggestion := by
  intro same
  have unedited := (keeps.draft same).2.1
  rw [Approved.pointer_envelope_edited, passed.edited, Option.some.injEq, Json.bool.injEq,
    decide_eq_false_iff_not, ne_eq, not_not, passed.content] at unedited
  exact congrArg Content.format unedited

end Passed

/-- Of everything a call publishes while the switch is on, for a suggestion that carries a
sentence: the draft goes out disclosed and as the persona's, and a reply without the sentence is
the owner's own text, exactly when the draft's body is not sent under another format. -/
theorem keepsDisclosure_iff {approvals : Approvals} {instant : String → Option Int}
    (call : Call) {suggestion : Suggestion} {sentence : String}
    {message : BusMessage}
    (found : approvals.findSuggestion call.reads.suggestion call.request.suggestionEventId =
      .ok suggestion)
    (carries : suggestion.disclosure = some sentence)
    (on : approvals.store.disclosureState.enabled = true)
    (published : (approvals.approve instant call).published = some message) :
    KeepsDisclosure call.request suggestion sentence message.payload ↔
      KeepsFormat call.request suggestion := by
  obtain ⟨approved, asked, rfl⟩ := Approvals.exists_of_published published
  have passed := Approvals.passed_of_prepared (Approvals.prepared_of_approvable asked).1
  obtain rfl : approved.suggestion = suggestion :=
    Except.ok.inj (passed.found.symm.trans found)
  exact ⟨passed.keepsFormat, passed.keepsDisclosure on carries⟩

/-! ### A draft sent under another format -/

namespace OneDraft

def alice : String := "@whatsapp_33612345678:example.org"

def suggestionId : String :=
  "aaaaaaaaaaaaaaaaaaaaaaaaaaaaaaaaaaaaaaaaaaaaaaaaaaaaaaaaaaaaaaaa"

def triggerId : String :=
  "bbbbbbbbbbbbbbbbbbbbbbbbbbbbbbbbbbbbbbbbbbbbbbbbbbbbbbbbbbbbbbbb"

def suggestion (data : List (String × Json)) : Json :=
  .object [("id", .string suggestionId),
    ("source", .string "hermes://example.org/personas/assistant"),
    ("subject", .string triggerId), ("network", .string "whatsapp"),
    ("connection", .string "whatsapp"), ("consent", .string "granted"),
    ("data", .object (("persona_id", .string "assistant") :: data))]

def draft : Json :=
  .object [("body", .string "*Yes*, on Friday."), ("format", .string "text/markdown")]

/-- The message it answers. -/
def trigger (network connection : String) : Json :=
  .object [("id", .string triggerId), ("source", .string "matrix://example.org/!a:example.org"),
    ("subject", .string alice), ("network", .string network),
    ("connection", .string connection)]

def bus (trigger suggestion : Json) : Bus where
  firstSequence := 1
  stream := ((MessageStream.empty.publish triggerId ⟨inboundSubject, [], trigger⟩).1.publish
    suggestionId ⟨suggestSubject, [], suggestion⟩).1

def whatsapp : Connection := ⟨"whatsapp", "whatsapp", "WhatsApp", none, none⟩

def signal : Connection := ⟨"signal", "signal", "Signal", none, none⟩

def registry : Registry where
  connections := [whatsapp, signal]
  kindsKnown := by decide
  idsValid := by decide
  idsDistinct := by decide

def granted : ConsentStore :=
  (((ConsentStore.fresh (Owner.new "@owner:example.org" [])).recordConnection
    whatsapp).recordConnection signal).afterRecord
      ⟨⟨.contact, alice⟩, .granted, ["signal", "whatsapp"], [.whatsapp, .signal], none⟩
      "@owner:example.org" "2026-10-01T12:00:00.000Z" "example.org" "2026-10-01T12:00:00.000Z" 0

def gateway (trigger suggestion : Json) : Approvals where
  store := ⟨granted, [], [], []⟩
  bus := bus trigger suggestion
  connections := registry
  owner := "@owner:example.org"
  lookupWindow := 20000

/-- The instants named below, in seconds. -/
def clock (text : String) : Option Int :=
  if text = "2026-10-02T12:00:00.000Z" then some 1790942400
  else if text = "2026-10-02T11:00:00Z" then some 1790938800
  else if text = "2026-10-02T13:00:00Z" then some 1790946000
  else if text = "2026-10-02T14:00:00.000Z" then some 1790949600
  else none

def request (edited : Option Final) : Request := Request.of ⟨suggestionId, by decide⟩ none edited

def calm : Reads := ⟨none, .delivers none, .delivers none, none, none, none, none⟩

def call (edited : Option Final) : Call :=
  ⟨request edited, "2026-10-02T12:00:00.000Z", calm,
    .succeeds (.acknowledged (.completes "2026-10-02T12:00:00.000Z"))⟩

def withSentence : Json :=
  suggestion [("suggestion", draft), ("disclosure", .string "Drafted with my AI assistant.")]

def asPlainText : Final := ⟨⟨"*Yes*, on Friday.", .plain⟩, .owner, by decide, by decide⟩

set_option maxRecDepth 10000 in
/-- The draft goes out disclosed when it is sent as it stands. -/
theorem keepsDisclosure_unedited : ∃ suggestion message,
    KeepsDisclosure (request none) suggestion "Drafted with my AI assistant."
      (message : BusMessage).payload := by
  obtain ⟨suggestion, found, carries⟩ := Option.bind_eq_some_iff.mp (by decide :
    ((gateway (trigger "whatsapp" "whatsapp") withSentence).findSuggestion calm.suggestion
      suggestionId).toOption.bind Suggestion.disclosure = some "Drafted with my AI assistant.")
  obtain ⟨message, published⟩ := Option.isSome_iff_exists.mp (by decide :
    ((gateway (trigger "whatsapp" "whatsapp") withSentence).approve clock
      (call none)).published.isSome = true)
  exact ⟨suggestion, message, (keepsDisclosure_iff (call none) (eq_ok_of_toOption found)
    carries rfl published).mpr fun _ => rfl⟩

set_option maxRecDepth 10000 in
/-- The draft's own words go out without the sentence, as the owner's. -/
theorem draft_goes_out_undisclosed :
    ¬∀ (approvals : Approvals) (instant : String → Option Int) (call : Call)
      (suggestion : Suggestion) (sentence : String) (message : BusMessage),
      approvals.findSuggestion call.reads.suggestion call.request.suggestionEventId =
          .ok suggestion → suggestion.disclosure = some sentence →
        approvals.store.disclosureState.enabled = true →
        (approvals.approve instant call).published = some message →
        KeepsDisclosure call.request suggestion sentence message.payload := by
  intro always
  obtain ⟨suggestion, found, carries⟩ := Option.bind_eq_some_iff.mp (by decide :
    ((gateway (trigger "whatsapp" "whatsapp") withSentence).findSuggestion calm.suggestion
      suggestionId).toOption.bind (fun suggestion => suggestion.disclosure.map
        (·, suggestion.suggestion.body)) =
          some ("Drafted with my AI assistant.", "*Yes*, on Friday."))
  obtain ⟨sentence, carried, pair⟩ := Option.map_eq_some_iff.mp carries
  obtain ⟨message, published, claimed⟩ := Option.bind_eq_some_iff.mp (by decide :
    ((gateway (trigger "whatsapp" "whatsapp") withSentence).approve clock
      (call (some asPlainText))).published.bind (fun message =>
        message.payload.textAt ["data", "written_by"]) = some "owner")
  have kept := always _ clock (call (some asPlainText)) suggestion sentence message
    (eq_ok_of_toOption found) carried rfl published
  have persona := (kept.draft (congrArg Prod.snd pair).symm).1
  rw [claimed] at persona
  exact absurd persona (by decide)

end OneDraft

end Twalk.Approval
