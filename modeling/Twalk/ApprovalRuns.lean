/-
This file follows the approval of one suggestion through any sequence of attempts,
each of which may stop anywhere. The row comes before the publication and the
event's id does not depend on what is sent, so the bus keeps one reply: the first
that reached it. Once the row is marked it stands at the position of that reply
and no further attempt changes anything. What else the row says is what the
attempt that wrote it would have sent, which need not be what the bus holds.
-/

import Twalk.Allowed
import Twalk.Library.System

namespace Twalk.Approval

open Consent Store

/-! ### Attempts -/

def approvalId (suggestion owner : String) : String := sha256Hex (suggestion ++ ":" ++ owner)

def IsReply (suggestion owner : String) (message : BusMessage) : Prop :=
  message.subject = replySubject ∧ message.payload.textAt ["subject"] = some suggestion ∧
    message.payload.textAt ["data", "approved_by"] = some owner

instance (suggestion owner : String) (message : BusMessage) :
    Decidable (IsReply suggestion owner message) :=
  inferInstanceAs (Decidable (_ ∧ _ ∧ _))

/-- What happens while a suggestion waits: an attempt to approve it, a change of anything else the
Gateway holds, and what others publish. -/
inductive AttemptStep (suggestion owner : String) where
  | attempt (call : Call) (about : call.request.suggestionEventId = suggestion)
  | settings (consent : ConsentStore) (disclosureDecisions : List SwitchRow)
      (statusChanges : List StatusRow) (connections : Registry)
  | traffic (messageId : String) (message : BusMessage)
      (other : messageId ≠ approvalId suggestion owner)
      (unrelated : ¬IsReply suggestion owner message)

def attemptStep {suggestion owner : String} (instant : String → Option Int)
    (approvals : Approvals) : AttemptStep suggestion owner → Approvals
  | .attempt call _ => (approvals.approve instant call).after
  | .settings consent disclosureDecisions statusChanges connections =>
    { approvals with
      store := { approvals.store with consent, disclosureDecisions, statusChanges }
      connections := connections }
  | .traffic messageId message _ _ =>
    { approvals with
      bus := { approvals.bus with stream := (approvals.bus.stream.publish messageId message).1 } }

structure Unapproved (suggestion owner : String) where
  approvals : Approvals
  ofOwner : approvals.owner = owner
  noRow : ∀ row ∈ approvals.store.approvals,
    row.suggestionEventId ≠ suggestion ∧ row.eventId ≠ approvalId suggestion owner
  notHeld : approvals.bus.stream.held (approvalId suggestion owner) = none
  noReply : ∀ message ∈ approvals.bus.stream.messages, ¬IsReply suggestion owner message.payload

def replies (suggestion owner : String) (approvals : Approvals) : List (Message BusMessage) :=
  approvals.bus.stream.messages.filter fun message => IsReply suggestion owner message.payload

def Marked (suggestion owner : String) (approvals : Approvals) (row : RecordedApproval) : Prop :=
  row ∈ approvals.store.approvals ∧ row.eventId = approvalId suggestion owner ∧
    row.publishedAt.isSome = true

/-! ### The invariant -/

variable {row : RecordedApproval}

section Runs

variable {suggestion owner : String} {approvals : Approvals} {instant : String → Option Int}

/-- The rows of a suggestion are one, its mark is where the reply stands, and every reply is held
under the approval's id. -/
structure Settled (suggestion owner : String) (approvals : Approvals) : Prop where
  ofOwner : approvals.owner = owner
  rows : ∀ row ∈ approvals.store.approvals,
    row.suggestionEventId = suggestion ↔ row.eventId = approvalId suggestion owner
  single : ∀ first ∈ approvals.store.approvals, ∀ second ∈ approvals.store.approvals,
    first.eventId = approvalId suggestion owner →
    second.eventId = approvalId suggestion owner → first = second
  marked : ∀ row, Marked suggestion owner approvals row →
    ∃ message, approvals.bus.stream.held (approvalId suggestion owner) = some message ∧
      row.streamSequence = some message.position
  reply : ∀ message, approvals.bus.stream.held (approvalId suggestion owner) = some message →
    IsReply suggestion owner message.payload
  named : ∀ message ∈ approvals.bus.stream.messages,
    IsReply suggestion owner message.payload →
      message.messageId = approvalId suggestion owner

theorem settled_unapproved (start : Unapproved suggestion owner) :
    Settled suggestion owner start.approvals where
  ofOwner := start.ofOwner
  rows := fun row member =>
    ⟨fun same => absurd same (start.noRow row member).1,
      fun same => absurd same (start.noRow row member).2⟩
  single := fun first member _ _ same _ => absurd same (start.noRow first member).2
  marked := fun row marked => absurd marked.2.1 (start.noRow row marked.1).2
  reply := by
    intro message held
    rw [start.notHeld] at held
    cases held
  named := fun message member isReply => absurd isReply (start.noReply message member)

/-! ### The three writes -/

def Approves (suggestion owner : String) (approved : Approved) : Prop :=
  approved.suggestion.eventId = suggestion ∧ approved.approvedBy = owner

variable {approved : Approved}

theorem Approves.eventId_eq (approves : Approves suggestion owner approved) :
    approved.eventId = approvalId suggestion owner := by
  unfold Approved.eventId approvalId
  rw [approves.1, approves.2]

theorem Approves.isReply (approves : Approves suggestion owner approved) (now : String) :
    IsReply suggestion owner (approved.message now) := by
  refine ⟨rfl, ?_, ?_⟩
  · show (approved.envelope now).textAt ["subject"] = _
    rw [Approved.textAt_envelope_subject, approves.1]
  · show (approved.envelope now).textAt ["data", "approved_by"] = _
    rw [Approved.textAt_envelope_approvedBy, approves.2]

theorem Settled.record (settled : Settled suggestion owner approvals)
    (approves : Approves suggestion owner approved) {now : String} {store : ApprovalStore}
    (recorded : approvals.store.recordApproval (approved.row now) = some store) :
    Settled suggestion owner { approvals with store := store } := by
  have eventId : (approved.row now).eventId = approvalId suggestion owner := approves.eventId_eq
  unfold ApprovalStore.recordApproval at recorded
  split at recorded
  · cases recorded
    exact settled
  · rename_i noEvent
    split at recorded
    · cases recorded
    · cases recorded
      have absent : ∀ row ∈ approvals.store.approvals,
          row.eventId ≠ approvalId suggestion owner := by
        intro row member same
        refine noEvent (List.any_eq_true.mpr ⟨row, member, ?_⟩)
        rw [eventId, same]
        exact beq_self_eq_true _
      refine ⟨settled.ofOwner, ?_, ?_, ?_, settled.reply, settled.named⟩
      · intro row member
        rcases List.mem_append.mp member with held | new
        · exact settled.rows row held
        · rw [List.mem_singleton.mp new]
          exact ⟨fun _ => eventId, fun _ => approves.1⟩
      · intro first firstIn second secondIn firstSame secondSame
        rcases List.mem_append.mp firstIn with firstHeld | firstNew
        · exact absurd firstSame (absent first firstHeld)
        · rcases List.mem_append.mp secondIn with secondHeld | secondNew
          · exact absurd secondSame (absent second secondHeld)
          · rw [List.mem_singleton.mp firstNew, List.mem_singleton.mp secondNew]
      · rintro row ⟨member, same, isMarked⟩
        rcases List.mem_append.mp member with held | new
        · exact absurd same (absent row held)
        · rw [List.mem_singleton.mp new] at isMarked
          cases isMarked

/-- The bus takes the reply, or has it. -/
theorem Settled.send (settled : Settled suggestion owner approvals)
    (approves : Approves suggestion owner approved) (now : String) :
    Settled suggestion owner (approvals.send approved now).1 := by
  have eventId := approves.eventId_eq
  cases held : approvals.bus.stream.held (approvalId suggestion owner) with
  | some message =>
    have unchanged : (approvals.send approved now).1 = approvals := by
      unfold Approvals.send
      rw [eventId, MessageStream.publish_of_held held]
    rw [unchanged]
    exact settled
  | none =>
    have stream : (approvals.send approved now).1.bus.stream =
        approvals.bus.stream.append (approvalId suggestion owner) (approved.message now)
          held := by
      unfold Approvals.send
      rw [eventId, MessageStream.publish_of_fresh held]
    refine ⟨settled.ofOwner, settled.rows, settled.single, ?_, ?_, ?_⟩
    · intro row marked
      obtain ⟨message, isHeld, -⟩ := settled.marked row marked
      rw [held] at isHeld
      cases isHeld
    · intro message isHeld
      have member := MessageStream.held_mem isHeld
      rw [stream, MessageStream.messages_append] at member
      rcases List.mem_append.mp member with old | new
      · have absent := MessageStream.held_eq_none_iff.mp held message old
        exact absurd (MessageStream.held_messageId isHeld) absent
      · rw [List.mem_singleton.mp new]
        exact approves.isReply now
    · intro message member isReply
      rw [stream, MessageStream.messages_append] at member
      rcases List.mem_append.mp member with old | new
      · exact settled.named message old isReply
      · rw [List.mem_singleton.mp new]

theorem Settled.mark (settled : Settled suggestion owner approvals) {eventId : String}
    (same : eventId = approvalId suggestion owner) {message : Message BusMessage}
    (held : approvals.bus.stream.held eventId = some message) (publishedAt : String) :
    Settled suggestion owner { approvals with
      store := approvals.store.markApprovalPublished eventId publishedAt message.position } := by
  subst same
  have kept : ∀ row : RecordedApproval,
      (ApprovalStore.markRow (approvalId suggestion owner) publishedAt message.position
        row).eventId = row.eventId ∧
      (ApprovalStore.markRow (approvalId suggestion owner) publishedAt message.position
        row).suggestionEventId = row.suggestionEventId := by
    intro row
    unfold ApprovalStore.markRow
    split <;> exact ⟨rfl, rfl⟩
  refine ⟨settled.ofOwner, ?_, ?_, ?_, settled.reply, settled.named⟩
  · intro marked member
    obtain ⟨row, held, rfl⟩ := List.mem_map.mp member
    rw [(kept row).1, (kept row).2]
    exact settled.rows row held
  · intro first firstIn second secondIn firstSame secondSame
    obtain ⟨early, earlyIn, rfl⟩ := List.mem_map.mp firstIn
    obtain ⟨late, lateIn, rfl⟩ := List.mem_map.mp secondIn
    rw [(kept early).1] at firstSame
    rw [(kept late).1] at secondSame
    rw [settled.single early earlyIn late lateIn firstSame secondSame]
  · rintro marked ⟨member, named, isMarked⟩
    obtain ⟨row, rowIn, rfl⟩ := List.mem_map.mp member
    rw [(kept row).1] at named
    by_cases bare : row.publishedAt = none
    · refine ⟨message, held, ?_⟩
      unfold ApprovalStore.markRow
      rw [if_pos ⟨named, bare⟩]
    · have unchanged : ApprovalStore.markRow (approvalId suggestion owner) publishedAt
          message.position row = row := if_neg fun both => bare both.2
      rw [unchanged]
      exact settled.marked row ⟨rowIn, named, Option.isSome_iff_ne_none.mpr bare⟩

/-! ### An attempt -/

theorem held_send (approvals : Approvals) (approved : Approved) (now : String) :
    ∃ message, (approvals.send approved now).1.bus.stream.held approved.eventId = some message ∧
      message.position = (approvals.send approved now).2 :=
  MessageStream.exists_held_publish approvals.bus.stream approved.eventId (approved.message now)

theorem Settled.publishReply (settled : Settled suggestion owner approvals)
    (approves : Approves suggestion owner approved) (now : String) (publication : Publication) :
    Settled suggestion owner (approvals.publishReply approved now publication).after := by
  cases publication with
  | stops => exact settled
  | refused detail => exact settled
  | unacknowledged detail => exact settled.send approves now
  | acknowledged marking =>
    cases marking with
    | stops => exact settled.send approves now
    | fails detail => exact settled.send approves now
    | completes publishedAt =>
      obtain ⟨message, held, position⟩ := held_send approvals approved now
      show Settled suggestion owner { (approvals.send approved now).1 with
        store := (approvals.send approved now).1.store.markApprovalPublished approved.eventId
          publishedAt (approvals.send approved now).2 }
      rw [← position]
      exact (settled.send approves now).mark approves.eventId_eq held publishedAt

theorem Settled.deliver (settled : Settled suggestion owner approvals)
    (approves : Approves suggestion owner approved) (now : String) (recording : Recording) :
    Settled suggestion owner (approvals.deliver approved now recording).after := by
  cases recording with
  | fails detail => exact settled
  | succeeds publication =>
    unfold Approvals.deliver
    cases recorded : approvals.store.recordApproval (approved.row now) with
    | none => exact settled
    | some store => exact (settled.record approves recorded).publishReply approves now publication

theorem Settled.approves (settled : Settled suggestion owner approvals) {call : Call}
    (about : call.request.suggestionEventId = suggestion)
    (asked : approvals.prepared instant call.request call.now call.reads = .ok approved) :
    Approves suggestion owner approved := by
  have passed := Approvals.passed_of_prepared asked
  exact ⟨(Approvals.eventId_of_findSuggestion passed.found).trans about,
    passed.owner.trans settled.ofOwner⟩

theorem settled_step (state : Approvals) (next : AttemptStep suggestion owner)
    (settled : Settled suggestion owner state) :
    Settled suggestion owner (attemptStep instant state next) := by
  cases next with
  | settings consent disclosureDecisions statusChanges connections =>
    exact ⟨settled.ofOwner, settled.rows, settled.single, settled.marked, settled.reply,
      settled.named⟩
  | traffic messageId message other unrelated =>
    cases held : state.bus.stream.held messageId with
    | some earlier =>
      show Settled suggestion owner { state with bus := { state.bus with
        stream := (state.bus.stream.publish messageId message).1 } }
      rw [MessageStream.publish_of_held held]
      exact settled
    | none =>
      show Settled suggestion owner { state with bus := { state.bus with
        stream := (state.bus.stream.publish messageId message).1 } }
      rw [MessageStream.publish_of_fresh held]
      refine ⟨settled.ofOwner, settled.rows, settled.single, ?_, ?_, ?_⟩
      · intro row marked
        obtain ⟨reply, isHeld, position⟩ := settled.marked row marked
        refine ⟨reply, ?_, position⟩
        have stays := MessageStream.held_publish_of_held isHeld messageId message
        rw [MessageStream.publish_of_fresh held] at stays
        exact stays
      · intro reply isHeld
        have member := MessageStream.held_mem isHeld
        rcases List.mem_append.mp member with old | new
        · have heldBefore := MessageStream.held_of_mem old
          rw [MessageStream.held_messageId isHeld] at heldBefore
          exact settled.reply reply heldBefore
        · have named := MessageStream.held_messageId isHeld
          rw [List.mem_singleton.mp new] at named
          exact absurd named other
      · intro reply member isReply
        rcases List.mem_append.mp member with old | new
        · exact settled.named reply old isReply
        · rw [List.mem_singleton.mp new] at isReply
          exact absurd isReply unrelated
  | attempt call about =>
    show Settled suggestion owner (state.approve instant call).after
    cases asked : state.approvable instant call.request call.now call.reads with
    | error refusal =>
      rw [Approvals.approve_of_refused asked]
      exact settled
    | ok approved =>
      rw [Approvals.approve_of_approvable asked]
      exact settled.deliver
        (settled.approves about (Approvals.prepared_of_approvable asked).1) call.now
        call.recording

/-! ### Once the row is marked -/

theorem Settled.approval_eq (settled : Settled suggestion owner approvals)
    (marked : Marked suggestion owner approvals row) :
    approvals.store.approval suggestion = some row := by
  obtain ⟨member, named, -⟩ := marked
  unfold ApprovalStore.approval
  cases found : approvals.store.approvals.find? fun row => row.suggestionEventId == suggestion with
  | none =>
    have absent := List.find?_eq_none.mp found row member
    rw [(settled.rows row member).mpr named] at absent
    exact absurd (beq_self_eq_true suggestion) absent
  | some other =>
    have otherIn := List.mem_of_find?_eq_some found
    have otherNamed := (settled.rows other otherIn).mp (eq_of_beq (List.find?_some found :))
    rw [settled.single other otherIn row member otherNamed named]

theorem Settled.refused (instant : String → Option Int)
    (settled : Settled suggestion owner approvals) (marked : Marked suggestion owner approvals row)
    {call : Call} (about : call.request.suggestionEventId = suggestion) :
    ∃ refusal, approvals.approvable instant call.request call.now call.reads = .error refusal ∧
      ∀ approved, approvals.prepared instant call.request call.now call.reads = .ok approved →
        call.reads.approval = none → refusal = .alreadyApproved row := by
  unfold Approvals.approvable
  cases asked : approvals.prepared instant call.request call.now call.reads with
  | error refusal => exact ⟨refusal, rfl, fun _ impossible => by cases impossible⟩
  | ok approved =>
    have approves := settled.approves about asked
    have stands : approvals.checkNotApproved approved.suggestion.eventId =
        .error (.alreadyApproved row) := by
      unfold Approvals.checkNotApproved
      rw [approves.1, settled.approval_eq marked]
      exact if_pos marked.2.2
    cases reads : call.reads.approval with
    | some detail => exact ⟨.storeUnavailable detail, rfl, fun _ _ impossible => by cases impossible⟩
    | none =>
      refine ⟨.alreadyApproved row, ?_, fun _ _ _ => rfl⟩
      show (approvals.checkNotApproved approved.suggestion.eventId >>= _) = _
      rw [stands]
      rfl

theorem marked_step (state : Approvals) (next : AttemptStep suggestion owner)
    (settled : Settled suggestion owner state) (marked : Marked suggestion owner state row) :
    Marked suggestion owner (attemptStep instant state next) row := by
  cases next with
  | settings consent disclosureDecisions statusChanges connections => exact marked
  | traffic messageId message other unrelated => exact marked
  | attempt call about =>
    obtain ⟨refusal, asked, -⟩ := settled.refused instant marked about
    show Marked suggestion owner (state.approve instant call).after row
    rw [Approvals.approve_of_refused asked]
    exact marked

/-! ### The result -/

theorem Settled.replies_length (settled : Settled suggestion owner approvals) :
    (replies suggestion owner approvals).length ≤ 1 := by
  unfold replies
  have distinct : (approvals.bus.stream.messages.filter fun message =>
      IsReply suggestion owner message.payload).Pairwise fun earlier later =>
        earlier.position < later.position :=
    approvals.bus.stream.ordered.sublist List.filter_sublist
  match listed : approvals.bus.stream.messages.filter fun message =>
      IsReply suggestion owner message.payload with
  | [] =>
    rw [listed]
    exact Nat.zero_le 1
  | [only] =>
    rw [listed]
    exact Nat.le_refl 1
  | first :: second :: rest =>
    have isReply : ∀ message ∈ first :: second :: rest,
        message ∈ approvals.bus.stream.messages ∧
          message.messageId = approvalId suggestion owner := by
      intro message member
      rw [← listed] at member
      obtain ⟨onBus, reply⟩ := List.mem_filter.mp member
      exact ⟨onBus, settled.named message onBus (of_decide_eq_true reply)⟩
    obtain ⟨firstOn, firstNamed⟩ := isReply first List.mem_cons_self
    obtain ⟨secondOn, secondNamed⟩ :=
      isReply second (List.mem_cons_of_mem _ List.mem_cons_self)
    have same := approvals.bus.stream.distinct first firstOn second secondOn
      (firstNamed.trans secondNamed.symm)
    rw [listed] at distinct
    have before := List.rel_of_pairwise_cons distinct List.mem_cons_self
    rw [same] at before
    exact absurd before (Nat.lt_irrefl _)

/-- In every sequence of attempts on a suggestion that was never approved, whatever else happens
in between: the bus holds at most one reply; a marked row stands at the position of that reply;
and from the first state in which the row is marked every attempt changes nothing, publishes
nothing and is refused, with the row it found unless a check before it refuses first. -/
theorem approved_once (instant : String → Option Int) (start : Unapproved suggestion owner)
    (front back : List (AttemptStep suggestion owner)) :
    (replies suggestion owner
        (run (attemptStep instant) start.approvals (front ++ back))).length ≤ 1 ∧
    (∀ row, Marked suggestion owner
        (run (attemptStep instant) start.approvals (front ++ back)) row →
      ∃ message ∈ replies suggestion owner
          (run (attemptStep instant) start.approvals (front ++ back)),
        row.streamSequence = some message.position) ∧
    ∀ row, Marked suggestion owner (run (attemptStep instant) start.approvals front) row →
      ∀ call : Call, call.request.suggestionEventId = suggestion → ∃ refusal,
        (run (attemptStep instant) start.approvals (front ++ back)).approve instant call =
          ⟨run (attemptStep instant) start.approvals (front ++ back), none,
            some (.error refusal)⟩ ∧
        ∀ approved, (run (attemptStep instant) start.approvals (front ++ back)).prepared instant
            call.request call.now call.reads = .ok approved →
          call.reads.approval = none → refusal = .alreadyApproved row := by
  have settled : ∀ steps : List (AttemptStep suggestion owner),
      Settled suggestion owner (run (attemptStep instant) start.approvals steps) :=
    run_invariant (Settled suggestion owner) settled_step (settled_unapproved start)
  refine ⟨(settled _).replies_length, fun row marked => ?_, fun row marked call about => ?_⟩
  · obtain ⟨message, held, position⟩ := (settled _).marked row marked
    exact ⟨message, List.mem_filter.mpr ⟨MessageStream.held_mem held,
      decide_eq_true ((settled _).reply message held)⟩, position⟩
  · have stays : Settled suggestion owner
        (run (attemptStep instant) start.approvals (front ++ back)) ∧
        Marked suggestion owner (run (attemptStep instant) start.approvals (front ++ back)) row := by
      rw [run_append]
      exact run_invariant
        (fun state => Settled suggestion owner state ∧ Marked suggestion owner state row)
        (fun state next both => ⟨settled_step state next both.1,
          marked_step state next both.1 both.2⟩) ⟨settled front, marked⟩ back
    obtain ⟨refusal, asked, already⟩ := stays.1.refused instant stays.2 about
    exact ⟨refusal, Approvals.approve_of_refused asked, already⟩

end Runs

/-! ### A row that outlives what it tells -/

namespace OneDraft

def expiring : Json :=
  suggestion [("suggestion", draft), ("disclosure", .string "Drafted with my AI assistant."),
    ("expires_at", .string "2026-10-02T13:00:00Z")]

def unapproved : Unapproved suggestionId "@owner:example.org" where
  approvals := gateway (trigger "whatsapp" "whatsapp") expiring
  ofOwner := rfl
  noRow := fun _ member => absurd member List.not_mem_nil
  notHeld := Option.isNone_iff_eq_none.mp (by decide +kernel)
  noReply := by decide

def refusedByTheBus : AttemptStep suggestionId "@owner:example.org" :=
  .attempt ⟨request none, "2026-10-02T12:00:00.000Z", calm, .succeeds (.refused "no responders")⟩
    rfl

/-- A text of the owner's in its place. -/
def rewritten : Final := ⟨⟨"Not before Monday.", .plain⟩, .owner, by decide, by decide⟩

def approvedRewritten : AttemptStep suggestionId "@owner:example.org" :=
  .attempt (call (some rewritten)) rfl

/-- The draft once more, an hour after it expired. -/
def late : Call := ⟨request none, "2026-10-02T14:00:00.000Z", calm, .succeeds .stops⟩

def firstRow (approvals : Approvals) : Option RecordedApproval := approvals.store.approvals.head?

def isMarked (row : RecordedApproval) : Bool :=
  row.eventId == approvalId suggestionId "@owner:example.org" && row.publishedAt.isSome

theorem marked_firstRow {approvals : Approvals} (first : firstRow approvals = some row)
    (marked : isMarked row = true) :
    Marked suggestionId "@owner:example.org" approvals row := by
  unfold isMarked at marked
  rw [Bool.and_eq_true, beq_iff_eq] at marked
  exact ⟨List.mem_of_mem_head? first, marked.1, marked.2⟩

set_option maxRecDepth 10000 in
/-- The second attempt is the one whose reply is on the bus, and the attempts that follow are
refused. -/
theorem approved_once_rewritten : ∃ row refusal,
    (run (attemptStep clock) unapproved.approvals ([refusedByTheBus, approvedRewritten] ++
      [])).approve clock (call none) =
        ⟨run (attemptStep clock) unapproved.approvals ([refusedByTheBus, approvedRewritten] ++ []),
          none, some (.error refusal)⟩ ∧ isMarked row = true := by
  obtain ⟨row, first, marked⟩ := Option.bind_eq_some_iff.mp (by decide +kernel :
    (firstRow (run (attemptStep clock) unapproved.approvals
      [refusedByTheBus, approvedRewritten])).bind (fun row => some (isMarked row)) = some true)
  obtain ⟨-, -, refuses⟩ := approved_once clock unapproved [refusedByTheBus, approvedRewritten] []
  obtain ⟨refusal, refused, -⟩ :=
    refuses row (marked_firstRow first (Option.some.inj marked)) (call none) rfl
  exact ⟨row, refusal, refused, Option.some.inj marked⟩

set_option maxRecDepth 10000 in
/-- The row says the draft went out as it stands where the bus holds the owner's own text; and an
attempt that comes too late is refused as expired. -/
theorem row_does_not_tell_and_expiry_comes_first :
    (¬∀ (start : Unapproved suggestionId "@owner:example.org")
        (steps : List (AttemptStep suggestionId "@owner:example.org")) (row : RecordedApproval)
        (message : Message BusMessage),
      Marked suggestionId "@owner:example.org"
          (run (attemptStep clock) start.approvals steps) row →
        message ∈ replies suggestionId "@owner:example.org"
          (run (attemptStep clock) start.approvals steps) →
        message.payload.payload.textAt ["data", "written_by"] = some row.writtenBy.asStr) ∧
    ¬∀ (start : Unapproved suggestionId "@owner:example.org")
        (steps : List (AttemptStep suggestionId "@owner:example.org")) (row : RecordedApproval)
        (call : Call),
      Marked suggestionId "@owner:example.org"
          (run (attemptStep clock) start.approvals steps) row →
        call.request.suggestionEventId = suggestionId →
        ((run (attemptStep clock) start.approvals steps).approve clock call).answer =
          some (.error (.alreadyApproved row)) := by
  obtain ⟨row, first, tells⟩ := Option.bind_eq_some_iff.mp (by decide +kernel :
    (firstRow (run (attemptStep clock) unapproved.approvals
      [refusedByTheBus, approvedRewritten])).bind (fun row =>
        some (isMarked row && row.writtenBy == .persona)) = some true)
  obtain ⟨marked, persona⟩ := Bool.and_eq_true .. ▸ Option.some.inj tells
  have stands := marked_firstRow first marked
  constructor
  · intro always
    obtain ⟨message, held, claims⟩ := Option.bind_eq_some_iff.mp (by decide +kernel :
      (replies suggestionId "@owner:example.org" (run (attemptStep clock) unapproved.approvals
        [refusedByTheBus, approvedRewritten])).head?.bind (fun message =>
          message.payload.payload.textAt ["data", "written_by"]) = some "owner")
    have told := always unapproved _ row message stands (List.mem_of_mem_head? held)
    rw [claims, eq_of_beq persona] at told
    exact absurd told (by decide)
  · intro always
    have refused := always unapproved _ row late stands rfl
    have expired : (((run (attemptStep clock) unapproved.approvals
        [refusedByTheBus, approvedRewritten]).approve clock late).answer.bind fun answer =>
          Except.casesOn (motive := fun _ => Option String) answer
            (fun refusal => some refusal.code) fun _ => none) = some "suggestion_expired" := by decide +kernel
    rw [refused] at expired
    exact absurd (Option.some.inj expired : "already_approved" = "suggestion_expired") (by decide)

end OneDraft

end Twalk.Approval
