/-
This file models the consent half of `companion-gateway/src/outbox.rs`: decisions
recorded in the journal, published oldest first and marked with the position the
bus answers, by a drain that can fail or crash between any two of its steps. The
invariant is that the marked rows are a prefix of the journal and that the
stream's messages are these rows' in the same order, followed by at most one
message of the row that is next to be marked.
-/

import Twalk.ConsentJournal
import Twalk.Library.Stream
import Twalk.Library.System

namespace Twalk

open Consent Store

/-! ### The drain -/

/-- How many rows one drain takes. -/
def drainBatch : Nat := 256

/-- What becomes of one publication: stored and answered, stored without an answer, or not
stored. -/
inductive PublishOutcome where
  | acknowledged
  | unacknowledged
  | refused
deriving DecidableEq, Repr

/-- The journal, the stream, the rows a running drain has still to handle, and the position
the bus has answered for the first of them. -/
structure Outbox where
  store : ConsentStore
  bus : MessageStream Json
  waiting : List JournalRow
  acked : Option Nat

inductive OutboxStep (kinds : String → String) where
  | configure (registry : Registry) (keeps : registry.Keeps kinds)
  | record (registry : Registry) (keeps : registry.Keeps kinds) (accepted : Accepted registry)
      (actor occurredAt domain producedAt : String) (burnt : Nat)
  | fetch
  | publish (outcome : PublishOutcome)
  | mark (publishedAt : String)
  | crash
  | otherTraffic (count : Nat)

namespace Outbox

def start (owner : Owner) : Outbox := ⟨ConsentStore.fresh owner, MessageStream.empty, [], none⟩

/-- A drain that stops, at a failure or at a crash, forgets what it held. -/
def stopped (outbox : Outbox) : Outbox := { outbox with waiting := [], acked := none }

def step {kinds : String → String} (outbox : Outbox) : OutboxStep kinds → Outbox
  | .configure registry _ =>
    { outbox with store := (outbox.store.recordConnections registry.connections).1 }
  | .record _ _ accepted actor occurredAt domain producedAt burnt =>
    { outbox with
      store := outbox.store.afterRecord accepted.decision actor occurredAt domain producedAt
        burnt }
  | .fetch =>
    if outbox.waiting.isEmpty then
      { outbox with waiting := outbox.store.unpublished drainBatch }
    else outbox
  | .publish outcome =>
    match outbox.waiting, outbox.acked with
    | row :: _, none =>
      let (bus, position) := outbox.bus.publish row.eventId row.envelope
      match outcome with
      | .acknowledged => { outbox with bus, acked := some position }
      | .unacknowledged => { outbox with bus }.stopped
      | .refused => outbox.stopped
    | _, _ => outbox
  | .mark publishedAt =>
    match outbox.waiting, outbox.acked with
    | row :: rest, some position =>
      { outbox with
        store := outbox.store.markPublished row.sequence publishedAt position
        waiting := rest
        acked := none }
    | _, _ => outbox
  | .crash => outbox.stopped
  | .otherTraffic count => { outbox with bus := outbox.bus.advance count }

/-- Every decision has reached the bus and is marked. -/
def Drained (outbox : Outbox) : Prop := ∀ row ∈ outbox.store.journal, row.publishedAt.isSome = true

/-! ### Marked rows and messages run side by side -/

def Carries (row : JournalRow) (message : Message Json) : Prop :=
  row.publishedAt.isSome = true ∧ row.streamSequence = some message.position ∧
    message.messageId = row.eventId ∧ message.payload = row.envelope

def Announces (message : Message Json) (row : JournalRow) : Prop :=
  message.messageId = row.eventId ∧ message.payload = row.envelope

structure Alignment (outbox : Outbox) (marked unmarked : List JournalRow)
    (messages pending : List (Message Json)) : Prop where
  journal : outbox.store.journal = marked ++ unmarked
  stream : outbox.bus.messages = messages ++ pending
  carried : List.Forall₂ Carries marked messages
  bare : ∀ row ∈ unmarked, row.publishedAt = none ∧ row.streamSequence = none
  next : pending = [] ∨ ∃ row rest message,
    unmarked = row :: rest ∧ pending = [message] ∧ Announces message row
  batch : outbox.waiting <+: unmarked
  answered : ∀ position, outbox.acked = some position →
    outbox.waiting ≠ [] ∧ ∃ message, pending = [message] ∧ message.position = position

def Aligned (outbox : Outbox) : Prop :=
  ∃ marked unmarked messages pending, outbox.Alignment marked unmarked messages pending

theorem aligned_start (owner : Owner) : (start owner).Aligned :=
  ⟨[], [], [], [], rfl, rfl, List.Forall₂.nil, by simp, Or.inl rfl, List.prefix_rfl,
    fun _ impossible => nomatch impossible⟩

section Alignment

variable {outbox : Outbox} {marked unmarked : List JournalRow}
  {messages pending : List (Message Json)}

theorem Alignment.stopped (aligned : outbox.Alignment marked unmarked messages pending) :
    outbox.stopped.Alignment marked unmarked messages pending :=
  { aligned with
    batch := List.nil_prefix
    answered := fun _ impossible => nomatch impossible }

theorem Alignment.unpublished (aligned : outbox.Alignment marked unmarked messages pending)
    (limit : Nat) : outbox.store.unpublished limit = unmarked.take limit := by
  unfold ConsentStore.unpublished
  have markedOut : marked.filter (fun row => row.publishedAt.isNone) = [] := by
    rw [List.filter_eq_nil_iff]
    intro row member
    obtain ⟨message, -, isMarked, -⟩ := exists_result_of_forall₂ aligned.carried member
    rw [Option.isNone_iff_eq_none]
    intro absent
    rw [absent] at isMarked
    exact absurd isMarked Bool.false_ne_true
  have unmarkedIn : unmarked.filter (fun row => row.publishedAt.isNone) = unmarked := by
    rw [List.filter_eq_self]
    intro row member
    rw [(aligned.bare row member).1]
    rfl
  rw [aligned.journal, List.filter_append, markedOut, unmarkedIn, List.nil_append]

theorem Alignment.of_journal_eq (aligned : outbox.Alignment marked unmarked messages pending)
    {store : ConsentStore} (same : store.journal = outbox.store.journal) :
    Alignment { outbox with store } marked unmarked messages pending :=
  { aligned with journal := same.trans aligned.journal }

variable {row : JournalRow}

theorem Alignment.append (aligned : outbox.Alignment marked unmarked messages pending)
    {store : ConsentStore} (grown : store.journal = outbox.store.journal ++ [row])
    (new : row.publishedAt = none ∧ row.streamSequence = none) :
    Alignment { outbox with store } marked (unmarked ++ [row]) messages pending :=
  { aligned with
    journal := by
      show store.journal = marked ++ (unmarked ++ [row])
      rw [grown, aligned.journal, List.append_assoc]
    bare := by
      intro other member
      rcases List.mem_append.mp member with old | isNew
      · exact aligned.bare other old
      · rw [List.mem_singleton.mp isNew]
        exact new
    next := by
      rcases aligned.next with none | ⟨first, rest, message, split, one, announces⟩
      · exact Or.inl none
      · exact Or.inr ⟨first, rest ++ [row], message, by rw [split]; rfl, one, announces⟩
    batch := aligned.batch.trans (List.prefix_append unmarked [row]) }

theorem Alignment.fetch (aligned : outbox.Alignment marked unmarked messages pending)
    (idle : outbox.waiting = []) (limit : Nat) :
    Alignment { outbox with waiting := outbox.store.unpublished limit } marked unmarked messages
      pending :=
  { aligned with
    batch := by
      show outbox.store.unpublished limit <+: unmarked
      rw [aligned.unpublished]
      exact List.take_prefix limit unmarked
    answered := fun position acked =>
      absurd idle (aligned.answered position acked).1 }

variable {rest : List JournalRow}

theorem Alignment.exists_head (aligned : outbox.Alignment marked unmarked messages pending)
    (waiting : outbox.waiting = row :: rest) :
    ∃ others, unmarked = row :: others ∧ rest <+: others := by
  obtain ⟨others, joined⟩ := aligned.batch
  rw [waiting] at joined
  exact ⟨rest ++ others, joined.symm, List.prefix_append rest others⟩

theorem Alignment.held_eq_none (aligned : outbox.Alignment marked unmarked messages pending)
    (member : row ∈ unmarked) (nonePending : pending = []) :
    outbox.bus.held row.eventId = none := by
  rw [MessageStream.held_eq_none_iff]
  intro message inStream same
  rw [aligned.stream, nonePending, List.append_nil] at inStream
  obtain ⟨other, otherIn, -, -, named, -⟩ := exists_input_of_forall₂ aligned.carried inStream
  have apart := outbox.store.eventsDistinct
  rw [aligned.journal] at apart
  exact (List.pairwise_append.mp apart).2.2 other otherIn row member (named.symm.trans same)

theorem Alignment.publish (aligned : outbox.Alignment marked unmarked messages pending)
    (waiting : outbox.waiting = row :: rest) :
    ∃ message, (outbox.bus.publish row.eventId row.envelope).2 = message.position ∧
      Alignment { outbox with
          bus := (outbox.bus.publish row.eventId row.envelope).1
          acked := some message.position } marked unmarked messages [message] := by
  obtain ⟨others, split, -⟩ := aligned.exists_head waiting
  rcases aligned.next with nonePending | ⟨first, behind, message, isFirst, one, announces⟩
  · have fresh := aligned.held_eq_none (by rw [split]; exact List.mem_cons_self) nonePending
    rw [MessageStream.publish_of_fresh fresh]
    refine ⟨⟨outbox.bus.lastPosition + 1, row.eventId, row.envelope⟩, rfl, ?_⟩
    exact { aligned with
      stream := by
        rw [MessageStream.messages_append, aligned.stream, nonePending, List.append_nil]
      next := Or.inr ⟨row, others, _, split, rfl, rfl, rfl⟩
      answered := fun position acked =>
        ⟨by rw [waiting]; exact List.cons_ne_nil _ _, _, rfl, Option.some.inj acked⟩ }
  · obtain ⟨rfl, rfl⟩ := List.cons.inj (split.symm.trans isFirst)
    have stored : message ∈ outbox.bus.messages := by
      rw [aligned.stream, one]
      exact List.mem_append_right _ (List.mem_singleton_self _)
    have found := MessageStream.held_of_mem stored
    rw [announces.1] at found
    rw [MessageStream.publish_of_held found]
    refine ⟨message, rfl, ?_⟩
    exact { aligned with
      stream := by rw [aligned.stream, one]
      next := Or.inr ⟨row, others, message, split, rfl, announces⟩
      answered := fun position acked =>
        ⟨by rw [waiting]; exact List.cons_ne_nil _ _, message, rfl, Option.some.inj acked⟩ }

theorem Alignment.journal_mark (aligned : outbox.Alignment marked unmarked messages pending)
    {others : List JournalRow} (split : unmarked = row :: others) (publishedAt : String)
    (position : Nat) :
    (outbox.store.markPublished row.sequence publishedAt position).journal =
      marked ++ ({ row with
        publishedAt := some publishedAt, streamSequence := some position } :: others) := by
  have ordered := outbox.store.ordered
  rw [aligned.journal, split] at ordered
  have behind := (List.pairwise_cons.mp (List.pairwise_append.mp ordered).2.1).1
  have markedKept : marked.map (markRow row.sequence publishedAt position) = marked := by
    refine (List.map_congr_left fun other member => ?_).trans (List.map_id marked)
    obtain ⟨message, -, isMarked, -⟩ := exists_result_of_forall₂ aligned.carried member
    refine if_neg fun both => ?_
    rw [both.2] at isMarked
    exact absurd isMarked Bool.false_ne_true
  have othersKept : others.map (markRow row.sequence publishedAt position) = others := by
    refine (List.map_congr_left fun other member => ?_).trans (List.map_id others)
    exact if_neg fun both => absurd both.1 (Nat.ne_of_gt (behind other member))
  have isBare := (aligned.bare row (by rw [split]; exact List.mem_cons_self)).1
  show (outbox.store.journal.map _) = _
  rw [aligned.journal, split, List.map_append, markedKept, List.map_cons, othersKept]
  unfold markRow
  rw [if_pos ⟨rfl, isBare⟩]

theorem Alignment.mark (aligned : outbox.Alignment marked unmarked messages pending)
    (waiting : outbox.waiting = row :: rest) {position : Nat} (acked : outbox.acked = some position)
    (publishedAt : String) :
    Aligned { outbox with
      store := outbox.store.markPublished row.sequence publishedAt position
      waiting := rest
      acked := none } := by
  obtain ⟨others, split, behind⟩ := aligned.exists_head waiting
  obtain ⟨-, message, one, isPosition⟩ := aligned.answered position acked
  have announces : Announces message row := by
    rcases aligned.next with nonePending | ⟨first, _, announcing, isFirst, isOne, announces⟩
    · rw [nonePending] at one
      cases one
    · obtain ⟨rfl, -⟩ := List.cons.inj (split.symm.trans isFirst)
      rw [one] at isOne
      rw [(List.cons.inj isOne).1]
      exact announces
  refine ⟨marked ++ [{ row with
    publishedAt := some publishedAt, streamSequence := some position }], others,
    messages ++ [message], [], ?_⟩
  exact {
    journal := by
      rw [List.append_assoc]
      exact aligned.journal_mark split publishedAt position
    stream := by
      show outbox.bus.messages = _
      rw [aligned.stream, one, List.append_nil]
    carried := List.rel_append aligned.carried
      (List.Forall₂.cons ⟨rfl, congrArg some isPosition.symm, announces⟩ List.Forall₂.nil)
    bare := fun other member =>
      aligned.bare other (by rw [split]; exact List.mem_cons_of_mem row member)
    next := Or.inl rfl
    batch := behind
    answered := fun _ impossible => nomatch impossible }

end Alignment

theorem Aligned.step {kinds : String → String} {outbox : Outbox} (aligned : outbox.Aligned)
    (next : OutboxStep kinds) : (outbox.step next).Aligned := by
  obtain ⟨marked, unmarked, messages, pending, aligned⟩ := aligned
  cases next with
  | configure registry keeps =>
    refine ⟨marked, unmarked, messages, pending, aligned.of_journal_eq ?_⟩
    exact ConsentStore.journal_recordConnections outbox.store registry.connections
  | record registry keeps accepted actor occurredAt domain producedAt burnt =>
    rcases ConsentStore.journal_afterRecord outbox.store accepted.decision actor occurredAt domain
      producedAt burnt with unchanged | appended
    · exact ⟨marked, unmarked, messages, pending, aligned.of_journal_eq unchanged⟩
    · exact ⟨marked, unmarked ++ [_], messages, pending, aligned.append appended ⟨rfl, rfl⟩⟩
  | fetch =>
    unfold Outbox.step
    simp only
    split
    · rename_i idle
      exact ⟨marked, unmarked, messages, pending, aligned.fetch (List.isEmpty_iff.mp idle) _⟩
    · exact ⟨marked, unmarked, messages, pending, aligned⟩
  | publish outcome =>
    unfold Outbox.step
    simp only
    split
    · rename_i row rest waiting _
      obtain ⟨message, isPosition, published⟩ := aligned.publish waiting
      cases outcome with
      | acknowledged => exact ⟨marked, unmarked, messages, [message], isPosition ▸ published⟩
      | unacknowledged => exact ⟨marked, unmarked, messages, [message], published.stopped⟩
      | refused => exact ⟨marked, unmarked, messages, pending, aligned.stopped⟩
    · exact ⟨marked, unmarked, messages, pending, aligned⟩
  | mark publishedAt =>
    unfold Outbox.step
    simp only
    split
    · rename_i row rest position waiting acked
      exact aligned.mark waiting acked publishedAt
    · exact ⟨marked, unmarked, messages, pending, aligned⟩
  | crash => exact ⟨marked, unmarked, messages, pending, aligned.stopped⟩
  | otherTraffic count =>
    exact ⟨marked, unmarked, messages, pending, { aligned with }⟩

end Outbox

end Twalk
