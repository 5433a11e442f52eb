/-
This file is the hand-off of a cold consumer: a snapshot of the journal as far
as its decisions have reached the stream, and the stream from the position after
the last of them. The consumer ends, once the outbox is drained, in the state of
the whole journal. Each decision comes to it once exactly when no sequence is
missing where the rows with a position end: the horizon is the sequence before
the first row without one, and where a burnt sequence stands there it names no
row, so the snapshot answers with position zero and the stream hands over again
every decision the snapshot already held.
-/

import Twalk.Outbox

namespace Twalk

open Consent Store Cache

namespace Outbox

variable {kinds : String → String}

/-! ### Journals only grow -/

/-- A row stays what it is, but for the mark a row without one may be given. -/
def Continues (before after : JournalRow) : Prop :=
  after.sequence = before.sequence ∧
    (before.publishedAt.isSome = true → after = before)

theorem Continues.refl (row : JournalRow) : Continues row row := ⟨rfl, fun _ => rfl⟩

theorem Continues.trans {first second third : JournalRow} (early : Continues first second)
    (late : Continues second third) : Continues first third := by
  refine ⟨late.1.trans early.1, fun isMarked => ?_⟩
  have same := early.2 isMarked
  rw [same] at late
  exact late.2 isMarked

/-- The rows of one journal are the first rows of another. -/
def Grows (before after : Outbox) : Prop :=
  ∃ kept new, after.store.journal = kept ++ new ∧
    List.Forall₂ Continues before.store.journal kept

variable {before after : Outbox}

theorem Grows.of_eq (same : after.store.journal = before.store.journal) : Grows before after :=
  ⟨before.store.journal, [], by rw [same, List.append_nil],
    List.forall₂_same.mpr fun row _ => Continues.refl row⟩

theorem Grows.trans {first second third : Outbox} (early : Grows first second)
    (late : Grows second third) : Grows first third := by
  obtain ⟨keptEarly, newEarly, splitEarly, continuesEarly⟩ := early
  obtain ⟨keptLate, newLate, splitLate, continuesLate⟩ := late
  rw [splitEarly] at continuesLate
  obtain ⟨front, back, joined, frontContinues, -⟩ :=
    forall₂_append_split continuesLate
  refine ⟨front, back ++ newLate, ?_, ?_⟩
  · rw [splitLate, joined, List.append_assoc]
  · exact forall₂_trans Continues (fun _ _ _ => Continues.trans) continuesEarly frontContinues

theorem continues_markRow (sequence : Nat) (publishedAt : String) (position : Nat)
    (row : JournalRow) : Continues row (markRow sequence publishedAt position row) := by
  refine ⟨markRow_sequence sequence publishedAt position row, fun isMarked => ?_⟩
  refine if_neg fun both => ?_
  rw [both.2] at isMarked
  exact absurd isMarked Bool.false_ne_true

theorem grows_step (outbox : Outbox) (next : OutboxStep kinds) :
    Grows outbox (outbox.step next) := by
  cases next with
  | configure registry keeps =>
    exact Grows.of_eq (ConsentStore.journal_recordConnections outbox.store registry.connections)
  | record registry keeps accepted actor occurredAt domain producedAt burnt =>
    rcases ConsentStore.journal_afterRecord outbox.store accepted.decision actor occurredAt domain
      producedAt burnt with unchanged | appended
    · exact Grows.of_eq unchanged
    · exact ⟨outbox.store.journal, [_], appended,
        List.forall₂_same.mpr fun row _ => Continues.refl row⟩
  | fetch =>
    refine Grows.of_eq ?_
    simp only [Outbox.step]
    split <;> rfl
  | publish outcome =>
    refine Grows.of_eq ?_
    simp only [Outbox.step]
    split
    · cases outcome <;> rfl
    · rfl
  | mark publishedAt =>
    simp only [Outbox.step]
    split
    · rename_i row rest position _ _
      refine ⟨_, [], (List.append_nil _).symm, ?_⟩
      exact forall₂_map_right fun old _ => continues_markRow row.sequence publishedAt position old
    · exact Grows.of_eq rfl
  | crash => exact Grows.of_eq rfl
  | otherTraffic count => exact Grows.of_eq rfl

variable {outbox : Outbox}

theorem sound_step (sound : Sound kinds outbox.store) (next : OutboxStep kinds) :
    Sound kinds (outbox.step next).store := by
  cases next with
  | configure registry keeps => exact sound.recordConnections keeps
  | record registry keeps accepted actor occurredAt domain producedAt burnt =>
    exact sound.afterRecord keeps accepted actor occurredAt domain producedAt burnt
  | fetch =>
    simp only [Outbox.step]
    split <;> exact sound
  | publish outcome =>
    simp only [Outbox.step]
    split
    · cases outcome <;> exact sound
    · exact sound
  | mark publishedAt =>
    simp only [Outbox.step]
    split
    · exact sound.markPublished _ _ _
    · exact sound
  | crash => exact sound
  | otherTraffic count => exact sound

theorem owner_step (outbox : Outbox) (next : OutboxStep kinds) :
    (outbox.step next).store.owner = outbox.store.owner := by
  cases next with
  | configure registry keeps =>
    exact ConsentStore.owner_recordConnections outbox.store registry.connections
  | record registry keeps accepted actor occurredAt domain producedAt burnt =>
    exact ConsentStore.owner_afterRecord outbox.store accepted.decision actor occurredAt domain
      producedAt burnt
  | fetch =>
    simp only [Outbox.step]
    split <;> rfl
  | publish outcome =>
    simp only [Outbox.step]
    split
    · cases outcome <;> rfl
    · rfl
  | mark publishedAt =>
    simp only [Outbox.step]
    split <;> rfl
  | crash => rfl
  | otherTraffic count => rfl

theorem owner_run (owner : Twalk.Owner) (steps : List (OutboxStep kinds)) :
    (run Outbox.step (start owner) steps).store.owner = owner :=
  run_invariant (fun outbox : Outbox => outbox.store.owner = owner)
    (fun outbox next same => (owner_step outbox next).trans same) rfl steps

theorem grows_run (owner : Twalk.Owner) (steps later : List (OutboxStep kinds)) :
    (run Outbox.step (start owner) steps).Grows (run Outbox.step (start owner) (steps ++ later)) := by
  rw [run_append]
  exact run_relation Grows (fun _ => Grows.of_eq rfl) (fun _ _ _ => Grows.trans) grows_step _ later

theorem reachable (owner : Twalk.Owner) (steps : List (OutboxStep kinds)) :
    (run Outbox.step (start owner) steps).Aligned ∧
      Sound kinds (run Outbox.step (start owner) steps).store :=
  run_invariant (fun outbox : Outbox => outbox.Aligned ∧ Sound kinds outbox.store)
    (fun _ next holds => ⟨holds.1.step next, sound_step holds.2 next⟩)
    ⟨aligned_start owner, sound_fresh kinds owner⟩ steps

/-! ### Where a snapshot stops -/

variable {row : JournalRow}

section Alignment

variable {outbox : Outbox} {marked unmarked : List JournalRow}
  {messages pending : List (Message Json)}

theorem Alignment.positioned (aligned : outbox.Alignment marked unmarked messages pending)
    (member : row ∈ marked) : row.streamSequence.isSome = true := by
  obtain ⟨message, -, -, position, -⟩ := exists_result_of_forall₂ aligned.carried member
  rw [position]
  rfl

theorem Alignment.unpositioned (aligned : outbox.Alignment marked unmarked messages pending) :
    outbox.store.journal.filter (fun row => row.streamSequence.isNone) = unmarked := by
  have markedOut : marked.filter (fun row => row.streamSequence.isNone) = [] := by
    rw [List.filter_eq_nil_iff]
    intro row member isNone
    have isSome := aligned.positioned member
    rw [Option.isNone_iff_eq_none.mp isNone] at isSome
    exact absurd isSome Bool.false_ne_true
  have unmarkedIn : unmarked.filter (fun row => row.streamSequence.isNone) = unmarked := by
    rw [List.filter_eq_self]
    intro row member
    rw [(aligned.bare row member).2]
    rfl
  rw [aligned.journal, List.filter_append, markedOut, unmarkedIn, List.nil_append]

theorem Alignment.sequences (aligned : outbox.Alignment marked unmarked messages pending) :
    (marked ++ unmarked).Pairwise fun earlier later => earlier.sequence < later.sequence := by
  rw [← aligned.journal]
  exact outbox.store.ordered

theorem Alignment.horizon_of_cons (aligned : outbox.Alignment marked unmarked messages pending)
    {next : JournalRow} {rest : List JournalRow} (split : unmarked = next :: rest) :
    outbox.store.snapshotHorizon + 1 = next.sequence := by
  have smallest : (unmarked.map JournalRow.sequence).min? = some next.sequence := by
    rw [List.min?_eq_some_iff, split]
    refine ⟨List.mem_map_of_mem List.mem_cons_self, fun sequence member => ?_⟩
    obtain ⟨row, rowIn, rfl⟩ := List.mem_map.mp member
    rcases List.mem_cons.mp rowIn with rfl | inRest
    · exact Nat.le_refl _
    · have ordered := (List.pairwise_append.mp aligned.sequences).2.1
      rw [split] at ordered
      exact Nat.le_of_lt ((List.pairwise_cons.mp ordered).1 row inRest)
  have positive : 0 < next.sequence := outbox.store.started next (by
    rw [aligned.journal, split]
    exact List.mem_append_right _ List.mem_cons_self)
  unfold ConsentStore.snapshotHorizon
  rw [aligned.unpositioned, smallest]
  simp only
  omega

theorem Alignment.horizon_of_nil (aligned : outbox.Alignment marked unmarked messages pending)
    (done : unmarked = []) {front : List JournalRow} {last : JournalRow}
    (split : marked = front ++ [last]) : outbox.store.snapshotHorizon = last.sequence := by
  have greatest : (marked.map JournalRow.sequence).max? = some last.sequence := by
    rw [List.max?_eq_some_iff, split]
    refine ⟨List.mem_map_of_mem (List.mem_append_right _ (List.mem_singleton_self _)),
      fun sequence member => ?_⟩
    obtain ⟨row, rowIn, rfl⟩ := List.mem_map.mp member
    exact rank_le_end (split ▸ (List.pairwise_append.mp aligned.sequences).1) rowIn
  unfold ConsentStore.snapshotHorizon
  rw [aligned.unpositioned, aligned.journal, done, List.append_nil, greatest]
  rfl

theorem Alignment.sequence_le_horizon (aligned : outbox.Alignment marked unmarked messages pending)
    (member : row ∈ marked) : row.sequence ≤ outbox.store.snapshotHorizon := by
  cases rest : unmarked with
  | nil =>
    obtain ⟨front, last, split⟩ :=
      (List.eq_nil_or_concat' marked).resolve_left (List.ne_nil_of_mem member)
    rw [aligned.horizon_of_nil rest split]
    exact rank_le_end (split ▸ (List.pairwise_append.mp aligned.sequences).1) (split ▸ member)
  | cons next others =>
    have before := (List.pairwise_append.mp aligned.sequences).2.2 row member next
      (by rw [rest]; exact List.mem_cons_self)
    have horizon := aligned.horizon_of_cons rest
    omega

theorem Alignment.horizon_lt_sequence (aligned : outbox.Alignment marked unmarked messages pending)
    (member : row ∈ unmarked) : outbox.store.snapshotHorizon < row.sequence := by
  obtain ⟨next, rest, split⟩ := List.exists_cons_of_ne_nil (List.ne_nil_of_mem member)
  have horizon := aligned.horizon_of_cons split
  have ordered := (List.pairwise_append.mp aligned.sequences).2.1
  rw [split] at member ordered
  rcases List.mem_cons.mp member with rfl | inRest
  · omega
  · have after := (List.pairwise_cons.mp ordered).1 row inRest
    omega

theorem Alignment.reflected_eq (aligned : outbox.Alignment marked unmarked messages pending) :
    reflected outbox.store = marked := by
  unfold reflected
  have markedIn : marked.filter
      (fun row => decide (row.sequence ≤ outbox.store.snapshotHorizon)) = marked := by
    rw [List.filter_eq_self]
    exact fun row member => decide_eq_true (aligned.sequence_le_horizon member)
  have unmarkedOut : unmarked.filter
      (fun row => decide (row.sequence ≤ outbox.store.snapshotHorizon)) = [] := by
    rw [List.filter_eq_nil_iff]
    intro row member
    rw [decide_eq_true_eq]
    exact Nat.not_le.mpr (aligned.horizon_lt_sequence member)
  rw [aligned.journal, List.filter_append, markedIn, unmarkedOut, List.append_nil]

theorem Alignment.horizonPosition_of_eq
    (aligned : outbox.Alignment marked unmarked messages pending) {last : JournalRow}
    {message : Message Json} (member : last ∈ marked) (carries : Carries last message)
    (same : last.sequence = outbox.store.snapshotHorizon) :
    outbox.store.horizonPosition = message.position := by
  have inJournal : last ∈ outbox.store.journal := by
    rw [aligned.journal]
    exact List.mem_append_left _ member
  unfold ConsentStore.horizonPosition
  cases found : outbox.store.journal.find?
      fun row => row.sequence == outbox.store.snapshotHorizon with
  | none =>
    have absent := List.find?_eq_none.mp found last inJournal
    exact absurd (beq_iff_eq.mpr same) absent
  | some row =>
    have named : row.sequence = outbox.store.snapshotHorizon := eq_of_beq (List.find?_some found :)
    have isLast := eq_of_rank_eq outbox.store.ordered (List.mem_of_find?_eq_some found) inJournal
      (named.trans same.symm)
    simp only [isLast, carries.2.1, Option.getD_some]

theorem Alignment.horizonPosition_of_ne
    (aligned : outbox.Alignment marked unmarked messages pending)
    (unnamed : ∀ row ∈ marked, row.sequence ≠ outbox.store.snapshotHorizon) :
    outbox.store.horizonPosition = 0 := by
  have absent : outbox.store.journal.find?
      (fun row => row.sequence == outbox.store.snapshotHorizon) = none := by
    rw [List.find?_eq_none, aligned.journal]
    intro row member
    rw [beq_iff_eq]
    rcases List.mem_append.mp member with inMarked | inUnmarked
    · exact unnamed row inMarked
    · exact Nat.ne_of_gt (aligned.horizon_lt_sequence inUnmarked)
  unfold ConsentStore.horizonPosition
  rw [absent]

/-! ### Missing sequences -/

/-- Where the rows with a position end and one without follows, its sequence is the next. -/
def NoGapAtHorizon (store : ConsentStore) : Prop :=
  ∀ last next, [last, next] <:+: store.journal → last.streamSequence.isSome = true →
    next.streamSequence = none → next.sequence = last.sequence + 1

theorem Alignment.noGap_iff (aligned : outbox.Alignment marked unmarked messages pending) :
    NoGapAtHorizon outbox.store ↔ ∀ front last next rest,
      marked = front ++ [last] → unmarked = next :: rest → next.sequence = last.sequence + 1 := by
  constructor
  · intro noGap front last next rest isMarked isUnmarked
    have inMarked : last ∈ marked := by
      rw [isMarked]
      exact List.mem_append_right _ (List.mem_singleton_self _)
    have inUnmarked : next ∈ unmarked := by
      rw [isUnmarked]
      exact List.mem_cons_self
    refine noGap last next ⟨front, rest, ?_⟩ (aligned.positioned inMarked)
      (aligned.bare next inUnmarked).2
    rw [aligned.journal, isMarked, isUnmarked]
    simp
  · rintro follows last next ⟨before, after, split⟩ positioned unpositioned
    have joined : marked ++ unmarked = (before ++ [last]) ++ (next :: after) := by
      rw [← aligned.journal, ← split]
      simp
    have notMarked : next ∉ marked := fun member => by
      have isSome := aligned.positioned member
      rw [unpositioned] at isSome
      exact absurd isSome Bool.false_ne_true
    have notUnmarked : last ∉ unmarked := fun member => by
      rw [(aligned.bare last member).2] at positioned
      exact absurd positioned Bool.false_ne_true
    rcases List.append_eq_append_iff.mp joined with ⟨between, isMarked, isUnmarked⟩ |
      ⟨between, isMarked, isUnmarked⟩
    · rcases List.eq_nil_or_concat' between with rfl | ⟨others, final, rfl⟩
      · exact follows before last next after (by simpa using isMarked.symm) isUnmarked
      · rw [← List.append_assoc] at isMarked
        obtain ⟨-, same⟩ := List.append_inj' isMarked rfl
        rw [List.singleton_inj.mp same] at notUnmarked
        exact absurd (by rw [isUnmarked]; simp) notUnmarked
    · cases between with
      | nil => exact follows before last next after (by simpa using isMarked) isUnmarked.symm
      | cons first others =>
        obtain ⟨rfl, -⟩ := List.cons.inj isUnmarked
        exact absurd (by rw [isMarked]; simp) notMarked

end Alignment

variable {messages pending : List (Message Json)} {marked unmarked : List JournalRow}

theorem Alignment.position_cases (aligned : outbox.Alignment marked unmarked messages pending) :
    (NoGapAtHorizon outbox.store ∧
      (∀ message ∈ messages, message.position ≤ outbox.store.horizonPosition) ∧
      (outbox.store.horizonPosition = 0 ∨
        ∃ message ∈ messages, message.position = outbox.store.horizonPosition)) ∨
    (¬NoGapAtHorizon outbox.store ∧ outbox.store.horizonPosition = 0 ∧ marked ≠ []) := by
  rcases List.eq_nil_or_concat' marked with rfl | ⟨front, last, split⟩
  · have noMessage : messages = [] := List.forall₂_nil_left_iff.mp aligned.carried
    refine Or.inl ⟨aligned.noGap_iff.mpr ?_, ?_, Or.inl ?_⟩
    · intro front last next rest impossible
      simp at impossible
    · rw [noMessage]
      exact fun message member => absurd member List.not_mem_nil
    · exact aligned.horizonPosition_of_ne fun row member => absurd member List.not_mem_nil
  · have lastIn : last ∈ marked := by
      rw [split]
      exact List.mem_append_right _ (List.mem_singleton_self _)
    have carried := aligned.carried
    rw [split] at carried
    obtain ⟨earlier, final, messagesSplit, -, lastCarried⟩ := forall₂_append_split carried
    obtain ⟨message, isFinal, carries⟩ :=
      exists_result_of_forall₂ lastCarried (List.mem_singleton_self last)
    obtain rfl : final = [message] := by
      cases lastCarried with
      | cons _ none =>
        cases none
        rw [List.mem_singleton.mp isFinal]
    by_cases named : last.sequence = outbox.store.snapshotHorizon
    · have position := aligned.horizonPosition_of_eq lastIn carries named
      have ordered := outbox.bus.ordered
      rw [aligned.stream, messagesSplit] at ordered
      refine Or.inl ⟨aligned.noGap_iff.mpr ?_, fun other member => ?_, Or.inr ⟨message, ?_, ?_⟩⟩
      · intro front' last' next rest isMarked isUnmarked
        obtain ⟨-, same⟩ := List.append_inj' (split.symm.trans isMarked) rfl
        obtain rfl := List.singleton_inj.mp same
        have horizon := aligned.horizon_of_cons isUnmarked
        omega
      · rw [position]
        exact rank_le_end (List.pairwise_append.mp ordered).1 (messagesSplit ▸ member)
      · rw [messagesSplit]
        exact List.mem_append_right _ (List.mem_singleton_self _)
      · exact position.symm
    · obtain ⟨next, rest, isUnmarked⟩ : ∃ next rest, unmarked = next :: rest := by
        cases isUnmarked : unmarked with
        | nil => exact absurd (aligned.horizon_of_nil isUnmarked split).symm named
        | cons next rest => exact ⟨next, rest, rfl⟩
      have horizon := aligned.horizon_of_cons isUnmarked
      have below := aligned.sequence_le_horizon lastIn
      refine Or.inr ⟨fun noGap => ?_, ?_, List.ne_nil_of_mem lastIn⟩
      · have follows := aligned.noGap_iff.mp noGap front last next rest split isUnmarked
        omega
      · refine aligned.horizonPosition_of_ne fun row member => ?_
        have before := rank_le_end (split ▸ (List.pairwise_append.mp aligned.sequences).1)
          (split ▸ member)
        omega

/-! ### What a drained outbox has told the stream -/

theorem Alignment.of_drained (aligned : outbox.Alignment marked unmarked messages pending)
    (drained : outbox.Drained) :
    unmarked = [] ∧ pending = [] := by
  have noneLeft : unmarked = [] := by
    cases isUnmarked : unmarked with
    | nil => rfl
    | cons row rest =>
      have isMarked := drained row (by
        rw [aligned.journal, isUnmarked]
        exact List.mem_append_right _ List.mem_cons_self)
      rw [(aligned.bare row (by rw [isUnmarked]; exact List.mem_cons_self)).1] at isMarked
      exact absurd isMarked Bool.false_ne_true
  refine ⟨noneLeft, ?_⟩
  rcases aligned.next with nonePending | ⟨row, rest, _, split, -⟩
  · exact nonePending
  · rw [noneLeft] at split
    cases split

theorem eq_of_continues {rows kept : List JournalRow}
    (continues : List.Forall₂ Continues rows kept)
    (isMarked : ∀ row ∈ rows, row.publishedAt.isSome = true) : kept = rows := by
  induction continues with
  | nil => rfl
  | cons head _ inductionHypothesis =>
    rw [head.2 (isMarked _ List.mem_cons_self),
      inductionHypothesis fun row member => isMarked row (List.mem_cons_of_mem _ member)]

def Says (row : JournalRow) (message : Message Json) : Prop := message.payload = row.envelope

theorem Carries.said {message : Message Json} (carries : Carries row message) :
    Says row message := carries.2.2.2

theorem map_payload_of_said {rows : List JournalRow} {said : List (Message Json)}
    (told : List.Forall₂ Says rows said) :
    said.map Message.payload = rows.map JournalRow.envelope := by
  induction told with
  | nil => rfl
  | cons head _ inductionHypothesis =>
    rw [List.map_cons, List.map_cons, head, inductionHypothesis]

theorem message_eq_of_carries {first second : Message Json} (one : Carries row first)
    (other : Carries row second) : first = second := by
  obtain ⟨firstPosition, firstId, firstPayload⟩ := first
  obtain ⟨secondPosition, secondId, secondPayload⟩ := second
  obtain rfl : firstPosition = secondPosition := Option.some.inj (one.2.1.symm.trans other.2.1)
  obtain rfl : firstId = secondId := one.2.2.1.trans other.2.2.1.symm
  obtain rfl : firstPayload = secondPayload := one.2.2.2.trans other.2.2.2.symm
  rfl

/-- Once the outbox is drained, the journal and the stream are what they were marked up to,
followed by rows and messages that run side by side. -/
theorem Alignment.exists_tail (aligned : before.Alignment marked unmarked messages pending)
    (grows : before.Grows after) (later : after.Aligned) (drained : after.Drained) :
    ∃ tail rest, after.store.journal = marked ++ tail ∧ after.bus.messages = messages ++ rest ∧
      List.Forall₂ Carries tail rest ∧
      ∀ next others, unmarked = next :: others → ∃ head behind,
        tail = head :: behind ∧ head.sequence = next.sequence := by
  obtain ⟨kept, new, journal, continues⟩ := grows
  obtain ⟨allMarked, allUnmarked, allMessages, allPending, later⟩ := later
  obtain ⟨rfl, rfl⟩ := later.of_drained drained
  rw [aligned.journal] at continues
  obtain ⟨keptMarked, keptUnmarked, rfl, markedKept, unmarkedKept⟩ :=
    forall₂_append_split continues
  obtain rfl : keptMarked = marked := eq_of_continues markedKept fun row member => by
    obtain ⟨_, -, isMarked, -⟩ := exists_result_of_forall₂ aligned.carried member
    exact isMarked
  have wholeJournal := later.journal
  rw [List.append_nil, journal, List.append_assoc] at wholeJournal
  have carried := later.carried
  rw [← wholeJournal] at carried
  obtain ⟨firstMessages, rest, rfl, markedCarried, tailCarried⟩ := forall₂_append_split carried
  have functional : Relator.RightUnique Carries := fun _ _ _ => message_eq_of_carries
  obtain rfl : firstMessages = messages :=
    List.right_unique_forall₂' functional markedCarried aligned.carried
  refine ⟨keptUnmarked ++ new, rest, by rw [journal, List.append_assoc],
    by rw [later.stream, List.append_nil], tailCarried, fun next others split => ?_⟩
  rw [split] at unmarkedKept
  cases unmarkedKept with
  | cons head behind => exact ⟨_, _, rfl, head.1⟩

theorem Alignment.exists_told (aligned : before.Alignment marked unmarked messages pending)
    (grows : before.Grows after) (later : after.Aligned) :
    ∃ tail rest, (∀ row ∈ marked ++ tail, row ∈ after.store.journal) ∧
      after.bus.messages = messages ++ rest ∧ List.Forall₂ Says tail rest := by
  obtain ⟨kept, new, journal, continues⟩ := grows
  obtain ⟨allMarked, allUnmarked, allMessages, allPending, later⟩ := later
  rw [aligned.journal] at continues
  obtain ⟨keptMarked, keptUnmarked, rfl, markedKept, -⟩ := forall₂_append_split continues
  obtain rfl : keptMarked = marked := eq_of_continues markedKept fun row member => by
    obtain ⟨_, -, isMarked, -⟩ := exists_result_of_forall₂ aligned.carried member
    exact isMarked
  have joined : allMarked ++ allUnmarked = keptMarked ++ (keptUnmarked ++ new) := by
    rw [← later.journal, journal, List.append_assoc]
  obtain ⟨between, isMarked⟩ : ∃ between, allMarked = keptMarked ++ between := by
    rcases List.append_eq_append_iff.mp joined with ⟨between, isKept, isUnmarked⟩ |
      ⟨between, isMarked, -⟩
    · cases between with
      | nil => exact ⟨[], by rw [isKept, List.append_nil, List.append_nil]⟩
      | cons row others =>
        have bare := (later.bare row (isUnmarked ▸ List.mem_cons_self)).1
        obtain ⟨_, -, isMarked, -⟩ := exists_result_of_forall₂ aligned.carried
          (isKept ▸ List.mem_append_right _ List.mem_cons_self)
        rw [bare] at isMarked
        exact absurd isMarked Bool.false_ne_true
    · exact ⟨between, isMarked⟩
  have carried := later.carried
  rw [isMarked] at carried
  obtain ⟨first, others, isMessages, firstCarried, restCarried⟩ := forall₂_append_split carried
  have functional : Relator.RightUnique Carries := fun _ _ _ => message_eq_of_carries
  obtain rfl : first = messages :=
    List.right_unique_forall₂' functional firstCarried aligned.carried
  obtain ⟨next, nextIn, announced⟩ : ∃ next, (∀ row ∈ next, row ∈ allUnmarked) ∧
      List.Forall₂ Says next allPending := by
    rcases later.next with nothing | ⟨row, _, message, isUnmarked, isPending, announces⟩
    · exact ⟨[], fun _ member => absurd member List.not_mem_nil, nothing ▸ .nil⟩
    · refine ⟨[row], fun other member => ?_, isPending ▸ .cons announces.2 .nil⟩
      rw [List.mem_singleton.mp member, isUnmarked]
      exact List.mem_cons_self
  refine ⟨between ++ next, others ++ allPending, fun row member => ?_, ?_,
    List.rel_append (restCarried.imp fun _ _ => Carries.said) announced⟩
  · rw [later.journal, isMarked]
    rw [← List.append_assoc] at member
    exact List.mem_append.mpr ((List.mem_append.mp member).imp_right (nextIn row))
  · rw [later.stream, isMessages, List.append_assoc]

/-! ### The hand-off -/

/-- What a consumer does at a cold start: apply the snapshot, then follow the stream from the
position it names. -/
def handOff (cache : ConsentCache) (document : Cache.Snapshot) (stream : MessageStream Json) :
    ConsentCache :=
  (cache.applySnapshot document).follow
    ((stream.messagesFrom document.nextStreamSequence).map Message.payload)

def fromJournal (cache : ConsentCache) (store : ConsentStore) : ConsentCache :=
  ConsentCache.follow { cache with states := States.empty }
    (store.journal.map JournalRow.envelope)

def CoveredOnce (served : Store.Snapshot) (row : JournalRow) : Prop :=
  let bySnapshot := row.sequence ≤ served.decisionSequence
  let byStream := ∃ position,
    row.streamSequence = some position ∧ served.streamSequence + 1 ≤ position
  (bySnapshot ∨ byStream) ∧ ¬(bySnapshot ∧ byStream)

variable {maxEntries : Nat}

section HandOff

variable {before after : Outbox} {marked unmarked tail : List JournalRow}
  {messages pending rest : List (Message Json)}

theorem Alignment.handed_over (aligned : before.Alignment marked unmarked messages pending)
    (stream : after.bus.messages = messages ++ rest)
    (told : List.Forall₂ Says tail rest) :
    let handed := (after.bus.messagesFrom (before.store.horizonPosition + 1)).map Message.payload
    (NoGapAtHorizon before.store ∧ handed = tail.map JournalRow.envelope) ∨
      (¬NoGapAtHorizon before.store ∧ handed = (marked ++ tail).map JournalRow.envelope) := by
  intro handed
  have ordered := after.bus.ordered
  rw [stream] at ordered
  have filtered : handed = ((messages ++ rest).filter fun message =>
      before.store.horizonPosition + 1 ≤ message.position).map Message.payload := by
    rw [← stream]
    rfl
  rcases aligned.position_cases with ⟨noGap, below, named⟩ | ⟨gap, zero, -⟩
  · have dropped : messages.filter
        (fun message => decide (before.store.horizonPosition + 1 ≤ message.position)) = [] := by
      rw [List.filter_eq_nil_iff]
      intro message member
      rw [decide_eq_true_eq]
      exact Nat.not_le.mpr (Nat.lt_succ_of_le (below message member))
    have kept : rest.filter
        (fun message => decide (before.store.horizonPosition + 1 ≤ message.position)) = rest := by
      rw [List.filter_eq_self]
      intro message member
      rw [decide_eq_true_eq]
      rcases named with zero | ⟨last, lastIn, position⟩
      · rw [zero]
        exact after.bus.positive message (by rw [stream]; exact List.mem_append_right _ member)
      · rw [← position]
        exact (List.pairwise_append.mp ordered).2.2 last lastIn message member
    rw [List.filter_append, dropped, kept, List.nil_append] at filtered
    exact Or.inl ⟨noGap, filtered.trans (map_payload_of_said told)⟩
  · have kept : ∀ message ∈ messages ++ rest,
        decide (before.store.horizonPosition + 1 ≤ message.position) = true := by
      intro message member
      rw [zero, decide_eq_true_eq]
      exact after.bus.positive message (by rw [stream]; exact member)
    rw [List.filter_eq_self.mpr kept] at filtered
    exact Or.inr ⟨gap, filtered.trans (map_payload_of_said
      (List.rel_append (aligned.carried.imp fun _ _ => Carries.said) told))⟩

variable {served : Store.Snapshot}

theorem states_of_snapshot_and_rows {store : ConsentStore} (sound : Sound kinds store)
    (answered : store.snapshot maxEntries = .ok served) (reflects : reflected store = marked)
    {told : List JournalRow} (tells : told = tail ∨ told = marked ++ tail) (cache : ConsentCache) :
    (told.flatMap rowEntries).foldl cache.take
        ((readSnapshot served).entries.foldl cache.take States.empty) =
      ((marked ++ tail).flatMap rowEntries).foldl cache.take States.empty := by
  have joined : ∀ concerns : JournalRow → Bool,
      (latest concerns told).or (latest concerns marked) = latest concerns (marked ++ tail) := by
    intro concerns
    rcases tells with rfl | rfl
    · exact (latest_append concerns marked told).symm
    · exact latest_or_latest_prefix concerns marked tail
  refine ConsentCache.states_ext (fun id connection => ?_) fun connection => ?_
  · rw [ConsentCache.contacts_foldl_take, ConsentCache.contacts_foldl_take,
      ConsentCache.contacts_foldl_take, latest_contact_rowEntries, latest_contact_rowEntries,
      latest_contact_snapshot sound answered, reflects, ← joined, Option.map_or, Option.or_assoc]
  · rw [ConsentCache.defaults_foldl_take, ConsentCache.defaults_foldl_take,
      ConsentCache.defaults_foldl_take, latest_default_rowEntries, latest_default_rowEntries,
      latest_default_snapshot sound answered, reflects, ← joined, Option.map_or, Option.or_assoc]

theorem Alignment.handOff_states (aligned : before.Alignment marked unmarked messages pending)
    (soundBefore : Sound kinds before.store) (soundAfter : Sound kinds after.store)
    (journal : after.store.journal = marked ++ tail)
    (stream : after.bus.messages = messages ++ rest) (carried : List.Forall₂ Carries tail rest)
    (answered : before.store.snapshot maxEntries = .ok served) (cache : ConsentCache) :
    (handOff cache (readSnapshot served) after.bus).states =
      (fromJournal cache after.store).states := by
  have soundRows : ∀ row ∈ marked ++ tail, SoundRow kinds after.store.owner row :=
    fun row member => soundAfter.rows row (journal ▸ member)
  have whole : (fromJournal cache after.store).states =
      ((marked ++ tail).flatMap rowEntries).foldl cache.take States.empty := by
    unfold fromJournal
    rw [journal, follow_envelopes soundRows]
    rfl
  obtain ⟨-, -, position⟩ := ConsentStore.snapshot_eq_ok answered
  have handed := aligned.handed_over stream (carried.imp fun _ _ => Carries.said)
  rw [← position] at handed
  rw [whole]
  unfold handOff
  rcases handed with ⟨-, isTail⟩ | ⟨-, isWhole⟩
  · rw [show (readSnapshot served).nextStreamSequence = served.streamSequence + 1 from rfl, isTail,
      follow_envelopes fun row member => soundRows row (List.mem_append_right _ member)]
    exact states_of_snapshot_and_rows soundBefore answered aligned.reflected_eq (Or.inl rfl) cache
  · rw [show (readSnapshot served).nextStreamSequence = served.streamSequence + 1 from rfl,
      isWhole, follow_envelopes soundRows]
    exact states_of_snapshot_and_rows soundBefore answered aligned.reflected_eq (Or.inr rfl) cache

theorem Alignment.horizon_lt_tail (aligned : before.Alignment marked unmarked messages pending)
    (journal : after.store.journal = marked ++ tail)
    (continued : ∀ next others, unmarked = next :: others → ∃ head behind,
      tail = head :: behind ∧ head.sequence = next.sequence) (member : row ∈ tail) :
    before.store.snapshotHorizon < row.sequence := by
  have ordered := after.store.ordered
  rw [journal] at ordered
  cases isUnmarked : unmarked with
  | cons next others =>
    have horizon := aligned.horizon_of_cons isUnmarked
    obtain ⟨head, behind, rfl, same⟩ := continued next others isUnmarked
    rcases List.mem_cons.mp member with rfl | inBehind
    · omega
    · have later := (List.pairwise_cons.mp (List.pairwise_append.mp ordered).2.1).1 row inBehind
      omega
  | nil =>
    rcases List.eq_nil_or_concat' marked with rfl | ⟨front, last, split⟩
    · have empty : before.store.journal = [] := by rw [aligned.journal, isUnmarked]; rfl
      have zero : before.store.snapshotHorizon = 0 := by
        unfold ConsentStore.snapshotHorizon
        rw [empty]
        rfl
      rw [zero]
      exact after.store.started row (by rw [journal]; exact List.mem_append_right _ member)
    · rw [aligned.horizon_of_nil isUnmarked split]
      exact (List.pairwise_append.mp ordered).2.2 last
        (by rw [split]; exact List.mem_append_right _ (List.mem_singleton_self _)) row member

theorem Alignment.coveredOnce_iff (aligned : before.Alignment marked unmarked messages pending)
    (journal : after.store.journal = marked ++ tail)
    (stream : after.bus.messages = messages ++ rest) (carried : List.Forall₂ Carries tail rest)
    (continued : ∀ next others, unmarked = next :: others → ∃ head behind,
      tail = head :: behind ∧ head.sequence = next.sequence)
    (answered : before.store.snapshot maxEntries = .ok served) :
    (∀ row ∈ after.store.journal, CoveredOnce served row) ↔ NoGapAtHorizon before.store := by
  obtain ⟨-, horizon, position⟩ := ConsentStore.snapshot_eq_ok answered
  have ordered := after.bus.ordered
  rw [stream] at ordered
  have positive : ∀ message ∈ messages ++ rest, 0 < message.position :=
    fun message member => after.bus.positive message (stream ▸ member)
  rcases aligned.position_cases with ⟨noGap, below, named⟩ | ⟨gap, zero, someMarked⟩
  · refine ⟨fun _ => noGap, fun _ row member => ?_⟩
    unfold CoveredOnce
    rw [horizon, position]
    rcases List.mem_append.mp (journal ▸ member) with inMarked | inTail
    · obtain ⟨message, messageIn, -, isPosition, -⟩ :=
        exists_result_of_forall₂ aligned.carried inMarked
      refine ⟨Or.inl (aligned.sequence_le_horizon inMarked), fun both => ?_⟩
      obtain ⟨other, isOther, after⟩ := both.2
      have same := Option.some.inj (isPosition.symm.trans isOther)
      have bound := below message messageIn
      omega
    · obtain ⟨message, messageIn, -, isPosition, -⟩ := exists_result_of_forall₂ carried inTail
      have above : before.store.horizonPosition + 1 ≤ message.position := by
        rcases named with zero | ⟨last, lastIn, isLast⟩
        · rw [zero]
          exact positive message (List.mem_append_right _ messageIn)
        · rw [← isLast]
          exact (List.pairwise_append.mp ordered).2.2 last lastIn message messageIn
      have past := aligned.horizon_lt_tail journal continued inTail
      exact ⟨Or.inr ⟨message.position, isPosition, above⟩, fun both => by omega⟩
  · refine ⟨fun covered => ?_, fun noGap => absurd noGap gap⟩
    obtain ⟨row, others, isMarked⟩ := List.exists_cons_of_ne_nil someMarked
    have inMarked : row ∈ marked := by rw [isMarked]; exact List.mem_cons_self
    obtain ⟨message, messageIn, -, isPosition, -⟩ :=
      exists_result_of_forall₂ aligned.carried inMarked
    have once := covered row (by rw [journal]; exact List.mem_append_left _ inMarked)
    unfold CoveredOnce at once
    rw [horizon, position, zero] at once
    exact absurd ⟨aligned.sequence_le_horizon inMarked, message.position, isPosition,
      positive message (List.mem_append_left _ messageIn)⟩ once.2

end HandOff

/-- From any moment a snapshot is read at to any drained moment after it, the hand-off leaves
every cache in the state of the whole journal; and it does so handing over each decision once
exactly when no sequence was missing where the rows with a position ended. -/
theorem handOff_iff (owner : Twalk.Owner) (steps later : List (OutboxStep kinds))
    (maxEntries : Nat) (served : Store.Snapshot) (registry : Registry)
    (document : Cache.Snapshot) (cache : ConsentCache)
    (answered : (run Outbox.step (start owner) steps).store.snapshot maxEntries = .ok served)
    (parsed : Cache.Snapshot.parse (snapshotJson served owner registry) = some document)
    (drained : (run Outbox.step (start owner) (steps ++ later)).Drained) :
    let before := run Outbox.step (start owner) steps
    let after := run Outbox.step (start owner) (steps ++ later)
    ((handOff cache document after.bus).states = (fromJournal cache after.store).states ∧
      ∀ row ∈ after.store.journal, CoveredOnce served row) ↔ NoGapAtHorizon before.store := by
  intro before after
  obtain ⟨⟨marked, unmarked, messages, pending, aligned⟩, soundBefore⟩ := reachable owner steps
  obtain ⟨alignedAfter, soundAfter⟩ := reachable owner (steps ++ later)
  obtain ⟨tail, rest, journal, stream, carried, continued⟩ :=
    aligned.exists_tail (grows_run owner steps later) alignedAfter drained
  obtain rfl : document = readSnapshot served := by
    rw [parse_snapshotJson (snapshot_named soundBefore answered)] at parsed
    exact (Option.some.inj parsed).symm
  have states := aligned.handOff_states soundBefore soundAfter journal stream carried answered cache
  rw [← aligned.coveredOnce_iff journal stream carried continued answered]
  exact ⟨fun both => both.2, fun covered => ⟨states, covered⟩⟩

/-! ### A burnt sequence at the horizon -/

namespace BurntSequence

def owner : Twalk.Owner := Twalk.Owner.new "@michel:example.com" []

def registry : Registry where
  connections := [⟨"whatsapp", "whatsapp", "WhatsApp", none, none⟩]
  kindsKnown := by decide
  idsValid := by decide
  idsDistinct := by decide

theorem keeps : registry.Keeps fun _ => "whatsapp" := by
  intro connection member
  rw [List.mem_singleton.mp member]

def grantBody (contact : String) : Json :=
  .object [
    ("subject", .object [("type", .string "contact"), ("id", .string contact)]),
    ("new_state", .string "granted"),
    ("scope", .object [("connections", .array [.string "whatsapp"])])]

def alice : Accepted registry :=
  (accept registry (grantBody "@alice:example.com")).toOption.get (by decide)

def bob : Accepted registry :=
  (accept registry (grantBody "@bob:example.com")).toOption.get (by decide)

def record (accepted : Accepted registry) (occurredAt : String) (burnt : Nat) :
    OutboxStep fun _ => "whatsapp" :=
  .record registry keeps accepted "@michel:example.com" occurredAt "example.com" occurredAt burnt

def oneDecision : List (OutboxStep fun _ => "whatsapp") :=
  [.configure registry keeps, record alice "2026-01-01T00:00:00Z" 0, .fetch,
    .publish .acknowledged, .mark "2026-01-01T00:00:01Z"]

/-- One decision sent twice, which burns a sequence, and another one behind it; the first is
published and the second still waits. -/
def sentTwice : List (OutboxStep fun _ => "whatsapp") :=
  [.configure registry keeps, record alice "2026-01-01T00:00:00Z" 0,
    record alice "2026-01-01T00:00:00Z" 0, record bob "2026-01-01T00:00:01Z" 1, .fetch,
    .publish .acknowledged, .mark "2026-01-01T00:00:02Z"]

def thenDrained : List (OutboxStep fun _ => "whatsapp") :=
  [.publish .acknowledged, .mark "2026-01-01T00:00:03Z"]

theorem exists_snapshot {steps : List (OutboxStep fun _ => "whatsapp")}
    (serves : ((run Outbox.step (start owner) steps).store.snapshot
      maxEntries).toOption.isSome = true) :
    ∃ served, (run Outbox.step (start owner) steps).store.snapshot maxEntries = .ok served ∧
      Cache.Snapshot.parse (snapshotJson served owner registry) = some (readSnapshot served) := by
  cases answered : (run Outbox.step (start owner) steps).store.snapshot maxEntries with
  | error refusal =>
    rw [answered] at serves
    exact absurd serves Bool.false_ne_true
  | ok served =>
    exact ⟨served, rfl, parse_snapshotJson (snapshot_named (reachable owner steps).2 answered)
      owner registry⟩

set_option maxRecDepth 10000 in
theorem handOff_of_oneDecision :
    ∃ served document,
      (run Outbox.step (start owner) oneDecision).store.snapshot 10 = .ok served ∧
      (handOff (ConsentCache.forPeopleOnly none []) document
        (run Outbox.step (start owner) (oneDecision ++ [])).bus).states =
          (fromJournal (ConsentCache.forPeopleOnly none [])
            (run Outbox.step (start owner) (oneDecision ++ [])).store).states ∧
      ∀ row ∈ (run Outbox.step (start owner) (oneDecision ++ [])).store.journal,
        CoveredOnce served row := by
  obtain ⟨served, answered, parsed⟩ := exists_snapshot (by decide :
    ((run Outbox.step (start owner) oneDecision).store.snapshot 10).toOption.isSome = true)
  have noGap : NoGapAtHorizon (run Outbox.step (start owner) oneDecision).store := by
    intro last next pair
    have single : (run Outbox.step (start owner) oneDecision).store.journal.length = 1 := by
      decide
    have long := pair.length_le
    rw [single] at long
    exact absurd long (by simp)
  have drained : (run Outbox.step (start owner) (oneDecision ++ [])).Drained := by
    unfold Outbox.Drained
    decide
  exact ⟨served, readSnapshot served, answered,
    (handOff_iff owner oneDecision [] 10 served registry (readSnapshot served)
      (ConsentCache.forPeopleOnly none []) answered parsed drained).mpr noGap⟩

set_option maxRecDepth 10000 in
/-- The snapshot holds the first decision and names position zero, so the stream hands the
decision over again. -/
theorem covered_twice_after_replay :
    ¬∀ (kinds : String → String) (owner : Twalk.Owner) (steps later : List (OutboxStep kinds))
      (maxEntries : Nat) (served : Store.Snapshot) (registry : Registry)
      (document : Cache.Snapshot) (cache : ConsentCache),
      (run Outbox.step (start owner) steps).store.snapshot maxEntries = .ok served →
      Cache.Snapshot.parse (snapshotJson served owner registry) = some document →
      (run Outbox.step (start owner) (steps ++ later)).Drained →
      (handOff cache document (run Outbox.step (start owner) (steps ++ later)).bus).states =
        (fromJournal cache (run Outbox.step (start owner) (steps ++ later)).store).states ∧
      ∀ row ∈ (run Outbox.step (start owner) (steps ++ later)).store.journal,
        CoveredOnce served row := by
  intro always
  obtain ⟨served, answered, parsed⟩ := exists_snapshot (by decide +kernel :
    ((run Outbox.step (start owner) sentTwice).store.snapshot 10).toOption.isSome = true)
  have drained : (run Outbox.step (start owner) (sentTwice ++ thenDrained)).Drained := by
    unfold Outbox.Drained
    decide +kernel
  have once := (always _ owner sentTwice thenDrained 10 served registry _
    (ConsentCache.forPeopleOnly none []) answered parsed drained).2
  obtain ⟨-, horizon, position⟩ := ConsentStore.snapshot_eq_ok answered
  have isHorizon : (run Outbox.step (start owner) sentTwice).store.snapshotHorizon = 2 := by
    decide +kernel
  have isPosition : (run Outbox.step (start owner) sentTwice).store.horizonPosition = 0 := by
    decide +kernel
  have firstRow : ∃ row ∈ (run Outbox.step (start owner) (sentTwice ++ thenDrained)).store.journal,
      row.sequence = 1 ∧ row.streamSequence = some 1 := by
    decide +kernel
  obtain ⟨row, member, isFirst, isStored⟩ := firstRow
  have covered := once row member
  unfold CoveredOnce at covered
  rw [horizon, position, isHorizon, isPosition, isFirst] at covered
  exact covered.2 ⟨by decide, 1, isStored, by decide⟩

end BurntSequence

end Outbox

end Twalk
