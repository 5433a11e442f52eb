/-
This file settles what the Gateway believes of a connection. Its journal is read by the order in
which it recorded the transitions, not by the order in which the collector published them. A batch
that fails is handed out again after newer messages, so an older transition can be recorded last
and stay the current one. Where no transition is recorded behind a later one about its connection,
and no id is published for two, the Gateway believes the last that was said.
-/

import Twalk.ConnectionStatuses
import Twalk.Library.System

namespace Twalk

open Approval

namespace ConnectionStatus

/-! ### What the bus says -/

/-- The transitions on the stream, those that can be read. -/
def World.bus (world : World) : List Change := world.stream.filterMap readable

def about (connection : String) (change : Change) : Bool := change.connection == connection

/-- Every message of the subject was acknowledged. -/
def World.Settled (world : World) : Prop :=
  ∀ place < world.stream.length, place ∈ world.acked

instance (world : World) : Decidable world.Settled :=
  inferInstanceAs (Decidable (∀ place < world.stream.length, place ∈ world.acked))

/-- Once every message was acknowledged, the Gateway believes of each connection the last that the
bus says, an approval is refused when that is no state to send in, and every transition is in the
journal once. -/
structure World.Believes (world : World) : Prop where
  current : ∀ connection,
    connectionStatus world.journal connection = latest (about connection) world.bus
  refuses : ∀ connection change, latest (about connection) world.bus = some change →
    ∀ approvals : Approvals, approvals.store.statusChanges = world.journal.map Change.statusRow →
      ((∃ refusal, approvals.connectionCanSend connection = .error refusal) ↔
        change.toState ≠ "connected")
  once : ∀ change ∈ world.bus, world.journal.count change = 1
  nothingElse : ∀ row ∈ world.journal, row ∈ world.bus

/-! ### The condition -/

def InOrder (bus : List Change) : List Change → List Change → Prop
  | _, [] => True
  | journal, change :: rest =>
    ((∀ row ∈ journal, row.eventId ≠ change.eventId) →
      ∀ row ∈ journal, row.connection = change.connection →
        bus.idxOf row < bus.idxOf change) ∧
    InOrder bus (record journal change) rest

/-- A message that is stored has an id of its own, or repeats the last about its connection; a
batch records in order. -/
def Calm (world : World) : Happening → Prop
  | .published payload => ∀ change, readable payload = some change →
      ∀ other ∈ world.bus, other.eventId = change.eventId →
        other = change ∧ latest (about change.connection) world.bus = some change
  | .drained batch fault _ => InOrder world.bus world.journal (world.handled batch fault)

/-! ### Recording -/

theorem record_cases (journal : List Change) (change : Change) :
    (record journal change = journal ∧ ∃ row ∈ journal, row.eventId = change.eventId) ∨
      (record journal change = journal ++ [change] ∧
        ∀ row ∈ journal, row.eventId ≠ change.eventId) := by
  unfold record
  split_ifs with found
  · obtain ⟨row, member, same⟩ := List.any_eq_true.mp found
    exact Or.inl ⟨rfl, row, member, eq_of_beq same⟩
  · refine Or.inr ⟨rfl, fun row member same => found ?_⟩
    exact List.any_eq_true.mpr ⟨row, member, beq_iff_eq.mpr same⟩

structure Recorded (bus journal : List Change) : Prop where
  subset : ∀ row ∈ journal, row ∈ bus
  distinct : journal.Pairwise fun earlier later => earlier.eventId ≠ later.eventId
  ordered : journal.Pairwise fun earlier later =>
    earlier.connection = later.connection → bus.idxOf earlier < bus.idxOf later

variable {bus journal : List Change} {change : Change}

theorem Recorded.record (recorded : Recorded bus journal) (onBus : change ∈ bus)
    (behind : (∀ row ∈ journal, row.eventId ≠ change.eventId) →
      ∀ row ∈ journal, row.connection = change.connection →
        bus.idxOf row < bus.idxOf change) :
    Recorded bus (record journal change) := by
  rcases record_cases journal change with ⟨same, -⟩ | ⟨added, fresh⟩
  · rw [same]
    exact recorded
  · rw [added]
    refine ⟨?_, ?_, ?_⟩
    · intro row member
      rcases List.mem_append.mp member with old | isNew
      · exact recorded.subset row old
      · exact List.mem_singleton.mp isNew ▸ onBus
    · refine List.pairwise_append.mpr ⟨recorded.distinct, List.pairwise_singleton _ _, ?_⟩
      intro row member other isNew
      rw [List.mem_singleton.mp isNew]
      exact fresh row member
    · refine List.pairwise_append.mpr ⟨recorded.ordered, List.pairwise_singleton _ _, ?_⟩
      intro row member other isNew
      rw [List.mem_singleton.mp isNew]
      exact behind fresh row member

theorem Recorded.foldl (recorded : Recorded bus journal) {handled : List Change}
    (onBus : ∀ change ∈ handled, change ∈ bus) (inOrder : InOrder bus journal handled) :
    Recorded bus (handled.foldl ConnectionStatus.record journal) := by
  induction handled generalizing journal with
  | nil => exact recorded
  | cons change rest inductionHypothesis =>
    obtain ⟨behind, later⟩ := inOrder
    exact inductionHypothesis (recorded.record (onBus change List.mem_cons_self) behind)
      (fun other member => onBus other (List.mem_cons_of_mem _ member)) later

theorem mem_record {journal : List Change} {row : Change} (member : row ∈ journal)
    (change : Change) : row ∈ record journal change := by
  rcases record_cases journal change with ⟨same, -⟩ | ⟨added, -⟩
  · rw [same]
    exact member
  · rw [added]
    exact List.mem_append_left _ member

theorem mem_foldl_record {journal : List Change} {row : Change} (member : row ∈ journal)
    (handled : List Change) : row ∈ handled.foldl record journal := by
  induction handled generalizing journal with
  | nil => exact member
  | cons change rest inductionHypothesis => exact inductionHypothesis (mem_record member change)

theorem exists_row_of_handled {journal handled : List Change} (member : change ∈ handled) :
    ∃ row ∈ handled.foldl record journal, row.eventId = change.eventId := by
  induction handled generalizing journal with
  | nil => cases member
  | cons first rest inductionHypothesis =>
    rcases List.mem_cons.mp member with rfl | inRest
    · rcases record_cases journal change with ⟨same, row, rowIn, sameId⟩ | ⟨added, -⟩
      · exact ⟨row, mem_foldl_record (mem_record rowIn change) rest, sameId⟩
      · have recorded : change ∈ record journal change := by
          rw [added]
          exact List.mem_append_right _ (List.mem_singleton_self _)
        exact ⟨change, mem_foldl_record recorded rest, rfl⟩
    · exact inductionHypothesis inRest

variable {world : World} {places : List Nat}

theorem mem_changesAt :
    change ∈ world.changesAt places ↔
      ∃ place ∈ places, readable (world.stream[place]?.join) = some change :=
  List.mem_filterMap

theorem onBus_of_changesAt :
    ∀ change ∈ world.changesAt places, change ∈ world.bus := by
  intro change member
  obtain ⟨place, -, reads⟩ := mem_changesAt.mp member
  cases found : world.stream[place]? with
  | none =>
    rw [found] at reads
    cases reads
  | some payload =>
    rw [found] at reads
    exact List.mem_filterMap.mpr ⟨payload, List.mem_of_getElem? found, reads⟩

theorem onBus_of_handled {batch : List Nat} {fault : Option Nat} :
    ∀ change ∈ world.handled batch fault, change ∈ world.bus := by
  cases fault with
  | none => exact onBus_of_changesAt
  | some count => exact onBus_of_changesAt

/-! ### What every step keeps -/

/-- What holds of a world all along a calm run. -/
structure World.Sound (world : World) : Prop where
  recorded : Recorded world.bus world.journal
  acked : ∀ place ∈ world.acked, ∀ change, readable (world.stream[place]?.join) = some change →
    ∃ row ∈ world.journal, row.eventId = change.eventId
  stored : ∀ place ∈ world.acked, place < world.stream.length
  ids : ∀ first ∈ world.bus, ∀ second ∈ world.bus, first.eventId = second.eventId →
    first = second
  newest : ∀ change ∈ world.bus, ∀ last,
    latest (about change.connection) world.bus = some last →
      world.bus.idxOf change ≤ world.bus.idxOf last

theorem sound_start : World.start.Sound where
  recorded := ⟨List.forall_mem_nil _, List.Pairwise.nil, List.Pairwise.nil⟩
  acked := List.forall_mem_nil _
  stored := List.forall_mem_nil _
  ids := List.forall_mem_nil _
  newest := List.forall_mem_nil _

theorem Recorded.append (recorded : Recorded bus journal) (more : List Change) :
    Recorded (bus ++ more) journal := by
  refine ⟨fun row member => List.mem_append_left _ (recorded.subset row member),
    recorded.distinct, ?_⟩
  refine recorded.ordered.imp_of_mem fun {earlier later} earlierIn laterIn before same => ?_
  rw [List.idxOf_append_of_mem (recorded.subset earlier earlierIn),
    List.idxOf_append_of_mem (recorded.subset later laterIn)]
  exact before same

theorem bus_published (world : World) (payload : Option Json) :
    (step world (.published payload)).bus = world.bus ++ (readable payload).toList := by
  show (world.stream ++ [payload]).filterMap readable = _
  rw [List.filterMap_append]
  cases reads : readable payload <;> simp [World.bus, reads]

/-- The last about each connection stays the newest when the bus grows by a transition that is not
on it, or is the last about its connection already. -/
theorem newest_concat {bus : List Change}
    (newest : ∀ other ∈ bus, ∀ last, latest (about other.connection) bus = some last →
      bus.idxOf other ≤ bus.idxOf last)
    (repeats : change ∈ bus → latest (about change.connection) bus = some change) :
    ∀ other ∈ bus ++ [change], ∀ last,
      latest (about other.connection) (bus ++ [change]) = some last →
        (bus ++ [change]).idxOf other ≤ (bus ++ [change]).idxOf last := by
  intro other member last isLast
  rw [latest_concat] at isLast
  split_ifs at isLast with isAbout
  · cases isLast
    have same : change.connection = other.connection := eq_of_beq isAbout
    rcases List.mem_append.mp member with old | isNew
    · by_cases repeated : change ∈ bus
      · rw [List.idxOf_append_of_mem old, List.idxOf_append_of_mem repeated]
        exact newest other old change (same ▸ repeats repeated)
      · rw [List.idxOf_append_of_mem old, List.idxOf_append_of_notMem repeated]
        exact Nat.le_add_right_of_le (Nat.le_of_lt (List.idxOf_lt_length_of_mem old))
    · rw [List.mem_singleton.mp isNew]
  · have old : other ∈ bus := by
      rcases List.mem_append.mp member with old | isNew
      · exact old
      · rw [List.mem_singleton.mp isNew] at isAbout
        exact absurd (beq_self_eq_true _) isAbout
    rw [List.idxOf_append_of_mem old, List.idxOf_append_of_mem (latest_mem isLast)]
    exact newest other old last isLast

/-- A message that repeats no other id than the last about its connection keeps what holds. -/
theorem World.Sound.published (sound : world.Sound) {payload : Option Json}
    (calm : Calm world (.published payload)) : (step world (.published payload)).Sound := by
  have bus := bus_published world payload
  have place_of : ∀ place ∈ world.acked,
      (world.stream ++ [payload])[place]? = world.stream[place]? :=
    fun place member => List.getElem?_append_left (sound.stored place member)
  have acked : ∀ place ∈ world.acked, ∀ change,
      readable ((world.stream ++ [payload])[place]?.join) = some change →
        ∃ row ∈ world.journal, row.eventId = change.eventId := by
    intro place member change reads
    rw [place_of place member] at reads
    exact sound.acked place member change reads
  have stored : ∀ place ∈ world.acked, place < (world.stream ++ [payload]).length := by
    intro place member
    rw [List.length_append]
    exact Nat.lt_add_right _ (sound.stored place member)
  cases reads : readable payload with
  | none =>
    rw [reads, Option.toList_none, List.append_nil] at bus
    exact ⟨bus ▸ sound.recorded, acked, stored, bus ▸ sound.ids, bus ▸ sound.newest⟩
  | some change =>
    rw [reads, Option.toList_some] at bus
    have calmly := calm change reads
    refine ⟨bus ▸ sound.recorded.append [change], acked, stored, ?_, ?_⟩
    · rw [bus]
      intro first firstIn second secondIn same
      rcases List.mem_append.mp firstIn with firstOld | firstNew <;>
        rcases List.mem_append.mp secondIn with secondOld | secondNew
      · exact sound.ids first firstOld second secondOld same
      · rw [List.mem_singleton.mp secondNew] at same ⊢
        exact (calmly first firstOld same).1
      · rw [List.mem_singleton.mp firstNew] at same ⊢
        exact (calmly second secondOld same.symm).1.symm
      · rw [List.mem_singleton.mp firstNew, List.mem_singleton.mp secondNew]
    · rw [bus]
      exact newest_concat sound.newest fun repeated =>
        (calmly change repeated rfl).2

theorem lt_length_of_mem_fetch :
    ∀ place ∈ (world.fetch places).2, place < world.stream.length := by
  induction places generalizing world with
  | nil => exact List.forall_mem_nil _
  | cons first rest inductionHypothesis =>
    intro place member
    unfold World.fetch at member
    split_ifs at member with offered
    · rcases List.mem_cons.mp member with rfl | later
      · exact of_decide_eq_true (Bool.and_eq_true_iff.mp offered).1
      · exact @inductionHypothesis (world.handOut first) place later
    · exact inductionHypothesis place member

theorem World.Sound.drained (sound : world.Sound) {batch : List Nat} {fault : Option Nat}
    {arrived : List Nat} (calm : Calm world (.drained batch fault arrived)) :
    (step world (.drained batch fault arrived)).Sound where
  recorded := sound.recorded.foldl onBus_of_handled calm
  acked := by
    intro place member change reads
    have old : place ∈ world.acked → ∃ row ∈ (world.handled batch fault).foldl record world.journal,
        row.eventId = change.eventId := fun isOld => by
      obtain ⟨row, rowIn, same⟩ := sound.acked place isOld change reads
      exact ⟨row, mem_foldl_record rowIn _, same⟩
    cases fault with
    | some count => exact old member
    | none =>
      rcases List.mem_append.mp member with isOld | isNew
      · exact old isOld
      · exact exists_row_of_handled
          (mem_changesAt.mpr ⟨place, List.mem_of_mem_filter isNew, reads⟩)
  stored := by
    intro place member
    cases fault with
    | some count => exact sound.stored place member
    | none =>
      rcases List.mem_append.mp member with isOld | isNew
      · exact sound.stored place isOld
      · have taken : place ∈ world.taken batch := List.mem_of_mem_filter isNew
        show place < world.stream.length
        exact lt_length_of_mem_fetch place taken
  ids := sound.ids
  newest := sound.newest

theorem World.Sound.step (sound : world.Sound) {happening : Happening} (calm : Calm world happening)
    : (step world happening).Sound := by
  cases happening with
  | published payload => exact sound.published calm
  | drained batch fault arrived => exact sound.drained calm

/-! ### What the Gateway believes -/

section Settled

variable {world : World}

theorem World.Sound.mem_journal_iff (sound : world.Sound) (settled : world.Settled)
    (change : Change) : change ∈ world.journal ↔ change ∈ world.bus := by
  refine ⟨sound.recorded.subset change, fun onBus => ?_⟩
  obtain ⟨payload, inStream, reads⟩ := List.mem_filterMap.mp onBus
  obtain ⟨place, within, isPayload⟩ := List.getElem_of_mem inStream
  have found : readable (world.stream[place]?.join) = some change := by
    rw [List.getElem?_eq_getElem within, isPayload]
    exact reads
  obtain ⟨row, rowIn, same⟩ := sound.acked place (settled place within) change found
  rw [← sound.ids row (sound.recorded.subset row rowIn) change onBus same]
  exact rowIn

theorem World.Sound.connectionStatus_eq (sound : world.Sound) (settled : world.Settled)
    (connection : String) :
    connectionStatus world.journal connection = latest (about connection) world.bus := by
  have mem_iff := sound.mem_journal_iff settled
  cases isLast : latest (about connection) world.bus with
  | none =>
    refine latest_eq_none_iff.mpr fun row member => ?_
    exact latest_eq_none_iff.mp isLast row ((mem_iff row).mp member)
  | some last =>
    have onBus := latest_mem isLast
    have concerned : about connection last = true := latest_concerns isLast
    have isAbout : last.connection = connection := eq_of_beq concerned
    have ordered : (world.journal.filter (about connection)).Pairwise fun earlier later =>
        world.bus.idxOf earlier < world.bus.idxOf later := by
      refine (sound.recorded.ordered.filter _).imp_of_mem
        fun {earlier later} earlierIn laterIn before => before ?_
      rw [eq_of_beq (List.mem_filter.mp earlierIn).2, eq_of_beq (List.mem_filter.mp laterIn).2]
    have found : latest (about connection) (world.journal.filter (about connection)) = some last := by
      refine latest_eq_of_rank ordered
        (List.mem_filter.mpr ⟨(mem_iff last).mpr onBus, concerned⟩) concerned
        fun other member isOther => ?_
      · have otherOnBus := (mem_iff other).mp (List.mem_of_mem_filter member)
        refine sound.newest other otherOnBus last ?_
        rw [eq_of_beq isOther]
        exact isLast
    rw [latest_filter] at found
    rw [← found]
    exact latest_congr fun row _ => (Bool.and_self _).symm

theorem World.Sound.believes (sound : world.Sound) (settled : world.Settled) :
    world.Believes := by
  have current := sound.connectionStatus_eq settled
  refine ⟨current, ?_, ?_, sound.recorded.subset⟩
  · intro connection change isLast approvals rows
    have isRow : approvals.store.connectionStatus connection = some change.statusRow := by
      unfold ApprovalStore.connectionStatus
      rw [rows, latest_map]
      show (connectionStatus world.journal connection).map Change.statusRow = _
      rw [current, isLast]
      rfl
    unfold Approvals.connectionCanSend
    rw [isRow]
    show (∃ refusal, (if change.toState = "connected" then Except.ok () else _) = .error refusal) ↔ _
    split_ifs with connected
    · simp [connected]
    · simp [connected]
  · intro change onBus
    have distinct : world.journal.Nodup :=
      sound.recorded.distinct.imp fun differ same => differ (congrArg Change.eventId same)
    exact List.count_eq_one_of_mem distinct ((sound.mem_journal_iff settled change).mpr onBus)

end Settled

/-- In every run that records in order, what the Gateway believes is what the bus says last,
whenever every message was acknowledged. -/
theorem believes_of_calm {happenings : List Happening}
    (calm : Along step Calm World.start happenings) :
    ∀ reached, reached <+: happenings →
      (run step World.start reached).Settled → (run step World.start reached).Believes := by
  rintro reached ⟨rest, rfl⟩ settled
  have sound := run_invariant_along World.Sound (fun _ _ holds now => holds.step now) sound_start
    (along_append.mp calm).1
  exact sound.believes settled

/-! ### Two runs -/

def said (id fromState toState : String) : Json :=
  .object [("id", .string id), ("type", .string connectionStatusChangedType),
    ("data", .object [("connection", .string "mail"), ("kind", .string "email"),
      ("from_state", .string fromState), ("to_state", .string toState),
      ("occurred_at", .string "2026-09-24T10:00:00Z")])]

/-- The mail cannot be reached, and then it can. -/
def comesBack : List Happening :=
  [.published (some (said "1" "unknown" "unreachable")),
    .published (some (said "2" "unreachable" "connected"))]

/-- Both are recorded in one batch. -/
def takenTogether : List Happening := comesBack ++ [.drained [0, 1] none [0, 1]]

/-- The first cannot be recorded, and is handed out again after the second. -/
def takenApart : List Happening :=
  comesBack ++ [.drained [0] (some 0) [], .drained [1] none [1], .drained [0] none [0]]

/-- A batch that is recorded in order leaves the mail connected. -/
theorem believes_takenTogether : (run step World.start takenTogether).Believes := by
  have calm : Along step Calm World.start takenTogether := by
    refine ⟨?_, ?_, ⟨by decide, by decide, trivial⟩, trivial⟩
    · exact fun change reads other member => nomatch member
    · intro change reads other member same
      have others : ∀ other ∈ (step World.start (.published (some
          (said "1" "unknown" "unreachable")))).bus, other.eventId = "1" := by decide
      have isSecond : (some change).map Change.eventId = some "2" := by
        rw [← reads]
        rfl
      rw [Option.map_some, ← same, others other member] at isSecond
      exact absurd isSecond (by decide)
  exact believes_of_calm calm takenTogether (List.prefix_refl _) (by decide)

/-- A batch that failed leaves the mail unreachable, although the last that was said is that it is
connected. -/
theorem not_believes_takenApart : (run step World.start takenApart).Settled ∧
    ¬ (run step World.start takenApart).Believes := by
  refine ⟨by decide, fun believes => ?_⟩
  have states := congrArg (Option.map Change.toState) (believes.current "mail")
  exact absurd states (by decide)

end ConnectionStatus

end Twalk
