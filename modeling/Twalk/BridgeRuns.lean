/-
This file is about what the owner is told about a bridge. Seen from one bridge, a
call does one of a few things: what is held of it is left alone, recorded,
dropped as a replay or kept for another try, and a report then cancels, replaces
or records. What is said of a bridge is what is held, or else what is recorded,
and it is what the bridge last reported as long as no call drops a report.
-/

import Twalk.BridgeStatus
import Twalk.Library.System

namespace Twalk.BridgeStatus

open Std

/-! ### Recording -/

def Known (rows : List StatusRow) (eventId : String) : Prop :=
  ∃ row ∈ rows, row.eventId = eventId

inductive Recording (rows : List StatusRow) (transition : Transition) (write : Write) :
    Except String (List StatusRow × BridgeStatusCommitted) → Prop
  | failed (failure : String) (fails : write.fails = true) :
    Recording rows transition write (.error failure)
  | replayed (committed : BridgeStatusCommitted) (taken : write.fails = false)
    (known : Known rows transition.eventId) :
    Recording rows transition write (.ok (rows, committed))
  | appended (row : StatusRow) (committed : BridgeStatusCommitted) (taken : write.fails = false)
    (fresh : ¬Known rows transition.eventId) (named : row.eventId = transition.eventId)
    (carries : row.transition = transition) :
    Recording rows transition write (.ok (rows ++ [row], committed))

theorem recording_recordBridgeStatus (rows : List StatusRow) (transition : Transition)
    (domain : String) (write : Write) :
    Recording rows transition write (recordBridgeStatus rows transition domain write) := by
  unfold recordBridgeStatus
  cases fails : write.fails with
  | true => exact .failed _ fails
  | false =>
    cases found : rows.findIdx? fun row => row.eventId == transition.eventId with
    | some index =>
      refine .replayed _ fails ?_
      obtain ⟨inside, is, -⟩ := List.findIdx?_eq_some_iff_getElem.mp found
      exact ⟨rows[index], List.getElem_mem inside, eq_of_beq is⟩
    | none =>
      refine .appended _ _ fails ?_ rfl rfl
      rintro ⟨row, member, is⟩
      have differs := List.findIdx?_eq_none_iff.mp found row member
      rw [is, beq_self_eq_true] at differs
      exact absurd differs (by decide)

/-! ### One bridge -/

structure Standing where
  held : Option Held
  rows : List StatusRow

variable {bridgeId : String}

namespace Standing

def recorded (standing : Standing) : ContractState :=
  arrival (fun row : StatusRow => row.transition.toState) .initial standing.rows

structure Sound (standing : Standing) (bridgeId : String) : Prop where
  chained : Moves (fun row : StatusRow => row.transition.fromState)
    (fun row => row.transition.toState) .initial standing.rows
  follows : ∀ waiting, standing.held = some waiting → waiting.transition.bridgeId = bridgeId ∧
    waiting.transition.fromState = standing.recorded ∧
    waiting.transition.toState ≠ standing.recorded

/-- What is said of a bridge is what it last reported: a transition to that state is held, from
another one that is recorded, or nothing is held and that state is recorded. -/
def Tells (standing : Standing) (reported : Option ContractState) : Prop :=
  match standing.held with
  | some waiting =>
    reported = some waiting.transition.toState ∧ waiting.transition.toState ≠ standing.recorded
  | none => standing.recorded = reported.getD .initial

theorem recorded_concat (held : Option Held) (rows : List StatusRow) (row : StatusRow) :
    (Standing.mk held (rows ++ [row])).recorded = row.transition.toState :=
  arrival_concat _ _ _ _

theorem Sound.cancelled {standing : Standing} (sound : standing.Sound bridgeId) :
    Sound ⟨none, standing.rows⟩ bridgeId :=
  ⟨sound.chained, fun _ held => absurd held (by simp)⟩

theorem Sound.recordedRow {standing : Standing} {row : StatusRow} (sound : standing.Sound bridgeId)
    (starts : row.transition.fromState = standing.recorded)
    (leaves : row.transition.toState ≠ standing.recorded) :
    Sound ⟨none, standing.rows ++ [row]⟩ bridgeId :=
  ⟨moves_concat sound.chained starts (starts ▸ leaves.symm), fun _ held => absurd held (by simp)⟩

end Standing

namespace Statuses

def standing (statuses : Statuses) (bridgeId : String) : Standing where
  held := statuses.held[bridgeId]?
  rows := statuses.rows.filter fun row => row.transition.bridgeId == bridgeId

theorem fromState_eq_recorded (statuses : Statuses) (bridgeId : String) :
    statuses.fromState bridgeId = (statuses.standing bridgeId).recorded := by
  unfold fromState bridgeStatus Standing.recorded standing
  rw [arrival_filter]

variable {statuses : Statuses}

theorem standing_append_other {row : StatusRow} (other : row.transition.bridgeId ≠ bridgeId) :
    { statuses with rows := statuses.rows ++ [row] }.standing bridgeId =
      statuses.standing bridgeId := by
  unfold standing
  simp [List.filter_append, other]

theorem standing_append_own {row : StatusRow} (own : row.transition.bridgeId = bridgeId) :
    { statuses with rows := statuses.rows ++ [row] }.standing bridgeId =
      ⟨(statuses.standing bridgeId).held, (statuses.standing bridgeId).rows ++ [row]⟩ := by
  unfold standing
  simp [List.filter_append, own]

/-! ### Recording what is due -/

variable {now : Nat} {writes : String → Write}

variable {waiting : Held} {progress : Statuses × List Transition}

theorem standing_flushOne_other (other : waiting.transition.bridgeId ≠ bridgeId) :
    (flushOne now writes progress waiting).1.standing bridgeId =
      progress.1.standing bridgeId := by
  unfold flushOne
  dsimp only
  generalize recorded : recordBridgeStatus progress.1.rows waiting.transition progress.1.domain
    (writes waiting.transition.bridgeId) = outcome
  have recording := recording_recordBridgeStatus progress.1.rows waiting.transition
    progress.1.domain (writes waiting.transition.bridgeId)
  rw [recorded] at recording
  cases recording with
  | failed failure fails =>
    unfold standing
    simp [TreeMap.getElem?_insertIfNew, other]
  | replayed committed taken known => rfl
  | appended row committed taken fresh named carries =>
    exact standing_append_other (carries ▸ other)

inductive Flushed (rows : List StatusRow) (waiting : Held) (now : Nat) (write : Write)
    (standing : Standing) : Standing → Prop
  | kept (fails : write.fails = true) :
    Flushed rows waiting now write standing
      ⟨some { waiting with deadline := now }, standing.rows⟩
  | dropped (taken : write.fails = false) (known : Known rows waiting.transition.eventId) :
    Flushed rows waiting now write standing ⟨none, standing.rows⟩
  | recorded (row : StatusRow) (taken : write.fails = false)
    (fresh : ¬Known rows waiting.transition.eventId) (carries : row.transition = waiting.transition) :
    Flushed rows waiting now write standing ⟨none, standing.rows ++ [row]⟩

theorem flushed_flushOne (now : Nat) (writes : String → Write)
    (own : waiting.transition.bridgeId = bridgeId)
    (out : (progress.1.standing bridgeId).held = none) :
    Flushed progress.1.rows waiting now (writes bridgeId) (progress.1.standing bridgeId)
      ((flushOne now writes progress waiting).1.standing bridgeId) := by
  obtain ⟨statuses, published⟩ := progress
  unfold flushOne
  dsimp only at out ⊢
  rw [own]
  generalize recorded : recordBridgeStatus statuses.rows waiting.transition statuses.domain
    (writes bridgeId) = outcome
  have recording := recording_recordBridgeStatus statuses.rows waiting.transition statuses.domain
    (writes bridgeId)
  rw [recorded] at recording
  cases recording with
  | failed failure fails =>
    have held : { statuses with
        held := statuses.held.insertIfNew bridgeId { waiting with deadline := now } }.standing
          bridgeId = ⟨some { waiting with deadline := now }, (statuses.standing bridgeId).rows⟩ := by
      have vacant : ¬bridgeId ∈ statuses.held := by
        rw [TreeMap.mem_iff_isSome_getElem?,
          show statuses.held[bridgeId]? = none from out]
        exact Bool.false_ne_true
      unfold standing
      rw [TreeMap.getElem?_insertIfNew, if_pos ⟨compare_self, vacant⟩]
    dsimp only
    rw [held]
    exact .kept fails
  | replayed committed taken known =>
    have same : statuses.standing bridgeId = ⟨none, (statuses.standing bridgeId).rows⟩ := by
      rw [← out]
    dsimp only
    rw [show ({ statuses with rows := statuses.rows } : Statuses) = statuses from rfl, same]
    exact .dropped taken known
  | appended row committed taken fresh named carries =>
    dsimp only
    rw [standing_append_own (carries ▸ own), out]
    exact .recorded row taken fresh carries

theorem rows_flushOne (now : Nat) (writes : String → Write)
    (progress : Statuses × List Transition) (waiting : Held) {row : StatusRow} :
    (row ∈ progress.1.rows → row ∈ (flushOne now writes progress waiting).1.rows) ∧
      (row ∈ (flushOne now writes progress waiting).1.rows → row ∈ progress.1.rows ∨
        (writes waiting.transition.bridgeId).fails = false ∧
          row.eventId = waiting.transition.eventId) := by
  unfold flushOne
  dsimp only
  generalize recorded : recordBridgeStatus progress.1.rows waiting.transition progress.1.domain
    (writes waiting.transition.bridgeId) = outcome
  have recording := recording_recordBridgeStatus progress.1.rows waiting.transition
    progress.1.domain (writes waiting.transition.bridgeId)
  rw [recorded] at recording
  cases recording with
  | failed failure fails => exact ⟨id, Or.inl⟩
  | replayed committed taken known => exact ⟨id, Or.inl⟩
  | appended row committed taken fresh named carries =>
    refine ⟨List.mem_append_left _, fun member => ?_⟩
    rcases List.mem_append.mp member with before | added
    · exact Or.inl before
    · exact Or.inr ⟨taken, by rw [List.mem_singleton.mp added, named]⟩

theorem grace_flushOne (progress : Statuses × List Transition) (waiting : Held) :
    (flushOne now writes progress waiting).1.grace = progress.1.grace := by
  unfold flushOne
  dsimp only
  split <;> rfl

/-! ### Recording everything that is due -/

theorem standing_flush_other {dues : List Held}
    (others : ∀ waiting ∈ dues, waiting.transition.bridgeId ≠ bridgeId)
    (progress : Statuses × List Transition) :
    (dues.foldl (flushOne now writes) progress).1.standing bridgeId =
      progress.1.standing bridgeId := by
  induction dues generalizing progress with
  | nil => rfl
  | cons first rest inductionHypothesis =>
    rw [List.foldl_cons, inductionHypothesis fun waiting member =>
        others waiting (List.mem_cons_of_mem first member),
      standing_flushOne_other (others first List.mem_cons_self)]

theorem rows_flush (dues : List Held) (progress : Statuses × List Transition) {row : StatusRow} :
    (row ∈ progress.1.rows → row ∈ (dues.foldl (flushOne now writes) progress).1.rows) ∧
      (row ∈ (dues.foldl (flushOne now writes) progress).1.rows → row ∈ progress.1.rows ∨
        ∃ waiting ∈ dues, (writes waiting.transition.bridgeId).fails = false ∧
          row.eventId = waiting.transition.eventId) := by
  induction dues generalizing progress with
  | nil => exact ⟨id, Or.inl⟩
  | cons first rest inductionHypothesis =>
    rw [List.foldl_cons]
    obtain ⟨grows, new⟩ := inductionHypothesis (flushOne now writes progress first)
    obtain ⟨growsFirst, newFirst⟩ := @rows_flushOne now writes progress first row
    refine ⟨grows ∘ growsFirst, fun member => ?_⟩
    rcases new member with before | ⟨waiting, among, taken, named⟩
    · rcases newFirst before with earlier | ⟨taken, named⟩
      · exact Or.inl earlier
      · exact Or.inr ⟨first, List.mem_cons_self, taken, named⟩
    · exact Or.inr ⟨waiting, List.mem_cons_of_mem first among, taken, named⟩

theorem grace_flush (dues : List Held) (progress : Statuses × List Transition) :
    (dues.foldl (flushOne now writes) progress).1.grace = progress.1.grace := by
  induction dues generalizing progress with
  | nil => rfl
  | cons first rest inductionHypothesis =>
    rw [List.foldl_cons, inductionHypothesis, grace_flushOne]

def Keyed (statuses : Statuses) : Prop :=
  ∀ (bridgeId : String) (waiting : Held), statuses.held[bridgeId]? = some waiting →
    waiting.transition.bridgeId = bridgeId

theorem mem_due :
    waiting ∈ statuses.due now ↔
      ∃ bridgeId : String, statuses.held[bridgeId]? = some waiting ∧ waiting.deadline ≤ now := by
  unfold due
  simp only [List.mem_map, List.mem_filter, decide_eq_true_eq, Prod.exists,
    TreeMap.mem_toList_iff_getElem?_eq_some]
  constructor
  · rintro ⟨bridgeId, _, ⟨held, isDue⟩, rfl⟩
    exact ⟨bridgeId, held, isDue⟩
  · rintro ⟨bridgeId, held, isDue⟩
    exact ⟨bridgeId, waiting, ⟨held, isDue⟩, rfl⟩

theorem nodup_due (keyed : statuses.Keyed) (now : Nat) :
    ((statuses.due now).map fun waiting => waiting.transition.bridgeId).Nodup := by
  have own : ∀ entry ∈ statuses.held.toList.filter fun entry => entry.2.deadline ≤ now,
      ((fun waiting : Held => waiting.transition.bridgeId) ∘ fun entry => entry.2) entry =
        entry.1 := fun entry member =>
    keyed _ _ (TreeMap.mem_toList_iff_getElem?_eq_some.mp (List.mem_filter.mp member).1)
  unfold due
  rw [List.map_map, List.map_congr_left own]
  refine List.Nodup.sublist (List.filter_sublist.map _) ?_
  rw [List.nodup_iff_pairwise_ne, List.pairwise_map]
  exact TreeMap.distinct_keys_toList.imp fun apart same => apart (by rw [same]; simp)

theorem held_takeDue (statuses : Statuses) (bridgeId : String) :
    (statuses.takeDue now).held[bridgeId]? =
      statuses.held[bridgeId]?.filter fun waiting => now < waiting.deadline :=
  TreeMap.getElem?_filter'

theorem standing_takeDue
    (early : ∀ waiting, statuses.held[bridgeId]? = some waiting → now < waiting.deadline) :
    (statuses.takeDue now).standing bridgeId = statuses.standing bridgeId := by
  unfold standing
  rw [held_takeDue]
  cases held : statuses.held[bridgeId]? with
  | none => rfl
  | some waiting => simp [early waiting held, takeDue]

def Others (statuses : Statuses) (now : Nat) (writes : String → Write) (bridgeId : String)
    (rows : List StatusRow) : Prop :=
  (∀ row ∈ statuses.rows, row ∈ rows) ∧
    ∀ row ∈ rows, row ∈ statuses.rows ∨ ∃ waiting ∈ statuses.due now,
      waiting.transition.bridgeId ≠ bridgeId ∧
        (writes waiting.transition.bridgeId).fails = false ∧
        row.eventId = waiting.transition.eventId

inductive Flush (statuses : Statuses) (now : Nat) (writes : String → Write) (bridgeId : String) :
    Standing → Prop
  | quiet (early : ∀ waiting, statuses.held[bridgeId]? = some waiting → now < waiting.deadline) :
    Flush statuses now writes bridgeId (statuses.standing bridgeId)
  | due (waiting : Held) (rows : List StatusRow) (after : Standing)
    (held : statuses.held[bridgeId]? = some waiting) (isDue : waiting.deadline ≤ now)
    (others : Others statuses now writes bridgeId rows)
    (flushed : Flushed rows waiting now (writes bridgeId) (statuses.standing bridgeId) after) :
    Flush statuses now writes bridgeId after

theorem flush_flushDue (keyed : statuses.Keyed) (now : Nat) (writes : String → Write)
    (bridgeId : String) :
    Flush statuses now writes bridgeId ((statuses.flushDue now writes).1.standing bridgeId) := by
  by_cases early : ∀ waiting, statuses.held[bridgeId]? = some waiting → now < waiting.deadline
  · have others : ∀ waiting ∈ statuses.due now, waiting.transition.bridgeId ≠ bridgeId := by
      intro waiting member own
      obtain ⟨key, held, isDue⟩ := mem_due.mp member
      rw [← own, keyed key waiting held] at early
      exact absurd (early waiting held) (Nat.not_lt.mpr isDue)
    unfold flushDue
    rw [standing_flush_other others, standing_takeDue early]
    exact .quiet early
  · simp only [not_forall, Nat.not_lt] at early
    obtain ⟨waiting, held, isDue⟩ := early
    have own : waiting.transition.bridgeId = bridgeId := keyed bridgeId waiting held
    obtain ⟨front, back, split⟩ := List.append_of_mem (mem_due.mpr ⟨bridgeId, held, isDue⟩)
    have apart := nodup_due keyed now
    rw [split, List.map_append, List.map_cons, List.nodup_append] at apart
    have before : ∀ other ∈ front, other.transition.bridgeId ≠ bridgeId := fun other member same =>
      apart.2.2 _ (List.mem_map_of_mem member) _ List.mem_cons_self (same.trans own.symm)
    have after : ∀ other ∈ back, other.transition.bridgeId ≠ bridgeId := fun other member same =>
      (List.nodup_cons.mp apart.2.1).1 (own ▸ same ▸ List.mem_map_of_mem member)
    unfold flushDue
    rw [split, List.foldl_append, List.foldl_cons, standing_flush_other after]
    have there : ((front.foldl (flushOne now writes) (statuses.takeDue now, [])).1.standing
        bridgeId) = ⟨none, (statuses.standing bridgeId).rows⟩ := by
      rw [standing_flush_other before]
      unfold standing
      rw [held_takeDue, held]
      simp [isDue, takeDue]
    have flushed := flushed_flushOne now writes own (by rw [there])
    rw [there] at flushed
    have others : Others statuses now writes bridgeId
        (front.foldl (flushOne now writes) (statuses.takeDue now, [])).1.rows := by
      constructor
      · exact fun row member => (rows_flush front (statuses.takeDue now, [])).1 member
      · intro row member
        rcases (rows_flush front (statuses.takeDue now, [])).2 member with
          old | ⟨other, among, taken, named⟩
        · exact Or.inl old
        · exact Or.inr ⟨other, split ▸ List.mem_append_left _ among, before other among, taken,
            named⟩
    refine .due waiting _ _ held isDue others ?_
    generalize (flushOne now writes (front.foldl (flushOne now writes)
      (statuses.takeDue now, [])) waiting).1.standing bridgeId = after at flushed ⊢
    cases flushed with
    | kept fails => exact .kept fails
    | dropped taken known => exact .dropped taken known
    | recorded row taken fresh carries => exact .recorded row taken fresh carries

variable {after : Standing}

theorem Flush.sound (flush : Flush statuses now writes bridgeId after)
    (sound : (statuses.standing bridgeId).Sound bridgeId) : after.Sound bridgeId := by
  cases flush with
  | quiet early => exact sound
  | due waiting rows after held isDue others flushed =>
    obtain ⟨own, starts, leaves⟩ := sound.follows waiting held
    cases flushed with
    | kept fails =>
      refine ⟨sound.chained, fun again is => ?_⟩
      obtain rfl := Option.some.inj is
      exact ⟨own, starts, leaves⟩
    | dropped taken known => exact sound.cancelled
    | recorded row taken fresh carries =>
      exact sound.recordedRow (by rw [carries]; exact starts) (by rw [carries]; exact leaves)

theorem Flush.tells {reported : Option ContractState}
    (flush : Flush statuses now writes bridgeId after)
    (tells : (statuses.standing bridgeId).Tells reported)
    (fresh : ∀ waiting, statuses.held[bridgeId]? = some waiting → waiting.deadline ≤ now →
      (writes bridgeId).fails = false → ∀ rows, Others statuses now writes bridgeId rows →
      ¬Known rows waiting.transition.eventId) : after.Tells reported := by
  cases flush with
  | quiet early => exact tells
  | due waiting rows after held isDue others flushed =>
    have told : reported = some waiting.transition.toState ∧
        waiting.transition.toState ≠ (statuses.standing bridgeId).recorded := by
      have unfolded := tells
      unfold Standing.Tells at unfolded
      rw [show (statuses.standing bridgeId).held = some waiting from held] at unfolded
      exact unfolded
    cases flushed with
    | kept fails => exact told
    | dropped taken known => exact absurd known (fresh waiting held isDue taken rows others)
    | recorded row taken unknown carries =>
      show (Standing.mk none _).recorded = _
      rw [Standing.recorded_concat, carries, told.1, Option.getD_some]

/-! ### Deciding about a report -/

theorem standing_settled_other {bridgeId other : String} (apart : bridgeId ≠ other) :
    (statuses.settled bridgeId now).1.standing other = statuses.standing other := by
  unfold settled
  split
  · unfold standing
    simp [TreeMap.getElem?_erase, apart]
  · rfl

theorem standing_settled
    (inside : ∀ waiting, statuses.held[bridgeId]? = some waiting → now < waiting.deadline) :
    (statuses.settled bridgeId now).1.standing bridgeId =
      ⟨none, (statuses.standing bridgeId).rows⟩ := by
  unfold settled
  cases held : statuses.held[bridgeId]? with
  | none =>
    show statuses.standing bridgeId = _
    unfold standing
    rw [held]
  | some waiting =>
    rw [if_pos (by simpa using inside waiting held)]
    unfold standing
    simp

theorem rows_settled (statuses : Statuses) (bridgeId : String) :
    (statuses.settled bridgeId now).1.rows = statuses.rows := by
  unfold settled
  split <;> rfl

theorem standing_hold_other {transition : Transition} {channel : String} {other : String}
    (apart : transition.bridgeId ≠ other) :
    (statuses.hold transition channel now).standing other = statuses.standing other := by
  unfold hold
  dsimp only
  split <;> · unfold standing; simp [TreeMap.getElem?_insert, apart]

theorem standing_hold (statuses : Statuses) (transition : Transition) (channel : String) :
    ∃ waiting, (statuses.hold transition channel now).standing transition.bridgeId =
        ⟨some waiting, (statuses.standing transition.bridgeId).rows⟩ ∧
      waiting.transition.toState = transition.toState ∧
      (waiting.transition = transition ∨ ∃ before,
        statuses.held[transition.bridgeId]? = some before ∧
        waiting.transition.bridgeId = before.transition.bridgeId ∧
        waiting.transition.fromState = before.transition.fromState) := by
  unfold hold
  dsimp only
  cases held : statuses.held[transition.bridgeId]? with
  | some before =>
    refine ⟨{ before with transition := { before.transition with
      toState := transition.toState, reason := transition.reason,
      lastMessageAt := transition.lastMessageAt } }, ?_, rfl, Or.inr ⟨before, rfl, rfl, rfl⟩⟩
    unfold standing
    simp
  | none =>
    refine ⟨⟨transition, now + statuses.grace, channel⟩, ?_, rfl, Or.inl rfl⟩
    unfold standing
    simp

/-- A report that is recorded at once, as good news and any news without a grace is. -/
def Direct (statuses : Statuses) (report : Observed) : Prop :=
  report.state = .connected ∨ statuses.grace = 0

instance (statuses : Statuses) (report : Observed) : Decidable (statuses.Direct report) :=
  inferInstanceAs (Decidable (_ ∨ _))

variable {statuses : Statuses} {bridge : StatusBridge} {report : Observed} {channel : String}
  {write : Write}

theorem standing_decided_other {other : String} (apart : bridge.bridgeId ≠ other) :
    (statuses.decided bridge report channel now write).1.standing other =
      statuses.standing other := by
  unfold decided
  dsimp only
  split
  · exact standing_settled_other apart
  · split
    · exact standing_hold_other apart
    · generalize recorded : recordBridgeStatus _ _ _ write = outcome
      have recording := recording_recordBridgeStatus
        (statuses.settled bridge.bridgeId now).1.rows
        (report.transition bridge (statuses.fromState bridge.bridgeId))
        (statuses.settled bridge.bridgeId now).1.domain write
      rw [recorded] at recording
      cases recording with
      | failed failure fails => exact standing_settled_other apart
      | replayed committed taken known => exact standing_settled_other apart
      | appended row committed taken fresh named carries =>
        exact (standing_append_other (by rw [carries]; exact apart)).trans
          (standing_settled_other apart)

/-- After a report its bridge stands where the report says, provided that nothing that is held
outlives a report that cancels it, and that a report recorded at once is a new row. -/
theorem decided_tells (sound : (statuses.standing bridge.bridgeId).Sound bridge.bridgeId)
    (cancels : statuses.fromState bridge.bridgeId = report.state ∨ statuses.Direct report →
      ∀ waiting, statuses.held[bridge.bridgeId]? = some waiting → now < waiting.deadline)
    (records : statuses.fromState bridge.bridgeId ≠ report.state → statuses.Direct report →
      write.fails = false ∧
        ¬Known statuses.rows (report.transition bridge .initial).eventId) :
    ((statuses.decided bridge report channel now write).1.standing bridge.bridgeId).Sound
        bridge.bridgeId ∧
      ((statuses.decided bridge report channel now write).1.standing bridge.bridgeId).Tells
        (some report.state) := by
  unfold decided
  dsimp only
  by_cases same : statuses.fromState bridge.bridgeId = report.state
  · rw [if_pos same, standing_settled (cancels (Or.inl same))]
    refine ⟨sound.cancelled, ?_⟩
    show (statuses.standing bridge.bridgeId).recorded = report.state
    rw [← fromState_eq_recorded, same]
  · rw [if_neg same]
    have starts := fromState_eq_recorded statuses bridge.bridgeId
    have leaves : report.state ≠ (statuses.standing bridge.bridgeId).recorded :=
      starts ▸ Ne.symm same
    by_cases direct : statuses.Direct report
    · have atOnce : ¬(report.state ≠ .connected ∧ statuses.grace ≠ 0) := by
        rintro ⟨bad, waits⟩
        exact direct.elim bad waits
      rw [if_neg atOnce]
      obtain ⟨taken, fresh⟩ := records same direct
      have settled := standing_settled (cancels (Or.inr direct))
      generalize recorded : recordBridgeStatus _ _ _ write = outcome
      have recording := recording_recordBridgeStatus
        (statuses.settled bridge.bridgeId now).1.rows
        (report.transition bridge (statuses.fromState bridge.bridgeId))
        (statuses.settled bridge.bridgeId now).1.domain write
      rw [recorded] at recording
      cases recording with
      | failed failure fails => exact absurd (taken.symm.trans fails) (by decide)
      | replayed committed _ known => exact absurd (rows_settled statuses _ ▸ known) fresh
      | appended row committed _ _ named carries =>
        dsimp only
        rw [standing_append_own (by rw [carries]; rfl), settled]
        refine ⟨sound.recordedRow (by rw [carries]; exact starts) (by rw [carries]; exact leaves),
          ?_⟩
        show (Standing.mk none _).recorded = _
        rw [Standing.recorded_concat, carries]
        rfl
    · have waits : report.state ≠ .connected ∧ statuses.grace ≠ 0 := not_or.mp direct
      rw [if_pos waits]
      obtain ⟨waiting, is, toState, origin⟩ := standing_hold statuses
        (report.transition bridge (statuses.fromState bridge.bridgeId)) channel
      rw [show (report.transition bridge (statuses.fromState bridge.bridgeId)).bridgeId =
        bridge.bridgeId from rfl] at is
      rw [is]
      have away : waiting.transition.toState ≠ (statuses.standing bridge.bridgeId).recorded :=
        toState ▸ leaves
      refine ⟨⟨sound.chained, fun again held => ?_⟩, ?_, away⟩
      · obtain rfl := Option.some.inj held
        rcases origin with new | ⟨before, held, own, start⟩
        · exact ⟨by rw [new]; rfl, by rw [new]; exact starts, away⟩
        · obtain ⟨ownBefore, startBefore, -⟩ := sound.follows before held
          exact ⟨own.trans ownBefore, start.trans startBefore, away⟩
      · rw [toState]
        rfl

/-! ### What a call must not meet -/

def taken (statuses : Statuses) (now : Nat) (writes : String → Write) : List Held :=
  (statuses.due now).filter fun waiting => !(writes waiting.transition.bridgeId).fails

def New (statuses : Statuses) (now : Nat) (writes : String → Write) (waiting : Held) : Prop :=
  (∀ row ∈ statuses.rows, row.eventId ≠ waiting.transition.eventId) ∧
    ∀ other ∈ statuses.taken now writes,
      other.transition.bridgeId ≠ waiting.transition.bridgeId →
      other.transition.eventId ≠ waiting.transition.eventId

def recordedThen (statuses : Statuses) (now : Nat) (writes : String → Write) (bridgeId : String) :
    ContractState :=
  match statuses.held[bridgeId]? with
  | some waiting =>
    if waiting.deadline ≤ now ∧ (writes bridgeId).fails = false ∧
        ∀ row ∈ statuses.rows, row.eventId ≠ waiting.transition.eventId then
      waiting.transition.toState
    else statuses.fromState bridgeId
  | none => statuses.fromState bridgeId

/-- A report that cancels what is held finds it inside its window: it was not due when what is due
was recorded and is not due at the second reading either, or it was due and has been recorded. -/
def Cancels (statuses : Statuses) (bridgeId : String) (answers : Answers) : Prop :=
  ∀ waiting ∈ statuses.held[bridgeId]?,
    if waiting.deadline ≤ answers.flushAt then (answers.flushes bridgeId).fails = false
    else answers.decideAt < waiting.deadline

def Records (statuses : Statuses) (bridge : StatusBridge) (report : Observed)
    (answers : Answers) : Prop :=
  answers.write.fails = false ∧
    (∀ row ∈ statuses.rows, row.eventId ≠ (report.transition bridge .initial).eventId) ∧
    ∀ other ∈ statuses.taken answers.flushAt answers.flushes,
      other.transition.eventId ≠ (report.transition bridge .initial).eventId

instance (statuses : Statuses) (now : Nat) (writes : String → Write) (waiting : Held) :
    Decidable (statuses.New now writes waiting) :=
  inferInstanceAs (Decidable (_ ∧ _))

instance (statuses : Statuses) (bridgeId : String) (answers : Answers) :
    Decidable (statuses.Cancels bridgeId answers) :=
  inferInstanceAs (Decidable (∀ waiting ∈ statuses.held[bridgeId]?,
    if waiting.deadline ≤ answers.flushAt then (answers.flushes bridgeId).fails = false
    else answers.decideAt < waiting.deadline))

instance (statuses : Statuses) (bridge : StatusBridge) (report : Observed) (answers : Answers) :
    Decidable (statuses.Records bridge report answers) :=
  inferInstanceAs (Decidable (_ ∧ _ ∧ _))

theorem mem_taken :
    waiting ∈ statuses.taken now writes ↔
      waiting ∈ statuses.due now ∧ (writes waiting.transition.bridgeId).fails = false := by
  unfold taken
  simp

theorem New.unknown {rows : List StatusRow} (new : statuses.New now writes waiting)
    (others : Others statuses now writes waiting.transition.bridgeId rows) :
    ¬Known rows waiting.transition.eventId := by
  rintro ⟨row, member, named⟩
  rcases others.2 row member with old | ⟨other, isDue, apart, taken, same⟩
  · exact new.1 row old named
  · exact new.2 other (mem_taken.mpr ⟨isDue, taken⟩) apart (same.symm.trans named)

/-- Where everything taken of the other bridges is new, what is recorded of a bridge once
everything due has been recorded can be told beforehand. -/
theorem recordedThen_eq (keyed : statuses.Keyed) (flush : Flush statuses now writes bridgeId after)
    (others : ∀ waiting ∈ statuses.taken now writes, waiting.transition.bridgeId ≠ bridgeId →
      statuses.New now writes waiting) :
    statuses.recordedThen now writes bridgeId = after.recorded := by
  unfold recordedThen
  cases flush with
  | quiet early =>
    rw [← fromState_eq_recorded]
    cases held : statuses.held[bridgeId]? with
    | none => rfl
    | some waiting =>
      dsimp only
      rw [if_neg fun isDue => absurd isDue.1 (Nat.not_le.mpr (early waiting held))]
  | due waiting rows after held isDue added flushed =>
    rw [held]
    dsimp only
    cases flushed with
    | kept fails =>
      rw [if_neg fun all => absurd (all.2.1.symm.trans fails) (by decide)]
      exact fromState_eq_recorded statuses bridgeId
    | dropped takes known =>
      have old : ¬∀ row ∈ statuses.rows, row.eventId ≠ waiting.transition.eventId := by
        intro fresh
        obtain ⟨row, member, named⟩ := known
        rcases added.2 row member with before | ⟨other, otherDue, apart, otherTaken, same⟩
        · exact fresh row before named
        · -- A row of another bridge with this event id would have made that one a replay.
          have own := keyed bridgeId waiting held
          refine (others other (mem_taken.mpr ⟨otherDue, otherTaken⟩) apart).2 waiting
            (mem_taken.mpr ⟨mem_due.mpr ⟨bridgeId, held, isDue⟩, own ▸ takes⟩)
            (own ▸ apart.symm) (named.symm.trans same)
      rw [if_neg fun all => old all.2.2]
      exact fromState_eq_recorded statuses bridgeId
    | recorded row takes unknown carries =>
      have fresh : ∀ row ∈ statuses.rows, row.eventId ≠ waiting.transition.eventId :=
        fun row member named => unknown ⟨row, added.1 row member, named⟩
      rw [if_pos ⟨isDue, takes, fresh⟩, Standing.recorded_concat, carries]

/-- What a flush leaves held of a bridge is inside its window, when the hold was not due and is
inside it later too, or was due and has been recorded. -/
theorem Cancels.inside {answers : Answers} (cancels : statuses.Cancels bridgeId answers)
    (flush : Flush statuses answers.flushAt answers.flushes bridgeId after)
    (held : after.held = some waiting) : answers.decideAt < waiting.deadline := by
  cases flush with
  | quiet early =>
    have applies := cancels waiting held
    rw [if_neg (Nat.not_le.mpr (early waiting held))] at applies
    exact applies
  | due before rows after heldBefore isDue added flushed =>
    have applies := cancels before heldBefore
    rw [if_pos isDue] at applies
    cases flushed with
    | kept fails => exact absurd (applies.symm.trans fails) (by decide)
    | dropped takes known => cases held
    | recorded row takes unknown carries => cases held

theorem rows_flushDue (statuses : Statuses) {row : StatusRow}
    (member : row ∈ (statuses.flushDue now writes).1.rows) :
    row ∈ statuses.rows ∨
      ∃ waiting ∈ statuses.taken now writes, row.eventId = waiting.transition.eventId := by
  rcases (rows_flush (statuses.due now) (statuses.takeDue now, [])).2 member with
    old | ⟨waiting, among, takes, named⟩
  · exact Or.inl old
  · exact Or.inr ⟨waiting, mem_taken.mpr ⟨among, takes⟩, named⟩

theorem Records.unknown {bridge : StatusBridge} {report : Observed} {answers : Answers}
    (records : statuses.Records bridge report answers) :
    ¬Known (statuses.flushDue answers.flushAt answers.flushes).1.rows
      (report.transition bridge .initial).eventId := by
  rintro ⟨row, member, named⟩
  rcases rows_flushDue statuses member with old | ⟨waiting, among, same⟩
  · exact records.2.1 row old named
  · exact records.2.2 waiting among (same.symm.trans named)

end Statuses

/-! ### Runs -/

/-- A call of the status half, with the readings of the clock and the answers of the store it
meets. -/
inductive StatusCall where
  | observed (bridge : StatusBridge) (report : Observed) (channel : String)
    (answers : Statuses.Answers)
  | flushHeld (now : Nat) (writes : String → Write)

namespace StatusCall

def readings : StatusCall → List Nat
  | observed _ _ _ answers => [answers.flushAt, answers.decideAt]
  | flushHeld now _ => [now]

def reads : StatusCall → Bool
  | observed _ _ _ answers => answers.reads
  | flushHeld _ _ => true

end StatusCall

/-- The status half, and what each bridge last reported. -/
structure Watched where
  statuses : Statuses
  reported : String → Option ContractState

namespace Watched

def start (domain : String) (grace : Nat) : Watched where
  statuses := { domain, grace, held := ∅, rows := [] }
  reported := fun _ => none

def step (watched : Watched) : StatusCall → Watched
  | .observed bridge report channel answers =>
    { statuses := (watched.statuses.observed bridge report channel answers).1
      reported := fun bridgeId =>
        if bridgeId = bridge.bridgeId then some report.state else watched.reported bridgeId }
  | .flushHeld now writes =>
    { watched with statuses := (watched.statuses.flushHeld now writes).1 }

def Told (watched : Watched) : Prop :=
  ∀ bridgeId,
    (match watched.statuses.held[bridgeId]? with
      | some waiting =>
        waiting.transition.bridgeId = bridgeId ∧
          watched.reported bridgeId = some waiting.transition.toState ∧
          waiting.transition.toState ≠ watched.statuses.fromState bridgeId
      | none =>
        (bridgeStatus watched.statuses.rows bridgeId).getD .initial =
          (watched.reported bridgeId).getD .initial) ∧
    Moves (fun row : StatusRow => row.transition.fromState) (fun row => row.transition.toState)
      .initial (watched.statuses.rows.filter fun row => row.transition.bridgeId == bridgeId)

/-- What a call meets does not make it drop a report: no transition that is due and that the store
takes is a replay, the reported bridge's own excepted; a report of the recorded state, or one that
is recorded at once, finds nothing held that has outlived its window; and one that is recorded at
once is taken, and new. -/
def Orderly (watched : Watched) : StatusCall → Prop
  | .observed bridge report _ answers =>
    answers.reads = true ∧
      (∀ waiting ∈ watched.statuses.taken answers.flushAt answers.flushes,
        waiting.transition.bridgeId ≠ bridge.bridgeId →
          watched.statuses.New answers.flushAt answers.flushes waiting) ∧
      (watched.statuses.recordedThen answers.flushAt answers.flushes bridge.bridgeId =
          report.state ∨ watched.statuses.Direct report →
        watched.statuses.Cancels bridge.bridgeId answers) ∧
      (watched.statuses.recordedThen answers.flushAt answers.flushes bridge.bridgeId ≠
          report.state → watched.statuses.Direct report →
        watched.statuses.Records bridge report answers)
  | .flushHeld now writes =>
    ∀ waiting ∈ watched.statuses.taken now writes, watched.statuses.New now writes waiting

def Kept (watched : Watched) : Prop :=
  ∀ bridgeId, (watched.statuses.standing bridgeId).Sound bridgeId ∧
    (watched.statuses.standing bridgeId).Tells (watched.reported bridgeId)

variable {watched : Watched}

theorem Kept.keyed (kept : watched.Kept) : watched.statuses.Keyed :=
  fun bridgeId waiting held => ((kept bridgeId).1.follows waiting held).1

theorem Kept.told (kept : watched.Kept) : watched.Told := by
  intro bridgeId
  obtain ⟨sound, tells⟩ := kept bridgeId
  refine ⟨?_, sound.chained⟩
  have recorded := Statuses.fromState_eq_recorded watched.statuses bridgeId
  unfold Standing.Tells at tells
  cases held : watched.statuses.held[bridgeId]? with
  | some waiting =>
    rw [show (watched.statuses.standing bridgeId).held = some waiting from held] at tells
    exact ⟨(sound.follows waiting held).1, tells.1, recorded ▸ tells.2⟩
  | none =>
    rw [show (watched.statuses.standing bridgeId).held = none from held] at tells
    exact recorded.trans tells

theorem kept_start (domain : String) (grace : Nat) : (start domain grace).Kept := by
  intro bridgeId
  have held : ((start domain grace).statuses.standing bridgeId).held = none :=
    TreeMap.getElem?_emptyc
  refine ⟨⟨trivial, fun waiting is => ?_⟩, ?_⟩
  · rw [held] at is
    cases is
  · unfold Standing.Tells
    rw [held]
    rfl

theorem Kept.flushed (kept : watched.Kept) {now : Nat} {writes : String → Write}
    (new : ∀ waiting ∈ watched.statuses.taken now writes,
      waiting.transition.bridgeId = bridgeId → watched.statuses.New now writes waiting) :
    ((watched.statuses.flushDue now writes).1.standing bridgeId).Sound bridgeId ∧
      ((watched.statuses.flushDue now writes).1.standing bridgeId).Tells
        (watched.reported bridgeId) := by
  have flush := Statuses.flush_flushDue kept.keyed now writes bridgeId
  refine ⟨flush.sound (kept bridgeId).1, flush.tells (kept bridgeId).2 ?_⟩
  intro waiting held isDue takes rows others
  have own := kept.keyed bridgeId waiting held
  have among : waiting ∈ watched.statuses.taken now writes :=
    Statuses.mem_taken.mpr ⟨Statuses.mem_due.mpr ⟨bridgeId, held, isDue⟩, own ▸ takes⟩
  exact (new waiting among own).unknown (own ▸ others)

theorem kept_step (watched : Watched) (call : StatusCall) (kept : watched.Kept)
    (orderly : watched.Orderly call) : (watched.step call).Kept := by
  cases call with
  | flushHeld now writes =>
    intro bridgeId
    exact kept.flushed fun waiting among _ => orderly waiting among
  | observed bridge report channel answers =>
    obtain ⟨reads, others, cancels, records⟩ := orderly
    have decides : (watched.statuses.observed bridge report channel answers).1 =
        ((watched.statuses.flushDue answers.flushAt answers.flushes).1.decided bridge report channel
          answers.decideAt answers.write).1 := by
      unfold Statuses.observed
      dsimp only
      rw [if_pos reads]
    intro bridgeId
    show ((watched.statuses.observed bridge report channel answers).1.standing bridgeId).Sound
        bridgeId ∧ ((watched.statuses.observed bridge report channel answers).1.standing
          bridgeId).Tells (if bridgeId = bridge.bridgeId then some report.state
            else watched.reported bridgeId)
    rw [decides]
    by_cases own : bridgeId = bridge.bridgeId
    · subst own
      rw [if_pos rfl]
      have flush := Statuses.flush_flushDue kept.keyed answers.flushAt answers.flushes
        bridge.bridgeId
      have afterwards := (Statuses.recordedThen_eq kept.keyed flush others).trans
        (Statuses.fromState_eq_recorded _ _).symm
      have grace : (watched.statuses.flushDue answers.flushAt answers.flushes).1.grace =
          watched.statuses.grace := Statuses.grace_flush _ _
      have direct : (watched.statuses.flushDue answers.flushAt answers.flushes).1.Direct report →
          watched.statuses.Direct report := by
        unfold Statuses.Direct
        rw [grace]
        exact id
      rw [afterwards] at cancels records
      refine Statuses.decided_tells (flush.sound (kept _).1) ?_ ?_
      · intro applies waiting held
        exact (cancels (applies.imp_right direct)).inside flush held
      · intro moves applies
        exact ⟨(records moves (direct applies)).1, (records moves (direct applies)).unknown⟩
    · rw [if_neg own, Statuses.standing_decided_other (Ne.symm own)]
      exact kept.flushed fun waiting among is => others waiting among (is.trans_ne own)

/-! ### The result -/

/-- In every run whose calls all meet what does not make them drop a report, the owner is told what
each bridge last said, after every call. -/
theorem told_of_orderly (domain : String) (grace : Nat) (calls : List StatusCall)
    (orderly : Along step Orderly (start domain grace) calls) :
    (run step (start domain grace) calls).Told :=
  (run_invariant_along Kept kept_step (kept_start domain grace) orderly).told

instance (watched : Watched) : (call : StatusCall) → Decidable (watched.Orderly call)
  | .observed _ _ _ _ => inferInstanceAs (Decidable (_ ∧ _ ∧ _ ∧ _))
  | .flushHeld _ _ => inferInstanceAs (Decidable (∀ _ ∈ _, _))

/-! ### A bridge that recovers within the second -/

namespace WithinTheSecond

def bridge : StatusBridge := ⟨"bridge-whatsapp", .whatsapp⟩

def report (state : ContractState) (occurredAt : String) : Observed := ⟨state, none, none, occurredAt⟩

/-- A report that arrives at a reading of the clock, and that the store takes. -/
def reported (state : ContractState) (occurredAt : String) (now : Nat) : StatusCall :=
  .observed bridge (report state occurredAt) "webhook"
    ⟨now, now, fun _ => ⟨"2026-09-05T10:01:00.000Z", false⟩, true, ⟨"2026-09-05T10:01:00.000Z", false⟩⟩

def swept (now : Nat) : StatusCall := .flushHeld now fun _ => ⟨"2026-09-05T10:01:00.000Z", false⟩

/-- The bridge connects, breaks and connects again within one second, and the last of the three
reports arrives after the grace. -/
def lateRecovery : List StatusCall :=
  [reported .connected "2026-09-05T10:00:00.000Z" 0, reported .degraded "2026-09-05T10:00:00.000Z" 1,
    swept 31, reported .connected "2026-09-05T10:00:00.000Z" 32]

/-- The same, with a second between the reports. -/
def stampedApart : List StatusCall :=
  [reported .connected "2026-09-05T10:00:00.000Z" 0, reported .degraded "2026-09-05T10:00:01.000Z" 1,
    swept 31, reported .connected "2026-09-05T10:00:02.000Z" 32]

set_option maxRecDepth 10000 in
theorem told_stampedApart : (run step (start "example.org" 30) stampedApart).Told :=
  told_of_orderly "example.org" 30 stampedApart (by decide +kernel)

set_option maxRecDepth 10000 in
/-- The recovery is a replay of the first report, so the bridge stays degraded for ever. -/
theorem recovery_is_dropped :
    ¬∀ (domain : String) (grace : Nat) (calls : List StatusCall),
      (calls.flatMap StatusCall.readings).Pairwise (· ≤ ·) →
      (∀ call ∈ calls, call.reads = true) → (run step (start domain grace) calls).Told := by
  intro always
  obtain ⟨told, -⟩ := always "example.org" 30 lateRecovery (by decide) (by decide)
    "bridge-whatsapp"
  have nothing : (run step (start "example.org" 30) lateRecovery).statuses.held["bridge-whatsapp"]?.isNone =
      true := by decide +kernel
  have recorded : bridgeStatus (run step (start "example.org" 30) lateRecovery).statuses.rows
      "bridge-whatsapp" = some .degraded := by decide +kernel
  rw [Option.isNone_iff_eq_none.mp nothing, recorded] at told
  exact absurd told (by decide)

end WithinTheSecond

end Watched

end Twalk.BridgeStatus
