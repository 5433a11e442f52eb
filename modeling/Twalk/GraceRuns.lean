/-
This file is about the grace of one bridge. Where the store takes every write, the clock is read
once by a call and no transition is one the table knows, all that happens to a bridge is told by
what is held of it and what was recorded of it. A report that is worse than connected opens a
window, the reports within it move what is held and write nothing, and the window ends in one of two
ways: a report of the recorded state or of connected closes it, or the first call past it records
one transition.
-/

import Twalk.BridgeRuns

namespace Twalk.BridgeStatus

open Std

/-! ### Calls that nothing disturbs -/

variable {call : StatusCall}

namespace StatusCall

/-- The reading of the clock a call decides with. -/
def now : StatusCall → Nat
  | observed _ _ _ answers => answers.flushAt
  | flushHeld now _ => now

/-- How the store takes what is due. -/
def flushes : StatusCall → String → Write
  | observed _ _ _ answers => answers.flushes
  | flushHeld _ writes => writes

def Undisturbed : StatusCall → Prop
  | observed _ _ _ answers => answers.decideAt = answers.flushAt ∧ answers.reads = true ∧
      answers.write.fails = false ∧ ∀ bridgeId, (answers.flushes bridgeId).fails = false
  | flushHeld _ writes => ∀ bridgeId, (writes bridgeId).fails = false

def reportOf (bridgeId : String) : StatusCall → Option (StatusBridge × Observed)
  | observed bridge report _ _ =>
    if bridge.bridgeId = bridgeId then some (bridge, report) else none
  | flushHeld _ _ => none

def latestOf (bridgeId : String) (last : Observed) (call : StatusCall) : Observed :=
  ((call.reportOf bridgeId).map Prod.snd).getD last

/-- A call leaves a hold be: its window is not over, and the call reports neither the recorded state
nor connected. -/
def Lasts (call : StatusCall) (recorded : ContractState) (ends : Nat) (bridgeId : String) : Prop :=
  call.now < ends ∧
    ∀ said ∈ call.reportOf bridgeId, said.2.state ≠ recorded ∧ said.2.state ≠ .connected

def announced (call : StatusCall) (bridgeId : String) (recorded : ContractState) :
    List Transition :=
  match call.reportOf bridgeId with
  | some (bridge, report) =>
    if report.state = .connected ∧ recorded ≠ .connected then [report.transition bridge recorded]
    else []
  | none => []

theorem Undisturbed.flushes (undisturbed : call.Undisturbed) (bridgeId : String) :
    (call.flushes bridgeId).fails = false := by
  cases call with
  | observed bridge report channel answers => exact undisturbed.2.2.2 bridgeId
  | flushHeld now writes => exact undisturbed bridgeId

end StatusCall

/-- Nothing a call would record has the event id of a row, or of another transition that it
records. -/
def Watched.Fresh (watched : Watched) (call : StatusCall) : Prop :=
  (∀ waiting ∈ watched.statuses.taken call.now call.flushes,
      watched.statuses.New call.now call.flushes waiting) ∧
    match call with
    | .observed bridge report _ answers => report.state = .connected →
        watched.statuses.recordedThen call.now call.flushes bridge.bridgeId ≠ .connected →
          watched.statuses.Records bridge report answers
    | .flushHeld _ _ => True

/-! ### What is told of one bridge -/

def endOf (told : List Transition) : ContractState :=
  arrival Transition.toState .initial told

theorem endOf_concat (told : List Transition) (transition : Transition) :
    endOf (told ++ [transition]) = transition.toState :=
  arrival_concat Transition.toState .initial told transition

structure Slot where
  held : Option Held
  told : List Transition

/-- A hold once its bridge has moved again. -/
def Held.moved (waiting : Held) (report : Observed) : Held :=
  { waiting with
    transition :=
      { waiting.transition with
        toState := report.state
        reason := report.reason
        lastMessageAt := report.lastMessageAt } }

namespace Slot

/-- What is due is recorded. -/
def flush (slot : Slot) (now : Nat) : Slot :=
  match slot.held with
  | some waiting =>
    if waiting.deadline ≤ now then ⟨none, slot.told ++ [waiting.transition]⟩ else slot
  | none => slot

def decide (slot : Slot) (grace now : Nat) (bridge : StatusBridge) (report : Observed)
    (channel : String) : Slot :=
  if endOf slot.told = report.state then ⟨none, slot.told⟩
  else if report.state = .connected then
    ⟨none, slot.told ++ [report.transition bridge (endOf slot.told)]⟩
  else
    match slot.held with
    | some waiting => ⟨some (waiting.moved report), slot.told⟩
    | none => ⟨some ⟨report.transition bridge (endOf slot.told), now + grace, channel⟩, slot.told⟩

def after (grace : Nat) (bridgeId : String) (slot : Slot) : StatusCall → Slot
  | .observed bridge report channel answers =>
    if bridge.bridgeId = bridgeId then
      (slot.flush answers.flushAt).decide grace answers.flushAt bridge report channel
    else slot.flush answers.flushAt
  | .flushHeld now _ => slot.flush now

end Slot

variable {waiting : Held}

variable {now : Nat}

namespace Statuses

def told (statuses : Statuses) (bridgeId : String) : List Transition :=
  (statuses.rows.filter fun row => row.transition.bridgeId == bridgeId).map StatusRow.transition

def slot (statuses : Statuses) (bridgeId : String) : Slot :=
  ⟨statuses.held[bridgeId]?, statuses.told bridgeId⟩

variable {statuses : Statuses}

theorem slot_eq {bridgeId : String} {standing : Standing}
    (is : statuses.standing bridgeId = standing) :
    statuses.slot bridgeId = ⟨standing.held, standing.rows.map StatusRow.transition⟩ := by
  subst is
  rfl

theorem fromState_eq_endOf (statuses : Statuses) (bridgeId : String) :
    statuses.fromState bridgeId = endOf (statuses.told bridgeId) := by
  rw [fromState_eq_recorded]
  exact (List.foldl_map ..).symm

theorem slot_flushDue (keyed : statuses.Keyed) {writes : String → Write}
    (takes : ∀ bridgeId, (writes bridgeId).fails = false)
    (new : ∀ waiting ∈ statuses.taken now writes, statuses.New now writes waiting)
    (bridgeId : String) :
    (statuses.flushDue now writes).1.slot bridgeId = (statuses.slot bridgeId).flush now := by
  have flush := flush_flushDue keyed now writes bridgeId
  generalize is : (statuses.flushDue now writes).1.standing bridgeId = standing at flush
  rw [slot_eq is]
  unfold Slot.flush
  cases flush with
  | quiet early =>
    cases held : statuses.held[bridgeId]? with
    | none =>
      rw [show (statuses.slot bridgeId).held = none from held]
      rfl
    | some waiting =>
      rw [show (statuses.slot bridgeId).held = some waiting from held]
      dsimp only
      rw [if_neg (Nat.not_le.mpr (early waiting held))]
      rfl
  | due waiting rows after held isDue others flushed =>
    rw [show (statuses.slot bridgeId).held = some waiting from held]
    dsimp only
    rw [if_pos isDue]
    have own := keyed bridgeId waiting held
    cases flushed with
    | kept fails => exact absurd ((takes bridgeId).symm.trans fails) (by decide)
    | dropped taken known =>
      have among : waiting ∈ statuses.taken now writes :=
        mem_taken.mpr ⟨mem_due.mpr ⟨bridgeId, held, isDue⟩, takes _⟩
      exact absurd known ((new waiting among).unknown (own ▸ others))
    | recorded row taken fresh carries =>
      rw [List.map_append, List.map_singleton, carries]
      rfl

theorem inside_flush {slot : Slot} (held : (slot.flush now).held = some waiting) :
    now < waiting.deadline := by
  unfold Slot.flush at held
  cases before : slot.held with
  | none =>
    rw [before] at held
    dsimp only at held
    rw [before] at held
    cases held
  | some first =>
    rw [before] at held
    dsimp only at held
    by_cases isDue : first.deadline ≤ now
    · rw [if_pos isDue] at held
      cases held
    · rw [if_neg isDue, before] at held
      rw [← Option.some.inj held]
      exact Nat.not_le.mp isDue

theorem slot_hold (statuses : Statuses) (bridge : StatusBridge) (report : Observed)
    (channel : String) (now : Nat) :
    (statuses.hold (report.transition bridge (statuses.fromState bridge.bridgeId)) channel
        now).slot bridge.bridgeId =
      match statuses.held[bridge.bridgeId]? with
      | some waiting => ⟨some (waiting.moved report), statuses.told bridge.bridgeId⟩
      | none => ⟨some ⟨report.transition bridge (statuses.fromState bridge.bridgeId),
          now + statuses.grace, channel⟩, statuses.told bridge.bridgeId⟩ := by
  have named : (report.transition bridge (statuses.fromState bridge.bridgeId)).bridgeId =
      bridge.bridgeId := rfl
  unfold hold
  rw [named]
  cases held : statuses.held[bridge.bridgeId]? with
  | some waiting =>
    dsimp only
    unfold slot told
    rw [TreeMap.getElem?_insert_self]
    rfl
  | none =>
    dsimp only
    unfold slot told
    rw [TreeMap.getElem?_insert_self]

theorem slot_decided {bridge : StatusBridge} {report : Observed} {channel : String} {write : Write}
    (waits : statuses.grace ≠ 0)
    (inside : ∀ waiting, statuses.held[bridge.bridgeId]? = some waiting → now < waiting.deadline)
    (takes : write.fails = false)
    (new : report.state = .connected → statuses.fromState bridge.bridgeId ≠ .connected →
      ¬Known statuses.rows (report.transition bridge .initial).eventId) :
    (statuses.decided bridge report channel now write).1.slot bridge.bridgeId =
      (statuses.slot bridge.bridgeId).decide statuses.grace now bridge report channel := by
  have settled := slot_eq (standing_settled inside)
  have recorded := fromState_eq_endOf statuses bridge.bridgeId
  unfold decided Slot.decide
  dsimp only
  rw [show (statuses.slot bridge.bridgeId).told = statuses.told bridge.bridgeId from rfl,
    ← recorded]
  by_cases same : statuses.fromState bridge.bridgeId = report.state
  · rw [if_pos same, if_pos same]
    exact settled
  · rw [if_neg same, if_neg same]
    by_cases good : report.state = .connected
    · rw [if_neg fun bad => bad.1 good, if_pos good]
      generalize outcomeIs : recordBridgeStatus _ _ _ write = outcome
      have recording := recording_recordBridgeStatus
        (statuses.settled bridge.bridgeId now).1.rows
        (report.transition bridge (statuses.fromState bridge.bridgeId))
        (statuses.settled bridge.bridgeId now).1.domain write
      rw [outcomeIs] at recording
      cases recording with
      | failed failure fails => exact absurd (takes.symm.trans fails) (by decide)
      | replayed committed _ known =>
        exact absurd (rows_settled statuses _ ▸ known) (new good (good ▸ same))
      | appended row committed _ _ named carries =>
        dsimp only
        rw [slot_eq (standing_append_own (by rw [carries]; rfl)), standing_settled inside,
          List.map_append, List.map_singleton, carries]
        rfl
    · rw [if_pos ⟨good, waits⟩, if_neg good, slot_hold]
      rfl

theorem grace_decided {bridge : StatusBridge} {report : Observed} {channel : String} {write : Write}
    :
    (statuses.decided bridge report channel now write).1.grace = statuses.grace := by
  have settled : (statuses.settled bridge.bridgeId now).1.grace = statuses.grace := by
    unfold Statuses.settled
    split <;> rfl
  have held : ∀ transition, (statuses.hold transition channel now).grace = statuses.grace := by
    intro transition
    unfold hold
    dsimp only
    split <;> rfl
  unfold decided
  dsimp only
  split
  · exact settled
  · split
    · exact held _
    · split <;> exact settled

end Statuses

namespace Watched

variable {watched : Watched}

theorem orderly_of_fresh (waits : watched.statuses.grace ≠ 0) (undisturbed : call.Undisturbed)
    (fresh : watched.Fresh call) : watched.Orderly call := by
  cases call with
  | flushHeld now writes => exact fresh.1
  | observed bridge report channel answers =>
    obtain ⟨once, reads, _, takes⟩ := undisturbed
    refine ⟨reads, fun waiting among _ => fresh.1 waiting among, fun _ waiting held => ?_,
      fun moves direct => ?_⟩
    · by_cases isDue : waiting.deadline ≤ answers.flushAt
      · rw [if_pos isDue]
        exact takes bridge.bridgeId
      · rw [if_neg isDue, once]
        exact Nat.not_le.mp isDue
    · have good : report.state = .connected := direct.elim id fun none => absurd none waits
      exact fresh.2 good (good ▸ moves)

theorem slot_step (kept : watched.Kept) (waits : watched.statuses.grace ≠ 0)
    (undisturbed : call.Undisturbed) (fresh : watched.Fresh call) (bridgeId : String) :
    (watched.step call).statuses.slot bridgeId =
      (watched.statuses.slot bridgeId).after watched.statuses.grace bridgeId call := by
  have flushed := Statuses.slot_flushDue kept.keyed undisturbed.flushes fresh.1
  cases call with
  | flushHeld now writes => exact flushed bridgeId
  | observed bridge report channel answers =>
    obtain ⟨once, reads, takes, _⟩ := undisturbed
    have decides : (watched.step (.observed bridge report channel answers)).statuses =
        ((watched.statuses.flushDue answers.flushAt answers.flushes).1.decided bridge report channel
          answers.decideAt answers.write).1 := by
      show (watched.statuses.observed bridge report channel answers).1 = _
      unfold Statuses.observed
      dsimp only
      rw [if_pos reads]
    have grace : (watched.statuses.flushDue answers.flushAt answers.flushes).1.grace =
        watched.statuses.grace := Statuses.grace_flush _ _
    rw [decides, once]
    unfold Slot.after
    dsimp only
    by_cases own : bridge.bridgeId = bridgeId
    · subst own
      have own : (watched.statuses.flushDue answers.flushAt answers.flushes).1.slot
          bridge.bridgeId = (watched.statuses.slot bridge.bridgeId).flush answers.flushAt :=
        flushed bridge.bridgeId
      rw [if_pos rfl, ← grace, ← own]
      refine Statuses.slot_decided (grace ▸ waits) (fun waiting held => ?_) takes ?_
      · have isHeld : ((watched.statuses.slot bridge.bridgeId).flush answers.flushAt).held =
            some waiting := by
          rw [← own]
          exact held
        exact Statuses.inside_flush isHeld
      · intro good moves
        have flush := Statuses.flush_flushDue kept.keyed answers.flushAt answers.flushes
          bridge.bridgeId
        have afterwards := (Statuses.recordedThen_eq kept.keyed flush fun waiting among _ =>
          fresh.1 waiting among).trans (Statuses.fromState_eq_recorded _ _).symm
        exact (fresh.2 good (afterwards ▸ moves)).unknown
    · rw [if_neg own]
      have other : ((watched.statuses.flushDue answers.flushAt answers.flushes).1.decided bridge
          report channel answers.flushAt answers.write).1.standing bridgeId =
            (watched.statuses.flushDue answers.flushAt answers.flushes).1.standing bridgeId :=
        Statuses.standing_decided_other own
      rw [Statuses.slot_eq other]
      exact flushed bridgeId

theorem grace_step (watched : Watched) (call : StatusCall) :
    (watched.step call).statuses.grace = watched.statuses.grace := by
  cases call with
  | flushHeld now writes => exact Statuses.grace_flush _ _
  | observed bridge report channel answers =>
    have flushed : (watched.statuses.flushDue answers.flushAt answers.flushes).1.grace =
        watched.statuses.grace := Statuses.grace_flush _ _
    show (watched.statuses.observed bridge report channel answers).1.grace = _
    unfold Statuses.observed
    dsimp only
    split
    · rw [Statuses.grace_decided, flushed]
    · exact flushed

/-- A run of calls that are fresh and undisturbed keeps what is said of the bridges, and does to
each bridge what the calls do to its slot. -/
theorem slot_run {calls : List StatusCall} (kept : watched.Kept)
    (waits : watched.statuses.grace ≠ 0) (undisturbed : ∀ call ∈ calls, call.Undisturbed)
    (fresh : Along step Fresh watched calls) :
    (run step watched calls).Kept ∧
      (run step watched calls).statuses.grace = watched.statuses.grace ∧
      ∀ bridgeId, (run step watched calls).statuses.slot bridgeId =
        run (Slot.after watched.statuses.grace bridgeId) (watched.statuses.slot bridgeId)
          calls := by
  induction calls generalizing watched with
  | nil => exact ⟨kept, rfl, fun _ => rfl⟩
  | cons call rest inductionHypothesis =>
    obtain ⟨now, later⟩ := fresh
    have isUndisturbed := undisturbed call List.mem_cons_self
    have grace := watched.grace_step call
    obtain ⟨keptThen, graceThen, slots⟩ := inductionHypothesis
      (kept_step watched call kept (orderly_of_fresh waits isUndisturbed now)) (grace ▸ waits)
      (fun other member => undisturbed other (List.mem_cons_of_mem call member)) later
    refine ⟨keptThen, graceThen.trans grace, fun bridgeId => ?_⟩
    rw [run_cons, run_cons, slots, slot_step kept waits isUndisturbed now, grace]

end Watched

/-! ### One window -/

namespace Slot

variable {grace : Nat} {bridgeId : String}

theorem flush_of_inside {slot : Slot} (held : slot.held = some waiting)
    (inside : now < waiting.deadline) : slot.flush now = slot := by
  unfold flush
  rw [held]
  dsimp only
  rw [if_neg (Nat.not_le.mpr inside)]

theorem flush_of_due {slot : Slot} (held : slot.held = some waiting)
    (isDue : waiting.deadline ≤ now) :
    slot.flush now = ⟨none, slot.told ++ [waiting.transition]⟩ := by
  unfold flush
  rw [held]
  dsimp only
  rw [if_pos isDue]

theorem after_eq (slot : Slot) (call : StatusCall) :
    (call.reportOf bridgeId = none ∧ slot.after grace bridgeId call = slot.flush call.now) ∨
      ∃ bridge report channel, call.reportOf bridgeId = some (bridge, report) ∧
        bridge.bridgeId = bridgeId ∧ slot.after grace bridgeId call =
          (slot.flush call.now).decide grace call.now bridge report channel := by
  cases call with
  | flushHeld now writes => exact .inl ⟨rfl, rfl⟩
  | observed bridge report channel answers =>
    by_cases own : bridge.bridgeId = bridgeId
    · exact .inr ⟨bridge, report, channel, if_pos own, own, if_pos own⟩
    · exact .inl ⟨if_neg own, if_neg own⟩

theorem after_of_starts {slot : Slot} {bridge : StatusBridge} {report : Observed}
    (isDue : ∀ waiting ∈ slot.held, waiting.deadline ≤ call.now)
    (reports : call.reportOf bridgeId = some (bridge, report))
    (holds : (slot.after grace bridgeId call).held.isSome = true) :
    ∃ channel, slot.after grace bridgeId call =
      ⟨some ⟨report.transition bridge (endOf (slot.after grace bridgeId call).told),
        call.now + grace, channel⟩, (slot.after grace bridgeId call).told⟩ := by
  have empty : (slot.flush call.now).held = none := by
    cases held : slot.held with
    | none =>
      unfold flush
      rw [held]
      exact held
    | some waiting => rw [flush_of_due held (isDue waiting held)]
  rcases slot.after_eq call with ⟨nothing, _⟩ | ⟨reporter, said, channel, same, _, is⟩
  · rw [nothing] at reports
    cases reports
  · rw [same] at reports
    obtain ⟨rfl, rfl⟩ := Prod.mk.inj (Option.some.inj reports)
    refine ⟨channel, ?_⟩
    rw [is] at holds ⊢
    unfold decide at holds ⊢
    by_cases isRecorded : endOf (slot.flush call.now).told = said.state
    · rw [if_pos isRecorded] at holds
      cases holds
    · rw [if_neg isRecorded] at holds ⊢
      by_cases good : said.state = .connected
      · rw [if_pos good] at holds
        cases holds
      · rw [if_neg good, empty]

theorem after_of_lasts {opened : Held} {told : List Transition} {last : Observed}
    (lasts : call.Lasts (endOf told) opened.deadline bridgeId) :
    (Slot.mk (some (opened.moved last)) told).after grace bridgeId call =
      ⟨some (opened.moved (StatusCall.latestOf bridgeId last call)), told⟩ := by
  obtain ⟨inside, others⟩ := lasts
  have flushed : (Slot.mk (some (opened.moved last)) told).flush call.now =
      ⟨some (opened.moved last), told⟩ := flush_of_inside rfl inside
  unfold StatusCall.latestOf
  rcases after_eq (Slot.mk (some (opened.moved last)) told) call with
    ⟨nothing, is⟩ | ⟨bridge, report, channel, same, _, is⟩
  · rw [is, flushed, nothing]
    rfl
  · obtain ⟨apart, bad⟩ := others (bridge, report) same
    rw [is, flushed, same]
    unfold decide
    rw [if_neg fun isRecorded => apart isRecorded.symm, if_neg bad]
    rfl

theorem run_of_lasts {opened : Held} {told : List Transition} {last : Observed}
    {calls : List StatusCall}
    (lasts : ∀ call ∈ calls, call.Lasts (endOf told) opened.deadline bridgeId) :
    run (after grace bridgeId) ⟨some (opened.moved last), told⟩ calls =
      ⟨some (opened.moved (calls.foldl (StatusCall.latestOf bridgeId) last)),
        told⟩ := by
  induction calls generalizing last with
  | nil => rfl
  | cons call rest inductionHypothesis =>
    rw [run_cons, after_of_lasts (lasts call List.mem_cons_self),
      inductionHypothesis fun other member => lasts other (List.mem_cons_of_mem call member)]
    rfl

theorem after_of_closes {slot : Slot} (held : slot.held = some waiting)
    (inside : call.now < waiting.deadline) {said : StatusBridge × Observed}
    (reports : call.reportOf bridgeId = some said)
    (closes : said.2.state = endOf slot.told ∨ said.2.state = .connected) :
    slot.after grace bridgeId call =
      ⟨none, slot.told ++ call.announced bridgeId (endOf slot.told)⟩ := by
  rcases slot.after_eq call with ⟨nothing, _⟩ | ⟨bridge, report, channel, same, _, is⟩
  · rw [nothing] at reports
    cases reports
  · rw [is, flush_of_inside held inside]
    rw [same] at reports
    obtain rfl := Option.some.inj reports
    unfold decide StatusCall.announced
    rw [same]
    dsimp only at closes ⊢
    by_cases isRecorded : endOf slot.told = report.state
    · rw [if_pos isRecorded, if_neg fun both => both.2 (isRecorded.trans both.1),
        List.append_nil]
    · have good : report.state = .connected :=
        closes.elim (fun again => absurd again.symm isRecorded) id
      rw [if_neg isRecorded, if_pos good, if_pos ⟨good, fun already =>
        isRecorded (already.trans good.symm)⟩]

theorem told_after (slot : Slot) (call : StatusCall) :
    (slot.after grace bridgeId call).told = (slot.flush call.now).told ++
      call.announced bridgeId (endOf (slot.flush call.now).told) := by
  unfold StatusCall.announced
  rcases slot.after_eq call with ⟨nothing, is⟩ | ⟨bridge, report, channel, same, _, is⟩
  · rw [is, nothing]
    exact (List.append_nil _).symm
  · rw [is, same]
    unfold decide
    dsimp only
    by_cases isRecorded : endOf (slot.flush call.now).told = report.state
    · rw [if_pos isRecorded, if_neg fun both => both.2 (isRecorded.trans both.1),
        List.append_nil]
    · rw [if_neg isRecorded]
      by_cases good : report.state = .connected
      · rw [if_pos good, if_pos ⟨good, fun already => isRecorded (already.trans good.symm)⟩]
      · rw [if_neg good, if_neg fun both => good both.1, List.append_nil]
        cases (slot.flush call.now).held <;> rfl

end Slot

/-! ### The result -/

namespace Watched

/-- A call starts a hold: what was held of the bridge, if anything, was due, and something is held
afterwards. -/
def Starts (watched : Watched) (call : StatusCall) (bridgeId : String) : Prop :=
  (∀ waiting ∈ watched.statuses.held[bridgeId]?, waiting.deadline ≤ call.now) ∧
    (watched.step call).statuses.held[bridgeId]?.isSome = true

/-- One window, from the call that opened it, through what left it open, to the next call: nothing
is written while it is open; within it a report of the recorded state or of connected ends it, and
writes no more than the recovery; past it one transition is recorded, from the state that was
recorded when it opened to the last one that was reported, dated with the first report. -/
structure OneTransition (opened waiting closed : Watched) (bridgeId : String)
    (bridge : StatusBridge) (first last : Observed) (ends : Nat) (next : StatusCall) : Prop where
  unwritten : waiting.statuses.told bridgeId = opened.statuses.told bridgeId
  waits : waiting.statuses.held[bridgeId]?.isSome = true
  closes : next.now < ends → ∀ said ∈ next.reportOf bridgeId,
    said.2.state = opened.statuses.fromState bridgeId ∨ said.2.state = .connected →
      closed.statuses.held[bridgeId]? = none ∧ closed.statuses.told bridgeId =
        opened.statuses.told bridgeId ++
          next.announced bridgeId (opened.statuses.fromState bridgeId)
  records : ends ≤ next.now → closed.statuses.told bridgeId =
    opened.statuses.told bridgeId ++
      [{ first.transition bridge (opened.statuses.fromState bridgeId) with
        toState := last.state
        reason := last.reason
        lastMessageAt := last.lastMessageAt }] ++ next.announced bridgeId last.state

/-- A blip of a bridge is one window and at most one transition, and a recovery is recorded by the
call that reports it, all along a run. -/
structure OneWindow (opening : Watched) (calls : List StatusCall) (bridgeId : String) : Prop where
  window : ∀ front opens middle next bridge first,
    front ++ opens :: (middle ++ [next]) <+: calls →
    opens.reportOf bridgeId = some (bridge, first) →
    (run step opening front).Starts opens bridgeId →
    (∀ call ∈ middle, call.Lasts ((run step opening (front ++ [opens])).statuses.fromState bridgeId)
      (opens.now + opening.statuses.grace) bridgeId) →
    OneTransition (run step opening (front ++ [opens]))
      (run step opening (front ++ opens :: middle))
      (run step opening (front ++ opens :: (middle ++ [next]))) bridgeId bridge first
      (middle.foldl (StatusCall.latestOf bridgeId) first)
      (opens.now + opening.statuses.grace) next
  recovers : ∀ front next, front ++ [next] <+: calls → ∀ said ∈ next.reportOf bridgeId,
    said.2.state = .connected →
    ∀ flushed, ((run step opening front).statuses.flushDue next.now next.flushes).1 = flushed →
      flushed.fromState bridgeId ≠ .connected →
        (run step opening (front ++ [next])).statuses.told bridgeId =
          flushed.told bridgeId ++ [said.2.transition said.1 (flushed.fromState bridgeId)]

theorem oneTransition_of_slots {before waiting closed : Watched} {opens next : StatusCall}
    {middle : List StatusCall} {grace : Nat} {bridgeId : String} {bridge : StatusBridge}
    {first : Observed} (reports : opens.reportOf bridgeId = some (bridge, first))
    (starts : before.Starts opens bridgeId)
    (opened : (before.step opens).statuses.slot bridgeId =
      (before.statuses.slot bridgeId).after grace bridgeId opens)
    (lasts : ∀ call ∈ middle, call.Lasts ((before.step opens).statuses.fromState bridgeId)
      (opens.now + grace) bridgeId)
    (waited : waiting.statuses.slot bridgeId = run (Slot.after grace bridgeId)
      ((before.step opens).statuses.slot bridgeId) middle)
    (goesOn : closed.statuses.slot bridgeId =
      (waiting.statuses.slot bridgeId).after grace bridgeId next) :
    OneTransition (before.step opens) waiting closed bridgeId bridge first
      (middle.foldl (StatusCall.latestOf bridgeId) first) (opens.now + grace) next := by
  obtain ⟨isDue, holds⟩ := starts
  have recorded := Statuses.fromState_eq_endOf (before.step opens).statuses bridgeId
  have holdsSlot : ((before.statuses.slot bridgeId).after grace bridgeId opens).held.isSome =
      true := by
    rw [← opened]
    exact holds
  obtain ⟨channel, is⟩ := Slot.after_of_starts isDue reports holdsSlot
  rw [← opened] at is
  have window : waiting.statuses.slot bridgeId =
      ⟨some (Held.moved
        ⟨first.transition bridge (endOf ((before.step opens).statuses.told bridgeId)),
          opens.now + grace, channel⟩ (middle.foldl (StatusCall.latestOf bridgeId) first)),
        (before.step opens).statuses.told bridgeId⟩ := by
    rw [waited, is]
    exact @Slot.run_of_lasts grace bridgeId
      ⟨first.transition bridge (endOf ((before.step opens).statuses.told bridgeId)),
        opens.now + grace, channel⟩ _ first middle fun call member => recorded ▸ lasts call member
  have held : waiting.statuses.held[bridgeId]? = _ := congrArg Slot.held window
  have told : waiting.statuses.told bridgeId = _ := congrArg Slot.told window
  refine ⟨told, by rw [held]; rfl, fun inside said reported ends => ?_, fun isPast => ?_⟩
  · have endsSlot : said.2.state = endOf (waiting.statuses.slot bridgeId).told ∨
        said.2.state = .connected := by
      rw [window]
      exact recorded ▸ ends
    have after := goesOn.trans (Slot.after_of_closes held inside reported endsSlot)
    refine ⟨congrArg Slot.held after, (congrArg Slot.told after).trans ?_⟩
    rw [recorded, window]
  · have after := (congrArg Slot.told goesOn).trans (Slot.told_after _ next)
    rw [window, Slot.flush_of_due rfl isPast] at after
    refine after.trans ?_
    dsimp only
    rw [recorded, endOf_concat]
    rfl

theorem slot_append {opening : Watched} {calls front back : List StatusCall} (kept : opening.Kept)
    (waits : opening.statuses.grace ≠ 0) (undisturbed : ∀ call ∈ calls, call.Undisturbed)
    (fresh : Along step Fresh opening calls) (isPrefix : front ++ back <+: calls)
    (bridgeId : String) :
    (run step opening (front ++ back)).statuses.slot bridgeId =
      run (Slot.after opening.statuses.grace bridgeId)
        ((run step opening front).statuses.slot bridgeId) back := by
  obtain ⟨rest, rfl⟩ := isPrefix
  rw [List.append_assoc] at undisturbed fresh
  obtain ⟨freshFront, freshBack⟩ := along_append.mp fresh
  obtain ⟨keptThen, grace, _⟩ := slot_run kept waits
    (fun call member => undisturbed call (List.mem_append_left _ member)) freshFront
  obtain ⟨_, _, slots⟩ := slot_run keptThen (grace ▸ waits) (fun call member =>
    undisturbed call (List.mem_append_right front (List.mem_append_left rest member)))
    (along_append.mp freshBack).1
  rw [run_append, slots, grace]

theorem oneWindow_of_kept {opening : Watched} {calls : List StatusCall} (kept : opening.Kept)
    (waits : opening.statuses.grace ≠ 0) (undisturbed : ∀ call ∈ calls, call.Undisturbed)
    (fresh : Along step Fresh opening calls) (bridgeId : String) :
    OneWindow opening calls bridgeId := by
  have slots : ∀ {front back}, front ++ back <+: calls →
      (run step opening (front ++ back)).statuses.slot bridgeId =
        run (Slot.after opening.statuses.grace bridgeId)
          ((run step opening front).statuses.slot bridgeId) back :=
    fun isPrefix => slot_append kept waits undisturbed fresh isPrefix bridgeId
  constructor
  · intro front opens middle next bridge first isPrefix reports starts lasts
    rw [show front ++ opens :: (middle ++ [next]) = front ++ [opens] ++ middle ++ [next] by simp]
      at isPrefix ⊢
    rw [show front ++ opens :: middle = front ++ [opens] ++ middle by simp]
    have upToNext : front ++ [opens] ++ middle <+: calls :=
      List.IsPrefix.trans (List.prefix_append _ _) isPrefix
    have upToMiddle : front ++ [opens] <+: calls :=
      List.IsPrefix.trans (List.prefix_append _ _) upToNext
    have isStep : run step opening (front ++ [opens]) = (run step opening front).step opens := by
      rw [run_append]
      rfl
    have opened := slots upToMiddle
    have waited := slots upToNext
    have closed := slots isPrefix
    rw [isStep] at opened waited lasts ⊢
    exact oneTransition_of_slots reports starts opened lasts waited closed
  · intro front next isPrefix said reports good flushed isFlushed moves
    obtain ⟨rest, rfl⟩ := isPrefix
    rw [List.append_assoc] at undisturbed fresh
    obtain ⟨freshFront, freshNext, _⟩ := along_append.mp fresh
    obtain ⟨keptThen, _, _⟩ := slot_run kept waits
      (fun call member => undisturbed call (List.mem_append_left _ member)) freshFront
    have isNext : next ∈ front ++ ([next] ++ rest) :=
      List.mem_append_right front List.mem_cons_self
    have due := Statuses.slot_flushDue keptThen.keyed (undisturbed next isNext).flushes
      freshNext.1 bridgeId
    rw [isFlushed] at due
    have upToNext : front ++ [next] <+: front ++ [next] ++ rest := List.prefix_append _ _
    have after := congrArg Slot.told (slots upToNext)
    rw [run_cons, run_nil, Slot.told_after, ← due] at after
    refine after.trans ?_
    unfold StatusCall.announced
    rw [reports]
    dsimp only
    rw [← show flushed.fromState bridgeId = endOf (flushed.slot bridgeId).told from
      Statuses.fromState_eq_endOf flushed bridgeId, if_pos ⟨good, moves⟩]
    rfl

/-- In every run whose calls are not disturbed and record nothing that the table knows, a blip of a
bridge is one window and at most one transition. -/
theorem oneWindow_of_fresh (domain : String) {grace : Nat} (waits : 0 < grace)
    {calls : List StatusCall} (undisturbed : ∀ call ∈ calls, call.Undisturbed)
    (fresh : Along step Fresh (start domain grace) calls) (bridgeId : String) :
    OneWindow (start domain grace) calls bridgeId :=
  oneWindow_of_kept (kept_start domain grace) (Nat.pos_iff_ne_zero.mp waits) undisturbed fresh
    bridgeId

instance (watched : Watched) : (call : StatusCall) → Decidable (watched.Fresh call)
  | .observed _ _ _ _ => inferInstanceAs (Decidable ((∀ _ ∈ _, _) ∧ (_ → _ → _)))
  | .flushHeld _ _ => inferInstanceAs (Decidable ((∀ _ ∈ _, _) ∧ True))

namespace WithinTheSecond

theorem undisturbed_reported (state : ContractState) (occurredAt : String) (now : Nat) :
    (reported state occurredAt now).Undisturbed := ⟨rfl, rfl, rfl, fun _ => rfl⟩

theorem undisturbed_swept (now : Nat) : (swept now).Undisturbed := fun _ => rfl

set_option maxRecDepth 10000 in
theorem oneWindow_stampedApart :
    OneWindow (start "example.org" 30) stampedApart "bridge-whatsapp" := by
  refine oneWindow_of_fresh "example.org" (by decide) ?_ (by decide +kernel) "bridge-whatsapp"
  intro call member
  simp only [stampedApart, List.mem_cons, List.not_mem_nil, or_false] at member
  rcases member with rfl | rfl | rfl | rfl
  · exact undisturbed_reported _ _ _
  · exact undisturbed_reported _ _ _
  · exact undisturbed_swept _
  · exact undisturbed_reported _ _ _

set_option maxRecDepth 10000 in
/-- The recovery is reported by a call that records nothing. -/
theorem recovery_unrecorded :
    ¬∀ (domain : String) (grace : Nat) (calls : List StatusCall) (bridgeId : String), 0 < grace →
      (∀ call ∈ calls, call.Undisturbed) →
      (calls.flatMap StatusCall.readings).Pairwise (· ≤ ·) →
      OneWindow (start domain grace) calls bridgeId := by
  intro always
  have quiet : ∀ call ∈ lateRecovery, call.Undisturbed := by
    intro call member
    simp only [lateRecovery, List.mem_cons, List.not_mem_nil, or_false] at member
    rcases member with rfl | rfl | rfl | rfl
    · exact undisturbed_reported _ _ _
    · exact undisturbed_reported _ _ _
    · exact undisturbed_swept _
    · exact undisturbed_reported _ _ _
  have recovers := (always "example.org" 30 lateRecovery "bridge-whatsapp" (by decide) quiet
    (by decide)).recovers (lateRecovery.take 3)
    (reported .connected "2026-09-05T10:00:00.000Z" 32) (List.prefix_refl lateRecovery)
    (bridge, report .connected "2026-09-05T10:00:00.000Z") rfl rfl _ rfl
    (by decide +kernel)
  have lengths := congrArg List.length recovers
  have one : ((run step (start "example.org" 30) lateRecovery).statuses.told
      "bridge-whatsapp").length = 2 := by decide +kernel
  have two : (((run step (start "example.org" 30) (lateRecovery.take 3)).statuses.flushDue 32
      fun _ => ⟨"2026-09-05T10:01:00.000Z", false⟩).1.told "bridge-whatsapp").length = 2 := by
    decide +kernel
  rw [List.length_append] at lengths
  exact absurd (one.symm.trans (lengths.trans (congrArg (· + 1) two))) (by decide)

end WithinTheSecond

end Watched

end Twalk.BridgeStatus
