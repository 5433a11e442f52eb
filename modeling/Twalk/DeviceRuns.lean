/-
This file is what the Sensor says of the owner's device while it runs: the announcer of
`sensor/src/main.rs`, the flags of `sensor/src/metrics.rs` and the three tasks that write
them, which are a handover that is taken, the sync loop of the device and a reply that is
sent. None of the three names the device it speaks of to the others. What is said is true
in every run in which a refusal is of the device that is held, an announcement is made
while it still holds, and a publication arrives in its turn.
-/

import Twalk.Library.System
import Twalk.ReplyRuns

namespace Twalk.Sensor

/-! ### The tasks -/

/-- An event on the bus about the owner's device. -/
structure Said where
  fromState : Option DeviceState
  toState : DeviceState
  device : Option Device
deriving DecidableEq, Repr

/-- How far a task is: it acts, and no refusal came yet; the flags are recorded; it publishes; or it
has said what it had to. -/
inductive Stage where
  | acting
  | recorded
  | publishing (said : Said)
  | said
deriving DecidableEq, Repr

def Stage.publication : Stage → Option Said
  | .publishing event => some event
  | _ => none

structure Task where
  device : Option Device
  toState : DeviceState
  stage : Stage
deriving DecidableEq, Repr

/-- The tasks that speak of the device: a handover that is taken, which is also the start; the sync
loop of the device; and the reply that is being sent. -/
inductive Speaker where
  | handover
  | syncLoop
  | reply
deriving DecidableEq, Repr

/-- The process: the device in the cell, the two flags, the state that was last announced, the
events on the bus and the tasks. The devices whose token the homeserver refused are kept beside
it. -/
structure Process where
  cell : Option Device
  present : Bool
  gone : Bool
  last : Option DeviceState
  bus : List Said
  tasks : Speaker → Option Task
  refused : List Device

def Process.started (broughtUp : BroughtUp) (device : Option Device) : Process where
  cell := none
  present := broughtUp.state != .notConfigured
  gone := broughtUp.state == .credentialGone
  last := none
  bus := []
  tasks := fun speaker => match speaker with
    | .handover => some ⟨broughtUp.client.or device, broughtUp.state, .recorded⟩
    | _ => none
  refused := []

inductive Act where
  | handedOver (device : Device)
  | replyStarted
  | replyEnded
  | refused (speaker : Speaker)
  | announced (speaker : Speaker)
  | published (speaker : Speaker) (arrives : Bool)
  | held
deriving DecidableEq, Repr

def Process.withTask (process : Process) (speaker : Speaker) (task : Option Task) : Process :=
  { process with tasks := Function.update process.tasks speaker task }

def Task.spoken (task : Task) : Speaker → Option Task
  | .handover => some { task with stage := .said }
  | _ => none

/-- One step. A refusal records that the credential is gone; an announcement of what was announced
last is dropped, and any other is recorded before it is published; and a device that is held
replaces the sync loop of the one before. -/
def Process.step (process : Process) : Act → Process
  | .handedOver device =>
    if process.tasks .handover = none then
      { process with present := true, gone := false }.withTask .handover
        (some ⟨some device, .present, .recorded⟩)
    else process
  | .replyStarted =>
    if process.tasks .reply = none && process.cell.isSome && process.present && !process.gone then
      process.withTask .reply (some ⟨process.cell, .credentialGone, .acting⟩)
    else process
  | .replyEnded =>
    match process.tasks .reply with
    | some ⟨_, _, .acting⟩ => process.withTask .reply none
    | _ => process
  | .refused speaker =>
    match process.tasks speaker with
    | some ⟨device, toState, .acting⟩ =>
      { process with
        gone := true
        refused := device.toList ++ process.refused }.withTask speaker
          (some ⟨device, toState, .recorded⟩)
    | _ => process
  | .announced speaker =>
    match process.tasks speaker with
    | some ⟨device, toState, .recorded⟩ =>
      if process.last = some toState then
        process.withTask speaker ((⟨device, toState, .recorded⟩ : Task).spoken speaker)
      else
        { process with last := some toState }.withTask speaker
          (some ⟨device, toState, .publishing ⟨process.last, toState, device⟩⟩)
    | _ => process
  | .published speaker arrives =>
    match process.tasks speaker with
    | some ⟨device, toState, .publishing said⟩ =>
      { process with
        bus := if arrives then process.bus ++ [said] else process.bus }.withTask speaker
          ((⟨device, toState, .publishing said⟩ : Task).spoken speaker)
    | _ => process
  | .held =>
    match process.tasks .handover with
    | some ⟨device, .present, .said⟩ =>
      ({ process with cell := device }.withTask .syncLoop
        (some ⟨device, .credentialGone, .acting⟩)).withTask .handover none
    | some ⟨_, _, .said⟩ => process.withTask .handover none
    | _ => process

/-! ### The truth -/

def Process.flagged (process : Process) : DeviceState :=
  if process.gone then .credentialGone else if process.present then .present else .notConfigured

def Process.stands (process : Process) : DeviceState :=
  if process.gone then .credentialGone
  else if process.cell.isSome then .present
  else .notConfigured

/-- No step is in progress: nothing is handed over or sent, and the sync loop, if there is one, just
runs. -/
structure Quiet (process : Process) : Prop where
  handover : process.tasks .handover = none
  reply : process.tasks .reply = none
  syncLoop : ∀ task, process.tasks .syncLoop = some task → task.stage = .acting

/-- What is said of the device is true of the one that is held: it is flagged as gone only when its
own token was refused, and while nothing is in progress the last event says what stands. -/
structure Truthful (process : Process) : Prop where
  flag : process.gone = true → ∀ device, process.cell = some device → device ∈ process.refused
  event : Quiet process → process.bus.getLast?.map Said.toState = some process.stands

def Process.publishesElsewhere (process : Process) (speaker : Speaker) : Bool :=
  [Speaker.handover, .syncLoop, .reply].any fun other => other != speaker &&
    (process.tasks other).any fun task => task.stage.publication.any fun event =>
      process.last == some event.toState

/-- A refusal is of the device that is held while none is handed over; what is announced is still
so; and what is published arrives and was announced last, unless what was is still being
published. -/
def Timely (process : Process) : Act → Prop
  | .refused speaker => ∀ task, process.tasks speaker = some task → task.stage = .acting →
      process.cell = task.device ∧ process.tasks .handover = none
  | .announced speaker => ∀ task, process.tasks speaker = some task → task.stage = .recorded →
      task.toState = process.flagged
  | .published speaker arrives => ∀ task, process.tasks speaker = some task →
      ∀ said, task.stage.publication = some said →
        arrives = true ∧ process.last = some said.toState ∨
          process.publishesElsewhere speaker = true
  | _ => True

instance (process : Process) : (next : Act) → Decidable (Timely process next)
  | .refused speaker => inferInstanceAs (Decidable (∀ task ∈ process.tasks speaker,
      task.stage = .acting → process.cell = task.device ∧ process.tasks .handover = none))
  | .announced speaker => inferInstanceAs (Decidable (∀ task ∈ process.tasks speaker,
      task.stage = .recorded → task.toState = process.flagged))
  | .published speaker arrives => inferInstanceAs (Decidable (∀ task ∈ process.tasks speaker,
      ∀ said ∈ task.stage.publication, arrives = true ∧ process.last = some said.toState ∨
        process.publishesElsewhere speaker = true))
  | .handedOver _ | .replyStarted | .replyEnded | .held => inferInstanceAs (Decidable True)

/-! ### What every timely step keeps -/

/-- What a task may be: only a handover announces anything but that the credential is gone; what is
published is what the task announces; and a handover announces what stands, with a device if that is
to be held, and once it announced it nothing else was. -/
structure Fits (process : Process) (speaker : Speaker) (task : Task) : Prop where
  others : speaker ≠ .handover → task.toState = .credentialGone
  publishes : ∀ said, task.stage = .publishing said → said.toState = task.toState
  acts : speaker = .handover → task.stage ≠ .acting
  stands : speaker = .handover → task.toState = process.flagged
  brings : speaker = .handover → task.toState = .present → task.device.isSome = true
  announced : speaker = .handover → task.stage ≠ .recorded → process.last = some task.toState

def Process.Pending (process : Process) (asked : Task → Prop) : Prop :=
  ∃ speaker task, process.tasks speaker = some task ∧ asked task

def Announces (state : DeviceState) (task : Task) : Prop :=
  task.stage = .recorded ∧ task.toState = state

def Publishes (state : DeviceState) (task : Task) : Prop :=
  ∃ said, task.stage = .publishing said ∧ said.toState = state

/-- What every timely step keeps: the flags are about the device that is held, what stands was
announced or is about to be, and what was announced is on the bus or about to be. -/
structure Steady (process : Process) : Prop where
  flag : process.gone = true → ∀ device, process.cell = some device → device ∈ process.refused
  present : process.cell.isSome = true → process.present = true
  held : process.flagged = .present → process.cell.isSome = true ∨
    process.tasks .handover ≠ none
  fits : ∀ speaker task, process.tasks speaker = some task → Fits process speaker task
  announced : process.last = some process.flagged ∨
    process.Pending (Announces process.flagged)
  onBus : ∀ state, process.last = some state →
    process.bus.getLast?.map Said.toState = some state ∨ process.Pending (Publishes state)

@[simp] theorem tasks_withTask_self (process : Process) (speaker : Speaker)
    (task : Option Task) : (process.withTask speaker task).tasks speaker = task :=
  Function.update_self _ _ _

theorem tasks_withTask_of_ne {speaker other : Speaker} (differ : other ≠ speaker)
    (process : Process) (task : Option Task) :
    (process.withTask speaker task).tasks other = process.tasks other :=
  Function.update_of_ne differ _ _

variable {task : Task}

theorem pending_withTask_self {asked : Task → Prop} (isAsked : asked task) (process : Process)
    (speaker : Speaker) :
    (process.withTask speaker (some task)).Pending asked :=
  ⟨speaker, task, tasks_withTask_self process speaker _, isAsked⟩

variable {process : Process} {speaker : Speaker}

theorem Process.Pending.withTask {asked : Task → Prop} (pending : process.Pending asked)
    (other : ∀ task, process.tasks speaker = some task → ¬ asked task) (task : Option Task) :
    (process.withTask speaker task).Pending asked := by
  obtain ⟨who, found, isTask, isAsked⟩ := pending
  have differ : who ≠ speaker := fun same => other found (same ▸ isTask) isAsked
  exact ⟨who, found, (tasks_withTask_of_ne differ process task).trans isTask, isAsked⟩

theorem Fits.of_same {process changed : Process} (fits : Fits process speaker task)
    (flagged : changed.flagged = process.flagged) (last : changed.last = process.last) :
    Fits changed speaker task where
  others := fits.others
  publishes := fits.publishes
  acts := fits.acts
  stands isHandover := (fits.stands isHandover).trans flagged.symm
  brings := fits.brings
  announced isHandover notRecorded := last.trans (fits.announced isHandover notRecorded)

theorem fits_withTask {task : Option Task}
    (others : ∀ other found, other ≠ speaker → process.tasks other = some found →
      Fits process other found) (new : ∀ found, task = some found → Fits process speaker found) :
    ∀ other found, (process.withTask speaker task).tasks other = some found →
      Fits (process.withTask speaker task) other found := by
  intro other found isFound
  by_cases isSpeaker : other = speaker
  · subst isSpeaker
    rw [tasks_withTask_self] at isFound
    exact (new found isFound).of_same rfl rfl
  · rw [tasks_withTask_of_ne isSpeaker] at isFound
    exact (others other found isSpeaker isFound).of_same rfl rfl

theorem fits_of_ne (differ : speaker ≠ .handover) (isGone : task.toState = .credentialGone)
    (publishes : ∀ said, task.stage = .publishing said → said.toState = task.toState) :
    Fits process speaker task where
  others _ := isGone
  publishes := publishes
  acts isHandover := absurd isHandover differ
  stands isHandover := absurd isHandover differ
  brings isHandover := absurd isHandover differ
  announced isHandover := absurd isHandover differ

theorem Fits.of_ne {process changed : Process} (differ : speaker ≠ .handover)
    (fits : Fits process speaker task) :
    Fits changed speaker task :=
  fits_of_ne differ (fits.others differ) fits.publishes

theorem Steady.truthful (steady : Steady process) : Truthful process where
  flag := steady.flag
  event quiet := by
    have resting : ∀ speaker task, process.tasks speaker = some task → task.stage = .acting := by
      intro speaker task isTask
      cases speaker with
      | handover => rw [quiet.handover] at isTask; cases isTask
      | reply => rw [quiet.reply] at isTask; cases isTask
      | syncLoop => exact quiet.syncLoop task isTask
    have lastIsFlagged : process.last = some process.flagged := by
      rcases steady.announced with announced | ⟨speaker, task, isTask, recorded, _⟩
      · exact announced
      · rw [resting speaker task isTask] at recorded
        cases recorded
    have same : process.flagged = process.stands := by
      have held := steady.held
      have present := steady.present
      rw [quiet.handover] at held
      unfold Process.flagged Process.stands at *
      grind
    rcases steady.onBus _ lastIsFlagged with onBus | ⟨speaker, task, isTask, said, publishing, _⟩
    · rw [onBus, same]
    · rw [resting speaker task isTask] at publishing
      cases publishing

theorem steady_handedOver (steady : Steady process) (device : Device) :
    Steady (process.step (.handedOver device)) := by
  dsimp only [Process.step]
  split
  · rename_i idle
    have absent : ∀ task, process.tasks .handover = some task → ∀ asked : Task → Prop,
        ¬ asked task := by
      intro task isTask
      rw [idle] at isTask
      cases isTask
    refine {
      flag := fun gone => (nomatch gone)
      present := fun _ => rfl
      held := fun _ => .inr ?_
      fits := fits_withTask ?_ ?_
      announced := .inr (pending_withTask_self ⟨rfl, rfl⟩ _ _)
      onBus := fun state isLast => ?_ }
    · rw [tasks_withTask_self]
      exact Option.some_ne_none _
    · intro other found differ isFound
      exact (steady.fits other found isFound).of_ne differ
    · rintro found ⟨⟩
      exact ⟨fun differ => absurd rfl differ, fun _ isPublishing => (nomatch isPublishing),
        fun _ isActing => (nomatch isActing), fun _ => rfl, fun _ _ => rfl,
        fun _ notRecorded => absurd rfl notRecorded⟩
    · rcases steady.onBus state isLast with onBus | pending
      · exact .inl onBus
      · exact .inr (pending.withTask (fun task isTask => absent task isTask _) _)
  · exact steady

theorem Steady.resting (steady : Steady process) (differ : speaker ≠ .handover)
    (rested : ∀ task, process.tasks speaker = some task → task.stage = .acting) {task : Option Task}
    (rests : ∀ found, task = some found → found.stage = .acting ∧ found.toState = .credentialGone) :
    Steady (process.withTask speaker task) where
  flag := steady.flag
  present := steady.present
  held flagged := by
    rw [tasks_withTask_of_ne differ.symm]
    exact steady.held flagged
  fits := by
    refine fits_withTask (fun other found _ isFound => steady.fits other found isFound) ?_
    intro found isFound
    obtain ⟨acting, isGone⟩ := rests found isFound
    refine fits_of_ne differ isGone fun said isPublishing => ?_
    rw [acting] at isPublishing
    cases isPublishing
  announced := by
    refine steady.announced.imp_right fun pending => pending.withTask ?_ task
    rintro found isFound ⟨recorded, _⟩
    rw [rested found isFound] at recorded
    cases recorded
  onBus state isLast := by
    refine (steady.onBus state isLast).imp_right fun pending => pending.withTask ?_ task
    rintro found isFound ⟨said, publishing, _⟩
    rw [rested found isFound] at publishing
    cases publishing

theorem steady_replyStarted (steady : Steady process) :
    Steady (process.step .replyStarted) := by
  dsimp only [Process.step]
  split
  · rename_i free
    have isFree : process.tasks .reply = none := by
      simp only [Bool.and_eq_true, decide_eq_true_eq] at free
      exact free.1.1.1
    refine steady.resting (by decide) (fun task isTask => ?_) ?_
    · rw [isFree] at isTask
      cases isTask
    · rintro found ⟨⟩
      exact ⟨rfl, rfl⟩
  · exact steady

theorem steady_replyEnded (steady : Steady process) :
    Steady (process.step .replyEnded) := by
  dsimp only [Process.step]
  split
  · rename_i device toState isTask
    refine steady.resting (by decide) (fun task isFound => ?_) (fun _ isNone => nomatch isNone)
    rw [isTask] at isFound
    cases isFound
    rfl
  · exact steady

/-- A refusal of the device that is held: the flag is about it, and that is about to be
announced. -/
theorem steady_refused (steady : Steady process) (speaker : Speaker)
    (timely : Timely process (.refused speaker)) :
    Steady (process.step (.refused speaker)) := by
  dsimp only [Process.step]
  split
  · rename_i device toState isTask
    obtain ⟨isHeld, idle⟩ := timely _ isTask rfl
    have fits := steady.fits speaker _ isTask
    have differ : speaker ≠ .handover := fun same => fits.acts same rfl
    have isGone : toState = .credentialGone := fits.others differ
    subst isGone
    refine {
      flag := fun _ holder isHolder => ?_
      present := steady.present
      held := fun flagged => (nomatch flagged)
      fits := fits_withTask (fun other found isOther isFound => ?_) ?_
      announced := .inr (pending_withTask_self ⟨rfl, rfl⟩ _ _)
      onBus := fun state isLast => ?_ }
    · have isDevice : device = some holder := isHeld.symm.trans isHolder
      rw [isDevice]
      exact List.mem_cons_self
    · have isOther : other ≠ .handover := by
        rintro rfl
        rw [show process.tasks .handover = some found from isFound] at idle
        cases idle
      exact (steady.fits other found isFound).of_ne isOther
    · rintro found ⟨⟩
      exact fits_of_ne differ rfl fun _ isPublishing => nomatch isPublishing
    · refine (steady.onBus state isLast).imp_right fun pending => pending.withTask ?_ _
      rintro found isFound ⟨said, publishing, _⟩
      cases isFound.symm.trans isTask
      cases publishing
  · exact steady

theorem fits_spoken (fits : Fits process speaker task)
    (announced : speaker = .handover → process.last = some task.toState) :
    ∀ found, task.spoken speaker = some found → Fits process speaker found := by
  intro found isFound
  cases speaker with
  | handover =>
    cases isFound
    exact ⟨fits.others, fun _ isPublishing => (nomatch isPublishing),
      fun _ isActing => (nomatch isActing), fits.stands, fits.brings,
      fun isHandover _ => announced isHandover⟩
  | syncLoop => cases isFound
  | reply => cases isFound

theorem handover_ne_none (isTask : process.tasks speaker = some task) {new : Option Task}
    (goesOn : speaker = .handover → new ≠ none)
    (held : process.cell.isSome = true ∨ process.tasks .handover ≠ none) :
    process.cell.isSome = true ∨ (process.withTask speaker new).tasks .handover ≠ none := by
  refine held.imp_right fun isThere => ?_
  by_cases isHandover : speaker = .handover
  · subst isHandover
    rw [tasks_withTask_self]
    exact goesOn rfl
  · rw [tasks_withTask_of_ne (Ne.symm isHandover)]
    exact isThere

theorem spoken_ne_none (task : Task) (isHandover : speaker = .handover) :
    task.spoken speaker ≠ none := by
  subst isHandover
  exact Option.some_ne_none _

/-- An announcement of what stands. -/
theorem steady_announced (steady : Steady process) (speaker : Speaker)
    (timely : Timely process (.announced speaker)) :
    Steady (process.step (.announced speaker)) := by
  dsimp only [Process.step]
  split
  · rename_i device toState isTask
    have isFlagged : toState = process.flagged := timely _ isTask rfl
    have fits := steady.fits speaker _ isTask
    have unpublished : ∀ state, ∀ task, process.tasks speaker = some task →
        ¬ Publishes state task := by
      rintro state found isFound ⟨said, publishing, _⟩
      cases isFound.symm.trans isTask
      cases publishing
    split
    · rename_i isLast
      exact {
        flag := steady.flag
        present := steady.present
        held := fun flagged =>
          handover_ne_none isTask (spoken_ne_none _) (steady.held flagged)
        fits := fits_withTask (fun other found _ isFound => steady.fits other found isFound)
          (fits_spoken fits fun _ => isLast)
        announced := .inl (isFlagged ▸ isLast)
        onBus := fun state lastIs => (steady.onBus state lastIs).imp_right fun pending =>
          pending.withTask (unpublished state) _ }
    · refine {
        flag := steady.flag
        present := steady.present
        held := fun flagged =>
          handover_ne_none isTask (fun _ => Option.some_ne_none _) (steady.held flagged)
        fits := fits_withTask (fun other found isOther isFound => ?_) ?_
        announced := .inl (congrArg some isFlagged)
        onBus := ?_ }
      · have otherFits := steady.fits other found isFound
        exact ⟨otherFits.others, otherFits.publishes, otherFits.acts, otherFits.stands,
          otherFits.brings, fun isHandover _ =>
            congrArg some (isFlagged.trans (otherFits.stands isHandover).symm)⟩
      · rintro found ⟨⟩
        refine ⟨fits.others, ?_, fun _ isActing => (nomatch isActing), fits.stands, fits.brings,
          fun _ _ => rfl⟩
        rintro said ⟨⟩
        rfl
      · rintro state ⟨⟩
        exact .inr (pending_withTask_self ⟨_, rfl, rfl⟩ _ _)
  · exact steady

theorem Process.exists_of_publishesElsewhere (process : Process)
    (elsewhere : process.publishesElsewhere speaker = true) {state : DeviceState}
    (isLast : process.last = some state) :
    ∃ other, other ≠ speaker ∧ ∃ task, process.tasks other = some task ∧
      Publishes state task := by
  unfold Process.publishesElsewhere at elsewhere
  obtain ⟨other, _, found⟩ := List.any_eq_true.mp elsewhere
  rw [Bool.and_eq_true, bne_iff_ne] at found
  obtain ⟨differ, isThere⟩ := found
  obtain ⟨task, isTask, publishes⟩ := (Option.any_eq_true _ _).mp isThere
  obtain ⟨event, isEvent, same⟩ := (Option.any_eq_true _ _).mp publishes
  refine ⟨other, differ, task, isTask, event, ?_, ?_⟩
  · cases isStage : task.stage <;> rw [isStage] at isEvent <;> cases isEvent
    rfl
  · rw [beq_iff_eq, isLast] at same
    exact (Option.some.inj same).symm

theorem steady_published (steady : Steady process) (speaker : Speaker) (arrives : Bool)
    (timely : Timely process (.published speaker arrives)) :
    Steady (process.step (.published speaker arrives)) := by
  dsimp only [Process.step]
  split
  · rename_i device toState said isTask
    have timely := timely _ isTask said rfl
    have fits := steady.fits speaker _ isTask
    refine {
      flag := steady.flag
      present := steady.present
      held := fun flagged => handover_ne_none isTask (spoken_ne_none _) (steady.held flagged)
      fits := fits_withTask (fun other found _ isFound => ?_) (fits_spoken ?_ ?_)
      announced := steady.announced.imp_right fun pending => pending.withTask ?_ _
      onBus := fun state lastIs => ?_ }
    · exact (steady.fits other found isFound).of_same rfl rfl
    · exact fits.of_same rfl rfl
    · exact fun isHandover => fits.announced isHandover fun isRecorded => nomatch isRecorded
    · rcases timely with ⟨rfl, isLast⟩ | elsewhere
      · have same : said.toState = state := Option.some.inj (isLast.symm.trans lastIs)
        refine .inl ?_
        dsimp only [Process.withTask]
        rw [if_pos rfl, List.getLast?_concat, Option.map_some, same]
      · obtain ⟨other, differ, task, isOther, publishes⟩ :=
          process.exists_of_publishesElsewhere elsewhere lastIs
        exact .inr ⟨other, task, (tasks_withTask_of_ne differ _ _).trans isOther, publishes⟩
    · rintro found isFound ⟨recorded, _⟩
      cases isFound.symm.trans isTask
      cases recorded
  · exact steady

theorem steady_held (steady : Steady process) :
    Steady (process.step .held) := by
  dsimp only [Process.step]
  split
  · rename_i device isTask
    have fits := steady.fits _ _ isTask
    have flagged : process.flagged = .present := (fits.stands rfl).symm
    have isLast : process.last = some .present := fits.announced rfl fun isSaid => nomatch isSaid
    have brings : device.isSome = true := fits.brings rfl rfl
    have notGone : process.gone = false := by
      unfold Process.flagged at flagged
      cases isGone : process.gone with
      | false => rfl
      | true =>
        rw [isGone] at flagged
        cases flagged
    have present : process.present = true := by
      unfold Process.flagged at flagged
      rw [notGone, if_neg Bool.false_ne_true] at flagged
      cases isPresent : process.present with
      | true => rfl
      | false =>
        rw [isPresent] at flagged
        cases flagged
    refine {
      flag := fun gone => ?_
      present := fun _ => present
      held := fun _ => .inl brings
      fits := fits_withTask (fun other found isOther isFound => ?_) fun _ isNone => nomatch isNone
      announced := .inl (isLast.trans (congrArg some flagged.symm))
      onBus := fun state lastIs => ?_ }
    · rw [show process.gone = true from gone] at notGone
      cases notGone
    · have inTasks : ∀ other found,
          (({ process with cell := device } : Process).withTask .syncLoop
            (some ⟨device, .credentialGone, .acting⟩)).tasks other = some found →
          Fits _ other found :=
        fits_withTask (fun other found _ isFound => (steady.fits other found isFound).of_same rfl rfl)
          (by
            rintro found ⟨⟩
            exact fits_of_ne (by decide) rfl fun _ isPublishing => nomatch isPublishing)
      exact inTasks other found isFound
    · have isState : state = .present := Option.some.inj (Eq.symm (isLast.symm.trans lastIs))
      refine (steady.onBus state lastIs).imp_right fun pending => ?_
      have loopKept : (({ process with cell := device } : Process).withTask .syncLoop
          (some ⟨device, .credentialGone, .acting⟩)).Pending (Publishes state) := by
        refine Process.Pending.withTask pending ?_ _
        rintro found isFound ⟨said, publishing, isSaid⟩
        have loopFits := steady.fits _ found isFound
        have isGone := (loopFits.publishes said publishing).trans (loopFits.others (by decide))
        rw [isSaid, isState] at isGone
        cases isGone
      refine loopKept.withTask ?_ _
      rintro found isFound ⟨said, publishing, _⟩
      rw [tasks_withTask_of_ne (by decide)] at isFound
      cases isFound.symm.trans isTask
      cases publishing
  · rename_i device toState notPresent isTask
    have fits := steady.fits _ _ isTask
    have flagged : process.flagged = toState := (fits.stands rfl).symm
    have isLast : process.last = some toState := fits.announced rfl fun isSaid => nomatch isSaid
    refine {
      flag := steady.flag
      present := steady.present
      held := fun isPresent => ?_
      fits := fits_withTask (fun other found _ isFound => steady.fits other found isFound)
        fun _ isNone => nomatch isNone
      announced := .inl (isLast.trans (congrArg some flagged.symm))
      onBus := fun state lastIs => (steady.onBus state lastIs).imp_right fun pending =>
        pending.withTask ?_ _ }
    · exact absurd (flagged.symm.trans isPresent) notPresent
    · rintro found isFound ⟨said, publishing, _⟩
      cases isFound.symm.trans isTask
      cases publishing
  · exact steady

theorem steady_step (steady : Steady process) (next : Act) (timely : Timely process next) :
    Steady (process.step next) := by
  cases next with
  | handedOver device => exact steady_handedOver steady device
  | replyStarted => exact steady_replyStarted steady
  | replyEnded => exact steady_replyEnded steady
  | refused speaker => exact steady_refused steady speaker timely
  | announced speaker => exact steady_announced steady speaker timely
  | published speaker arrives => exact steady_published steady speaker arrives timely
  | held => exact steady_held steady

theorem steady_started {setup : Setup} {volume : Option Device} {broughtUp : BroughtUp}
    (isUp : bringUpOwnerDevice setup volume = some broughtUp) (device : Option Device) :
    Steady (.started broughtUp device) := by
  have isFlagged : broughtUp.state = (Process.started broughtUp device).flagged := by
    unfold Process.flagged Process.started
    cases broughtUp.state <;> rfl
  refine {
    flag := fun _ _ isHeld => (nomatch isHeld)
    present := fun isHeld => (nomatch isHeld)
    held := fun _ => .inr (Option.some_ne_none _)
    fits := ?_
    announced := .inr ⟨.handover, _, rfl, rfl, isFlagged⟩
    onBus := fun _ isLast => (nomatch isLast) }
  intro speaker task isTask
  cases speaker with
  | handover =>
    cases isTask
    refine ⟨fun differ => absurd rfl differ, fun _ isPublishing => (nomatch isPublishing),
      fun _ isActing => (nomatch isActing), fun _ => isFlagged, fun _ isPresent => ?_,
      fun _ notRecorded => absurd rfl notRecorded⟩
    have opened : broughtUp.client.isSome = true := by
      rw [bringUpOwnerDevice_isSome isUp, show broughtUp.state = .present from isPresent]
      rfl
    rw [Option.isSome_or, opened, Bool.true_or]
  | syncLoop => cases isTask
  | reply => cases isTask

/-- In every run whose steps are all timely, what is said of the owner's device is true in every
state. -/
theorem truthful_of_timely {setup : Setup} {volume : Option Device} {broughtUp : BroughtUp}
    (isUp : bringUpOwnerDevice setup volume = some broughtUp) (device : Option Device)
    {acts : List Act} (timely : Along Process.step Timely (.started broughtUp device) acts) :
    ∀ front, front <+: acts → Truthful (run Process.step (.started broughtUp device) front) := by
  rintro front ⟨back, rfl⟩
  have along := (along_append.mp timely).1
  exact (run_invariant_along Steady (fun _ next steady timely => steady_step steady next timely)
    (steady_started isUp device) along).truthful

/-! ### A late refusal -/

namespace LateRefusal

open RevokedDevice (owners)
open ReplacedDevice (successor)

def broughtUp : BroughtUp := ⟨some owners, .present⟩

/-- The start, to the holding of the device it opened. -/
def start : List Act := [.announced .handover, .published .handover true, .held]

def replacement : List Act :=
  [.handedOver successor, .announced .handover, .published .handover true, .held]

/-- A device is replaced and its successor refused, and what is said of it is true. -/
theorem timely_run :
    Truthful (run Process.step (.started broughtUp none) (start ++ replacement ++
      [.refused .syncLoop, .announced .syncLoop, .published .syncLoop true])) :=
  truthful_of_timely
    (rfl : bringUpOwnerDevice RevokedDevice.setup (some owners) = some broughtUp) none
    (by decide) _ List.prefix_rfl

/-- A reply is being sent through the first device when another is handed over, and is refused. -/
def late : List Act := start ++ [.replyStarted] ++ replacement ++ [.refused .reply]

/-- The successor is flagged for the refusal of the first device. -/
theorem successor_is_flagged :
    ¬ ∀ (setup : Setup) (volume : Option Device) (broughtUp : BroughtUp),
      bringUpOwnerDevice setup volume = some broughtUp →
      ∀ (device : Option Device) (acts : List Act), ∀ front, front <+: acts →
        Truthful (run Process.step (.started broughtUp device) front) := by
  intro always
  have truthful := always RevokedDevice.setup (some owners) broughtUp rfl none late late
    List.prefix_rfl
  exact absurd (truthful.flag rfl successor rfl) (by decide)

end LateRefusal

end Twalk.Sensor
