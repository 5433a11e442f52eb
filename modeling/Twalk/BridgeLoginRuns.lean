/-
This file is about one login at a time on a bridge. Nothing but the phase tells a
submit, a cancel and the task that holds a step of each other, and each of them
looks at it under a lock it no longer has when it writes. So a login that ended can
be written over: by the second of two submits of one step, and by a cancel that
meets the end. In the runs where no submit is let through while another one of the
same login is under way, and no cancel meets a login that ends or is being written,
a login that ended stays as it ended, one login of the bridge is live at a time, the
generation of a login never falls, and a login whose cancel returned is over.
-/

import Twalk.BridgeLogin
import Twalk.Library.System

namespace Twalk.BridgeLogin

/-! ### What a call has to do with a login -/

def Call.about : Call → Option Nat
  | startPlacing login | startReading login | submitChecking _ _ login | submitReading login
  | driving _ login _ | cancelLooking login | cancelMarking login _ | cancelWriting login _
  | cancelCalling login _ | cancelled login => some login
  | _ => none

def Call.drives : Call → Option Nat
  | driving _ login _ => some login
  | _ => none

def Call.writes : Call → Option Nat
  | driving _ login (.writing _ _ _) => some login
  | _ => none

def Call.checks : Call → Option Nat
  | submitChecking _ _ login => some login
  | _ => none

def Call.opens : Call → Option Nat
  | driving .starting login _ | startPlacing login => some login
  | _ => none

/-- Whether a start is past its look at the slot, and not yet done with it. -/
def Call.starts : Call → Bool
  | startCalling _ _ _ => true
  | other => other.opens.isSome

def Call.submits (login : Nat) : Call → Bool
  | driving .submitting driven _ => driven == login
  | _ => false

def Call.pastFlag (login : Nat) : Call → Bool
  | driving _ driven (.counting _) | driving _ driven (.writing _ _ _) => driven == login
  | _ => false

def Call.cancelsUnmarked (login : Nat) : Call → Bool
  | cancelLooking found | cancelMarking found _ => found == login
  | _ => false

def Change.ends : Change → Bool
  | advance step =>
    match step.stepType with
    | .complete | .webauthn | .clientHttp => true
    | .userInput | .cookies | .displayAndWait => false
  | refuse _ => true

/-! ### The condition -/

/-- A section is in order: no submit is let through while another one of the same login is under
way; no cancel finds a login that completed or failed; no login ends while a cancel has found it
and not yet marked it; and none is marked while a driver is past its look at the flag. -/
def Bridge.InOrder (bridge : Bridge) : Call → Prop
  | .submitChecking stepId data login =>
    (∃ view ∈ bridge.view login, (bridge.config.submitRequest view stepId data).isOk) →
      ∀ call ∈ bridge.calls, call.submits login = false
  | .cancelFinding =>
    ∀ login ∈ bridge.slot, ∀ view ∈ bridge.view login,
      view.phase ≠ .complete ∧ view.phase ≠ .failed
  | .driving _ login (.writing change _ _) =>
    change.ends → ∀ call ∈ bridge.calls, call.cancelsUnmarked login = false
  | .cancelMarking login _ => ∀ call ∈ bridge.calls, call.pastFlag login = false
  | _ => True

instance (bridge : Bridge) : (call : Call) → Decidable (bridge.InOrder call)
  | .submitChecking stepId data login =>
    inferInstanceAs (Decidable
      ((∃ view ∈ bridge.view login, (bridge.config.submitRequest view stepId data).isOk) →
        ∀ call ∈ bridge.calls, call.submits login = false))
  | .cancelFinding =>
    inferInstanceAs (Decidable (∀ login ∈ bridge.slot, ∀ view ∈ bridge.view login,
      view.phase ≠ .complete ∧ view.phase ≠ .failed))
  | .driving _ login (.writing change _ _) =>
    inferInstanceAs (Decidable
      (change.ends = true → ∀ call ∈ bridge.calls, call.cancelsUnmarked login = false))
  | .cancelMarking login _ =>
    inferInstanceAs (Decidable (∀ call ∈ bridge.calls, call.pastFlag login = false))
  | .startWaiting _ _ _ | .startChecking _ _ _ | .startCalling _ _ _ | .startPlacing _
  | .startReading _ | .submitFinding _ _ | .submitReading _ | .driving _ _ (.asking _ _)
  | .driving _ _ (.calling _) | .driving _ _ (.checking _) | .driving _ _ (.loading _)
  | .driving _ _ (.counting _) | .cancelLooking _ | .cancelWriting _ _ | .cancelCalling _ _
  | .leaving _ | .answered _ | .refused _ | .cancelled _ | .released =>
    inferInstanceAs (Decidable True)

def Orderly (bridge : Bridge) : Step → Prop
  | .call _ => True
  | .advance index _ => ∀ call ∈ bridge.calls[index]?, bridge.InOrder call

instance (bridge : Bridge) : (next : Step) → Decidable (Orderly bridge next)
  | .call _ => inferInstanceAs (Decidable True)
  | .advance index _ =>
    inferInstanceAs (Decidable (∀ call ∈ bridge.calls[index]?, bridge.InOrder call))

/-! ### One login at a time -/

def Call.MayWrite (active : ActiveLogin) : Call → Prop
  | driving _ _ (.counting _) | driving _ _ (.writing _ _ _) => True
  | driving _ _ _ => active.cancelled = false
  | cancelLooking _ | cancelMarking _ _ | cancelWriting _ _ => active.view.phase ≠ .cancelled
  | _ => False

def Bridge.Live (bridge : Bridge) (login : Nat) : Prop :=
  ∃ active, bridge.logins[login]? = some active ∧
    (active.view.phase.isTerminal = false ∨
      ∃ call ∈ bridge.calls, call.about = some login ∧ call.MayWrite active)

/-- What holds between the bridge and the same bridge later on, where one login is under way at a
time and a login that ended stays ended. -/
structure OneLogin (before after : Bridge) : Prop where
  ended : ∀ login earlier, before.view login = some earlier → earlier.phase.isTerminal →
    ∃ later, after.view login = some later ∧ later.phase = earlier.phase
  rising : ∀ login earlier later, before.view login = some earlier →
    after.view login = some later → earlier.generation ≤ later.generation
  alone : ∀ first second, after.Live first → after.Live second → first = second
  finished : ∀ login, .cancelled login ∈ after.calls →
    (∃ view, after.view login = some view ∧ view.phase.isTerminal) ∧
      (after.slot = some login → after.inFlight = none)

/-! ### The invariant -/

def Driver.phase : Driver → LoginPhase
  | starting | submitting => .awaitingInput
  | holding => .awaitingRemote

def Drive.Fits (active : ActiveLogin) : Drive → Prop
  | counting _ => active.cancelled = false
  | writing _ generation _ =>
    active.cancelled = false ∧ generation = active.generation ∧
      active.generation = active.view.generation + 1
  | _ => True

def Call.Fits (active : ActiveLogin) : Call → Prop
  | driving driver _ drive =>
    (active.view.phase = driver.phase ∨ active.view.phase = .cancelled) ∧ drive.Fits active
  | cancelLooking _ | cancelMarking _ _ =>
    active.view.phase ≠ .complete ∧ active.view.phase ≠ .failed
  | cancelWriting _ _ =>
    (active.view.phase ≠ .complete ∧ active.view.phase ≠ .failed) ∧ active.cancelled = true
  | cancelCalling _ _ | cancelled _ => active.view.phase = .cancelled
  | _ => True

def Bridge.Gated (bridge : Bridge) : Prop :=
  ∀ index : Nat, bridge.startGate = some index ↔
    ∃ call, bridge.calls[index]? = some call ∧ call.holdsGate = true

def Bridge.DrivenOnce (bridge : Bridge) : Prop :=
  ∀ (index other : Nat) call driver login, bridge.calls[index]? = some call →
    bridge.calls[other]? = some driver → call.drives = some login → driver.drives = some login →
      index = other

structure Steady (bridge : Bridge) : Prop where
  fits : ∀ (index : Nat) call login, bridge.calls[index]? = some call →
    call.about = some login →
      ∃ active, bridge.logins[login]? = some active ∧ call.Fits active
  placed : ∀ login, bridge.slot = some login → ∃ active, bridge.logins[login]? = some active
  marked : ∀ (login : Nat) active, bridge.logins[login]? = some active →
    active.view.phase = .cancelled → active.cancelled = true
  counted : ∀ (login : Nat) active, bridge.logins[login]? = some active →
    active.generation = active.view.generation ∨
      ∃ (index : Nat) (call : Call), bridge.calls[index]? = some call ∧ call.writes = some login
  driven : bridge.DrivenOnce
  gated : bridge.Gated
  lone : ∀ (login : Nat) active, bridge.logins[login]? = some active →
    active.view.phase.isTerminal = false →
      (bridge.slot = some login ∧
        ∀ (index : Nat) call, bridge.calls[index]? = some call → call.starts = false) ∨
      ∃ (index : Nat) (call : Call), bridge.calls[index]? = some call ∧ call.opens = some login
  hidden : ∀ (index : Nat) call login, bridge.calls[index]? = some call →
    call.opens = some login → bridge.slot ≠ some login ∧
      ∀ (other : Nat) submit, bridge.calls[other]? = some submit → submit.checks ≠ some login

theorem steady_idle (config : BridgeConfig) : Steady (Bridge.idle config) where
  fits := by simp [Bridge.idle]
  placed := by simp [Bridge.idle]
  marked := by simp [Bridge.idle]
  counted := by simp [Bridge.idle]
  driven := by simp [Bridge.DrivenOnce, Bridge.idle]
  gated := by simp [Bridge.Gated, Bridge.idle]
  lone := by simp [Bridge.idle]
  hidden := by simp [Bridge.idle]

/-! ### The parts of a call -/

variable {login : Nat} {call : Call}

theorem holdsGate_of_opens (opens : call.opens = some login) :
    call.holdsGate = true := by
  cases call <;> try cases opens
  case driving driver driven drive =>
    cases driver <;> first | rfl | cases opens
  case startPlacing => rfl

theorem starts_of_opens (opens : call.opens = some login) :
    call.starts = true := by
  cases call <;> first | rfl | simp [Call.starts, opens]

theorem holdsGate_of_starts (starts : call.starts = true) :
    call.holdsGate = true := by
  cases opens : call.opens with
  | some login => exact holdsGate_of_opens opens
  | none =>
    cases call <;> first | rfl | simp_all [Call.starts]

theorem about_of_drives (drives : call.drives = some login) :
    call.about = some login := by
  cases call <;> try cases drives
  rfl

theorem about_of_checks (checks : call.checks = some login) :
    call.about = some login := by
  cases call <;> try cases checks
  rfl

theorem drives_of_writes (writes : call.writes = some login) :
    call.drives = some login := by
  cases call <;> try cases writes
  case driving driver driven drive =>
    cases drive <;> try cases writes
    rfl

/-! ### A call that turns -/

variable {next : Call}

variable {other : Nat} {present : Call}

section

variable {bridge : Bridge} {index : Nat} {call : Call}

theorem getElem?_set_here (found : bridge.calls[index]? = some call) (next : Call) :
    (bridge.calls.set index next)[index]? = some next := by
  obtain ⟨inside, _⟩ := List.getElem?_eq_some_iff.mp found
  exact List.getElem?_set_self inside

theorem getElem?_set_elsewhere (stood : bridge.calls[other]? = some present) (apart : other ≠ index)
    (next : Call) :
    (bridge.calls.set index next)[other]? = some present := by
  rw [List.getElem?_set_ne (Ne.symm apart)]
  exact stood

theorem of_getElem?_set {next present : Call}
    (standing : (bridge.calls.set index next)[other]? = some present) :
    (other = index ∧ present = next) ∨ (other ≠ index ∧ bridge.calls[other]? = some present) := by
  by_cases same : other = index
  · subst same
    obtain ⟨inside, holds⟩ := List.getElem?_eq_some_iff.mp standing
    rw [List.getElem_set_self] at holds
    exact .inl ⟨rfl, holds.symm⟩
  · rw [List.getElem?_set_ne (Ne.symm same)] at standing
    exact .inr ⟨same, standing⟩

theorem Bridge.Gated.holdsGate_iff (gated : bridge.Gated)
    (found : bridge.calls[index]? = some call) :
    call.holdsGate = true ↔ bridge.startGate = some index := by
  rw [gated index]
  refine ⟨fun holds => ⟨call, found, holds⟩, ?_⟩
  rintro ⟨present, stood, holds⟩
  rw [found] at stood
  exact Option.some.inj stood ▸ holds

theorem gated_become (gated : bridge.Gated) (found : bridge.calls[index]? = some call)
    (entered : next.holdsGate = true → call.holdsGate = true ∨ bridge.startGate = none) :
    (bridge.become index next).Gated := by
  intro other
  have standing : (∃ present, (bridge.become index next).calls[other]? = some present ∧
      present.holdsGate = true) ↔
        (other = index ∧ next.holdsGate = true) ∨
          (other ≠ index ∧ bridge.startGate = some other) := by
    constructor
    · rintro ⟨present, standing, holds⟩
      obtain ⟨rfl, rfl⟩ | ⟨apart, stood⟩ := of_getElem?_set standing
      · exact .inl ⟨rfl, holds⟩
      · exact .inr ⟨apart, (gated.holdsGate_iff stood).mp holds⟩
    · rintro (⟨rfl, holds⟩ | ⟨apart, held⟩)
      · exact ⟨next, getElem?_set_here found next, holds⟩
      · obtain ⟨present, stood, holds⟩ := (gated other).mp held
        exact ⟨present, getElem?_set_elsewhere stood apart next, holds⟩
  rw [standing]
  by_cases holds : next.holdsGate = true
  · have unheld : other ≠ index → bridge.startGate ≠ some other := by
      intro apart held
      obtain within | free := entered holds
      · rw [(gated.holdsGate_iff found).mp within] at held
        exact apart (Option.some.inj held).symm
      · rw [free] at held
        cases held
    simp only [Bridge.become, holds, if_true, Option.some.injEq, and_true]
    exact ⟨fun same => .inl same.symm, fun either =>
      either.elim Eq.symm fun ⟨apart, held⟩ => absurd held (unheld apart)⟩
  · simp only [Bridge.become, holds, Bool.false_eq_true, if_false, and_false, false_or,
      Option.filter_eq_some_iff, bne_iff_ne]
    exact and_comm

theorem drivenOnce_become (driven : bridge.DrivenOnce) (found : bridge.calls[index]? = some call)
    (alone : ∀ login, next.drives = some login → call.drives = some login ∨
      ∀ (other : Nat) present, bridge.calls[other]? = some present →
        present.drives ≠ some login) : (bridge.become index next).DrivenOnce := by
  -- The turned call drives what it drove before, or something that nobody else drives.
  have never : ∀ (other : Nat) present login, other ≠ index →
      bridge.calls[other]? = some present → next.drives = some login →
        present.drives ≠ some login := by
    intro other present login apart stood drives alike
    obtain drove | nobody := alone login drives
    · exact apart (driven other index present call login stood found alike drove)
    · exact nobody other present stood alike
  intro first second one two login standing other drives drivesToo
  obtain ⟨rfl, rfl⟩ | ⟨apart, stood⟩ := of_getElem?_set standing
  · obtain ⟨rfl, rfl⟩ | ⟨apart, stood⟩ := of_getElem?_set other
    · rfl
    · exact absurd drivesToo (never second two login apart stood drives)
  · obtain ⟨rfl, rfl⟩ | ⟨apartToo, stoodToo⟩ := of_getElem?_set other
    · exact absurd drives (never first one login apart stood drivesToo)
    · exact driven first second one two login stood stoodToo drives drivesToo

theorem Steady.inside_unique (steady : Steady bridge) (found : bridge.calls[index]? = some call)
    (holds : call.holdsGate = true) (standing : bridge.calls[other]? = some present)
    (holdsToo : present.holdsGate = true) :
    other = index := by
  have held := (steady.gated.holdsGate_iff found).mp holds
  rw [(steady.gated.holdsGate_iff standing).mp holdsToo] at held
  exact Option.some.inj held

theorem Steady.turns (steady : Steady bridge) (found : bridge.calls[index]? = some call)
    (fits : ∀ login, next.about = some login →
      ∃ active, bridge.logins[login]? = some active ∧ next.Fits active) (wrote : call.writes = none)
    (driven : ∀ login, next.drives = some login → call.drives = some login ∨
      ∀ (other : Nat) present, bridge.calls[other]? = some present → present.drives ≠ some login)
    (entered : next.holdsGate = true → call.holdsGate = true ∨ bridge.startGate = none)
    (opens : next.opens = call.opens)
    (starts : next.starts = true → call.starts = true ∨ bridge.inFlight = none)
    (checks : ∀ login, next.checks = some login → bridge.slot = some login) :
    Steady (bridge.become index next) where
  fits := by
    intro other present login standing about
    obtain ⟨rfl, rfl⟩ | ⟨_, stood⟩ := of_getElem?_set standing
    · exact fits login about
    · exact steady.fits other present login stood about
  placed := steady.placed
  marked := steady.marked
  counted := by
    intro login active isLogin
    refine (steady.counted login active isLogin).imp_right ?_
    rintro ⟨other, present, stood, writes⟩
    refine ⟨other, present, getElem?_set_elsewhere stood ?_ next, writes⟩
    rintro rfl
    rw [found] at stood
    obtain rfl := Option.some.inj stood
    rw [wrote] at writes
    cases writes
  driven := drivenOnce_become steady.driven found driven
  gated := gated_become steady.gated found entered
  lone := by
    intro login active isLogin live
    have here : bridge.logins[login]? = some active := isLogin
    obtain ⟨inSlot, nobody⟩ | ⟨other, present, stood, opened⟩ :=
      steady.lone login active isLogin live
    · refine .inl ⟨inSlot, fun other present standing => ?_⟩
      obtain ⟨rfl, rfl⟩ | ⟨_, stood⟩ := of_getElem?_set standing
      · by_contra begins
        obtain began | free := starts (Bool.not_eq_false _ ▸ begins)
        · rw [nobody other call found] at began
          cases began
        · have shown : bridge.slot.bind bridge.view = some active.view := by
            rw [inSlot, Option.bind_some, Bridge.view, here, Option.map_some]
          rw [Bridge.inFlight, shown] at free
          simp [live] at free
      · exact nobody other present stood
    · refine .inr ?_
      by_cases same : other = index
      · subst same
        rw [found] at stood
        obtain rfl := Option.some.inj stood
        exact ⟨other, next, getElem?_set_here found next, opens.trans opened⟩
      · exact ⟨other, present, getElem?_set_elsewhere stood same next, opened⟩
  hidden := by
    intro first opening login standing opened
    have hid : bridge.slot ≠ some login ∧
        ∀ (other : Nat) submit, bridge.calls[other]? = some submit →
          submit.checks ≠ some login := by
      obtain ⟨rfl, rfl⟩ | ⟨_, stood⟩ := of_getElem?_set standing
      · exact steady.hidden first call login found (opens.symm.trans opened)
      · exact steady.hidden first opening login stood opened
    refine ⟨hid.1, fun other submit standingToo found' => ?_⟩
    obtain ⟨rfl, rfl⟩ | ⟨_, stood⟩ := of_getElem?_set standingToo
    · exact hid.1 (checks login found')
    · exact hid.2 other submit stood found'

theorem Steady.puts (steady : Steady bridge) (found : bridge.calls[index]? = some call)
    {active : ActiveLogin} (isLogin : bridge.logins[login]? = some active)
    (about : call.about = some login) {written : ActiveLogin}
    (fits : ∀ other, next.about = some other → other = login ∧ next.Fits written)
    (others : ∀ (other : Nat) present, other ≠ index → bridge.calls[other]? = some present →
      present.about = some login → present.Fits active → present.Fits written)
    (marked : written.view.phase = .cancelled → written.cancelled = true)
    (counted : written.generation = written.view.generation ∨ next.writes = some login ∨
      (call.writes = none ∧ written.generation = active.generation ∧
        written.view.generation = active.view.generation))
    (drives : ∀ other, next.drives = some other → call.drives = some other)
    (entered : next.holdsGate = true → call.holdsGate = true) (opens : next.opens = call.opens)
    (starts : next.starts = true → call.starts = true) (checks : next.checks = none)
    (live : written.view.phase.isTerminal = false → active.view.phase.isTerminal = false) :
    Steady ((bridge.put login written).become index next) := by
  obtain ⟨inside, _⟩ := List.getElem?_eq_some_iff.mp isLogin
  have atLogin : (bridge.put login written).logins[login]? = some written := by
    simp [Bridge.put, inside]
  have elsewhere : ∀ (other : Nat), other ≠ login →
      (bridge.put login written).logins[other]? = bridge.logins[other]? := by
    intro other apart
    simp [Bridge.put, Ne.symm apart]
  have stays : ∀ (other : Nat) (present : ActiveLogin), bridge.logins[other]? = some present →
      ∃ later, (bridge.put login written).logins[other]? = some later := by
    intro other present stood
    by_cases same : other = login
    · exact ⟨written, by rw [same]; exact atLogin⟩
    · exact ⟨present, by rw [elsewhere other same]; exact stood⟩
  refine
    { fits := ?_, placed := ?_, marked := ?_, counted := ?_, driven := ?_, gated := ?_,
      lone := ?_, hidden := ?_ }
  · intro other present named standing isAbout
    obtain ⟨rfl, rfl⟩ | ⟨apart, stood⟩ :=
      of_getElem?_set standing
    · obtain ⟨rfl, fit⟩ := fits named isAbout
      exact ⟨written, atLogin, fit⟩
    · obtain ⟨current, isCurrent, fit⟩ := steady.fits other present named stood isAbout
      by_cases same : named = login
      · subst same
        rw [isLogin] at isCurrent
        obtain rfl := Option.some.inj isCurrent
        exact ⟨written, atLogin, others other present apart stood isAbout fit⟩
      · exact ⟨current, by rw [← isCurrent]; exact elsewhere named same, fit⟩
  · intro named inSlot
    obtain ⟨current, isCurrent⟩ := steady.placed named inSlot
    exact stays named current isCurrent
  · intro named current isCurrent
    by_cases same : named = login
    · rw [same] at isCurrent
      obtain rfl := Option.some.inj (atLogin.symm.trans isCurrent)
      exact marked
    · exact steady.marked named current ((elsewhere named same).symm.trans isCurrent)
  · intro named current isCurrent
    -- A count that stood open before is still open, unless the turned call was the one to write.
    have open' : ∀ target, (target = login → call.writes = none) →
        (∃ (other : Nat) (present : Call), bridge.calls[other]? = some present ∧
          present.writes = some target) →
        ∃ (other : Nat) (present : Call),
          ((bridge.put login written).become index next).calls[other]? = some present ∧
            present.writes = some target := by
      rintro target unwritten ⟨other, present, stood, writes⟩
      refine ⟨other, present, getElem?_set_elsewhere stood ?_ next, writes⟩
      rintro rfl
      rw [found] at stood
      obtain rfl := Option.some.inj stood
      have same := about.symm.trans (about_of_drives (drives_of_writes writes))
      rw [unwritten (Option.some.inj same).symm] at writes
      cases writes
    by_cases same : named = login
    · subst same
      obtain rfl := Option.some.inj (atLogin.symm.trans isCurrent)
      obtain level | writes | ⟨unwritten, sameCount, sameShown⟩ := counted
      · exact .inl level
      · exact .inr ⟨index, next, getElem?_set_here found next, writes⟩
      · rw [sameCount, sameShown]
        exact (steady.counted named active isLogin).imp_right (open' named fun _ => unwritten)
    · exact (steady.counted named current ((elsewhere named same).symm.trans isCurrent)).imp_right
        (open' named fun alike => absurd alike same)
  · exact drivenOnce_become steady.driven found
      fun other driven => .inl (drives other driven)
  · exact gated_become steady.gated found
      fun holds => .inl (entered holds)
  · intro named current isCurrent notOver
    have before : ∃ earlier, bridge.logins[named]? = some earlier ∧
        earlier.view.phase.isTerminal = false := by
      by_cases same : named = login
      · subst same
        obtain rfl := Option.some.inj (atLogin.symm.trans isCurrent)
        exact ⟨active, isLogin, live notOver⟩
      · exact ⟨current, (elsewhere named same).symm.trans isCurrent, notOver⟩
    obtain ⟨earlier, isEarlier, wasLive⟩ := before
    obtain ⟨inSlot, nobody⟩ | ⟨other, present, stood, opened⟩ :=
      steady.lone named earlier isEarlier wasLive
    · refine .inl ⟨inSlot, fun other present standing => ?_⟩
      obtain ⟨rfl, rfl⟩ | ⟨_, stood⟩ :=
        of_getElem?_set standing
      · by_contra begins
        have began := starts (Bool.not_eq_false _ ▸ begins)
        rw [nobody other call found] at began
        cases began
      · exact nobody other present stood
    · refine .inr ?_
      by_cases same : other = index
      · subst same
        rw [found] at stood
        obtain rfl := Option.some.inj stood
        exact ⟨other, next, getElem?_set_here found next, opens.trans opened⟩
      · exact ⟨other, present, getElem?_set_elsewhere stood same next, opened⟩
  · intro first opening named standing opened
    have hid : bridge.slot ≠ some named ∧
        ∀ (other : Nat) submit, bridge.calls[other]? = some submit →
          submit.checks ≠ some named := by
      obtain ⟨rfl, rfl⟩ | ⟨_, stood⟩ :=
        of_getElem?_set standing
      · exact steady.hidden first call named found (opens.symm.trans opened)
      · exact steady.hidden first opening named stood opened
    refine ⟨hid.1, fun other submit standingToo => ?_⟩
    obtain ⟨rfl, rfl⟩ | ⟨_, stood⟩ :=
      of_getElem?_set standingToo
    · simp [checks]
    · exact hid.2 other submit stood

theorem Steady.opensLogin (steady : Steady bridge) {device : Device} {request : StartLogin}
    {asked : ProvisioningRequest}
    (found : bridge.calls[index]? = some (.startCalling device request asked))
    {opened : ActiveLogin} (begun : opened.view.phase = .awaitingInput)
    (level : opened.generation = opened.view.generation) (change : Change) :
    Steady ({ bridge with logins := bridge.logins ++ [opened] }.become index
      (.driving .starting bridge.logins.length (.loading change))) := by
  have known : ∀ (login : Nat) (active : ActiveLogin), bridge.logins[login]? = some active →
      (bridge.logins ++ [opened])[login]? = some active := by
    intro login active isLogin
    obtain ⟨inside, _⟩ := List.getElem?_eq_some_iff.mp isLogin
    rw [List.getElem?_append_left inside]
    exact isLogin
  have isNew : (bridge.logins ++ [opened])[bridge.logins.length]? = some opened := by simp
  have former : ∀ (login : Nat) (active : ActiveLogin),
      (bridge.logins ++ [opened])[login]? = some active →
        (login = bridge.logins.length ∧ active = opened) ∨
          bridge.logins[login]? = some active := by
    intro login active isLogin
    by_cases inside : login < bridge.logins.length
    · rw [List.getElem?_append_left inside] at isLogin
      exact .inr isLogin
    · rw [List.getElem?_append_right (Nat.le_of_not_lt inside),
        List.getElem?_singleton] at isLogin
      split at isLogin
      · exact .inl ⟨by omega, (Option.some.inj isLogin).symm⟩
      · cases isLogin
  -- Every call knows of older logins only.
  have unheard : ∀ (other : Nat) (present : Call), bridge.calls[other]? = some present →
      present.about ≠ some bridge.logins.length := by
    intro other present stood about
    obtain ⟨active, isLogin, _⟩ := steady.fits other present _ stood about
    obtain ⟨inside, _⟩ := List.getElem?_eq_some_iff.mp isLogin
    exact Nat.lt_irrefl _ inside
  have holds : (Call.startCalling device request asked).holdsGate = true := rfl
  refine
    { fits := ?_, placed := ?_, marked := ?_, counted := ?_, driven := ?_, gated := ?_,
      lone := ?_, hidden := ?_ }
  · intro other present login standing about
    obtain ⟨rfl, rfl⟩ | ⟨_, stood⟩ := of_getElem?_set standing
    · cases about
      exact ⟨opened, isNew, .inl begun, trivial⟩
    · obtain ⟨active, isLogin, fit⟩ := steady.fits other present login stood about
      exact ⟨active, known login active isLogin, fit⟩
  · intro login inSlot
    obtain ⟨active, isLogin⟩ := steady.placed login inSlot
    exact ⟨active, known login active isLogin⟩
  · intro login active isLogin isCancelled
    obtain ⟨rfl, rfl⟩ | isLogin := former login active isLogin
    · rw [begun] at isCancelled
      cases isCancelled
    · exact steady.marked login active isLogin isCancelled
  · intro login active isLogin
    obtain ⟨rfl, rfl⟩ | isLogin := former login active isLogin
    · exact .inl level
    · refine (steady.counted login active isLogin).imp_right ?_
      rintro ⟨other, present, stood, writes⟩
      refine ⟨other, present, getElem?_set_elsewhere stood ?_ _, writes⟩
      rintro rfl
      rw [found] at stood
      obtain rfl := Option.some.inj stood
      cases writes
  · refine drivenOnce_become steady.driven found fun login drives => .inr ?_
    cases drives
    exact fun other present stood alike => unheard other present stood (about_of_drives alike)
  · exact gated_become steady.gated found fun _ => .inl holds
  · intro login active isLogin live
    obtain ⟨rfl, rfl⟩ | isLogin := former login active isLogin
    · exact .inr ⟨index, _, getElem?_set_here found _, rfl⟩
    · obtain ⟨_, nobody⟩ | ⟨other, present, stood, opens⟩ := steady.lone login active isLogin live
      · cases nobody index _ found
      · obtain rfl := steady.inside_unique found holds stood (holdsGate_of_opens opens)
        rw [found] at stood
        obtain rfl := Option.some.inj stood
        cases opens
  · intro first opening login standing opens
    obtain ⟨rfl, rfl⟩ | ⟨apart, stood⟩ := of_getElem?_set standing
    · cases opens
      refine ⟨fun inSlot => ?_, fun other submit standingToo checks => ?_⟩
      · obtain ⟨active, isLogin⟩ := steady.placed _ inSlot
        obtain ⟨inside, _⟩ := List.getElem?_eq_some_iff.mp isLogin
        exact Nat.lt_irrefl _ inside
      · obtain ⟨rfl, rfl⟩ | ⟨_, stood⟩ := of_getElem?_set standingToo
        · cases checks
        · exact unheard other submit stood (about_of_checks checks)
    · exact absurd (steady.inside_unique found holds stood (holdsGate_of_opens opens)) apart

theorem Steady.places (steady : Steady bridge)
    (found : bridge.calls[index]? = some (.startPlacing login)) :
    Steady ({ bridge with slot := some login }.become index (.startReading login)) := by
  have holds : (Call.startPlacing login).holdsGate = true := rfl
  have noOther : ∀ (other : Nat) (present : Call), other ≠ index →
      bridge.calls[other]? = some present → present.starts = false := by
    intro other present apart stood
    by_contra begins
    exact apart (steady.inside_unique found holds stood
      (holdsGate_of_starts (Bool.not_eq_false _ ▸ begins)))
  refine
    { fits := ?_, placed := ?_, marked := steady.marked, counted := ?_, driven := ?_,
      gated := ?_, lone := ?_, hidden := ?_ }
  · intro other present named standing about
    obtain ⟨rfl, rfl⟩ | ⟨_, stood⟩ := of_getElem?_set standing
    · obtain ⟨active, isLogin, _⟩ := steady.fits other _ named found about
      exact ⟨active, isLogin, trivial⟩
    · exact steady.fits other present named stood about
  · intro named inSlot
    obtain rfl := Option.some.inj inSlot
    obtain ⟨active, isLogin, _⟩ := steady.fits index _ login found rfl
    exact ⟨active, isLogin⟩
  · intro named active isLogin
    refine (steady.counted named active isLogin).imp_right ?_
    rintro ⟨other, present, stood, writes⟩
    refine ⟨other, present, getElem?_set_elsewhere stood ?_ _, writes⟩
    rintro rfl
    rw [found] at stood
    obtain rfl := Option.some.inj stood
    cases writes
  · refine drivenOnce_become steady.driven found fun named drives => ?_
    cases drives
  · exact gated_become steady.gated found fun _ => .inl holds
  · intro named active isLogin live
    refine .inl ⟨?_, fun other present standing => ?_⟩
    · obtain ⟨_, nobody⟩ | ⟨other, present, stood, opens⟩ := steady.lone named active isLogin live
      · cases nobody index _ found
      · obtain rfl := steady.inside_unique found holds stood (holdsGate_of_opens opens)
        rw [found] at stood
        obtain rfl := Option.some.inj stood
        exact opens
    · obtain ⟨rfl, rfl⟩ | ⟨apart, stood⟩ := of_getElem?_set standing
      · rfl
      · exact noOther other present apart stood
  · intro first opening named standing opens
    obtain ⟨rfl, rfl⟩ | ⟨apart, stood⟩ := of_getElem?_set standing
    · cases opens
    · have begins := starts_of_opens opens
      rw [noOther first opening apart stood] at begins
      cases begins

end

variable {bridge : Bridge}

theorem Steady.spawns (steady : Steady bridge) {new : Call}
    (fits : ∀ login, new.about = some login →
      ∃ active, bridge.logins[login]? = some active ∧ new.Fits active)
    (alone : ∀ login, new.drives = some login →
      ∀ (other : Nat) present, bridge.calls[other]? = some present → present.drives ≠ some login)
    (outside : new.holdsGate = false) (checks : new.checks = none) :
    Steady (bridge.spawn [new]) := by
  have former : ∀ (other : Nat) (present : Call),
      (bridge.calls ++ [new])[other]? = some present →
        (other = bridge.calls.length ∧ present = new) ∨ bridge.calls[other]? = some present := by
    intro other present standing
    by_cases inside : other < bridge.calls.length
    · rw [List.getElem?_append_left inside] at standing
      exact .inr standing
    · rw [List.getElem?_append_right (Nat.le_of_not_lt inside),
        List.getElem?_singleton] at standing
      split at standing
      · exact .inl ⟨by omega, (Option.some.inj standing).symm⟩
      · cases standing
  have known : ∀ (other : Nat) (present : Call), bridge.calls[other]? = some present →
      (bridge.calls ++ [new])[other]? = some present := by
    intro other present stood
    obtain ⟨inside, _⟩ := List.getElem?_eq_some_iff.mp stood
    rw [List.getElem?_append_left inside]
    exact stood
  have noStart : new.starts = false := by
    by_contra begins
    rw [holdsGate_of_starts (Bool.not_eq_false _ ▸ begins)] at outside
    cases outside
  refine
    { fits := ?_, placed := steady.placed, marked := steady.marked, counted := ?_, driven := ?_,
      gated := ?_, lone := ?_, hidden := ?_ }
  · intro other present login standing about
    obtain ⟨rfl, rfl⟩ | stood := former other present standing
    · exact fits login about
    · exact steady.fits other present login stood about
  · intro login active isLogin
    refine (steady.counted login active isLogin).imp_right ?_
    rintro ⟨other, present, stood, writes⟩
    exact ⟨other, present, known other present stood, writes⟩
  · intro first second one two login standing other drives drivesToo
    obtain ⟨rfl, rfl⟩ | stood := former first one standing
    · obtain ⟨rfl, rfl⟩ | stoodToo := former second two other
      · rfl
      · exact absurd drivesToo (alone login drives second two stoodToo)
    · obtain ⟨rfl, rfl⟩ | stoodToo := former second two other
      · exact absurd drives (alone login drivesToo first one stood)
      · exact steady.driven first second one two login stood stoodToo drives drivesToo
  · intro other
    refine (steady.gated other).trans ⟨?_, ?_⟩
    · rintro ⟨present, stood, holds⟩
      exact ⟨present, known other present stood, holds⟩
    · rintro ⟨present, standing, holds⟩
      obtain ⟨rfl, rfl⟩ | stood := former other present standing
      · rw [outside] at holds
        cases holds
      · exact ⟨present, stood, holds⟩
  · intro login active isLogin live
    refine (steady.lone login active isLogin live).imp ?_ ?_
    · rintro ⟨inSlot, nobody⟩
      refine ⟨inSlot, fun other present standing => ?_⟩
      obtain ⟨rfl, rfl⟩ | stood := former other present standing
      · exact noStart
      · exact nobody other present stood
    · rintro ⟨other, present, stood, opens⟩
      exact ⟨other, present, known other present stood, opens⟩
  · intro first opening login standing opens
    obtain ⟨rfl, rfl⟩ | stood := former first opening standing
    · rw [holdsGate_of_opens opens] at outside
      cases outside
    · obtain ⟨notInSlot, unchecked⟩ := steady.hidden first opening login stood opens
      refine ⟨notInSlot, fun other submit standingToo => ?_⟩
      obtain ⟨rfl, rfl⟩ | stoodToo := former other submit standingToo
      · simp [checks]
      · exact unchecked other submit stoodToo

/-! ### What a change writes -/

theorem write_generation (change : Change) (generation now : Nat) (view : LoginView) :
    (change.write generation now view).generation = generation := by
  cases change with
  | refuse refusal => rfl
  | advance step =>
    rw [Change.write, applyStep]
    cases step.stepType <;> rfl

variable {change : Change}

theorem write_phase_of_ends (ends : change.ends = true) (generation now : Nat) (view : LoginView) :
    (change.write generation now view).phase = .complete ∨
      (change.write generation now view).phase = .failed := by
  cases change with
  | refuse refusal => exact .inr rfl
  | advance step =>
    rw [Change.ends] at ends
    rw [Change.write, applyStep]
    cases kind : step.stepType <;> rw [kind] at ends <;>
      first | exact .inl rfl | exact .inr rfl | cases ends

theorem write_phase_of_not_ends (further : change.ends = false) (generation now : Nat)
    (view : LoginView) :
    (change.write generation now view).phase = .awaitingInput ∨
      (change.write generation now view).phase = .awaitingRemote := by
  cases change with
  | refuse refusal => cases further
  | advance step =>
    rw [Change.ends] at further
    rw [Change.write, applyStep]
    cases kind : step.stepType <;> rw [kind] at further <;>
      simp_all [advanceStep, StepType.blocks]

theorem write_phase_ne_cancelled (change : Change) (generation now : Nat) (view : LoginView) :
    (change.write generation now view).phase ≠ .cancelled := by
  cases ends : change.ends with
  | true =>
    obtain phase | phase := write_phase_of_ends ends generation now view <;> rw [phase] <;> simp
  | false =>
    obtain phase | phase := write_phase_of_not_ends ends generation now view <;> rw [phase] <;>
      simp

theorem spawns_cases (change : Change) (config : BridgeConfig) (login : Nat)
    (processId : String) :
    change.spawns config login processId = [] ∨
      (∃ asked, change.spawns config login processId = [.leaving asked]) ∨
        ∃ stepId txnId,
          change.spawns config login processId =
              [.driving .holding login (.asking stepId txnId)] ∧
            ∀ generation now view,
              (change.write generation now view).phase = .awaitingRemote := by
  cases change with
  | refuse refusal => exact .inl rfl
  | advance step =>
    simp only [Change.spawns, Change.write, applyStep]
    cases kind : step.stepType with
    | displayAndWait =>
      exact .inr (.inr ⟨step.stepId, step.txnId, rfl, fun _ _ _ => by
        simp [advanceStep, kind, StepType.blocks]⟩)
    | webauthn | clientHttp => exact .inr (.inl ⟨_, rfl⟩)
    | userInput | cookies | complete => exact .inl rfl

/-! ### What a driver turns to -/

section

variable (driver : Driver) (login : Nat) (change : Change)

theorem after_about (about : (driver.after login change).about = some other) :
    other = login := by
  cases driver <;> cases change <;> first | exact (Option.some.inj about).symm | cases about

theorem after_fits (active : ActiveLogin) : (driver.after login change).Fits active := by
  cases driver <;> cases change <;> exact trivial

@[simp] theorem after_drives : (driver.after login change).drives = none := by
  cases driver <;> cases change <;> rfl

@[simp] theorem after_checks : (driver.after login change).checks = none := by
  cases driver <;> cases change <;> rfl

@[simp] theorem after_holdsGate : (driver.after login change).holdsGate = (driver == .starting) := by
  cases driver <;> cases change <;> rfl

@[simp] theorem after_opens (drive : Drive) : (driver.after login change).opens =
    (Call.driving driver login drive).opens := by
  cases driver <;> cases change <;> rfl

@[simp] theorem after_starts (drive : Drive) : (driver.after login change).starts =
    (Call.driving driver login drive).starts := by
  cases driver <;> cases change <;> rfl

@[simp] theorem driving_opens (drive further : Drive) :
    (Call.driving driver login further).opens = (Call.driving driver login drive).opens := by
  cases driver <;> rfl

theorem driving_starts (drive further : Drive) :
    (Call.driving driver login further).starts = (Call.driving driver login drive).starts := by
  rw [Call.starts.eq_2, Call.starts.eq_2, driving_opens]
  · simp
  · simp

end

variable {active written : ActiveLogin}

theorem fits_of_drives_none (fit : call.Fits active) (idle : call.drives = none)
    (phase : written.view.phase = active.view.phase) (mark : written.cancelled = active.cancelled) :
    call.Fits written := by
  cases call
  case driving => cases idle
  all_goals first | trivial | (simp only [Call.Fits, phase, mark]; exact fit)

/-! ### One section of a driver -/

/-- Every login of the bridge is still there: as it ended where it ended, and with no smaller
generation. -/
def Kept (before after : Bridge) : Prop :=
  ∀ (login : Nat) active, before.logins[login]? = some active →
    ∃ later, after.logins[login]? = some later ∧
      (active.view.phase.isTerminal = true → later.view.phase = active.view.phase) ∧
      active.view.generation ≤ later.view.generation

theorem kept_of_logins_eq {before after : Bridge} (same : after.logins = before.logins) :
    Kept before after := by
  intro login active isLogin
  exact ⟨active, same ▸ isLogin, fun _ => rfl, Nat.le_refl _⟩

theorem kept_trans {first second third : Bridge} (before : Kept first second)
    (after : Kept second third) : Kept first third := by
  intro login active isLogin
  obtain ⟨middle, isMiddle, ended, grown⟩ := before login active isLogin
  obtain ⟨later, isLater, endedToo, grownToo⟩ := after login middle isMiddle
  refine ⟨later, isLater, fun terminal => ?_, Nat.le_trans grown grownToo⟩
  rw [endedToo (by rw [ended terminal]; exact terminal), ended terminal]

theorem kept_put (isLogin : bridge.logins[login]? = some active)
    (ended : active.view.phase.isTerminal = true → written.view.phase = active.view.phase)
    (grown : active.view.generation ≤ written.view.generation) :
    Kept bridge (bridge.put login written) := by
  obtain ⟨inside, _⟩ := List.getElem?_eq_some_iff.mp isLogin
  intro other present stood
  by_cases same : other = login
  · subst same
    rw [isLogin] at stood
    obtain rfl := Option.some.inj stood
    exact ⟨written, by simp [Bridge.put, inside], ended, grown⟩
  · exact ⟨present, by simp [Bridge.put, Ne.symm same, stood], fun _ => rfl, Nat.le_refl _⟩

section

variable {bridge : Bridge} {index login : Nat} {driver : Driver} {drive : Drive}
  {active : ActiveLogin}

theorem Steady.other_drives (steady : Steady bridge)
    (found : bridge.calls[index]? = some (.driving driver login drive)) (apart : other ≠ index)
    (stood : bridge.calls[other]? = some present) (about : present.about = some login) :
    present.drives = none := by
  cases drives : present.drives with
  | none => rfl
  | some driven =>
    rw [about_of_drives drives] at about
    obtain rfl := Option.some.inj about
    exact absurd (steady.driven other index present _ driven stood found drives rfl) apart

theorem Steady.drivesOn (steady : Steady bridge)
    (found : bridge.calls[index]? = some (.driving driver login drive))
    (isLogin : bridge.logins[login]? = some active)
    (phase : active.view.phase = driver.phase ∨ active.view.phase = .cancelled)
    (unwritten : (Call.driving driver login drive).writes = none) {further : Drive}
    (fit : further.Fits active) :
    Steady (bridge.become index (.driving driver login further)) := by
  refine steady.turns found ?_ unwritten (fun other drives => .inl drives)
    (fun holds => .inl holds) (driving_opens driver login drive further)
    (fun starts => .inl ?_) ?_
  · intro other about
    obtain rfl := Option.some.inj about
    exact ⟨active, isLogin, phase, fit⟩
  · rw [driving_starts driver login further drive]
    exact starts
  · intro other checks
    cases checks

theorem Steady.drivesOff (steady : Steady bridge)
    (found : bridge.calls[index]? = some (.driving driver login drive))
    (isLogin : bridge.logins[login]? = some active)
    (unwritten : (Call.driving driver login drive).writes = none) (change : Change) :
    Steady (bridge.become index (driver.after login change)) := by
  refine steady.turns found ?_ unwritten ?_ ?_ (after_opens driver login change drive) ?_ ?_
  · intro other about
    rw [after_about driver login change about]
    exact ⟨active, isLogin, after_fits driver login change active⟩
  · intro other drives
    rw [after_drives] at drives
    cases drives
  · rw [after_holdsGate]
    exact .inl
  · rw [after_starts driver login change drive]
    exact .inl
  · intro other checks
    rw [after_checks] at checks
    cases checks

theorem Steady.drivesCount (steady : Steady bridge)
    (found : bridge.calls[index]? = some (.driving driver login (.counting change)))
    (isLogin : bridge.logins[login]? = some active) (now : Nat) :
    Steady ((bridge.put login { active with generation := active.generation + 1 }).become index
      (.driving driver login (.writing change (active.generation + 1) now))) := by
  obtain ⟨current, isCurrent, phase, unmarked⟩ := steady.fits index _ login found rfl
  obtain rfl := Option.some.inj (isLogin.symm.trans isCurrent)
  have level : active.generation = active.view.generation := by
    obtain level | ⟨other, writer, stood, writes⟩ := steady.counted login active isLogin
    · exact level
    · have drives := drives_of_writes writes
      obtain rfl := steady.driven other index writer _ login stood found drives rfl
      rw [found] at stood
      obtain rfl := Option.some.inj stood
      cases writes
  refine steady.puts found isLogin rfl ?_ ?_ (steady.marked login active isLogin)
    (.inr (.inl rfl)) (fun other drives => drives) (fun holds => holds)
    (driving_opens driver login _ _) (fun starts => ?_) rfl (fun live => live)
  · intro other about
    obtain rfl := Option.some.inj about
    exact ⟨rfl, phase, unmarked, rfl, by rw [level]⟩
  · intro other present apart stood about fit
    exact fits_of_drives_none fit (steady.other_drives found apart stood about) rfl rfl
  · exact (driving_starts driver login _ _).trans starts

theorem Steady.drivesWrite (steady : Steady bridge) {generation now : Nat}
    (found : bridge.calls[index]? = some (.driving driver login (.writing change generation now)))
    (isLogin : bridge.logins[login]? = some active)
    (unmet : change.ends = true → ∀ call ∈ bridge.calls, call.cancelsUnmarked login = false) :
    Steady ((bridge.put login
      { active with view := change.write generation now active.view }).become index
        (driver.after login change)) := by
  obtain ⟨current, isCurrent, phase, unmarked, rfl, _⟩ := steady.fits index _ login found rfl
  obtain rfl := Option.some.inj (isLogin.symm.trans isCurrent)
  have notCancelled : active.view.phase ≠ .cancelled := by
    intro isCancelled
    rw [steady.marked login active isLogin isCancelled] at unmarked
    cases unmarked
  refine steady.puts found isLogin rfl ?_ ?_ ?_ (.inl (write_generation change _ now _).symm) ?_ ?_
    (after_opens driver login change _) (fun starts => ?_) (after_checks driver login change) ?_
  · intro other about
    exact ⟨after_about driver login change about, after_fits driver login change _⟩
  · intro other present apart stood about fit
    have idle := steady.other_drives found apart stood about
    have awaiting : present.cancelsUnmarked login = true →
        (change.write active.generation now active.view).phase ≠ .complete ∧
          (change.write active.generation now active.view).phase ≠ .failed := by
      intro cancels
      cases ends : change.ends with
      | true =>
        rw [unmet ends present (List.mem_of_getElem? stood)] at cancels
        cases cancels
      | false =>
        obtain further | further := write_phase_of_not_ends ends active.generation now active.view
          <;> simp [further]
    cases present
    case driving => cases idle
    case cancelLooking found =>
      exact awaiting (by simpa [Call.cancelsUnmarked, Call.about] using about)
    case cancelMarking found asks =>
      exact awaiting (by simpa [Call.cancelsUnmarked, Call.about] using about)
    case cancelWriting found asks =>
      rw [fit.2] at unmarked
      cases unmarked
    case cancelCalling found asks => exact absurd fit notCancelled
    case cancelled found => exact absurd fit notCancelled
    all_goals trivial
  · intro isCancelled
    exact absurd isCancelled (write_phase_ne_cancelled change _ now _)
  · intro other drives
    rw [after_drives] at drives
    cases drives
  · rw [after_holdsGate]
    exact id
  · rw [after_starts driver login change (.writing change active.generation now)] at starts
    exact starts
  · intro _
    obtain phase | phase := phase
    · rw [phase]
      cases driver <;> rfl
    · exact absurd phase notCancelled

theorem Steady.drive_kept (steady : Steady bridge)
    (found : bridge.calls[index]? = some (.driving driver login drive))
    (isLogin : bridge.logins[login]? = some active)
    (inOrder : bridge.InOrder (.driving driver login drive)) (news : News) :
    Steady (bridge.drive index news driver login active drive) ∧
      Kept bridge (bridge.drive index news driver login active drive) := by
  obtain ⟨current, isCurrent, phase, fit⟩ := steady.fits index _ login found rfl
  obtain rfl := Option.some.inj (isLogin.symm.trans isCurrent)
  cases drive with
  | asking stepId bridgeTxnId =>
    exact ⟨steady.drivesOn found isLogin phase rfl trivial, kept_of_logins_eq rfl⟩
  | calling request =>
    refine ⟨?_, kept_of_logins_eq rfl⟩
    cases driver with
    | starting => exact steady.drivesOn found isLogin phase rfl trivial
    | holding => exact steady.drivesOn found isLogin phase rfl trivial
    | submitting =>
      rw [Bridge.drive]
      cases unreadable : news.answer with
      | ok document => exact steady.drivesOn found isLogin phase rfl trivial
      | error refusal =>
        cases refusal
        case requestUnreadable errcode =>
          exact steady.drivesOff found isLogin rfl (.refuse (.requestUnreadable errcode))
        all_goals exact steady.drivesOn found isLogin phase rfl trivial
  | checking answer =>
    refine ⟨?_, kept_of_logins_eq rfl⟩
    rw [Bridge.drive]
    split
    · exact steady.drivesOff found isLogin rfl _
    · exact steady.drivesOn found isLogin phase rfl trivial
  | loading change =>
    refine ⟨?_, kept_of_logins_eq rfl⟩
    rw [Bridge.drive]
    split
    · exact steady.drivesOff found isLogin rfl _
    · rename_i unmarked
      exact steady.drivesOn found isLogin phase rfl ((Bool.not_eq_true _).mp unmarked)
  | counting change =>
    exact ⟨steady.drivesCount found isLogin news.now,
      kept_put isLogin (fun _ => rfl) (Nat.le_refl _)⟩
  | writing change generation now =>
    obtain ⟨unmarked, rfl, level⟩ := fit
    have notOver : active.view.phase.isTerminal = false := by
      obtain phase | phase := phase
      · rw [phase]
        cases driver <;> rfl
      · rw [steady.marked login active isLogin phase] at unmarked
        cases unmarked
    have kept : Kept bridge (bridge.put login
        { active with view := change.write active.generation now active.view }) := by
      refine kept_put isLogin (fun isOver => ?_) ?_
      · rw [notOver] at isOver
        cases isOver
      · simp only [write_generation]
        omega
    have steadyThen := steady.drivesWrite found isLogin inOrder
    refine ⟨?_, kept⟩
    rw [Bridge.drive]
    obtain nothing | ⟨asked, spawned⟩ | ⟨stepId, txnId, spawned, awaits⟩ :=
      spawns_cases change bridge.config login active.view.processId
    · rw [nothing, Bridge.spawn, List.append_nil]
      exact steadyThen
    · rw [spawned]
      exact steadyThen.spawns (fun _ about => by cases about) (fun _ drives => by cases drives)
        rfl rfl
    · rw [spawned]
      refine steadyThen.spawns ?_ ?_ rfl rfl
      · intro other about
        obtain rfl := Option.some.inj about
        obtain ⟨inside, _⟩ := List.getElem?_eq_some_iff.mp isLogin
        exact ⟨_, by simp [Bridge.become, Bridge.put, inside]; rfl, .inl (awaits _ _ _), trivial⟩
      · intro other drives second present standing drivesToo
        obtain rfl := Option.some.inj drives
        obtain ⟨rfl, rfl⟩ | ⟨apart, stood⟩ := of_getElem?_set standing
        · rw [after_drives] at drivesToo
          cases drivesToo
        · rw [steady.other_drives found apart stood (about_of_drives drivesToo)] at drivesToo
          cases drivesToo

end

/-! ### One section of a call -/

section

variable {bridge : Bridge} {index : Nat} {call : Call}

theorem Steady.passes (steady : Steady bridge) (found : bridge.calls[index]? = some call)
    (wrote : call.writes = none) (unopened : call.opens = none)
    (fits : ∀ login, next.about = some login →
      ∃ active, bridge.logins[login]? = some active ∧ next.Fits active) (idle : next.drives = none)
    (outside : next.holdsGate = false)
    (checks : ∀ login, next.checks = some login → bridge.slot = some login) :
    Steady (bridge.become index next) := by
  have notOpen : next.opens = none := by
    cases opens : next.opens with
    | none => rfl
    | some login =>
      rw [holdsGate_of_opens opens] at outside
      cases outside
  refine steady.turns found fits wrote ?_ ?_ (notOpen.trans unopened.symm) ?_ checks
  · intro login drives
    rw [idle] at drives
    cases drives
  · rw [outside]
    exact fun holds => by cases holds
  · intro starts
    rw [holdsGate_of_starts starts] at outside
    cases outside

theorem Steady.submit_checked (steady : Steady bridge) {stepId : String} {data : Json}
    (found : bridge.calls[index]? = some (.submitChecking stepId data login)) {active : ActiveLogin}
    (isLogin : bridge.logins[login]? = some active) {request : ProvisioningRequest}
    (passed : bridge.config.submitRequest active.view stepId data = .ok request)
    (inOrder : bridge.InOrder (.submitChecking stepId data login)) :
    Steady (bridge.become index (.driving .submitting login (.calling request))) := by
  have awaiting : active.view.phase = .awaitingInput := by
    by_contra other
    rw [BridgeConfig.submitRequest, if_pos other] at passed
    cases passed
  have shown : active.view ∈ bridge.view login := by simp [Bridge.view, isLogin]
  have noSubmit := inOrder ⟨active.view, shown, by rw [passed]; rfl⟩
  refine steady.turns found ?_ rfl ?_ (fun holds => by cases holds) rfl
    (fun starts => by cases starts) (fun _ checks => by cases checks)
  · intro other about
    obtain rfl := Option.some.inj about
    exact ⟨active, isLogin, .inl awaiting, trivial⟩
  · -- No submit drives the login, no task can hold a step of it, and no start is still to place it.
    intro other drives
    obtain rfl := Option.some.inj drives
    refine .inr fun second present stood drivesToo => ?_
    obtain ⟨current, isCurrent, fit⟩ :=
      steady.fits second present _ stood (about_of_drives drivesToo)
    obtain rfl := Option.some.inj (isLogin.symm.trans isCurrent)
    cases present
    case driving driver driven drive =>
      obtain rfl := Option.some.inj drivesToo
      cases driver with
      | submitting =>
        have none := noSubmit _ (List.mem_of_getElem? stood)
        simp [Call.submits] at none
      | holding =>
        obtain phase | phase := fit.1 <;> rw [awaiting] at phase <;> cases phase
      | starting => exact (steady.hidden second _ _ stood rfl).2 index _ found rfl
    all_goals cases drivesToo

theorem Steady.proceed_kept (steady : Steady bridge) (found : bridge.calls[index]? = some call)
    (inOrder : bridge.InOrder call) (news : News) :
    Steady (bridge.proceed index news call) ∧ Kept bridge (bridge.proceed index news call) := by
  cases call with
  | startWaiting device actingAs request =>
    rw [Bridge.proceed]
    split
    · rename_i free
      refine ⟨?_, kept_of_logins_eq rfl⟩
      exact steady.turns found (fun _ about => by cases about) rfl
        (fun _ drives => by cases drives) (fun _ => .inr (Option.isNone_iff_eq_none.mp free)) rfl
        (fun starts => by cases starts) (fun _ checks => by cases checks)
    · exact ⟨steady, kept_of_logins_eq rfl⟩
  | startChecking device actingAs request =>
    refine ⟨?_, kept_of_logins_eq rfl⟩
    rw [Bridge.proceed]
    cases busy : bridge.inFlight with
    | none =>
      exact steady.turns found (fun _ about => by cases about) rfl
        (fun _ drives => by cases drives) (fun _ => .inl rfl) rfl (fun _ => .inr busy)
        (fun _ checks => by cases checks)
    | some holder =>
      exact steady.passes found rfl rfl (fun _ about => by cases about) rfl rfl
        (fun _ checks => by cases checks)
  | startCalling device request asked =>
    rw [Bridge.proceed]
    cases readFirstStep news.answer with
    | error refusal =>
      exact ⟨steady.passes found rfl rfl (fun _ about => by cases about) rfl rfl
        (fun _ checks => by cases checks), kept_of_logins_eq rfl⟩
    | ok step =>
      refine ⟨steady.opensLogin found rfl rfl _, fun login active isLogin => ?_⟩
      obtain ⟨inside, _⟩ := List.getElem?_eq_some_iff.mp isLogin
      refine ⟨active, ?_, fun _ => rfl, Nat.le_refl _⟩
      exact (List.getElem?_append_left inside).trans isLogin
  | startPlacing login => exact ⟨steady.places found, kept_of_logins_eq rfl⟩
  | startReading login | submitReading login =>
    rw [Bridge.proceed]
    split
    · exact ⟨steady, kept_of_logins_eq rfl⟩
    · exact ⟨steady.passes found rfl rfl (fun _ about => by cases about) rfl rfl
        (fun _ checks => by cases checks), kept_of_logins_eq rfl⟩
  | submitFinding stepId data =>
    refine ⟨?_, kept_of_logins_eq rfl⟩
    rw [Bridge.proceed]
    cases inSlot : bridge.slot with
    | none =>
      exact steady.passes found rfl rfl (fun _ about => by cases about) rfl rfl
        (fun _ checks => by cases checks)
    | some login =>
      refine steady.passes found rfl rfl ?_ rfl rfl (fun _ checks => inSlot.trans checks)
      intro other about
      obtain ⟨active, isLogin⟩ := steady.placed other (inSlot.trans about)
      exact ⟨active, isLogin, trivial⟩
  | submitChecking stepId data login =>
    obtain ⟨active, isLogin, _⟩ := steady.fits index _ login found rfl
    have shown : bridge.view login = some active.view := by simp [Bridge.view, isLogin]
    refine ⟨?_, by rw [Bridge.proceed, shown]; exact kept_of_logins_eq rfl⟩
    rw [Bridge.proceed, shown]
    dsimp only
    cases passed : bridge.config.submitRequest active.view stepId data with
    | error refusal =>
      exact steady.passes found rfl rfl (fun _ about => by cases about) rfl rfl
        (fun _ checks => by cases checks)
    | ok request => exact steady.submit_checked found isLogin passed inOrder
  | driving driver login drive =>
    obtain ⟨active, isLogin, _⟩ := steady.fits index _ login found rfl
    rw [Bridge.proceed, isLogin]
    exact steady.drive_kept found isLogin inOrder news
  | cancelFinding =>
    refine ⟨?_, kept_of_logins_eq rfl⟩
    rw [Bridge.proceed]
    cases inSlot : bridge.slot with
    | none =>
      exact steady.passes found rfl rfl (fun _ about => by cases about) rfl rfl
        (fun _ checks => by cases checks)
    | some login =>
      refine steady.passes found rfl rfl ?_ rfl rfl (fun _ checks => by cases checks)
      intro other about
      obtain ⟨active, isLogin⟩ := steady.placed other (inSlot.trans about)
      obtain rfl := Option.some.inj about
      exact ⟨active, isLogin, inOrder _ inSlot active.view (by simp [Bridge.view, isLogin])⟩
  | cancelLooking login =>
    obtain ⟨active, isLogin, fit⟩ := steady.fits index _ login found rfl
    have shown : bridge.view login = some active.view := by simp [Bridge.view, isLogin]
    rw [Bridge.proceed, shown]
    refine ⟨steady.passes found rfl rfl ?_ rfl rfl (fun _ checks => by cases checks),
      kept_of_logins_eq rfl⟩
    intro other about
    obtain rfl := Option.some.inj about
    exact ⟨active, isLogin, fit⟩
  | cancelMarking login asks =>
    obtain ⟨active, isLogin, fit⟩ := steady.fits index _ login found rfl
    rw [Bridge.proceed, isLogin]
    refine ⟨?_, kept_put isLogin (fun _ => rfl) (Nat.le_refl _)⟩
    refine steady.puts found isLogin rfl ?_ ?_ (fun _ => rfl) (.inr (.inr ⟨rfl, rfl, rfl⟩))
      (fun _ drives => by cases drives) (fun holds => by cases holds) rfl
      (fun starts => by cases starts) rfl (fun live => live)
    · intro other about
      obtain rfl := Option.some.inj about
      exact ⟨rfl, fit, rfl⟩
    · intro other present apart stood about fitToo
      have early := inOrder present (List.mem_of_getElem? stood)
      cases present
      case driving driver driven drive =>
        obtain rfl := Option.some.inj about
        refine ⟨fitToo.1, ?_⟩
        cases drive <;> first | trivial | simp [Call.pastFlag] at early
      case cancelWriting => exact ⟨fitToo.1, rfl⟩
      all_goals trivial
  | cancelWriting login asks =>
    obtain ⟨active, isLogin, fit, isMarked⟩ := steady.fits index _ login found rfl
    rw [Bridge.proceed, isLogin]
    refine ⟨?_, kept_put isLogin ?_ (Nat.le_refl _)⟩
    · refine steady.puts found isLogin rfl ?_ ?_ (fun _ => isMarked)
        (.inr (.inr ⟨rfl, rfl, rfl⟩)) (fun _ drives => by cases drives)
        (fun holds => by cases holds) rfl (fun starts => by cases starts) rfl
        (fun live => by cases live)
      · intro other about
        obtain rfl := Option.some.inj about
        exact ⟨rfl, rfl⟩
      · intro other present apart stood about fitToo
        cases present
        case driving driver driven drive => exact ⟨.inr rfl, fitToo.2⟩
        case cancelWriting => exact ⟨⟨by simp [cancelView], by simp [cancelView]⟩, isMarked⟩
        case cancelLooking | cancelMarking => exact ⟨by simp [cancelView], by simp [cancelView]⟩
        all_goals trivial
    · intro isOver
      obtain ⟨notComplete, notFailed⟩ := fit
      cases phase : active.view.phase <;> simp_all [cancelView, LoginPhase.isTerminal]
  | cancelCalling login asks =>
    obtain ⟨active, isLogin, fit⟩ := steady.fits index _ login found rfl
    refine ⟨?_, kept_of_logins_eq rfl⟩
    rw [Bridge.proceed]
    split
    all_goals
      refine steady.passes found rfl rfl (fun other about => ?_) rfl rfl
        (fun _ checks => by cases checks)
      obtain rfl := Option.some.inj about
      exact ⟨active, isLogin, fit⟩
  | leaving asked =>
    exact ⟨steady.passes found rfl rfl (fun _ about => by cases about) rfl rfl
      (fun _ checks => by cases checks), kept_of_logins_eq rfl⟩
  | answered | refused | cancelled | released => exact ⟨steady, kept_of_logins_eq rfl⟩

end

/-! ### Whole runs -/

theorem Steady.step_kept (steady : Steady bridge) {next : Step} (orderly : Orderly bridge next) :
    Steady (bridge.step next) ∧ Kept bridge (bridge.step next) := by
  cases next with
  | call request =>
    refine ⟨?_, kept_of_logins_eq rfl⟩
    cases request <;>
      exact steady.spawns (fun _ about => by cases about) (fun _ drives => by cases drives) rfl rfl
  | advance index news =>
    rw [Bridge.step]
    cases found : bridge.calls[index]? with
    | none => exact ⟨steady, kept_of_logins_eq rfl⟩
    | some call => exact steady.proceed_kept found (orderly call found) news

theorem steady_and_kept {start : Bridge} (steady : Steady start) {steps : List Step}
    (orderly : Along Bridge.step Orderly start steps) :
    Steady (run Bridge.step start steps) ∧ Kept start (run Bridge.step start steps) :=
  run_invariant_along (fun bridge => Steady bridge ∧ Kept start bridge)
    (fun _ _ before now =>
      have after := before.1.step_kept now
      ⟨after.1, kept_trans before.2 after.2⟩)
    ⟨steady, kept_of_logins_eq rfl⟩ orderly

theorem Steady.not_terminal_of_live (steady : Steady bridge) (live : bridge.Live login) :
    ∃ active, bridge.logins[login]? = some active ∧
      active.view.phase.isTerminal = false := by
  obtain ⟨active, isLogin, notOver | ⟨call, member, about, may⟩⟩ := live
  · exact ⟨active, isLogin, notOver⟩
  · refine ⟨active, isLogin, ?_⟩
    obtain ⟨index, found⟩ := List.getElem?_of_mem member
    obtain ⟨current, isCurrent, fit⟩ := steady.fits index call login found about
    obtain rfl := Option.some.inj (isLogin.symm.trans isCurrent)
    have unmarked : active.cancelled = false → active.view.phase ≠ .cancelled := by
      intro free isCancelled
      rw [steady.marked login active isLogin isCancelled] at free
      cases free
    cases call
    case driving driver driven drive =>
      have free : active.cancelled = false := by
        cases drive <;> first | exact may | exact fit.2 | exact fit.2.1
      obtain phase | phase := fit.1
      · rw [phase]
        cases driver <;> rfl
      · exact absurd phase (unmarked free)
    case cancelLooking | cancelMarking =>
      cases phase : active.view.phase <;> simp_all [Call.Fits, Call.MayWrite, LoginPhase.isTerminal]
    case cancelWriting =>
      cases phase : active.view.phase <;> simp_all [Call.Fits, Call.MayWrite, LoginPhase.isTerminal]
    all_goals cases may

theorem Steady.alone (steady : Steady bridge) {first second : Nat} (live : bridge.Live first)
    (liveToo : bridge.Live second) : first = second := by
  obtain ⟨one, isOne, notOver⟩ := steady.not_terminal_of_live live
  obtain ⟨two, isTwo, notOverToo⟩ := steady.not_terminal_of_live liveToo
  obtain ⟨inSlot, nobody⟩ | ⟨index, call, found, opens⟩ := steady.lone first one isOne notOver
  · obtain ⟨inSlotToo, _⟩ | ⟨index, call, found, opens⟩ :=
      steady.lone second two isTwo notOverToo
    · exact Option.some.inj (inSlot.symm.trans inSlotToo)
    · have starts := starts_of_opens opens
      rw [nobody index call found] at starts
      cases starts
  · obtain ⟨_, nobody⟩ | ⟨other, start, stood, opensToo⟩ :=
      steady.lone second two isTwo notOverToo
    · have starts := starts_of_opens opens
      rw [nobody index call found] at starts
      cases starts
    · obtain rfl := steady.inside_unique found (holdsGate_of_opens opens) stood
        (holdsGate_of_opens opensToo)
      obtain rfl := Option.some.inj (found.symm.trans stood)
      exact Option.some.inj (opens.symm.trans opensToo)

theorem Steady.finished (steady : Steady bridge) (returned : .cancelled login ∈ bridge.calls) :
    (∃ view, bridge.view login = some view ∧ view.phase.isTerminal) ∧
      (bridge.slot = some login → bridge.inFlight = none) := by
  obtain ⟨index, found⟩ := List.getElem?_of_mem returned
  obtain ⟨active, isLogin, phase⟩ := steady.fits index _ login found rfl
  have phase : active.view.phase = .cancelled := phase
  have shown : bridge.view login = some active.view := by simp [Bridge.view, isLogin]
  refine ⟨⟨active.view, shown, by rw [phase]; rfl⟩, fun inSlot => ?_⟩
  rw [Bridge.inFlight, inSlot, Option.bind_some, shown, Option.bind_some, phase]
  rfl

/-- In every run whose steps are in order, one login of the bridge is under way at a time, and a
login that ended stays ended. -/
theorem one_login_of_orderly (config : BridgeConfig) (front more : List Step)
    (orderly : Along Bridge.step Orderly (Bridge.idle config) (front ++ more)) :
    OneLogin (run Bridge.step (Bridge.idle config) front)
      (run Bridge.step (Bridge.idle config) (front ++ more)) := by
  obtain ⟨early, late⟩ := along_append.mp orderly
  obtain ⟨steadyBefore, _⟩ := steady_and_kept (steady_idle config) early
  obtain ⟨steady, kept⟩ := steady_and_kept steadyBefore late
  rw [run_append]
  refine
    { ended := ?_, rising := ?_, alone := fun _ _ => steady.alone, finished := fun _ => steady.finished }
  · intro login earlier shown terminal
    obtain ⟨active, isLogin, rfl⟩ := Option.map_eq_some_iff.mp shown
    obtain ⟨later, isLater, stays, _⟩ := kept login active isLogin
    exact ⟨later.view, by simp [Bridge.view, isLater], stays terminal⟩
  · intro login earlier later shown shownLater
    obtain ⟨active, isLogin, rfl⟩ := Option.map_eq_some_iff.mp shown
    obtain ⟨present, isPresent, rfl⟩ := Option.map_eq_some_iff.mp shownLater
    obtain ⟨current, isCurrent, _, grown⟩ := kept login active isLogin
    obtain rfl := Option.some.inj (isPresent.symm.trans isCurrent)
    exact grown

/-! ### Two submits of one step -/

namespace SubmittedTwice

def config : BridgeConfig where
  bridgeId := "mautrix-whatsapp"
  network := "whatsapp"
  actingAs := "@owner:example.org"

def hears (index : Nat) (answer : Except BridgeRefusal Json) : Step :=
  .advance index { answer := answer, now := 0 }

/-- Sections to which the bridge brings nothing. -/
def goes (index sections : Nat) : List Step :=
  List.replicate sections (hears index (.ok .null))

def askedForPhone : Json :=
  .object [("type", .string "user_input"), ("step_id", .string "phone"),
    ("login_process_id", .string "process")]

def askedToScan : Json :=
  .object [("type", .string "display_and_wait"), ("step_id", .string "scan"),
    ("login_process_id", .string "process"),
    ("display_and_wait", .object [("type", .string "qr"), ("data", .string "code")])]

def accepted : Json :=
  .object [("type", .string "complete"), ("step_id", .string "done"),
    ("complete", .object [("login_id", .string "login")])]

def started : List Step :=
  .call (.start { id := "phone", name := "Phone" } "@owner:example.org"
      { flowId := "phone", loginId := none }) ::
    (goes 0 2 ++ [hears 0 (.ok askedForPhone)] ++ goes 0 5)

def submits : Step := .call (.submit "phone" (.object [("phone", .string "+33600000000")]))

/-- Two submits wait for the bridge, and the first one is told that the login is complete. -/
def completed : List Step :=
  started ++ [submits, submits] ++ goes 1 2 ++ goes 2 2 ++ [hears 1 (.ok accepted)] ++ goes 1 3

/-- The second one is told that the bridge knows no such process any more. -/
def forgotten : List Step :=
  hears 2 (.error (.notFoundOnBridge "M_NOT_FOUND")) :: goes 2 3

/-- The submit waits for the bridge, which has the Gateway hold a code to scan. -/
def scanning : List Step :=
  started ++ [submits] ++ goes 1 2 ++ [hears 1 (.ok askedToScan)] ++ goes 1 4 ++ goes 2 1

def cancelledThere : List Step :=
  .call .cancel :: (goes 3 6 ++ [hears 2 (.error (.loginExpired "FI.MAU.BRIDGE.LOGIN_CANCELLED"))] ++
    goes 2 1)

set_option maxRecDepth 10000 in
/-- A run in order: a code is shown, and the login cancelled. -/
theorem one_login_cancelled :
    OneLogin (run Bridge.step (Bridge.idle config) scanning)
      (run Bridge.step (Bridge.idle config) (scanning ++ cancelledThere)) :=
  one_login_of_orderly config scanning cancelledThere (by decide)

set_option maxRecDepth 10000 in
/-- The login that completed fails. -/
theorem completed_login_fails :
    ¬OneLogin (run Bridge.step (Bridge.idle config) completed)
      (run Bridge.step (Bridge.idle config) (completed ++ forgotten)) := by
  have wasComplete : ((run Bridge.step (Bridge.idle config) completed).view 0).map
      LoginView.phase = some .complete := by decide
  have isFailed : ((run Bridge.step (Bridge.idle config) (completed ++ forgotten)).view 0).map
      LoginView.phase = some .failed := by decide
  intro one
  obtain ⟨earlier, shown, phase⟩ := Option.map_eq_some_iff.mp wasComplete
  obtain ⟨later, shownLater, same⟩ := one.ended 0 earlier shown (by rw [phase]; rfl)
  rw [shownLater, Option.map_some, same, phase] at isFailed
  cases isFailed

end SubmittedTwice

end Twalk.BridgeLogin
