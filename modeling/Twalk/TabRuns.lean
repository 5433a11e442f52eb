/-
This file is what the election of `Twalk.TabLock` keeps over every run. At most one tab is between
announcing `active` and the end of its `onYield`, a tab that handed the lock over has finished
`onYield` and has one claim, `onYield` runs once per tenure and every take-over is answered, in the
runs where no message is heard while `onYield` runs, no take-over is asked while another is in
flight or after the election was stopped, and no tab is stopped while it leads.
-/

import Twalk.TabLock

namespace Twalk.Tabs

/-! ### The election -/

/-- The tab is between its `active` announcement and the end of its `onYield`. -/
def Browser.Leads (browser : Browser) (tab : Nat) : Prop :=
  (browser.tabs tab).alive = true ∧ (browser.tabs tab).role = .active

/-- A promise is fulfilled, and with `active` only if the tab became active after the call. -/
def TakeOver.Fulfilled (takeOver : TakeOver) : Prop :=
  ∃ outcome activations, takeOver.settlement = some (.fulfilled outcome activations) ∧
    (outcome = .active → takeOver.since < activations)

def TakeOver.Waits (takeOver : TakeOver) (stopped : Bool) : Prop :=
  takeOver.settlement = none ∧ takeOver.due = false ∧ stopped = false

/-- A tab that handed the lock over: `onYield` ran once and is over, and unless the election was
stopped one claim of the tab is about to be queued, is queued or has just been granted. -/
structure Browser.HandedOver (browser : Browser) (tab : Nat) : Prop where
  finished : (browser.tabs tab).yielding = 0
  once : (browser.tabs tab).yields = 1
  claim : (browser.tabs tab).stopped = false →
    (browser.tabs tab).scheduled + browser.queue.count tab +
      (if browser.lock = some (tab, .claim) then 1 else 0) = 1

structure Elected (browser : Browser) : Prop where
  sole : ∀ tab other, browser.Leads tab → browser.Leads other → tab = other
  handedOver : ∀ tab, (browser.tabs tab).alive = true → (browser.tabs tab).role = .elsewhere →
    0 < (browser.tabs tab).activations → browser.HandedOver tab
  once : ∀ tab, (browser.tabs tab).alive = true → (browser.tabs tab).yields ≤ 1
  answered : ∀ tab, (browser.tabs tab).alive = true → ∀ takeOver ∈ (browser.tabs tab).promises,
    takeOver.Fulfilled ∨ takeOver.Waits (browser.tabs tab).stopped

/-- No message is heard while `onYield` runs, no take-over is asked while another is in flight or
after the election was stopped, and the election is not stopped in a tab that leads. -/
def Calm (browser : Browser) : Happening → Prop
  | .hears tab => (browser.tabs tab).listens = true → 0 < (browser.tabs tab).mail →
      (browser.tabs tab).release = true → (browser.tabs tab).yielding = 0
  | .takesOver tab => (browser.tabs tab).alive = true →
      (browser.tabs tab).asking = none ∧ (browser.tabs tab).stopped = false
  | .stops tab => ¬ browser.Leads tab
  | _ => True

instance Browser.decidableLeads (browser : Browser) (tab : Nat) :
    Decidable (browser.Leads tab) := inferInstanceAs (Decidable (_ ∧ _))

instance Calm.decidable (browser : Browser) : (happening : Happening) →
    Decidable (Calm browser happening)
  | .hears tab => inferInstanceAs (Decidable ((browser.tabs tab).listens = true →
      0 < (browser.tabs tab).mail → (browser.tabs tab).release = true →
        (browser.tabs tab).yielding = 0))
  | .takesOver tab => inferInstanceAs (Decidable ((browser.tabs tab).alive = true →
      (browser.tabs tab).asking = none ∧ (browser.tabs tab).stopped = false))
  | .stops tab => inferInstanceAs (Decidable (¬ browser.Leads tab))
  | .opens _ | .answered _ | .probed _ | .grants | .granted _ | .frees | .claims _ | .yielded _
  | .deadline _ _ | .dies _ => inferInstanceAs (Decidable True)

/-! ### The promises of a tab -/

def Tab.Answers (tab : Tab) : Prop :=
  ∀ index takeOver, tab.promises[index]? = some takeOver → takeOver.since ≤ tab.activations ∧
    (takeOver.Fulfilled ∨ takeOver.Waits tab.stopped ∧ tab.asking = some index)

def Tab.AllFulfilled (tab : Tab) : Prop :=
  ∀ takeOver ∈ tab.promises, takeOver.since ≤ tab.activations ∧ takeOver.Fulfilled

theorem Tab.AllFulfilled.answers {tab : Tab} (all : tab.AllFulfilled) : tab.Answers :=
  fun _ takeOver isPromise => (all takeOver (List.mem_of_getElem? isPromise)).imp_right .inl

theorem Tab.Answers.allFulfilled {tab : Tab} (answers : tab.Answers) (idle : tab.asking = none) :
    tab.AllFulfilled := by
  intro takeOver isPromise
  obtain ⟨index, isAt⟩ := List.mem_iff_getElem?.mp isPromise
  refine (answers index takeOver isAt).imp_right fun either => ?_
  rcases either with fulfilled | ⟨-, asked⟩
  · exact fulfilled
  · exact absurd (idle.symm.trans asked) nofun

theorem TakeOver.Fulfilled.resolve {takeOver : TakeOver} (fulfilled : takeOver.Fulfilled)
    (settlement : Settlement) : (takeOver.resolve settlement).Fulfilled := by
  obtain ⟨outcome, activations, isSettled, later⟩ := fulfilled
  exact ⟨outcome, activations, by rw [TakeOver.resolve, isSettled]; rfl, later⟩

/-- The take-over in flight is fulfilled by being told: with `active` when the tab has been active
once more since it was asked. -/
theorem Tab.allFulfilled_settle (tab : Tab) (outcome : TakeOverOutcome)
    (since : ∀ takeOver ∈ tab.promises, takeOver.since ≤ tab.activations)
    (only : ∀ index takeOver, tab.promises[index]? = some takeOver →
      takeOver.Fulfilled ∨ takeOver.settlement = none ∧ tab.asking = some index)
    (newer : outcome = .active → ∀ takeOver ∈ tab.promises, takeOver.since < tab.activations) :
    (tab.settle outcome).AllFulfilled := by
  unfold Tab.settle
  cases asking : tab.asking with
  | none =>
    intro takeOver isPromise
    obtain ⟨index, isAt⟩ := List.mem_iff_getElem?.mp isPromise
    refine ⟨since takeOver isPromise, (only index takeOver isAt).resolve_right ?_⟩
    rintro ⟨-, asked⟩
    exact absurd (asking.symm.trans asked) nofun
  | some asked =>
    intro told isTold
    obtain ⟨index, isAt⟩ := List.mem_iff_getElem?.mp isTold
    rw [List.getElem?_modify] at isAt
    obtain ⟨takeOver, isPromise, rfl⟩ := Option.map_eq_some_iff.mp isAt
    have isMember := List.mem_of_getElem? isPromise
    by_cases isAsked : asked = index
    · rw [if_pos isAsked]
      refine ⟨since takeOver isMember, ?_⟩
      rcases only index takeOver isPromise with fulfilled | ⟨unsettled, -⟩
      · exact fulfilled.resolve _
      · exact ⟨outcome, tab.activations, by rw [TakeOver.resolve, unsettled]; rfl,
          fun isActive => newer isActive takeOver isMember⟩
    · rw [if_neg isAsked]
      refine ⟨since takeOver isMember, (only index takeOver isPromise).resolve_right ?_⟩
      rintro ⟨-, isOther⟩
      exact isAsked (Option.some.inj (asking.symm.trans isOther))

theorem Tab.Answers.since {tab : Tab} (answers : tab.Answers) :
    ∀ takeOver ∈ tab.promises, takeOver.since ≤ tab.activations := by
  intro takeOver isPromise
  obtain ⟨index, isAt⟩ := List.mem_iff_getElem?.mp isPromise
  exact (answers index takeOver isAt).1

theorem Tab.Answers.only {tab : Tab} (answers : tab.Answers) : ∀ index takeOver,
    tab.promises[index]? = some takeOver →
      takeOver.Fulfilled ∨ takeOver.settlement = none ∧ tab.asking = some index :=
  fun index takeOver isAt => (answers index takeOver isAt).2.imp_right fun waits =>
    ⟨waits.1.1, waits.2⟩

theorem Tab.Answers.announce {tab : Tab} (answers : tab.Answers) :
    (tab.announce .active).AllFulfilled :=
  Tab.allFulfilled_settle { tab with activations := tab.activations + 1 } .active
    (fun takeOver isPromise => Nat.le_succ_of_le (answers.since takeOver isPromise))
    answers.only fun _ takeOver isPromise => Nat.lt_succ_of_le (answers.since takeOver isPromise)

theorem Tab.Answers.deadline {tab : Tab} (answers : tab.Answers) (index : Nat) :
    (tab.deadline index).Answers := by
  unfold Tab.deadline
  split
  · exact answers
  have since : ∀ takeOver ∈ tab.promises.modify index ({ · with due := true }),
      takeOver.since ≤ tab.activations := by
    intro passed isPassed
    obtain ⟨at', isAt⟩ := List.mem_iff_getElem?.mp isPassed
    rw [List.getElem?_modify] at isAt
    obtain ⟨takeOver, isPromise, rfl⟩ := Option.map_eq_some_iff.mp isAt
    have before := answers.since takeOver (List.mem_of_getElem? isPromise)
    split <;> exact before
  have only : ∀ at' takeOver, (tab.promises.modify index ({ · with due := true }))[at']? =
      some takeOver → takeOver.Fulfilled ∨ takeOver.settlement = none ∧ tab.asking = some at' := by
    intro at' passed isAt
    rw [List.getElem?_modify] at isAt
    obtain ⟨takeOver, isPromise, rfl⟩ := Option.map_eq_some_iff.mp isAt
    have before := answers.only at' takeOver isPromise
    split <;> exact before
  split
  · exact (Tab.allFulfilled_settle _ .unanswered since only (fun other => nomatch other)).answers
  · rename_i isOther
    intro at' passed isAt
    refine ⟨since passed (List.mem_of_getElem? isAt), ?_⟩
    rw [List.getElem?_modify] at isAt
    obtain ⟨takeOver, isPromise, rfl⟩ := Option.map_eq_some_iff.mp isAt
    rcases (answers at' takeOver isPromise).2 with fulfilled | ⟨waits, asked⟩
    · exact .inl (by split <;> exact fulfilled)
    · have apart : index ≠ at' := fun same => isOther (same ▸ asked)
      rw [if_neg apart]
      exact .inr ⟨waits, asked⟩

/-! ### What one tab keeps -/

def grantOf (lock : Option (Nat × Grant)) (tab : Nat) : Option Grant :=
  lock.bind fun holder => if holder.1 = tab then some holder.2 else none

variable {tab : Nat} {lock : Option (Nat × Grant)}

theorem grantOf_eq_some {grant : Grant} :
    grantOf lock tab = some grant ↔ lock = some (tab, grant) := by
  unfold grantOf
  rw [Option.bind_eq_some_iff]
  constructor
  · rintro ⟨⟨holder, how⟩, isLock, isHow⟩
    obtain ⟨rfl, rfl⟩ : holder = tab ∧ how = grant := by
      by_cases same : holder = tab
      · exact ⟨same, Option.some.inj ((if_pos same).symm.trans isHow)⟩
      · exact absurd ((if_neg same).symm.trans isHow) nofun
    exact isLock
  · rintro rfl
    exact ⟨(tab, grant), rfl, if_pos rfl⟩

@[simp] theorem grantOf_none (tab : Nat) : grantOf none tab = none := rfl

@[simp] theorem grantOf_self (tab : Nat) (grant : Grant) :
    grantOf (some (tab, grant)) tab = some grant := if_pos rfl

theorem grantOf_other {tab other : Nat} (apart : other ≠ tab) (grant : Grant) :
    grantOf (some (tab, grant)) other = none := if_neg (Ne.symm apart)

/-- What a tab keeps, given how far it has the lock and how many of its claims are queued. It has
the closure exactly while its callback waits, and it leads exactly then. Every claim it will make
or has made is counted, and there is one until the election is stopped. -/
structure Tab.Sound (tab : Tab) (grant : Option Grant) (queued : Nat) : Prop where
  probing : tab.probe = .granted ↔ grant = some .probe
  holding : tab.release = true ↔ grant = some .held
  leading : tab.role = .active ↔ tab.release = true
  led : tab.role = .active → 0 < tab.activations
  new : tab.probe ≠ .ended → tab.activations = 0
  running : tab.yielding = if tab.role = .active then tab.yields else 0
  once : tab.yields ≤ 1
  handedOver : tab.role = .elsewhere → 0 < tab.activations → tab.yields = 1
  claims : tab.stopped = false → (if tab.probe = .ended then 0 else 1) + tab.scheduled + queued +
    (if grant = some .claim then 1 else 0) + (if tab.release then 1 else 0) = 1
  answers : tab.Answers

def Browser.Sound (browser : Browser) : Prop :=
  ∀ tab, if (browser.tabs tab).alive then
      (browser.tabs tab).Sound (grantOf browser.lock tab) (browser.queue.count tab)
    else grantOf browser.lock tab = none ∧ browser.queue.count tab = 0

variable {browser : Browser}

theorem Browser.Sound.alive (sound : browser.Sound) (alive : (browser.tabs tab).alive = true) :
    (browser.tabs tab).Sound (grantOf browser.lock tab) (browser.queue.count tab) := by
  have here := sound tab
  rwa [if_pos alive] at here

theorem Browser.Sound.elected (sound : browser.Sound) : Elected browser where
  sole tab other leads otherLeads := by
    have held := (sound.alive leads.1).holding.mp ((sound.alive leads.1).leading.mp leads.2)
    have otherHeld := (sound.alive otherLeads.1).holding.mp
      ((sound.alive otherLeads.1).leading.mp otherLeads.2)
    have same := (grantOf_eq_some.mp held).symm.trans (grantOf_eq_some.mp otherHeld)
    cases same
    rfl
  handedOver tab alive isElsewhere wasActive := by
    have own := sound.alive alive
    have isOver : (browser.tabs tab).probe = .ended := by
      by_contra notOver
      exact absurd (own.new notOver) (Nat.pos_iff_ne_zero.mp wasActive)
    have noRelease : (browser.tabs tab).release = false := by
      rw [Bool.eq_false_iff]
      intro held
      exact absurd (isElsewhere.symm.trans (own.leading.mpr held)) nofun
    refine ⟨?_, own.handedOver isElsewhere wasActive, fun going => ?_⟩
    · rw [own.running, if_neg (isElsewhere ▸ nofun)]
    · have claims := own.claims going
      rw [isOver, noRelease] at claims
      simpa [grantOf_eq_some] using claims
  once tab alive := (sound.alive alive).once
  answered tab alive takeOver isPromise := by
    obtain ⟨index, isAt⟩ := List.mem_iff_getElem?.mp isPromise
    exact ((sound.alive alive).answers index takeOver isAt).2.imp_right And.left

theorem sound_shut : shut.Sound := by
  intro tab
  exact ⟨rfl, rfl⟩

/-! ### What the other tabs see -/

/-- To every other tab a step changes at most the messages that are on their way. -/
def Apart (tab : Nat) (before after : Browser) : Prop :=
  ∀ other, other ≠ tab → (∃ mail, after.tabs other = { before.tabs other with mail := mail }) ∧
    grantOf after.lock other = grantOf before.lock other ∧
    after.queue.count other = before.queue.count other

theorem Tab.Sound.mailed {tab : Tab} {grant : Option Grant} {queued : Nat}
    (sound : tab.Sound grant queued) (mail : Nat) :
    ({ tab with mail := mail } : Tab).Sound grant queued :=
  ⟨sound.probing, sound.holding, sound.leading, sound.led, sound.new, sound.running, sound.once,
    sound.handedOver, sound.claims, sound.answers⟩

theorem Browser.Sound.of_apart {before after : Browser} (sound : before.Sound)
    (apart : Apart tab before after) (own : if (after.tabs tab).alive then
        (after.tabs tab).Sound (grantOf after.lock tab) (after.queue.count tab)
      else grantOf after.lock tab = none ∧ after.queue.count tab = 0) : after.Sound := by
  intro other
  by_cases here : other = tab
  · exact here ▸ own
  · obtain ⟨⟨mail, isTab⟩, isGrant, isCount⟩ := apart other here
    have old := sound other
    rw [isTab, isGrant, isCount]
    by_cases alive : (before.tabs other).alive
    · rw [if_pos alive] at old
      exact (if_pos alive).mpr (old.mailed mail)
    · rw [if_neg alive] at old
      exact (if_neg alive).mpr old

theorem Apart.trans {first second third : Browser} (before : Apart tab first second)
    (after : Apart tab second third) : Apart tab first third := by
  intro other here
  obtain ⟨⟨_, isSecond⟩, isGrant, isCount⟩ := before other here
  obtain ⟨⟨mail, isThird⟩, isNextGrant, isNextCount⟩ := after other here
  exact ⟨⟨mail, by rw [isThird, isSecond]⟩, isNextGrant.trans isGrant, isNextCount.trans isCount⟩

theorem apart_put (browser : Browser) (tab : Nat) (now : Tab) :
    Apart tab browser (browser.put tab now) :=
  fun other here => ⟨⟨(browser.tabs other).mail, Function.update_of_ne here _ _⟩, rfl, rfl⟩

theorem apart_lock (old : ∀ holder ∈ browser.lock, holder.1 = tab)
    (new : ∀ holder ∈ lock, holder.1 = tab) :
    Apart tab browser { browser with lock := lock } := by
  have away : ∀ lock : Option (Nat × Grant), (∀ holder ∈ lock, holder.1 = tab) →
      ∀ other, other ≠ tab → grantOf lock other = none := by
    intro lock own other here
    cases lock with
    | none => rfl
    | some holder => exact if_neg fun same => here (same.symm.trans (own holder rfl))
  exact fun other here => ⟨⟨(browser.tabs other).mail, rfl⟩,
    (away lock new other here).trans (away browser.lock old other here).symm, rfl⟩

theorem apart_claim (browser : Browser) (tab : Nat) : Apart tab browser (browser.claim tab) := by
  unfold Browser.claim
  split
  · exact fun other _ => ⟨⟨(browser.tabs other).mail, rfl⟩, rfl, rfl⟩
  · intro other here
    refine ⟨⟨(browser.tabs other).mail, rfl⟩, rfl, ?_⟩
    rw [List.count_append, List.count_singleton, if_neg (by simpa using Ne.symm here),
      Nat.add_zero]

theorem apart_letGo (browser : Browser) (tab : Nat) : Apart tab browser (browser.letGo tab) := by
  unfold Browser.letGo
  split
  · refine (apart_put browser tab { browser.tabs tab with release := false }).trans ?_
    by_cases held : browser.lock = some (tab, .held)
    · rw [if_pos held]
      refine apart_lock (fun holder isHolder => ?_) (fun holder isHolder => ?_)
      · cases held.symm.trans isHolder
        rfl
      · cases isHolder
        rfl
    · rw [if_neg held]
      exact fun other _ => ⟨⟨_, rfl⟩, rfl, rfl⟩
  · exact fun other _ => ⟨⟨(browser.tabs other).mail, rfl⟩, rfl, rfl⟩

theorem apart_post (browser : Browser) (tab : Nat) : Apart tab browser (browser.post tab) := by
  intro other _
  refine ⟨?_, rfl, rfl⟩
  by_cases reached : other ≠ tab ∧ (browser.tabs other).listens
  · exact ⟨_, if_pos reached⟩
  · exact ⟨(browser.tabs other).mail, if_neg reached⟩

/-! ### The steps of one tab -/

theorem announce_elsewhere (tab : Tab) :
    tab.announce .elsewhere = { tab with role := .elsewhere } := rfl

theorem settle_frame (tab : Tab) (outcome : TakeOverOutcome) : ∃ asking promises,
    tab.settle outcome = { tab with asking := asking, promises := promises } := by
  unfold Tab.settle
  cases tab.asking with
  | none => exact ⟨tab.asking, tab.promises, rfl⟩
  | some index => exact ⟨_, _, rfl⟩

theorem deadline_frame (tab : Tab) (index : Nat) : ∃ asking promises,
    tab.deadline index = { tab with asking := asking, promises := promises } := by
  unfold Tab.deadline
  split
  · exact ⟨tab.asking, tab.promises, rfl⟩
  · split
    · exact settle_frame _ _
    · exact ⟨tab.asking, _, rfl⟩

namespace Tab.Sound

variable {tab : Tab} {grant : Option Grant} {queued : Nat}

theorem release_of_ne (own : tab.Sound grant queued) (other : grant ≠ some .held) :
    tab.release = false :=
  Bool.eq_false_iff.mpr fun held => other (own.holding.mp held)

theorem role_of_ne (own : tab.Sound grant queued) (other : grant ≠ some .held) :
    tab.role ≠ .active := fun isActive => other (own.holding.mp (own.leading.mp isActive))

theorem yielding_of_ne (own : tab.Sound grant queued) (other : tab.role ≠ .active) :
    tab.yielding = 0 := by rw [own.running, if_neg other]

theorem promised (own : tab.Sound grant queued) {asking : Option Nat} {promises : List TakeOver}
    (answers : ({ tab with asking := asking, promises := promises } : Tab).Answers) :
    ({ tab with asking := asking, promises := promises } : Tab).Sound grant queued :=
  { own with answers := answers }

theorem probeGranted (own : tab.Sound none queued) (isAsked : tab.probe = .asked) :
    ({ tab with probe := .granted } : Tab).Sound (some .probe) queued :=
  { own with
    probing := iff_of_true rfl rfl
    holding := iff_of_false (Bool.eq_false_iff.mp (own.release_of_ne nofun)) nofun
    new := fun _ => own.new (isAsked ▸ nofun)
    claims := fun going => by simpa [isAsked] using own.claims going }

theorem probeRefused (own : tab.Sound grant queued) (isAsked : tab.probe = .asked) :
    ({ tab with probe := .refused } : Tab).Sound grant queued :=
  { own with
    probing := iff_of_false nofun fun isProbe =>
      absurd (isAsked.symm.trans (own.probing.mpr isProbe)) nofun
    new := fun _ => own.new (isAsked ▸ nofun)
    claims := fun going => by simpa [isAsked] using own.claims going }

theorem probeOver (own : tab.Sound grant queued) (isGranted : tab.probe = .granted) :
    ({ tab with probe := .ended } : Tab).Sound none
      (if tab.stopped then queued else queued + 1) := by
  have isProbe := own.probing.mp isGranted
  have noRelease := own.release_of_ne (isProbe ▸ nofun)
  exact { own with
    probing := iff_of_false nofun nofun
    holding := iff_of_false (Bool.eq_false_iff.mp noRelease) nofun
    new := fun unended => absurd rfl unended
    claims := fun going => by
      have going : tab.stopped = false := going
      have claims := own.claims going
      simp only [isGranted, isProbe, noRelease, going] at claims ⊢
      simpa [Nat.add_comm, Nat.add_assoc, Nat.add_left_comm] using claims }

theorem probeElsewhere (own : tab.Sound grant queued) (isRefused : tab.probe = .refused) :
    (({ tab with probe := .ended } : Tab).announce .elsewhere).Sound grant
      (if tab.stopped then queued else queued + 1) := by
  have neverActive := own.new (isRefused ▸ nofun)
  have notActive : tab.role ≠ .active := fun isActive =>
    absurd (own.led isActive) (by omega)
  exact { own with
    probing := iff_of_false nofun fun isProbe =>
      absurd (isRefused.symm.trans (own.probing.mpr isProbe)) nofun
    leading := iff_of_false nofun fun held => notActive (own.leading.mpr held)
    led := nofun
    new := fun unended => absurd rfl unended
    running := own.yielding_of_ne notActive
    handedOver := fun _ wasActive => absurd neverActive (Nat.pos_iff_ne_zero.mp wasActive)
    claims := fun going => by
      have going : tab.stopped = false := going
      have claims := own.claims going
      simp only [Tab.announce, isRefused, going] at claims ⊢
      simpa [Nat.add_comm, Nat.add_assoc, Nat.add_left_comm] using claims
    answers := own.answers }

theorem claimGranted (own : tab.Sound none (queued + 1)) : tab.Sound (some .claim) queued :=
  { own with
    probing := iff_of_false (fun isGranted => nomatch own.probing.mp isGranted) nofun
    holding := iff_of_false (Bool.eq_false_iff.mp (own.release_of_ne nofun)) nofun
    claims := fun going => by
      have claims := own.claims going
      simpa [Nat.add_comm, Nat.add_assoc, Nat.add_left_comm] using claims }

theorem becomesActive (own : tab.Sound (some .claim) queued) (going : tab.stopped = false) :
    ({ tab.announce .active with release := true } : Tab).Sound (some .held) queued := by
  have claims := own.claims going
  have noRelease := own.release_of_ne nofun
  have isOver : tab.probe = .ended := by
    by_contra notOver
    rw [if_neg notOver, if_pos rfl] at claims
    omega
  have all := own.answers.announce
  obtain ⟨asking, promises, isSettled⟩ :=
    settle_frame { tab with activations := tab.activations + 1 } .active
  have isActive : tab.announce .active = { tab with
      activations := tab.activations + 1, asking := asking, promises := promises
      role := .active, yields := 0 } := by
    rw [Tab.announce, isSettled]
  rw [isActive] at all ⊢
  exact {
    probing := iff_of_false (fun isGranted => absurd (isOver.symm.trans isGranted) nofun) nofun
    holding := iff_of_true rfl rfl
    leading := iff_of_true rfl rfl
    led := fun _ => Nat.succ_pos _
    new := fun notOver => absurd isOver notOver
    running := own.yielding_of_ne (own.role_of_ne nofun)
    once := Nat.zero_le 1
    handedOver := nofun
    claims := fun _ => by simpa [isOver, noRelease] using claims
    answers := Tab.AllFulfilled.answers all }

theorem returns (own : tab.Sound (some .claim) queued) (ended : tab.stopped = true) :
    tab.Sound (some .returned) queued :=
  { own with
    probing := iff_of_false (fun isGranted => nomatch own.probing.mp isGranted) nofun
    holding := iff_of_false (Bool.eq_false_iff.mp (own.release_of_ne nofun)) nofun
    claims := fun going => absurd (ended.symm.trans going) nofun }

theorem freed (own : tab.Sound (some .returned) queued) : tab.Sound none queued :=
  { own with
    probing := iff_of_false (fun isGranted => nomatch own.probing.mp isGranted) nofun
    holding := iff_of_false (Bool.eq_false_iff.mp (own.release_of_ne nofun)) nofun
    claims := fun going => by simpa using own.claims going }

theorem claimsAgain (own : tab.Sound grant queued) (isScheduled : tab.scheduled ≠ 0) :
    ({ tab with scheduled := tab.scheduled - 1 } : Tab).Sound grant
      (if tab.stopped then queued else queued + 1) :=
  { own with
    claims := fun going => by
      have going : tab.stopped = false := going
      have claims := own.claims going
      simp only [going]
      simp only [Bool.false_eq_true, if_false]
      omega }

theorem asks (own : tab.Sound grant queued) (idle : tab.asking = none)
    (going : tab.stopped = false) :
    ({ tab with
        asking := some tab.promises.length
        promises := tab.promises ++ [⟨tab.activations, false, none⟩] } : Tab).Sound grant
      queued := by
  refine own.promised fun index takeOver isAt => ?_
  have all := own.answers.allFulfilled idle
  rw [List.getElem?_append] at isAt
  split at isAt
  · exact (all takeOver (List.mem_of_getElem? isAt)).imp_right .inl
  · rename_i notOld
    rw [List.getElem?_singleton] at isAt
    split at isAt
    · rename_i isLast
      cases isAt
      have isIndex : tab.promises.length = index := by omega
      exact ⟨Nat.le_refl _, .inr ⟨⟨rfl, rfl, going⟩, congrArg some isIndex⟩⟩
    · exact nomatch isAt

theorem hears (own : tab.Sound grant queued) (mail : Nat) (calm : tab.release = true →
      tab.yielding = 0) :
    (if tab.release then ({ tab with
        mail := mail, yielding := tab.yielding + 1, yields := tab.yields + 1 } : Tab)
      else { tab with mail := mail }).Sound grant queued := by
  split
  · rename_i held
    have isActive := own.leading.mpr held
    have none := calm held
    have noYields : tab.yields = 0 := by
      rw [← none, own.running, if_pos isActive]
    exact { own with
      running := by simp [none, noYields, isActive]
      once := by simp [noYields]
      handedOver := fun other => absurd (isActive.symm.trans other) nofun
      answers := own.answers }
  · exact own.mailed mail

/-- `onYield` comes back: the tab announces it, lets the lock go and will claim it again. -/
theorem handsOver (own : tab.Sound grant queued) (isYielding : tab.yielding ≠ 0) :
    ({ ({ tab with yielding := tab.yielding - 1 } : Tab).announce .elsewhere with
        release := false, scheduled := tab.scheduled + 1 } : Tab).Sound (some .returned)
      queued := by
  have isActive : tab.role = .active := by
    by_contra other
    exact isYielding (own.yielding_of_ne other)
  have held := own.leading.mp isActive
  have isHeld := own.holding.mp held
  have isRunning : tab.yielding = tab.yields := by rw [own.running, if_pos isActive]
  have once := own.once
  exact {
    probing := iff_of_false
      (fun isGranted => absurd (isHeld.symm.trans (own.probing.mp isGranted)) nofun) nofun
    holding := iff_of_false nofun nofun
    leading := iff_of_false nofun nofun
    led := nofun
    new := own.new
    running := by
      show tab.yielding - 1 = 0
      omega
    once := once
    handedOver := fun _ _ => by
      show tab.yields = 1
      omega
    claims := fun going => by
      have claims := own.claims going
      rw [held, isHeld, if_neg (show some Grant.held ≠ some .claim from nofun), if_pos rfl]
        at claims
      show (if tab.probe = .ended then 0 else 1) + (tab.scheduled + 1) + queued + 0 + 0 = 1
      omega
    answers := own.answers }

theorem stops (own : tab.Sound grant queued) :
    (({ tab with stopped := true } : Tab).settle .unanswered).Sound grant queued := by
  have all := Tab.allFulfilled_settle { tab with stopped := true } .unanswered own.answers.since
    own.answers.only (fun other => nomatch other)
  obtain ⟨asking, promises, isSettled⟩ := settle_frame { tab with stopped := true } .unanswered
  rw [isSettled] at all ⊢
  exact { own with
    claims := nofun
    answers := Tab.AllFulfilled.answers all }

end Tab.Sound

/-! ### The steps of the browser -/

@[simp] theorem tabs_put (browser : Browser) (tab : Nat) (now : Tab) :
    (browser.put tab now).tabs tab = now := Function.update_self ..

@[simp] theorem lock_put (browser : Browser) (tab : Nat) (now : Tab) :
    (browser.put tab now).lock = browser.lock := rfl

@[simp] theorem queue_put (browser : Browser) (tab : Nat) (now : Tab) :
    (browser.put tab now).queue = browser.queue := rfl

@[simp] theorem tabs_claim (browser : Browser) (tab : Nat) :
    (browser.claim tab).tabs = browser.tabs := by
  unfold Browser.claim
  split <;> rfl

@[simp] theorem lock_claim (browser : Browser) (tab : Nat) :
    (browser.claim tab).lock = browser.lock := by
  unfold Browser.claim
  split <;> rfl

@[simp] theorem count_claim (browser : Browser) (tab : Nat) :
    (browser.claim tab).queue.count tab = if (browser.tabs tab).stopped then
      browser.queue.count tab else browser.queue.count tab + 1 := by
  unfold Browser.claim
  split
  · rfl
  · rw [List.count_append, List.count_singleton_self]

namespace Browser.Sound

variable {browser : Browser}

theorem of_alive {after : Browser} (sound : browser.Sound) (apart : Apart tab browser after)
    (alive : (after.tabs tab).alive = true)
    (own : (after.tabs tab).Sound (grantOf after.lock tab) (after.queue.count tab)) :
    after.Sound := sound.of_apart apart ((if_pos alive).mpr own)

theorem alive_of_grant (sound : browser.Sound) {grant : Grant}
    (has : browser.lock = some (tab, grant)) : (browser.tabs tab).alive = true := by
  by_contra gone
  have absent := sound tab
  rw [if_neg gone] at absent
  exact absurd (absent.1.symm.trans (grantOf_eq_some.mpr has)) nofun

theorem alive_of_queued (sound : browser.Sound) (waits : tab ∈ browser.queue) :
    (browser.tabs tab).alive = true := by
  by_contra gone
  have absent := sound tab
  rw [if_neg gone] at absent
  exact absurd waits (List.count_eq_zero.mp absent.2)

theorem opens (sound : browser.Sound) (gone : ¬ (browser.tabs tab).alive = true) :
    (browser.put tab .opened).Sound := by
  have absent := sound tab
  rw [if_neg gone] at absent
  refine sound.of_alive (apart_put _ _ _) (by rw [tabs_put]; rfl) ?_
  rw [tabs_put, lock_put, queue_put, absent.1, absent.2]
  exact {
    probing := iff_of_false nofun nofun
    holding := iff_of_false nofun nofun
    leading := iff_of_false nofun nofun
    led := nofun
    new := fun _ => rfl
    running := rfl
    once := Nat.zero_le 1
    handedOver := nofun
    claims := fun _ => rfl
    answers := fun _ _ isAt => nomatch isAt }

theorem answer (sound : browser.Sound) (alive : (browser.tabs tab).alive = true) :
    (browser.answer tab).Sound := by
  have own := sound.alive alive
  unfold Browser.answer
  split
  · rename_i isAsked
    split
    · rename_i isFree
      rw [isFree.1, grantOf_none] at own
      refine sound.of_alive ((apart_put _ _ _).trans (apart_lock ?_ ?_)) ?_ ?_
      · exact fun holder isHolder => nomatch isFree.1.symm.trans isHolder
      · rintro holder ⟨⟩
        rfl
      · rw [tabs_put]
        exact alive
      · rw [tabs_put, grantOf_self]
        exact own.probeGranted isAsked
    · refine sound.of_alive (apart_put _ _ _) (by rw [tabs_put]; exact alive) ?_
      rw [tabs_put]
      exact own.probeRefused isAsked
  · exact sound

theorem probed (sound : browser.Sound) (alive : (browser.tabs tab).alive = true) :
    (browser.probed tab).Sound := by
  have own := sound.alive alive
  unfold Browser.probed
  split
  · rename_i isGranted
    have isLock := grantOf_eq_some.mp (own.probing.mp isGranted)
    refine sound.of_alive (((apart_put _ _ _).trans (apart_lock ?_ ?_)).trans
      (apart_claim _ _)) ?_ ?_
    · intro holder isHolder
      cases isLock.symm.trans isHolder
      rfl
    · exact fun holder isHolder => nomatch isHolder
    · rw [tabs_claim, tabs_put]
      exact alive
    · rw [tabs_claim, lock_claim, count_claim, tabs_put]
      exact own.probeOver isGranted
  · rename_i isRefused
    refine sound.of_alive ((apart_put _ _ _).trans (apart_claim _ _)) ?_ ?_
    · rw [tabs_claim, tabs_put]
      exact alive
    · rw [tabs_claim, lock_claim, count_claim, tabs_put]
      exact own.probeElsewhere isRefused
  · exact sound

theorem grant (sound : browser.Sound) : browser.grant.Sound := by
  unfold Browser.grant
  split
  · rename_i tab rest isFree isQueue
    have alive := sound.alive_of_queued (isQueue ▸ List.mem_cons_self : tab ∈ browser.queue)
    have own := sound.alive alive
    rw [isFree, isQueue, grantOf_none, List.count_cons_self] at own
    refine sound.of_alive (fun other here => ⟨⟨(browser.tabs other).mail, rfl⟩, ?_, ?_⟩) alive ?_
    · rw [isFree]
      exact grantOf_other here _
    · rw [isQueue, List.count_cons_of_ne (Ne.symm here)]
    · rw [grantOf_self]
      exact own.claimGranted
  · exact sound

theorem granted (sound : browser.Sound) (alive : (browser.tabs tab).alive = true) :
    (browser.granted tab).Sound := by
  have own := sound.alive alive
  unfold Browser.granted
  split
  · rename_i isLock
    have mine : ∀ holder ∈ browser.lock, holder.1 = tab := by
      intro holder isHolder
      cases isLock.symm.trans isHolder
      rfl
    rw [isLock, grantOf_self] at own
    split
    · rename_i ended
      refine sound.of_alive (apart_lock mine ?_) alive ?_
      · rintro holder ⟨⟩
        rfl
      · rw [grantOf_self]
        exact own.returns ended
    · rename_i going
      obtain ⟨asking, promises, isSettled⟩ := settle_frame
        { browser.tabs tab with activations := (browser.tabs tab).activations + 1 } .active
      refine sound.of_alive ((apart_put _ _ _).trans (apart_lock mine ?_)) ?_ ?_
      · rintro holder ⟨⟩
        rfl
      · rw [tabs_put, Tab.announce, isSettled]
        exact alive
      · rw [tabs_put, grantOf_self]
        exact own.becomesActive (Bool.eq_false_iff.mpr going)
  · exact sound

theorem free (sound : browser.Sound) : browser.free.Sound := by
  unfold Browser.free
  split
  · rename_i tab isLock
    have own := sound.alive (sound.alive_of_grant isLock)
    rw [isLock, grantOf_self] at own
    refine sound.of_alive (apart_lock ?_ nofun) (sound.alive_of_grant isLock) own.freed
    intro holder isHolder
    cases isLock.symm.trans isHolder
    rfl
  · exact sound

theorem claimAgain (sound : browser.Sound) (alive : (browser.tabs tab).alive = true) :
    (browser.claimAgain tab).Sound := by
  unfold Browser.claimAgain
  split
  · exact sound
  · rename_i isScheduled
    refine sound.of_alive ((apart_put _ _ _).trans (apart_claim _ _)) ?_ ?_
    · rw [tabs_claim, tabs_put]
      exact alive
    · rw [tabs_claim, lock_claim, count_claim, tabs_put]
      exact (sound.alive alive).claimsAgain isScheduled

theorem takeOver (sound : browser.Sound) (alive : (browser.tabs tab).alive = true)
    (idle : (browser.tabs tab).asking = none) (going : (browser.tabs tab).stopped = false) :
    (browser.takeOver tab).Sound := by
  unfold Browser.takeOver
  rw [if_neg (Bool.eq_false_iff.mp going)]
  have own : ((Browser.put browser tab { browser.tabs tab with
      asking := some (browser.tabs tab).promises.length
      promises := (browser.tabs tab).promises ++
        [⟨(browser.tabs tab).activations, false, none⟩] }).post tab).tabs tab =
      { browser.tabs tab with
        asking := some (browser.tabs tab).promises.length
        promises := (browser.tabs tab).promises ++
          [⟨(browser.tabs tab).activations, false, none⟩] } :=
    (if_neg fun other => other.1 rfl).trans (tabs_put _ _ _)
  refine sound.of_alive ((apart_put _ _ _).trans (apart_post _ _)) ?_ ?_
  · rw [own]
    exact alive
  · rw [own]
    exact (sound.alive alive).asks idle going

theorem hear (sound : browser.Sound) (alive : (browser.tabs tab).alive = true)
    (calm : (browser.tabs tab).listens = true → 0 < (browser.tabs tab).mail →
      (browser.tabs tab).release = true → (browser.tabs tab).yielding = 0) :
    (browser.hear tab).Sound := by
  by_cases hears : (browser.tabs tab).listens = true ∧ 0 < (browser.tabs tab).mail
  · rw [show browser.hear tab = _ from if_pos hears]
    refine sound.of_alive (apart_put _ _ _) ?_ ?_
    · rw [tabs_put]
      split <;> exact alive
    · rw [tabs_put]
      exact (sound.alive alive).hears _ (calm hears.1 hears.2)
  · rw [show browser.hear tab = browser from if_neg hears]
    exact sound

theorem yielded (sound : browser.Sound) (alive : (browser.tabs tab).alive = true) :
    (browser.yielded tab).Sound := by
  have own := sound.alive alive
  unfold Browser.yielded
  split
  · exact sound
  · rename_i isYielding
    have isActive : (browser.tabs tab).role = .active := by
      by_contra other
      exact isYielding (own.yielding_of_ne other)
    have held := own.leading.mp isActive
    have isLock := grantOf_eq_some.mp (own.holding.mp held)
    refine sound.of_alive (((apart_put _ _ _).trans (apart_letGo _ _)).trans
      (apart_put _ _ _)) ?_ ?_
    · rw [tabs_put, Browser.letGo, tabs_put, announce_elsewhere, if_pos held, tabs_put]
      exact alive
    · simp only [Browser.letGo, tabs_put, announce_elsewhere, held, if_true, lock_put, isLock,
        queue_put, grantOf_self]
      exact own.handsOver isYielding

theorem deadline (sound : browser.Sound) (alive : (browser.tabs tab).alive = true) (promise : Nat) :
    (browser.put tab ((browser.tabs tab).deadline promise)).Sound := by
  have own := sound.alive alive
  have answers := own.answers.deadline promise
  obtain ⟨asking, promises, isDeadline⟩ := deadline_frame (browser.tabs tab) promise
  rw [isDeadline] at answers ⊢
  refine sound.of_alive (apart_put _ _ _) (by rw [tabs_put]; exact alive) ?_
  rw [tabs_put]
  exact own.promised answers

theorem stop (sound : browser.Sound) (alive : (browser.tabs tab).alive = true)
    (calm : ¬ browser.Leads tab) : (browser.stop tab).Sound := by
  have own := sound.alive alive
  have noRelease : (browser.tabs tab).release ≠ true :=
    fun held => calm ⟨alive, own.leading.mpr held⟩
  have stopped := own.stops
  obtain ⟨asking, promises, isSettled⟩ :=
    settle_frame { browser.tabs tab with stopped := true } .unanswered
  rw [isSettled] at stopped
  unfold Browser.stop
  rw [isSettled, Browser.letGo, tabs_put, if_neg noRelease]
  refine sound.of_alive (apart_put _ _ _) (by rw [tabs_put]; exact alive) ?_
  rw [tabs_put]
  exact stopped

theorem die (sound : browser.Sound) (tab : Nat) : (browser.die tab).Sound := by
  refine sound.of_apart (show Apart tab browser (browser.die tab) from fun other here => ?_) ?_
  · refine ⟨⟨(browser.tabs other).mail, Function.update_of_ne here _ _⟩, ?_, ?_⟩
    · unfold Browser.die
      cases browser.lock with
      | none => rfl
      | some holder =>
        by_cases mine : holder.1 = tab
        · rw [Option.filter_some_neg (by simpa using mine)]
          exact (if_neg fun same => here (same.symm.trans mine)).symm
        · rw [Option.filter_some_pos (by simpa using mine)]
    · exact List.count_filter (by simpa using here)
  · rw [if_neg (by simp [Browser.die])]
    refine ⟨?_, List.count_eq_zero.mpr fun member => ?_⟩
    · unfold Browser.die
      cases browser.lock with
      | none => rfl
      | some holder =>
        by_cases mine : holder.1 = tab
        · rw [Option.filter_some_neg (by simpa using mine)]
          rfl
        · rw [Option.filter_some_pos (by simpa using mine)]
          exact if_neg mine
    · exact absurd (List.mem_filter.mp member).2 (by simp)

theorem act (sound : browser.Sound) {does : Browser → Nat → Browser}
    (kept : (browser.tabs tab).alive = true → (does browser tab).Sound) :
    (browser.act tab does).Sound := by
  unfold Browser.act
  split
  · exact kept ‹_›
  · exact sound

theorem step (sound : browser.Sound) {happening : Happening} (calm : Calm browser happening) :
    (Tabs.step browser happening).Sound := by
  cases happening with
  | opens tab =>
    by_cases alive : (browser.tabs tab).alive = true
    · rw [Tabs.step, if_pos alive]
      exact sound
    · rw [Tabs.step, if_neg alive]
      exact sound.opens alive
  | answered tab => exact sound.act sound.answer
  | probed tab => exact sound.act sound.probed
  | grants => exact sound.grant
  | granted tab => exact sound.act sound.granted
  | frees => exact sound.free
  | claims tab => exact sound.act sound.claimAgain
  | takesOver tab => exact sound.act fun alive => sound.takeOver alive (calm alive).1 (calm alive).2
  | hears tab => exact sound.act fun alive => sound.hear alive calm
  | yielded tab => exact sound.act sound.yielded
  | deadline tab promise => exact sound.act fun alive => sound.deadline alive promise
  | stops tab => exact sound.act fun alive => sound.stop alive calm
  | dies tab => exact sound.act fun _ => sound.die tab

end Browser.Sound

/-- One tab leads at a time, each hands over in full and each take-over is answered, in every state
of a run whose steps are all calm. -/
theorem elected_of_calm {happenings : List Happening} (calm : Along step Calm shut happenings) :
    ∀ reached, reached <+: happenings → Elected (run step shut reached) := by
  rintro reached ⟨rest, rfl⟩
  exact (run_invariant_along Browser.Sound (fun _ _ sound calm => sound.step calm) sound_shut
    (along_append.mp calm).1).elected

/-! ### Clicks and messages that cross -/

def oneWaits : List Happening := [
  .opens 0, .answered 0, .probed 0, .grants, .granted 0,
  .opens 1, .answered 1, .probed 1]

/-- The holder lets go, and the asker leads. -/
def handsOver : List Happening := oneWaits ++ [
  .takesOver 1, .hears 0, .yielded 0, .frees, .grants, .granted 1, .claims 0, .deadline 1 0]

/-- The second click takes the place of the first, which is never answered. -/
def clicksTwice : List Happening := oneWaits ++ [
  .takesOver 1, .takesOver 1, .deadline 1 0, .deadline 1 1]

/-- Two tabs ask, and the second message is heard while the holder's `onYield` runs. -/
def hearsTwice : List Happening := oneWaits ++ [
  .opens 2, .answered 2, .probed 2, .takesOver 1, .takesOver 2, .hears 0, .hears 0]

/-- The holder is stopped: it lets go of the lock, and its client was not let go. -/
def stopsLeading : List Happening := oneWaits ++ [.stops 0, .frees, .grants, .granted 1]

def clicksStopped : List Happening := oneWaits ++ [.stops 1, .takesOver 1]

/-- A hand-over that nothing crosses is one. -/
theorem elected_handsOver : Elected (run step shut handsOver) :=
  elected_of_calm (by decide) handsOver List.prefix_rfl

/-- A promise that no one settles, two calls of `onYield` in one tenure, two tabs that lead, and a
promise that is rejected. -/
theorem not_elected : ¬ Elected (run step shut clicksTwice) ∧
    ¬ Elected (run step shut hearsTwice) ∧ ¬ Elected (run step shut stopsLeading) ∧
    ¬ Elected (run step shut clicksStopped) := by
  refine ⟨fun elected => ?_, fun elected => ?_, fun elected => ?_, fun elected => ?_⟩
  · rcases elected.answered 1 rfl ⟨0, true, none⟩ (by decide) with fulfilled | waits
    · obtain ⟨_, _, isSettled, _⟩ := fulfilled
      exact nomatch isSettled
    · exact absurd waits.2.1 (by decide)
  · exact absurd (elected.once 0 rfl) (by decide)
  · exact absurd (elected.sole 0 1 (by decide) (by decide)) (by decide)
  · rcases elected.answered 1 rfl ⟨0, false, some .rejected⟩ (by decide) with fulfilled | waits
    · obtain ⟨_, _, isSettled, _⟩ := fulfilled
      exact nomatch isSettled
    · exact nomatch waits.1

end Twalk.Tabs
