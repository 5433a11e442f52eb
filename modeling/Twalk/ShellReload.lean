/-
This file is about the reload of a stale shell: what one load of the page makes of the Gateway's
answer, what it does to the browser, and which marker it leaves in the tab's storage.

The marker is one slot, so it remembers the last value a load saw and no other, and a load that
cannot read it reloads. A tab therefore reloads at most once for each value it observes exactly
if no value returns after another one was kept, and no load that sees a value again fails to read.
-/

import Mathlib.Data.Set.Finite.Basic
import Twalk.Library.Text

namespace Twalk.Shell

/-! ### The handshake -/

inductive Handshake where
  | checking
  | matched (version : String)
  | mismatch (expected actual : String)
  | staleShell (running shipped : String)
  | unreachable (reason : String)
  deriving DecidableEq

def compareVersions (expected : String) (reported : Option String) : Handshake :=
  match reported with
  | none => .unreachable "the health response carries no version"
  | some version =>
    if version = "" then .unreachable "the health response carries no version"
    else if version = expected then .matched version
    else .mismatch expected version

/-- The build of the page against the one the Gateway ships, if it names one. -/
def compareBuilds (running : String) (shipped : Option String) (otherwise : Handshake) :
    Handshake :=
  match shipped with
  | none => otherwise
  | some build =>
    if build = "" ∨ build = running then otherwise else .staleShell running build

structure GatewayHealth where
  version : Option String
  revision : String
  companionBuild : Option String

inductive HealthAnswer where
  | document (health : GatewayHealth)
  | status (code : Nat)
  /-- The request threw, with a message where it threw an error. -/
  | failed (message : Option String)

structure HandshakeResult where
  outcome : Handshake
  health : Option GatewayHealth

def shakeHands (expected : String) (running : Option String) (answer : HealthAnswer) :
    HandshakeResult :=
  match answer with
  | .failed message => ⟨.unreachable (message.getD "the request failed"), none⟩
  | .status code => ⟨.unreachable ("health answered " ++ toString code), none⟩
  | .document health =>
    let versions := compareVersions expected health.version
    match versions, running with
    | .matched _, some build => ⟨compareBuilds build health.companionBuild versions, some health⟩
    | _, _ => ⟨versions, some health⟩

/-! ### The reload -/

/-- What a page does to its browser, in order. -/
inductive Call where
  | setMarker (value : String)
  | unregister (registration : Nat)
  | deleteCache (name : String)
  | reload
  | register (script scope : String)
  deriving DecidableEq

structure Browser where
  serviceWorker : Bool
  /-- How many workers are registered, unless asking rejects. -/
  registrations : Option Nat
  caches : Bool
  /-- The names of the caches, unless asking rejects. -/
  cacheNames : Option (List String)
  readThrows : Bool
  writeThrows : Bool

/-- What the page left in the tab and did to the browser. -/
structure Done (Result : Type) where
  result : Result
  marker : Option String
  calls : List Call

inductive ReloadDecision where
  | reloading
  | alreadyTried
  deriving DecidableEq

section Reload

variable (browser : Browser)

def readMarker (marker : Option String) : Option String :=
  if browser.readThrows then none else marker

def writeMarker (marker : Option String) (value : String) : Done Unit :=
  if browser.writeThrows then ⟨(), marker, []⟩ else ⟨(), some value, [.setMarker value]⟩

def dropWorkers : List Call :=
  if browser.serviceWorker then
    ((browser.registrations.map List.range).getD []).map .unregister
  else []

def purgeTheShell : List Call :=
  if browser.caches then
    ((browser.cacheNames.getD []).filter fun name =>
      "twalk-companion-".toList.isPrefixOf name.toList).map .deleteCache
  else []

def reloadForNewGateway (marker : Option String) (actual : String) : Done ReloadDecision :=
  if readMarker browser marker = some actual then
    ⟨.alreadyTried, marker, purgeTheShell browser⟩
  else
    let written := writeMarker browser marker actual
    ⟨.reloading, written.marker,
      written.calls ++ dropWorkers browser ++ purgeTheShell browser ++ [.reload]⟩

def registerServiceWorker : List Call :=
  if browser.serviceWorker then [.register "/service-worker.js" "/"] else []

end Reload

/-! ### The boot -/

structure BootState where
  /-- Whether the browser can do what the app needs, once it was asked. -/
  capabilities : Option Bool
  handshake : Handshake
  health : Option GatewayHealth
  ready : Bool
  reloadRefused : Bool

structure Page where
  started : Bool
  state : BootState

def Page.fresh : Page := ⟨false, ⟨none, .checking, none, false, false⟩⟩

structure Load where
  expectedGatewayVersion : String
  appBuild : String
  capable : Bool
  answer : HealthAnswer
  browser : Browser

def Handshake.observed : Handshake → Option String
  | .mismatch _ actual => some actual
  | .staleShell _ shipped => some shipped
  | _ => none

def startBoot (load : Load) (page : Page) (marker : Option String) : Done Page :=
  if page.started then ⟨page, marker, []⟩
  else
    let ⟨outcome, health⟩ :=
      shakeHands load.expectedGatewayVersion (some load.appBuild) load.answer
    let state : BootState := ⟨some load.capable, outcome, health, true, page.state.reloadRefused⟩
    match outcome.observed with
    | some actual =>
      let ⟨decision, marker, calls⟩ := reloadForNewGateway load.browser marker actual
      match decision with
      | .alreadyTried => ⟨⟨true, { state with reloadRefused := true }⟩, marker, calls⟩
      | .reloading => ⟨⟨true, state⟩, marker, calls⟩
    | none =>
      ⟨⟨true, state⟩, marker, if load.capable then registerServiceWorker load.browser else []⟩

theorem startBoot_startBoot (load later : Load) (page : Page) (marker other : Option String) :
    startBoot later (startBoot load page marker).result other =
      ⟨(startBoot load page marker).result, other, []⟩ := by
  have started : (startBoot load page marker).result.started = true := by
    unfold startBoot
    split
    · assumption
    · dsimp only
      split
      · split <;> rfl
      · rfl
  rw [startBoot, if_pos started]

/-! ### One load -/

/-- The value a load finds the shell stale by, if it is stale. -/
def Load.observed (load : Load) : Option String :=
  (shakeHands load.expectedGatewayVersion (some load.appBuild) load.answer).outcome.observed

section Step

variable {load : Load} {page : Page} {marker : Option String}

theorem startBoot_of_none (fresh : page.started = false) (current : load.observed = none) :
    (startBoot load page marker).marker = marker ∧
      Call.reload ∉ (startBoot load page marker).calls := by
  unfold Load.observed at current
  unfold startBoot
  rw [if_neg (by rw [fresh]; exact Bool.false_ne_true)]
  simp only [current, true_and]
  unfold registerServiceWorker
  split_ifs <;> simp

theorem startBoot_of_some {actual : String} (fresh : page.started = false)
    (stale : load.observed = some actual) :
    (startBoot load page marker).marker =
        (reloadForNewGateway load.browser marker actual).marker ∧
      (startBoot load page marker).calls =
        (reloadForNewGateway load.browser marker actual).calls := by
  unfold Load.observed at stale
  unfold startBoot
  rw [if_neg (by rw [fresh]; exact Bool.false_ne_true)]
  simp only [stale]
  split <;> exact ⟨rfl, rfl⟩

theorem reload_notMem_purgeTheShell (browser : Browser) :
    Call.reload ∉ purgeTheShell browser := by
  unfold purgeTheShell
  split_ifs <;> simp

theorem reload_notMem_dropWorkers (browser : Browser) : Call.reload ∉ dropWorkers browser := by
  unfold dropWorkers
  split_ifs <;> simp

theorem reload_notMem_writeMarker (browser : Browser) (marker : Option String) (value : String) :
    Call.reload ∉ (writeMarker browser marker value).calls := by
  unfold writeMarker
  split_ifs <;> simp

theorem count_reload (browser : Browser) (marker : Option String) (actual : String) :
    (reloadForNewGateway browser marker actual).calls.count .reload =
      if browser.readThrows = false ∧ marker = some actual then 0 else 1 := by
  have same : readMarker browser marker = some actual ↔
      browser.readThrows = false ∧ marker = some actual := by
    unfold readMarker
    cases browser.readThrows <;> simp
  unfold reloadForNewGateway
  simp only [same]
  split_ifs
  · exact List.count_eq_zero.mpr (reload_notMem_purgeTheShell browser)
  · rw [List.count_append, List.count_append, List.count_append,
      List.count_eq_zero.mpr (reload_notMem_writeMarker browser marker actual),
      List.count_eq_zero.mpr (reload_notMem_dropWorkers browser),
      List.count_eq_zero.mpr (reload_notMem_purgeTheShell browser)]
    rfl

theorem marker_reload (browser : Browser) (marker : Option String) (actual : String) :
    (reloadForNewGateway browser marker actual).marker =
      if browser.writeThrows then marker else some actual := by
  unfold reloadForNewGateway readMarker writeMarker
  split_ifs with _ readable <;> simp_all

end Step

/-! ### A tab -/

section Tab

variable (loads : Nat → Load)

/-- The marker each load of a tab finds. A tab opens with an empty storage. -/
def markers : Nat → Option String
  | 0 => none
  | load + 1 => (startBoot (loads load) Page.fresh (markers load)).marker

def calls (load : Nat) : List Call :=
  (startBoot (loads load) Page.fresh (markers loads load)).calls

/-- The shell is reloaded at most once for each value it is stale by, so that finitely many values
make finitely many reloads. -/
structure ReloadsOnce : Prop where
  once : ∀ load, (calls loads load).count .reload ≤ 1
  distinct : ∀ value,
    {load | Call.reload ∈ calls loads load ∧ (loads load).observed = some value}.Subsingleton
  stops : (Set.range fun load => (loads load).observed).Finite →
    {load | Call.reload ∈ calls loads load}.Finite

/-- Of the loads before this one that found a stale shell and could write, the last one found it
stale by this value. -/
def LastKept (load : Nat) (value : String) : Prop :=
  ∃ earlier < load, (loads earlier).observed = some value ∧
    (loads earlier).browser.writeThrows = false ∧
      ∀ between, earlier < between → between < load → (loads between).observed ≠ none →
        (loads between).browser.writeThrows = true

/-- Every load that finds the shell stale by a value found before, can read the storage, and the
value is the one that was kept last. -/
def RemembersAgain : Prop :=
  ∀ earlier later value, earlier < later → (loads earlier).observed = some value →
    (loads later).observed = some value →
      (loads later).browser.readThrows = false ∧ LastKept loads later value

variable {loads}

theorem marker_succ (load : Nat) :
    markers loads (load + 1) =
      if (loads load).observed = none ∨ (loads load).browser.writeThrows = true
        then markers loads load else (loads load).observed := by
  rw [markers]
  cases stale : (loads load).observed with
  | none => rw [(startBoot_of_none rfl stale).1, if_pos (Or.inl rfl)]
  | some actual =>
    rw [(startBoot_of_some rfl stale).1, marker_reload]
    simp

variable {load : Nat} {value : String}

theorem markers_eq_some_iff :
    markers loads load = some value ↔ LastKept loads load value := by
  induction load with
  | zero =>
    refine iff_of_false (fun isSome => by cases isSome) ?_
    rintro ⟨earlier, before, -⟩
    exact Nat.not_lt_zero earlier before
  | succ load inductionHypothesis =>
    rw [marker_succ]
    split_ifs with keeps
    · rw [inductionHypothesis]
      constructor
      · rintro ⟨earlier, before, isValue, writes, others⟩
        refine ⟨earlier, Nat.lt_succ_of_lt before, isValue, writes, ?_⟩
        intro between after isBefore stale
        rcases Nat.lt_succ_iff_lt_or_eq.mp isBefore with inside | rfl
        · exact others between after inside stale
        · exact keeps.resolve_left stale
      · rintro ⟨earlier, before, isValue, writes, others⟩
        refine ⟨earlier, ?_, isValue, writes, fun between after inside =>
          others between after (Nat.lt_succ_of_lt inside)⟩
        rcases Nat.lt_succ_iff_lt_or_eq.mp before with inside | rfl
        · exact inside
        · rcases keeps with isNone | throws
          · rw [isNone] at isValue
            cases isValue
          · rw [throws] at writes
            cases writes
    · rw [not_or] at keeps
      constructor
      · intro isValue
        refine ⟨load, Nat.lt_succ_self load, isValue, Bool.eq_false_of_not_eq_true keeps.2,
          fun between after inside => ?_⟩
        omega
      · rintro ⟨earlier, before, isValue, writes, others⟩
        rcases Nat.lt_succ_iff_lt_or_eq.mp before with inside | rfl
        · exact absurd (others load inside (Nat.lt_succ_self load) keeps.1) keeps.2
        · exact isValue

theorem count_calls (load : Nat) :
    (calls loads load).count .reload =
      if (loads load).observed = none ∨ ((loads load).browser.readThrows = false ∧
        markers loads load = (loads load).observed) then 0 else 1 := by
  unfold calls
  cases stale : (loads load).observed with
  | none =>
    rw [if_pos (Or.inl rfl)]
    exact List.count_eq_zero.mpr (startBoot_of_none rfl stale).2
  | some actual =>
    rw [(startBoot_of_some rfl stale).2, count_reload]
    simp

theorem reload_mem_calls_iff (stale : (loads load).observed = some value) :
    Call.reload ∈ calls loads load ↔
      ¬((loads load).browser.readThrows = false ∧ LastKept loads load value) := by
  rw [← List.count_pos_iff, count_calls, stale, ← markers_eq_some_iff]
  by_cases remembers : (loads load).browser.readThrows = false ∧ markers loads load = some value
  · rw [if_pos (Or.inr remembers)]
    exact iff_of_false (Nat.lt_irrefl 0) (not_not_intro remembers)
  · rw [if_neg fun kept => remembers (kept.resolve_left (Option.some_ne_none value))]
    exact iff_of_true Nat.one_pos remembers

theorem observed_of_reload (reloads : Call.reload ∈ calls loads load) :
    ∃ value, (loads load).observed = some value := by
  cases stale : (loads load).observed with
  | none => exact absurd reloads (startBoot_of_none rfl stale).2
  | some value => exact ⟨value, rfl⟩

theorem exists_first_reload (stale : (loads load).observed = some value) :
    ∃ first ≤ load, (loads first).observed = some value ∧ Call.reload ∈ calls loads first := by
  classical
  have exists' : ∃ first, (loads first).observed = some value := ⟨load, stale⟩
  refine ⟨Nat.find exists', Nat.find_min' exists' stale, Nat.find_spec exists', ?_⟩
  rw [reload_mem_calls_iff (Nat.find_spec exists')]
  rintro ⟨-, earlier, before, isValue, -⟩
  exact Nat.find_min exists' before isValue

/-- A tab reloads at most once for each value it finds if and only if it remembers each value that
it finds again. -/
theorem reloadsOnce_iff (loads : Nat → Load) : ReloadsOnce loads ↔ RemembersAgain loads := by
  constructor
  · intro reloadsOnce earlier later value before isEarlier isLater
    by_contra forgets
    have again := (reload_mem_calls_iff isLater).mpr forgets
    obtain ⟨first, notAfter, isFirst, reloads⟩ := exists_first_reload isEarlier
    have same := reloadsOnce.distinct value ⟨reloads, isFirst⟩ ⟨again, isLater⟩
    omega
  · intro remembers
    have distinct : ∀ value, {load | Call.reload ∈ calls loads load ∧
        (loads load).observed = some value}.Subsingleton := by
      have ordered : ∀ {earlier later : Nat} {value : String},
          (loads earlier).observed = some value → (loads later).observed = some value →
            Call.reload ∈ calls loads later → ¬earlier < later := by
        intro earlier later value isEarlier isLater again before
        exact (reload_mem_calls_iff isLater).mp again (remembers _ _ _ before isEarlier isLater)
      rintro value one ⟨oneReloads, isOne⟩ other ⟨otherReloads, isOther⟩
      have notBefore := ordered isOne isOther otherReloads
      have notAfter := ordered isOther isOne oneReloads
      omega
    refine ⟨fun load => ?_, distinct, fun finite => ?_⟩
    · rw [count_calls]
      split_ifs <;> omega
    · refine Set.Finite.of_finite_image (finite.subset (Set.image_subset_range _ _)) ?_
      intro one oneReloads other otherReloads same
      obtain ⟨value, isOne⟩ := observed_of_reload oneReloads
      exact distinct value ⟨oneReloads, isOne⟩ ⟨otherReloads, same.symm.trans isOne⟩

end Tab

/-! ### A storage that cannot be read -/

namespace Unreadable

/-- A load of an older shell in a browser whose storage is switched off. -/
def load : Load where
  expectedGatewayVersion := "1.0.0"
  appBuild := "1"
  capable := true
  answer := .document ⟨some "2.0.0", "main", none⟩
  browser := ⟨true, some 0, true, some [], true, true⟩

/-- It reloads at every load, for one version. -/
theorem not_reloadsOnce : ¬ReloadsOnce fun _ => load := by
  intro reloadsOnce
  have stale : load.observed = some "2.0.0" := by decide
  have reloads : ∀ count, Call.reload ∈ calls (fun _ => load) count := by
    intro count
    rw [@reload_mem_calls_iff (fun _ => load) count _ stale]
    rintro ⟨readable, -⟩
    exact absurd readable (by decide)
  have same := reloadsOnce.distinct "2.0.0" ⟨reloads 0, stale⟩ ⟨reloads 1, stale⟩
  exact absurd same (by decide)

end Unreadable

end Twalk.Shell
