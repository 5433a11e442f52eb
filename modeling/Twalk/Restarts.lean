/-
This file models `hermes/src/supervisor.rs`: when a persona that stopped is started again, and when
the runtime says that it cannot be. What is kept about a persona is how many runs in a row were too
short for it to have started. The delays are those of that number, and the failure is said once for
each stretch of such runs, at the run that makes it long enough.
-/

import Mathlib.Algebra.Group.Nat.Defs
import Mathlib.Data.List.Induction

namespace Twalk.Hermes

/-! ### The restarts -/

/-- Durations in nanoseconds. -/
structure RestartPolicy where
  baseBackoff : Nat
  maxBackoff : Nat
  healthyAfter : Nat
  startFailures : UInt32

structure Restart where
  delay : Nat
  consecutiveFailures : Nat
  announceFailed : Bool

structure Restarts where
  policy : RestartPolicy
  consecutiveFailures : Nat
  announced : Bool

/-- The greatest number of 32 bits, past which failures are not counted. -/
def mostFailures : Nat := 2 ^ 32 - 1

namespace Restarts

def new (policy : RestartPolicy) : Restarts := ⟨policy, 0, false⟩

/-- The delay doubles with each failure, in whole milliseconds, up to the longest. -/
def delayFor (restarts : Restarts) (consecutiveFailures : Nat) : Nat :=
  let base := restarts.policy.baseBackoff / 1000000 % 2 ^ 64
  let doubled := min (base * 2 ^ min (consecutiveFailures - 1) 32) (2 ^ 64 - 1)
  min (doubled * 1000000) restarts.policy.maxBackoff

def recordRun (restarts : Restarts) (ranFor : Nat) : Restarts × Restart :=
  if restarts.policy.healthyAfter ≤ ranFor then
    ({ restarts with consecutiveFailures := 0, announced := false },
      ⟨restarts.policy.baseBackoff, 0, false⟩)
  else
    let consecutiveFailures := min (restarts.consecutiveFailures + 1) mostFailures
    let announceFailed :=
      !restarts.announced && restarts.policy.startFailures.toNat ≤ consecutiveFailures
    ({ restarts with
        consecutiveFailures := consecutiveFailures
        announced := restarts.announced || announceFailed },
      ⟨restarts.delayFor consecutiveFailures, consecutiveFailures, announceFailed⟩)

def hasFailed (restarts : Restarts) : Bool := restarts.announced

/-- What is kept after some runs. -/
def after (policy : RestartPolicy) (runs : List Nat) : Restarts :=
  runs.foldl (fun restarts ranFor => (restarts.recordRun ranFor).1) (new policy)

end Restarts

/-! ### Stretches of short runs -/

namespace RestartPolicy

variable (policy : RestartPolicy)

/-- How many of the last runs in a row were too short for the persona to have started. -/
def failing (runs : List Nat) : Nat :=
  (runs.reverse.takeWhile fun ranFor => ranFor < policy.healthyAfter).length

/-- How long a stretch of short runs is when it is said to be a failure. -/
def longEnough : Nat := max 1 policy.startFailures.toNat

/-- What follows a run, by the runs before it. -/
structure FollowsItsRuns (runs : List Nat) (ranFor : Nat) : Prop where
  /-- The failure is said at the run that makes a stretch of short runs long enough. -/
  said : ((Restarts.after policy runs).recordRun ranFor).2.announceFailed = true ↔
    ranFor < policy.healthyAfter ∧ policy.failing runs + 1 = policy.longEnough
  /-- It stands for as long as the stretch goes on. -/
  stands : (Restarts.after policy (runs ++ [ranFor])).hasFailed = true ↔
    policy.longEnough ≤ policy.failing (runs ++ [ranFor])
  /-- A run that stayed up is followed by the shortest delay. -/
  started : policy.healthyAfter ≤ ranFor →
    ((Restarts.after policy runs).recordRun ranFor).2.delay = policy.baseBackoff
  /-- In a stretch of short runs the delays do not shrink, and none is past the longest. -/
  backsOff : ranFor < policy.healthyAfter →
    ((Restarts.after policy runs).recordRun ranFor).2.delay ≤ policy.maxBackoff ∧
      ∀ next < policy.healthyAfter,
        ((Restarts.after policy runs).recordRun ranFor).2.delay ≤
          ((Restarts.after policy (runs ++ [ranFor])).recordRun next).2.delay

variable {policy} {runs : List Nat} {ranFor : Nat}

theorem failing_concat : policy.failing (runs ++ [ranFor]) =
    if ranFor < policy.healthyAfter then policy.failing runs + 1 else 0 := by
  unfold failing
  rw [List.reverse_concat, List.takeWhile_cons]
  by_cases short : ranFor < policy.healthyAfter <;> simp [short]

theorem after_eq (runs : List Nat) : Restarts.after policy runs =
    ⟨policy, min (policy.failing runs) mostFailures,
      decide (policy.longEnough ≤ policy.failing runs)⟩ := by
  have bounded : policy.startFailures.toNat ≤ mostFailures :=
    Nat.le_sub_one_of_lt policy.startFailures.toNat_lt
  induction runs using List.reverseRecOn with
  | nil =>
    have notYet : ¬ policy.longEnough ≤ policy.failing [] :=
      Nat.not_le.mpr (Nat.lt_of_lt_of_le Nat.zero_lt_one (Nat.le_max_left _ _))
    rw [decide_eq_false notYet]
    rfl
  | append_singleton runs ranFor inductionHypothesis =>
    rw [Restarts.after, List.foldl_append, List.foldl_cons, List.foldl_nil, ← Restarts.after,
      inductionHypothesis, failing_concat]
    unfold Restarts.recordRun longEnough
    dsimp only
    by_cases short : ranFor < policy.healthyAfter
    · rw [if_neg (Nat.not_le.mpr short), if_pos short]
      dsimp only
      rw [show min (min (policy.failing runs) mostFailures + 1) mostFailures =
        min (policy.failing runs + 1) mostFailures from by omega]
      rw [Restarts.mk.injEq]
      refine ⟨rfl, rfl, ?_⟩
      rw [← decide_not, ← Bool.decide_and, ← Bool.decide_or, decide_eq_decide]
      omega
    · rw [if_pos (Nat.not_lt.mp short), if_neg short, decide_eq_false (by omega)]
      rfl

theorem delayFor_le (restarts : Restarts) {fewer more : Nat} (le : fewer ≤ more) :
    restarts.delayFor fewer ≤ restarts.delayFor more := by
  unfold Restarts.delayFor
  dsimp only
  have grows : restarts.policy.baseBackoff / 1000000 % 2 ^ 64 * 2 ^ min (fewer - 1) 32 ≤
      restarts.policy.baseBackoff / 1000000 % 2 ^ 64 * 2 ^ min (more - 1) 32 :=
    Nat.mul_le_mul_left _ (Nat.pow_le_pow_right (by decide) (by omega))
  omega

/-- Whatever the policy is and however long the runs of a persona were, its failure is said once
for each stretch of short runs, and stands and backs off with that stretch. -/
theorem follows_its_runs (policy : RestartPolicy) (runs : List Nat) (ranFor : Nat) :
    policy.FollowsItsRuns runs ranFor where
  said := by
    have bounded : policy.startFailures.toNat ≤ mostFailures :=
      Nat.le_sub_one_of_lt policy.startFailures.toNat_lt
    rw [after_eq]
    unfold Restarts.recordRun longEnough
    dsimp only
    by_cases short : ranFor < policy.healthyAfter
    · rw [if_neg (Nat.not_le.mpr short), Bool.and_eq_true, Bool.not_eq_true',
        decide_eq_false_iff_not, decide_eq_true_eq]
      unfold mostFailures at *
      omega
    · rw [if_pos (Nat.not_lt.mp short)]
      simp [short]
  stands := by
    rw [Restarts.hasFailed, after_eq, decide_eq_true_eq]
  started healthy := by
    rw [after_eq, Restarts.recordRun, if_pos healthy]
  backsOff short := by
    rw [after_eq, after_eq, failing_concat, if_pos short]
    unfold Restarts.recordRun
    rw [if_neg (Nat.not_le.mpr short)]
    refine ⟨Nat.min_le_right _ _, fun next isShort => ?_⟩
    rw [if_neg (Nat.not_le.mpr isShort)]
    exact delayFor_le _ (by dsimp only; omega)

end RestartPolicy

end Twalk.Hermes
