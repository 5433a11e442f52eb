/-
This file is the theory of runs of a transition system whose steps are labelled.
A run folds its labels over a start state. An invariant that every step keeps
holds after every run; one that a step keeps when a condition on the state and
the label holds does so after every run whose steps all meet that condition.
-/

import Mathlib.Data.List.Basic

namespace Twalk

variable {State Step : Type}

/-! ### Runs -/

def run (step : State → Step → State) (start : State) (steps : List Step) : State :=
  steps.foldl step start

def Along (step : State → Step → State) (condition : State → Step → Prop) :
    State → List Step → Prop
  | _, [] => True
  | state, next :: rest => condition state next ∧ Along step condition (step state next) rest

instance Along.decidable (step : State → Step → State) (condition : State → Step → Prop)
    [∀ state next, Decidable (condition state next)] :
    (state : State) → (steps : List Step) → Decidable (Along step condition state steps)
  | _, [] => inferInstanceAs (Decidable True)
  | state, next :: rest =>
    have := Along.decidable step condition (step state next) rest
    inferInstanceAs (Decidable (condition state next ∧ _))

@[simp] theorem run_nil (step : State → Step → State) (start : State) :
    run step start [] = start := rfl

@[simp] theorem run_cons (step : State → Step → State) (start : State) (next : Step)
    (rest : List Step) : run step start (next :: rest) = run step (step start next) rest := rfl

theorem run_append (step : State → Step → State) (start : State) (front back : List Step) :
    run step start (front ++ back) = run step (run step start front) back :=
  List.foldl_append

variable {step : State → Step → State} {start : State} {condition : State → Step → Prop}

theorem along_append {front back : List Step} :
    Along step condition start (front ++ back) ↔
      Along step condition start front ∧ Along step condition (run step start front) back := by
  induction front generalizing start with
  | nil => exact ⟨fun along => ⟨trivial, along⟩, And.right⟩
  | cons next rest inductionHypothesis =>
    exact (and_congr_right fun _ => inductionHypothesis).trans and_assoc.symm

/-! ### Invariants of runs -/

variable {steps : List Step}

theorem run_invariant_along (invariant : State → Prop)
    (kept : ∀ state next, invariant state → condition state next → invariant (step state next))
    (initial : invariant start) (along : Along step condition start steps) :
    invariant (run step start steps) := by
  induction steps generalizing start with
  | nil => exact initial
  | cons next rest inductionHypothesis =>
    obtain ⟨now, later⟩ := along
    exact inductionHypothesis (kept start next initial now) later

theorem along_of_along (invariant : State → Prop) {condition further : State → Step → Prop}
    (kept : ∀ state next, invariant state → condition state next → invariant (step state next))
    (gives : ∀ state next, invariant state → condition state next → further state next)
    (initial : invariant start) (along : Along step condition start steps) :
    Along step further start steps := by
  induction steps generalizing start with
  | nil => trivial
  | cons next rest inductionHypothesis =>
    obtain ⟨now, later⟩ := along
    exact ⟨gives start next initial now, inductionHypothesis (kept start next initial now) later⟩

theorem along_iff_along (invariant : State → Prop) {condition other : State → Step → Prop}
    (kept : ∀ state next, invariant state → invariant (step state next))
    (same : ∀ state next, invariant state → (condition state next ↔ other state next))
    (initial : invariant start) (steps : List Step) :
    Along step condition start steps ↔ Along step other start steps := by
  induction steps generalizing start with
  | nil => exact Iff.rfl
  | cons next rest inductionHypothesis =>
    exact and_congr (same start next initial) (inductionHypothesis (kept start next initial))

theorem along_of_mem {condition : Step → Prop} (each : ∀ next ∈ steps, condition next) :
    Along step (fun _ next => condition next) start steps := by
  induction steps generalizing start with
  | nil => trivial
  | cons next rest inductionHypothesis =>
    exact ⟨each next List.mem_cons_self,
      inductionHypothesis fun later member => each later (List.mem_cons_of_mem next member)⟩

/-- Where an invariant makes a property of what a step leads to the same as a condition on the
step, and the condition keeps the invariant, all that a run passes through has the property exactly
when its steps all meet the condition. The steps may all meet a further one to begin with. -/
theorem property_along_iff (invariant property : State → Prop)
    {given condition : State → Step → Prop} (gives : ∀ state, invariant state → property state)
    (stepwise : ∀ state next, invariant state → given state next →
      (property (step state next) ↔ condition state next))
    (kept : ∀ state next, invariant state → given state next → condition state next →
      invariant (step state next)) (initial : invariant start)
    (along : Along step given start steps) :
    (∀ front, front <+: steps → property (run step start front)) ↔
      Along step condition start steps := by
  induction steps generalizing start with
  | nil =>
    refine ⟨fun _ => trivial, fun _ front isPrefix => ?_⟩
    rw [List.prefix_nil.mp isPrefix]
    exact gives start initial
  | cons next rest inductionHypothesis =>
    obtain ⟨given, along⟩ := along
    constructor
    · intro always
      have after : property (step start next) := always [next] (by simp)
      have now : condition start next := (stepwise start next initial given).mp after
      refine ⟨now, (inductionHypothesis (kept start next initial given now) along).mp
        fun front isPrefix => ?_⟩
      exact always (next :: front) ((List.prefix_cons_inj next).mpr isPrefix)
    · rintro ⟨now, later⟩ front isPrefix
      cases front with
      | nil => exact gives start initial
      | cons first others =>
        obtain ⟨rfl, isRest⟩ := List.cons_prefix_cons.mp isPrefix
        exact (inductionHypothesis (kept start first initial given now) along).mpr later others
          isRest

theorem along_true (step : State → Step → State) (start : State) (steps : List Step) :
    Along step (fun _ _ => True) start steps := by
  induction steps generalizing start with
  | nil => trivial
  | cons next rest inductionHypothesis => exact ⟨trivial, inductionHypothesis (step start next)⟩

/-- Where a step keeps an invariant exactly under a condition, all that a run passes through has it
exactly when its steps all meet that condition. -/
theorem invariant_along_iff (invariant : State → Prop) (stepwise : ∀ state next, invariant state →
      (invariant (step state next) ↔ condition state next)) (initial : invariant start)
    (steps : List Step) :
    (∀ front, front <+: steps → invariant (run step start front)) ↔
      Along step condition start steps :=
  property_along_iff invariant invariant (fun _ holds => holds)
    (fun state next holds _ => stepwise state next holds)
    (fun state next holds _ now => (stepwise state next holds).mpr now) initial
    (along_true step start steps)

theorem run_invariant (invariant : State → Prop)
    (kept : ∀ state next, invariant state → invariant (step state next)) (initial : invariant start)
    (steps : List Step) : invariant (run step start steps) := by
  induction steps generalizing start with
  | nil => exact initial
  | cons next rest inductionHypothesis => exact inductionHypothesis (kept start next initial)

theorem run_relation (relation : State → State → Prop) (reflexive : ∀ state, relation state state)
    (transitive : ∀ first second third, relation first second → relation second third →
      relation first third) (stepwise : ∀ state next, relation state (step state next))
    (start : State) (steps : List Step) : relation start (run step start steps) := by
  induction steps generalizing start with
  | nil => exact reflexive start
  | cons next rest inductionHypothesis =>
    exact transitive _ _ _ (stepwise start next) (inductionHypothesis (step start next))

end Twalk
