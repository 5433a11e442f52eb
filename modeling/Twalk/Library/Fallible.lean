/-
This file is how to read the success of a computation that can fail: a sequence
of two succeeds when both do, and a list that is worked through element by
element succeeds with one result for each element. Results and inputs then run
side by side, and what is said of such a pairing is said here too.
-/

import Mathlib.Data.List.Forall2
import Mathlib.Data.List.Nodup

namespace Twalk

variable {Error Input Output Value : Type}

variable {rest : Value → Except Error Output} {first : Except Error Value}

theorem bind_eq_ok {result : Output} :
    (first >>= rest) = .ok result ↔ ∃ value, first = .ok value ∧ rest value = .ok result := by
  cases first with
  | error error => simp [bind, Except.bind]
  | ok value => simp [bind, Except.bind]

theorem bind_eq_error {error : Error} :
    (first >>= rest) = .error error ↔
      first = .error error ∨ ∃ value, first = .ok value ∧ rest value = .error error := by
  cases first with
  | error error => simp [bind, Except.bind]
  | ok value => simp [bind, Except.bind]

theorem ite_error_eq_ok_iff {refused : Prop} [Decidable refused] {error : Error}
    {rest : Except Error Value} {result : Value} :
    (if refused then .error error else rest) = .ok result ↔ ¬refused ∧ rest = .ok result := by
  by_cases isRefused : refused
  · rw [if_pos isRefused]
    exact ⟨nofun, fun both => absurd isRefused both.1⟩
  · rw [if_neg isRefused]
    exact (and_iff_right isRefused).symm

theorem eq_ok_of_toOption {computed : Except Error Value} {value : Value}
    (result : computed.toOption = some value) : computed = .ok value := by
  cases computed with
  | error error => cases result
  | ok other =>
    cases result
    rfl

variable {inputs : List Input} {results : List Output} {work : Input → Except Error Output}

theorem forall₂_of_mapM_eq_ok (done : inputs.mapM work = .ok results) :
    List.Forall₂ (fun input result => work input = .ok result) inputs results := by
  induction inputs generalizing results with
  | nil =>
    rw [List.mapM_nil] at done
    cases done
    exact List.Forall₂.nil
  | cons input rest inductionHypothesis =>
    rw [List.mapM_cons] at done
    obtain ⟨first, worked, continued⟩ := bind_eq_ok.mp done
    obtain ⟨others, restWorked, finished⟩ := bind_eq_ok.mp continued
    cases finished
    exact List.Forall₂.cons worked (inductionHypothesis restWorked)

theorem exists_mapM_eq_ok (each : ∀ input ∈ inputs, ∃ result, work input = .ok result) :
    ∃ results, inputs.mapM work = .ok results := by
  induction inputs with
  | nil => exact ⟨[], List.mapM_nil⟩
  | cons input rest inductionHypothesis =>
    obtain ⟨⟨first, worked⟩, later⟩ := List.forall_mem_cons.mp each
    obtain ⟨others, restWorked⟩ := inductionHypothesis later
    refine ⟨first :: others, ?_⟩
    rw [List.mapM_cons]
    exact bind_eq_ok.mpr ⟨first, worked, bind_eq_ok.mpr ⟨others, restWorked, rfl⟩⟩

theorem foldlM_eq_ok_iff {State : Type} {take : State → Output → State} {first last : State} :
    inputs.foldlM (fun state input => do
      let result ← work input
      return take state result) first = .ok last ↔
      ∃ results, inputs.mapM work = .ok results ∧ results.foldl take first = last := by
  induction inputs generalizing first with
  | nil =>
    rw [List.foldlM_nil, List.mapM_nil]
    constructor
    · intro done
      exact ⟨[], rfl, Except.ok.inj done⟩
    · rintro ⟨results, none, isLast⟩
      cases none
      exact congrArg Except.ok isLast
  | cons input rest inductionHypothesis =>
    rw [List.foldlM_cons, List.mapM_cons]
    constructor
    · intro done
      obtain ⟨next, stepped, continued⟩ := bind_eq_ok.mp done
      obtain ⟨result, worked, isNext⟩ := bind_eq_ok.mp stepped
      cases isNext
      obtain ⟨results, restWorked, isLast⟩ := inductionHypothesis.mp continued
      exact ⟨result :: results, bind_eq_ok.mpr ⟨result, worked,
        bind_eq_ok.mpr ⟨results, restWorked, rfl⟩⟩, isLast⟩
    · rintro ⟨all, worked, isLast⟩
      obtain ⟨result, firstWorked, continued⟩ := bind_eq_ok.mp worked
      obtain ⟨results, restWorked, finished⟩ := bind_eq_ok.mp continued
      cases finished
      exact bind_eq_ok.mpr ⟨_, bind_eq_ok.mpr ⟨result, firstWorked, rfl⟩,
        inductionHypothesis.mpr ⟨results, restWorked, isLast⟩⟩

variable {related : Input → Output → Prop}

theorem exists_input_of_forall₂ (paired : List.Forall₂ related inputs results) {result : Output}
    (member : result ∈ results) : ∃ input ∈ inputs, related input result := by
  induction paired with
  | nil => exact absurd member List.not_mem_nil
  | cons head _ inductionHypothesis =>
    rcases List.mem_cons.mp member with rfl | inRest
    · exact ⟨_, List.mem_cons_self, head⟩
    · obtain ⟨input, inputIn, holds⟩ := inductionHypothesis inRest
      exact ⟨input, List.mem_cons_of_mem _ inputIn, holds⟩

theorem exists_result_of_forall₂ (paired : List.Forall₂ related inputs results) {input : Input}
    (member : input ∈ inputs) : ∃ result ∈ results, related input result := by
  obtain ⟨result, resultIn, holds⟩ := exists_input_of_forall₂ paired.flip member
  exact ⟨result, resultIn, holds⟩

theorem nodup_of_forall₂
    (injective : ∀ first second result, related first result → related second result →
      first = second) (paired : List.Forall₂ related inputs results) (distinct : inputs.Nodup) :
    results.Nodup := by
  induction paired with
  | nil => exact List.nodup_nil
  | cons head tail inductionHypothesis =>
    obtain ⟨absent, restDistinct⟩ := List.nodup_cons.mp distinct
    refine List.nodup_cons.mpr ⟨fun repeated => ?_, inductionHypothesis restDistinct⟩
    obtain ⟨input, inputIn, holds⟩ := exists_input_of_forall₂ tail repeated
    rw [injective _ _ _ head holds] at absent
    exact absent inputIn

theorem forall₂_trans (relation : Value → Value → Prop)
    (transitive : ∀ first second third, relation first second → relation second third →
      relation first third)
    {early middle late : List Value} (front : List.Forall₂ relation early middle)
    (back : List.Forall₂ relation middle late) : List.Forall₂ relation early late := by
  induction front generalizing late with
  | nil => exact back
  | cons head _ inductionHypothesis =>
    cases back with
    | cons next rest => exact List.Forall₂.cons (transitive _ _ _ head next) (inductionHypothesis rest)

theorem forall₂_map_right {work : Input → Output}
    (each : ∀ input ∈ inputs, related input (work input)) :
    List.Forall₂ related inputs (inputs.map work) :=
  List.forall₂_map_right_iff.mpr (List.forall₂_same.mpr each)

theorem forall₂_append_split {front back : List Input}
    (paired : List.Forall₂ related (front ++ back) results) :
    ∃ frontResults backResults, results = frontResults ++ backResults ∧
      List.Forall₂ related front frontResults ∧ List.Forall₂ related back backResults := by
  induction front generalizing results with
  | nil => exact ⟨[], results, rfl, List.Forall₂.nil, paired⟩
  | cons input rest inductionHypothesis =>
    cases paired with
    | cons head tail =>
      obtain ⟨frontResults, backResults, rfl, frontPaired, backPaired⟩ := inductionHypothesis tail
      exact ⟨_ :: frontResults, backResults, rfl, List.Forall₂.cons head frontPaired, backPaired⟩

theorem mapM_eq_some_iff_of_guard {work : Input → Option Output} {result : Input → Output}
    {guard : Input → Prop} [DecidablePred guard]
    (guarded : ∀ input, work input = if guard input then some (result input) else none) :
    inputs.mapM work = some results ↔
      (∀ input ∈ inputs, guard input) ∧ results = inputs.map result := by
  induction inputs generalizing results with
  | nil => simp [eq_comm]
  | cons input rest inductionHypothesis =>
    rw [List.mapM_cons, guarded, List.forall_mem_cons, List.map_cons]
    by_cases isGuarded : guard input
    · rw [if_pos isGuarded, and_iff_right isGuarded]
      constructor
      · intro done
        obtain ⟨first, isFirst, later⟩ := Option.bind_eq_some_iff.mp done
        obtain ⟨others, isOthers, isResults⟩ := Option.bind_eq_some_iff.mp later
        cases isFirst
        obtain ⟨all, rfl⟩ := inductionHypothesis.mp isOthers
        exact ⟨all, (Option.some.inj isResults).symm⟩
      · rintro ⟨all, rfl⟩
        exact Option.bind_eq_some_iff.mpr ⟨_, rfl,
          Option.bind_eq_some_iff.mpr ⟨_, inductionHypothesis.mpr ⟨all, rfl⟩, rfl⟩⟩
    · rw [if_neg isGuarded]
      exact ⟨nofun, fun all => absurd all.1.1 isGuarded⟩

end Twalk
