/-
This file is about programs that talk to a world they do not control. Such a
program says things one after the other, each with the reply that came back, and
ends with a result or with an error that it raised; what it said is kept in
order. A program that waits may never end, so a loop is given a number of turns
and has no outcome when they do not suffice.

What a program guarantees is stated of every outcome it can have. The rules below
are equivalences, so they compute what has to be shown, and a loop is proved with
an invariant of its turns.
-/

import Mathlib.Data.List.Basic

namespace Twalk

/-- A program that says things, may raise an error, and keeps what was said. -/
def Talk (Saying Error Result : Type) : Type :=
  List Saying → Option (Except Error Result × List Saying)

namespace Talk

variable {Saying Error Result Value : Type}

/-! ### Programs -/

def answer (result : Result) : Talk Saying Error Result := fun said => some (.ok result, said)

def andThen (first : Talk Saying Error Value) (rest : Value → Talk Saying Error Result) :
    Talk Saying Error Result := fun said =>
  match first said with
  | none => none
  | some (.error error, later) => some (.error error, later)
  | some (.ok value, later) => rest value later

instance : Monad (Talk Saying Error) where
  pure := answer
  bind := andThen

def ask (note : Except Error Result → Saying) (reply : Except Error Result) :
    Talk Saying Error Result := fun said => some (reply, said ++ [note reply])

def attempt (program : Talk Saying Error Result) : Talk Saying Error (Except Error Result) :=
  fun said => (program said).map fun outcome => (.ok outcome.1, outcome.2)

/-- Runs a program and says one last thing, however the program ended. -/
def lastly (program : Talk Saying Error Result) (saying : Saying) : Talk Saying Error Result :=
  fun said => (program said).map fun outcome => (outcome.1, outcome.2 ++ [saying])

def loop (body : Nat → Talk Saying Error (Option Result)) : Nat → Nat → Talk Saying Error Result
  | 0, _ => fun _ => none
  | fuel + 1, turn => do
    match ← body turn with
    | some result => pure result
    | none => loop body fuel (turn + 1)

/-! ### What a program guarantees -/

def Ensures (program : Talk Saying Error Result) (said : List Saying)
    (described : Except Error Result → List Saying → Prop) : Prop :=
  ∀ ended later, program said = some (ended, later) → described ended later

variable {described : Except Error Result → List Saying → Prop} {said : List Saying}

variable {program : Talk Saying Error Result}

theorem Ensures.mono {weaker : Except Error Result → List Saying → Prop}
    (ensures : program.Ensures said described)
    (implied : ∀ ended later, described ended later → weaker ended later) :
    program.Ensures said weaker :=
  fun ended later ran => implied ended later (ensures ended later ran)

theorem Ensures.and {other : Except Error Result → List Saying → Prop}
    (first : program.Ensures said described) (second : program.Ensures said other) :
    program.Ensures said fun ended later => described ended later ∧ other ended later :=
  fun ended later ran => ⟨first ended later ran, second ended later ran⟩

@[simp] theorem ensures_pure (result : Result) :
    (pure result : Talk Saying Error Result).Ensures said described ↔
      described (.ok result) said := by
  constructor
  · intro ensures
    exact ensures _ _ rfl
  · rintro holds ended later ran
    cases ran
    exact holds

@[simp] theorem ensures_ask (note : Except Error Result → Saying) (reply : Except Error Result) :
    (ask note reply).Ensures said described ↔ described reply (said ++ [note reply]) := by
  constructor
  · intro ensures
    exact ensures _ _ rfl
  · rintro holds ended later ran
    cases ran
    exact holds

theorem ensures_bind (first : Talk Saying Error Value)
    (rest : Value → Talk Saying Error Result) :
    (first >>= rest).Ensures said described ↔
      first.Ensures said fun ended later =>
        match ended with
        | .ok value => (rest value).Ensures later described
        | .error error => described (.error error) later := by
  show (andThen first rest).Ensures said described ↔ _
  unfold Ensures andThen
  rcases outcome : first said with _ | ⟨error | value, later⟩
  · simp
  · simp
  · simp

variable {rest : Value → Talk Saying Error Result} {first : Talk Saying Error Value}

theorem ensures_bind_of_rest (raised : ∀ error later, described (.error error) later)
    (restEnsures : ∀ value later, (rest value).Ensures later described) :
    (first >>= rest).Ensures said described := by
  refine (ensures_bind first rest).mpr fun ended later _ => ?_
  cases ended with
  | error error => exact raised error later
  | ok value => exact restEnsures value later

theorem ensures_attempt (program : Talk Saying Error Result)
    {described : Except Error (Except Error Result) → List Saying → Prop} :
    program.attempt.Ensures said described ↔
      program.Ensures said fun ended later => described (.ok ended) later := by
  unfold Ensures attempt
  rcases outcome : program said with _ | ⟨ended, later⟩
  · simp
  · simp

theorem ensures_lastly (program : Talk Saying Error Result) (saying : Saying) :
    (program.lastly saying).Ensures said described ↔
      program.Ensures said fun ended later => described ended (later ++ [saying]) := by
  unfold Ensures lastly
  rcases outcome : program said with _ | ⟨ended, later⟩
  · simp
  · simp

theorem ensures_loop {body : Nat → Talk Saying Error (Option Result)}
    {invariant : Nat → List Saying → Prop}
    (turns : ∀ turn said, invariant turn said → (body turn).Ensures said fun ended later =>
      match ended with
      | .ok none => invariant (turn + 1) later
      | .ok (some result) => described (.ok result) later
      | .error error => described (.error error) later) :
    ∀ fuel turn said, invariant turn said → (loop body fuel turn).Ensures said described := by
  intro fuel
  induction fuel with
  | zero =>
    intro turn said _ ended later ran
    cases ran
  | succ fuel inductionHypothesis =>
    intro turn said holds
    rw [loop, ensures_bind]
    refine (turns turn said holds).mono ?_
    rintro (error | _ | result) later described
    · exact described
    · exact inductionHypothesis (turn + 1) later described
    · exact (ensures_pure result).mpr described

/-! ### What a program says -/

def Confined (allowed : Saying → Prop) (program : Talk Saying Error Result) : Prop :=
  ∀ said, program.Ensures said fun _ later =>
    ∃ rest, later = said ++ rest ∧ ∀ saying ∈ rest, allowed saying

variable {allowed : Saying → Prop}

theorem confined_pure (result : Result) :
    Confined allowed (pure result : Talk Saying Error Result) :=
  fun said => (ensures_pure result).mpr ⟨[], (List.append_nil said).symm, List.forall_mem_nil _⟩

theorem confined_ask {note : Except Error Result → Saying} {reply : Except Error Result}
    (isAllowed : allowed (note reply)) : Confined allowed (ask note reply) :=
  fun _ => (ensures_ask note reply).mpr
    ⟨[note reply], rfl, fun _ member => List.mem_singleton.mp member ▸ isAllowed⟩

theorem Confined.bind (firstConfined : Confined allowed first)
    (restConfined : ∀ value, Confined allowed (rest value)) :
    Confined allowed (first >>= rest) := by
  intro said
  refine (ensures_bind first rest).mpr ((firstConfined said).mono ?_)
  rintro (error | value) later ⟨added, rfl, within⟩
  · exact ⟨added, rfl, within⟩
  · refine (restConfined value _).mono ?_
    rintro ended final ⟨more, rfl, moreWithin⟩
    refine ⟨added ++ more, List.append_assoc .., fun saying member => ?_⟩
    exact (List.mem_append.mp member).elim (within saying) (moreWithin saying)

theorem Confined.loop {body : Nat → Talk Saying Error (Option Result)}
    (turns : ∀ turn, Confined allowed (body turn)) :
    ∀ fuel turn, Confined allowed (loop body fuel turn)
  | 0, _ => fun _ _ _ ran => nomatch ran
  | fuel + 1, turn => (turns turn).bind fun reply => by
    cases reply with
    | none => exact Confined.loop turns fuel (turn + 1)
    | some result => exact confined_pure result

/-! ### Programs that end -/

def Halts (program : Talk Saying Error Result) : Prop := ∀ said, (program said).isSome

theorem halts_pure (result : Result) : (pure result : Talk Saying Error Result).Halts :=
  fun _ => rfl

theorem halts_ask (note : Except Error Result → Saying) (reply : Except Error Result) :
    (ask note reply).Halts := fun _ => rfl

theorem Halts.bind (firstHalts : first.Halts) (restHalts : ∀ value, (rest value).Halts) :
    (first >>= rest).Halts := by
  intro said
  show (andThen first rest said).isSome
  have some := firstHalts said
  unfold andThen
  rcases outcome : first said with _ | ⟨error | value, later⟩
  · rw [outcome] at some
    cases some
  · rfl
  · exact restHalts value later

theorem Halts.attempt (halts : program.Halts) :
    program.attempt.Halts := by
  intro said
  rw [Talk.attempt, Option.isSome_map]
  exact halts said

theorem Halts.lastly (halts : program.Halts) (saying : Saying) : (program.lastly saying).Halts := by
  intro said
  rw [Talk.lastly, Option.isSome_map]
  exact halts said

theorem halts_loop {body : Nat → Talk Saying Error (Option Result)}
    (turns : ∀ turn, (body turn).Halts) {last : Nat}
    (leaves : ∀ said, (body last).Ensures said fun ended _ => ended ≠ .ok none) :
    ∀ fuel turn, turn ≤ last → last < turn + fuel → (loop body fuel turn).Halts := by
  intro fuel
  induction fuel with
  | zero =>
    intro turn before enough
    omega
  | succ fuel inductionHypothesis =>
    intro turn before enough said
    show (andThen (body turn) _ said).isSome
    unfold andThen
    have some := turns turn said
    rcases outcome : body turn said with _ | ⟨error | _ | result, later⟩
    · rw [outcome] at some
      cases some
    · rfl
    · have notLast : turn ≠ last := by
        rintro rfl
        exact leaves said _ _ outcome rfl
      exact inductionHypothesis (turn + 1) (by omega) (by omega) later
    · rfl

/-! ### What was said before what -/

/-- Each thing said that `owes` something was said after a thing that pays for it. -/
def Preceded (owes : Saying → Prop) (pays : Saying → Saying → Prop) (said : List Saying) : Prop :=
  ∀ front saying back, said = front ++ saying :: back → owes saying →
    ∃ earlier ∈ front, pays earlier saying

variable {owes : Saying → Prop} {pays : Saying → Saying → Prop}

theorem preceded_nil : Preceded owes pays [] := by
  intro front saying back split
  simp at split

theorem Preceded.concat (preceded : Preceded owes pays said) {saying : Saying}
    (paid : owes saying → ∃ earlier ∈ said, pays earlier saying) :
    Preceded owes pays (said ++ [saying]) := by
  intro front event back split owed
  rcases List.eq_nil_or_concat back with rfl | ⟨others, final, rfl⟩
  · obtain ⟨rfl, same⟩ := List.append_inj' split rfl
    cases same
    exact paid owed
  · have regrouped : said ++ [saying] = (front ++ event :: others) ++ [final] := by
      rw [split]
      simp
    obtain ⟨earlier, -⟩ := List.append_inj' regrouped rfl
    exact preceded front event others earlier owed

theorem Preceded.append (preceded : Preceded owes pays said) {rest : List Saying}
    (free : ∀ saying ∈ rest, ¬ owes saying) : Preceded owes pays (said ++ rest) := by
  induction rest generalizing said with
  | nil => rwa [List.append_nil]
  | cons saying rest inductionHypothesis =>
    rw [← List.singleton_append, ← List.append_assoc]
    refine inductionHypothesis (preceded.concat fun owed => ?_)
      fun other member => free other (List.mem_cons_of_mem _ member)
    exact absurd owed (free saying List.mem_cons_self)

end Talk

end Twalk
