/-
This file is the theory of entries that carry a position and are not always delivered
in its order. A reader that keeps the last entry it was handed about something reads
the newest one only where no older entry came after it: `newest` is the entry of the
highest position a predicate concerns, `latest` the last one delivered, and what the
two say about one place is compared here.
-/

import Mathlib.Data.List.Induction
import Twalk.Library.Ledger

namespace Twalk

variable {Entry Value : Type}

/-! ### The newest entry about something -/

section Newest

variable (position : Entry → Nat) (concerns : Entry → Bool)

def notPast (known : Option Entry) (bound : Nat) : Bool :=
  known.all fun held => position held ≤ bound

def newer (known : Option Entry) (entry : Entry) : Option Entry :=
  if concerns entry && notPast position known (position entry) then some entry else known

def newest (log : List Entry) : Option Entry := log.foldl (newer position concerns) none

@[simp] theorem newest_nil : newest position concerns [] = none := rfl

theorem newest_concat (log : List Entry) (entry : Entry) :
    newest position concerns (log ++ [entry]) =
      newer position concerns (newest position concerns log) entry := by
  unfold newest
  rw [List.foldl_append]
  rfl

variable {position concerns}

theorem newest_append_block {bound : Nat} (log : List Entry) {block : List Entry}
    (together : ∀ entry ∈ block, position entry = bound) :
    newest position concerns (log ++ block) =
      if notPast position (newest position concerns log) bound then
        (latest concerns block).or (newest position concerns log)
      else newest position concerns log := by
  induction block using List.reverseRecOn with
  | nil => simp
  | append_singleton block entry inductionHypothesis =>
    have here : position entry = bound := together entry (by simp)
    have before := inductionHypothesis fun other member => together other (by simp [member])
    rw [← List.append_assoc, newest_concat, before, latest_concat]
    unfold newer
    rw [here]
    cases open_ : notPast position (newest position concerns log) bound with
    | false => simp [open_]
    | true =>
      cases concerned : concerns entry with
      | false => simp
      | true =>
        have stillOpen : notPast position
            ((latest concerns block).or (newest position concerns log)) bound = true := by
          cases found : latest concerns block with
          | none => simpa using open_
          | some last =>
            have lastHere := together last (List.mem_append_left _ (latest_mem found))
            simp [notPast, lastHere]
        simp [stillOpen]

theorem isSome_newest (log : List Entry) :
    (newest position concerns log).isSome = (latest concerns log).isSome := by
  induction log using List.reverseRecOn with
  | nil => rfl
  | append_singleton log entry inductionHypothesis =>
    rw [newest_concat, latest_concat]
    unfold newer
    cases concerned : concerns entry with
    | false => simpa using inductionHypothesis
    | true =>
      cases known : newest position concerns log with
      | none => simp [notPast]
      | some held =>
        by_cases open_ : position held ≤ position entry <;> simp [notPast, open_]

end Newest

/-! ### What the last delivery says -/

theorem latest_map_eq_some_iff {concerns : Entry → Bool} {value : Entry → Value} {said : Value}
    {log : List Entry} (some_ : ∃ entry ∈ log, concerns entry = true) :
    (latest concerns log).map value = some said ↔
      ∀ front entry back, log = front ++ entry :: back → concerns entry = true →
        value entry ≠ said → ∃ later ∈ back, concerns later = true ∧ value later = said := by
  obtain ⟨entry, member, concerned⟩ := some_
  obtain ⟨last, found⟩ := exists_latest member concerned
  rw [found, Option.map_some, Option.some.injEq]
  constructor
  · rintro isSaid front other back rfl concernsOther differs
    rw [latest_append, latest_cons] at found
    cases foundBack : latest concerns back with
    | none =>
      rw [foundBack, if_pos concernsOther, Option.none_or, Option.some_or] at found
      obtain rfl := Option.some.inj found
      exact absurd isSaid differs
    | some later =>
      rw [foundBack, Option.some_or, Option.some_or] at found
      obtain rfl := Option.some.inj found
      exact ⟨later, latest_mem foundBack, latest_concerns foundBack, isSaid⟩
  · intro settled
    by_contra differs
    obtain ⟨front, back, rfl, misses⟩ := exists_split_of_latest found
    obtain ⟨later, isLater, concernsLater, _⟩ :=
      settled front last back rfl (latest_concerns found) differs
    exact Bool.false_ne_true ((misses later isLater).symm.trans concernsLater)

end Twalk
