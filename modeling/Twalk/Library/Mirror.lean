/-
This file is the theory of a follower that knows the records of a keyed store
only by what it is told, and keeps them under a name each record carries. The
store's keys are not told, so the follower mirrors the store when it holds, under
the names, exactly the records the store holds, each up to an agreement. Telling
it one record, leaving it untold when it would agree, and taking one name back
keep the mirror as long as no other key holds a record of that name.
-/

import Mathlib.Logic.Function.Basic

namespace Twalk

variable {Key Name Record Value : Type} (nameOf : Record → Name)
  (agrees : Record → Value → Prop)

structure Mirrors (store : Key → Option Record) (view : Name → Option Value) : Prop where
  held : ∀ name value, view name = some value →
    ∃ key record, store key = some record ∧ nameOf record = name ∧ agrees record value
  shown : ∀ key record, store key = some record →
    ∃ value, view (nameOf record) = some value ∧ agrees record value

def OnlyAt (store : Key → Option Record) (key : Key) (name : Name) : Prop :=
  ∀ other record, store other = some record → nameOf record = name → other = key

namespace Mirrors

variable {nameOf agrees} {store later : Key → Option Record} {view : Name → Option Value}

theorem congr (mirrors : Mirrors nameOf agrees store view)
    (same : ∀ key, later key = store key) : Mirrors nameOf agrees later view := by
  obtain rfl : later = store := funext same
  exact mirrors

variable {key : Key}

theorem keep (mirrors : Mirrors nameOf agrees store view) {old record : Record}
    (before : store key = some old) (now : later key = some record)
    (elsewhere : ∀ other, other ≠ key → later other = store other)
    (sameName : nameOf old = nameOf record)
    (agree : ∀ value, agrees old value → agrees record value) :
    Mirrors nameOf agrees later view := by
  constructor
  · intro name value shown
    obtain ⟨other, held, found, named, agreed⟩ := mirrors.held name value shown
    by_cases isKey : other = key
    · subst isKey
      obtain rfl : old = held := Option.some.inj (before.symm.trans found)
      exact ⟨other, record, now, sameName.symm.trans named, agree value agreed⟩
    · exact ⟨other, held, (elsewhere other isKey).trans found, named, agreed⟩
  · intro other held found
    by_cases isKey : other = key
    · subst isKey
      obtain rfl : record = held := Option.some.inj (now.symm.trans found)
      obtain ⟨value, shown, agreed⟩ := mirrors.shown other old before
      exact ⟨value, sameName ▸ shown, agree value agreed⟩
    · exact mirrors.shown other held ((elsewhere other isKey).symm.trans found)

variable [DecidableEq Name]

theorem put (mirrors : Mirrors nameOf agrees store view) {record : Record} {value : Value}
    (now : later key = some record) (elsewhere : ∀ other, other ≠ key → later other = store other)
    (only : OnlyAt nameOf store key (nameOf record))
    (sameName : ∀ old, store key = some old → nameOf old = nameOf record)
    (agree : agrees record value) :
    Mirrors nameOf agrees later (Function.update view (nameOf record) (some value)) := by
  constructor
  · intro name shownValue shown
    by_cases isName : name = nameOf record
    · subst isName
      rw [Function.update_self] at shown
      exact ⟨key, record, now, rfl, Option.some.inj shown ▸ agree⟩
    · rw [Function.update_of_ne isName] at shown
      obtain ⟨other, old, found, named, agreed⟩ := mirrors.held name shownValue shown
      have isOther : other ≠ key := by
        rintro rfl
        exact isName (named.symm.trans (sameName old found))
      exact ⟨other, old, (elsewhere other isOther).trans found, named, agreed⟩
  · intro other held found
    by_cases isKey : other = key
    · subst isKey
      obtain rfl : record = held := Option.some.inj (now.symm.trans found)
      exact ⟨value, Function.update_self .., agree⟩
    · rw [elsewhere other isKey] at found
      have notNamed : nameOf held ≠ nameOf record := fun named =>
        isKey (only other held found named)
      rw [Function.update_of_ne notNamed]
      exact mirrors.shown other held found

theorem erase (mirrors : Mirrors nameOf agrees store view) {old : Record}
    (before : store key = some old) (now : later key = none)
    (elsewhere : ∀ other, other ≠ key → later other = store other)
    (only : OnlyAt nameOf store key (nameOf old)) :
    Mirrors nameOf agrees later (Function.update view (nameOf old) none) := by
  constructor
  · intro name value shown
    by_cases isName : name = nameOf old
    · subst isName
      rw [Function.update_self] at shown
      exact absurd shown (by simp)
    · rw [Function.update_of_ne isName] at shown
      obtain ⟨other, held, found, named, agreed⟩ := mirrors.held name value shown
      have isOther : other ≠ key := by
        rintro rfl
        obtain rfl : old = held := Option.some.inj (before.symm.trans found)
        exact isName named.symm
      exact ⟨other, held, (elsewhere other isOther).trans found, named, agreed⟩
  · intro other held found
    by_cases isKey : other = key
    · subst isKey
      exact absurd (found.symm.trans now) (by simp)
    · rw [elsewhere other isKey] at found
      have notNamed : nameOf held ≠ nameOf old := fun named =>
        isKey (only other held found named)
      rw [Function.update_of_ne notNamed]
      exact mirrors.shown other held found

end Mirrors

end Twalk
