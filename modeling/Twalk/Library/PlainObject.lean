/-
This file is the theory of plain objects, as a script uses them for maps from texts: the
properties an object has of its own, in the order they were first set, and the members every
one inherits. Reading a name it has not set answers an inherited member where there is one, and
setting the name of the prototype to what is no object does nothing. What was set last under a
name is what is read.
-/

import Mathlib.Data.List.Nodup
import Twalk.Library.Ledger

namespace Twalk

structure PlainObject (Value : Type) where
  own : List (String × Value)
deriving DecidableEq, Repr

namespace PlainObject

variable {Value : Type}

def prototypeName : String := "__proto__"

/-- The members that every plain object inherits. -/
def inherited : List String :=
  ["constructor", "__defineGetter__", "__defineSetter__", "hasOwnProperty", "__lookupGetter__",
    "__lookupSetter__", "isPrototypeOf", "propertyIsEnumerable", "toString", "valueOf", "__proto__",
    "toLocaleString"]

inductive Member (Value : Type) where
  | own (value : Value)
  | inherited
  | undefined
deriving DecidableEq, Repr

def empty : PlainObject Value := ⟨[]⟩

def own? (object : PlainObject Value) (name : String) : Option Value := object.own.lookup name

def get (object : PlainObject Value) (name : String) : Member Value :=
  match object.own? name with
  | some value => .own value
  | none => if name ∈ inherited then .inherited else .undefined

/-- Properties with one of them set: where it was, or at their end. -/
def setIn (name : String) (value : Value) : List (String × Value) → List (String × Value)
  | [] => [(name, value)]
  | (other, held) :: rest =>
    if name = other then (name, value) :: rest else (other, held) :: setIn name value rest

def set (object : PlainObject Value) (name : String) (value : Value) : PlainObject Value :=
  if name = prototypeName then object else ⟨setIn name value object.own⟩

def setAll (object : PlainObject Value) (properties : List (String × Value)) : PlainObject Value :=
  properties.foldl (fun so property => so.set property.1 property.2) object

/-! ### Reading what was set -/

@[simp] theorem own?_empty (name : String) : (empty : PlainObject Value).own? name = none := rfl

theorem lookup_cons_self (name : String) (value : Value) (rest : List (String × Value)) :
    ((name, value) :: rest).lookup name = some value := by
  rw [List.lookup_cons, beq_self_eq_true]

theorem lookup_cons_of_ne {name other : String} (differ : name ≠ other) (value : Value)
    (rest : List (String × Value)) : ((other, value) :: rest).lookup name = rest.lookup name := by
  rw [List.lookup_cons, beq_false_of_ne differ]

theorem lookup_setIn_self (name : String) (value : Value) (own : List (String × Value)) :
    (setIn name value own).lookup name = some value := by
  induction own with
  | nil => exact lookup_cons_self name value []
  | cons property rest inductionHypothesis =>
    obtain ⟨other, held⟩ := property
    unfold setIn
    by_cases same : name = other
    · rw [if_pos same]
      exact lookup_cons_self name value rest
    · rw [if_neg same, lookup_cons_of_ne same]
      exact inductionHypothesis

theorem lookup_setIn_of_ne {name other : String} (differ : other ≠ name) (value : Value)
    (own : List (String × Value)) : (setIn name value own).lookup other = own.lookup other := by
  induction own with
  | nil => exact lookup_cons_of_ne differ value []
  | cons property rest inductionHypothesis =>
    obtain ⟨held, heldValue⟩ := property
    unfold setIn
    by_cases same : name = held
    · rw [if_pos same, lookup_cons_of_ne differ, lookup_cons_of_ne (same ▸ differ)]
    · rw [if_neg same, List.lookup_cons, List.lookup_cons, inductionHypothesis]

theorem set_prototype (object : PlainObject Value) (value : Value) :
    object.set prototypeName value = object := if_pos rfl

variable {name : String}

theorem own?_set_self (object : PlainObject Value) (settable : name ≠ prototypeName) (value : Value)
    : (object.set name value).own? name = some value := by
  unfold set
  rw [if_neg settable]
  exact lookup_setIn_self name value object.own

theorem own?_set_of_ne (object : PlainObject Value) {name other : String} (differ : other ≠ name)
    (value : Value) : (object.set name value).own? other = object.own? other := by
  unfold set
  split
  · rfl
  · exact lookup_setIn_of_ne differ value object.own

theorem own?_setAll (object : PlainObject Value) (properties : List (String × Value))
    (settable : name ≠ prototypeName) :
    (object.setAll properties).own? name =
      ((latest (fun property => property.1 == name) properties).map Prod.snd).or
        (object.own? name) := by
  refine read_foldl (fun so => so.own? name) ?_ ?_ properties object
  · intro so property isNamed
    rw [eq_of_beq isNamed]
    exact own?_set_self so settable property.2
  · intro so property isOther
    exact own?_set_of_ne so (Ne.symm (by simpa using isOther)) property.2

theorem own?_setAll_prototype (object : PlainObject Value) (properties : List (String × Value)) :
    (object.setAll properties).own? prototypeName = object.own? prototypeName := by
  induction properties generalizing object with
  | nil => rfl
  | cons property rest inductionHypothesis =>
    have unfolded : object.setAll (property :: rest) =
        (object.set property.1 property.2).setAll rest := rfl
    rw [unfolded, inductionHypothesis]
    by_cases same : property.1 = prototypeName
    · rw [same, set_prototype]
    · exact own?_set_of_ne object (Ne.symm same) property.2

variable {properties : List (String × Value)}

theorem mem_of_own?_setAll {value : Value}
    (isOwn : (empty.setAll properties).own? name = some value) :
    name ≠ prototypeName ∧ (name, value) ∈ properties := by
  have settable : name ≠ prototypeName := by
    rintro rfl
    rw [own?_setAll_prototype] at isOwn
    exact nomatch isOwn
  rw [own?_setAll empty properties settable, own?_empty, Option.or_none] at isOwn
  obtain ⟨property, isLast, rfl⟩ := Option.map_eq_some_iff.mp isOwn
  have isNamed : property.1 = name := eq_of_beq (latest_concerns isLast :)
  exact ⟨settable, isNamed ▸ latest_mem isLast⟩

theorem own?_setAll_of_mem (distinct : (properties.map Prod.fst).Nodup)
    (settable : name ≠ prototypeName) {value : Value} (isSet : (name, value) ∈ properties) :
    (empty.setAll properties).own? name = some value := by
  have isLast : latest (fun property => property.1 == name) properties = some (name, value) := by
    refine latest_eq_of_unique isSet (beq_self_eq_true name) fun other isOther isNamed => ?_
    exact List.inj_on_of_nodup_map distinct isOther isSet (eq_of_beq isNamed)
  rw [own?_setAll empty properties settable, isLast]
  rfl

end PlainObject

end Twalk
