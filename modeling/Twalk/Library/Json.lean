/-
This file is the JSON document model that the verified programs read and write.
A document is a tree; an object keeps its members in order and a lookup answers
with the first one of a name. Only what a program asks of a document is here: a
member, a path of members, and the reading of one value as text, as a flag, as a
list or as a natural number.
-/

import Mathlib.Data.List.Basic

namespace Twalk

/-! ### Documents -/

inductive Json where
  | null
  | bool (value : Bool)
  | number (value : Int)
  | float (digits : String)
  | string (value : String)
  | array (items : List Json)
  | object (members : List (String × Json))
deriving Repr

namespace Json

def lookup (name : String) : List (String × Json) → Option Json
  | [] => none
  | (other, value) :: members => if name == other then some value else lookup name members

def get? (document : Json) (name : String) : Option Json :=
  match document with
  | object members => lookup name members
  | _ => none

def pointer (document : Json) : List String → Option Json
  | [] => some document
  | name :: path => (document.get? name).bind fun member => member.pointer path

def item? (document : Json) (index : Nat) : Option Json :=
  match document with
  | array items => items[index]?
  | _ => none

def asStr : Json → Option String
  | string value => some value
  | _ => none

def asArray : Json → Option (List Json)
  | array items => some items
  | _ => none

def asBool : Json → Option Bool
  | bool value => some value
  | _ => none

def asNat : Json → Option Nat
  | number value => if 0 ≤ value then some value.toNat else none
  | _ => none

def textAt (document : Json) (path : List String) : Option String :=
  (document.pointer path).bind asStr

/-! ### Reading what was written -/

@[simp] theorem get?_object_cons_self (name : String) (value : Json)
    (members : List (String × Json)) :
    (object ((name, value) :: members)).get? name = some value := by
  simp [get?, lookup]

theorem get?_object_cons_of_ne {name other : String} (differ : name ≠ other) (value : Json)
    (members : List (String × Json)) :
    (object ((other, value) :: members)).get? name = (object members).get? name := by
  have unequal : (name == other) = false := beq_false_of_ne differ
  simp [get?, lookup, unequal]

theorem get?_object_append_of_notMem {name : String} {front : List (String × Json)}
    (absent : name ∉ front.map Prod.fst) (back : List (String × Json)) :
    (object (front ++ back)).get? name = (object back).get? name := by
  induction front with
  | nil => rfl
  | cons member rest inductionHypothesis =>
    obtain ⟨other, value⟩ := member
    have differ : name ≠ other := fun same => absent (by simp [same])
    rw [List.cons_append, get?_object_cons_of_ne differ]
    exact inductionHypothesis fun member => absent (by simp [member])

@[simp] theorem pointer_nil (document : Json) : document.pointer [] = some document := rfl

@[simp] theorem pointer_cons (document : Json) (name : String) (path : List String) :
    document.pointer (name :: path) =
      (document.get? name).bind fun member => member.pointer path := rfl

@[simp] theorem asStr_string (value : String) : (string value).asStr = some value := rfl

@[simp] theorem asArray_array (items : List Json) : (array items).asArray = some items := rfl

@[simp] theorem asBool_bool (value : Bool) : (bool value).asBool = some value := rfl

@[simp] theorem asNat_natCast (value : Nat) : (number value).asNat = some value := by
  simp [asNat]

end Json

end Twalk
