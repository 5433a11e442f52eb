/-
This file is the part of JSON Schema that contracts between programs are written in:
anchored patterns over the characters of a text, and schemas as checks of a document,
one for each keyword, in the 2020-12 dialect. A keyword asks nothing of a document of
another type, and `format` is an annotation, so it is not a check. What a pattern says
of a text that is put together from pieces is stated once for each kind of piece, and
what an object has to look like is stated once over its members.
-/

import Mathlib.Data.List.Basic
import Mathlib.Data.List.Count
import Mathlib.Data.List.Nodup
import Twalk.Library.Json

namespace Twalk

/-! ### Patterns -/

/-- The white space of a pattern's `\s`: that of ECMA-262. -/
def isPatternSpace (character : Char) : Bool :=
  let code := character.toNat
  (9 ≤ code && code ≤ 13) || code == 0x20 || code == 0xA0 || code == 0x1680 ||
    (0x2000 ≤ code && code ≤ 0x200A) || code == 0x2028 || code == 0x2029 || code == 0x202F ||
    code == 0x205F || code == 0x3000 || code == 0xFEFF

/-- One piece of a pattern: a text as it stands, or a number of characters of a class. -/
inductive Piece where
  | exactly (text : String)
  | several (isIn : Char → Bool) (least : Nat) (most : Option Nat)

namespace Piece

def oneOrMore (isIn : Char → Bool) : Piece := several isIn 1 none

def times (isIn : Char → Bool) (count : Nat) : Piece := several isIn count (some count)

def takes : Piece → List Char → Bool
  | exactly text, characters => characters == text.toList
  | several isIn least most, characters =>
    characters.all isIn && decide (least ≤ characters.length) &&
      most.all fun most => decide (characters.length ≤ most)

end Piece

/-- A pattern that is anchored at both ends of a text. -/
abbrev Pattern := List Piece

namespace Pattern

def accepts : Pattern → List Char → Bool
  | [], characters => characters.isEmpty
  | piece :: rest, characters => (List.range (characters.length + 1)).any fun count =>
    piece.takes (characters.take count) && accepts rest (characters.drop count)

variable {rest : Pattern} {characters : List Char} {isIn : Char → Bool}

theorem accepts_cons {piece : Piece} :
    accepts (piece :: rest) characters = true ↔
      ∃ front back, characters = front ++ back ∧ piece.takes front = true ∧
        accepts rest back = true := by
  rw [accepts, List.any_eq_true]
  constructor
  · rintro ⟨count, -, taken⟩
    rw [Bool.and_eq_true] at taken
    exact ⟨_, _, (List.take_append_drop count characters).symm, taken⟩
  · rintro ⟨front, back, rfl, taken, remaining⟩
    refine ⟨front.length, ?_, ?_⟩
    · rw [List.mem_range, List.length_append]
      omega
    · rw [List.take_left, List.drop_left, taken, remaining]
      rfl

variable {text : String}

theorem accepts_exactly :
    accepts (.exactly text :: rest) characters = true ↔
      ∃ back, characters = text.toList ++ back ∧ accepts rest back = true := by
  rw [accepts_cons]
  constructor
  · rintro ⟨front, back, rfl, taken, remaining⟩
    have isText : front = text.toList := eq_of_beq taken
    exact ⟨back, by rw [isText], remaining⟩
  · rintro ⟨back, rfl, remaining⟩
    exact ⟨_, back, rfl, beq_self_eq_true _, remaining⟩

theorem accepts_exactly_append {back : List Char} :
    accepts (.exactly text :: rest) (text.toList ++ back) = true ↔ accepts rest back = true := by
  rw [accepts_exactly]
  constructor
  · rintro ⟨other, same, remaining⟩
    rwa [List.append_cancel_left same]
  · exact fun remaining => ⟨back, rfl, remaining⟩

theorem not_accepts_exactly (otherwise : characters.head? ≠ text.toList.head?)
    (isSome : text.toList ≠ []) : accepts (.exactly text :: rest) characters = false := by
  rw [Bool.eq_false_iff]
  intro accepted
  obtain ⟨back, rfl, -⟩ := accepts_exactly.mp accepted
  exact otherwise (List.head?_append_of_ne_nil _ isSome)

theorem takes_oneOrMore :
    (Piece.oneOrMore isIn).takes characters = true ↔
      characters ≠ [] ∧ ∀ character ∈ characters, isIn character = true := by
  unfold Piece.oneOrMore
  dsimp only [Piece.takes]
  rw [Option.all_none, Bool.and_true, Bool.and_eq_true, List.all_eq_true, decide_eq_true_eq,
    Nat.succ_le_iff, List.length_pos_iff]
  exact and_comm

theorem takes_times {count : Nat} :
    (Piece.times isIn count).takes characters = true ↔
      characters.length = count ∧ ∀ character ∈ characters, isIn character = true := by
  unfold Piece.times
  dsimp only [Piece.takes]
  rw [Option.all_some, Bool.and_eq_true, Bool.and_eq_true, List.all_eq_true, decide_eq_true_eq,
    decide_eq_true_eq, and_assoc, ← Nat.le_antisymm_iff, and_comm, eq_comm (a := count)]

theorem accepts_singleton {piece : Piece} :
    accepts [piece] characters = true ↔ piece.takes characters = true := by
  rw [accepts_cons]
  constructor
  · rintro ⟨front, back, rfl, taken, remaining⟩
    rwa [List.isEmpty_iff.mp remaining, List.append_nil]
  · exact fun taken => ⟨characters, [], (List.append_nil _).symm, taken, rfl⟩

theorem eq_of_append_separator {Element : Type} {separator : Element}
    {front other back after : List Element} (outside : separator ∉ front)
    (otherOutside : separator ∉ other)
    (same : front ++ separator :: back = other ++ separator :: after) :
    front = other ∧ back = after := by
  induction front generalizing other with
  | nil =>
    cases other with
    | nil => exact ⟨rfl, (List.cons.inj same).2⟩
    | cons first rest =>
      exact absurd ((List.cons.inj same).1 ▸ List.mem_cons_self) otherOutside
  | cons first rest inductionHypothesis =>
    cases other with
    | nil => exact absurd ((List.cons.inj same).1 ▸ List.mem_cons_self) outside
    | cons otherFirst otherRest =>
      obtain ⟨sameFirst, sameRest⟩ := List.cons.inj same
      obtain ⟨sameFront, sameBack⟩ := inductionHypothesis
        (fun member => outside (List.mem_cons_of_mem _ member))
        (fun member => otherOutside (List.mem_cons_of_mem _ member)) sameRest
      exact ⟨by rw [sameFirst, sameFront], sameBack⟩

theorem accepts_oneOrMore_separator (separator : Char) (isText : text.toList = [separator]) :
    accepts (.oneOrMore isIn :: .exactly text :: rest) characters = true ↔
      ∃ front back, characters = front ++ separator :: back ∧ front ≠ [] ∧
        (∀ character ∈ front, isIn character = true) ∧ accepts rest back = true := by
  rw [accepts_cons]
  constructor
  · rintro ⟨front, remaining, rfl, taken, accepted⟩
    obtain ⟨back, rfl, isBack⟩ := accepts_exactly.mp accepted
    obtain ⟨isSome, all⟩ := takes_oneOrMore.mp taken
    exact ⟨front, back, by rw [isText]; rfl, isSome, all, isBack⟩
  · rintro ⟨front, back, rfl, isSome, all, isBack⟩
    refine ⟨front, separator :: back, rfl, takes_oneOrMore.mpr ⟨isSome, all⟩, ?_⟩
    rw [accepts_exactly, isText]
    exact ⟨back, rfl, isBack⟩

end Pattern

/-! ### Members that may be absent -/

namespace Json

def member (name : String) (value : Option Json) : List (String × Json) :=
  value.toList.map fun value => (name, value)

variable {front back : List (String × Json)} {name other : String} {value : Option Json}

theorem lookup_append :
    lookup name (front ++ back) = (lookup name front).or (lookup name back) := by
  induction front with
  | nil => rfl
  | cons first rest inductionHypothesis =>
    obtain ⟨other, value⟩ := first
    rw [List.cons_append, lookup, lookup]
    split
    · rfl
    · exact inductionHypothesis

theorem lookup_member :
    lookup name (member other value) = if name == other then value else none := by
  cases value with
  | none => simp [member, lookup]
  | some value => simp [member, lookup]

theorem forall_mem_member {holds : String × Json → Prop} :
    (∀ entry ∈ member name value, holds entry) ↔
      ∀ document, value = some document → holds (name, document) := by
  cases value with
  | none => simp [member]
  | some value => simp [member]

end Json

/-! ### Schemas -/

abbrev Schema := Json → Bool

namespace Schema

/-- The types of documents. -/
inductive Kind where
  | null | boolean | integer | string | array | object
deriving DecidableEq, Repr

def Kind.holds : Kind → Json → Bool
  | null, .null | boolean, .bool _ | integer, .number _ | string, .string _ | array, .array _
  | object, .object _ => true
  | _, _ => false

def always : Schema := fun _ => true

/-- An annotation: it asks nothing. -/
def format (_name : String) : Schema := always

def never : Schema := fun _ => false

def all (parts : List Schema) : Schema := fun document => parts.all fun part => part document

def anyOf (parts : List Schema) : Schema := fun document => parts.any fun part => part document

def oneOf (parts : List Schema) : Schema := fun document =>
  (parts.countP fun part => part document) == 1

def ifThenElse (condition consequence alternative : Schema) : Schema := fun document =>
  if condition document then consequence document else alternative document

def hasType (kinds : List Kind) : Schema := fun document =>
  kinds.any fun kind => kind.holds document

/-! ### Keywords of texts and numbers -/

def constant (text : String) : Schema := fun document => document.asStr == some text

def constantFlag (flag : Bool) : Schema := fun document => document.asBool == some flag

def enum (texts : List String) : Schema := fun document =>
  document.asStr.any fun text => texts.contains text

def pattern (pieces : Pattern) : Schema := fun document =>
  document.asStr.all fun text => Pattern.accepts pieces text.toList

def minLength (least : Nat) : Schema := fun document =>
  document.asStr.all fun text => decide (least ≤ text.toList.length)

def maxLength (most : Nat) : Schema := fun document =>
  document.asStr.all fun text => decide (text.toList.length ≤ most)

def minimum (least : Int) : Schema
  | .number value => decide (least ≤ value)
  | _ => true

/-! ### Keywords of arrays -/

def minItems (least : Nat) : Schema := fun document =>
  document.asArray.all fun items => decide (least ≤ items.length)

def maxItems (most : Nat) : Schema := fun document =>
  document.asArray.all fun items => decide (items.length ≤ most)

def items (each : Schema) : Schema := fun document =>
  document.asArray.all fun items => items.all fun item => each item

def contains (one : Schema) : Schema := fun document =>
  document.asArray.all fun items => items.any fun item => one item

/-- No text is in the list twice; the lists it is asked of hold texts only. -/
def uniqueItems : Schema := fun document =>
  document.asArray.all fun items => decide (items.filterMap Json.asStr).Nodup

/-! ### Keywords of objects -/

def required (names : List String) : Schema
  | .object members => names.all fun name => (Json.lookup name members).isSome
  | _ => true

def properties (shape : List (String × Schema)) : Schema := fun document =>
  shape.all fun property => (document.get? property.1).all fun value => property.2 value

/-- `additionalProperties: false`. -/
def closed (names : List String) : Schema
  | .object members => members.all fun member => names.contains member.1
  | _ => true

def object (needed : List String) (shape : List (String × Schema)) : Schema :=
  all [hasType [.object], required needed, closed (shape.map Prod.fst), properties shape]

/-! ### What the keywords say -/

variable {document : Json}

theorem all_iff {parts : List Schema} :
    all parts document = true ↔ ∀ part ∈ parts, part document = true := List.all_eq_true

variable {condition consequence alternative : Schema}

theorem ifThenElse_of (holds : condition document = true) :
    ifThenElse condition consequence alternative document = consequence document := if_pos holds

theorem ifThenElse_of_not (fails : condition document = false) :
    ifThenElse condition consequence alternative document = alternative document :=
  if_neg (fails ▸ Bool.false_ne_true)

theorem oneOf_pair_of_not {first second : Schema} (fails : first document = false) :
    oneOf [first, second] document = second document := by
  unfold oneOf
  rw [List.countP_cons, List.countP_cons, List.countP_nil, fails]
  cases second document <;> rfl

variable {value : String}

theorem oneOf_pattern_of_not {pieces : Pattern} {second : Schema}
    (fails : Pattern.accepts pieces value.toList = false) :
    oneOf [pattern pieces, second] (.string value) = second (.string value) :=
  oneOf_pair_of_not fails

theorem oneOf_pair_of_not_right {first second : Schema} (fails : second document = false) :
    oneOf [first, second] document = first document := by
  unfold oneOf
  rw [List.countP_cons, List.countP_cons, List.countP_nil, fails]
  cases first document <;> rfl

@[simp] theorem constant_string {text value : String} :
    constant text (.string value) = true ↔ value = text := by
  simp [constant]

@[simp] theorem enum_string {texts : List String} :
    enum texts (.string value) = true ↔ value ∈ texts := by
  simp [enum]

@[simp] theorem pattern_string {pieces : Pattern} :
    pattern pieces (.string value) = Pattern.accepts pieces value.toList := rfl

@[simp] theorem maxLength_string {most : Nat} :
    maxLength most (.string value) = true ↔ value.toList.length ≤ most := by
  simp [maxLength]

@[simp] theorem minLength_string {least : Nat} :
    minLength least (.string value) = true ↔ least ≤ value.toList.length := by
  simp [minLength]

variable {values : List Json}

@[simp] theorem maxItems_array {most : Nat} :
    maxItems most (.array values) = true ↔ values.length ≤ most := by
  simp [maxItems]

@[simp] theorem minItems_array {least : Nat} :
    minItems least (.array values) = true ↔ least ≤ values.length := by
  simp [minItems]

@[simp] theorem items_array {each : Schema} :
    items each (.array values) = true ↔ ∀ value ∈ values, each value = true := by
  simp [items]

theorem items_map {Value : Type} {each : Schema} {write : Value → Json} {values : List Value} :
    items each (.array (values.map write)) = true ↔
      ∀ value ∈ values, each (write value) = true := by
  rw [items_array, List.forall_mem_map]

/-! ### Objects, over their members -/

variable {members : List (String × Json)}

variable {shape : List (String × Schema)}

theorem properties_object :
    properties shape (.object members) = true ↔
      ∀ property ∈ shape, ∀ value, Json.lookup property.1 members = some value →
        property.2 value = true := by
  unfold properties
  rw [List.all_eq_true]
  refine forall₂_congr fun property _ => ?_
  rw [show (Json.object members).get? property.1 = Json.lookup property.1 members from rfl]
  cases Json.lookup property.1 members with
  | none => simp
  | some value => simp

theorem object_iff {needed : List String} :
    object needed shape (.object members) = true ↔
      (∀ name ∈ needed, (Json.lookup name members).isSome = true) ∧
        (∀ member ∈ members, member.1 ∈ shape.map Prod.fst) ∧
          ∀ property ∈ shape, ∀ value, Json.lookup property.1 members = some value →
            property.2 value = true := by
  have isObject : hasType [.object] (.object members) = true := rfl
  unfold object
  rw [all_iff, List.forall_mem_cons, List.forall_mem_cons, List.forall_mem_cons,
    List.forall_mem_singleton, properties_object]
  refine ⟨fun ⟨_, needs, closes, shapes⟩ => ⟨?_, ?_, shapes⟩,
    fun ⟨needs, closes, shapes⟩ => ⟨isObject, ?_, ?_, shapes⟩⟩
  · exact List.all_eq_true.mp needs
  · exact fun member isMember =>
      List.contains_iff_mem.mp (List.all_eq_true.mp closes member isMember)
  · exact List.all_eq_true.mpr needs
  · exact List.all_eq_true.mpr fun member isMember =>
      List.contains_iff_mem.mpr (closes member isMember)

end Schema

end Twalk
