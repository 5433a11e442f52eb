/-
This file is how the screen of conversations finds communities: the stem of a conversation's name,
which stems are related, the families that a forest of unions makes of related groups, and the
sections they are shown in.

The families are the classes of the chains of related groups, in whatever order the groups come. A
name is looked for at its first place in another one only, so that one which stands there as part
of a word is passed by, though it stands alone further on.
-/

import Mathlib.Data.List.DropRight
import Mathlib.Data.List.Sort
import Mathlib.Data.List.NodupEquivFin
import Mathlib.Data.Prod.Lex
import Twalk.Library.Buckets
import Twalk.Library.DisjointSets
import Twalk.Library.Text
import Twalk.RecoveryKey

namespace Twalk.Portals

open RecoveryKey (Units unitsOf characters)

/-! ### Rows -/

inductive ConversationKind where
  | oneToOne
  | group
  | broadcast
  | unstated
  deriving DecidableEq

/-- A conversation, as far as the sections look at it. -/
structure ConversationRow where
  roomId : Units
  bridgeId : Units
  label : Units
  kind : ConversationKind
  /-- The people in the conversation. -/
  members : Nat
  deriving DecidableEq

structure Tables where
  /-- The canonical decomposition. -/
  nfd : Units → Units
  isDiacritic : Units → Bool
  toLowerCase : Units → Units
  /-- Letters and numbers. -/
  isWord : Units → Bool
  localeCompare : Units → Units → Int
  notColon : isWord (unitsOf ":") = false

def space : UInt16 := 0x20

def colon : UInt16 := 0x3a

/-! ### Stems -/

def trim (value : Units) : Units :=
  (value.dropWhile RecoveryKey.isWhitespace).rdropWhile RecoveryKey.isWhitespace

section Stem

variable (tables : Tables)

def fold (value : Units) : Units :=
  trim (tables.toLowerCase
    ((characters (tables.nfd value)).filter fun character => !tables.isDiacritic character).flatten)

def spaced (inRun : Bool) : List Units → List Units
  | [] => []
  | character :: rest =>
    if tables.isWord character then character :: spaced false rest
    else if inRun then spaced true rest
    else [space] :: spaced true rest

def stem (name : Units) : Units :=
  trim (spaced tables false (characters (fold tables name))).flatten

end Stem

/-- Below this, a shared name is a coincidence. -/
def minStem : Nat := 3

/-- The first place of a text in another. -/
def indexOf (inner : Units) : Units → Option Nat
  | [] => if inner = [] then some 0 else none
  | first :: rest =>
    if inner <+: first :: rest then some 0 else (indexOf inner rest).map (· + 1)

/-- Whether no character of a word stands right before or behind a place of a text in another. -/
def isBounded (inner outer : Units) (place : Nat) : Bool :=
  (place = 0 || outer[place - 1]? = some space) &&
    (place + inner.length = outer.length || outer[place + inner.length]? = some space)

/-- Whether two stems are those of one community. -/
def related (left right : Units) : Bool :=
  if left = [] ∨ right = [] then false
  else if left = right then minStem ≤ left.length
  else
    let inner := if left.length ≤ right.length then left else right
    let outer := if left.length ≤ right.length then right else left
    if inner.length < minStem then false
    else
      match indexOf inner outer with
      | none => false
      | some place => isBounded inner outer place

/-! ### Families -/

def pairs (count : Nat) : List (Fin count × Fin count) :=
  (List.finRange count).flatMap fun one =>
    ((List.finRange count).filter (one < ·)).map fun other => (one, other)

structure ConversationFamily where
  key : Units
  name : Units
  rows : List ConversationRow
  people : Nat
  deriving DecidableEq

section Families

variable (tables : Tables) (groups : List ConversationRow)

def stemAt (place : Fin groups.length) : Units := stem tables (groups.get place).label

def parents : Fin groups.length → Fin groups.length :=
  (pairs groups.length).foldl (fun parent pair =>
    if (groups.get pair.1).bridgeId ≠ (groups.get pair.2).bridgeId then parent
    else if related (stemAt tables groups pair.1) (stemAt tables groups pair.2) then
      DisjointSets.union parent pair.1 pair.2
    else parent) id

/-- The places of the groups, by the root each is found under. -/
def grouped : List (Bucket (Fin groups.length) (Fin groups.length)) :=
  Bucket.gather (DisjointSets.find (parents tables groups)) (List.finRange groups.length)

def byLabel (left right : ConversationRow) : Int :=
  if tables.localeCompare left.label right.label ≠ 0 then
    tables.localeCompare left.label right.label
  else (left.members : Int) - right.members

def shortest (first : ConversationRow) (rest : List ConversationRow) : ConversationRow :=
  rest.foldl (fun best row =>
    if (stem tables row.label).length ≤ (stem tables best.label).length then row else best) first

def family (bucket : Bucket (Fin groups.length) (Fin groups.length)) : ConversationFamily :=
  let members := bucket.items.map groups.get
  let name := (shortest tables (groups.get bucket.first) (bucket.rest.map groups.get)).label
  { key := (groups.get bucket.first).bridgeId ++ colon :: stem tables name ++
      colon :: stemAt tables groups bucket.key
    name := name
    rows := members.insertionSort fun left right => byLabel tables left right ≤ 0
    people := (members.map ConversationRow.members).sum }

def families : List ConversationFamily :=
  ((grouped tables groups).map (family tables groups)).insertionSort fun left right =>
    tables.localeCompare left.name right.name ≤ 0

end Families

/-! ### Sections -/

structure ConversationSections where
  oneToOne : List ConversationRow
  groups : List ConversationRow
  communities : List ConversationFamily
  broadcasts : List ConversationRow
  unstated : List ConversationRow

def ofKind (all : List ConversationRow) (kind : ConversationKind) : List ConversationRow :=
  all.filter (·.kind = kind)

def sections (tables : Tables) (all : List ConversationRow) : ConversationSections :=
  let clustered := families tables (ofKind all .group)
  { oneToOne := ofKind all .oneToOne
    groups := (clustered.filter (·.rows.length = 1)).flatMap ConversationFamily.rows
    communities := clustered.filter (1 < ·.rows.length)
    broadcasts := ofKind all .broadcast
    unstated := ofKind all .unstated }

end Twalk.Portals
