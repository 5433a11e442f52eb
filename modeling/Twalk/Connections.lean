/-
This file is the registry of the connections a deployment carries, modelled on
`companion-gateway/src/connections.rs`, and the owner of the deployment, modelled
on `companion-gateway/src/owner.rs`. A registry holds what its constructor has
checked: the kinds are the contract's, the ids are valid and no id stands twice.
-/

import Mathlib.Data.List.Dedup
import Twalk.Library.Sorting
import Twalk.Library.Text

namespace Twalk

/-! ### Connections -/

def kinds : List String :=
  ["whatsapp", "telegram", "signal", "discord", "sms", "matrix", "email", "calendar"]

/-- `id_is_valid`: lower-case letters, digits and dashes, at most 64 bytes, starting with a
letter or a digit. -/
def idIsValid (id : String) : Bool :=
  match id.toList with
  | [] => false
  | first :: rest =>
    (first.isLower || first.isDigit) && id.utf8ByteSize ≤ 64 &&
      rest.all fun character => character.isLower || character.isDigit || character == '-'

structure Connection where
  id : String
  kind : String
  label : String
  bridgeId : Option String
  bridgeBot : Option String
deriving DecidableEq, Repr

/-- Why an event's connection could not be found in the registry. -/
inductive Unresolved where
  | unknownId (id : String)
  | noneOfKind (kind : String)
  | severalOfKind (kind : String) (ids : List String)
deriving DecidableEq, Repr

/-- The registry, with what `from_config` has checked of it. -/
structure Registry where
  connections : List Connection
  kindsKnown : ∀ connection ∈ connections, connection.kind ∈ kinds
  idsValid : ∀ connection ∈ connections, idIsValid connection.id = true
  idsDistinct : (connections.map Connection.id).Nodup

namespace Registry

def get (registry : Registry) (id : String) : Option Connection :=
  registry.connections.find? fun connection => connection.id == id

def ofKind (registry : Registry) (kind : String) : List Connection :=
  registry.connections.filter fun connection => connection.kind == kind

def onlyOfKind (registry : Registry) (kind : String) : Option Connection :=
  match registry.ofKind kind with
  | [only] => some only
  | _ => none

def resolve (registry : Registry) (carried : Option String) (kind : String) :
    Except Unresolved Connection :=
  match (carried.map Text.trim).filter fun id => id != "" with
  | some id =>
    match registry.get id with
    | some connection => .ok connection
    | none => .error (.unknownId id)
  | none =>
    match registry.ofKind kind with
    | [only] => .ok only
    | [] => .error (.noneOfKind kind)
    | several => .error (.severalOfKind kind (several.map Connection.id))

end Registry

variable {id : String}

theorem ne_empty_of_idIsValid (valid : idIsValid id = true) : id ≠ "" := by
  rintro rfl
  exact absurd valid (by decide)

namespace Registry

variable {connection : Connection} {registry : Registry}

theorem id_of_get (found : registry.get id = some connection) : connection.id = id :=
  eq_of_beq (List.find?_some found :)

theorem mem_of_get (found : registry.get id = some connection) :
    connection ∈ registry.connections :=
  List.mem_of_find?_eq_some found

theorem get_of_mem (member : connection ∈ registry.connections) :
    registry.get connection.id = some connection := by
  cases found : registry.get connection.id with
  | none =>
    have absent := List.find?_eq_none.mp found connection member
    simp at absent
  | some other =>
    have same := List.inj_on_of_nodup_map registry.idsDistinct (mem_of_get found) member
      (id_of_get found)
    rw [same]

theorem id_ne_empty_of_get (found : registry.get id = some connection) : id ≠ "" := by
  rw [← id_of_get found]
  exact ne_empty_of_idIsValid (registry.idsValid connection (mem_of_get found))

theorem mem_ofKind {kind : String} :
    connection ∈ registry.ofKind kind ↔
      connection ∈ registry.connections ∧ connection.kind = kind := by
  unfold ofKind
  rw [List.mem_filter, beq_iff_eq]

end Registry

/-! ### The owner -/

/-- The deployment's owner: one Matrix user id, and every identity the owner is known under,
ascending and without repetition. -/
structure Owner where
  matrixId : String
  identities : List String
  ownIdentity : matrixId ∈ identities

namespace Owner

def new (matrixId : String) (ghosts : List String) : Owner where
  matrixId := matrixId
  identities :=
    sortTexts (matrixId :: (ghosts.map Text.trim).filter fun ghost => ghost != "").dedup
  ownIdentity :=
    (perm_sortTexts _).mem_iff.mpr (List.mem_dedup.mpr List.mem_cons_self)

def isOwner (owner : Owner) (userId : String) : Bool := owner.identities.contains userId

end Owner

end Twalk
