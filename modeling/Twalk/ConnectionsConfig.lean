/-
This file models how the Gateway comes to its registry of connections: `from_config`
of `companion-gateway/src/connections.rs`. The connections are those the operator
declared, or one for each network a bridge carries, and the native Matrix one beside
them; what cannot be told apart later is refused here.
-/

import Twalk.Connections

namespace Twalk.Registry

/-! ### What the operator configured -/

structure Carrier where
  bridgeId : String
  network : String
  botUserId : Option String
deriving DecidableEq, Repr

/-- Why a configuration is refused. -/
inductive ConfigRefusal where
  | noKind (entry : String)
  | unknownKind (id kind : String)
  | invalidId (id : String)
  | namedTwice (id : String)
  | notNamedAfterItsBridge (count : Nat) (kind id : String) (bridges : List String)
  | bridgeWithoutBot (count : Nat) (kind bridgeId id : String)
deriving DecidableEq, Repr

def carriedBy (id kind label : String) (bridge : Option Carrier) : Connection where
  id := id
  kind := kind
  label := label
  bridgeId := bridge.map Carrier.bridgeId
  bridgeBot := bridge.bind Carrier.botUserId

/-- One connection for each network a bridge carries, named after it; the first bridge of a network
is the one that counts. -/
def derivedFromBridges (bridges : List Carrier) : List Connection :=
  bridges.foldl (fun connections bridge =>
    if connections.any fun known => known.kind == bridge.network then connections
    else
      connections ++ [carriedBy bridge.network bridge.network bridge.bridgeId (some bridge)]) []

def bridgeOf (bridges : List Carrier) (id kind : String) : Option Carrier :=
  (bridges.find? fun bridge => bridge.bridgeId == id).or
    (match bridges.filter fun bridge => bridge.network == kind with
      | [only] => some only
      | _ => none)

def parseEntry (bridges : List Carrier) (entry : String) : Except ConfigRefusal Connection :=
  let id := Text.trim (((Text.splitOnce '=' entry).map Prod.fst).getD entry)
  let rest := (Text.splitOnce '=' entry).map Prod.snd
  let kind := (rest.map fun rest =>
    Text.trim (((Text.splitOnce '=' rest).map Prod.fst).getD rest)).filter fun kind => kind != ""
  let label := ((rest.bind (Text.splitOnce '=')).map fun parts => Text.trim parts.2).filter
    fun label => label != ""
  match kind with
  | none => .error (.noKind entry)
  | some kind => .ok (carriedBy id kind (label.getD id) (bridgeOf bridges id kind))

def parseDeclared (declared : String) (bridges : List Carrier) :
    Except ConfigRefusal (List Connection) :=
  (((Text.split ',' declared).map Text.trim).filter fun entry => entry != "").mapM
    (parseEntry bridges)

/-! ### What is checked -/

def unfit (connection : Connection) : Option ConfigRefusal :=
  if connection.kind ∉ kinds then some (.unknownKind connection.id connection.kind)
  else if idIsValid connection.id = false then some (.invalidId connection.id)
  else none

def repeatedAfter (seen : List String) : List String → Option String
  | [] => none
  | text :: rest => if text ∈ seen then some text else repeatedAfter (text :: seen) rest

def countOfKind (connections : List Connection) (kind : String) : Nat :=
  (connections.filter fun other => other.kind == kind).length

def unnamed (bridges : List Carrier) (connections : List Connection) (connection : Connection) :
    Option ConfigRefusal :=
  if connection.bridgeId.isNone && decide (1 < countOfKind connections connection.kind) &&
      bridges.any (fun bridge => bridge.network == connection.kind) then
    some (.notNamedAfterItsBridge (countOfKind connections connection.kind) connection.kind
      connection.id
      ((bridges.filter fun bridge => bridge.network == connection.kind).map Carrier.bridgeId))
  else none

def unrecognisable (connections : List Connection) (connection : Connection) :
    Option ConfigRefusal :=
  connection.bridgeId.bind fun bridgeId =>
    if decide (1 < countOfKind connections connection.kind) && connection.bridgeBot.isNone then
      some (.bridgeWithoutBot (countOfKind connections connection.kind) connection.kind bridgeId
        connection.id)
    else none

def configured (declared : Option String) (bridges : List Carrier) (homeserverName : String) :
    Except ConfigRefusal (List Connection) := do
  let connections ← match (declared.map Text.trim).filter fun value => value != "" with
    | none => .ok (derivedFromBridges bridges)
    | some declared => parseDeclared declared bridges
  if connections.any fun connection => connection.kind == "matrix" then return connections
  else return connections ++ [carriedBy "matrix" "matrix" homeserverName none]

theorem fits_of_unfit {connection : Connection} (fits : unfit connection = none) :
    connection.kind ∈ kinds ∧ idIsValid connection.id = true := by
  unfold unfit at fits
  by_cases known : connection.kind ∈ kinds
  · rw [if_neg (not_not.mpr known)] at fits
    cases valid : idIsValid connection.id with
    | true => exact ⟨known, rfl⟩
    | false => simp [valid] at fits
  · simp [known] at fits

theorem nodup_of_repeatedAfter {seen texts : List String}
    (fresh : repeatedAfter seen texts = none) : texts.Nodup ∧ ∀ text ∈ texts, text ∉ seen := by
  induction texts generalizing seen with
  | nil => simp
  | cons text rest inductionHypothesis =>
    unfold repeatedAfter at fresh
    by_cases known : text ∈ seen
    · simp [known] at fresh
    · rw [if_neg known] at fresh
      obtain ⟨distinct, unseen⟩ := inductionHypothesis fresh
      refine ⟨List.nodup_cons.mpr ⟨fun again => ?_, distinct⟩, fun other member => ?_⟩
      · exact unseen text again List.mem_cons_self
      · rcases List.mem_cons.mp member with rfl | inRest
        · exact known
        · exact fun before => unseen other inRest (List.mem_cons_of_mem text before)

def fromConfig (declared : Option String) (bridges : List Carrier) (homeserverName : String) :
    Except ConfigRefusal Registry :=
  match configured declared bridges homeserverName with
  | .error refusal => .error refusal
  | .ok connections =>
    match fits : connections.findSome? unfit with
    | some refusal => .error refusal
    | none =>
      match distinct : repeatedAfter [] (connections.map Connection.id) with
      | some id => .error (.namedTwice id)
      | none =>
        match (connections.findSome? (unnamed bridges connections)).or
          (connections.findSome? (unrecognisable connections)) with
        | some refusal => .error refusal
        | none => .ok {
            connections := connections
            kindsKnown := fun connection member =>
              (fits_of_unfit (List.findSome?_eq_none_iff.mp fits connection member)).1
            idsValid := fun connection member =>
              (fits_of_unfit (List.findSome?_eq_none_iff.mp fits connection member)).2
            idsDistinct := (nodup_of_repeatedAfter distinct).1 }

end Twalk.Registry
