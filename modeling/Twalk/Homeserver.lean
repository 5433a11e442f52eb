/-
This file models how the browser speaks to the owner's homeserver over plain HTTP,
`companion/src/lib/matrix/homeserver.ts`: one request, the words of one refusal
and one deadline. Whatever the homeserver and the crypto machine answer is an
input, at the place where it is asked for, and every answer is kept with what was
asked, so that an outcome can be held against all that happened before it.
-/

import Twalk.Library.Json
import Twalk.Library.Talk

namespace Twalk.Handover

/-! ### Requests and answers -/

structure Request where
  method : String
  url : String
  token : Option String
  body : Option Json
deriving Repr

structure Response where
  status : Nat
  body : Option Json
deriving Repr

structure Answer where
  status : Nat
  document : Json
deriving Repr

/-- What the browser does and is told, in the order in which it happens. -/
inductive Saying where
  | asked (request : Request) (answer : Except String Answer)
  | knew (user : String) (devices : Except String (List String))
  | sent (user : String) (devices : List String) (eventType : String) (content : Json)
      (reached : Except String Nat)
  | started (result : Except String Unit)
  | counted (user : String) (devices : Except String Nat)
  | stopped

/-- What a browser program is: it may raise an error, whose words are kept. -/
abbrev Program (Result : Type) : Type := Talk Saying String Result

/-- The body as the callers read it: an object or a list, and an empty object for all else. -/
def documentOf (body : Option Json) : Json :=
  match body with
  | some (.object members) => .object members
  | some (.array items) => .array items
  | _ => .object []

def answerOf (response : Response) : Answer :=
  { status := response.status, document := documentOf response.body }

/-- One request, which fails when nothing comes back. -/
def homeserverCalls (baseUrl : String) (token : Option String) (method path : String)
    (body : Option Json) (response : Except String Response) : Program Answer :=
  .ask (.asked { method, url := baseUrl ++ path, token, body }) (response.map answerOf)

/-- The homeserver's own words about a refusal: the status, the `errcode` and the `error`. -/
def refusalOf (answer : Answer) : String :=
  " ".intercalate ([toString answer.status, (answer.document.textAt ["errcode"]).getD "",
    (answer.document.textAt ["error"]).getD ""].filter (· ≠ ""))

/-- A text that is not empty. -/
def asString (value : Option Json) : Option String :=
  (value.bind Json.asStr).filter (· ≠ "")

/-! ### Paths -/

def isUnreserved (character : Char) : Bool :=
  character.isAlphanum ||
    character ∈ ['-', '_', '.', '!', '~', '*', Char.ofNat 39, '(', ')']

def upperHex (value : Nat) : Char :=
  if value < 10 then Char.ofNat (48 + value) else Char.ofNat (55 + value)

def encodeURIComponent (text : String) : String :=
  String.ofList (text.toList.flatMap fun character =>
    if isUnreserved character then [character]
    else (String.utf8EncodeChar character).flatMap fun byte =>
      ['%', upperHex (byte.toNat / 16), upperHex (byte.toNat % 16)])

def statePath (room place : String) : String :=
  "/_matrix/client/v3/rooms/" ++ encodeURIComponent room ++ "/state/" ++ place

def localpartOf (matrixId : String) : Option String :=
  match matrixId.toList with
  | '@' :: name =>
    match name.takeWhile (· ≠ ':'), name.dropWhile (· ≠ ':') with
    | first :: front, _ :: _ :: _ => some (String.ofList (first :: front))
    | _, _ => none
  | _ => none

def serverNameOf (matrixId : String) : Option String :=
  match matrixId.toList with
  | '@' :: name =>
    match name.takeWhile (· ≠ ':'), name.dropWhile (· ≠ ':') with
    | _ :: _, _ :: first :: back => some (String.ofList (first :: back))
    | _, _ => none
  | _ => none

/-! ### Waiting -/

/-- The clock as one wait reads it: once before the first poll and once after each. It may be set
back, and in the end it passes every moment. -/
structure Clock where
  reading : Nat → Int
  goesOn : ∀ moment, ∃ turn, moment ≤ reading (turn + 1)

def Clock.passed (clock : Clock) (deadlineMs turn : Nat) : Bool :=
  clock.reading 0 + deadlineMs ≤ clock.reading (turn + 1)

/-- One turn of the wait: it leaves when the condition holds or the deadline has passed. What the
condition assigns besides goes with its answer. -/
def poll {Value : Type} (condition : Nat → Program (Bool × Value)) (clock : Clock)
    (deadlineMs turn : Nat) : Program (Option (Bool × Value)) := do
  let (held, value) ← condition turn
  if held then
    return some (true, value)
  else if clock.passed deadlineMs turn then
    return some (false, value)
  else
    return none

def waitFor {Value : Type} (condition : Nat → Program (Bool × Value)) (clock : Clock)
    (deadlineMs fuel : Nat) : Program (Bool × Value) :=
  Talk.loop (poll condition clock deadlineMs) fuel 0

/-! ### What a wait guarantees -/

section Waiting

variable {Value : Type} {condition : Nat → Program (Bool × Value)} {clock : Clock}
  {deadlineMs fuel : Nat} {said : List Saying}

theorem ensures_waitFor (invariant : Nat → List Saying → Prop)
    {described : Except String (Bool × Value) → List Saying → Prop}
    (polls : ∀ turn said, invariant turn said → (condition turn).Ensures said fun ended later =>
      match ended with
      | .error error => described (.error error) later
      | .ok (true, value) => described (.ok (true, value)) later
      | .ok (false, value) =>
        if clock.passed deadlineMs turn then described (.ok (false, value)) later
        else invariant (turn + 1) later)
    (start : invariant 0 said) :
    (waitFor condition clock deadlineMs fuel).Ensures said described := by
  refine Talk.ensures_loop (fun turn said holds => ?_) fuel 0 said start
  refine (Talk.ensures_bind _ _).mpr ((polls turn said holds).mono ?_)
  rintro (error | ⟨held, value⟩) later settled
  · exact settled
  · cases held with
    | true => exact (Talk.ensures_pure _).mpr settled
    | false =>
      dsimp only at settled ⊢
      split at settled
      · rename_i passed
        simpa [passed] using settled
      · rename_i notPassed
        simpa [notPassed] using settled

theorem confined_waitFor {allowed : Saying → Prop}
    (polls : ∀ turn, Talk.Confined allowed (condition turn)) :
    Talk.Confined allowed (waitFor condition clock deadlineMs fuel) := by
  refine Talk.Confined.loop (fun turn => (polls turn).bind fun (held, value) => ?_) fuel 0
  dsimp only
  split_ifs
  · exact Talk.confined_pure _
  · exact Talk.confined_pure _
  · exact Talk.confined_pure _

theorem halts_waitFor (polls : ∀ turn, (condition turn).Halts) {last : Nat}
    (passed : clock.passed deadlineMs last = true) (enough : last < fuel) :
    (waitFor condition clock deadlineMs fuel).Halts := by
  refine Talk.halts_loop (fun turn => (polls turn).bind fun (held, value) => ?_) (fun said => ?_)
    fuel 0 (Nat.zero_le last) (by omega)
  · dsimp only
    split_ifs
    · exact Talk.halts_pure _
    · exact Talk.halts_pure _
    · exact Talk.halts_pure _
  · refine (Talk.ensures_bind _ _).mpr fun ended later _ => ?_
    rcases ended with error | ⟨held, value⟩
    · exact nofun
    · cases held with
      | true => simp
      | false => simp [passed]

theorem Clock.exists_passed (clock : Clock) (deadlineMs : Nat) :
    ∃ turn, clock.passed deadlineMs turn = true := by
  obtain ⟨turn, passed⟩ := clock.goesOn (clock.reading 0 + deadlineMs)
  exact ⟨turn, decide_eq_true passed⟩

end Waiting

end Twalk.Handover
