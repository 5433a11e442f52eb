/-
This file models the clerk's session on the Companion Gateway, `Gateway` of
`clerk/src/gateway.rs`: the device token in memory, the refresh token in the session file, and
the refresh that exchanges both under one lock, shared by every call made as the device. The
Gateway rotates the refresh token the moment it answers, so what is not written into the file
before the refresh returns is lost. The calls interleave freely; the file operations may fail.
-/

import Twalk.SessionFile
import Twalk.Library.Json
import Twalk.Library.System
import Mathlib.Logic.Function.Basic

namespace Twalk.Clerk

/-! ### What arrives from the Gateway -/

def deviceCookie : String := "twalk_device"

def refreshCookie : String := "twalk_refresh"

/-- The body of an answer. It may not be readable after the headers were; when it is, it is the
document it holds, if it holds one, and where a reader of the route's shape stops. -/
inductive Body where
  | unread (why : String)
  | text (document : Option Json) (stops : String)

structure Answer where
  status : Nat
  setCookie : List String
  body : Body

/-- What a request comes to. -/
inductive Sent where
  | unreachable (why : String)
  | answered (answer : Answer)

inductive GatewayError where
  | unreachable (why : String)
  | unauthenticated
  | malformed (status : Nat) (why : String)
  | session (why : String)
deriving DecidableEq, Repr

/-- Whether the value of a header can be read as text. -/
def isVisible (value : String) : Bool :=
  value.toList.all fun character =>
    character == '\t' || (32 ≤ character.toNat && character.toNat < 127)

def cookies (setCookie : List String) : List (String × String) :=
  (setCookie.filter isVisible).filterMap fun value =>
    ((Text.split ';' value).head?.bind (Text.splitOnce '=')).map fun pair =>
      (Text.trim pair.1, Text.trim pair.2)

def Answer.cookie (answer : Answer) (name : String) : Option String :=
  ((cookies answer.setCookie).find? fun pair => pair.1 == name && pair.2 != "").map Prod.snd

/-- The `error` code of a refusal. The last member of the name counts. -/
def errorCode (document : Option Json) : Option String :=
  match document with
  | some (.object members) =>
    ((Json.lookup "error" members.reverse).bind Json.asStr).filter fun code =>
      code != "" && code.utf8ByteSize ≤ 64 && code.toList.all fun character =>
        character.isLower || character.isDigit || character == '_'
  | _ => none

def fitsI64 (value : Int) : Bool := -9223372036854775808 ≤ value && value < 9223372036854775808

/-- What 64 bits keep of a sum or a difference. -/
def toI64 (value : Int) : Int := value.bmod 18446744073709551616

def seconds : Json → Option Int
  | .number value => if fitsI64 value then some value else none
  | _ => none

/-- `IssuedSession` as its derived reader reads it: the one member of the name, or a list of
nothing but its value. -/
def expiresIn (document : Json) : Option Int :=
  match document with
  | .object members =>
    match members.filter fun member => member.1 == "expires_in" with
    | [member] => seconds member.2
    | _ => none
  | .array [value] => seconds value
  | _ => none

/-! ### A refresh -/

/-- What a refresh that succeeded has read from its answer. -/
structure Issued where
  device : String
  rotated : String
  expiresIn : Int

/-- `refresh_locked` from the answer up to the write of the file. -/
def issuedBy (sent : Sent) : Except GatewayError Issued :=
  match sent with
  | .unreachable why => .error (.unreachable why)
  | .answered answer =>
    match answer.body with
    | .unread why =>
      .error (.unreachable ("reading the Companion Gateway's answer: " ++ why))
    | .text document stops =>
      if answer.status = 401 then .error .unauthenticated
      else if ¬ (200 ≤ answer.status ∧ answer.status < 300) then
        .error (.malformed answer.status (match errorCode document with
          | some code => "a refresh was answered with the error code " ++ code
          | none => "a refresh was answered with no error code"))
      else
        match answer.cookie deviceCookie, answer.cookie refreshCookie with
        | none, _ => .error (.malformed answer.status
            ("the answer to a refresh carried no " ++ deviceCookie ++ " Set-Cookie"))
        | some _, none => .error (.malformed answer.status
            ("the answer to a refresh carried no " ++ refreshCookie ++ " Set-Cookie"))
        | some device, some rotated =>
          match document.bind expiresIn with
          | none => .error (.malformed answer.status
              ("the answer to a refresh is not the shape that route gives: " ++ stops))
          | some lifetime =>
            if lifetime ≤ 0 then
              .error (.malformed answer.status
                ("the answer to a refresh names a device token lifetime of " ++
                  toString lifetime ++ " seconds"))
            else .ok ⟨device, rotated, lifetime⟩

def alreadyRotated (why : String) : GatewayError :=
  .session (why ++ " — the Companion Gateway had already rotated the refresh token, so the " ++
    "one the file holds is dead; sign the Buzz device in again")

structure DeviceToken where
  token : String
  expiresAtUnix : Int
  lifetimeSeconds : Int

def DeviceToken.isFresh (held : DeviceToken) (now : Int) : Bool :=
  decide (held.lifetimeSeconds.tdiv 5 ≤ toI64 (held.expiresAtUnix - now))

/-! ### The calls -/

/-- What a refresh is made for: the token of a request, the first one or the one after a refused
one, or the session itself, by the loop or after a refused request. -/
inductive Purpose where
  | token (again : Bool)
  | session (direct : Bool)
deriving DecidableEq, Repr

/-- Where a call is. It waits for the lock, has presented the refresh token, or has sent its own
request with a device token. -/
inductive Task where
  | idle
  | waiting (purpose : Purpose)
  | refreshing (presented : String) (purpose : Purpose)
  | requesting (token : String) (again : Bool)
deriving DecidableEq, Repr

/-- The tokens of one answer that carried a rotated refresh token. -/
structure Issuance where
  device : Option String
  refresh : String
deriving DecidableEq, Repr

/-- How a refresh returned, and why its write failed if it did. -/
structure Return where
  error : Option GatewayError
  unwritten : Option String
deriving DecidableEq, Repr

/-- The session file, which holds a text or cannot be read, the device token in memory, the lock
and the calls; and, for the record, what the Gateway issued, the refresh tokens it rotated away,
those the file has been given, the device tokens that requests were sent with, and the refresh
that has just returned. -/
structure Gateway (Caller : Type) where
  file : Except String String
  device : Option DeviceToken
  holder : Option Caller
  tasks : Caller → Task
  issued : List Issuance
  rotatedAway : List String
  written : List String
  used : List String
  returned : Option Return

/-- Something that happens: a call begins, or a refresh does; the lock comes to a call; the Gateway
answers a refresh, or a request. A file operation fails with a reason. -/
inductive Gateway.Happening (Caller : Type) where
  | calls (caller : Caller)
  | refreshes (caller : Caller)
  | enters (caller : Caller) (now : Int) (unreadable : Option String)
  | refreshed (caller : Caller) (sent : Sent) (now : Int) (unreadable unwritten : Option String)
  | answered (caller : Caller) (status : Option Nat)

namespace Gateway

variable {Caller : Type} [DecidableEq Caller] (path : String)

/-- A clerk that has just started, with the file as it is. -/
def initial (file : Except String String) : Gateway Caller :=
  ⟨file, none, none, fun _ => .idle, [], [], [], [], none⟩

variable (gateway : Gateway Caller)

/-- What the file holds, unless it cannot be read at the moment. -/
def contents (unreadable : Option String) : Except String String :=
  match unreadable with
  | some why => .error why
  | none => gateway.file

def read (unreadable : Option String) : Except GatewayError String :=
  match gateway.contents unreadable with
  | .error why => .error (.session ("reading " ++ path ++ ": " ++ why))
  | .ok contents =>
    match SessionFile.read contents with
    | some token => .ok token
    | none => .error (.session (path ++ " holds no " ++ sessionKey ++ "=<token> line: the Buzz " ++
        "device was never signed in, or the file was emptied; run provision-clerk-device.sh"))

/-- A call goes on. -/
def become (caller : Caller) (task : Task) : Gateway Caller :=
  { gateway with tasks := Function.update gateway.tasks caller task }

/-- The lock is let go, and the refresh has returned. -/
def returns (caller : Caller) (task : Task) (how : Return) : Gateway Caller :=
  { gateway.become caller task with
    holder := none
    returned := some how }

def uses (caller : Caller) (token : String) (again : Bool) : Gateway Caller :=
  { gateway.become caller (.requesting token again) with used := token :: gateway.used }

/-- `refresh_locked` up to its request. -/
def begins (caller : Caller) (purpose : Purpose) (unreadable : Option String) : Gateway Caller :=
  let emptied := { gateway with device := none }
  match gateway.read path unreadable with
  | .error error => emptied.returns caller .idle ⟨some error, none⟩
  | .ok token =>
    { emptied.become caller (.refreshing token purpose) with holder := some caller }

/-- The token in memory, when it is worth sending. -/
def fresh (now : Int) : Option DeviceToken := gateway.device.filter fun held => held.isFresh now

/-- A call that waited for the lock has it: `device_token`, or `refresh`. -/
def enters (caller : Caller) (now : Int) (unreadable : Option String) : Gateway Caller :=
  match gateway.holder, gateway.tasks caller with
  | none, .waiting (.token again) =>
    match gateway.fresh now with
    | some held => gateway.uses caller held.token again
    | none => gateway.begins path caller (.token again) unreadable
  | none, .waiting (.session direct) => gateway.begins path caller (.session direct) unreadable
  | _, _ => gateway

def issuance (sent : Sent) : Option Issuance :=
  match sent with
  | .unreachable _ => none
  | .answered answer =>
    (answer.cookie refreshCookie).map fun rotated => ⟨answer.cookie deviceCookie, rotated⟩

def rotates (presented : String) (sent : Sent) : Gateway Caller :=
  match issuance sent with
  | none => gateway
  | some issuance =>
    { gateway with
      issued := gateway.issued ++ [issuance]
      rotatedAway := presented :: gateway.rotatedAway }

def keeps (issued : Issued) (now : Int) (unreadable : Option String) : Gateway Caller :=
  { gateway with
    file := .ok (SessionFile.written (gateway.contents unreadable).toOption issued.rotated)
    device := some ⟨issued.device, toI64 (now + issued.expiresIn), issued.expiresIn⟩
    written := issued.rotated :: gateway.written }

/-- What follows a refresh that succeeded. -/
def proceeds (caller : Caller) (token : String) : Purpose → Gateway Caller
  | .token again => (gateway.returns caller .idle ⟨none, none⟩).uses caller token again
  | .session true => gateway.returns caller .idle ⟨none, none⟩
  | .session false => gateway.returns caller (.waiting (.token true)) ⟨none, none⟩

/-- `refresh_locked` from the answer on: the file first, and then the device token. -/
def refreshed (caller : Caller) (sent : Sent) (now : Int) (unreadable unwritten : Option String) :
    Gateway Caller :=
  match gateway.tasks caller with
  | .refreshing presented purpose =>
    let rotated := gateway.rotates presented sent
    match issuedBy sent, unwritten with
    | .error error, _ => rotated.returns caller .idle ⟨some error, none⟩
    | .ok _, some why => rotated.returns caller .idle ⟨some (alreadyRotated why), some why⟩
    | .ok issued, none =>
      (rotated.keeps issued now unreadable).proceeds caller issued.device purpose
  | _ => gateway

/-- `as_device` from the answer on: the first refused request is followed by a refresh. -/
def answered (caller : Caller) (status : Option Nat) : Gateway Caller :=
  match gateway.tasks caller with
  | .requesting _ again =>
    if status = some 401 ∧ again = false then gateway.become caller (.waiting (.session false))
    else gateway.become caller .idle
  | _ => gateway

def step (gateway : Gateway Caller) (happening : Happening Caller) : Gateway Caller :=
  let gateway := { gateway with returned := none }
  match happening with
  | .calls caller =>
    if gateway.tasks caller = .idle then gateway.become caller (.waiting (.token false))
    else gateway
  | .refreshes caller =>
    if gateway.tasks caller = .idle then gateway.become caller (.waiting (.session true))
    else gateway
  | .enters caller now unreadable => gateway.enters path caller now unreadable
  | .refreshed caller sent now unreadable unwritten =>
    gateway.refreshed caller sent now unreadable unwritten
  | .answered caller status => gateway.answered caller status

end Gateway

end Twalk.Clerk
