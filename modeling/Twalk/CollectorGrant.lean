/-
This file models how the collector keeps its grant: `Client::renew`, the token response and the
grant file of `collector/src/oidc.rs`, and the renewals of the run loop in `main.rs`. The refresh
token rotates, so the one that a success answer carries is the only one that stands afterwards. It
is written to the grant file before the access token is used; the file is replaced in one move. The
process can be stopped between any two steps.
-/

import Twalk.Library.Json

namespace Twalk.Oidc

/-! ### The token endpoint's answer -/

structure Grant where
  issuer : String
  clientId : String
  refreshToken : String
  obtainedAt : String
deriving DecidableEq, Repr

structure TokenResponse where
  accessToken : String
  refreshToken : Option String
  expiresIn : Option Nat
deriving DecidableEq, Repr

structure Status where
  code : Nat
  shown : String
deriving DecidableEq, Repr

inductive Reply where
  | unanswered
  | answered (status : Status) (body : Option Json)

def optionalText : Option Json → Option (Option String)
  | none | some .null => some none
  | some (.string value) => some (some value)
  | some _ => none

def optionalSeconds : Option Json → Option (Option Nat)
  | none | some .null => some none
  | some (.number value) =>
    if 0 ≤ value ∧ value < 0x10000000000000000 then some (some value.toNat) else none
  | some _ => none

def memberOf (body : Json) (name : String) (place : Nat) : Option Json :=
  match body with
  | .object _ => body.get? name
  | .array items => items[place]?
  | _ => none

/-- A list with more items than a token response has members. -/
def isTooLong : Json → Bool
  | .array items => 3 < items.length
  | _ => false

def readTokens (body : Json) : Option TokenResponse := do
  guard (isTooLong body = false)
  let accessToken ← (memberOf body "access_token" 0).bind Json.asStr
  let refreshToken ← optionalText (memberOf body "refresh_token" 1)
  let expiresIn ← optionalSeconds (memberOf body "expires_in" 2)
  return { accessToken, refreshToken, expiresIn }

/-- The SSO's `error` and `error_description`. -/
def refusalWords (body : Json) : String :=
  let code := (body.textAt ["error"]).getD "no error code"
  match body.textAt ["error_description"] with
  | some description => code ++ ": " ++ description
  | none => code

/-- What a renewal comes to before anything is written. The words of an answer that is no answer
go to the log alone. -/
inductive Verdict where
  | tokens (response : TokenResponse)
  | reconnectRequired (detail : String)
  | pendingOperator (detail : String)
  | unreachable
deriving DecidableEq, Repr

def refusalOf (status : Status) (body : Json) : Verdict :=
  let words := refusalWords body
  if (body.textAt ["error"]).getD "" ∈
      ["invalid_client", "unauthorized_client", "invalid_scope"] then
    .pendingOperator ("the SSO refused the client, not the grant (" ++ status.shown ++ "): " ++
      words ++ ". Check COLLECTOR_OIDC_CLIENT_ID, the secret in " ++
      "COLLECTOR_OIDC_CLIENT_SECRET_FILE and the client's configuration at the SSO; signing in " ++
      "again would not change this")
  else
    .reconnectRequired ("the SSO refused to renew the grant (" ++ status.shown ++ "): " ++ words)

def verdictOf : Reply → Verdict
  | .unanswered => .unreachable
  | .answered _ none => .unreachable
  | .answered status (some body) =>
    if status.code = 400 ∨ status.code = 401 then refusalOf status body
    else if 200 ≤ status.code ∧ status.code < 300 then
      match readTokens body with
      | some response => .tokens response
      | none => .unreachable
    else .unreachable

def rotated (grant : Grant) (response : TokenResponse) (now : String) : Grant :=
  { grant with
    refreshToken := (response.refreshToken.filter (· ≠ "")).getD grant.refreshToken
    obtainedAt := now }

/-- How long an access token lasts when the answer does not say. -/
def defaultLifetime : Nat := 300

/-- The last second that a moment of the system's clock can hold. -/
def lastSecond : Int := 0x7fffffffffffffff

/-! ### The process -/

/-- An access token in memory, with the refresh token that was issued with it, or presented when
none was. -/
structure Held where
  token : String
  expiresAt : Int
  issuedWith : String
deriving DecidableEq, Repr

/-- Where a renewal is: none is under way, the refresh token was presented, or the answer was read
and its grant is being written. -/
inductive Phase where
  | idle
  | asking (presented : String)
  | writing (grant : Grant) (response : TokenResponse)

structure Process where
  grant : Option Grant
  access : Option Held
  shared : Option Held
  phase : Phase

/-- The grant file, the process while it runs, and what has happened: the refresh tokens that
success answers issued, in order from the one the file began with, those the file has held, those
issued with the access tokens that were used, and whether a renewal panicked. -/
structure World where
  file : Option Grant
  process : Option Process
  issued : List String
  filed : List String
  used : List String
  panicked : Bool

def World.start (file : Option Grant) : World where
  file := file
  process := none
  issued := (file.map Grant.refreshToken).toList
  filed := (file.map Grant.refreshToken).toList
  used := []
  panicked := false

def issuedBy : Reply → Option String
  | .answered status (some body) =>
    if 200 ≤ status.code ∧ status.code < 300 then
      ((memberOf body "refresh_token" 1).bind Json.asStr).filter (· ≠ "")
    else none
  | _ => none

def Process.replied (process : Process) (grant : Grant) (reply : Reply) (now : String) : Process :=
  match verdictOf reply with
  | .tokens response => { process with phase := .writing (rotated grant response now) response }
  | .reconnectRequired _ | .pendingOperator _ => { process with phase := .idle, access := none }
  | .unreachable => { process with phase := .idle }

/-- What the loop does once the rotated grant is in the file. -/
def Process.renewed (process : Process) (grant : Grant) (response : TokenResponse) (now : Int) :
    Process :=
  { process with
    phase := .idle
    grant := some grant
    access := some {
      token := response.accessToken
      expiresAt := now + response.expiresIn.getD defaultLifetime
      issuedWith := grant.refreshToken } }

inductive Happening where
  /-- The process starts and reads the grant file. -/
  | starts
  /-- The process is killed, or an error of its own ends it. -/
  | stops
  /-- The loop presents the refresh token of its grant. -/
  | renews
  /-- The token endpoint answers, or the request fails. -/
  | replied (reply : Reply) (now : String)
  /-- The rotated grant is written: the move into place is made, or something before it fails,
  which ends the process. Then the lifetime is added to the clock. -/
  | wrote (moved : Bool) (now : Int)
  /-- The round hands its access token to the other tasks. -/
  | shares
  /-- A service is asked with the loop's access token, or by a task with the shared one. -/
  | uses
  | usesShared

def World.use (world : World) (held : Option Held) : World :=
  { world with used := world.used ++ (held.map Held.issuedWith).toList }

/-- One step, while the process runs. -/
def World.act (world : World) (process : Process) : Happening → World
  | .starts => world
  | .stops => { world with process := none }
  | .renews =>
    match process.phase, process.grant with
    | .idle, some grant =>
      { world with process := some { process with phase := .asking grant.refreshToken } }
    | _, _ => world
  | .replied reply now =>
    match process.phase, process.grant with
    | .asking _, some grant =>
      { world with
        process := some (process.replied grant reply now)
        issued := world.issued ++ (issuedBy reply).toList }
    | _, _ => world
  | .wrote moved now =>
    match process.phase with
    | .writing grant response =>
      if moved then
        let written := { world with
          file := some grant
          filed := world.filed ++ [grant.refreshToken] }
        if now + response.expiresIn.getD defaultLifetime ≤ lastSecond then
          { written with process := some (process.renewed grant response now) }
        else
          { written with process := none, panicked := true }
      else { world with process := none }
    | _ => world
  | .shares =>
    match process.phase with
    | .idle => { world with process := some { process with shared := process.access } }
    | _ => world
  | .uses =>
    match process.phase with
    | .idle => world.use process.access
    | _ => world
  | .usesShared => world.use process.shared

def step (world : World) (happening : Happening) : World :=
  match world.process, happening with
  | some process, _ => world.act process happening
  | none, .starts =>
    { world with
      process := some { grant := world.file, access := none, shared := none, phase := .idle } }
  | none, _ => world

end Twalk.Oidc
