/-
This file models the session store, after `companion-gateway/src/session.rs` and
`companion-gateway/src/matrix_openid.rs`: how an OpenID token is resolved and
remembered, how a device is issued its two tokens, and how they are checked,
rotated and dropped. An operation is given the clock, the values the system's
random source mints for it and what the homeserver answers. Of the store only the
refusals of its keys and unique indexes are modelled, not a failing disk.
-/

import Twalk.Library.Sha256
import Twalk.Library.Text

namespace Twalk.Sessions

/-! ### Who signs in -/

structure OpenIdToken where
  accessToken : String
  matrixServerName : Option String

/-- Why a token did not resolve to an identity. -/
inductive Refusal where
  | foreignHomeserver (claimed : String)
  | tokenRejected
  | foreignSubject (subject : String)
  | malformedSubject (subject : String)
  | unverifiable (detail : String)
deriving DecidableEq

/-- The server name of a Matrix ID, and nothing for a text that is not one. -/
def domainOf (userId : String) : Option String :=
  match userId.toList with
  | '@' :: rest =>
    match rest.dropWhile (· != ':') with
    | ':' :: domain =>
      if rest.takeWhile (· != ':') = [] ∨ domain = [] then none else some (String.ofList domain)
    | _ => none
  | _ => none

/-- The Matrix ID that minted a token, as the homeserver answers it and after the check of its
domain. -/
def resolve (serverName : String) (token : OpenIdToken) (userinfo : Except Refusal String) :
    Except Refusal String :=
  if token.matrixServerName.all (· == serverName) then
    userinfo.bind fun subject =>
      match domainOf subject with
      | none => .error (.malformedSubject subject)
      | some domain =>
        if domain ≠ serverName then .error (.foreignSubject subject) else .ok subject
  else .error (.foreignHomeserver (token.matrixServerName.getD ""))

/-! ### The store -/

structure Device where
  id : String
  name : String
  createdUnixSeconds : UInt64
  lastSeenUnixSeconds : UInt64
  revokedUnixSeconds : Option UInt64
deriving DecidableEq

/-- A row of the device list. Moments are stored as signed integers. -/
structure DeviceRow where
  id : String
  name : String
  createdUnixSeconds : Int64
  lastSeenUnixSeconds : Int64
  revokedUnixSeconds : Option Int64
  deviceTokenSha256 : Option String
  deviceTokenExpiresUnixSeconds : Int64
  refreshTokenSha256 : Option String
  refreshTokenExpiresUnixSeconds : Int64
deriving DecidableEq

structure Store where
  devices : List DeviceRow
  openidTokensAccepted : List (String × Int64)
deriving DecidableEq

def Store.empty : Store where
  devices := []
  openidTokensAccepted := []

/-- A moment as the store keeps it. -/
def seconds (unixSeconds : UInt64) : Int64 := unixSeconds.toInt64

/-- What the store keeps instead of a token. -/
def digest (token : String) : String := sha256Hex token

def deviceFromRow (row : DeviceRow) : Device where
  id := row.id
  name := row.name
  createdUnixSeconds := row.createdUnixSeconds.toUInt64
  lastSeenUnixSeconds := row.lastSeenUnixSeconds.toUInt64
  revokedUnixSeconds := row.revokedUnixSeconds.map Int64.toUInt64

/-- Whether a row may stand beside another one, by the key and the unique indexes of the list. -/
def DeviceRow.besides (row other : DeviceRow) : Bool :=
  row.id != other.id &&
    (row.deviceTokenSha256.isNone || row.deviceTokenSha256 != other.deviceTokenSha256) &&
    (row.refreshTokenSha256.isNone || row.refreshTokenSha256 != other.refreshTokenSha256)

/-! ### Signing in -/

structure Config where
  owner : String
  serverName : String
  deviceTokenTtlSeconds : UInt64
  refreshTokenTtlSeconds : UInt64

structure Issued where
  device : Device
  deviceToken : String
  deviceTokenTtlSeconds : UInt64
  refreshToken : String
  refreshTokenTtlSeconds : UInt64
deriving DecidableEq

inductive SignInRefusal where
  | unresolved (refusal : Refusal)
  | notTheOwner (subject : String)
  | replayed
  | store (context : String)
deriving DecidableEq

def replayLedgerRetentionSeconds : UInt64 := 24 * 60 * 60

def maxDeviceName : Nat := 64

def unnamedDevice : String := "Companion"

def isControl (character : Char) : Bool :=
  character.toNat < 0x20 || (0x7f ≤ character.toNat && character.toNat ≤ 0x9f)

def sanitizeDeviceName (name : Option String) : String :=
  let cleaned := Text.trim (String.ofList ((name.getD "").toList.filter (!isControl ·)))
  if cleaned.isEmpty then unnamedDevice else String.ofList (cleaned.toList.take maxDeviceName)

def saturatingSub (minuend subtrahend : UInt64) : UInt64 :=
  if minuend < subtrahend then 0 else minuend - subtrahend

def rememberToken (store : Store) (accessToken : String) (now : UInt64) :
    Store × Except SignInRefusal Unit :=
  let kept := store.openidTokensAccepted.filter fun accepted =>
    !decide (accepted.2 < seconds (saturatingSub now replayLedgerRetentionSeconds))
  if kept.any fun accepted => accepted.1 == digest accessToken then
    ({ store with openidTokensAccepted := kept }, .error .replayed)
  else
    ({ store with openidTokensAccepted := kept ++ [(digest accessToken, seconds now)] }, .ok ())

/-- The random values that one sign-in mints. -/
structure Minted where
  deviceId : String
  deviceToken : String
  refreshToken : String

def mintedRow (config : Config) (deviceName : Option String) (now : UInt64) (minted : Minted) :
    DeviceRow where
  id := minted.deviceId
  name := sanitizeDeviceName deviceName
  createdUnixSeconds := seconds now
  lastSeenUnixSeconds := seconds now
  revokedUnixSeconds := none
  deviceTokenSha256 := some (digest minted.deviceToken)
  deviceTokenExpiresUnixSeconds := seconds (now + config.deviceTokenTtlSeconds)
  refreshTokenSha256 := some (digest minted.refreshToken)
  refreshTokenExpiresUnixSeconds := seconds (now + config.refreshTokenTtlSeconds)

def issue (config : Config) (store : Store) (deviceName : Option String) (now : UInt64)
    (minted : Minted) : Store × Except SignInRefusal Issued :=
  let row := mintedRow config deviceName now minted
  if store.devices.all fun other => row.besides other then
    ({ store with devices := store.devices ++ [row] },
      .ok
        { device :=
            { id := minted.deviceId
              name := sanitizeDeviceName deviceName
              createdUnixSeconds := now
              lastSeenUnixSeconds := now
              revokedUnixSeconds := none }
          deviceToken := minted.deviceToken
          deviceTokenTtlSeconds := config.deviceTokenTtlSeconds
          refreshToken := minted.refreshToken
          refreshTokenTtlSeconds := config.refreshTokenTtlSeconds })
  else (store, .error (.store "failed to record a new device"))

/-- Verifies an OpenID token, checks it against the owner, refuses a replay, and issues the
device's own tokens. -/
def signIn (config : Config) (store : Store) (token : OpenIdToken) (deviceName : Option String)
    (userinfo : Except Refusal String) (now : UInt64) (minted : Minted) :
    Store × Except SignInRefusal Issued :=
  match resolve config.serverName token userinfo with
  | .error refusal => (store, .error (.unresolved refusal))
  | .ok subject =>
    if subject ≠ config.owner then (store, .error (.notTheOwner subject))
    else
      match rememberToken store token.accessToken now with
      | (remembered, .error refusal) => (remembered, .error refusal)
      | (remembered, .ok ()) => issue config remembered deviceName now minted

/-! ### Using the tokens -/

def DeviceRow.authenticates (row : DeviceRow) (deviceToken : String) (now : UInt64) : Bool :=
  row.deviceTokenSha256 == some (digest deviceToken) && row.revokedUnixSeconds.isNone &&
    decide (seconds now < row.deviceTokenExpiresUnixSeconds)

def DeviceRow.seen (row : DeviceRow) (now : UInt64) : DeviceRow :=
  { row with lastSeenUnixSeconds := seconds now }

def authenticate (store : Store) (deviceToken : String) (now : UInt64) : Store × Option Device :=
  match store.devices.find? (·.authenticates deviceToken now) with
  | none => (store, none)
  | some row =>
    ({ store with
        devices := store.devices.map fun other =>
          if other.id = row.id then other.seen now else other },
      some { deviceFromRow row with lastSeenUnixSeconds := now })

def DeviceRow.refreshes (row : DeviceRow) (refreshToken : String) (now : UInt64) : Bool :=
  row.refreshTokenSha256 == some (digest refreshToken) && row.revokedUnixSeconds.isNone &&
    decide (seconds now < row.refreshTokenExpiresUnixSeconds)

def DeviceRow.rotate (row : DeviceRow) (config : Config) (now : UInt64)
    (deviceToken nextRefreshToken : String) : DeviceRow :=
  { row with
    deviceTokenSha256 := some (digest deviceToken)
    deviceTokenExpiresUnixSeconds := seconds (now + config.deviceTokenTtlSeconds)
    refreshTokenSha256 := some (digest nextRefreshToken)
    refreshTokenExpiresUnixSeconds := seconds (now + config.refreshTokenTtlSeconds)
    lastSeenUnixSeconds := seconds now }

def refresh (config : Config) (store : Store) (refreshToken : String) (now : UInt64)
    (deviceToken nextRefreshToken : String) : Store × Option Issued :=
  match store.devices.find? (·.refreshes refreshToken now) with
  | none => (store, none)
  | some row =>
    let rotated := row.rotate config now deviceToken nextRefreshToken
    if store.devices.all fun other => other.id == row.id || rotated.besides other then
      ({ store with
          devices := store.devices.map fun other => if other.id = row.id then rotated else other },
        some
          { device := deviceFromRow rotated
            deviceToken := deviceToken
            deviceTokenTtlSeconds := config.deviceTokenTtlSeconds
            refreshToken := nextRefreshToken
            refreshTokenTtlSeconds := config.refreshTokenTtlSeconds })
    else (store, none)

def DeviceRow.revoke (row : DeviceRow) (now : UInt64) : DeviceRow :=
  { row with
    revokedUnixSeconds := some (seconds now)
    deviceTokenSha256 := none
    refreshTokenSha256 := none }

def revoke (store : Store) (deviceId : String) (now : UInt64) : Store × Bool :=
  let revokes := fun row : DeviceRow => row.id == deviceId && row.revokedUnixSeconds.isNone
  ({ store with
      devices := store.devices.map fun row => if revokes row then row.revoke now else row },
    store.devices.any revokes)

end Twalk.Sessions
