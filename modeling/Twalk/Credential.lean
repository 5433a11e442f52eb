/-
This file models the handover of the device's credential, `companion/src/lib/matrix/credential.ts`:
the device Twalk acts through is created by a login in the browser, after the offer that tells the
Sensor whom to trust, and its access token travels to the Sensor's devices. Only the Sensor's own
acknowledgement, a state event of the handover room, counts as success.
-/

import Twalk.HandoverRoom

namespace Twalk.Handover

/-! ### What is asked for and what comes back -/

/-- The device name the user will see in their own device list. -/
def actingDeviceName : String := "twalk"

def handoverEventType : String := "fr.linagora.twalk.owner_device.handover"

structure CredentialOptions where
  baseUrl : String
  userId : String
  password : String
  accessToken : String
  sensorUserId : String
  roomId : String
  ackDeadlineMs : Nat
deriving Repr

/-- What a login answers with. -/
structure DeviceCredential where
  userId : String
  deviceId : String
  accessToken : String
deriving DecidableEq, Repr

def DeviceCredential.content (credential : DeviceCredential) : Json :=
  .object [("user_id", .string credential.userId), ("device_id", .string credential.deviceId),
    ("access_token", .string credential.accessToken)]

def deviceOf (answer : Answer) : Option String :=
  if answer.status = 200 then asString (answer.document.get? "device_id") else none

def credentialOf (login : Answer) : Option DeviceCredential :=
  if login.status = 200 then
    match asString (login.document.get? "user_id"), asString (login.document.get? "device_id"),
        asString (login.document.get? "access_token") with
    | some userId, some deviceId, some accessToken => some { userId, deviceId, accessToken }
    | _, _, _ => none
  else none

/-- What comes of the login: the device the homeserver made for it, and what reached the browser. A
homeserver that names a device in an answer of success has made that device. -/
structure Login where
  minted : Option String
  response : Except String Response
  honest : ∀ answer, response.map answerOf = .ok answer → ∀ device, deviceOf answer = some device →
    minted = some device

/-- What the browser's own device, the crypto machine and the homeserver answer, at each place that
asks them. -/
structure CredentialAnswers where
  deviceId : Option String
  sensorDevices : Except String (List String)
  offered : Except String Response
  login : Login
  reached : Except String Nat
  polls : Nat → Except String Response
  clock : Clock

inductive CredentialOutcome where
  | held (deviceId : String)
  | notAcknowledged (deviceId : String)
  | sensorUntracked
  | notEncryptedTo (missing : Int) (deviceId : String)
  | failed (detail : String)
deriving DecidableEq, Repr

/-! ### The requests -/

def CredentialOptions.asTheOwner (options : CredentialOptions) : String → String → Option Json →
    Except String Response → Program Answer :=
  homeserverCalls options.baseUrl (some options.accessToken)

def CredentialOptions.withThePassword (options : CredentialOptions) : String → String →
    Option Json → Except String Response → Program Answer :=
  homeserverCalls options.baseUrl none

def loginPath : String := "/_matrix/client/v3/login"

def loginBody (localpart password : String) : Json :=
  .object [
    ("type", .string "m.login.password"),
    ("identifier", .object [("type", .string "m.id.user"), ("user", .string localpart)]),
    ("password", .string password),
    ("initial_device_display_name", .string actingDeviceName)]

def offerPath (room : String) : String := statePath room (handoverOfferType ++ "/")

def heldPath (room : String) : String := statePath room (handoverHeldType ++ "/")

/-- Whether the room says that the Sensor holds a device. -/
def acknowledges (device : String) (held : Answer) : Bool :=
  held.status == 200 && asString (held.document.get? "device_id") == some device

/-! ### The handover -/

/-- The part that leads to the credential being sent: the device that was minted and how many of
the Sensor's devices the encrypted batch did not reach. -/
def sendTheCredential (options : CredentialOptions) (answers : CredentialAnswers)
    (offeringDevice localpart : String) :
    Program (CredentialOutcome ⊕ String × Int) := do
  let sensorDevices ← Talk.ask (Saying.knew options.sensorUserId) answers.sensorDevices
  if sensorDevices.length = 0 then
    return .inl .sensorUntracked
  else
    let offered ← options.asTheOwner "PUT" (offerPath options.roomId)
      (some (.object [("device_id", .string offeringDevice)])) answers.offered
    if offered.status ≠ 200 then
      return .inl (.failed (refusalOf offered))
    else
      let login ← options.withThePassword "POST" loginPath
        (some (loginBody localpart options.password)) answers.login.response
      match credentialOf login with
      | none => return .inl (.failed (refusalOf login))
      | some credential =>
        let reached ← Talk.ask (Saying.sent options.sensorUserId sensorDevices handoverEventType
          credential.content) answers.reached
        return .inr (credential.deviceId, sensorDevices.length - reached)

def readHeld (options : CredentialOptions) (answers : CredentialAnswers) (created : String)
    (turn : Nat) : Program (Bool × Unit) := do
  let held ← options.asTheOwner "GET" (heldPath options.roomId) none (answers.polls turn)
  return (acknowledges created held, ())

/-- What follows the part whose errors are caught: the wait for the acknowledgement, whose errors
are not. -/
def awaitTheAcknowledgement (options : CredentialOptions) (answers : CredentialAnswers)
    (fuel : Nat) : Except String (CredentialOutcome ⊕ String × Int) → Program CredentialOutcome
  | .error cause => return .failed cause
  | .ok (.inl outcome) => return outcome
  | .ok (.inr (created, missing)) => do
    let (acknowledged, _) ←
      waitFor (readHeld options answers created) answers.clock options.ackDeadlineMs fuel
    if acknowledged then
      return .held created
    else if 0 < missing then
      return .notEncryptedTo missing created
    else
      return .notAcknowledged created

/-- Creates the device, hands its credential to the Sensor, and answers what the Sensor said about
it. -/
def handOverTheDevice (options : CredentialOptions) (answers : CredentialAnswers) (fuel : Nat) :
    Program CredentialOutcome :=
  match answers.deviceId.filter (· ≠ "") with
  | none => return .failed "this browser has no device of its own yet"
  | some offeringDevice =>
    match localpartOf options.userId with
    | none => return .failed s!"{options.userId} is not a Matrix user ID"
    | some localpart => do
      let sent ← (sendTheCredential options answers offeringDevice localpart).attempt
      awaitTheAcknowledgement options answers fuel sent

end Twalk.Handover
