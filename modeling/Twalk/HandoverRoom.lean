/-
This file models the handover room, `companion/src/lib/matrix/handover.ts`: the one encrypted room
that the owner's account and the Sensor share. It is found by its alias, created when the alias
names none, given the one power level the acknowledgement needs, and waited for until the Sensor
has joined it and the browser's crypto machine tracks a device of the Sensor's.
-/

import Twalk.ConsentScreen
import Twalk.Homeserver

namespace Twalk.Handover

/-! ### The room -/

def handoverRoomType : String := "fr.linagora.twalk.handover"

def handoverOfferType : String := "fr.linagora.twalk.owner_device.handover.from"

def handoverHeldType : String := "fr.linagora.twalk.owner_device.handover.held"

/-- One above the level a room's creator holds, so that nobody can post. -/
def sendLevelNobodyHas : Int := 101

def handoverAliasPrefix : String := "twalk-handover"

def handoverAliasLocalpart (ownerLocalpart : String) : String :=
  handoverAliasPrefix ++ "-" ++ ownerLocalpart

def handoverAlias (ownerUserId : String) : Option String :=
  match localpartOf ownerUserId, serverNameOf ownerUserId with
  | some localpart, some serverName =>
    some ("#" ++ handoverAliasLocalpart localpart ++ ":" ++ serverName)
  | _, _ => none

/-- The body of the request that creates the room. -/
def handoverRoomCreation (sensorUserId ownerLocalpart name : String) : Json :=
  .object [
    ("preset", .string "private_chat"),
    ("visibility", .string "private"),
    ("room_alias_name", .string (handoverAliasLocalpart ownerLocalpart)),
    ("name", .string name),
    ("invite", .array [.string sensorUserId]),
    ("is_direct", .bool false),
    ("creation_content", .object [("type", .string handoverRoomType)]),
    ("initial_state", .array [.object [
      ("type", .string "m.room.encryption"),
      ("state_key", .string ""),
      ("content", .object [("algorithm", .string "m.megolm.v1.aes-sha2")])]]),
    ("power_level_content_override", .object [
      ("events_default", .number sendLevelNobodyHas),
      ("invite", .number 100),
      ("kick", .number 100),
      ("redact", .number 100),
      ("events", .object [(handoverHeldType, .number 0)])])]

/-! ### What is asked for and what comes back -/

structure HandoverOptions where
  baseUrl : String
  accessToken : String
  userId : String
  sensorUserId : Option String
  roomName : String
  joinDeadlineMs : Nat
  trackingDeadlineMs : Nat
deriving Repr

/-- What the homeserver and the crypto machine answer, at each place that asks them. -/
structure RoomAnswers where
  found : Except String Response
  creation : Except String Response
  raced : Except String Response
  levels : Except String Response
  written : Except String Response
  rewritten : Except String Response
  membership : Except String Response
  invitation : Except String Response
  joins : Nat → Except String Response
  joining : Clock
  sync : Except String Unit
  counts : Nat → Except String Nat
  tracking : Clock

inductive HandoverOutcome where
  | ready (roomId : String) (sensorDevices : Nat) (created : Bool)
  | noSensor
  | sensorDidNotJoin (roomId : String)
  | sensorUntracked (roomId : String)
  | failed (detail : String)
deriving DecidableEq, Repr

/-- The account the room is handled as. -/
def HandoverOptions.call (options : HandoverOptions) : String → String → Option Json →
    Except String Response → Program Answer :=
  homeserverCalls options.baseUrl (some options.accessToken)

/-! ### The requests -/

def aliasPath (roomAlias : String) : String :=
  "/_matrix/client/v3/directory/room/" ++ encodeURIComponent roomAlias

def createRoomPath : String := "/_matrix/client/v3/createRoom"

def memberPath (room user : String) : String :=
  statePath room ("m.room.member/" ++ encodeURIComponent user)

def roomOf (answer : Answer) : Option String :=
  if answer.status = 200 then answer.document.textAt ["room_id"] else none

def resolveAlias (options : HandoverOptions) (roomAlias : String)
    (response : Except String Response) : Program (Option String) := do
  let answer ← options.call "GET" (aliasPath roomAlias) none response
  return roomOf answer

def membershipOf (answer : Answer) : Option String :=
  if answer.status = 200 then answer.document.textAt ["membership"] else none

def memberOf (options : HandoverOptions) (room user : String)
    (response : Except String Response) : Program (Option String) := do
  let answer ← options.call "GET" (memberPath room user) none response
  return membershipOf answer

def spread (document : Option Json) : List (String × Json) :=
  match document with
  | some (.object members) => members
  | some (.array items) => items.zipIdx.map fun item => (toString item.2, item.1)
  | _ => []

def withMember (name : String) (value : Json) : List (String × Json) → List (String × Json)
  | [] => [(name, value)]
  | (other, old) :: members =>
    if other = name then (other, value) :: members else (other, old) :: withMember name value members

/-- The members of the power levels' `events`. -/
def levelEvents (answer : Answer) : List (String × Json) :=
  spread (answer.document.get? "events")

/-- Whether the Sensor may already write the acknowledgement. -/
def isGranted (answer : Answer) : Bool :=
  match Json.lookup handoverHeldType (levelEvents answer) with
  | some (.number 0) => true
  | _ => false

def amendedLevels (answer : Answer) : Json :=
  .object (withMember "events"
    (.object (withMember handoverHeldType (.number 0) (levelEvents answer)))
    (spread (some answer.document)))

def grantTheAcknowledgement (options : HandoverOptions) (answers : RoomAnswers) (room : String) :
    Program (Option String) := do
  let path := statePath room "m.room.power_levels/"
  let current ← options.call "GET" path none answers.levels
  if current.status ≠ 200 then
    return some s!"{current.status} reading this room's power levels"
  else if isGranted current then
    return none
  else
    let written ← options.call "PUT" path (some (amendedLevels current)) answers.written
    if written.status = 200 then
      return none
    else
      -- Once more, after whatever the homeserver asked for.
      let rewritten ← options.call "PUT" path (some (amendedLevels current)) answers.rewritten
      if rewritten.status = 200 then
        return none
      else
        return some s!"{rewritten.status} granting the Sensor the one state event it may write"

mutual

def wordsOf : Json → String
  | .null => "null"
  | .bool value => toString value
  | .number value => toString value
  | .float digits => digits
  | .string value => value
  | .array items => ",".intercalate (itemWords items)
  | .object _ => "[object Object]"

def itemWords : List Json → List String
  | [] => []
  | item :: items => (match item with | .null => "" | _ => wordsOf item) :: itemWords items

end

def saysAlready (answer : Answer) : Bool :=
  match answer.document.get? "error" with
  | none | some .null => false
  | some error => decide ("already in the room".toList <:+: (wordsOf error).toList)

/-! ### The handover -/

def findRoom (options : HandoverOptions) (answers : RoomAnswers)
    (sensor roomAlias ownerLocalpart : String) : Program (HandoverOutcome ⊕ String × Bool) := do
  match ← resolveAlias options roomAlias answers.found with
  | some room => return .inr (room, false)
  | none =>
    let creation ← options.call "POST" createRoomPath
      (some (handoverRoomCreation sensor ownerLocalpart options.roomName)) answers.creation
    match roomOf creation with
    | some room => return .inr (room, true)
    | none =>
      if creation.document.textAt ["errcode"] = some "M_ROOM_IN_USE" then
        -- Another tab, or this browser a moment ago: the alias is the room's identity.
        match ← resolveAlias options roomAlias answers.raced with
        | some room => return .inr (room, false)
        | none =>
          return .inl (.failed
            s!"the alias {roomAlias} is taken by a room the homeserver will not name")
      else
        return .inl (.failed (refusalOf creation))

def shareRoom (options : HandoverOptions) (answers : RoomAnswers) (sensor room : String)
    (created : Bool) (fuel : Nat) : Program (HandoverOutcome ⊕ String × Bool) := do
  match ← grantTheAcknowledgement options answers room with
  | some words => return .inl (.failed words)
  | none =>
    let membership ← memberOf options room sensor answers.membership
    let refused ← (if membership = some "join" ∨ membership = some "invite" then
        return none
      else do
        let invitation ← options.call "POST"
          ("/_matrix/client/v3/rooms/" ++ encodeURIComponent room ++ "/invite")
          (some (.object [("user_id", .string sensor)])) answers.invitation
        return if invitation.status ≠ 200 ∧ saysAlready invitation = false then
          some (refusalOf invitation) else none : Program (Option String))
    match refused with
    | some words => return .inl (.failed words)
    | none =>
      let (joined, _) ← waitFor (fun turn => do
        let membership ← memberOf options room sensor (answers.joins turn)
        return (membership == some "join", ())) answers.joining options.joinDeadlineMs fuel
      if joined then
        return .inr (room, created)
      else
        return .inl (.sensorDidNotJoin room)

def prepareRoom (options : HandoverOptions) (answers : RoomAnswers)
    (sensor roomAlias ownerLocalpart : String) (fuel : Nat) :
    Program (HandoverOutcome ⊕ String × Bool) := do
  match ← findRoom options answers sensor roomAlias ownerLocalpart with
  | .inl outcome => return .inl outcome
  | .inr (room, created) => shareRoom options answers sensor room created fuel

def trackSensor (options : HandoverOptions) (answers : RoomAnswers) (sensor : String)
    (fuel : Nat) : Program Nat := do
  Talk.ask Saying.started answers.sync
  let (_, sensorDevices) ← waitFor (fun turn => do
    let devices ← Talk.ask (Saying.counted sensor) (answers.counts turn)
    return (decide (0 < devices), devices)) answers.tracking options.trackingDeadlineMs fuel
  return sensorDevices

/-- Makes sure the handover room exists, holds both accounts, and has made the Sensor a user this
browser's crypto machine tracks. -/
def ensureHandoverRoom (options : HandoverOptions) (answers : RoomAnswers) (fuel : Nat) :
    Program HandoverOutcome :=
  match options.sensorUserId with
  | none => return .noSensor
  | some sensor =>
    if Screen.trim sensor = "" then
      return .noSensor
    else
      match handoverAlias options.userId, localpartOf options.userId with
      | some roomAlias, some ownerLocalpart => do
        match ← (prepareRoom options answers sensor roomAlias ownerLocalpart fuel).attempt with
        | .error cause => return .failed cause
        | .ok (.inl outcome) => return outcome
        | .ok (.inr (room, created)) =>
          -- The sync is stopped however the wait for the devices ended.
          match ← ((trackSensor options answers sensor fuel).lastly .stopped).attempt with
          | .error cause => return .failed cause
          | .ok sensorDevices =>
            if 0 < sensorDevices then
              return .ready room sensorDevices created
            else
              return .sensorUntracked room
      | _, _ => return .failed s!"{options.userId} is not a Matrix user ID"

end Twalk.Handover
