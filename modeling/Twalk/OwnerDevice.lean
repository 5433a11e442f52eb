/-
This file models how the Sensor posts one approved reply: `sensor/src/outbound.rs`, the
rules of `sensor/src/owner_device.rs` about what a send reached and what a refusal means,
and the send path of `sensor/src/main.rs`. Two identities can post, the Sensor's own
account and a device of the owner's, and which of them does is decided anew at every
attempt. The homeserver and what the ruma library makes of an id are taken as they come.
-/

import Twalk.Library.Fallible
import Twalk.Library.Json

namespace Twalk.Sensor

/-! ### What a send reached, and what a refusal means -/

structure Device where
  userId : String
  deviceId : String
deriving DecidableEq, Repr

inductive Reach where
  | contact
  | nobody
deriving DecidableEq, Repr

/-- What a posted reply reached: nobody only when the Sensor's own account posted into a portal. -/
def reach (byTheOwnersDevice theRoomIsAPortal : Bool) : Reach :=
  match byTheOwnersDevice, theRoomIsAPortal with
  | true, _ => .contact
  | false, false => .contact
  | false, true => .nobody

inductive AfterRefusal where
  | retry
  | credentialGone
deriving DecidableEq, Repr

def afterRefusal : Option String → AfterRefusal
  | some "M_UNKNOWN_TOKEN" => .credentialGone
  | _ => .retry

/-- The same of a send, which says it of the owner's device only when that device sent. -/
def afterASendRefusal (errcode : Option String) (byTheOwnersDevice : Bool) : AfterRefusal :=
  if byTheOwnersDevice then afterRefusal errcode else .retry

inductive DeviceState where
  | present
  | credentialGone
  | notConfigured
deriving DecidableEq, Repr

def revokedRemedy : String :=
  "The homeserver no longer knows the device Twalk acts through: the owner revoked it, or an " ++
  "admin did. Nothing can be sent as the owner until another is held, so every reply to a " ++
  "bridged conversation is refused rather than posted to nobody. The owner can hand one over by " ++
  "onboarding again in the Companion, with nothing to restart (#228); an operator can replace " ++
  "SENSOR_OWNER_DEVICE_ACCESS_TOKEN by running docker-compose/provision-owner-device.sh and " ++
  "restarting the Sensor. This is not a homeserver that is unreachable — that answers " ++
  "differently and is retried."

/-! ### The approval -/

structure ApprovedReply where
  eventId : String
  roomId : String
  replyToEventId : Option String
  body : String
  format : String
  traceparent : Option String
deriving DecidableEq, Repr

/-- Whose an approval is: the Sensor's, or that of the component a connection names. -/
inductive Parsed where
  | ours (job : ApprovedReply)
  | anotherComponents (connection : String)
deriving DecidableEq, Repr

def namesARoom (event : Json) : Bool := (event.pointer ["data", "target", "room_id"]).isSome

def required {Value : Type} (missing : String) : Option Value → Except String Value
  | some value => .ok value
  | none => .error missing

def requiredStr (data : Json) (path : List String) (spelled : String) : Except String String :=
  required ("persona.reply.approved event has no string at data" ++ spelled) (data.textAt path)

def ApprovedReply.parse (event : Json) : Except String Parsed := do
  let eventId ← required "persona.reply.approved event has no id" (event.textAt ["id"])
  let data ← required "persona.reply.approved event has no data" (event.get? "data")
  match data.pointer ["target", "room_id"], data.textAt ["target", "connection"] with
  | none, some connection => return .anotherComponents connection
  | _, _ =>
    let roomId ← requiredStr data ["target", "room_id"] "/target/room_id"
    let body ← requiredStr data ["final", "body"] "/final/body"
    let format ← requiredStr data ["final", "format"] "/final/format"
    return .ours {
      eventId, roomId, body, format
      replyToEventId := data.textAt ["target", "reply_to_event_id"]
      traceparent := event.textAt ["traceparent"] }

theorem parse_ne_anotherComponents {event : Json} (aRoom : namesARoom event = true)
    (connection : String) : ApprovedReply.parse event ≠ .ok (.anotherComponents connection) := by
  intro parsed
  unfold ApprovedReply.parse at parsed
  obtain ⟨eventId, _, parsed⟩ := bind_eq_ok.mp parsed
  obtain ⟨data, isData, parsed⟩ := bind_eq_ok.mp parsed
  have isRoom : (data.pointer ["target", "room_id"]).isSome := by
    unfold namesARoom at aRoom
    rw [Json.pointer] at aRoom
    cases found : event.get? "data" with
    | none =>
      rw [found] at isData
      cases isData
    | some member =>
      rw [found] at isData aRoom
      cases isData
      exact aRoom
  obtain ⟨room, found⟩ := Option.isSome_iff_exists.mp isRoom
  rw [found] at parsed
  obtain ⟨roomId, _, parsed⟩ := bind_eq_ok.mp parsed
  obtain ⟨body, _, parsed⟩ := bind_eq_ok.mp parsed
  obtain ⟨format, _, parsed⟩ := bind_eq_ok.mp parsed
  cases parsed

def maxRetryBackoff : Nat := 30000

/-- The delay before a redelivery, in milliseconds: doubled with each, to a ceiling. -/
def retryDelay (base : Nat) (delivered : Int) : Nat :=
  min (base * min (Nat.pow 2 ((max delivered 1).toNat - 1)) 4294967295) maxRetryBackoff

/-! ### One attempt -/

/-- What may be acted as: the owner's device, one that was given and whose credential is gone, or
none. -/
inductive Acting where
  | ownersDevice (device : Device)
  | credentialGone
  | notConfigured
deriving DecidableEq, Repr

/-- How the homeserver meets a send: it posts it, or the send fails, with the error's code and text,
and then the message was taken or not. -/
inductive SendAnswer where
  | posted
  | failed (taken : Bool) (errcode : Option String) (error : String)
deriving DecidableEq, Repr

/-- What an attempt finds: the types of the room's state and whether they can be read, the devices
that have joined the room, and how the homeserver meets the send. -/
structure Surroundings where
  roomState : List String
  readable : Bool
  joined : List Device
  answer : SendAnswer
deriving DecidableEq, Repr

def Surroundings.marked (surroundings : Surroundings) : Bool :=
  surroundings.roomState.contains "m.bridge"

/-- Whether a room is taken for a portal: what cannot be read is one. -/
def Surroundings.theRoomIsAPortal (surroundings : Surroundings) : Bool :=
  if surroundings.readable then surroundings.marked else true

/-- Whether the homeserver takes the message of a send. -/
def Surroundings.taken (surroundings : Surroundings) : Bool :=
  match surroundings.answer with
  | .posted => true
  | .failed taken _ _ => taken

inductive PostError where
  | permanent (reason : String)
  | transient (reason : String)
  | credentialGone (reason : String)
deriving DecidableEq, Repr

structure Posted where
  reach : Reach
  postedAs : String
deriving DecidableEq, Repr

def malformedRequest : List String :=
  ["M_BAD_JSON", "M_NOT_JSON", "M_TOO_LARGE", "M_INVALID_PARAM"]

def classifySendError (errcode : Option String) (error : String) (byTheOwnersDevice : Bool) :
    PostError :=
  if afterASendRefusal errcode byTheOwnersDevice = .credentialGone then
    .credentialGone revokedRemedy
  else if errcode.any malformedRequest.contains then
    .permanent ("matrix send failed: " ++ error)
  else .transient ("matrix send failed: " ++ error)

structure Ruma where
  roomIdError : String → Option String
  eventIdError : String → Option String

def notJoinedByTheOwner : String :=
  "the owner's device has not joined this portal room: a mautrix bridge relays only the " ++
  "logged-in user's own account, so posting as the Sensor would return an event id and reach " ++
  "nobody. The device joins a portal when that bridge's own bot invites it — check " ++
  "SENSOR_BRIDGE_BOTS"

/-- Which device posts, and whether it is the owner's: the owner's when it has joined the room; in a
portal nobody else while a device is held or its credential is gone; and else the Sensor's own. -/
def chooseRoom (sensor : Device) (acting : Acting) (surroundings : Surroundings) :
    Except PostError (Device × Bool) :=
  let theSensors : Except PostError (Device × Bool) :=
    if surroundings.joined.contains sensor then .ok (sensor, false)
    else .error (.transient "the sensor has not joined the target room")
  match acting with
  | .ownersDevice device =>
    if surroundings.joined.contains device then .ok (device, true)
    else if surroundings.theRoomIsAPortal then .error (.transient notJoinedByTheOwner)
    else theSensors
  | .credentialGone =>
    if surroundings.theRoomIsAPortal then .error (.transient revokedRemedy) else theSensors
  | .notConfigured => theSensors

structure Attempted where
  sender : Option Device
  result : Except PostError Posted

def Attempted.failed (error : PostError) : Attempted := ⟨none, .error error⟩

def postApprovedReply (ruma : Ruma) (sensor : Device) (acting : Acting) (job : ApprovedReply)
    (surroundings : Surroundings) : Attempted :=
  if job.format ≠ "text/plain" then
    .failed (.permanent ("unsupported final format " ++ job.format))
  else match ruma.roomIdError job.roomId with
  | some error => .failed (.permanent ("invalid target room id: " ++ error))
  | none =>
    match chooseRoom sensor acting surroundings with
    | .error error => .failed error
    | .ok (device, byTheOwnersDevice) =>
      match job.replyToEventId.bind ruma.eventIdError with
      | some error => .failed (.permanent ("invalid reply target: " ++ error))
      | none =>
        match surroundings.answer with
        | .posted =>
          ⟨some device, .ok ⟨reach byTheOwnersDevice surroundings.theRoomIsAPortal,
            device.userId⟩⟩
        | .failed _ errcode error =>
          ⟨some device, .error (classifySendError errcode error byTheOwnersDevice)⟩

/-- The transaction a send is made in: the same at every attempt. -/
def transactionId (job : ApprovedReply) : String := "twalk-" ++ job.eventId

/-! ### One delivery -/

/-- What a delivery comes to: the approval is left to another component, posted, dead-lettered or
retried. -/
inductive Settlement where
  | untouched
  | posted (posted : Posted)
  | deadLettered (reason : String)
  | retried (delay : Nat)
deriving DecidableEq, Repr

structure Handled where
  sender : Option Device
  settlement : Settlement
  credentialGone : Bool
deriving DecidableEq, Repr

def reasonCap : Nat := 512

/-- The reason a dead-lettered copy carries. -/
def cappedReason (reason : String) : String := String.ofList (reason.toList.take reasonCap)

structure SendRetry where
  base : Nat
  maxAttempts : Int
deriving DecidableEq, Repr

def settle (retry : SendRetry) (delivered : Int) : Except PostError Posted → Settlement
  | .ok posted => .posted posted
  | .error (.permanent error) =>
    .deadLettered (cappedReason ("the reply can never be posted: " ++ error))
  | .error (.transient error) | .error (.credentialGone error) =>
    if retry.maxAttempts ≤ delivered then
      .deadLettered (cappedReason s!"the reply exhausted its {delivered} attempts: {error}")
    else .retried (retryDelay retry.base delivered)

/-- One message of `run_approved_reply_consumer`. -/
def handleReply (ruma : Ruma) (sensor : Device) (retry : SendRetry) (acting : Acting)
    (event : Json) (delivered : Int) (surroundings : Surroundings) : Handled :=
  match ApprovedReply.parse event with
  | .ok (.anotherComponents _) => ⟨none, .untouched, false⟩
  | .error error =>
    ⟨none, .deadLettered (cappedReason ("the event could not be read: " ++ error)), false⟩
  | .ok (.ours job) =>
    let attempted := postApprovedReply ruma sensor acting job surroundings
    ⟨attempted.sender, settle retry delivered attempted.result,
      match attempted.result with
      | .error (.credentialGone _) => true
      | _ => false⟩

/-! ### Who posts -/

section Posting

variable {ruma : Ruma} {sensor : Device} {acting : Acting} {surroundings : Surroundings}

/-- An approval a send can be made of. -/
structure Deliverable (ruma : Ruma) (job : ApprovedReply) : Prop where
  plain : job.format = "text/plain"
  room : ruma.roomIdError job.roomId = none
  replyTo : job.replyToEventId.bind ruma.eventIdError = none

/-- The devices a reply may be posted by: the owner's that can act and has joined the room, and the
Sensor's own where no device was given, or where no bridge stands before the contact and the owner's
has not joined. -/
inductive Speaks (sensor : Device) (acting : Acting) (surroundings : Surroundings) :
    Device → Prop
  | owners {device : Device} (acts : acting = .ownersDevice device)
      (joined : device ∈ surroundings.joined) : Speaks sensor acting surroundings device
  | sensors (joined : sensor ∈ surroundings.joined)
      (alone : acting = .notConfigured ∨ surroundings.theRoomIsAPortal = false ∧
        ∀ device, acting = .ownersDevice device → device ∉ surroundings.joined) :
      Speaks sensor acting surroundings sensor

variable {device : Device}

theorem speaks_of_chooseRoom {byTheOwnersDevice : Bool}
    (chosen : chooseRoom sensor acting surroundings = .ok (device, byTheOwnersDevice)) :
    Speaks sensor acting surroundings device ∧
      (byTheOwnersDevice = true → acting = .ownersDevice device) ∧
      (byTheOwnersDevice = false → acting = .notConfigured ∨
        surroundings.theRoomIsAPortal = false) := by
  have ownJoined : ∀ {found : Device × Bool},
      (if surroundings.joined.contains sensor then .ok (sensor, false)
        else .error (.transient "the sensor has not joined the target room") :
          Except PostError (Device × Bool)) = .ok found →
        sensor ∈ surroundings.joined ∧ found = (sensor, false) := by
    intro found isFound
    split at isFound
    · rename_i joined
      cases isFound
      exact ⟨by simpa using joined, rfl⟩
    · cases isFound
  unfold chooseRoom at chosen
  cases acting with
  | ownersDevice owners =>
    dsimp only at chosen
    split at chosen
    · rename_i joined
      cases chosen
      exact ⟨.owners rfl (by simpa using joined), fun _ => rfl, fun isFalse => (nomatch isFalse)⟩
    · rename_i notJoined
      split at chosen
      · cases chosen
      · rename_i notPortal
        obtain ⟨joined, isSensor⟩ := ownJoined chosen
        cases isSensor
        have notPortal := Bool.eq_false_iff.mpr notPortal
        refine ⟨.sensors joined (.inr ⟨notPortal, ?_⟩), fun isTrue => (nomatch isTrue),
          fun _ => .inr notPortal⟩
        intro device isOwners
        cases isOwners
        simpa using notJoined
  | credentialGone =>
    dsimp only at chosen
    split at chosen
    · cases chosen
    · rename_i notPortal
      obtain ⟨joined, isSensor⟩ := ownJoined chosen
      cases isSensor
      have notPortal := Bool.eq_false_iff.mpr notPortal
      exact ⟨.sensors joined (.inr ⟨notPortal, fun _ isOwners => (nomatch isOwners)⟩),
        fun isTrue => (nomatch isTrue), fun _ => .inr notPortal⟩
  | notConfigured =>
    obtain ⟨joined, isSensor⟩ := ownJoined chosen
    cases isSensor
    exact ⟨.sensors joined (.inl rfl), fun isTrue => (nomatch isTrue), fun _ => .inl rfl⟩

theorem chooseRoom_of_speaks (speaks : Speaks sensor acting surroundings device) :
    ∃ byTheOwnersDevice,
      chooseRoom sensor acting surroundings = .ok (device, byTheOwnersDevice) := by
  unfold chooseRoom
  cases speaks with
  | owners acts joined =>
    rw [acts]
    exact ⟨true, if_pos (by simpa using joined)⟩
  | sensors joined alone =>
    have ownJoined : (if surroundings.joined.contains sensor then .ok (sensor, false)
        else .error (.transient "the sensor has not joined the target room") :
          Except PostError (Device × Bool)) = .ok (sensor, false) :=
      if_pos (by simpa using joined)
    refine ⟨false, ?_⟩
    rcases alone with notConfigured | ⟨notPortal, notJoined⟩
    · rw [notConfigured]
      exact ownJoined
    · cases acting with
      | ownersDevice owners =>
        dsimp only
        rw [if_neg (by simpa using notJoined owners rfl), notPortal, if_neg Bool.false_ne_true]
        exact ownJoined
      | credentialGone =>
        dsimp only
        rw [notPortal, if_neg Bool.false_ne_true]
        exact ownJoined
      | notConfigured => exact ownJoined

theorem sender_postApprovedReply {job : ApprovedReply} :
    (postApprovedReply ruma sensor acting job surroundings).sender = some device ↔
      Deliverable ruma job ∧ Speaks sensor acting surroundings device := by
  unfold postApprovedReply
  constructor
  · intro isSender
    split at isSender
    · cases isSender
    · rename_i plain
      split at isSender
      · cases isSender
      · rename_i room
        split at isSender
        · cases isSender
        · rename_i chosen
          split at isSender
          · cases isSender
          · rename_i replyTo
            refine ⟨⟨not_not.mp plain, room, replyTo⟩, ?_⟩
            split at isSender <;> cases isSender <;> exact (speaks_of_chooseRoom chosen).1
  · rintro ⟨deliverable, speaks⟩
    obtain ⟨byTheOwnersDevice, chosen⟩ := chooseRoom_of_speaks speaks
    rw [if_neg (not_not.mpr deliverable.plain), deliverable.room, chosen]
    dsimp only
    rw [deliverable.replyTo]
    cases surroundings.answer <;> rfl

theorem result_postApprovedReply {job : ApprovedReply} {posted : Posted}
    (isPosted : (postApprovedReply ruma sensor acting job surroundings).result = .ok posted) :
    ∃ device byTheOwnersDevice,
      chooseRoom sensor acting surroundings = .ok (device, byTheOwnersDevice) ∧
      (postApprovedReply ruma sensor acting job surroundings).sender = some device ∧
      surroundings.answer = .posted ∧
      posted = ⟨reach byTheOwnersDevice surroundings.theRoomIsAPortal, device.userId⟩ := by
  have pieces : Deliverable ruma job ∧ ∃ device byTheOwnersDevice,
      chooseRoom sensor acting surroundings = .ok (device, byTheOwnersDevice) ∧
      surroundings.answer = .posted ∧
      posted = ⟨reach byTheOwnersDevice surroundings.theRoomIsAPortal, device.userId⟩ := by
    unfold postApprovedReply at isPosted
    split at isPosted
    · cases isPosted
    · rename_i plain
      split at isPosted
      · cases isPosted
      · rename_i room
        split at isPosted
        · cases isPosted
        · rename_i device byTheOwnersDevice chosen
          split at isPosted
          · cases isPosted
          · rename_i replyTo
            split at isPosted
            · rename_i answer
              cases isPosted
              exact ⟨⟨not_not.mp plain, room, replyTo⟩, device, byTheOwnersDevice, chosen, answer,
                rfl⟩
            · cases isPosted
  obtain ⟨deliverable, device, byTheOwnersDevice, chosen, answer, isPosted⟩ := pieces
  have speaks := (speaks_of_chooseRoom chosen).1
  exact ⟨device, byTheOwnersDevice, chosen, sender_postApprovedReply.mpr ⟨deliverable, speaks⟩,
    answer, isPosted⟩

end Posting

end Twalk.Sensor
