/-
This file models the Sensor's event handlers of `sensor/src/main.rs`: what a message, a
reaction or a presence that the homeserver delivers comes to, from the checks that skip it
to the envelope that one of the builders makes of it. The instants an envelope names are
written by the `time` crate, which refuses those outside its range, and a refusal there is a
panic of the handler.
-/

import Twalk.Library.Rfc3339
import Twalk.Normalize

namespace Twalk.Sensor

open Consent (Network)
open Cache (Consent)

/-! ### Instants -/

/-- The `time` crate's instant: nanoseconds from the epoch, within the years -9999 and 9999. -/
structure OffsetDateTime where
  nanos : Int
  inRange : -377705116800000000000 ≤ nanos ∧ nanos < 253402300800000000000

namespace OffsetDateTime

def fromUnixTimestampNanos (nanos : Int) : Option OffsetDateTime :=
  if inRange : -377705116800000000000 ≤ nanos ∧ nanos < 253402300800000000000 then
    some ⟨nanos, inRange⟩
  else none

/-- The well-known RFC 3339 format, which has no more than four digits for a year. -/
def format (instant : OffsetDateTime) : Option String :=
  if Rfc3339.Writable instant.nanos then some (Rfc3339.write instant.nanos) else none

end OffsetDateTime

/-- `rfc3339`, of the Sensor's clock in nanoseconds from the epoch; nothing where it panics. -/
def rfc3339 (time : Int) : Option String :=
  (OffsetDateTime.fromUnixTimestampNanos time).bind OffsetDateTime.format

/-- `rfc3339_ms`, of milliseconds from the epoch; nothing where it panics. -/
def rfc3339Ms (ms : Nat) : Option String :=
  (OffsetDateTime.fromUnixTimestampNanos (ms * 1000000)).bind OffsetDateTime.format

/-- An integer of the protocol, which JSON carries exactly. -/
structure UInt where
  value : Nat
  small : value < 0x20000000000000

/-- The instant a presence is received at, in milliseconds from the epoch. -/
def receiptTimestampMs (time : Int) : Nat :=
  if time < 0 then 0 else min (time / 1000000).toNat 0xffffffffffffffff

/-! ### What is delivered -/

/-- `m.relates_to`, as far as it is told apart. -/
inductive Relation where
  | reply (inReplyTo : String)
  | thread (root : String) (inReplyTo : Option String) (isFallingBack : Bool)
  | replacement (replaces : String)
  | other
deriving DecidableEq, Repr

def Relation.isReplacement : Relation → Bool
  | replacement _ => true
  | _ => false

def relationTargets : Option Relation → Option String × Option String
  | some (.reply inReplyTo) => (some inReplyTo, none)
  | some (.thread root inReplyTo isFallingBack) =>
    (if isFallingBack then none else inReplyTo, some root)
  | _ => (none, none)

/-- A message of a room: what it says, and what the Sensor fetches of its sender and of the message
it quotes. A message whose type has no shape in the contract has no attachments. -/
structure MessageEvent where
  eventId : String
  room : Room
  sender : UserId
  originServerTs : UInt
  relatesTo : Option Relation
  attachments : Option (List Attachment)
  body : String
  displayName : Option String
  fetched : Option TimelineMessage

structure ReactionEvent where
  eventId : String
  room : Room
  sender : UserId
  key : String
  target : String
  displayName : Option String
  fetched : Option TimelineMessage

structure PresenceEvent where
  sender : UserId
  presence : String
  lastActiveAgo : Option UInt
  displayName : Option String

inductive Delivered where
  | message (event : MessageEvent)
  | reaction (event : ReactionEvent)
  | presence (event : PresenceEvent)

namespace Delivered

def sender : Delivered → UserId
  | message event => event.sender
  | reaction event => event.sender
  | presence event => event.sender

def observed : Delivered → Observed
  | message event => .message event.room (event.relatesTo.any Relation.isReplacement)
      event.attachments.isSome
  | reaction event => .reaction event.room
  | presence event => .presence event.presence

end Delivered

/-- What a handler comes to. -/
inductive Handling where
  | skipped
  | built (envelope : Json)
  | panicked

/-! ### The handlers -/

def ghostNetworkIdentifier (network : Network) (localpart : String) : Option String := do
  let (lead, identifier) ← Text.splitOnce '_' localpart
  if fromBridgeId lead ≠ some network ∨ identifier = "" then none
  else if (network = .whatsapp ∨ network = .sms) ∧ identifier.toList.all Char.isDigit then
    some ("+" ++ identifier)
  else some identifier

def Presence.parse : String → Option Presence
  | "online" => some .online
  | "offline" => some .offline
  | "unavailable" => some .unavailable
  | _ => none

/-- What the Sensor holds when an event is delivered. -/
structure Watch where
  observer : Observer
  client : Client
  registry : Registry
  cache : Cache.ConsentCache

def Handling.ofInstants {Instants : Type} (instants : Option Instants) (build : Instants → Json) :
    Handling :=
  match instants with
  | some instants => .built (build instants)
  | none => .panicked

namespace Watch

variable (watch : Watch)

def ownMessage (event : MessageEvent) (owner : Cache.Owner) (place : Attribution)
    (producedAt networkTimestamp : String) : OutboundMessage :=
  let (replyTarget, threadRoot) := relationTargets event.relatesTo
  { matrixEventId := event.eventId
    matrixRoomId := event.room.id
    serverName := watch.observer.ownUser.serverName
    ownerMatrixId := owner.matrixId
    body := event.body
    network := place.network
    connection := place.connection
    replyTo := replyTarget.map fun parent =>
      ⟨parent, quotedMessage watch.observer watch.cache event.room place.connection event.fetched⟩
    threadRoot := threadRoot
    attachments := event.attachments.getD []
    producedAt := producedAt
    networkTimestamp := some networkTimestamp }

def contactMessage (event : MessageEvent) (place : Attribution)
    (producedAt networkTimestamp : String) : InboundMessage :=
  let consent := watch.cache.state event.sender.asStr place.connection
  let (replyTarget, threadRoot) := relationTargets event.relatesTo
  { matrixEventId := event.eventId
    matrixRoomId := event.room.id
    serverName := watch.observer.ownUser.serverName
    sender := event.sender.asStr
    body := event.body
    network := place.network
    connection := place.connection
    consent := consent
    displayName := event.displayName.getD event.sender.localpart
    networkIdentifier := ghostNetworkIdentifier place.network event.sender.localpart
    replyTo := replyTarget.map fun parent =>
      ⟨parent, if consent.reducesPublication then none
        else quotedMessage watch.observer watch.cache event.room place.connection event.fetched⟩
    threadRoot := threadRoot
    attachments := event.attachments.getD []
    producedAt := producedAt
    networkTimestamp := some networkTimestamp }

def ownerSending (sender : UserId) : Option Cache.Owner :=
  watch.observer.owner.filter fun owner => owner.isOwner sender.asStr

def handleMessage (now : Int) (event : MessageEvent) (place : Attribution) : Handling :=
  let instants := do
    let producedAt ← rfc3339 now
    let networkTimestamp ← rfc3339Ms event.originServerTs.value
    return (producedAt, networkTimestamp)
  match watch.ownerSending event.sender with
  | some owner => Handling.ofInstants instants fun (producedAt, networkTimestamp) =>
      buildOutboundMessageSent (watch.ownMessage event owner place producedAt networkTimestamp)
  | none => Handling.ofInstants instants fun (producedAt, networkTimestamp) =>
      buildMessageReceived (watch.contactMessage event place producedAt networkTimestamp)

def ownReaction (event : ReactionEvent) (owner : Cache.Owner) (place : Attribution)
    (producedAt : String) : OutboundReaction where
  matrixEventId := event.eventId
  matrixRoomId := event.room.id
  serverName := watch.observer.ownUser.serverName
  ownerMatrixId := owner.matrixId
  reaction := event.key
  targetEventId := event.target
  targetExcerpt :=
    quotedMessage watch.observer watch.cache event.room place.connection event.fetched
  network := place.network
  connection := place.connection
  producedAt := producedAt
  networkTimestamp := none

def contactReaction (event : ReactionEvent) (place : Attribution) (producedAt : String) :
    InboundReaction :=
  let consent := watch.cache.state event.sender.asStr place.connection
  { matrixEventId := event.eventId
    matrixRoomId := event.room.id
    serverName := watch.observer.ownUser.serverName
    reactor := event.sender.asStr
    reaction := event.key
    targetEventId := event.target
    targetExcerpt := if consent.reducesPublication then none
      else quotedMessage watch.observer watch.cache event.room place.connection event.fetched
    network := place.network
    connection := place.connection
    consent := consent
    displayName := event.displayName.getD event.sender.localpart
    networkIdentifier := ghostNetworkIdentifier place.network event.sender.localpart
    producedAt := producedAt
    networkTimestamp := none }

def handleReaction (now : Int) (event : ReactionEvent) (place : Attribution) : Handling :=
  match watch.ownerSending event.sender with
  | some owner => Handling.ofInstants (rfc3339 now) fun producedAt =>
      buildOutboundReactionAdded (watch.ownReaction event owner place producedAt)
  | none => Handling.ofInstants (rfc3339 now) fun producedAt =>
      buildReactionAdded (watch.contactReaction event place producedAt)

def contactPresence (event : PresenceEvent) (presence : Presence) (place : Attribution)
    (receiptTimestampMs : Nat) (producedAt : String) (lastActiveAt : Option String) :
    InboundPresence where
  matrixUserId := event.sender.asStr
  presence := presence
  serverName := watch.observer.ownUser.serverName
  matrixRoomId := place.room.id
  network := place.network
  connection := place.connection
  consent := watch.cache.state event.sender.asStr place.connection
  displayName := event.displayName.getD event.sender.localpart
  networkIdentifier := ghostNetworkIdentifier place.network event.sender.localpart
  producedAt := producedAt
  receiptTimestampMs := receiptTimestampMs
  lastActiveAt := lastActiveAt

def handlePresence (now : Int) (event : PresenceEvent) (place : Attribution) : Handling :=
  match Presence.parse event.presence with
  | none => .skipped
  | some presence =>
    let receipt := receiptTimestampMs now
    let instants := do
      let lastActiveAt ← match event.lastActiveAgo with
        | some ago => (rfc3339Ms (receipt - ago.value)).map some
        | none => some none
      let producedAt ← rfc3339Ms receipt
      return (producedAt, lastActiveAt)
    Handling.ofInstants instants fun (producedAt, lastActiveAt) =>
      buildPresenceUpdated
        (watch.contactPresence event presence place receipt producedAt lastActiveAt)

def handle (now : Int) (event : Delivered) : Handling :=
  match attribution watch.registry watch.observer watch.client event.sender event.observed with
  | none => .skipped
  | some place =>
    match event with
    | .message event => watch.handleMessage now event place
    | .reaction event => watch.handleReaction now event place
    | .presence event => watch.handlePresence now event place

end Watch

/-! ### What is written -/

theorem inRange_of_writable {time : Int} (writable : Rfc3339.Writable time) :
    -377705116800000000000 ≤ time ∧ time < 253402300800000000000 := by
  unfold Rfc3339.Writable Rfc3339.firstDay Rfc3339.lastDay at writable
  omega

theorem rfc3339_of_writable {time : Int} (writable : Rfc3339.Writable time) :
    rfc3339 time = some (Rfc3339.write time) := by
  unfold rfc3339 OffsetDateTime.fromUnixTimestampNanos
  rw [dif_pos (inRange_of_writable writable), Option.bind_some]
  exact if_pos writable

theorem rfc3339_isSome_iff (time : Int) : (rfc3339 time).isSome ↔ Rfc3339.Writable time := by
  constructor
  · intro isSome
    obtain ⟨text, isText⟩ := Option.isSome_iff_exists.mp isSome
    obtain ⟨instant, isInstant, formatted⟩ := Option.bind_eq_some_iff.mp isText
    unfold OffsetDateTime.fromUnixTimestampNanos at isInstant
    split at isInstant
    · cases isInstant
      unfold OffsetDateTime.format at formatted
      split at formatted
      · rename_i writable
        exact writable
      · cases formatted
    · cases isInstant
  · intro writable
    rw [rfc3339_of_writable writable]
    rfl

def lastMillisecond : Nat := 253402300799999

theorem rfc3339Ms_isSome_iff (ms : Nat) : (rfc3339Ms ms).isSome ↔ ms ≤ lastMillisecond := by
  rw [show rfc3339Ms ms = rfc3339 (ms * 1000000) from rfl, rfc3339_isSome_iff]
  unfold Rfc3339.Writable Rfc3339.firstDay Rfc3339.lastDay lastMillisecond
  omega

/-- The instants an event names, beside the one it is received at, and that one can be written. -/
def Tellable (now : Int) : Delivered → Prop
  | .message event =>
    Rfc3339.Writable now ∧ event.originServerTs.value ≤ lastMillisecond
  | .reaction _ => Rfc3339.Writable now
  | .presence _ => receiptTimestampMs now ≤ lastMillisecond

theorem ofInstants_ne_panicked_iff {Instants : Type} {instants : Option Instants}
    {build : Instants → Json} :
    Handling.ofInstants instants build ≠ .panicked ↔ instants.isSome := by
  cases instants <;> simp [Handling.ofInstants]

section Panics

variable (watch : Watch) (now : Int)

theorem handleMessage_ne_panicked_iff (event : MessageEvent) (place : Attribution) :
    watch.handleMessage now event place ≠ .panicked ↔ Tellable now (.message event) := by
  have both : (do
      let producedAt ← rfc3339 now
      let networkTimestamp ← rfc3339Ms event.originServerTs.value
      return (producedAt, networkTimestamp)).isSome ↔ Tellable now (.message event) := by
    change _ ↔ Rfc3339.Writable now ∧ event.originServerTs.value ≤ lastMillisecond
    rw [← rfc3339_isSome_iff now, ← rfc3339Ms_isSome_iff event.originServerTs.value]
    cases rfc3339 now <;> cases rfc3339Ms event.originServerTs.value <;> simp
  unfold Watch.handleMessage
  dsimp only
  split <;> rw [ofInstants_ne_panicked_iff, both]

theorem handleReaction_ne_panicked_iff (event : ReactionEvent) (place : Attribution) :
    watch.handleReaction now event place ≠ .panicked ↔ Tellable now (.reaction event) := by
  unfold Watch.handleReaction
  split <;> rw [ofInstants_ne_panicked_iff, rfc3339_isSome_iff] <;> rfl

theorem rfc3339Ms_sub_isSome {receipt : Nat} (isSome : (rfc3339Ms receipt).isSome) (ago : Nat) :
    (rfc3339Ms (receipt - ago)).isSome := by
  rw [rfc3339Ms_isSome_iff] at isSome ⊢
  omega

theorem handlePresence_ne_panicked_iff (event : PresenceEvent) (place : Attribution)
    (known : (Presence.parse event.presence).isSome) :
    watch.handlePresence now event place ≠ .panicked ↔ Tellable now (.presence event) := by
  obtain ⟨presence, isPresence⟩ := Option.isSome_iff_exists.mp known
  unfold Watch.handlePresence Tellable
  rw [isPresence]
  dsimp only
  rw [ofInstants_ne_panicked_iff, ← rfc3339Ms_isSome_iff]
  have whole := @rfc3339Ms_sub_isSome (receiptTimestampMs now)
  cases isReceipt : rfc3339Ms (receiptTimestampMs now) with
  | none => cases event.lastActiveAgo <;> simp
  | some producedAt =>
    cases isAgo : event.lastActiveAgo with
    | none => simp
    | some ago =>
      obtain ⟨lastActiveAt, isLast⟩ :=
        Option.isSome_iff_exists.mp (whole (by rw [isReceipt]; rfl) ago.value)
      simp [isLast]

theorem known_of_attribution {event : PresenceEvent} {place : Attribution}
    (attributed : attribution watch.registry watch.observer watch.client event.sender
      (.presence event.presence) = some place) : (Presence.parse event.presence).isSome := by
  obtain ⟨⟨room, network⟩, isSource, -⟩ := Option.bind_eq_some_iff.mp attributed
  unfold source at isSource
  dsimp only at isSource
  split at isSource
  · cases isSource
  · rename_i passes
    simp only [Bool.or_eq_true, not_or, Bool.not_eq_true', Bool.not_eq_false,
      List.contains_iff_mem, List.mem_cons, List.not_mem_nil, or_false] at passes
    rcases passes.1.2 with isOnline | isOffline | isUnavailable
    · rw [isOnline]
      rfl
    · rw [isOffline]
      rfl
    · rw [isUnavailable]
      rfl

/-- An event does not stop the Sensor exactly when it is skipped, or the instants it brings and the
Sensor's own can be written. -/
theorem handle_ne_panicked_iff (event : Delivered) :
    watch.handle now event ≠ .panicked ↔
      attribution watch.registry watch.observer watch.client event.sender event.observed = none ∨
        Tellable now event := by
  unfold Watch.handle
  cases attributed : attribution watch.registry watch.observer watch.client event.sender
    event.observed with
  | none => simp
  | some place =>
    have anyway : (some place = none ∨ Tellable now event) ↔ Tellable now event :=
      or_iff_right nofun
    rw [anyway]
    cases event with
    | message event => exact handleMessage_ne_panicked_iff watch now event place
    | reaction event => exact handleReaction_ne_panicked_iff watch now event place
    | presence event =>
      exact handlePresence_ne_panicked_iff watch now event place
        (known_of_attribution watch attributed)

end Panics

/-! ### An event from far ahead -/

namespace FarAhead

def room : Room := ⟨"!room:example.org", [], [], []⟩

/-- A Sensor that serves nobody yet, in one room of the Matrix network. -/
def watch : Watch where
  observer := ⟨⟨"sensor", "example.org"⟩, none, []⟩
  client := ⟨[room], List.nodup_singleton _⟩
  registry := .implicit
  cache := ⟨.empty, none, []⟩

def message : MessageEvent where
  eventId := "$event"
  room := room
  sender := ⟨"alice", "example.com"⟩
  originServerTs := ⟨0x1fffffffffffff, by decide⟩
  relatesTo := none
  attachments := some []
  body := "Good morning."
  displayName := none
  fetched := none

theorem attributed : attribution watch.registry watch.observer watch.client
    (Delivered.message message).sender (Delivered.message message).observed =
      some ⟨room, .matrix, "matrix"⟩ := rfl

/-- The handler of a message panics on it. -/
theorem panics : watch.handle 1790000000000000000 (.message message) = .panicked := by
  unfold Watch.handle
  rw [attributed]
  by_contra calm
  exact absurd ((handleMessage_ne_panicked_iff _ _ _ _).mp calm).2 (by decide)

end FarAhead

end Twalk.Sensor
