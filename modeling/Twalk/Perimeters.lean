/-
This file models what the Sensor attributes an observed event to: its network, by
`sensor/src/network.rs`, and its connection, by `sensor/src/connection.rs` over the
registry the Gateway hands over with its snapshot. The network comes from the first
marker of the room that names a known one, the bot from the first marker that names
any, and a registered bot decides before the kind is looked at; so an event's
connection is of the event's own network exactly when these agree.
-/

import Twalk.ConnectionsConfig
import Twalk.ConsentWire

namespace Twalk.Sensor

open Consent (Network)

/-! ### Networks -/

def fromBridgeId : String → Option Network
  | "whatsapp" => some .whatsapp
  | "telegram" => some .telegram
  | "signal" => some .signal
  | "discord" => some .discord
  | "sms" => some .sms
  | "gmessages" => some .sms
  | "gmessages-sms" => some .sms
  | "gmessages-rcs" => some .sms
  | "discordgo" => some .discord
  | _ => none

def fromGhostLocalpart (localpart : String) : Option Network :=
  (Text.splitOnce '_' localpart).bind fun parts => fromBridgeId parts.1

/-- The network a marker names, when it is a known one. -/
def networkOf (content : Json) : Option Network :=
  (content.textAt ["protocol", "id"]).bind fromBridgeId

/-- The network of a room's traffic: the first a marker names, then the ghost's, and `matrix` for a
room that no bridge marked. -/
def resolve (bridgeContents : List Json) (senderLocalpart : String) : Option Network :=
  match (bridgeContents.findSome? networkOf).or (fromGhostLocalpart senderLocalpart) with
  | some network => some network
  | none => if bridgeContents.isEmpty then some .matrix else none

inductive SubjectNetwork where
  | one (network : Network)
  | ambiguous (networks : List Network)
  | unattributable
deriving DecidableEq, Repr

def subjectNetwork (localpart : String) (sharedRoomNetworks : List Network) : SubjectNetwork :=
  match fromGhostLocalpart localpart with
  | some network => .one network
  | none =>
    if sharedRoomNetworks.contains .matrix then .one .matrix
    else
      match sharedRoomNetworks.foldl (fun distinct network =>
        if distinct.contains network then distinct else distinct ++ [network]) [] with
      | [] => .unattributable
      | [network] => .one network
      | distinct => .ambiguous (sortBy (fun network => [network.asStr]) distinct)

/-! ### The registry as it is handed over -/

structure Connection where
  id : String
  kind : String
  bridgeBot : Option String
deriving DecidableEq, Repr

structure Registry where
  connections : List Connection
  handedOver : Bool
deriving DecidableEq, Repr

inductive Resolution where
  | connection (id : String)
  | unknown (reason : String)
deriving DecidableEq, Repr

def Registry.implicit : Registry where
  connections := Network.all.map fun network => ⟨network.asStr, network.asStr, none⟩
  handedOver := false

def Connection.read (entry : Json) : Option Connection := do
  let id ← entry.textAt ["id"]
  let kind ← entry.textAt ["kind"]
  return ⟨id, kind, entry.textAt ["bridge_bot"]⟩

def Registry.fromSnapshot (document : Json) : Registry :=
  match (document.get? "connections").bind Json.asArray with
  | none => .implicit
  | some entries => ⟨entries.filterMap Connection.read, true⟩

/-- The connection of a room: by its bridge bot where the registry names it, else the single one of
the room's kind when that names no other bot. -/
def Registry.resolve (registry : Registry) (bridgeBot : Option String) (network : Network) :
    Resolution :=
  match bridgeBot.bind fun bot =>
    registry.connections.find? fun connection => connection.bridgeBot == some bot with
  | some connection => .connection connection.id
  | none =>
    match registry.connections.filter fun connection => connection.kind == network.asStr with
    | [only] =>
      match only.bridgeBot, bridgeBot with
      | some named, some _ =>
        .unknown s!"the only connection of this kind, {only.id}, is {named}'s and this room was built by another bot"
      | _, _ => .connection only.id
    | [] => .unknown "no connection of this kind is registered"
    | _ =>
      .unknown "several connections of this kind are registered and none names this room's bridge bot"

/-! ### Rooms -/

structure UserId where
  localpart : String
  serverName : String
deriving DecidableEq, Repr

def UserId.asStr (user : UserId) : String := s!"@{user.localpart}:{user.serverName}"

/-- A room as the Sensor's store has it: the events of its `m.bridge` and tombstone states, and who
has joined it. -/
structure Room where
  id : String
  bridgeEvents : List Json
  tombstones : List Json
  joined : List UserId

namespace Room

def markerOf (event : Json) : Option (String × Json) := do
  let stateKey ← event.textAt ["state_key"]
  let content ← event.get? "content"
  return (stateKey, content)

/-- `room_bridge_contents`: the contents of the room's markers in the order of their state keys. -/
def bridgeContents (room : Room) : List Json :=
  (sortBy (fun marker => [marker.1]) (room.bridgeEvents.filterMap markerOf)).map Prod.snd

def replacementRoom (room : Room) : Option String :=
  room.tombstones.findSome? fun event =>
    (event.textAt ["content", "replacement_room"]).filter fun successor => successor != ""

/-- The bot the first marker that names one names. -/
def bridgeBot (room : Room) : Option String :=
  room.bridgeContents.findSome? fun content => content.textAt ["bridgebot"]

def markerNaming (room : Room) (network : Network) : Option Json :=
  room.bridgeContents.find? fun content => networkOf content == some network

end Room

/-- `connection_of`: the connection a room's traffic belongs to, when one covers it. -/
def connectionOf (registry : Registry) (room : Room) (network : Network) : Option String :=
  match registry.resolve room.bridgeBot network with
  | .connection id => some id
  | .unknown _ => none

/-! ### What an event is published under -/

structure Observer where
  ownUser : UserId
  owner : Option Cache.Owner
  bridgeBots : List String

structure Client where
  rooms : List Room
  distinct : (rooms.map Room.id).Nodup

def Client.getRoom (client : Client) (id : String) : Option Room :=
  client.rooms.find? fun room => room.id == id

/-- What is observed: a message of a room, which may be an edit or of a shape that is not published, a
reaction in a room, and a presence, which is in none. -/
inductive Observed where
  | message (room : Room) (edits published : Bool)
  | reaction (room : Room)
  | presence (state : String)

def sharedRoomIds (client : Client) (sender : UserId) : List String :=
  sortTexts ((client.rooms.filter fun room => room.joined.contains sender).map Room.id)

def attributed (client : Client) (sender : UserId) : List (Room × Network) :=
  (sharedRoomIds client sender).filterMap fun id => do
    let candidate ← client.getRoom id
    if candidate.replacementRoom.isSome then none
    else (resolve candidate.bridgeContents sender.localpart).map fun network => (candidate, network)

def presenceSource (client : Client) (sender : UserId) : Option (Room × Network) :=
  match subjectNetwork sender.localpart ((attributed client sender).map Prod.snd) with
  | .one network =>
    (((attributed client sender).find? fun candidate => candidate.2 == network).or
      (attributed client sender).head?).map fun candidate => (candidate.1, network)
  | _ => none

def source (observer : Observer) (client : Client) (sender : UserId) :
    Observed → Option (Room × Network)
  | .message room edits published =>
    if sender = observer.ownUser || room.replacementRoom.isSome ||
        observer.bridgeBots.contains sender.asStr || edits || !published then none
    else (resolve room.bridgeContents sender.localpart).map fun network => (room, network)
  | .reaction room =>
    if sender = observer.ownUser || room.replacementRoom.isSome ||
        observer.bridgeBots.contains sender.asStr then none
    else (resolve room.bridgeContents sender.localpart).map fun network => (room, network)
  | .presence state =>
    if sender = observer.ownUser || observer.bridgeBots.contains sender.asStr ||
        (observer.owner.any fun owner => owner.isOwner sender.asStr) ||
        !(["online", "offline", "unavailable"].contains state) ||
        (attributed client sender).isEmpty then none
    else presenceSource client sender

/-- What an event is published under. -/
structure Attribution where
  room : Room
  network : Network
  connection : String

def attribution (registry : Registry) (observer : Observer) (client : Client) (sender : UserId)
    (observed : Observed) : Option Attribution := do
  let (room, network) ← source observer client sender observed
  let connection ← connectionOf registry room network
  return ⟨room, network, connection⟩

/-! ### The Gateway's registry, handed over -/

def Connection.ofGateway (connection : Twalk.Connection) : Connection :=
  ⟨connection.id, connection.kind, connection.bridgeBot⟩

def Registry.handed (registry : Twalk.Registry) : Registry :=
  ⟨registry.connections.map Connection.ofGateway, true⟩

theorem read_connectionJson (connection : Twalk.Connection) :
    Connection.read (connectionJson connection) = some (Connection.ofGateway connection) := by
  obtain ⟨id, kind, label, bridgeId, bridgeBot⟩ := connection
  cases bridgeId <;> cases bridgeBot <;> rfl

theorem fromSnapshot_snapshotJson (snapshot : Store.Snapshot) (owner : Twalk.Owner)
    (registry : Twalk.Registry) :
    Registry.fromSnapshot (snapshotJson snapshot owner registry) = Registry.handed registry := by
  have served : ((snapshotJson snapshot owner registry).get? "connections").bind Json.asArray =
      some (registry.connections.map connectionJson) := rfl
  unfold Registry.fromSnapshot Registry.handed
  rw [served]
  dsimp only
  rw [List.filterMap_map, show Connection.read ∘ connectionJson =
    some ∘ Connection.ofGateway from funext read_connectionJson, List.filterMap_eq_map]

def named (registry : Twalk.Registry) (bot : String) : Option Twalk.Connection :=
  registry.connections.find? fun connection => connection.bridgeBot == some bot

section Attributions

variable {registry : Twalk.Registry} {room : Room} {network : Network}

theorem find_handed (registry : Twalk.Registry) (bridgeBot : Option String) :
    (bridgeBot.bind fun bot => (Registry.handed registry).connections.find? fun connection =>
        connection.bridgeBot == some bot) =
      (bridgeBot.bind (named registry)).map Connection.ofGateway := by
  cases bridgeBot with
  | none => rfl
  | some bot => exact List.find?_map ..

variable {connection : Twalk.Connection}

theorem connectionOf_of_named (found : room.bridgeBot.bind (named registry) = some connection) :
    connectionOf (.handed registry) room network = some connection.id := by
  unfold connectionOf Registry.resolve
  rw [find_handed, found]
  rfl

theorem connectionOf_of_unnamed {connection : String}
    (absent : room.bridgeBot.bind (named registry) = none)
    (covered : connectionOf (.handed registry) room network = some connection) :
    ∃ only, registry.ofKind network.asStr = [only] ∧ connection = only.id ∧
      (only.bridgeBot = none ∨ room.bridgeBot = none) := by
  have ofKind : ((Registry.handed registry).connections.filter fun connection =>
      connection.kind == network.asStr) =
        (registry.ofKind network.asStr).map Connection.ofGateway := List.filter_map ..
  unfold connectionOf Registry.resolve at covered
  rw [find_handed, absent, ofKind] at covered
  cases isKind : registry.ofKind network.asStr with
  | nil => simp [isKind] at covered
  | cons only others =>
    cases others with
    | cons second rest => simp [isKind] at covered
    | nil =>
      refine ⟨only, rfl, ?_⟩
      rw [isKind] at covered
      dsimp only [List.map, Option.map, Connection.ofGateway] at covered
      cases isOnly : only.bridgeBot with
      | none =>
        rw [isOnly] at covered
        exact ⟨(Option.some.inj covered).symm, .inl rfl⟩
      | some bot =>
        cases isBot : room.bridgeBot with
        | none =>
          rw [isOnly, isBot] at covered
          exact ⟨(Option.some.inj covered).symm, .inr rfl⟩
        | some other =>
          rw [isOnly, isBot] at covered
          cases covered

/-! ### The event's own network -/

def Names (registry : Twalk.Registry) (network : Network) (bot : String)
    (connection : Twalk.Connection) : Prop :=
  connection ∈ registry.connections ∧ connection.kind = network.asStr ∧
    connection.bridgeBot = some bot

/-- What an event is published under is of the event's own network: the connection is a registered
one of that kind, and the one that names the bot of the marker naming the network, if one does. -/
structure OfItsNetwork (registry : Twalk.Registry) (published : Attribution) : Prop where
  registered : ∃ connection ∈ registry.connections,
    connection.id = published.connection ∧ connection.kind = published.network.asStr
  recognised : ∀ marker bot, published.room.markerNaming published.network = some marker →
    marker.textAt ["bridgebot"] = some bot → (∃ connection, Names registry published.network bot
      connection) → ∃ connection, Names registry published.network bot connection ∧
        connection.id = published.connection

/-- The first bot a room names is registered for the network alone, and is the bot of the marker that
names the network, where that bot is registered for it too. -/
def Agree (registry : Twalk.Registry) (room : Room) (network : Network) : Prop :=
  ∀ connection, room.bridgeBot.bind (named registry) = some connection →
    connection.kind = network.asStr ∧
      ∀ marker bot, room.markerNaming network = some marker →
        marker.textAt ["bridgebot"] = some bot →
          (∃ other, Names registry network bot other) → connection.bridgeBot = some bot

theorem mem_of_bind_named (found : room.bridgeBot.bind (named registry) = some connection) :
    connection ∈ registry.connections := by
  obtain ⟨bot, _, isNamed⟩ := Option.bind_eq_some_iff.mp found
  exact List.mem_of_find?_eq_some isNamed

theorem eq_of_id_eq {first second : Twalk.Connection} (isFirst : first ∈ registry.connections)
    (isSecond : second ∈ registry.connections) (same : first.id = second.id) : first = second := by
  have found := Twalk.Registry.get_of_mem isFirst
  rw [same, Twalk.Registry.get_of_mem isSecond] at found
  exact (Option.some.inj found).symm

theorem ofItsNetwork_of_named (found : room.bridgeBot.bind (named registry) = some connection) :
    OfItsNetwork registry ⟨room, network, connection.id⟩ ↔ Agree registry room network := by
  have isThere := mem_of_bind_named found
  constructor
  · rintro ⟨⟨other, isOther, sameId, isKind⟩, recognised⟩ _ again
    obtain rfl := Option.some.inj (found.symm.trans again)
    obtain rfl := eq_of_id_eq isOther isThere sameId
    refine ⟨isKind, fun marker bot isMarker isBot isNamed => ?_⟩
    obtain ⟨same, ⟨isSame, _, names⟩, sameId⟩ := recognised marker bot isMarker isBot isNamed
    obtain rfl := eq_of_id_eq isSame isThere sameId
    exact names
  · intro agree
    obtain ⟨isKind, names⟩ := agree connection found
    refine ⟨⟨connection, isThere, rfl, isKind⟩, fun marker bot isMarker isBot isNamed => ?_⟩
    exact ⟨connection, ⟨isThere, isKind, names marker bot isMarker isBot isNamed⟩, rfl⟩

theorem exists_bridgeBot {marker : Json} {bot : String}
    (isMarker : room.markerNaming network = some marker)
    (isBot : marker.textAt ["bridgebot"] = some bot) : ∃ first, room.bridgeBot = some first := by
  cases found : room.bridgeBot with
  | some first => exact ⟨first, rfl⟩
  | none =>
    have absent := List.findSome?_eq_none_iff.mp found marker (List.mem_of_find?_eq_some isMarker)
    rw [isBot] at absent
    cases absent

theorem ofItsNetwork_of_unnamed {connection : String}
    (absent : room.bridgeBot.bind (named registry) = none)
    (covered : connectionOf (.handed registry) room network = some connection) :
    OfItsNetwork registry ⟨room, network, connection⟩ := by
  obtain ⟨only, isOnly, rfl, quiet⟩ := connectionOf_of_unnamed absent covered
  have isThere : only ∈ registry.ofKind network.asStr := by
    rw [isOnly]
    exact List.mem_singleton_self only
  obtain ⟨isMember, isKind⟩ := Twalk.Registry.mem_ofKind.mp isThere
  refine ⟨⟨only, isMember, rfl, isKind⟩, ?_⟩
  rintro marker bot isMarker isBot ⟨other, isOther, ofKind, names⟩
  have among : other ∈ registry.ofKind network.asStr :=
    Twalk.Registry.mem_ofKind.mpr ⟨isOther, ofKind⟩
  rw [isOnly] at among
  obtain rfl := List.mem_singleton.mp among
  -- The only connection of the kind names a bot, so a room that names one is not covered by it.
  obtain ⟨first, isFirst⟩ := exists_bridgeBot isMarker isBot
  rcases quiet with noBot | noFirst
  · rw [noBot] at names
    cases names
  · rw [noFirst] at isFirst
    cases isFirst

/-- What a room's traffic of a network is published under is of its own network exactly when the
room's first bot and the marker of the network agree. -/
theorem connectionOf_ofItsNetwork_iff :
    (∀ connection, connectionOf (.handed registry) room network = some connection →
        OfItsNetwork registry ⟨room, network, connection⟩) ↔ Agree registry room network := by
  cases found : room.bridgeBot.bind (named registry) with
  | some connection =>
    rw [← ofItsNetwork_of_named found]
    refine ⟨fun all => all connection.id (connectionOf_of_named found), ?_⟩
    intro ofItsNetwork other covered
    rw [connectionOf_of_named found] at covered
    obtain rfl := Option.some.inj covered
    exact ofItsNetwork
  | none =>
    refine iff_of_true (fun connection covered => ofItsNetwork_of_unnamed found covered) ?_
    intro connection again
    rw [found] at again
    cases again

end Attributions

/-! ### The order of the rooms -/

section Order

variable {client other : Client}

theorem getRoom_eq_of_perm (same : client.rooms.Perm other.rooms) (id : String) :
    client.getRoom id = other.getRoom id := by
  unfold Client.getRoom
  cases found : client.rooms.find? fun room => room.id == id with
  | none =>
    refine (List.find?_eq_none.mpr fun room member => ?_).symm
    exact List.find?_eq_none.mp found room (same.mem_iff.mpr member)
  | some room =>
    have isThere := same.mem_iff.mp (List.mem_of_find?_eq_some found)
    cases foundOther : other.rooms.find? fun room => room.id == id with
    | none => exact absurd (List.find?_some found) (List.find?_eq_none.mp foundOther room isThere)
    | some again =>
      have sameId : room.id = again.id :=
        (eq_of_beq (List.find?_some found :)).trans (eq_of_beq (List.find?_some foundOther :)).symm
      rw [List.inj_on_of_nodup_map other.distinct isThere (List.mem_of_find?_eq_some foundOther)
        sameId]

theorem attributed_eq_of_perm (same : client.rooms.Perm other.rooms) (sender : UserId) :
    attributed client sender = attributed other sender := by
  have sameIds : sharedRoomIds client sender = sharedRoomIds other sender :=
    sortTexts_eq_of_perm ((same.filter _).map Room.id)
  unfold attributed
  rw [sameIds, show client.getRoom = other.getRoom from funext (getRoom_eq_of_perm same)]

theorem source_eq_of_perm (same : client.rooms.Perm other.rooms) (observer : Observer)
    (sender : UserId) (observed : Observed) :
    source observer client sender observed = source observer other sender observed := by
  cases observed with
  | message room edits published => rfl
  | reaction room => rfl
  | presence state =>
    unfold source presenceSource
    rw [attributed_eq_of_perm same]

end Order

/-- Over every registry the Gateway can hand over, what each observed event is published under is of
the event's own network, in whatever order the rooms are listed, exactly when the first bot of the
room it is attributed to agrees with the marker of its network. -/
theorem attribution_iff (registry : Twalk.Registry) (snapshot : Store.Snapshot)
    (owner : Twalk.Owner) (observer : Observer) (client : Client) (sender : UserId)
    (observed : Observed) :
    ((∀ published, attribution (.fromSnapshot (snapshotJson snapshot owner registry)) observer
          client sender observed = some published → OfItsNetwork registry published) ∧
        ∀ other : Client, client.rooms.Perm other.rooms →
          attribution (.fromSnapshot (snapshotJson snapshot owner registry)) observer client sender
              observed =
            attribution (.fromSnapshot (snapshotJson snapshot owner registry)) observer other sender
              observed) ↔
      ∀ room network, source observer client sender observed = some (room, network) →
        Agree registry room network := by
  rw [fromSnapshot_snapshotJson, and_iff_left]
  · unfold attribution
    cases found : source observer client sender observed with
    | none => simp
    | some attributed =>
      obtain ⟨room, network⟩ := attributed
      have published : ∀ published : Attribution,
          (do let connection ← connectionOf (.handed registry) room network
              return ⟨room, network, connection⟩) = some published ↔
            ∃ connection, connectionOf (.handed registry) room network = some connection ∧
              published = ⟨room, network, connection⟩ := by
        intro published
        cases connectionOf (.handed registry) room network <;> simp [eq_comm]
      constructor
      · rintro all _ _ ⟨rfl⟩
        refine connectionOf_ofItsNetwork_iff.mp fun connection covered => all _ ?_
        exact (published _).mpr ⟨connection, covered, rfl⟩
      · intro agree one isOne
        obtain ⟨connection, covered, rfl⟩ := (published one).mp isOne
        exact connectionOf_ofItsNetwork_iff.mpr (agree room network rfl) connection covered
  · intro other same
    unfold attribution
    rw [source_eq_of_perm same]

namespace TwoMarkers

def bridges : List Twalk.Registry.Carrier :=
  [⟨"mautrix-whatsapp", "whatsapp", some "@whatsappbot:example.org"⟩,
    ⟨"mautrix-signal", "signal", some "@signalbot:example.org"⟩]

def marker (stateKey protocol bot : String) : Json :=
  .object [("state_key", .string stateKey), ("content", .object [
    ("bridgebot", .string bot), ("protocol", .object [("id", .string protocol)])])]

def room : Room where
  id := "!portal:example.org"
  bridgeEvents := [marker "a" "whatsapp-next" "@whatsappbot:example.org",
    marker "b" "signal" "@signalbot:example.org"]
  tombstones := []
  joined := []

def registry : Twalk.Registry where
  connections := [
    ⟨"whatsapp", "whatsapp", "mautrix-whatsapp", some "mautrix-whatsapp",
      some "@whatsappbot:example.org"⟩,
    ⟨"signal", "signal", "mautrix-signal", some "mautrix-signal", some "@signalbot:example.org"⟩,
    ⟨"matrix", "matrix", "example.org", none, none⟩]
  kindsKnown := by decide
  idsValid := by decide
  idsDistinct := by decide

def observer : Observer := ⟨⟨"sensor", "example.org"⟩, none, []⟩

/-- A message of the Signal portal is published under the WhatsApp connection. -/
theorem signal_under_whatsapp : ¬ ∀ registry,
    Twalk.Registry.fromConfig none bridges "example.org" = .ok registry →
      ∀ published, attribution (.fromSnapshot (snapshotJson ⟨[], 0, 0⟩ (.new "@me:example.org" [])
          registry)) observer ⟨[], List.nodup_nil⟩ ⟨"signal_1", "example.org"⟩
            (.message room false true) = some published → OfItsNetwork registry published := by
  intro always
  have isConfigured :
      Twalk.Registry.fromConfig none bridges "example.org" = .ok registry := by rfl
  have isPublished : attribution (.fromSnapshot (snapshotJson ⟨[], 0, 0⟩
      (.new "@me:example.org" []) registry)) observer ⟨[], List.nodup_nil⟩
        ⟨"signal_1", "example.org"⟩ (.message room false true) =
          some ⟨room, .signal, "whatsapp"⟩ := by rfl
  obtain ⟨connection, member, isNamed, isKind⟩ :=
    (always registry isConfigured _ isPublished).registered
  revert connection
  decide

end TwoMarkers

end Twalk.Sensor
