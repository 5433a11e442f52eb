/-
This file is the activity feed of the dashboard: what row each of the Gateway's documents becomes,
how the rows are ordered by the texts of their instants, and which ten of them are shown.

The feed is what it is to be when two things hold of the documents that come first by their texts:
no two of them have one id, and none is older than a document behind it. One decision over several
connections of a kind has entries of one id, and the texts of two instants need not stand in their
order.
-/

import Mathlib.Data.String.Basic
import Twalk.CollectorStatus
import Twalk.Consent
import Twalk.Library.Ranks
import Twalk.Library.Rfc3339

namespace Twalk.Dashboard

open Consent (Network State Subject SubjectType)
open Collector (ConnectionState)

/-! ### The documents -/

structure ConnectionTransition where
  connection : String
  kind : String
  toState : ConnectionState
  occurredAt : String
  deriving DecidableEq

structure PortalMove where
  successor : String
  members : Nat
  crowdThreshold : Nat
  followed : Bool
  decidedAt : String
  deriving DecidableEq

inductive LoginState where
  | awaitingInput
  | awaitingRemote
  | complete
  | failed
  | cancelled
  deriving DecidableEq

def LoginState.asStr : LoginState → String
  | awaitingInput => "awaiting_input"
  | awaitingRemote => "awaiting_remote"
  | complete => "complete"
  | failed => "failed"
  | cancelled => "cancelled"

structure BridgeLogin where
  state : LoginState
  startedAt : String
  errorCode : Option String
  deriving DecidableEq

structure ConfiguredBridge where
  bridgeId : String
  network : String
  login : Option BridgeLogin
  deriving DecidableEq

structure ConsentEntry where
  subject : Subject
  connection : String
  network : Network
  state : State
  decidedAt : String
  decisionSequence : Nat
  deriving DecidableEq

structure Device where
  id : String
  name : String
  createdUnixSeconds : Int
  revokedUnixSeconds : Option Int
  deriving DecidableEq

structure Documents where
  bridges : List ConfiguredBridge
  consent : List ConsentEntry
  devices : List Device
  moves : List PortalMove
  transitions : List ConnectionTransition

/-! ### The rows -/

inductive Tone where
  | ok
  | warn
  | bad
  | idle
  deriving DecidableEq

structure ActivityEntry where
  id : String
  icon : String
  tone : Tone
  writtenAt : String
  messageKey : String
  values : List (String × String)
  deriving DecidableEq

def feedLength : Nat := 10

/-- What a login was doing. -/
inductive BridgeState where
  | connected
  | connecting
  | expired
  | failed
  | never
  | unknown
  deriving DecidableEq

def BridgeState.asStr : BridgeState → String
  | connected => "connected"
  | connecting => "connecting"
  | expired => "expired"
  | failed => "failed"
  | never => "never"
  | unknown => "unknown"

def bridgeTone : BridgeState → Tone
  | .connected => .ok
  | .connecting => .idle
  | .expired => .warn
  | .failed => .bad
  | .never => .idle
  | .unknown => .idle

def loginActivityOf (login : BridgeLogin) : BridgeState :=
  match login.state with
  | .complete => .connected
  | .awaitingInput => .connecting
  | .awaitingRemote => .connecting
  | .cancelled => .never
  | .failed =>
    if login.errorCode = some "login_expired" ∨ login.errorCode = some "login_lost" then .expired
    else .failed

/-- The year of a date: four digits, or a sign and six. -/
def isoYear (year : Int) : List Char :=
  if 0 ≤ year ∧ year ≤ 9999 then Rfc3339.padded 4 year.toNat
  else (if year < 0 then '-' else '+') :: Rfc3339.padded 6 year.natAbs

/-- The text of a number of seconds, unless they are more than a date can count. -/
def isoFromUnix (seconds : Int) : Option String :=
  if seconds.natAbs ≤ 8640000000000 then
    let date := Rfc3339.dateOf (seconds / 86400)
    let inDay := (seconds % 86400).toNat
    some (String.ofList (isoYear date.year ++ '-' :: (Rfc3339.padded 2 date.month ++
      '-' :: (Rfc3339.padded 2 date.day ++ 'T' :: (Rfc3339.padded 2 (inDay / 3600) ++
        ':' :: (Rfc3339.padded 2 (inDay / 60 % 60) ++ ':' ::
          (Rfc3339.padded 2 (inDay % 60) ++ ".000Z".toList)))))))
  else none

def transitionEntry (transition : ConnectionTransition) : ActivityEntry where
  id := "connection" ++ ":" ++ transition.connection ++ ":" ++ transition.occurredAt ++ ":" ++
    transition.toState.asStr
  icon := if transition.kind = "calendar" then "calendar" else "email"
  tone := if transition.toState = .connected then .ok else .warn
  writtenAt := transition.occurredAt
  messageKey := "dashboard.feed.connection." ++ transition.toState.asStr
  values := [("connection", transition.connection)]

def moveEntry (move : PortalMove) : ActivityEntry where
  id := "move:" ++ move.successor
  icon := "observing"
  tone := if move.followed then .ok else .idle
  writtenAt := move.decidedAt
  messageKey :=
    if move.followed then "dashboard.feed.move.followed" else "dashboard.feed.move.returned"
  values := [("members", toString move.members), ("threshold", toString move.crowdThreshold)]

def bridgeEntry (bridge : ConfiguredBridge) (login : BridgeLogin) : ActivityEntry where
  id := "bridge:" ++ bridge.bridgeId ++ ":" ++ login.startedAt ++ ":" ++ login.state.asStr
  icon := "bridge"
  tone := bridgeTone (loginActivityOf login)
  writtenAt := login.startedAt
  messageKey := "dashboard.feed.bridge." ++ (loginActivityOf login).asStr
  values := [("network", bridge.network), ("bridge", bridge.bridgeId)]

def consentEntry (entry : ConsentEntry) : ActivityEntry :=
  if entry.subject.kind = .persona then
    { id := "persona:" ++ entry.subject.id ++ ":" ++ entry.network.asStr ++ ":" ++
        toString entry.decisionSequence
      icon := "persona"
      tone := if entry.state = .granted then .ok else .idle
      writtenAt := entry.decidedAt
      messageKey :=
        if entry.state = .granted then "dashboard.feed.persona.activated"
        else "dashboard.feed.persona.paused"
      values := [("persona", entry.subject.id), ("network", entry.network.asStr)] }
  else
    { id := "consent:" ++ entry.subject.kind.asStr ++ ":" ++ entry.network.asStr ++ ":" ++
        toString entry.decisionSequence
      icon := "consent"
      tone := if entry.state = .granted then .ok else .idle
      writtenAt := entry.decidedAt
      messageKey :=
        if entry.subject.kind = .network then "dashboard.feed.consent.network"
        else "dashboard.feed.consent.contact"
      values := [("network", entry.network.asStr), ("state", entry.state.asStr)] }

def signedInEntry (device : Device) (createdAt : String) : ActivityEntry where
  id := "device:" ++ device.id ++ ":signed-in"
  icon := "device"
  tone := .idle
  writtenAt := createdAt
  messageKey := "dashboard.feed.device.signedIn"
  values := [("device", device.name)]

def revokedEntry (device : Device) (revokedAt : String) : ActivityEntry where
  id := "device:" ++ device.id ++ ":revoked"
  icon := "device"
  tone := .warn
  writtenAt := revokedAt
  messageKey := "dashboard.feed.device.revoked"
  values := [("device", device.name)]

def deviceEntries (device : Device) : Option (List ActivityEntry) := do
  let createdAt ← isoFromUnix device.createdUnixSeconds
  match device.revokedUnixSeconds with
  | none => some [signedInEntry device createdAt]
  | some seconds => do
    let revokedAt ← isoFromUnix seconds
    some [signedInEntry device createdAt, revokedEntry device revokedAt]

/-- The rows of all documents, unless a date of one is out of range. -/
def entries (documents : Documents) : Option (List ActivityEntry) := do
  let devices ← documents.devices.mapM deviceEntries
  some (documents.transitions.map transitionEntry ++ documents.moves.map moveEntry ++
    documents.bridges.filterMap (fun bridge => bridge.login.map (bridgeEntry bridge)) ++
      documents.consent.map consentEntry ++ devices.flatten)

/-! ### The feed -/

structure Collation where
  localeCompare : String → String → Int
  antisymmetric : ∀ left right, 0 < localeCompare left right ↔ localeCompare right left < 0
  transitive : ∀ left middle right, localeCompare left middle ≤ 0 → localeCompare middle right ≤ 0 →
    localeCompare left right ≤ 0

/-- A row comes before another, or level with it, where its instant's text is not the lesser. -/
def Collation.NotAfter (collation : Collation) (left right : ActivityEntry) : Prop :=
  collation.localeCompare right.writtenAt left.writtenAt ≤ 0

instance (collation : Collation) : DecidableRel collation.NotAfter :=
  fun _ _ => inferInstanceAs (Decidable (_ ≤ _))

def activityFeed (collation : Collation) (documents : Documents) :
    Option (List ActivityEntry) := do
  let entries ← entries documents
  some ((entries.insertionSort collation.NotAfter).take feedLength)

/-! ### What the rows are about -/

/-- What the rows of the documents are about, in the order the rows come. -/
inductive Event where
  | transition (transition : ConnectionTransition)
  | move (move : PortalMove)
  | login (bridge : ConfiguredBridge) (login : BridgeLogin)
  | consent (entry : ConsentEntry)
  | signedIn (device : Device)
  | revoked (device : Device) (seconds : Int)

def InRange (seconds : Int) : Prop := seconds.natAbs ≤ 8640000000000

def isoText (seconds : Int) : String := (isoFromUnix seconds).getD ""

theorem isoFromUnix_eq {seconds : Int} (inRange : InRange seconds) :
    isoFromUnix seconds = some (isoText seconds) := by
  have written : (isoFromUnix seconds).isSome = true := by
    unfold isoFromUnix
    rw [if_pos (show seconds.natAbs ≤ 8640000000000 from inRange)]
    rfl
  obtain ⟨text, isText⟩ := Option.isSome_iff_exists.mp written
  unfold isoText
  rw [isText, Option.getD_some]

theorem inRange_of_isoFromUnix {seconds : Int} {text : String}
    (isText : isoFromUnix seconds = some text) : InRange seconds := by
  unfold isoFromUnix at isText
  split at isText
  · assumption
  · cases isText

def Event.writtenAt : Event → String
  | .transition change => change.occurredAt
  | .move moved => moved.decidedAt
  | .login _ attempt => attempt.startedAt
  | .consent entry => entry.decidedAt
  | .signedIn device => isoText device.createdUnixSeconds
  | .revoked _ seconds => isoText seconds

def Event.entry : Event → ActivityEntry
  | .transition change => transitionEntry change
  | .move moved => moveEntry moved
  | .login bridge attempt => bridgeEntry bridge attempt
  | .consent entry => consentEntry entry
  | .signedIn device => signedInEntry device (isoText device.createdUnixSeconds)
  | .revoked device seconds => revokedEntry device (isoText seconds)

def deviceEvents (device : Device) : List Event :=
  .signedIn device :: (device.revokedUnixSeconds.map (Event.revoked device)).toList

def events (documents : Documents) : List Event :=
  documents.transitions.map .transition ++ documents.moves.map .move ++
    documents.bridges.filterMap (fun bridge => bridge.login.map (Event.login bridge)) ++
      documents.consent.map .consent ++ documents.devices.flatMap deviceEvents

theorem writtenAt_entry (event : Event) : event.entry.writtenAt = event.writtenAt := by
  cases event with
  | consent entry =>
    unfold Event.entry consentEntry
    dsimp only
    split <;> rfl
  | _ => rfl

def Dated (device : Device) : Prop :=
  InRange device.createdUnixSeconds ∧
    ∀ seconds, device.revokedUnixSeconds = some seconds → InRange seconds

theorem deviceEntries_eq {device : Device} (dated : Dated device) :
    deviceEntries device = some ((deviceEvents device).map Event.entry) := by
  unfold deviceEntries deviceEvents
  rw [isoFromUnix_eq dated.1, Option.bind_eq_bind, Option.bind_some]
  cases isRevoked : device.revokedUnixSeconds with
  | none => rfl
  | some seconds =>
    dsimp only
    rw [isoFromUnix_eq (dated.2 seconds isRevoked)]
    rfl

theorem dated_of_deviceEntries {device : Device} {rows : List ActivityEntry}
    (areRows : deviceEntries device = some rows) : Dated device := by
  unfold deviceEntries at areRows
  obtain ⟨created, isCreated, areRows⟩ := Option.bind_eq_some_iff.mp areRows
  refine ⟨inRange_of_isoFromUnix isCreated, fun seconds isRevoked => ?_⟩
  rw [isRevoked] at areRows
  obtain ⟨revoked, isText, -⟩ := Option.bind_eq_some_iff.mp areRows
  exact inRange_of_isoFromUnix isText

theorem mapM_deviceEntries {devices : List Device} (dated : ∀ device ∈ devices, Dated device) :
    devices.mapM deviceEntries =
      some (devices.map fun device => (deviceEvents device).map Event.entry) := by
  induction devices with
  | nil => rfl
  | cons device rest inductionHypothesis =>
    obtain ⟨isDated, restDated⟩ := List.forall_mem_cons.mp dated
    rw [List.mapM_cons, deviceEntries_eq isDated, inductionHypothesis restDated]
    rfl

theorem dated_of_mapM {devices : List Device} {rows : List (List ActivityEntry)}
    (areRows : devices.mapM deviceEntries = some rows) : ∀ device ∈ devices, Dated device := by
  induction devices generalizing rows with
  | nil => exact fun device member => (List.not_mem_nil member).elim
  | cons first rest inductionHypothesis =>
    rw [List.mapM_cons] at areRows
    obtain ⟨row, isRow, areRows⟩ := Option.bind_eq_some_iff.mp areRows
    obtain ⟨others, areOthers, -⟩ := Option.bind_eq_some_iff.mp areRows
    exact List.forall_mem_cons.mpr ⟨dated_of_deviceEntries isRow, inductionHypothesis areOthers⟩

theorem entries_eq {documents : Documents} (dated : ∀ device ∈ documents.devices, Dated device) :
    entries documents = some ((events documents).map Event.entry) := by
  unfold entries events
  rw [mapM_deviceEntries dated, Option.bind_eq_bind, Option.bind_some]
  rw [List.map_append, List.map_append, List.map_append, List.map_append, List.map_map,
    List.map_map, List.map_map, List.map_filterMap, List.map_flatMap, List.flatMap_def]
  simp only [Option.map_map]
  rfl

/-! ### One id -/

def SameEvent : Event → Event → Prop
  | .transition one, .transition other =>
    one.connection ++ ":" ++ one.occurredAt = other.connection ++ ":" ++ other.occurredAt ∧
      one.toState = other.toState
  | .move one, .move other => one.successor = other.successor
  | .login bridge one, .login otherBridge other =>
    bridge.bridgeId ++ ":" ++ one.startedAt = otherBridge.bridgeId ++ ":" ++ other.startedAt ∧
      one.state = other.state
  | .consent one, .consent other =>
    one.decisionSequence = other.decisionSequence ∧ one.network = other.network ∧
      one.subject.kind = other.subject.kind ∧
        (one.subject.kind = .persona → one.subject.id = other.subject.id)
  | .signedIn one, .signedIn other => one.id = other.id
  | .revoked one _, .revoked other _ => one.id = other.id
  | _, _ => False

/-- The first word of an id. -/
inductive Lead where
  | connection
  | move
  | bridge
  | persona
  | consent
  | device

def Lead.asStr : Lead → String
  | connection => "connection"
  | move => "move"
  | bridge => "bridge"
  | persona => "persona"
  | consent => "consent"
  | device => "device"

def Event.lead : Event → Lead
  | .transition _ => .connection
  | .move _ => .move
  | .login _ _ => .bridge
  | .consent entry => if entry.subject.kind = .persona then .persona else .consent
  | .signedIn _ => .device
  | .revoked _ _ => .device

def ConsentEntry.who (entry : ConsentEntry) : String :=
  if entry.subject.kind = .persona then entry.subject.id else entry.subject.kind.asStr

def Event.tail : Event → String
  | .transition change =>
    change.connection ++ ":" ++ change.occurredAt ++ ":" ++ change.toState.asStr
  | .move moved => moved.successor
  | .login bridge attempt =>
    bridge.bridgeId ++ ":" ++ attempt.startedAt ++ ":" ++ attempt.state.asStr
  | .consent entry =>
    entry.who ++ ":" ++ entry.network.asStr ++ ":" ++ toString entry.decisionSequence
  | .signedIn device => device.id ++ ":" ++ "signed-in"
  | .revoked device _ => device.id ++ ":" ++ "revoked"

theorem id_entry (event : Event) : event.entry.id = event.lead.asStr ++ ":" ++ event.tail := by
  cases event with
  | transition change =>
    unfold Event.entry transitionEntry Event.lead Event.tail Lead.asStr
    simp only [String.append_assoc]
  | move moved =>
    unfold Event.entry moveEntry Event.lead Event.tail Lead.asStr
    rfl
  | login bridge attempt =>
    unfold Event.entry bridgeEntry Event.lead Event.tail Lead.asStr
    simp only [show "bridge:" = "bridge" ++ ":" from rfl, String.append_assoc]
  | consent entry =>
    unfold Event.entry consentEntry Event.lead Event.tail ConsentEntry.who Lead.asStr
    dsimp only
    split
    · simp only [show "persona:" = "persona" ++ ":" from rfl, String.append_assoc]
    · simp only [show "consent:" = "consent" ++ ":" from rfl, String.append_assoc]
  | signedIn device =>
    unfold Event.entry signedInEntry Event.lead Event.tail Lead.asStr
    simp only [show "device:" = "device" ++ ":" from rfl,
      show ":signed-in" = ":" ++ "signed-in" from rfl, String.append_assoc]
  | revoked device seconds =>
    unfold Event.entry revokedEntry Event.lead Event.tail Lead.asStr
    simp only [show "device:" = "device" ++ ":" from rfl,
      show ":revoked" = ":" ++ "revoked" from rfl, String.append_assoc]

theorem toList_joined (front back : String) :
    (front ++ ":" ++ back).toList = front.toList ++ ':' :: back.toList := by
  simp

variable {front back otherFront otherBack : String}

theorem joined_inj_of_front (plain : ':' ∉ front.toList) (plainToo : ':' ∉ otherFront.toList)
    (same : front ++ ":" ++ back = otherFront ++ ":" ++ otherBack) :
    front = otherFront ∧ back = otherBack := by
  have lists := congrArg String.toList same
  rw [toList_joined, toList_joined] at lists
  obtain ⟨isFront, isBack⟩ := Text.append_cons_inj_of_front plain plainToo lists
  exact ⟨String.toList_injective isFront, String.toList_injective isBack⟩

theorem joined_inj_of_back (plain : ':' ∉ back.toList) (plainToo : ':' ∉ otherBack.toList)
    (same : front ++ ":" ++ back = otherFront ++ ":" ++ otherBack) :
    front = otherFront ∧ back = otherBack := by
  have lists := congrArg String.toList same
  rw [toList_joined, toList_joined] at lists
  obtain ⟨isFront, isBack⟩ := Text.append_cons_inj_of_back plain plainToo lists
  exact ⟨String.toList_injective isFront, String.toList_injective isBack⟩

theorem plain_lead (lead : Lead) : ':' ∉ lead.asStr.toList := by
  cases lead <;> decide

theorem lead_inj {one other : Lead} (same : one.asStr = other.asStr) : one = other := by
  cases one <;> cases other <;> first | rfl | exact absurd same (by decide)

theorem lead_consent (entry : ConsentEntry) :
    (Event.consent entry).lead = .persona ∨ (Event.consent entry).lead = .consent := by
  unfold Event.lead
  dsimp only
  split
  · exact Or.inl rfl
  · exact Or.inr rfl

theorem not_lead_consent {entry : ConsentEntry} {event : Event} (notPersona : event.lead ≠ .persona)
    (notConsent : event.lead ≠ .consent) : event.lead ≠ (Event.consent entry).lead :=
  fun same => (lead_consent entry).elim (fun isPersona => notPersona (same.trans isPersona))
    fun isConsent => notConsent (same.trans isConsent)

theorem plain_network (network : Network) : ':' ∉ network.asStr.toList := by
  cases network <;> decide

theorem toList_sequence (number : Nat) : (toString number).toList = Nat.toDigits 10 number :=
  String.toList_ofList

theorem plain_sequence (number : Nat) : ':' ∉ (toString number).toList := by
  intro member
  rw [toList_sequence] at member
  have isDigit := Nat.isDigit_of_mem_toDigits (b := 10) (by decide) (by decide) member
  exact absurd isDigit (by decide)

theorem sequence_inj {one other : Nat} (same : toString one = toString other) : one = other := by
  have digits : Nat.toDigits 10 one = Nat.toDigits 10 other := by
    rw [← toList_sequence, ← toList_sequence, same]
  calc
    one = Nat.ofDigitChars 10 (Nat.toDigits 10 one) 0 := Nat.ofDigitChars_ten_toDigits.symm
    _ = Nat.ofDigitChars 10 (Nat.toDigits 10 other) 0 := by rw [digits]
    _ = other := Nat.ofDigitChars_ten_toDigits

theorem plain_connectionState (state : ConnectionState) : ':' ∉ state.asStr.toList := by
  cases state <;> decide

theorem plain_loginState (state : LoginState) : ':' ∉ state.asStr.toList := by
  cases state <;> decide

theorem connectionState_inj {one other : ConnectionState} (same : one.asStr = other.asStr) :
    one = other := by
  cases one <;> cases other <;> first | rfl | exact absurd same (by decide)

theorem loginState_inj {one other : LoginState} (same : one.asStr = other.asStr) : one = other := by
  cases one <;> cases other <;> first | rfl | exact absurd same (by decide)

theorem subjectType_inj {one other : SubjectType} (same : one.asStr = other.asStr) :
    one = other := by
  cases one <;> cases other <;> first | rfl | exact absurd same (by decide)

variable {one other : ConsentEntry}

theorem tail_consent_iff :
    (Event.consent one).tail = (Event.consent other).tail ↔
      one.who = other.who ∧ one.network = other.network ∧
        one.decisionSequence = other.decisionSequence := by
  constructor
  · intro same
    obtain ⟨same, isSequence⟩ := joined_inj_of_back (plain_sequence _) (plain_sequence _) same
    obtain ⟨isWho, isNetwork⟩ := joined_inj_of_back (plain_network _) (plain_network _) same
    exact ⟨isWho, Network.asStr_injective isNetwork, sequence_inj isSequence⟩
  · rintro ⟨isWho, isNetwork, isSequence⟩
    unfold Event.tail
    dsimp only
    rw [isWho, isNetwork, isSequence]

theorem persona_iff_of_lead (same : (Event.consent one).lead = (Event.consent other).lead) :
    one.subject.kind = .persona ↔ other.subject.kind = .persona := by
  unfold Event.lead at same
  dsimp only at same
  split at same
  · split at same
    · exact iff_of_true ‹_› ‹_›
    · cases same
  · split at same
    · cases same
    · exact iff_of_false ‹_› ‹_›

theorem consent_iff :
    (Event.consent one).lead = (Event.consent other).lead ∧
        (Event.consent one).tail = (Event.consent other).tail ↔
      SameEvent (.consent one) (.consent other) := by
  rw [tail_consent_iff]
  constructor
  · rintro ⟨isLead, isWho, isNetwork, isSequence⟩
    have kinds := persona_iff_of_lead isLead
    unfold ConsentEntry.who at isWho
    by_cases isPersona : one.subject.kind = .persona
    · rw [if_pos isPersona, if_pos (kinds.mp isPersona)] at isWho
      exact ⟨isSequence, isNetwork, isPersona.trans (kinds.mp isPersona).symm, fun _ => isWho⟩
    · rw [if_neg isPersona, if_neg fun other => isPersona (kinds.mpr other)] at isWho
      exact ⟨isSequence, isNetwork, subjectType_inj isWho, fun persona => absurd persona isPersona⟩
  · rintro ⟨isSequence, isNetwork, isKind, isPersona⟩
    unfold ConsentEntry.who Event.lead
    dsimp only
    rw [← isKind]
    refine ⟨rfl, ?_, isNetwork, isSequence⟩
    split
    · exact isPersona ‹_›
    · rfl

theorem id_eq_iff {one other : Event} : one.entry.id = other.entry.id ↔ SameEvent one other := by
  have parts : one.entry.id = other.entry.id ↔ one.lead = other.lead ∧ one.tail = other.tail := by
    rw [id_entry, id_entry]
    constructor
    · intro same
      obtain ⟨isLead, isTail⟩ := joined_inj_of_front (plain_lead _) (plain_lead _) same
      exact ⟨lead_inj isLead, isTail⟩
    · rintro ⟨isLead, isTail⟩
      rw [isLead, isTail]
  rw [parts]
  cases one with
  | transition change =>
    cases other with
    | transition otherChange =>
      refine ⟨fun ⟨_, same⟩ => ?_, fun ⟨isFront, isState⟩ => ⟨rfl, ?_⟩⟩
      · obtain ⟨isFront, isState⟩ := joined_inj_of_back (plain_connectionState _)
          (plain_connectionState _) same
        exact ⟨isFront, connectionState_inj isState⟩
      · unfold Event.tail
        dsimp only
        rw [isFront, isState]
    | consent entry =>
      exact iff_of_false (fun same => not_lead_consent Lead.noConfusion Lead.noConfusion same.1) id
    | _ => exact iff_of_false (fun same => nomatch same.1) id
  | move moved =>
    cases other with
    | move otherMoved => exact ⟨fun same => same.2, fun same => ⟨rfl, same⟩⟩
    | consent entry =>
      exact iff_of_false (fun same => not_lead_consent Lead.noConfusion Lead.noConfusion same.1) id
    | _ => exact iff_of_false (fun same => nomatch same.1) id
  | login bridge attempt =>
    cases other with
    | login otherBridge otherAttempt =>
      refine ⟨fun ⟨_, same⟩ => ?_, fun ⟨isFront, isState⟩ => ⟨rfl, ?_⟩⟩
      · obtain ⟨isFront, isState⟩ := joined_inj_of_back (plain_loginState _) (plain_loginState _)
          same
        exact ⟨isFront, loginState_inj isState⟩
      · unfold Event.tail
        dsimp only
        rw [isFront, isState]
    | consent entry =>
      exact iff_of_false (fun same => not_lead_consent Lead.noConfusion Lead.noConfusion same.1) id
    | _ => exact iff_of_false (fun same => nomatch same.1) id
  | consent entry =>
    cases other with
    | consent otherEntry => exact consent_iff
    | _ =>
      exact iff_of_false
        (fun same => not_lead_consent Lead.noConfusion Lead.noConfusion same.1.symm) id
  | signedIn device =>
    cases other with
    | signedIn otherDevice =>
      refine ⟨fun ⟨_, same⟩ => ?_, fun same => ⟨rfl, congrArg (· ++ ":" ++ "signed-in") same⟩⟩
      exact (joined_inj_of_back (by decide) (by decide) same).1
    | revoked otherDevice seconds =>
      refine iff_of_false (fun ⟨_, same⟩ => ?_) id
      exact absurd (joined_inj_of_back (by decide) (by decide) same).2 (by decide)
    | consent entry =>
      exact iff_of_false (fun same => not_lead_consent Lead.noConfusion Lead.noConfusion same.1) id
    | _ => exact iff_of_false (fun same => nomatch same.1) id
  | revoked device seconds =>
    cases other with
    | revoked otherDevice otherSeconds =>
      refine ⟨fun ⟨_, same⟩ => ?_, fun same => ⟨rfl, congrArg (· ++ ":" ++ "revoked") same⟩⟩
      exact (joined_inj_of_back (by decide) (by decide) same).1
    | signedIn otherDevice =>
      refine iff_of_false (fun ⟨_, same⟩ => ?_) id
      exact absurd (joined_inj_of_back (by decide) (by decide) same).2 (by decide)
    | consent entry =>
      exact iff_of_false (fun same => not_lead_consent Lead.noConfusion Lead.noConfusion same.1) id
    | _ => exact iff_of_false (fun same => nomatch same.1) id

/-! ### What the feed is to be -/

structure SameButContact (one other : ConsentEntry) : Prop where
  kind : other.subject.kind = one.subject.kind
  id : one.subject.kind ≠ .contact → other.subject.id = one.subject.id
  connection : other.connection = one.connection
  network : other.network = one.network
  state : other.state = one.state
  decidedAt : other.decidedAt = one.decidedAt
  decisionSequence : other.decisionSequence = one.decisionSequence

structure SameButContacts (one other : Documents) : Prop where
  bridges : other.bridges = one.bridges
  devices : other.devices = one.devices
  moves : other.moves = one.moves
  transitions : other.transitions = one.transitions
  consent : List.Forall₂ SameButContact one.consent other.consent

section Feed

variable {Instant : Type} [LinearOrder Instant] (collation : Collation) (instant : String → Instant)
  (documents : Documents)

/-- The feed has at most its length, no two rows of one id, and the rows of the newest instants in
the order of these. Whom a contact's decision is about makes no difference. -/
structure IsFeed : Prop where
  shown : ∃ all feed rest, entries documents = some all ∧
    activityFeed collation documents = some feed ∧ feed.length ≤ feedLength ∧
      (feed.map ActivityEntry.id).Nodup ∧
        feed.Pairwise (fun left right => instant right.writtenAt ≤ instant left.writtenAt) ∧
          (feed ++ rest).Perm all ∧ (rest ≠ [] → feed.length = feedLength) ∧
            ∀ left ∈ feed, ∀ right ∈ rest, instant right.writtenAt ≤ instant left.writtenAt
  discreet : ∀ other, SameButContacts documents other →
    activityFeed collation other = activityFeed collation documents

/-- An event comes before another, or level with it, where its instant's text is not the lesser. -/
def TextNotAfter (left right : Event) : Prop :=
  collation.localeCompare right.writtenAt left.writtenAt ≤ 0

instance decidableTextNotAfter : DecidableRel (TextNotAfter collation) :=
  fun _ _ => inferInstanceAs (Decidable (_ ≤ _))

instance : Std.Total (TextNotAfter collation) where
  total := fun one other => by
    unfold TextNotAfter
    have opposite := collation.antisymmetric other.writtenAt one.writtenAt
    omega

instance : IsTrans Event (TextNotAfter collation) where
  trans := fun _ _ _ early late => collation.transitive _ _ _ late early

/-- Fewer than ten events come before this one, by the texts of their instants. -/
def Early (place : Fin (events documents).length) : Prop :=
  (List.finRange (events documents).length).countP
    (Precedes (events documents) (TextNotAfter collation) · place) < feedLength

/-- Every date of a device can be written, no two of the first ten events are the same by what ids
tell, and none of them is older than one that comes behind it. -/
structure TextsTell : Prop where
  dated : ∀ device ∈ documents.devices, Dated device
  apart : ∀ one other, one ≠ other → Early collation documents one →
    Early collation documents other →
      ¬SameEvent ((events documents).get one) ((events documents).get other)
  ordered : ∀ one other, Early collation documents one →
    Precedes (events documents) (TextNotAfter collation) one other →
      instant ((events documents).get other).writtenAt ≤
        instant ((events documents).get one).writtenAt

/-! ### The feed by its places -/

variable {collation instant documents}

theorem consentEntry_eq (same : SameButContact one other) :
    consentEntry other = consentEntry one := by
  unfold consentEntry
  rw [same.kind, same.network, same.state, same.decidedAt, same.decisionSequence]
  by_cases isPersona : one.subject.kind = .persona
  · rw [if_pos isPersona, if_pos isPersona,
      same.id (by rw [isPersona]; exact SubjectType.noConfusion)]
  · rw [if_neg isPersona, if_neg isPersona]

theorem map_consentEntry {one other : List ConsentEntry}
    (same : List.Forall₂ SameButContact one other) :
    other.map consentEntry = one.map consentEntry := by
  induction same with
  | nil => rfl
  | cons isFirst _ inductionHypothesis =>
    rw [List.map_cons, List.map_cons, consentEntry_eq isFirst, inductionHypothesis]

theorem entries_of_sameButContacts {other : Documents} (same : SameButContacts documents other) :
    entries other = entries documents := by
  unfold entries
  rw [same.bridges, same.devices, same.moves, same.transitions, map_consentEntry same.consent]

theorem dated_of_entries {all : List ActivityEntry} (isAll : entries documents = some all) :
    ∀ device ∈ documents.devices, Dated device := by
  obtain ⟨rows, areRows, -⟩ := Option.bind_eq_some_iff.mp isAll
  exact dated_of_mapM areRows

theorem exists_places (collation : Collation) (dated : ∀ device ∈ documents.devices, Dated device) :
    ∃ places : List (Fin (events documents).length),
      places.Perm (List.finRange (events documents).length) ∧
        places.Pairwise (Precedes (events documents) (TextNotAfter collation)) ∧
          (∀ place, place ∈ places.take feedLength ↔ Early collation documents place) ∧
            activityFeed collation documents = some ((places.take feedLength).map fun place =>
              ((events documents).get place).entry) := by
  obtain ⟨places, perm, ordered, isSorted⟩ :=
    @exists_sorted_places _ (TextNotAfter collation) _ (events documents) _ _
  refine ⟨places, perm, ordered, fun place => ?_, ?_⟩
  · rw [mem_take_iff_countP (fun one other => precedes_asymm) ordered
      (perm.symm.subset (List.mem_finRange place)), perm.countP_eq]
    rfl
  · have sorted : ((events documents).map Event.entry).insertionSort collation.NotAfter =
        ((events documents).insertionSort (TextNotAfter collation)).map Event.entry := by
      refine (List.map_insertionSort _ collation.NotAfter Event.entry _
        fun one _ other _ => ?_).symm
      unfold Collation.NotAfter TextNotAfter
      rw [writtenAt_entry, writtenAt_entry]
    unfold activityFeed
    rw [entries_eq dated, Option.bind_eq_bind, Option.bind_some, sorted, isSorted, List.map_map,
      ← List.map_take]
    rfl

theorem rel_of_precedes {places : List (Fin (events documents).length)}
    (ordered : places.Pairwise (Precedes (events documents) (TextNotAfter collation)))
    {holds : Fin (events documents).length → Fin (events documents).length → Prop}
    (pairs : places.Pairwise holds) {one other : Fin (events documents).length}
    (isOne : one ∈ places) (isOther : other ∈ places)
    (precedes : Precedes (events documents) (TextNotAfter collation) one other) :
    holds one other := by
  obtain ⟨front, back, rfl⟩ := List.append_of_mem isOne
  have pairsOne := (List.pairwise_append.mp pairs).2.1
  obtain ⟨-, -, across⟩ := List.pairwise_append.mp ordered
  rcases List.mem_append.mp isOther with inFront | inBack
  · exact absurd precedes (precedes_asymm (across other inFront one List.mem_cons_self))
  · rcases List.mem_cons.mp inBack with rfl | inBack
    · exact absurd precedes (precedes_asymm precedes)
    · exact List.rel_of_pairwise_cons pairsOne inBack

end Feed

/-! ### One decision over two connections of a kind -/

namespace TwoConnections

/-- Texts in the order of their characters. -/
def byCharacters : Collation where
  localeCompare := fun left right => if left < right then -1 else if right < left then 1 else 0
  antisymmetric := fun left right => by
    rcases lt_trichotomy left right with before | same | after
    · simp [before, lt_asymm before]
    · simp [same]
    · simp [after, lt_asymm after]
  transitive := fun left middle right early late => by
    have notAfter : ∀ {one other : String},
        (if one < other then -1 else if other < one then 1 else 0 : Int) ≤ 0 ↔ one ≤ other := by
      intro one other
      rcases lt_trichotomy one other with before | same | after
      · simp [before, before.le]
      · simp [same]
      · simp [after, lt_asymm after, not_le.mpr after]
    exact notAfter.mpr ((notAfter.mp early).trans (notAfter.mp late))

def entryOf (connection : String) : ConsentEntry where
  subject := ⟨.contact, "@alice:example.org"⟩
  connection := connection
  network := .whatsapp
  state := .granted
  decidedAt := "2026-09-20T09:00:00Z"
  decisionSequence := 7

def documents : Documents where
  bridges := []
  consent := [entryOf "whatsapp", entryOf "whatsapp-work"]
  devices := []
  moves := []
  transitions := []

end TwoConnections

end Twalk.Dashboard
