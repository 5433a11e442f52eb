/-
This file models the reading half of the Gateway, `companion-gateway/src/suggestions.rs`:
the listing the approval screen draws from and the read of one suggestion. Both walk the
suggestion subject from at most a window before the stream's end, on their own, beside the
lookup an approval makes. What a reply would reach and what the draft did before it was
written are filled in from other reads once the suggestions are chosen, and are not here.
-/

import Twalk.Approval
import Twalk.Library.Tail

namespace Twalk.Shown

open Consent Store Approval

/-! ### The document -/

structure Answering where
  contact : Option String
  summary : String
deriving DecidableEq, Repr

/-- Whether the times the reply names were checked. -/
structure Verified where
  state : String
  count : Option Nat
deriving DecidableEq, Repr

structure SuggestionDocument where
  id : String
  source : String
  time : String
  network : String
  consent : String
  personaId : String
  triggerEventId : String
  triggerEventType : String
  body : String
  format : String
  disclosure : Option String
  context : Option Answering
  attempt : Option Nat
  expiresAt : Option String
  times : Option Verified
deriving DecidableEq, Repr

def optionalMember {Value : Type} (read : Json → Option Value) (document : Json) (name : String) :
    Option (Option Value) :=
  match document.get? name with
  | none => some none
  | some .null => some none
  | some member => (read member).map some

/-- An unsigned number of 64 bits. -/
def word (member : Json) : Option Nat :=
  member.asNat.filter fun value => value < 0x10000000000000000

def Answering.read (member : Json) : Option Answering := do
  let contact ← optionalText member "contact"
  let summary ← text member "summary"
  return ⟨contact, summary⟩

def Verified.read (member : Json) : Option Verified := do
  let state ← text member "state"
  let count ← optionalMember word member "count"
  return ⟨state, count⟩

def SuggestionDocument.read (document : Json) : Option SuggestionDocument := do
  let id ← text document "id"
  let source ← text document "source"
  let time ← text document "time"
  let network ← text document "network"
  let consent ← text document "consent"
  let data ← document.get? "data"
  let personaId ← text data "persona_id"
  let trigger ← data.get? "trigger"
  let triggerEventId ← text trigger "event_id"
  let triggerEventType ← text trigger "event_type"
  let suggestion ← data.get? "suggestion"
  let body ← text suggestion "body"
  let format ← text suggestion "format"
  let disclosure ← optionalText data "disclosure"
  let context ← optionalMember Answering.read data "context"
  let attempt ← optionalMember word data "attempt"
  let expiresAt ← optionalText data "expires_at"
  let times ← optionalMember Verified.read data "times"
  return ⟨id, source, time, network, consent, personaId, triggerEventId, triggerEventType, body,
    format, disclosure, context, attempt, expiresAt, times⟩

/-! ### What is listed -/

inductive Standing where
  | approvable
  | expired
  | approved
deriving DecidableEq, Repr

def standing (instant : String → Option Int) (approval : Option RecordedApproval)
    (expiresAt : Option String) (now : String) : Standing :=
  if approval.isSome then .approved
  else match expiresAt with
    | some expiresAt => if hasPassed instant expiresAt now then .expired else .approvable
    | none => .approvable

/-- A context is shown under the consent of the words it derives from. -/
def listedContext (context : Option Answering) (label : State) : Option Answering :=
  context.filter fun _ => label = .granted

/-- One of the contract's two states, or nothing. -/
def listedTimes (member : Option Verified) : Option Verified :=
  member.filter fun times => times.state == "checked" || times.state == "unverified"

def listedDisclosure (member : Option String) : Option String :=
  member.filter isContractSentence

structure Listed where
  eventId : String
  source : String
  personaId : String
  network : Network
  consentLabel : State
  producedAt : String
  expiresAt : Option String
  attempt : Option Nat
  triggerEventId : String
  triggerEventType : String
  suggestion : Content
  disclosure : Option String
  context : Option Answering
  times : Option Verified
  streamSequence : Nat
  standing : Standing
  approval : Option RecordedApproval

/-- The stretch of the stream that a read covers. -/
structure Window where
  fromSequence : Nat
  toSequence : Nat
  sequences : Nat
  reachedStartOfStream : Bool
deriving DecidableEq, Repr

structure Listing where
  suggestions : List Listed
  window : Window
  truncated : Bool
  unreadable : Nat

/-- The most a listing answers with. -/
def maxLimit : Nat := 200

/-! ### One bounded read -/

abbrev Entry := SuggestionDocument × Nat

def entryOf (message : Message BusMessage) : Option Entry :=
  (SuggestionDocument.read message.payload.payload).map (·, message.position)

/-- What the loop holds: the documents it keeps, how many it saw, and how many messages of the
subject are no such document. -/
structure Walk where
  kept : List Entry
  seen : Nat
  unreadable : Nat

/-- The loop over what the bus delivers: it keeps the last documents, or stops at the one it
looks for. -/
def walk (wanted : Option String) (limit : Nat) : Walk → List (Message BusMessage) → Walk
  | state, [] => state
  | state, message :: rest =>
    match entryOf message with
    | none => walk wanted limit { state with unreadable := state.unreadable + 1 } rest
    | some entry =>
      match wanted with
      | some id =>
        if entry.1.id ≠ id then walk wanted limit state rest
        else { state with kept := state.kept ++ [entry] }
      | none =>
        walk wanted limit
          { state with kept := push limit state.kept entry, seen := state.seen + 1 } rest

/-- One bounded read of the suggestion subject. -/
structure Reading where
  kept : List Entry
  window : Window
  truncated : Bool
  unreadable : Nat

def batch (bus : Bus) (subject : String) (start : Nat) : List (Message BusMessage) :=
  bus.stream.messages.filter fun message =>
    message.payload.subject == subject && start ≤ message.position &&
      message.position ≤ bus.stream.lastPosition

/-- What of a batch is delivered before a message of it fails. -/
def delivered {Item : Type} (upTo : Option Nat) (items : List Item) : List Item :=
  match upTo with
  | some count => items.take count
  | none => items

structure Suggestions where
  store : ApprovalStore
  bus : Bus
  lookupWindow : Nat

namespace Suggestions

variable (suggestions : Suggestions)

def read (wanted : Option String) (limit : Nat) (busRead : BusRead) : Except Refusal Reading :=
  match busRead with
  | .fails detail => .error (.busUnreachable detail)
  | .delivers upTo =>
    let first := max suggestions.bus.firstSequence 1
    let last := suggestions.bus.stream.lastPosition
    if last = 0 ∨ last < first then
      .ok ⟨[], ⟨0, 0, suggestions.lookupWindow, true⟩, false, 0⟩
    else
      let start := max (last - suggestions.lookupWindow) first
      let state := walk wanted limit ⟨[], 0, 0⟩
        (delivered upTo (batch suggestions.bus suggestSubject start))
      .ok {
        kept := state.kept
        window := ⟨start, last, suggestions.lookupWindow, start ≤ first⟩
        truncated := wanted.isNone && state.kept.length < state.seen
        unreadable := state.unreadable }

/-- What one call is given beside the bus: the `time` library's reading of an instant, the moment
of the call, and which approvals the store does not answer for. -/
structure Asking where
  instant : String → Option Int
  now : String
  failing : String → Option String

/-- Turns a document into the answer: the contract's values this build understands, and where it
stands. -/
def settle (asking : Asking) (entry : Entry) : Except Refusal Listed := do
  let document := entry.1
  let network ← readable (.network document.network) (Network.parse document.network)
  let consentLabel ← readable (.consent document.consent) (State.parse document.consent)
  let format ← readable (.format document.format) (Format.parse document.format)
  attempted (asking.failing document.id) .storeUnavailable
  let approval := suggestions.store.approval document.id
  return {
    eventId := document.id
    source := document.source
    personaId := document.personaId
    network := network
    consentLabel := consentLabel
    producedAt := document.time
    expiresAt := document.expiresAt
    attempt := document.attempt
    triggerEventId := document.triggerEventId
    triggerEventType := document.triggerEventType
    suggestion := ⟨document.body, format⟩
    disclosure := listedDisclosure document.disclosure
    context := listedContext document.context consentLabel
    times := listedTimes document.times
    streamSequence := entry.2
    standing := standing asking.instant approval document.expiresAt asking.now
    approval := approval }

def settleAll (asking : Asking) : List Entry → Except Refusal (List Listed × Nat)
  | [] => .ok ([], 0)
  | entry :: rest =>
    match suggestions.settle asking entry with
    | .ok listed => do
      let (suggestions, unreadable) ← settleAll asking rest
      return (listed :: suggestions, unreadable)
    | .error (.suggestionUnreadable _) => do
      let (suggestions, unreadable) ← settleAll asking rest
      return (suggestions, unreadable + 1)
    | .error refusal => .error refusal

def list (asking : Asking) (limit : Nat) (busRead : BusRead) : Except Refusal Listing := do
  let limit := max 1 (min limit maxLimit)
  let reading ← suggestions.read none limit busRead
  let (suggestions, unreadable) ← suggestions.settleAll asking reading.kept.reverse
  return {
    suggestions := suggestions
    window := reading.window
    truncated := reading.truncated
    unreadable := reading.unreadable + unreadable }

def one (asking : Asking) (eventId : String) (busRead : BusRead) : Except Refusal Listed := do
  let reading ← suggestions.read (some eventId) 1 busRead
  match reading.kept.head? with
  | some entry => suggestions.settle asking entry
  | none =>
    if reading.window.reachedStartOfStream then .error .suggestionNotFound
    else .error (.suggestionOutOfReach suggestions.lookupWindow)

end Suggestions

end Twalk.Shown
