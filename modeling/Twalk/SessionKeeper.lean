/-
This file models how the Companion keeps its session alive: the session keeper of
`companion/src/lib/session/refresh.ts` with the state it notes in `session/state.ts`, the repair of
a refused call in `companion/src/lib/api/client.ts`, and the sign-in of `session/signin.ts`. Any
number of tabs share one cookie jar. The Gateway is that of `companion-gateway/src/session.rs` as
the browser sees it: each device has one pair of tokens, a refresh replaces both, and either may
stop being honoured at any time. A pair is known here by the exchange it was issued in. Requests
are handled and answers arrive in any order, or never; whom a session belongs to is left out.
-/

import Mathlib.Logic.Function.Basic
import Twalk.Library.System

namespace Twalk.Keeper

/-! ### The Gateway -/

/-- A device: the pair it was issued last, and whether the device token and the refresh token of
that pair are still honoured. -/
structure Device where
  pair : Nat
  deviceToken : Bool
  refreshToken : Bool

structure Gateway where
  devices : List Device
  rotatedAway : List Nat

namespace Gateway

variable (gateway : Gateway)

def authenticates (token : Option Nat) : Bool :=
  gateway.devices.any fun device => some device.pair == token && device.deviceToken

def accepts (token : Option Nat) : Bool :=
  gateway.devices.any fun device => some device.pair == token && device.refreshToken

def refresh (pair issued : Nat) : Gateway where
  devices := gateway.devices.map fun device =>
    if device.pair = pair ∧ device.refreshToken = true then ⟨issued, true, true⟩ else device
  rotatedAway := pair :: gateway.rotatedAway

def issue (issued : Nat) : Gateway :=
  { gateway with devices := gateway.devices ++ [⟨issued, true, true⟩] }

def lapse (pair : Nat) : Gateway :=
  { gateway with devices := gateway.devices.map fun device =>
      if device.pair = pair then { device with deviceToken := false } else device }

def expire (pair : Nat) : Gateway :=
  { gateway with devices := gateway.devices.map fun device =>
      if device.pair = pair then { device with refreshToken := false } else device }

def revoke (pair : Nat) : Gateway := (gateway.lapse pair).expire pair

end Gateway

/-! ### What is under way -/

/-- The cookies the tabs share. -/
structure Jar where
  deviceToken : Option Nat
  refreshToken : Option Nat

/-- How the Gateway answers a request that carries a device token. Of a refused token it is noted
whether it had been rotated away. -/
inductive Reply where
  | admitted
  | refused (rotatedAway : Bool)
deriving DecidableEq

/-- A request under the device token the jar held when it was sent, and the answer to it once the
Gateway has handled it. -/
structure Request where
  deviceToken : Option Nat
  reply : Option Reply
deriving DecidableEq

def Request.handled (request : Request) (gateway : Gateway) : Request :=
  match request.reply with
  | some _ => request
  | none =>
    { request with reply := some (
        if gateway.authenticates request.deviceToken then .admitted
        else .refused (request.deviceToken.any gateway.rotatedAway.contains)) }

inductive Credential where
  | refreshToken (presented : Option Nat)
  | openIdToken
deriving DecidableEq

structure Exchange where
  tab : Nat
  credential : Credential
  granted : Option Bool

def Exchange.isRefresh (exchange : Exchange) : Prop :=
  ∃ presented, exchange.credential = .refreshToken presented

/-! ### A tab -/

/-- A lifetime that was answered with, in seconds, and when it ends, in milliseconds. -/
structure Lifetime where
  expiresIn : Nat
  expiresAt : Nat
deriving DecidableEq

inductive SessionStatus where
  | unknown
  | signedOut
  | live (lifetime : Option Lifetime)
  | expired
deriving DecidableEq

/-- Whether a tab says that nobody is signed in any more. -/
def SessionStatus.isOver : SessionStatus → Bool
  | signedOut | expired => true
  | unknown | live _ => false

def SessionStatus.afterUnauthenticated : SessionStatus → SessionStatus
  | live _ | expired => .expired
  | unknown | signedOut => .signedOut

/-- Where `startSessionKeeper` is: it joins a refresh, and where that fails it asks who is signed
in. -/
inductive Start where
  | unstarted
  | waiting
  | refused
  | asking (request : Request)
  | done
deriving DecidableEq

structure Tab where
  session : SessionStatus
  inFlight : Option Nat
  timer : Bool
  dueAt : Option Nat
  start : Start

def Tab.opened : Tab where
  session := .unknown
  inFlight := none
  timer := false
  dueAt := none
  start := .unstarted

/-- How long to wait before a token is renewed that lives so many seconds, in milliseconds. -/
def refreshAfter (expiresIn : Nat) : Nat :=
  if expiresIn = 0 then 1000
  else max 1000 (expiresIn * 1000 - max 1000 (min 60000 (expiresIn * 200)))

/-- After a refresh that failed for a reason that is not a refusal. -/
def retryAfter : Nat := 30000

namespace Tab

variable (tab : Tab)

def schedule (now after : Nat) : Tab := { tab with timer := true, dueAt := some (now + after) }

def clearSchedule : Tab := { tab with timer := false, dueAt := none }

def noteLive (lifetime : Option Lifetime) : Tab := { tab with session := .live lifetime }

def noteUnauthenticated : Tab := { tab with session := tab.session.afterUnauthenticated }

def issued (now expiresIn : Nat) : Tab :=
  (tab.noteLive (some ⟨expiresIn, now + expiresIn * 1000⟩)).schedule now (refreshAfter expiresIn)

/-- The refresh is over, and the keeper goes on where it was waiting for it. -/
def lands (start : Start) : Tab :=
  { tab with inFlight := none, start := if tab.start = .waiting then start else tab.start }

end Tab

/-! ### A call -/

/-- Where a call of the client is. It waits for the refresh it asked for, and is replayed. Of a call
that was denied it is noted whether a session was to be had, and whether the token of its replay had
been rotated away. -/
inductive Stage where
  | sent (request : Request)
  | unauthenticated
  | waiting
  | repaired
  | replaying (request : Request)
  | answered
  | denied (toBeHad overtaken : Bool)
deriving DecidableEq

structure Call where
  tab : Nat
  stage : Stage

/-! ### The browser -/

structure Browser where
  now : Nat
  jar : Jar
  gateway : Gateway
  tabs : Nat → Tab
  calls : Nat → Option Call
  exchanges : Nat → Option Exchange
  asked : Nat

namespace Browser

variable (browser : Browser)

def put (tab : Nat) (now : Tab) : Browser :=
  { browser with tabs := Function.update browser.tabs tab now }

def become (id : Nat) (stage : Stage) : Browser :=
  { browser with
    calls := Function.update browser.calls id
      ((browser.calls id).map fun call => { call with stage := stage }) }

def request : Request := ⟨browser.jar.deviceToken, none⟩

def honoured : Bool := browser.gateway.accepts browser.jar.refreshToken

def ask (tab : Nat) (credential : Credential) : Browser :=
  { browser with
    exchanges := Function.update browser.exchanges browser.asked (some ⟨tab, credential, none⟩)
    asked := browser.asked + 1 }

def refreshSession (tab : Nat) : Browser :=
  match (browser.tabs tab).inFlight with
  | some _ => browser
  | none => (browser.ask tab (.refreshToken browser.jar.refreshToken)).put tab
      { browser.tabs tab with inFlight := some browser.asked }

def close (exchange : Nat) : Browser :=
  { browser with exchanges := Function.update browser.exchanges exchange none }

def settle (tab : Nat) (stage : Stage) : Browser :=
  { browser with
    calls := fun id => (browser.calls id).map fun call =>
      if call.tab = tab ∧ call.stage = .waiting then { call with stage := stage } else call }

def keep (exchange : Nat) : Browser := { browser with jar := ⟨some exchange, some exchange⟩ }

def answer (exchange : Nat) (answered : Exchange) (gateway : Gateway) : Browser :=
  { browser with
    gateway := gateway
    exchanges := Function.update browser.exchanges exchange (some answered) }

def handled (exchange : Nat) (ofTheOwner : Bool) : Browser :=
  match browser.exchanges exchange with
  | some ⟨tab, .refreshToken presented, none⟩ =>
    match presented.filter fun pair => browser.gateway.accepts (some pair) with
    | some pair => browser.answer exchange ⟨tab, .refreshToken presented, some true⟩
        (browser.gateway.refresh pair exchange)
    | none => browser.answer exchange ⟨tab, .refreshToken presented, some false⟩ browser.gateway
  | some ⟨tab, .openIdToken, none⟩ => browser.answer exchange ⟨tab, .openIdToken, some ofTheOwner⟩
      (if ofTheOwner then browser.gateway.issue exchange else browser.gateway)
  | _ => browser

def arrives (expiresIn exchange : Nat) : Browser :=
  match browser.exchanges exchange with
  | some ⟨tab, .refreshToken _, some true⟩ =>
    (((browser.close exchange).keep exchange).put tab
      (((browser.tabs tab).issued browser.now expiresIn).lands .done)).settle tab .repaired
  | some ⟨tab, .refreshToken _, some false⟩ =>
    ((browser.close exchange).put tab
      ((browser.tabs tab).clearSchedule.noteUnauthenticated.lands .refused)).settle tab
        (.denied browser.honoured false)
  | some ⟨tab, .openIdToken, some true⟩ =>
    ((browser.close exchange).keep exchange).put tab
      ((browser.tabs tab).issued browser.now expiresIn)
  | some ⟨_, .openIdToken, some false⟩ => browser.close exchange
  | _ => browser

/-- An exchange is not answered, or not with a pair or a refusal. -/
def fails (exchange : Nat) : Browser :=
  match browser.exchanges exchange with
  | some ⟨tab, .refreshToken _, _⟩ =>
    ((browser.close exchange).put tab
      (((browser.tabs tab).schedule browser.now retryAfter).lands .refused)).settle tab
        (.denied false false)
  | some ⟨_, .openIdToken, _⟩ => browser.close exchange
  | none => browser

/-- The keeper asks who is signed in. -/
def asks (tab : Nat) : Browser :=
  match (browser.tabs tab).start with
  | .refused => browser.put tab { browser.tabs tab with start := .asking browser.request }
  | _ => browser

def questionHandled (tab : Nat) : Browser :=
  match (browser.tabs tab).start with
  | .asking request => browser.put tab
      { browser.tabs tab with start := .asking (request.handled browser.gateway) }
  | _ => browser

def questionArrives (tab : Nat) : Browser :=
  match (browser.tabs tab).start with
  | .asking ⟨_, some .admitted⟩ =>
    browser.put tab { (browser.tabs tab).noteLive none with start := .done }
  | .asking ⟨_, some (.refused _)⟩ =>
    browser.put tab { (browser.tabs tab).noteUnauthenticated with start := .done }
  | _ => browser

/-- The keeper's question is not answered. -/
def questionFails (tab : Nat) : Browser :=
  match (browser.tabs tab).start with
  | .asking _ => browser.put tab { browser.tabs tab with start := .done }
  | _ => browser

def callHandled (id : Nat) : Browser :=
  match browser.calls id with
  | some ⟨_, .sent request⟩ => browser.become id (.sent (request.handled browser.gateway))
  | some ⟨_, .replaying request⟩ =>
    browser.become id (.replaying (request.handled browser.gateway))
  | _ => browser

def callArrives (id : Nat) : Browser :=
  match browser.calls id with
  | some ⟨tab, .sent ⟨_, some (.refused _)⟩⟩ =>
    if (browser.tabs tab).session = .signedOut then
      browser.become id (.denied browser.honoured false)
    else browser.become id .unauthenticated
  | some ⟨_, .replaying ⟨_, some (.refused rotatedAway)⟩⟩ =>
    browser.become id (.denied browser.honoured rotatedAway)
  | some ⟨_, .sent ⟨_, some .admitted⟩⟩ | some ⟨_, .replaying ⟨_, some .admitted⟩⟩ =>
    browser.become id .answered
  | _ => browser

def callFails (id : Nat) : Browser :=
  match browser.calls id with
  | some ⟨_, .sent _⟩ => browser.become id .answered
  | some ⟨_, .replaying _⟩ => browser.become id (.denied browser.honoured false)
  | _ => browser

def repairs (id : Nat) : Browser :=
  match browser.calls id with
  | some ⟨tab, .unauthenticated⟩ => (browser.refreshSession tab).become id .waiting
  | _ => browser

def replays (id : Nat) : Browser :=
  match browser.calls id with
  | some ⟨_, .repaired⟩ => browser.become id (.replaying browser.request)
  | _ => browser

def makes (id tab : Nat) : Browser :=
  match browser.calls id with
  | none =>
    { browser with
      calls := Function.update browser.calls id (some ⟨tab, .sent browser.request⟩) }
  | some _ => browser

def boots (tab : Nat) : Browser :=
  if (browser.tabs tab).start = .unstarted then
    let refreshing := browser.refreshSession tab
    refreshing.put tab { refreshing.tabs tab with start := .waiting }
  else browser

def fires (tab : Nat) : Browser :=
  if (browser.tabs tab).timer = true ∧ (browser.tabs tab).dueAt.any (· ≤ browser.now) then
    let refreshing := browser.refreshSession tab
    refreshing.put tab { refreshing.tabs tab with timer := false }
  else browser

def wakes (tab : Nat) : Browser :=
  if (browser.tabs tab).dueAt.any (· ≤ browser.now) then browser.refreshSession tab else browser

end Browser

/-! ### What can happen -/

inductive Happening where
  | passes (elapsed : Nat)
  | boots (tab : Nat)
  | fires (tab : Nat)
  | wakes (tab : Nat)
  | makes (call tab : Nat)
  | signsIn (tab : Nat)
  | repairs (call : Nat)
  | replays (call : Nat)
  | asks (tab : Nat)
  | handled (exchange : Nat) (ofTheOwner : Bool)
  | arrives (exchange : Nat)
  | fails (exchange : Nat)
  | questionHandled (tab : Nat)
  | questionArrives (tab : Nat)
  | questionFails (tab : Nat)
  | callHandled (call : Nat)
  | callArrives (call : Nat)
  | callFails (call : Nat)
  | lapses (pair : Nat)
  | expires (pair : Nat)
  | revoked (pair : Nat)
  | dropsDeviceToken
  | dropsRefreshToken

/-- What a happening does, where a device token lives so many seconds. What cannot happen changes
nothing. -/
def step (expiresIn : Nat) (browser : Browser) : Happening → Browser
  | .passes elapsed => { browser with now := browser.now + elapsed }
  | .boots tab => browser.boots tab
  | .fires tab => browser.fires tab
  | .wakes tab => browser.wakes tab
  | .makes call tab => browser.makes call tab
  | .signsIn tab => browser.ask tab .openIdToken
  | .repairs call => browser.repairs call
  | .replays call => browser.replays call
  | .asks tab => browser.asks tab
  | .handled exchange ofTheOwner => browser.handled exchange ofTheOwner
  | .arrives exchange => browser.arrives expiresIn exchange
  | .fails exchange => browser.fails exchange
  | .questionHandled tab => browser.questionHandled tab
  | .questionArrives tab => browser.questionArrives tab
  | .questionFails tab => browser.questionFails tab
  | .callHandled call => browser.callHandled call
  | .callArrives call => browser.callArrives call
  | .callFails call => browser.callFails call
  | .lapses pair => { browser with gateway := browser.gateway.lapse pair }
  | .expires pair => { browser with gateway := browser.gateway.expire pair }
  | .revoked pair => { browser with gateway := browser.gateway.revoke pair }
  | .dropsDeviceToken => { browser with jar := { browser.jar with deviceToken := none } }
  | .dropsRefreshToken => { browser with jar := { browser.jar with refreshToken := none } }

/-- What there is before a tab is opened: the devices of the Gateway, and the pair in the jar, all
issued before. -/
structure Before where
  now : Nat
  jar : Jar
  gateway : Gateway
  issued : Nat
  devicesIssued : ∀ device ∈ gateway.devices, device.pair < issued
  rotatedIssued : ∀ pair ∈ gateway.rotatedAway, pair < issued
  deviceTokenIssued : ∀ pair, jar.deviceToken = some pair → pair < issued
  refreshTokenIssued : ∀ pair, jar.refreshToken = some pair → pair < issued

def Before.browser (before : Before) : Browser where
  now := before.now
  jar := before.jar
  gateway := before.gateway
  tabs _ := .opened
  calls _ := none
  exchanges _ := none
  asked := before.issued

end Twalk.Keeper
