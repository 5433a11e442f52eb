/-
This file models the logins of one bridge, after `companion-gateway/src/bridge.rs`:
what a login shows to a poll, how an answer of the bridge is read and written into
it, and the calls that start a login, submit to it, cancel it and hold its blocking
step. A call goes forward one section at a time, where a section is what it does
under one lock, one access to a shared flag or counter, or one answer of the bridge.
Calls that name a bridge which is not configured touch nothing and are left out.
-/

import Mathlib.Data.List.Basic
import Twalk.Library.Json
import Twalk.Library.Text

namespace Twalk.BridgeLogin

/-! ### The words of a login -/

inductive StepType where
  | userInput
  | cookies
  | displayAndWait
  | clientHttp
  | webauthn
  | complete
deriving DecidableEq, Repr

def StepType.asStr : StepType → String
  | userInput => "user_input"
  | cookies => "cookies"
  | displayAndWait => "display_and_wait"
  | clientHttp => "client_http"
  | webauthn => "webauthn"
  | complete => "complete"

def StepType.parse (value : String) : Option StepType :=
  [userInput, cookies, displayAndWait, clientHttp, webauthn, complete].find?
    fun stepType => stepType.asStr == value

/-- Whether the Gateway holds the step itself. -/
def StepType.blocks (stepType : StepType) : Bool := stepType == displayAndWait

/-- Where a login has got to, as the Companion polls it. -/
inductive LoginPhase where
  | awaitingInput
  | awaitingRemote
  | complete
  | failed
  | cancelled
deriving DecidableEq, Repr

def LoginPhase.asStr : LoginPhase → String
  | awaitingInput => "awaiting_input"
  | awaitingRemote => "awaiting_remote"
  | complete => "complete"
  | failed => "failed"
  | cancelled => "cancelled"

/-- Whether this phase can be replaced by a new login on the same bridge. -/
def LoginPhase.isTerminal : LoginPhase → Bool
  | complete | failed | cancelled => true
  | awaitingInput | awaitingRemote => false

inductive LoginFailure where
  | loginLost
  | expired
  | webauthnRequired
  | unsupportedStep
  | bridgeRefused
  | bridgeUnreachable
  | bridgeAnswerUnusable
deriving DecidableEq, Repr

/-- One endpoint of a bridge's provisioning API. -/
inductive ProvisioningCall where
  | flows
  | logins
  | whoami
  | start
  | step
  | cancelStep
  | cancelProcess
  | logout
deriving DecidableEq, Repr

def ProvisioningCall.endpoint : ProvisioningCall → String
  | flows => "GET /_matrix/provision/v3/login/flows"
  | logins => "GET /_matrix/provision/v3/logins"
  | whoami => "GET /_matrix/provision/v3/whoami"
  | start => "POST /_matrix/provision/v3/login/start/\x7bflow\x7d"
  | step => "POST /_matrix/provision/v3/login/step/\x7bprocess\x7d/\x7bstep\x7d/\x7btype\x7d"
  | cancelStep => "POST /_matrix/provision/v3/login/step/\x7bprocess\x7d/\x7bstep\x7d/cancel"
  | cancelProcess => "POST /_matrix/provision/v3/login/cancel/\x7bprocess\x7d"
  | logout => "POST /_matrix/provision/v3/logout/\x7blogin_id\x7d"

structure StartedBy where
  deviceId : String
  deviceName : String

inductive BridgeRefusal where
  | unknownBridge (bridgeId : String)
  | loginInFlight (startedBy : StartedBy) (startedAt : Nat)
  | noLoginInFlight
  | invalidRequest (detail : String)
  | tooManyLogins
  | loginExpired (errcode : String)
  | stepCancelled
  | notFoundOnBridge (errcode : String)
  | bridgeRefused (errcode : String) (status : Nat)
  | requestUnreadable (errcode : String)
  | bridgeUnreachable (detail : String)
  | bridgeAnswerUnusable (call : ProvisioningCall) (lookedFor : String)

def BridgeRefusal.label : BridgeRefusal → String
  | unknownBridge _ => "unknown_bridge"
  | loginInFlight _ _ => "login_in_flight"
  | noLoginInFlight => "no_login_in_flight"
  | invalidRequest _ => "invalid_request"
  | tooManyLogins => "too_many_logins"
  | loginExpired _ => "login_expired"
  | stepCancelled => "step_cancelled"
  | notFoundOnBridge _ => "not_found_on_bridge"
  | bridgeRefused _ _ => "bridge_refused"
  | requestUnreadable _ => "bridge_request_unusable"
  | bridgeUnreachable _ => "bridge_unreachable"
  | bridgeAnswerUnusable _ _ => "bridge_answer_unusable"

/-! ### What a poll reads -/

structure CompletedLogin where
  loginId : String
  userId : Option String

/-- One step, as the Companion has to render it. Instants and spans are in nanoseconds. -/
structure StepView where
  stepId : String
  txnId : Option String
  stepType : StepType
  instructions : Option String
  payload : Json
  receivedAt : Nat
  validFor : Nat

/-- The whole pollable state of one login. -/
structure LoginView where
  bridgeId : String
  network : String
  processId : String
  flowId : String
  loginId : Option String
  phase : LoginPhase
  startedAt : Nat
  startedBy : StartedBy
  expiresAt : Nat
  generation : Nat
  step : Option StepView
  login : Option CompletedLogin
  error : Option LoginFailure
  detail : Option String

structure StartLogin where
  flowId : String
  loginId : Option String

structure Device where
  id : String
  name : String

def nanosecondsPerSecond : Nat := 1000000000

/-- The bridge's own deadline for a login process. -/
def maxLoginLifetime : Nat := 30 * 60 * nanosecondsPerSecond

def qrCodeValidity : Nat := 20 * nanosecondsPerSecond

/-- How long a step is worth acting on: one refresh interval for a QR code, what is left of the
process for anything else. -/
def stepValidity (stepType : StepType) (payload : Json) (now deadline : Nat) : Nat :=
  let remaining := deadline - now
  if stepType = .displayAndWait ∧ (payload.get? "type").bind Json.asStr = some "qr" then
    min qrCodeValidity remaining
  else remaining

/-! ### Reading the answer of the bridge -/

structure ParsedStep where
  processId : Option String
  txnId : Option String
  stepId : String
  stepType : StepType
  instructions : Option String
  payload : Json
  loginId : Option String
  userId : Option String

def parseStepType (answer : Json) : Except String StepType :=
  match (answer.get? "type").bind Json.asStr with
  | none => .error "a `type` naming the step"
  | some name =>
    match StepType.parse name with
    | some stepType => .ok stepType
    | none => .error <|
        "a step `type` this build knows: user_input, cookies, display_and_wait, " ++
          "client_http, webauthn or complete"

def parseStep (answer : Json) : Except String ParsedStep :=
  (parseStepType answer).map fun stepType =>
    let complete := (answer.get? "complete").getD .null
    { processId :=
        (((answer.get? "login_process_id").or (answer.get? "process_id")).or
          (answer.get? "login_id")).bind Json.asStr
      txnId := (answer.get? "txn_id").bind Json.asStr
      stepId := ((answer.get? "step_id").bind Json.asStr).getD ""
      stepType := stepType
      instructions := (answer.get? "instructions").bind Json.asStr
      payload := (answer.get? stepType.asStr).getD .null
      loginId := (complete.get? "login_id").bind Json.asStr
      userId := ((complete.get? "user_login_id").or (complete.get? "user_id")).bind Json.asStr }

def readStep (call : ProvisioningCall) (answer : Except BridgeRefusal Json) :
    Except BridgeRefusal ParsedStep :=
  answer.bind fun document =>
    (parseStep document).mapError fun lookedFor => .bridgeAnswerUnusable call lookedFor

def readFirstStep (answer : Except BridgeRefusal Json) : Except BridgeRefusal ParsedStep :=
  (readStep .start answer).bind fun step =>
    if step.processId.isNone ∧ step.stepType ≠ .complete then
      .error (.bridgeAnswerUnusable .start
        ("a `login_id`, which is what mautrix calls the id of the login process " ++
          "it just started"))
    else .ok step

/-! ### Writing it into the login -/

def failStep (failure : LoginFailure) (step : ParsedStep) (generation : Nat) (view : LoginView) :
    LoginView :=
  { view with
    phase := .failed
    generation := generation
    step := none
    error := some failure
    detail := some <|
      "the flow asked for a " ++ step.stepType.asStr ++ " step, which the Companion cannot " ++
        "drive; set provisioning.fail_on_webauthn on the bridge to have it refuse one step " ++
        "earlier" }

/-- The step is one that the user answers, or that the Gateway holds. -/
def advanceStep (step : ParsedStep) (generation now : Nat) (view : LoginView) : LoginView :=
  { view with
    phase := if step.stepType.blocks then .awaitingRemote else .awaitingInput
    generation := generation
    step := some
      { stepId := step.stepId
        txnId := step.txnId
        stepType := step.stepType
        instructions := step.instructions
        payload := step.payload
        receivedAt := now
        validFor := stepValidity step.stepType step.payload now view.expiresAt }
    error := none
    detail := none }

/-- What a step of the bridge makes of the pollable state. -/
def applyStep (step : ParsedStep) (generation now : Nat) (view : LoginView) : LoginView :=
  match step.stepType with
  | .complete =>
    { view with
      phase := .complete
      generation := generation
      step := none
      login := some { loginId := step.loginId.getD "", userId := step.userId }
      error := none
      detail := none }
  | .webauthn => failStep .webauthnRequired step generation view
  | .clientHttp => failStep .unsupportedStep step generation view
  | .userInput | .cookies | .displayAndWait => advanceStep step generation now view

def failureOf : BridgeRefusal → LoginFailure × String
  | .loginExpired errcode => (.expired, "the bridge ended this login: " ++ errcode)
  | .stepCancelled => (.expired, "the step was cancelled on the bridge's side")
  | .tooManyLogins =>
    (.bridgeRefused,
      "the network will not accept another login (FI.MAU.BRIDGE.TOO_MANY_LOGINS)")
  | .bridgeUnreachable detail =>
    (.loginLost,
      "the bridge stopped answering while the Gateway was holding this login (" ++ detail ++
        "). A login in flight does not survive a restart of the bridge or of the Gateway: " ++
        "start again")
  | .bridgeAnswerUnusable call lookedFor =>
    (.bridgeAnswerUnusable,
      "the bridge answered " ++ call.endpoint ++ " and this Gateway could not use its answer: " ++
        "it looked for " ++ lookedFor ++ " and did not find it. The bridge is running and " ++
        "replied — this is a defect in Twalk, not a broken deployment")
  | .notFoundOnBridge errcode =>
    (.loginLost,
      "the bridge no longer knows this login process (" ++ errcode ++ "). A login in flight " ++
        "does not survive a restart of the bridge or of the Gateway: start again")
  | .bridgeRefused errcode status =>
    (.bridgeRefused,
      "the bridge refused with " ++ errcode ++ " (" ++ toString status ++ ")")
  | other => (.bridgeRefused, "the bridge call was refused: " ++ other.label)

/-- What a recorded failure makes of the pollable state. -/
def fail (failure : LoginFailure) (detail : String) (generation : Nat) (view : LoginView) :
    LoginView :=
  { view with
    phase := .failed
    generation := generation
    step := none
    error := some failure
    detail := some detail }

/-- Writes a refusal of a provisioning call into the pollable state. -/
def recordRefusal (refusal : BridgeRefusal) (generation : Nat) (view : LoginView) : LoginView :=
  fail (failureOf refusal).1 (failureOf refusal).2 generation view

inductive Change where
  | advance (step : ParsedStep)
  | refuse (refusal : BridgeRefusal)

def Change.of (answer : Except BridgeRefusal Json) : Change :=
  match readStep .step answer with
  | .ok step => .advance step
  | .error refusal => .refuse refusal

/-- The pollable state after a change is written. -/
def Change.write (generation now : Nat) (view : LoginView) : Change → LoginView
  | advance step => applyStep step generation now view
  | refuse refusal => recordRefusal refusal generation view

def cancelView (view : LoginView) : LoginView :=
  { view with
    phase := .cancelled
    step := none
    detail := some "cancelled from the Companion" }

/-! ### Calls to the bridge -/

structure ProvisioningRequest where
  call : ProvisioningCall
  segments : List String
  query : List (String × String)
  body : Json

structure BridgeConfig where
  bridgeId : String
  network : String
  actingAs : String

def BridgeConfig.ask (config : BridgeConfig) (call : ProvisioningCall) (segments : List String)
    (query : List (String × String)) (body : Json) : ProvisioningRequest where
  call := call
  segments := segments
  query :=
    if query.any fun parameter => parameter.1 == "user_id" then query
    else query ++ [("user_id", config.actingAs)]
  body := body

def BridgeConfig.startRequest (config : BridgeConfig) (actingAs : String) (request : StartLogin) :
    ProvisioningRequest :=
  config.ask .start ["login", "start", request.flowId]
    (("user_id", actingAs) :: request.loginId.toList.map fun loginId => ("login_id", loginId))
    (.object [])

def BridgeConfig.submitRequest (config : BridgeConfig) (view : LoginView) (stepId : String)
    (data : Json) : Except BridgeRefusal ProvisioningRequest :=
  if view.phase ≠ .awaitingInput then
    .error <| .invalidRequest <|
      "this login is " ++ view.phase.asStr ++ ", so there is nothing to submit: the Gateway is " ++
        "holding the step, or the login is over. Poll the login and act on what it reports"
  else
    match view.step with
    | none => .error .noLoginInFlight
    | some step =>
      if step.stepId ≠ stepId then
        .error <| .invalidRequest <|
          "this login is on step " ++ Text.debug step.stepId ++ ", not " ++ Text.debug stepId ++
            ": poll the login and submit against the step it reports"
      else
        .ok <| config.ask .step
          ["login", "step", view.processId, step.stepId, step.stepType.asStr]
          (step.txnId.toList.map fun txnId => ("txn_id", txnId)) data

/-- The call that sits in a blocking step. The transaction id is the one the bridge issued with
the step, and one of the Gateway's own where it issued none. -/
def BridgeConfig.holdRequest (config : BridgeConfig) (processId stepId : String)
    (bridgeTxnId : Option String) (generation : Nat) : ProvisioningRequest :=
  config.ask .step ["login", "step", processId, stepId, StepType.displayAndWait.asStr]
    [("txn_id", bridgeTxnId.getD
      ("twalk-" ++ processId ++ "-" ++ stepId ++ "-" ++ toString generation))]
    (.object [])

def BridgeConfig.cancelProcessRequest (config : BridgeConfig) (processId : String) :
    ProvisioningRequest :=
  config.ask .cancelProcess ["login", "cancel", processId] [] (.object [])

def BridgeConfig.cancelRequests (config : BridgeConfig) (view : LoginView) :
    List ProvisioningRequest :=
  (if view.phase = .awaitingRemote then
    view.step.toList.map fun step =>
      config.ask .cancelStep ["login", "step", view.processId, step.stepId, "cancel"] []
        (.object [])
  else []) ++ [config.cancelProcessRequest view.processId]

/-! ### The calls under way -/

/-- Who drives a login: the start that opened it, a submit, or the task that holds its step. -/
inductive Driver where
  | starting
  | submitting
  | holding
deriving DecidableEq, Repr

/-- How far a driver is: asking the bridge, waiting for its answer, or writing the change that the
answer stands for, which loads the cancelled flag, counts a generation and then writes the view. -/
inductive Drive where
  | asking (stepId : String) (bridgeTxnId : Option String)
  | calling (request : ProvisioningRequest)
  | checking (answer : Except BridgeRefusal Json)
  | loading (change : Change)
  | counting (change : Change)
  | writing (change : Change) (generation now : Nat)

/-- One call or task, by the section it comes to next. -/
inductive Call where
  | startWaiting (device : Device) (actingAs : String) (request : StartLogin)
  | startChecking (device : Device) (actingAs : String) (request : StartLogin)
  | startCalling (device : Device) (request : StartLogin) (asked : ProvisioningRequest)
  | startPlacing (login : Nat)
  | startReading (login : Nat)
  | submitFinding (stepId : String) (data : Json)
  | submitChecking (stepId : String) (data : Json) (login : Nat)
  | submitReading (login : Nat)
  | driving (driver : Driver) (login : Nat) (drive : Drive)
  | cancelFinding
  | cancelLooking (login : Nat)
  | cancelMarking (login : Nat) (asks : List ProvisioningRequest)
  | cancelWriting (login : Nat) (asks : List ProvisioningRequest)
  | cancelCalling (login : Nat) (asks : List ProvisioningRequest)
  | leaving (asked : ProvisioningRequest)
  | answered (view : LoginView)
  | refused (refusal : BridgeRefusal)
  | cancelled (login : Nat)
  | released

def Call.holdsGate : Call → Bool
  | startChecking _ _ _ | startCalling _ _ _ | startPlacing _ | startReading _ => true
  | driving driver _ _ => driver == .starting
  | _ => false

def Driver.after (login : Nat) (change : Change) : Driver → Call
  | starting => .startPlacing login
  | submitting =>
    match change with
    | .advance _ => .submitReading login
    | .refuse refusal => .refused refusal
  | holding => .released

/-- What a driver turns to when the bridge answers. A submit the bridge could not read is refused
and says nothing about the login. -/
def Driver.answered (login : Nat) (answer : Except BridgeRefusal Json) : Driver → Call
  | submitting =>
    match answer with
    | .error (.requestUnreadable errcode) => .refused (.requestUnreadable errcode)
    | answer => .driving submitting login (.loading (Change.of answer))
  | driver => .driving driver login (.checking answer)

/-- The tasks that writing a change spawns: the one that holds a blocking step, or the one that
cancels a process the Companion cannot drive. -/
def Change.spawns (config : BridgeConfig) (login : Nat) (processId : String) : Change → List Call
  | advance step =>
    match step.stepType with
    | .webauthn | .clientHttp => [.leaving (config.cancelProcessRequest processId)]
    | .displayAndWait => [.driving .holding login (.asking step.stepId step.txnId)]
    | .userInput | .cookies | .complete => []
  | refuse _ => []

/-! ### The bridge -/

/-- A login: what the holding task writes and the poll reads. -/
structure ActiveLogin where
  view : LoginView
  generation : Nat
  cancelled : Bool

/-- One bridge: the login in its slot, the call inside its start gate, every login it opened and
every call it was asked. -/
structure Bridge where
  config : BridgeConfig
  slot : Option Nat
  startGate : Option Nat
  logins : List ActiveLogin
  calls : List Call

def Bridge.idle (config : BridgeConfig) : Bridge where
  config := config
  slot := none
  startGate := none
  logins := []
  calls := []

def Bridge.view (bridge : Bridge) (login : Nat) : Option LoginView :=
  bridge.logins[login]?.map ActiveLogin.view

/-- What a poll answers. -/
def Bridge.login (bridge : Bridge) : Except BridgeRefusal LoginView :=
  match bridge.slot.bind bridge.view with
  | none => .error .noLoginInFlight
  | some view => .ok view

/-- The device and instant of a login that is still live on this bridge. -/
def Bridge.inFlight (bridge : Bridge) : Option (StartedBy × Nat) :=
  (bridge.slot.bind bridge.view).bind fun view =>
    if view.phase.isTerminal then none else some (view.startedBy, view.startedAt)

/-- A call turns to its next section. The gate's guard lives as long as the call is inside. -/
def Bridge.become (bridge : Bridge) (index : Nat) (call : Call) : Bridge :=
  { bridge with
    calls := bridge.calls.set index call
    startGate :=
      if call.holdsGate then some index else bridge.startGate.filter fun holder => holder != index }

def Bridge.spawn (bridge : Bridge) (calls : List Call) : Bridge :=
  { bridge with calls := bridge.calls ++ calls }

def Bridge.put (bridge : Bridge) (login : Nat) (active : ActiveLogin) : Bridge :=
  { bridge with logins := bridge.logins.set login active }

def openLogin (config : BridgeConfig) (device : Device) (request : StartLogin) (step : ParsedStep)
    (startedAt : Nat) : ActiveLogin where
  view :=
    { bridgeId := config.bridgeId
      network := config.network
      processId := step.processId.getD ""
      flowId := request.flowId
      loginId := request.loginId
      phase := .awaitingInput
      startedAt := startedAt
      startedBy := { deviceId := device.id, deviceName := device.name }
      expiresAt := startedAt + maxLoginLifetime
      generation := 0
      step := none
      login := none
      error := none
      detail := none }
  generation := 0
  cancelled := false

structure News where
  answer : Except BridgeRefusal Json
  now : Nat

def Bridge.drive (bridge : Bridge) (index : Nat) (news : News) (driver : Driver) (login : Nat)
    (active : ActiveLogin) : Drive → Bridge
  | .asking stepId bridgeTxnId =>
    bridge.become index <| .driving driver login <| .calling <|
      bridge.config.holdRequest active.view.processId stepId bridgeTxnId active.generation
  | .calling _ => bridge.become index (driver.answered login news.answer)
  | .checking answer =>
    bridge.become index <|
      if active.cancelled then driver.after login (Change.of answer)
      else .driving driver login (.loading (Change.of answer))
  | .loading change =>
    bridge.become index <|
      if active.cancelled then driver.after login change
      else .driving driver login (.counting change)
  | .counting change =>
    (bridge.put login { active with generation := active.generation + 1 }).become index <|
      .driving driver login (.writing change (active.generation + 1) news.now)
  | .writing change generation now =>
    ((bridge.put login { active with view := change.write generation now active.view }).become
      index (driver.after login change)).spawn
        (change.spawns bridge.config login active.view.processId)

/-- One section of a call. -/
def Bridge.proceed (bridge : Bridge) (index : Nat) (news : News) : Call → Bridge
  | .startWaiting device actingAs request =>
    if bridge.startGate.isNone then
      bridge.become index (.startChecking device actingAs request)
    else bridge
  | .startChecking device actingAs request =>
    bridge.become index <|
      match bridge.inFlight with
      | some (startedBy, startedAt) => .refused (.loginInFlight startedBy startedAt)
      | none => .startCalling device request (bridge.config.startRequest actingAs request)
  | .startCalling device request _ =>
    match readFirstStep news.answer with
    | .error refusal => bridge.become index (.refused refusal)
    | .ok step =>
      { bridge with
        logins := bridge.logins ++
          [openLogin bridge.config device request step news.now] }.become index <|
        .driving .starting bridge.logins.length (.loading (.advance step))
  | .startPlacing login => { bridge with slot := some login }.become index (.startReading login)
  | .startReading login | .submitReading login =>
    match bridge.view login with
    | none => bridge
    | some view => bridge.become index (.answered view)
  | .submitFinding stepId data =>
    bridge.become index <|
      match bridge.slot with
      | none => .refused .noLoginInFlight
      | some login => .submitChecking stepId data login
  | .submitChecking stepId data login =>
    match bridge.view login with
    | none => bridge
    | some view =>
      bridge.become index <|
        match bridge.config.submitRequest view stepId data with
        | .error refusal => .refused refusal
        | .ok request => .driving .submitting login (.calling request)
  | .driving driver login drive =>
    match bridge.logins[login]? with
    | none => bridge
    | some active => bridge.drive index news driver login active drive
  | .cancelFinding =>
    bridge.become index <|
      match bridge.slot with
      | none => .refused .noLoginInFlight
      | some login => .cancelLooking login
  | .cancelLooking login =>
    match bridge.view login with
    | none => bridge
    | some view => bridge.become index (.cancelMarking login (bridge.config.cancelRequests view))
  | .cancelMarking login asks =>
    match bridge.logins[login]? with
    | none => bridge
    | some active =>
      (bridge.put login { active with cancelled := true }).become index (.cancelWriting login asks)
  | .cancelWriting login asks =>
    match bridge.logins[login]? with
    | none => bridge
    | some active =>
      (bridge.put login { active with view := cancelView active.view }).become index
        (.cancelCalling login asks)
  | .cancelCalling login asks =>
    bridge.become index <|
      if asks.tail.isEmpty then .cancelled login else .cancelCalling login asks.tail
  | .leaving _ => bridge.become index .released
  | .answered _ | .refused _ | .cancelled _ | .released => bridge

/-- What the bridge is asked. A poll is one section and changes nothing. -/
inductive Request where
  | start (device : Device) (actingAs : String) (request : StartLogin)
  | submit (stepId : String) (data : Json)
  | cancel

def Request.call : Request → Call
  | start device actingAs request => .startWaiting device actingAs request
  | submit stepId data => .submitFinding stepId data
  | cancel => .cancelFinding

inductive Step where
  | call (request : Request)
  | advance (index : Nat) (news : News)

/-- A request comes in, or a call or task that is under way goes one section further. -/
def Bridge.step (bridge : Bridge) : Step → Bridge
  | .call request => bridge.spawn [request.call]
  | .advance index news =>
    match bridge.calls[index]? with
    | none => bridge
    | some call => bridge.proceed index news call

end Twalk.BridgeLogin
