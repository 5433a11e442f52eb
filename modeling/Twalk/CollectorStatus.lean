/-
This file models how the collector finds out what state its connections are in:
`collector/src/status.rs`, the identities and refusals of `oidc.rs`, and the
observation a round of `main.rs` makes. A round makes one observation, about one
service at most, and each connection experiences it; a tracker turns what a
connection experiences into events, one for each change.
-/

import Twalk.Calendars

namespace Twalk.Collector

/-! ### Observations -/

inductive ConnectionState where
  | connected | unreachable | reconnectRequired | pendingOperator
deriving DecidableEq, Repr

def ConnectionState.asStr : ConnectionState → String
  | connected => "connected"
  | unreachable => "unreachable"
  | reconnectRequired => "reconnect_required"
  | pendingOperator => "pending_operator"

/-- The services an observation can be about. -/
inductive Service where
  | sso | jmap | caldav
deriving DecidableEq, Repr

def Service.asStr : Service → String
  | sso => "sso"
  | jmap => "jmap"
  | caldav => "caldav"

/-- The kinds of connection the collector holds, at most one of each. -/
inductive Kind where
  | email | calendar
deriving DecidableEq, Repr

def Kind.asStr : Kind → String
  | email => "email"
  | calendar => "calendar"

structure Observation where
  state : ConnectionState
  service : Option Service
  hint : Option String
deriving DecidableEq, Repr

def Observation.connected : Observation := ⟨.connected, none, none⟩

/-! ### The tracker of one connection -/

def statusChangedType : String := "fr.linagora.twalk.connection.status.changed.v1"

def statusChangedDataschema : String :=
  "https://schemas.twalk.dev/cloudevents/v1/connection.status.changed.schema.json"

structure StatusChanged where
  connection : String
  kind : Kind
  fromState : String
  toState : ConnectionState
  occurredAt : String
  service : Option Service
  hint : Option String
deriving DecidableEq, Repr

/-- A connection's last published answer, so that only changes publish. -/
structure Tracker where
  connection : String
  kind : Kind
  host : String
  last : Option (ConnectionState × Option String)
deriving DecidableEq, Repr

namespace Tracker

def answer (observation : Observation) : ConnectionState × Option String :=
  (observation.state, observation.hint)

def envelope (tracker : Tracker) (observation : Observation) (occurredAt : String) :
    Envelope StatusChanged where
  eventType := statusChangedType
  dataschema := statusChangedDataschema
  id := sha256Hex (tracker.connection ++ ":" ++ observation.state.asStr ++ ":" ++ occurredAt ++
    ":" ++ observation.hint.getD "")
  source := "collector://" ++ tracker.host ++ "/connections/" ++ tracker.connection
  time := occurredAt
  subject := tracker.connection
  connection := tracker.connection
  data := {
    connection := tracker.connection
    kind := tracker.kind
    fromState := (tracker.last.map fun last => last.1.asStr).getD "unknown"
    toState := observation.state
    occurredAt
    service := observation.service
    hint := observation.hint }

def observe (tracker : Tracker) (observation : Observation) (occurredAt : String) :
    Tracker × List (Envelope StatusChanged) :=
  if tracker.last = some (answer observation) then (tracker, [])
  else ({ tracker with last := some (answer observation) },
    [tracker.envelope observation occurredAt])

end Tracker

/-! ### What the services answer -/

/-- Why a service did not answer the account. -/
inductive ServiceRefusal where
  | pendingOperator (status : Nat) (detail : String)
  | unreachable (detail : String)
deriving DecidableEq, Repr

namespace ServiceRefusal

def detail : ServiceRefusal → String
  | pendingOperator _ detail => detail
  | unreachable detail => detail

def state : ServiceRefusal → ConnectionState
  | pendingOperator _ _ => .pendingOperator
  | unreachable _ => .unreachable

end ServiceRefusal

/-- What each service the collector reads says the account is. -/
structure Identities where
  jmap : Option (Except ServiceRefusal String)
  caldav : Option (Except ServiceRefusal String)
  caldavOwnerId : Option String

namespace Identities

def byService (identities : Identities) : List (Service × Except ServiceRefusal String) :=
  (identities.jmap.map fun answer => (Service.jmap, answer)).toList ++
    (identities.caldav.map fun answer => (Service.caldav, answer)).toList

def isUnauthenticated : Except ServiceRefusal String → Bool
  | .error (.pendingOperator status _) => status == 401
  | _ => false

/-- Whether a service refused the token itself. -/
def unauthenticated (identities : Identities) : Bool :=
  identities.byService.any fun answer => isUnauthenticated answer.2

def mismatch (owner : Owner) : Service × Except ServiceRefusal String → Option (Service × String)
  | (service, .ok account) => if owner.holds account then none else some (service, account)
  | (_, .error _) => none

def ownerMismatch (identities : Identities) (owner : Owner) : List (Service × String) :=
  identities.byService.filterMap (mismatch owner)

def refusal : Service × Except ServiceRefusal String → Option (Service × ServiceRefusal)
  | (_, .ok _) => none
  | (service, .error refusal) => some (service, refusal)

end Identities

/-- A connection the collector holds: its id, and where its service is. -/
structure Held where
  id : String
  url : String
deriving DecidableEq, Repr

/-- What the collector is configured with. -/
structure Config where
  owner : Owner
  host : String
  mail : Option Held
  calendar : Option Held
  basic : Bool
  grantFile : String

/-- What the two services would answer a credential. The side service also names the owner's id. -/
structure ServiceAnswers where
  jmap : Except ServiceRefusal String
  caldav : Except ServiceRefusal (String × Option String)

/-- Asks the services of the connections held who the credential belongs to, and no other. -/
def whoami (config : Config) (answers : ServiceAnswers) : Identities where
  jmap := config.mail.map fun _ => answers.jmap
  caldav := config.calendar.map fun _ => answers.caldav.map Prod.fst
  caldavOwnerId :=
    match config.calendar, answers.caldav with
    | some _, .ok (_, id) => id
    | _, _ => none

/-! ### The round's observation -/

def observeRefusals (identities : Identities) : Observation :=
  match identities.byService.findSome? Identities.refusal with
  | some (service, refusal) => ⟨refusal.state, some service, some refusal.detail⟩
  | none => .connected

def anotherAccount (mismatched : List (Service × String)) (hint : String) : Observation :=
  ⟨.pendingOperator, mismatched.head?.map Prod.fst, some hint⟩

/-- What the services said about a token the SSO just issued. -/
def observeServices (config : Config) (identities : Identities) : Observation :=
  let mismatched := identities.ownerMismatch config.owner
  if mismatched.isEmpty then observeRefusals identities
  else anotherAccount mismatched ("The grant belongs to another account, not " ++
    config.owner.primary ++
    ". Run `twalk-collector authorize --renew` and sign in as the owner.")

/-- What the services said about the operator's own credential. -/
def observeBasic (config : Config) (identities : Identities) : Observation :=
  let mismatched := identities.ownerMismatch config.owner
  if mismatched.isEmpty then observeServices config identities
  else anotherAccount mismatched ("The credential belongs to another account, not " ++
    config.owner.primary ++ ". Check COLLECTOR_BASIC_USER and its password file.")

def perConnection (observation : Observation) (kind : Kind) : Observation :=
  match observation.service, kind with
  | some .jmap, .calendar => .connected
  | some .caldav, .email => .connected
  | _, _ => observation

def reconnectRequired (config : Config) : Observation :=
  ⟨.reconnectRequired, some .sso, some ("The SSO refused to renew the grant. Run " ++
    "`twalk-collector authorize --renew` — on a compose deployment, " ++
    "`deploy/docker-compose/provision-connection.sh --renew` — and sign in again as " ++
    config.owner.primary ++ "; nothing is published until then.")⟩

def noGrant (config : Config) : Observation :=
  ⟨.reconnectRequired, some .sso, some ("No grant in " ++ config.grantFile ++
    ". Run `twalk-collector authorize` — on a compose deployment, " ++
    "`deploy/docker-compose/provision-connection.sh` — and sign in as " ++
    config.owner.primary ++ ".")⟩

def clientRefused (detail : String) : Observation := ⟨.pendingOperator, some .sso, some detail⟩

def ssoDown : Observation :=
  ⟨.unreachable, some .sso, some "The SSO did not answer; the collector retries on its own."⟩

def notAsked (error : String) : Observation :=
  ⟨.unreachable, none, some ("the services could not be asked: " ++ error)⟩

inductive Renewal where
  | renewed
  | reconnectRequired (detail : String)
  | pendingOperator (detail : String)
  | unreachable (detail : String)
deriving DecidableEq, Repr

/-- What the collector holds of its credential between rounds: whether it has a grant, whether it
has an access token, and why the SSO last refused to renew. -/
structure Access where
  grant : Bool
  token : Bool
  refusal : Option Observation
deriving DecidableEq, Repr

structure Asked where
  fresh : Bool
  renewal : Renewal
  services : Except String ServiceAnswers
  renewalAfter : Renewal
  servicesAfter : Except String ServiceAnswers

/-- What a round found out: its observation, the credential it leaves, and the owner's id on the
side service. -/
structure Observed where
  observation : Observation
  access : Access
  ownerId : Option String

/-- A renewal of the token, before the services are asked: the credential after it, whether it was
renewed, and whether the SSO was down. -/
def renewFirst (config : Config) (access : Access) (asked : Asked) : Access × Bool × Bool :=
  if access.token && asked.fresh then (access, false, false)
  else
    match asked.renewal with
    | .renewed => ({ access with token := true, refusal := none }, true, false)
    | .reconnectRequired _ =>
      ({ access with token := false, refusal := some (reconnectRequired config) }, false, false)
    | .pendingOperator detail =>
      ({ access with token := false, refusal := some (clientRefused detail) }, false, false)
    | .unreachable _ => (access, false, true)

def isStale (config : Config) (asked : Asked) (renewedThisRound : Bool) : Bool :=
  match asked.services with
  | .ok answers => (whoami config answers).unauthenticated && !renewedThisRound
  | .error _ => false

def renewStale (config : Config) (access : Access) (asked : Asked) (renewedThisRound : Bool) :
    Access × Except String Identities :=
  if isStale config asked renewedThisRound then
    match asked.renewalAfter with
    | .renewed => ({ access with token := true }, asked.servicesAfter.map (whoami config))
    | .reconnectRequired _ =>
      ({ access with token := false, refusal := some (reconnectRequired config) },
        .error "revoked")
    | .pendingOperator detail =>
      ({ access with token := false, refusal := some (clientRefused detail) },
        .error "client refused")
    | .unreachable _ => (access, asked.services.map (whoami config))
  else (access, asked.services.map (whoami config))

def observeIdentities (config : Config) (access : Access) : Except String Identities → Observed
  | .ok identities => ⟨observeServices config identities, access, identities.caldavOwnerId⟩
  | .error error => ⟨notAsked error, access, none⟩

def observeGrant (config : Config) (access : Access) (asked : Asked) : Observed :=
  match renewFirst config access asked with
  | (access, renewedThisRound, ssoUnreachable) =>
    if access.token then
      match renewStale config access asked renewedThisRound with
      | (access, identities) =>
        if access.token then observeIdentities config access identities
        else ⟨access.refusal.getD (reconnectRequired config), access, none⟩
    else if ssoUnreachable then ⟨ssoDown, access, none⟩
    else ⟨access.refusal.getD (reconnectRequired config), access, none⟩

def observeRound (config : Config) (access : Access) (asked : Asked) : Observed :=
  if config.basic then
    match asked.services with
    | .ok answers =>
      ⟨observeBasic config (whoami config answers), access,
        (whoami config answers).caldavOwnerId⟩
    | .error error => ⟨notAsked error, access, none⟩
  else if access.grant then observeGrant config access asked
  else ⟨noGrant config, access, none⟩

end Twalk.Collector
