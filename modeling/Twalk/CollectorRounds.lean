/-
This file follows the collector over its rounds: what each round observes, the
status events its trackers put on the bus, and which connections it goes on to
poll. A connection is reported connected when the round's one observation is about
the other kind's service, so it is reported truly exactly when no round has both
services it asked fail. The events themselves are always right: one for each
change of what a connection experiences, the last one being what it experienced
last.
-/

import Twalk.CollectorStatus
import Twalk.Library.Ledger
import Twalk.Library.System

namespace Twalk.Collector

/-! ### Polls that are refused -/

def refusalDetail (service : Service) (url : String) (status : Nat) (challenge : Option String) :
    String :=
  let scheme := challenge.bind fun challenge =>
    (((challenge.toList.splitOnP Text.isWhiteSpace).filter fun word => !word.isEmpty).head?).map
      fun word => Text.toAsciiLowercase (String.ofList word)
  match scheme with
  | some "bearer" => service.asStr ++ " refused a fresh token with " ++ toString status ++
      " and asks for a bearer: the grant stands, but the client lacks what " ++ service.asStr ++
      " expects — an audience or a scope the operator has to add to the client at the SSO"
  | some _ => service.asStr ++ " refused a fresh token with " ++ toString status ++
      " and asked for " ++ challenge.getD "" ++ " instead of a bearer: it is not taking the SSO's " ++
      "tokens on this route. Check that " ++ url ++ " is the service this collector reads, and " ++
      "that its operator accepts the SSO's tokens there"
  | none => service.asStr ++ " refused a fresh token with " ++ toString status ++
      " and offered no authentication challenge, which an OAuth resource server does not do. " ++
      "Check that " ++ url ++ " names the service this collector reads — no scope added at the " ++
      "SSO will change this answer"

def Kind.service : Kind → Service
  | email => .jmap
  | calendar => .caldav

def Config.held (config : Config) : Kind → Option Held
  | .email => config.mail
  | .calendar => config.calendar

/-- What a poll that came back observes of its connection: a refusal is the connection's state, and
any other failure is retried and says nothing. -/
def pollRefusal (config : Config) (kind : Kind) : Except SideError Unit → Option Observation
  | .error (.refused status challenge) =>
    some ⟨.pendingOperator, some kind.service, some (refusalDetail kind.service
      (((config.held kind).map Held.url).getD "") status challenge)⟩
  | .error (.unreachable _) => none
  | .ok _ => none

/-! ### One round -/

/-- What happens to the collector during a round: the answers to what it asks, which polls are due,
whether the location switch may be relied on, and how the polls come back. -/
structure Round where
  asked : Asked
  occurredAt : String
  calendarDue : Bool
  mailDue : Bool
  locationReadable : Bool
  calendarPoll : Except SideError Unit
  mailPoll : Except SideError Unit

/-- The collector between rounds: its credential, its trackers, and the events it put on the bus.
What each connection experienced is kept beside them. -/
structure Process where
  access : Access
  mail : Option Tracker
  calendar : Option Tracker
  put : List (Envelope StatusChanged)
  experienced : Kind → List Observation

section Rounds

variable (config : Config)

def Process.start (grant : Bool) : Process where
  access := ⟨grant, false, none⟩
  mail := config.mail.map fun held => ⟨held.id, .email, config.host, none⟩
  calendar := config.calendar.map fun held => ⟨held.id, .calendar, config.host, none⟩
  put := []
  experienced := fun _ => []

def isConnected (observation : Observation) (kind : Kind) : Bool :=
  (config.held kind).isSome && (perConnection observation kind).state == .connected

def calendarReached (observed : Observed) (round : Round) : Bool :=
  (config.basic || observed.access.token) && observed.ownerId.isSome &&
    isConnected config observed.observation .calendar && round.calendarDue

/-- Whether a round polls the calendars: one whose location switch cannot be read any more
publishes nothing, and ends there. -/
def calendarPolled (observed : Observed) (round : Round) : Bool :=
  calendarReached config observed round && round.locationReadable

def mailPolled (observed : Observed) (round : Round) : Bool :=
  !(calendarReached config observed round && !round.locationReadable) &&
    (config.basic || observed.access.token) && isConnected config observed.observation .email &&
    round.mailDue

def isPolled (observed : Observed) (round : Round) : Kind → Bool
  | .email => mailPolled config observed round
  | .calendar => calendarPolled config observed round

def Round.poll (round : Round) : Kind → Except SideError Unit
  | .email => round.mailPoll
  | .calendar => round.calendarPoll

def refusedPoll (observed : Observed) (round : Round) (kind : Kind) : List Observation :=
  if isPolled config observed round kind then (pollRefusal config kind (round.poll kind)).toList
  else []

def observeAll (occurredAt : String) (tracker : Tracker) :
    List Observation → Tracker × List (Envelope StatusChanged)
  | [] => (tracker, [])
  | observation :: rest =>
    let (tracker, put) := tracker.observe observation occurredAt
    let (tracker, more) := observeAll occurredAt tracker rest
    (tracker, put ++ more)

def observeHeld (occurredAt : String) (tracker : Option Tracker)
    (observations : List Observation) : Option Tracker × List (Envelope StatusChanged) :=
  match tracker with
  | none => (none, [])
  | some tracker =>
    let (tracker, put) := observeAll occurredAt tracker observations
    (some tracker, put)

def roundStep (process : Process) (round : Round) : Process :=
  let observed := observeRound config process.access round.asked
  let first := fun kind => [perConnection observed.observation kind]
  let (mail, mailPut) := observeHeld round.occurredAt process.mail (first .email)
  let (calendar, calendarPut) := observeHeld round.occurredAt process.calendar (first .calendar)
  let (calendar, calendarRefused) :=
    observeHeld round.occurredAt calendar (refusedPoll config observed round .calendar)
  let (mail, mailRefused) :=
    observeHeld round.occurredAt mail (refusedPoll config observed round .email)
  { access := observed.access
    mail
    calendar
    put := process.put ++ mailPut ++ calendarPut ++ calendarRefused ++ mailRefused
    experienced := fun kind =>
      process.experienced kind ++ first kind ++ refusedPoll config observed round kind }

end Rounds

/-! ### What a tracker puts on the bus -/

def saidAnswer (envelope : Envelope StatusChanged) : ConnectionState × Option String :=
  (envelope.data.toState, envelope.data.hint)

structure Tracks (tracker : Tracker) (put : List (Envelope StatusChanged))
    (experienced : List Observation) : Prop where
  put : put.map saidAnswer = changes (experienced.map Tracker.answer)
  last : tracker.last = (experienced.map Tracker.answer).getLast?

variable {put : List (Envelope StatusChanged)} {experienced : List Observation}

theorem tracks_observe {tracker : Tracker} (tracks : Tracks tracker put experienced)
    (observation : Observation) (occurredAt : String) :
    Tracks (tracker.observe observation occurredAt).1
      (put ++ (tracker.observe observation occurredAt).2) (experienced ++ [observation]) := by
  have last : (changes (experienced.map Tracker.answer)).getLast? = tracker.last :=
    (getLast?_changes _).trans tracks.last.symm
  unfold Tracker.observe
  by_cases same : tracker.last = some (Tracker.answer observation)
  · rw [if_pos same]
    constructor
    · rw [List.append_nil, List.map_append, List.map_singleton, changes_concat, last, if_pos same]
      exact tracks.put
    · rw [List.map_append, List.map_singleton, List.getLast?_concat]
      exact same
  · rw [if_neg same]
    constructor
    · rw [List.map_append, List.map_append, List.map_singleton, List.map_singleton,
        changes_concat, last, if_neg same, tracks.put]
      rfl
    · rw [List.map_append, List.map_singleton, List.getLast?_concat]

theorem tracks_observeAll {tracker : Tracker} (tracks : Tracks tracker put experienced)
    (occurredAt : String) (observations : List Observation) :
    Tracks (observeAll occurredAt tracker observations).1
      (put ++ (observeAll occurredAt tracker observations).2) (experienced ++ observations) := by
  induction observations generalizing tracker put experienced with
  | nil =>
    simp only [observeAll, List.append_nil]
    exact tracks
  | cons observation rest inductionHypothesis =>
    have further := inductionHypothesis (tracks_observe tracks observation occurredAt)
    rw [List.append_assoc, List.append_assoc] at further
    exact further

theorem kind_observe (tracker : Tracker) (observation : Observation) (occurredAt : String) :
    (tracker.observe observation occurredAt).1.kind = tracker.kind ∧
      ∀ envelope ∈ (tracker.observe observation occurredAt).2,
        envelope.data.kind = tracker.kind := by
  unfold Tracker.observe
  split
  · exact ⟨rfl, fun _ absurdly => absurd absurdly List.not_mem_nil⟩
  · exact ⟨rfl, fun envelope member => List.mem_singleton.mp member ▸ rfl⟩

theorem kind_observeAll (occurredAt : String) (tracker : Tracker)
    (observations : List Observation) :
    (observeAll occurredAt tracker observations).1.kind = tracker.kind ∧
      ∀ envelope ∈ (observeAll occurredAt tracker observations).2,
        envelope.data.kind = tracker.kind := by
  induction observations generalizing tracker with
  | nil => exact ⟨rfl, fun _ absurdly => absurd absurdly List.not_mem_nil⟩
  | cons observation rest inductionHypothesis =>
    have first := kind_observe tracker observation occurredAt
    have later := inductionHypothesis (tracker.observe observation occurredAt).1
    refine ⟨later.1.trans first.1, fun envelope member => ?_⟩
    rcases List.mem_append.mp member with now | after
    · exact first.2 envelope now
    · exact (later.2 envelope after).trans first.1

def ofKind (kind : Kind) (put : List (Envelope StatusChanged)) : List (Envelope StatusChanged) :=
  put.filter fun envelope => envelope.data.kind = kind

theorem ofKind_append (kind : Kind) (front back : List (Envelope StatusChanged)) :
    ofKind kind (front ++ back) = ofKind kind front ++ ofKind kind back := by
  unfold ofKind
  exact List.filter_append ..

variable {kind : Kind}

theorem ofKind_of_same (same : ∀ envelope ∈ put, envelope.data.kind = kind) :
    ofKind kind put = put :=
  List.filter_eq_self.mpr fun envelope member => by simpa using same envelope member

theorem ofKind_of_other {kind other : Kind} (same : ∀ envelope ∈ put, envelope.data.kind = other)
    (differ : other ≠ kind) :
    ofKind kind put = [] :=
  List.filter_eq_nil_iff.mpr fun envelope member isKind =>
    differ ((same envelope member).symm.trans (by simpa using isKind))

/-- A tracker that is held, if there is one, is of its kind and put on the bus what its connection
experienced. -/
def HeldTracks (kind : Kind) (tracker : Option Tracker) (put : List (Envelope StatusChanged))
    (experienced : List Observation) : Prop :=
  ∀ held, tracker = some held → held.kind = kind ∧ Tracks held put experienced

section Held

variable {kind : Kind} {tracker : Option Tracker} {put : List (Envelope StatusChanged)}
  {experienced : List Observation} (tracks : HeldTracks kind tracker put experienced)
  (occurredAt : String) (observations : List Observation)

include tracks

theorem kind_observeHeld :
    ∀ envelope ∈ (observeHeld occurredAt tracker observations).2, envelope.data.kind = kind := by
  cases tracker with
  | none => exact fun _ absurdly => absurd absurdly List.not_mem_nil
  | some held =>
    intro envelope member
    exact ((kind_observeAll occurredAt held observations).2 envelope member).trans
      (tracks held rfl).1

theorem heldTracks_observeHeld :
    HeldTracks kind (observeHeld occurredAt tracker observations).1
      (put ++ (observeHeld occurredAt tracker observations).2) (experienced ++ observations) := by
  cases tracker with
  | none => exact fun _ absurdly => absurd absurdly (by simp [observeHeld])
  | some held =>
    rintro later isLater
    obtain rfl : (observeAll occurredAt held observations).1 = later := Option.some.inj isLater
    obtain ⟨isKind, tracksHeld⟩ := tracks held rfl
    exact ⟨(kind_observeAll occurredAt held observations).1.trans isKind,
      tracks_observeAll tracksHeld occurredAt observations⟩

end Held

theorem isSome_observeHeld (occurredAt : String) (tracker : Option Tracker)
    (observations : List Observation) :
    (observeHeld occurredAt tracker observations).1.isSome = tracker.isSome := by
  cases tracker <;> rfl

/-! ### What a round concludes -/

def ServiceAnswers.identity (answers : ServiceAnswers) : Kind → Except ServiceRefusal String
  | .email => answers.jmap
  | .calendar => answers.caldav.map Prod.fst

def ownerAnswered (owner : Owner) (answers : ServiceAnswers) (kind : Kind) : Bool :=
  match answers.identity kind with
  | .ok account => owner.holds account
  | .error _ => false

def lastAnswers (config : Config) (access : Access) (asked : Asked) : Option ServiceAnswers :=
  if config.basic then asked.services.toOption
  else if access.grant then
    match renewFirst config access asked with
    | (access, renewedThisRound, _) =>
      if access.token then
        if isStale config asked renewedThisRound then
          match asked.renewalAfter with
          | .renewed => asked.servicesAfter.toOption
          | .unreachable _ => asked.services.toOption
          | _ => none
        else asked.services.toOption
      else none
  else none

/-- What a round concludes from the answers of the services. -/
def concluded (config : Config) (identities : Identities) (hint : String) : Observation :=
  if (identities.ownerMismatch config.owner).isEmpty then observeRefusals identities
  else anotherAccount (identities.ownerMismatch config.owner) hint

def Observation.ofSso (observation : Observation) : Prop :=
  observation.state ≠ .connected ∧ observation.service = some .sso

def Access.SsoRefused (access : Access) : Prop :=
  ∀ refusal, access.refusal = some refusal → refusal.ofSso

def Follows (config : Config) (observation : Observation) : Option ServiceAnswers → Prop
  | some answers => ∃ hint, observation = concluded config (whoami config answers) hint
  | none => observation.state ≠ .connected ∧
      (observation.service = some .sso ∨ observation.service = none)

theorem observeServices_concluded (config : Config) (identities : Identities) :
    ∃ hint, observeServices config identities = concluded config identities hint :=
  ⟨_, rfl⟩

theorem observeBasic_concluded (config : Config) (identities : Identities) :
    ∃ hint, observeBasic config identities = concluded config identities hint := by
  refine ⟨"The credential belongs to another account, not " ++
    config.owner.primary ++ ". Check COLLECTOR_BASIC_USER and its password file.", ?_⟩
  unfold observeBasic observeServices concluded
  by_cases agree : (identities.ownerMismatch config.owner).isEmpty = true
  · simp only [if_pos agree]
  · simp only [if_neg agree]

theorem reconnectRequired_ofSso (config : Config) : (reconnectRequired config).ofSso :=
  ⟨by simp [reconnectRequired], rfl⟩

theorem clientRefused_ofSso (detail : String) : (clientRefused detail).ofSso :=
  ⟨by simp [clientRefused], rfl⟩

theorem noGrant_ofSso (config : Config) : (noGrant config).ofSso := ⟨by simp [noGrant], rfl⟩

theorem ssoDown_ofSso : ssoDown.ofSso := ⟨by simp [ssoDown], rfl⟩

theorem follows_notAsked (config : Config) (error : String) :
    Follows config (notAsked error) none :=
  ⟨by simp [notAsked], .inr rfl⟩

variable {access : Access}

theorem ssoRefused_of_refusal {refusal : Observation} (held : access.refusal = some refusal)
    (ofSso : refusal.ofSso) : access.SsoRefused :=
  fun _ isRefusal => Option.some.inj (held.symm.trans isRefusal) ▸ ofSso

theorem renewFirst_ssoRefused {config : Config} (sound : access.SsoRefused) (asked : Asked) :
    (renewFirst config access asked).1.SsoRefused := by
  unfold renewFirst
  split
  · exact sound
  · cases asked.renewal with
    | renewed => exact fun _ absurdly => absurd absurdly (by simp)
    | reconnectRequired detail => exact ssoRefused_of_refusal rfl (reconnectRequired_ofSso config)
    | pendingOperator detail => exact ssoRefused_of_refusal rfl (clientRefused_ofSso detail)
    | unreachable detail => exact sound

theorem renewStale_ssoRefused {config : Config} (sound : access.SsoRefused) (asked : Asked)
    (renewed : Bool) :
    (renewStale config access asked renewed).1.SsoRefused := by
  unfold renewStale
  split
  · cases asked.renewalAfter with
    | renewed => exact sound
    | reconnectRequired detail => exact ssoRefused_of_refusal rfl (reconnectRequired_ofSso config)
    | pendingOperator detail => exact ssoRefused_of_refusal rfl (clientRefused_ofSso detail)
    | unreachable detail => exact sound
  · exact sound

theorem refusal_ofSso {config : Config} (sound : access.SsoRefused) :
    (access.refusal.getD (reconnectRequired config)).ofSso := by
  cases held : access.refusal with
  | none => exact reconnectRequired_ofSso config
  | some refusal => exact sound refusal held

variable {observation : Observation}

theorem follows_of_ofSso {config : Config} (ofSso : observation.ofSso) :
    Follows config observation none :=
  ⟨ofSso.1, .inl ofSso.2⟩

theorem follows_of_services (config : Config) (access : Access)
    (services : Except String ServiceAnswers) :
    Follows config (observeIdentities config access (services.map (whoami config))).observation
      services.toOption := by
  cases services with
  | ok answers => exact observeServices_concluded config (whoami config answers)
  | error error => exact follows_notAsked config error

theorem observeGrant_follows {config : Config} (sound : access.SsoRefused)
    (notBasic : config.basic = false) (grant : access.grant = true) (asked : Asked) :
    Follows config (observeGrant config access asked).observation
      (lastAnswers config access asked) := by
  have kept : (renewFirst config access asked).1.SsoRefused := renewFirst_ssoRefused sound asked
  unfold observeGrant lastAnswers
  rw [notBasic, grant]
  rcases renewal : renewFirst config access asked with ⟨after, renewed, down⟩
  rw [renewal] at kept
  cases token : after.token with
  | false =>
    cases down with
    | true => simpa [token] using follows_of_ofSso ssoDown_ofSso
    | false => simpa [token] using follows_of_ofSso (refusal_ofSso kept)
  | true =>
    cases stale : isStale config asked renewed with
    | false => simpa [renewStale, token, stale] using follows_of_services config after asked.services
    | true =>
      cases renewal : asked.renewalAfter with
      | renewed =>
        simpa [renewStale, token, stale, renewal] using
          follows_of_services config { after with token := true } asked.servicesAfter
      | unreachable detail =>
        simpa [renewStale, token, stale, renewal] using
          follows_of_services config after asked.services
      | reconnectRequired detail =>
        simpa [renewStale, token, stale, renewal] using
          follows_of_ofSso (reconnectRequired_ofSso config)
      | pendingOperator detail =>
        simpa [renewStale, token, stale, renewal] using
          follows_of_ofSso (clientRefused_ofSso detail)

theorem observeRound_follows {config : Config} (sound : access.SsoRefused) (asked : Asked) :
    Follows config (observeRound config access asked).observation
      (lastAnswers config access asked) := by
  unfold observeRound
  cases basic : config.basic with
  | true =>
    unfold lastAnswers
    rw [basic]
    cases asked.services with
    | ok answers => exact observeBasic_concluded config (whoami config answers)
    | error error => exact follows_notAsked config error
  | false =>
    cases grant : access.grant with
    | true => simpa using observeGrant_follows sound basic grant asked
    | false => simpa [lastAnswers, basic, grant] using
        follows_of_ofSso (noGrant_ofSso config)

theorem observeRound_ssoRefused {config : Config} (sound : access.SsoRefused) (asked : Asked) :
    (observeRound config access asked).access.SsoRefused := by
  unfold observeRound
  cases config.basic with
  | true => cases asked.services <;> exact sound
  | false =>
    cases access.grant with
    | false => exact sound
    | true =>
      have kept : (renewFirst config access asked).1.SsoRefused := renewFirst_ssoRefused sound asked
      unfold observeGrant
      rcases renewal : renewFirst config access asked with ⟨after, renewed, down⟩
      rw [renewal] at kept
      cases token : after.token with
      | false => cases down <;> simpa [token] using kept
      | true =>
        have keptStale : (renewStale config after asked renewed).1.SsoRefused :=
          renewStale_ssoRefused kept asked renewed
        rcases stale : renewStale config after asked renewed with ⟨last, identities⟩
        rw [stale] at keptStale
        cases lastToken : last.token with
        | false => simpa [token, stale, lastToken] using keptStale
        | true => cases identities <;> simpa [token, stale, lastToken, observeIdentities] using keptStale

def bothFail (config : Config) (answers : ServiceAnswers) : Bool :=
  (config.held .email).isSome && (config.held .calendar).isSome &&
    !ownerAnswered config.owner answers .email && !ownerAnswered config.owner answers .calendar

theorem mem_byService_whoami {config : Config} {answers : ServiceAnswers}
    {answer : Service × Except ServiceRefusal String} :
    answer ∈ (whoami config answers).byService ↔
      ∃ kind : Kind, (config.held kind).isSome = true ∧
        answer = (kind.service, answers.identity kind) := by
  unfold Identities.byService whoami
  constructor
  · intro member
    rcases List.mem_append.mp member with ofMail | ofCalendar
    · obtain ⟨⟨_, isMail⟩, rfl⟩ :
          (∃ held, config.mail = some held) ∧ (Service.jmap, answers.jmap) = answer := by
        simpa using ofMail
      exact ⟨.email, by simp [Config.held, isMail], rfl⟩
    · obtain ⟨⟨_, isCalendar⟩, rfl⟩ : (∃ held, config.calendar = some held) ∧
          (Service.caldav, answers.caldav.map Prod.fst) = answer := by
        simpa using ofCalendar
      exact ⟨.calendar, by simp [Config.held, isCalendar], rfl⟩
  · rintro ⟨kind, isHeld, rfl⟩
    obtain ⟨held, isHeld⟩ := Option.isSome_iff_exists.mp isHeld
    cases kind with
    | email => exact List.mem_append_left _ (by simp [show config.mail = some held from isHeld,
        Kind.service, ServiceAnswers.identity])
    | calendar => exact List.mem_append_right _ (by
        simp [show config.calendar = some held from isHeld, Kind.service,
          ServiceAnswers.identity])

structure Names (config : Config) (answers : ServiceAnswers) (observation : Observation)
    (kind : Kind) : Prop where
  held : (config.held kind).isSome = true
  failed : ownerAnswered config.owner answers kind = false
  state : observation.state ≠ .connected
  service : observation.service = some kind.service

theorem names_of_mismatch {config : Config} {answers : ServiceAnswers} {hint : String}
    (mismatched : (whoami config answers).ownerMismatch config.owner ≠ []) :
    ∃ kind, Names config answers
      (anotherAccount ((whoami config answers).ownerMismatch config.owner) hint) kind := by
  rcases isMismatch : (whoami config answers).ownerMismatch config.owner with _ | ⟨first, rest⟩
  · exact absurd isMismatch mismatched
  · have member : first ∈ (whoami config answers).ownerMismatch config.owner := by
      rw [isMismatch]
      exact List.mem_cons_self
    obtain ⟨answer, isAnswer, isFirst⟩ := List.mem_filterMap.mp member
    obtain ⟨kind, isHeld, rfl⟩ := mem_byService_whoami.mp isAnswer
    unfold Identities.mismatch at isFirst
    cases said : answers.identity kind with
    | error refusal => simp [said] at isFirst
    | ok account =>
      by_cases holds : config.owner.holds account = true
      · simp [said, holds] at isFirst
      · obtain rfl : (kind.service, account) = first := by simpa [said, holds] using isFirst
        exact ⟨kind, isHeld, by simp [ownerAnswered, said, holds], by simp [anotherAccount], rfl⟩

theorem observeRefusals_cases {config : Config} {answers : ServiceAnswers}
    (agree : (whoami config answers).ownerMismatch config.owner = []) :
    (observeRefusals (whoami config answers) = .connected ∧
        ∀ kind, (config.held kind).isSome = true →
          ownerAnswered config.owner answers kind = true) ∨
      ∃ kind, Names config answers (observeRefusals (whoami config answers)) kind := by
  unfold observeRefusals
  cases found : (whoami config answers).byService.findSome? Identities.refusal with
  | none =>
    refine .inl ⟨rfl, fun kind isHeld => ?_⟩
    have isAnswer : (kind.service, answers.identity kind) ∈ (whoami config answers).byService :=
      mem_byService_whoami.mpr ⟨kind, isHeld, rfl⟩
    have accepted := List.findSome?_eq_none_iff.mp found _ isAnswer
    have matched := List.filterMap_eq_nil_iff.mp agree _ isAnswer
    cases said : answers.identity kind with
    | error refusal => simp [said, Identities.refusal] at accepted
    | ok account =>
      by_cases holds : config.owner.holds account = true
      · simp [ownerAnswered, said, holds]
      · simp [said, Identities.mismatch, holds] at matched
  | some first =>
    obtain ⟨answer, isAnswer, isFirst⟩ := List.exists_of_findSome?_eq_some found
    obtain ⟨kind, isHeld, rfl⟩ := mem_byService_whoami.mp isAnswer
    cases said : answers.identity kind with
    | ok account => simp [said, Identities.refusal] at isFirst
    | error refusal =>
      obtain rfl : (kind.service, refusal) = first := by
        simpa [said, Identities.refusal] using isFirst
      refine .inr ⟨kind, isHeld, by simp [ownerAnswered, said], ?_, rfl⟩
      cases refusal <;> simp [ServiceRefusal.state]

theorem concluded_cases (config : Config) (answers : ServiceAnswers) (hint : String) :
    (concluded config (whoami config answers) hint = .connected ∧
        ∀ kind, (config.held kind).isSome = true →
          ownerAnswered config.owner answers kind = true) ∨
      ∃ kind, Names config answers (concluded config (whoami config answers) hint) kind := by
  unfold concluded
  by_cases agree : (whoami config answers).ownerMismatch config.owner = []
  · rw [agree]
    exact observeRefusals_cases agree
  · rw [if_neg (by simpa using agree)]
    exact .inr (names_of_mismatch agree)

def Kind.other : Kind → Kind
  | email => calendar
  | calendar => email

theorem Kind.eq_other_of_ne {kind other : Kind} (differ : other ≠ kind) : other = kind.other := by
  cases kind <;> cases other <;> first | rfl | exact absurd rfl differ

theorem bothFail_eq_true_iff {config : Config} {answers : ServiceAnswers} (kind : Kind) :
    bothFail config answers = true ↔
      ((config.held kind).isSome = true ∧ ownerAnswered config.owner answers kind = false) ∧
        (config.held kind.other).isSome = true ∧
          ownerAnswered config.owner answers kind.other = false := by
  cases kind <;> simp [bothFail, Kind.other] <;> tauto

theorem isConnected_of_names {config : Config} {answers : ServiceAnswers}
    (names : Names config answers observation kind) :
    isConnected config observation kind = false ∧
      isConnected config observation kind.other = (config.held kind.other).isSome := by
  unfold isConnected perConnection
  rw [names.service]
  have notConnected := names.state
  cases kind <;> simp [Kind.service, Kind.other, Observation.connected, notConnected]

/-- One observation is about one service, so of two failures it reports one: the connections it
reports connected have all been answered for exactly when the services do not both fail. -/
theorem isConnected_concluded_iff (config : Config) (answers : ServiceAnswers) (hint : String) :
    (∀ kind, isConnected config (concluded config (whoami config answers) hint) kind = true →
        ownerAnswered config.owner answers kind = true) ↔
      bothFail config answers = false := by
  rcases concluded_cases config answers hint with ⟨_, answered⟩ | ⟨kind, names⟩
  · refine ⟨fun _ => ?_, fun _ kind connected => ?_⟩
    · rw [Bool.eq_false_iff, ne_eq, bothFail_eq_true_iff .email]
      rintro ⟨⟨isHeld, failed⟩, _⟩
      exact Bool.false_ne_true (failed.symm.trans (answered .email isHeld))
    · exact answered kind (Bool.and_eq_true_iff.mp connected).1
  · obtain ⟨notConnected, otherConnected⟩ := isConnected_of_names names
    rw [Bool.eq_false_iff, ne_eq, bothFail_eq_true_iff kind]
    constructor
    · rintro right ⟨_, otherHeld, otherFailed⟩
      exact Bool.false_ne_true
        (otherFailed.symm.trans (right kind.other (otherConnected.trans otherHeld)))
    · intro notBoth named connected
      by_cases same : named = kind
      · exact absurd (same ▸ connected) (by simp [notConnected])
      · obtain rfl := Kind.eq_other_of_ne same
        by_contra failed
        exact notBoth ⟨⟨names.held, names.failed⟩, otherConnected.symm.trans connected,
          Bool.eq_false_iff.mpr failed⟩

/-! ### Every round of a run -/

def Process.tracker (process : Process) : Kind → Option Tracker
  | .email => process.mail
  | .calendar => process.calendar

def concludes (config : Config) (observed : Observed) (round : Round) (kind : Kind) :
    Observation :=
  (refusedPoll config observed round kind).getLast?.getD (perConnection observed.observation kind)

def Process.observes (config : Config) (process : Process) (round : Round) : Observed :=
  observeRound config process.access round.asked

def Process.AnsweredAsOwner (config : Config) (process : Process) (round : Round) (kind : Kind) :
    Prop :=
  ∃ answers, lastAnswers config process.access round.asked = some answers ∧
    ownerAnswered config.owner answers kind = true

/-- A round reports connected, and polls, what was answered as the owner; the last status of a
connection is what the round concludes, and there is one for each change. -/
structure Truthful (config : Config) (process : Process) (round : Round) : Prop where
  connected : ∀ kind,
    isConnected config (process.observes config round).observation kind = true →
      process.AnsweredAsOwner config round kind
  polled : ∀ kind, isPolled config (process.observes config round) round kind = true →
    process.AnsweredAsOwner config round kind
  last : ∀ kind, (config.held kind).isSome = true →
    ((ofKind kind (roundStep config process round).put).getLast?.map saidAnswer) =
      some (Tracker.answer (concludes config (process.observes config round) round kind))
  transitions : ∀ kind, (config.held kind).isSome = true →
    (ofKind kind (roundStep config process round).put).map saidAnswer =
      changes (((roundStep config process round).experienced kind).map Tracker.answer)

def OneFails (config : Config) (process : Process) (round : Round) : Prop :=
  ∀ answers, lastAnswers config process.access round.asked = some answers →
    bothFail config answers = false

/-- What every round keeps: the SSO's refusals are its own, and the trackers of the connections held
put on the bus what their connections experienced. -/
structure Tracked (config : Config) (process : Process) : Prop where
  sound : process.access.SsoRefused
  held : ∀ kind, (process.tracker kind).isSome = (config.held kind).isSome
  tracks : ∀ kind, HeldTracks kind (process.tracker kind) (ofKind kind process.put)
    (process.experienced kind)

theorem tracked_start (config : Config) (grant : Bool) :
    Tracked config (Process.start config grant) := by
  refine ⟨fun _ absurdly => absurd absurdly (by simp [Process.start]), ?_, ?_⟩
  · rintro (_ | _) <;> simp [Process.start, Process.tracker, Config.held]
  · rintro (_ | _) tracker isTracker
    · obtain ⟨held, _, rfl⟩ := Option.map_eq_some_iff.mp isTracker
      exact ⟨rfl, rfl, rfl⟩
    · obtain ⟨held, _, rfl⟩ := Option.map_eq_some_iff.mp isTracker
      exact ⟨rfl, rfl, rfl⟩

def firstSeen (config : Config) (process : Process) (round : Round) (kind : Kind) :
    Option Tracker × List (Envelope StatusChanged) :=
  observeHeld round.occurredAt (process.tracker kind)
    [perConnection (process.observes config round).observation kind]

/-- What it then says of how the poll came back. -/
def thenRefused (config : Config) (process : Process) (round : Round) (kind : Kind) :
    Option Tracker × List (Envelope StatusChanged) :=
  observeHeld round.occurredAt (firstSeen config process round kind).1
    (refusedPoll config (process.observes config round) round kind)

theorem tracker_roundStep (config : Config) (process : Process) (round : Round) (kind : Kind) :
    (roundStep config process round).tracker kind = (thenRefused config process round kind).1 := by
  cases kind <;> rfl

theorem put_roundStep (config : Config) (process : Process) (round : Round) :
    (roundStep config process round).put =
      process.put ++ (firstSeen config process round .email).2 ++
        (firstSeen config process round .calendar).2 ++
        (thenRefused config process round .calendar).2 ++
        (thenRefused config process round .email).2 :=
  rfl

theorem experienced_roundStep (config : Config) (process : Process) (round : Round)
    (kind : Kind) :
    (roundStep config process round).experienced kind =
      process.experienced kind ++
        [perConnection (process.observes config round).observation kind] ++
        refusedPoll config (process.observes config round) round kind :=
  rfl

variable {process : Process}

theorem ofKind_put_roundStep {config : Config} (tracked : Tracked config process) (round : Round)
    (kind : Kind) :
    ofKind kind (roundStep config process round).put =
      ofKind kind process.put ++ (firstSeen config process round kind).2 ++
        (thenRefused config process round kind).2 := by
  have first : ∀ of, ∀ envelope ∈ (firstSeen config process round of).2,
      envelope.data.kind = of :=
    fun of => kind_observeHeld (tracked.tracks of) _ _
  have refused : ∀ of, ∀ envelope ∈ (thenRefused config process round of).2,
      envelope.data.kind = of :=
    fun of => kind_observeHeld (heldTracks_observeHeld (tracked.tracks of) _ _) _ _
  rw [put_roundStep, ofKind_append, ofKind_append, ofKind_append, ofKind_append]
  cases kind with
  | email =>
    rw [ofKind_of_same (first .email), ofKind_of_same (refused .email),
      ofKind_of_other (first .calendar) (by decide),
      ofKind_of_other (refused .calendar) (by decide), List.append_nil, List.append_nil]
  | calendar =>
    rw [ofKind_of_same (first .calendar), ofKind_of_same (refused .calendar),
      ofKind_of_other (first .email) (by decide),
      ofKind_of_other (refused .email) (by decide), List.append_nil, List.append_nil]

theorem tracked_roundStep {config : Config} (tracked : Tracked config process) (round : Round) :
    Tracked config (roundStep config process round) := by
  refine ⟨observeRound_ssoRefused tracked.sound round.asked, fun kind => ?_, fun kind => ?_⟩
  · rw [tracker_roundStep]
    exact (isSome_observeHeld ..).trans ((isSome_observeHeld ..).trans (tracked.held kind))
  · rw [tracker_roundStep, ofKind_put_roundStep tracked, experienced_roundStep]
    exact heldTracks_observeHeld (heldTracks_observeHeld (tracked.tracks kind) _ _) _ _

theorem isConnected_of_isPolled {config : Config} {observed : Observed} {round : Round}
    (polled : isPolled config observed round kind = true) :
    isConnected config observed.observation kind = true := by
  cases kind with
  | email =>
    simp only [isPolled, mailPolled, Bool.and_eq_true] at polled
    exact polled.1.2
  | calendar =>
    simp only [isPolled, calendarPolled, calendarReached, Bool.and_eq_true] at polled
    exact polled.1.1.2

theorem getLast?_experienced_roundStep (config : Config) (process : Process) (round : Round)
    (kind : Kind) :
    ((roundStep config process round).experienced kind).getLast? =
      some (concludes config (process.observes config round) round kind) := by
  rw [experienced_roundStep]
  unfold concludes
  rcases List.eq_nil_or_concat (refusedPoll config (process.observes config round) round kind)
    with isNil | ⟨front, last, isConcat⟩
  · rw [isNil, List.append_nil, List.getLast?_concat]
    rfl
  · rw [isConcat, List.concat_eq_append, ← List.append_assoc, List.getLast?_concat,
      List.getLast?_concat]
    rfl

theorem connected_iff {config : Config} (tracked : Tracked config process) (round : Round) :
    (∀ kind, isConnected config (process.observes config round).observation kind = true →
        process.AnsweredAsOwner config round kind) ↔ OneFails config process round := by
  have follows : Follows config (observeRound config process.access round.asked).observation
      (lastAnswers config process.access round.asked) :=
    observeRound_follows tracked.sound round.asked
  unfold Process.AnsweredAsOwner OneFails Process.observes
  cases answered : lastAnswers config process.access round.asked with
  | none =>
    rw [answered] at follows
    refine ⟨fun _ answers absurdly => absurd absurdly (by simp), fun _ kind connected => ?_⟩
    have isState : (perConnection (observeRound config process.access round.asked).observation
        kind) = (observeRound config process.access round.asked).observation := by
      unfold perConnection
      rcases follows.2 with isService | isService <;> rw [isService]
    unfold isConnected at connected
    rw [isState] at connected
    exact absurd (by simpa using (Bool.and_eq_true_iff.mp connected).2) follows.1
  | some answers =>
    rw [answered] at follows
    obtain ⟨hint, isConcluded⟩ := follows
    rw [isConcluded]
    simpa using isConnected_concluded_iff config answers hint

/-- In every run of the collector every round is truthful exactly when in every round at most one of
the services fails. -/
theorem rounds_truthful_iff (config : Config) (grant : Bool) (rounds : List Round) :
    Along (roundStep config) (Truthful config) (Process.start config grant) rounds ↔
      Along (roundStep config) (OneFails config) (Process.start config grant) rounds := by
  refine along_iff_along (Tracked config) (fun _ round tracked => tracked_roundStep tracked round)
    (fun process round tracked => ?_) (tracked_start config grant) rounds
  constructor
  · exact fun truthful => (connected_iff tracked round).mp truthful.connected
  · intro oneFails
    have connected := (connected_iff tracked round).mpr oneFails
    have after := tracked_roundStep tracked round
    have tracks : ∀ kind, (config.held kind).isSome = true →
        ∃ tracker, Tracks tracker (ofKind kind (roundStep config process round).put)
          ((roundStep config process round).experienced kind) := by
      intro kind isHeld
      obtain ⟨tracker, isTracker⟩ :=
        Option.isSome_iff_exists.mp ((after.held kind).trans isHeld)
      exact ⟨tracker, (after.tracks kind tracker isTracker).2⟩
    refine ⟨connected, fun kind polled => connected kind (isConnected_of_isPolled polled), ?_, ?_⟩
    · intro kind isHeld
      obtain ⟨tracker, isTracks⟩ := tracks kind isHeld
      rw [← List.getLast?_map, isTracks.put, getLast?_changes, List.getLast?_map,
        getLast?_experienced_roundStep]
      rfl
    · intro kind isHeld
      obtain ⟨tracker, isTracks⟩ := tracks kind isHeld
      exact isTracks.put

namespace StrangersGrant

def config : Config where
  owner := .new "me@example.org" []
  host := "collector.example.org"
  mail := some ⟨"mail", "https://jmap.example.org/session"⟩
  calendar := some ⟨"calendar", "https://calendar.example.org"⟩
  basic := false
  grantFile := "grant.json"

/-- Both services say the grant belongs to somebody else. -/
def answers : ServiceAnswers where
  jmap := .ok "stranger@example.org"
  caldav := .ok ("stranger@example.org", some "stranger")

/-- A round whose grant is another account's. -/
def round : Round where
  asked := ⟨true, .renewed, .ok answers, .renewed, .ok answers⟩
  occurredAt := "2026-07-20T08:00:00Z"
  calendarDue := true
  mailDue := true
  locationReadable := true
  calendarPoll := .ok ()
  mailPoll := .ok ()

theorem calendar_polled : isPolled config ((Process.start config true).observes config round)
    round .calendar = true := by
  decide

/-- The round of a stranger's grant is not a truthful one. -/
theorem round_not_truthful :
    ¬ Along (roundStep config) (Truthful config) (Process.start config true) [round] := by
  rintro ⟨truthful, _⟩
  obtain ⟨said, isSaid, owned⟩ := truthful.polled .calendar calendar_polled
  have isLast : lastAnswers config (Process.start config true).access round.asked =
      some answers := rfl
  obtain rfl : answers = said := Option.some.inj (isLast.symm.trans isSaid)
  exact absurd owned (by decide)

end StrangersGrant

end Twalk.Collector
