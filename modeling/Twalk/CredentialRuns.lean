/-
This file settles how the handover of the device's credential ends. The Sensor's acknowledgement is
the only thing that counts as success, the login comes after the offer and the credential after the
login, whatever is answered. Two things are left out: the wait for the acknowledgement stands
outside the part whose errors are caught, so a poll that fails is raised, and an error after the
login, or an answer of it that lacks a member, ends in an outcome that does not name the device.
-/

import Twalk.Credential
import Twalk.HandoverRuns

namespace Twalk.Handover

/-! ### What is owed -/

def IsLogin (options : CredentialOptions) (saying : Saying) : Prop :=
  ∃ request answer, saying = .asked request answer ∧ request.method = "POST" ∧
    request.url = options.baseUrl ++ loginPath

def IsSent (saying : Saying) : Prop :=
  ∃ user devices eventType content reached,
    saying = .sent user devices eventType content reached

def loginRequest (options : CredentialOptions) (localpart : String) : Request where
  method := "POST"
  url := options.baseUrl ++ loginPath
  token := none
  body := some (loginBody localpart options.password)

def offerRequest (options : CredentialOptions) (offeringDevice : String) : Request where
  method := "PUT"
  url := options.baseUrl ++ offerPath options.roomId
  token := some options.accessToken
  body := some (.object [("device_id", .string offeringDevice)])

def heldRequest (options : CredentialOptions) : Request where
  method := "GET"
  url := options.baseUrl ++ heldPath options.roomId
  token := some options.accessToken
  body := none

def OfferAccepted (options : CredentialOptions) (saying : Saying) : Prop :=
  ∃ device answer, saying = .asked (offerRequest options device) (.ok answer) ∧
    answer.status = 200

def SensorKnown (options : CredentialOptions) (saying : Saying) : Prop :=
  ∃ devices, saying = .knew options.sensorUserId (.ok devices) ∧ devices ≠ []

def Answers (options : CredentialOptions) (earlier saying : Saying) : Prop :=
  ∃ localpart login credential user devices reached,
    earlier = .asked (loginRequest options localpart) (.ok login) ∧
    credentialOf login = some credential ∧
    saying = .sent user devices handoverEventType credential.content reached

/-- No login comes before the offer was accepted and a device of the Sensor's known, and nothing is
sent but the credential of a login before. -/
structure InOrder (options : CredentialOptions) (said : List Saying) : Prop where
  offered : Talk.Preceded (IsLogin options) (fun earlier _ => OfferAccepted options earlier) said
  known : Talk.Preceded (IsLogin options) (fun earlier _ => SensorKnown options earlier) said
  sent : Talk.Preceded IsSent (Answers options) said

/-- What an outcome of the handover of the credential says is true of what was said, and it names
the device that was made unless the Sensor holds it. -/
structure CredentialTrue (options : CredentialOptions) (minted : Option String)
    (ended : Except String CredentialOutcome) (said : List Saying) : Prop where
  outcome : ∃ outcome, ended = .ok outcome
  held : ∀ device, ended = .ok (.held device) →
    (∃ localpart login, .asked (loginRequest options localpart) (.ok login) ∈ said ∧
      deviceOf login = some device) ∧
    ∃ answer, .asked (heldRequest options) (.ok answer) ∈ said ∧ answer.status = 200 ∧
      asString (answer.document.get? "device_id") = some device
  order : InOrder options said
  named : ∀ device, minted = some device → (∃ saying ∈ said, IsLogin options saying) →
    ended = .ok (.held device) ∨ ended = .ok (.notAcknowledged device) ∨
      ∃ missing, ended = .ok (.notEncryptedTo missing device)

/-- The handover of the credential always ends, and every outcome it can have is true. -/
def CredentialKept (options : CredentialOptions) (answers : CredentialAnswers) : Prop :=
  (∃ fuel, (handOverTheDevice options answers fuel []).isSome) ∧
    ∀ fuel, (handOverTheDevice options answers fuel).Ensures []
      (CredentialTrue options answers.login.minted)

def RoomKept (options : HandoverOptions) (answers : RoomAnswers) : Prop :=
  (∃ fuel, (ensureHandoverRoom options answers fuel []).isSome) ∧
    ∀ fuel, (ensureHandoverRoom options answers fuel).Ensures [] (RoomTrue options)

/-! ### When it is kept -/

/-- The handover gets as far as the login. -/
def ReachesLogin (options : CredentialOptions) (answers : CredentialAnswers) : Prop :=
  (∃ device, answers.deviceId = some device ∧ device ≠ "") ∧
    (∃ localpart, localpartOf options.userId = some localpart) ∧
    (∃ devices, answers.sensorDevices = .ok devices ∧ devices ≠ []) ∧
    ∃ offered, answers.offered = .ok offered ∧ offered.status = 200

def PollsEnd (options : CredentialOptions) (answers : CredentialAnswers) (device : String) : Prop :=
  ∃ turn, (∀ earlier ≤ turn, ∃ response, answers.polls earlier = .ok response) ∧
    ((∃ response, answers.polls turn = .ok response ∧
      acknowledges device (answerOf response) = true) ∨
    answers.clock.passed options.ackDeadlineMs turn = true)

/-- The login answers with all of a credential, which is sent without an error and then asked about
with every poll answered. -/
def Delivered (options : CredentialOptions) (answers : CredentialAnswers) : Prop :=
  ∃ login credential reached, answers.login.response.map answerOf = .ok login ∧
    credentialOf login = some credential ∧ answers.reached = .ok reached ∧
    PollsEnd options answers credential.deviceId

/-- What the handover of the credential leaves out does not happen: no device is made, or it is
delivered. -/
def NoneLost (options : CredentialOptions) (answers : CredentialAnswers) : Prop :=
  ¬ ReachesLogin options answers ∨ answers.login.minted = none ∨ Delivered options answers

section Credential

variable {options : CredentialOptions} {answers : CredentialAnswers}
  {offeringDevice localpart : String} {fuel : Nat} {said : List Saying}

/-! ### The exits before the wait -/

/-- What is said up to the login. -/
def offering (options : CredentialOptions) (offeringDevice : String) (devices : List String)
    (offered : Answer) : List Saying :=
  [.knew options.sensorUserId (.ok devices),
    .asked (offerRequest options offeringDevice) (.ok offered)]

def Plain (ended : Except String (CredentialOutcome ⊕ String × Int)) : Prop :=
  (∃ cause, ended = .error cause) ∨ ended = .ok (.inl .sensorUntracked) ∨
    ∃ detail, ended = .ok (.inl (.failed detail))

inductive Sends (options : CredentialOptions) (answers : CredentialAnswers)
    (offeringDevice localpart : String) :
    Except String (CredentialOutcome ⊕ String × Int) → List Saying → Prop
  | before {ended said} (plain : Plain ended)
      (silent : ∀ saying ∈ said, ¬ IsLogin options saying ∧ ¬ IsSent saying)
      (stopped : ¬ ReachesLogin options answers) :
      Sends options answers offeringDevice localpart ended said
  | refused {ended devices offered reply} (reaches : ReachesLogin options answers)
      (known : devices ≠ []) (accepted : offered.status = 200) (plain : Plain ended)
      (replied : answers.login.response.map answerOf = reply)
      (without : ∀ login, reply = .ok login → credentialOf login = none) :
      Sends options answers offeringDevice localpart ended
        (offering options offeringDevice devices offered ++
          [.asked (loginRequest options localpart) reply])
  | sent {devices offered login credential} (reaches : ReachesLogin options answers)
      (known : devices ≠ []) (accepted : offered.status = 200)
      (answered : answers.login.response.map answerOf = .ok login)
      (complete : credentialOf login = some credential) :
      Sends options answers offeringDevice localpart
        (answers.reached.map fun reached =>
          .inr (credential.deviceId, devices.length - (reached : Int)))
        (offering options offeringDevice devices offered ++
          [.asked (loginRequest options localpart) (.ok login),
            .sent options.sensorUserId devices handoverEventType credential.content
              answers.reached])

theorem silent_knew {devices : Except String (List String)} :
    ¬ IsLogin options (.knew options.sensorUserId devices) ∧
      ¬ IsSent (.knew options.sensorUserId devices) := by
  refine ⟨?_, ?_⟩
  · rintro ⟨_, _, same, -⟩
    cases same
  · rintro ⟨_, _, _, _, _, same⟩
    cases same

theorem silent_asked {request : Request} {answer : Except String Answer}
    (other : request.method ≠ "POST") :
    ¬ IsLogin options (.asked request answer) ∧ ¬ IsSent (.asked request answer) := by
  refine ⟨?_, ?_⟩
  · rintro ⟨_, _, same, isPost, -⟩
    cases same
    exact other isPost
  · rintro ⟨_, _, _, _, _, same⟩
    cases same

theorem ensures_sendTheCredential
    (isDevice : ∃ device, answers.deviceId = some device ∧ device ≠ "")
    (isLocalpart : localpartOf options.userId = some localpart) :
    (sendTheCredential options answers offeringDevice localpart).Ensures []
      (Sends options answers offeringDevice localpart) := by
  refine (Talk.ensures_bind _ _).mpr ((Talk.ensures_ask _ _).mpr ?_)
  rcases isKnown : answers.sensorDevices with error | devices
  · refine Sends.before (Or.inl ⟨error, rfl⟩) (List.forall_mem_singleton.mpr silent_knew) ?_
    rintro ⟨-, -, ⟨devices, known, -⟩, -⟩
    rw [isKnown] at known
    cases known
  · dsimp only
    split_ifs with none
    · refine (Talk.ensures_pure _).mpr (Sends.before (Or.inr (Or.inl rfl))
        (List.forall_mem_singleton.mpr silent_knew) ?_)
      rintro ⟨-, -, ⟨devices, known, some⟩, -⟩
      rw [isKnown] at known
      cases known
      exact some (List.length_eq_zero_iff.mp none)
    · have known : devices ≠ [] := fun empty => none (List.length_eq_zero_iff.mpr empty)
      have silent : ∀ answer, ∀ saying ∈ [Saying.knew options.sensorUserId (.ok devices),
          .asked (offerRequest options offeringDevice) answer],
            ¬ IsLogin options saying ∧ ¬ IsSent saying := by
        refine fun answer => List.forall_mem_cons.mpr ⟨silent_knew,
          List.forall_mem_singleton.mpr (silent_asked (show "PUT" ≠ "POST" by decide))⟩
      refine (Talk.ensures_bind _ _).mpr ((Talk.ensures_ask _ _).mpr ?_)
      rcases isOffered : answers.offered with error | response
      · refine Sends.before (Or.inl ⟨error, rfl⟩) (silent _) ?_
        rintro ⟨-, -, -, offered, isSome, -⟩
        rw [isOffered] at isSome
        cases isSome
      · dsimp only [Except.map]
        split_ifs with refused
        · refine (Talk.ensures_pure _).mpr
            (Sends.before (Or.inr (Or.inr ⟨_, rfl⟩)) (silent _) ?_)
          rintro ⟨-, -, -, offered, isSome, accepted⟩
          rw [isOffered] at isSome
          cases isSome
          exact refused accepted
        · have accepted : (answerOf response).status = 200 := not_not.mp refused
          have reaches : ReachesLogin options answers :=
            ⟨isDevice, ⟨localpart, isLocalpart⟩, ⟨devices, isKnown, known⟩, response, isOffered,
              accepted⟩
          refine (Talk.ensures_bind _ _).mpr ((Talk.ensures_ask _ _).mpr ?_)
          rcases answered : answers.login.response.map answerOf with error | login
          · exact Sends.refused reaches known accepted (Or.inl ⟨error, rfl⟩) answered
              fun login same => nomatch same
          · dsimp only
            rcases complete : credentialOf login with _ | credential
            · refine (Talk.ensures_pure _).mpr (Sends.refused reaches known accepted
                (Or.inr (Or.inr ⟨_, rfl⟩)) answered fun other same => ?_)
              cases same
              exact complete
            · have sent : Sends options answers offeringDevice localpart _ _ :=
                Sends.sent reaches known accepted answered complete
              refine (Talk.ensures_bind _ _).mpr ((Talk.ensures_ask _ _).mpr ?_)
              rcases reached : answers.reached with error | count
              · rw [reached] at sent
                exact sent
              · rw [reached] at sent
                exact (Talk.ensures_pure _).mpr sent

/-! ### The wait for the acknowledgement -/

def IsRead (options : CredentialOptions) (saying : Saying) : Prop :=
  ∃ answer, saying = .asked (heldRequest options) answer

variable {created : String}

theorem confined_readHeld (turn : Nat) :
    Talk.Confined (IsRead options) (readHeld options answers created turn) := by
  have isRead : IsRead options (.asked (heldRequest options)
    ((answers.polls turn).map answerOf)) := ⟨_, rfl⟩
  exact (Talk.confined_ask isRead).bind fun _ => Talk.confined_pure _

theorem ensures_waitFor_of_pollsEnd (ends : PollsEnd options answers created) :
    (waitFor (readHeld options answers created) answers.clock options.ackDeadlineMs fuel).Ensures
      said fun ended later => ∃ held, ended = .ok (held, ()) ∧ (held = true →
        ∃ answer, .asked (heldRequest options) (.ok answer) ∈ later ∧
          acknowledges created answer = true) := by
  obtain ⟨last, answered, settles⟩ := ends
  refine ensures_waitFor (fun turn _ => turn ≤ last) (fun turn said within => ?_) (Nat.zero_le _)
  obtain ⟨response, isPoll⟩ := answered turn within
  refine (Talk.ensures_bind _ _).mpr ((Talk.ensures_ask _ _).mpr ?_)
  rw [isPoll]
  refine (Talk.ensures_pure _).mpr ?_
  rcases named : acknowledges created (answerOf response) with _ | _
  · dsimp only
    split_ifs with passed
    · exact ⟨false, rfl, nofun⟩
    · have notLast : turn ≠ last := by
        rintro rfl
        rcases settles with ⟨other, same, acknowledged⟩ | isPassed
        · rw [isPoll] at same
          cases same
          rw [acknowledged] at named
          cases named
        · exact passed isPassed
      omega
  · exact ⟨true, rfl, fun _ => ⟨answerOf response,
      List.mem_append_right _ (List.mem_singleton_self _), named⟩⟩

theorem ensures_waitFor_of_not_pollsEnd (never : ¬ PollsEnd options answers created) :
    (waitFor (readHeld options answers created) answers.clock options.ackDeadlineMs fuel).Ensures
      said fun ended _ => ∃ error, ended = .error error := by
  refine ensures_waitFor
    (fun turn _ => ∀ earlier < turn, ∃ response, answers.polls earlier = .ok response)
    (fun turn said answered => ?_) (fun earlier before => absurd before (Nat.not_lt_zero _))
  refine (Talk.ensures_bind _ _).mpr ((Talk.ensures_ask _ _).mpr ?_)
  rcases isPoll : answers.polls turn with error | response
  · exact ⟨error, rfl⟩
  · have upTo : ∀ earlier ≤ turn, ∃ response, answers.polls earlier = .ok response := by
      intro earlier before
      rcases Nat.lt_or_eq_of_le before with before | rfl
      · exact answered earlier before
      · exact ⟨response, isPoll⟩
    refine (Talk.ensures_pure _).mpr ?_
    rcases named : acknowledges created (answerOf response) with _ | _
    · dsimp only
      split_ifs with passed
      · exact absurd ⟨turn, upTo, Or.inr passed⟩ never
      · exact fun earlier before => upTo earlier (Nat.lt_succ_iff.mp before)
    · exact absurd ⟨turn, upTo, Or.inl ⟨response, isPoll, named⟩⟩ never

theorem halts_waitFor_readHeld {last : Nat}
    (passed : answers.clock.passed options.ackDeadlineMs last = true) (enough : last < fuel) :
    (waitFor (readHeld options answers created) answers.clock options.ackDeadlineMs
      fuel).Halts :=
  halts_waitFor (fun _ => (Talk.halts_ask _ _).bind fun _ => Talk.halts_pure _) passed enough

theorem exists_halts_handOverTheDevice (options : CredentialOptions)
    (answers : CredentialAnswers) : ∃ fuel, (handOverTheDevice options answers fuel).Halts := by
  obtain ⟨last, passed⟩ := answers.clock.exists_passed options.ackDeadlineMs
  refine ⟨last + 1, ?_⟩
  unfold handOverTheDevice
  split
  · exact Talk.halts_pure _
  · split
    · exact Talk.halts_pure _
    · refine Talk.Halts.bind (Talk.Halts.attempt ?_) fun prepared => ?_
      · refine (Talk.halts_ask _ _).bind fun devices => ?_
        split_ifs
        · exact Talk.halts_pure _
        · refine Talk.Halts.bind (Talk.halts_ask _ _) fun offered => ?_
          split_ifs
          · exact Talk.halts_pure _
          · refine Talk.Halts.bind (Talk.halts_ask _ _) fun login => ?_
            split
            · exact Talk.halts_pure _
            · exact (Talk.halts_ask _ _).bind fun _ => Talk.halts_pure _
      · unfold awaitTheAcknowledgement
        split
        · exact Talk.halts_pure _
        · exact Talk.halts_pure _
        · refine (halts_waitFor_readHeld passed (Nat.lt_succ_self _)).bind
            fun (acknowledged, _) => ?_
          dsimp only
          split_ifs
          · exact Talk.halts_pure _
          · exact Talk.halts_pure _
          · exact Talk.halts_pure _

/-! ### What is said is in order -/

theorem inOrder_nil : InOrder options [] :=
  ⟨Talk.preceded_nil, Talk.preceded_nil, Talk.preceded_nil⟩

theorem InOrder.append (order : InOrder options said) {rest : List Saying}
    (silent : ∀ saying ∈ rest, ¬ IsLogin options saying ∧ ¬ IsSent saying) :
    InOrder options (said ++ rest) :=
  ⟨order.offered.append fun saying member => (silent saying member).1,
    order.known.append fun saying member => (silent saying member).1,
    order.sent.append fun saying member => (silent saying member).2⟩

variable {devices : List String}

theorem silent_offering {offered : Answer} :
    ∀ saying ∈ offering options offeringDevice devices offered,
      ¬ IsLogin options saying ∧ ¬ IsSent saying :=
  List.forall_mem_cons.mpr ⟨silent_knew,
    List.forall_mem_singleton.mpr (silent_asked (show "PUT" ≠ "POST" by decide))⟩

theorem inOrder_login {offered : Answer} (known : devices ≠ []) (accepted : offered.status = 200)
    (reply : Except String Answer) :
    InOrder options (offering options offeringDevice devices offered ++
      [.asked (loginRequest options localpart) reply]) := by
  have order : InOrder options ([] ++ offering options offeringDevice devices offered) :=
    inOrder_nil.append silent_offering
  refine ⟨order.offered.concat fun _ => ?_, order.known.concat fun _ => ?_,
    order.sent.concat ?_⟩
  · exact ⟨_, List.mem_cons_of_mem _ (List.mem_singleton_self _),
      ⟨offeringDevice, offered, rfl, accepted⟩⟩
  · exact ⟨_, List.mem_cons_self, ⟨devices, rfl, known⟩⟩
  · rintro ⟨_, _, _, _, _, same⟩
    cases same

theorem InOrder.sending (order : InOrder options said) {earlier saying : Saying}
    (before : earlier ∈ said) (answers : Answers options earlier saying) :
    InOrder options (said ++ [saying]) := by
  have noLogin : ¬ IsLogin options saying := by
    obtain ⟨_, _, _, _, _, _, _, _, rfl⟩ := answers
    rintro ⟨_, _, same, -⟩
    cases same
  exact ⟨order.offered.append (List.forall_mem_singleton.mpr noLogin),
    order.known.append (List.forall_mem_singleton.mpr noLogin),
    order.sent.concat fun _ => ⟨earlier, before, answers⟩⟩

/-! ### Every outcome is true -/

variable {outcome : CredentialOutcome}

theorem credentialTrue_of_not_made {minted : Option String} (order : InOrder options said)
    (notHeld : ∀ device, outcome ≠ .held device)
    (notMade : minted = none ∨ ∀ saying ∈ said, ¬ IsLogin options saying) :
    CredentialTrue options minted (.ok outcome) said where
  outcome := ⟨outcome, rfl⟩
  held device same := by
    cases same
    exact absurd rfl (notHeld device)
  order := order
  named device made login := by
    rcases notMade with none | noLogin
    · rw [none] at made
      cases made
    · obtain ⟨saying, member, isLogin⟩ := login
      exact absurd isLogin (noLogin saying member)

theorem credentialTrue_of_named {minted : Option String} {device : String}
    (order : InOrder options said) (made : minted = some device)
    (names : outcome = .held device ∨ outcome = .notAcknowledged device ∨
      ∃ missing, outcome = .notEncryptedTo missing device) (held : outcome = .held device →
      (∃ localpart login, .asked (loginRequest options localpart) (.ok login) ∈ said ∧
        deviceOf login = some device) ∧
      ∃ answer, .asked (heldRequest options) (.ok answer) ∈ said ∧ answer.status = 200 ∧
        asString (answer.document.get? "device_id") = some device) :
    CredentialTrue options minted (.ok outcome) said where
  outcome := ⟨outcome, rfl⟩
  held other same := by
    cases same
    rcases names with same | same | ⟨_, same⟩
    · cases same
      exact held rfl
    · cases same
    · cases same
  order := order
  named other made' _ := by
    rw [made] at made'
    cases made'
    rcases names with rfl | rfl | ⟨missing, rfl⟩
    · exact Or.inl rfl
    · exact Or.inr (Or.inl rfl)
    · exact Or.inr (Or.inr ⟨missing, rfl⟩)

variable {credential : DeviceCredential}

theorem deviceOf_of_credentialOf {login : Answer} (complete : credentialOf login = some credential)
    :
    deviceOf login = some credential.deviceId := by
  unfold credentialOf at complete
  unfold deviceOf
  split_ifs at complete ⊢
  split at complete
  · rename_i isDevice _
    cases complete
    exact isDevice
  · cases complete

variable {described : Except String CredentialOutcome → List Saying → Prop}

theorem ensures_of_plain {ended : Except String (CredentialOutcome ⊕ String × Int)}
    (plain : Plain ended)
    (holds : ∀ outcome, (outcome = .sensorUntracked ∨ ∃ detail, outcome = .failed detail) →
      described (.ok outcome) said) :
    (awaitTheAcknowledgement options answers fuel ended).Ensures said described := by
  rcases plain with ⟨cause, rfl⟩ | rfl | ⟨detail, rfl⟩
  · exact (Talk.ensures_pure _).mpr (holds _ (Or.inr ⟨cause, rfl⟩))
  · exact (Talk.ensures_pure _).mpr (holds _ (Or.inl rfl))
  · exact (Talk.ensures_pure _).mpr (holds _ (Or.inr ⟨detail, rfl⟩))

theorem ensures_await {offered login : Answer} {missing : Int} (known : devices ≠ [])
    (accepted : offered.status = 200) (complete : credentialOf login = some credential)
    (made : answers.login.minted = some credential.deviceId)
    (ends : PollsEnd options answers credential.deviceId) :
    (awaitTheAcknowledgement options answers fuel (.ok (.inr (credential.deviceId, missing)))).Ensures
      (offering options offeringDevice devices offered ++
        [.asked (loginRequest options localpart) (.ok login),
          .sent options.sensorUserId devices handoverEventType credential.content answers.reached])
      (CredentialTrue options answers.login.minted) := by
  have order : InOrder options ((offering options offeringDevice devices offered ++
      [.asked (loginRequest options localpart) (.ok login)]) ++
      [.sent options.sensorUserId devices handoverEventType credential.content
        answers.reached]) :=
    (inOrder_login known accepted _).sending
      (List.mem_append_right _ (List.mem_singleton_self _))
      ⟨localpart, login, credential, _, _, _, rfl, complete, rfl⟩
  refine (Talk.ensures_bind _ _).mpr
    (((confined_waitFor confined_readHeld _).and (ensures_waitFor_of_pollsEnd ends)).mono ?_)
  rintro ended final ⟨⟨rest, rfl, reads⟩, held, rfl, acknowledged⟩
  have silent : ∀ saying ∈ rest, ¬ IsLogin options saying ∧ ¬ IsSent saying := by
    rintro saying member
    obtain ⟨answer, rfl⟩ := reads saying member
    exact silent_asked (show "GET" ≠ "POST" by decide)
  have ordered := order.append silent
  dsimp only
  split_ifs with isHeld
  · refine (Talk.ensures_pure _).mpr
      (credentialTrue_of_named ordered made (Or.inl rfl) fun _ => ?_)
    obtain ⟨answer, read, named⟩ := acknowledged isHeld
    obtain ⟨isOk, names⟩ := Bool.and_eq_true_iff.mp named
    exact ⟨⟨localpart, login, by simp [offering], deviceOf_of_credentialOf complete⟩, answer, read,
      eq_of_beq isOk, eq_of_beq names⟩
  · exact (Talk.ensures_pure _).mpr
      (credentialTrue_of_named ordered made (Or.inr (Or.inr ⟨_, rfl⟩)) nofun)
  · exact (Talk.ensures_pure _).mpr
      (credentialTrue_of_named ordered made (Or.inr (Or.inl rfl)) nofun)

theorem ensures_of_sends
    (early : ∀ outcome, (outcome = .sensorUntracked ∨ ∃ detail, outcome = .failed detail) →
      ∀ said, (∀ saying ∈ said, ¬ IsLogin options saying ∧ ¬ IsSent saying) →
        ¬ ReachesLogin options answers → described (.ok outcome) said)
    (late : ∀ localpart offeringDevice ended said, ReachesLogin options answers →
      Sends options answers offeringDevice localpart ended said →
        (awaitTheAcknowledgement options answers fuel ended).Ensures said described) :
    (handOverTheDevice options answers fuel).Ensures [] described := by
  unfold handOverTheDevice
  split
  · rename_i noDevice
    refine (Talk.ensures_pure _).mpr (early _ (Or.inr ⟨_, rfl⟩) [] (List.forall_mem_nil _) ?_)
    rintro ⟨⟨device, isDevice, some⟩, -⟩
    rw [isDevice] at noDevice
    simp [Option.filter, some] at noDevice
  · rename_i offeringDevice isOffering
    have isDevice : ∃ device, answers.deviceId = some device ∧ device ≠ "" := by
      obtain ⟨isDevice, some⟩ := Option.filter_eq_some_iff.mp isOffering
      exact ⟨offeringDevice, isDevice, of_decide_eq_true some⟩
    split
    · rename_i noLocalpart
      refine (Talk.ensures_pure _).mpr (early _ (Or.inr ⟨_, rfl⟩) [] (List.forall_mem_nil _) ?_)
      rintro ⟨-, ⟨localpart, isLocalpart⟩, -⟩
      rw [isLocalpart] at noLocalpart
      cases noLocalpart
    · rename_i localpart isLocalpart
      refine (Talk.ensures_bind _ _).mpr ((Talk.ensures_attempt _).mpr
        ((ensures_sendTheCredential isDevice isLocalpart).mono ?_))
      rintro ended later sends
      by_cases reaches : ReachesLogin options answers
      · exact late localpart offeringDevice ended later reaches sends
      · cases sends with
        | before plain silent stopped =>
          exact ensures_of_plain plain fun outcome noDevice =>
            early outcome noDevice later silent stopped
        | refused reached => exact absurd reached reaches
        | sent reached => exact absurd reached reaches

theorem ensures_handOverTheDevice (noneLost : NoneLost options answers) :
    (handOverTheDevice options answers fuel).Ensures []
      (CredentialTrue options answers.login.minted) := by
  refine ensures_of_sends ?_ ?_
  · rintro outcome noDevice said silent -
    refine credentialTrue_of_not_made (inOrder_nil.append silent) ?_
      (Or.inr fun saying member => (silent saying member).1)
    rcases noDevice with rfl | ⟨detail, rfl⟩ <;> simp
  · rintro localpart offeringDevice ended said reaches sends
    cases sends with
    | before plain silent stopped => exact absurd reaches stopped
    | refused _ known accepted plain replied without =>
      refine ensures_of_plain plain fun outcome noDevice =>
        credentialTrue_of_not_made (inOrder_login known accepted _) ?_ (Or.inl ?_)
      · rcases noDevice with rfl | ⟨detail, rfl⟩ <;> simp
      · rcases noneLost with never | none | ⟨login, credential, -, isLogin, complete, -⟩
        · exact absurd reaches never
        · exact none
        · rw [without login (replied.symm.trans isLogin)] at complete
          cases complete
    | @sent devices offered login credential _ known accepted answered complete =>
      have made : answers.login.minted = some credential.deviceId :=
        answers.login.honest login answered _ (deviceOf_of_credentialOf complete)
      rcases noneLost with never | none | ⟨other, same, count, isLogin, isComplete, reached, ends⟩
      · exact absurd reaches never
      · rw [none] at made
        cases made
      · cases answered.symm.trans isLogin
        cases complete.symm.trans isComplete
        have sent : (answers.reached.map fun reached =>
            (Sum.inr (credential.deviceId, devices.length - (reached : Int)) :
              CredentialOutcome ⊕ String × Int)) =
            .ok (.inr (credential.deviceId, devices.length - (count : Int))) := by
          rw [reached]
          rfl
        rw [sent]
        exact ensures_await known accepted complete made ends

theorem not_credentialTrue (lost : ¬ NoneLost options answers) :
    (handOverTheDevice options answers fuel).Ensures [] fun ended said =>
      ¬ CredentialTrue options answers.login.minted ended said := by
  obtain ⟨reaches, made, undelivered⟩ : ReachesLogin options answers ∧
      answers.login.minted ≠ none ∧ ¬ Delivered options answers := by
    obtain ⟨reaches, rest⟩ := not_or.mp lost
    obtain ⟨made, undelivered⟩ := not_or.mp rest
    exact ⟨not_not.mp reaches, made, undelivered⟩
  obtain ⟨device, isMade⟩ := Option.ne_none_iff_exists'.mp made
  have nameless : ∀ outcome said,
      (outcome = .sensorUntracked ∨ ∃ detail, outcome = .failed detail) →
      (∃ saying ∈ said, IsLogin options saying) →
      ¬ CredentialTrue options answers.login.minted (.ok outcome) said := by
    rintro outcome said noDevice login isTrue
    rcases isTrue.named device isMade login with same | same | ⟨_, same⟩ <;> cases same <;>
      simp at noDevice
  refine ensures_of_sends (fun _ _ _ _ stopped => absurd reaches stopped) ?_
  rintro localpart offeringDevice ended said - sends
  cases sends with
  | before plain silent stopped => exact absurd reaches stopped
  | refused _ known accepted plain replied without =>
    refine ensures_of_plain plain fun outcome noDevice => nameless outcome _ noDevice ?_
    exact ⟨_, List.mem_append_right _ (List.mem_singleton_self _), _, _, rfl, rfl, rfl⟩
  | @sent devices offered login credential _ known accepted answered complete =>
    rcases reached : answers.reached with error | count
    · refine (Talk.ensures_pure _).mpr (nameless _ _ (Or.inr ⟨_, rfl⟩) ?_)
      exact ⟨_, List.mem_append_right _ List.mem_cons_self, _, _, rfl, rfl, rfl⟩
    · have never : ¬ PollsEnd options answers credential.deviceId := fun ends =>
        undelivered ⟨login, credential, count, answered, complete, reached, ends⟩
      refine (Talk.ensures_bind _ _).mpr ((ensures_waitFor_of_not_pollsEnd never).mono ?_)
      rintro _ final ⟨error, rfl⟩ isTrue
      obtain ⟨outcome, same⟩ := isTrue.outcome
      cases same

end Credential

/-! ### Both handovers -/

theorem not_credentialKept {options : CredentialOptions} {answers : CredentialAnswers}
    (lost : ¬ NoneLost options answers) : ¬ CredentialKept options answers := by
  rintro ⟨⟨fuel, some⟩, isTrue⟩
  obtain ⟨⟨ended, said⟩, ran⟩ := Option.isSome_iff_exists.mp some
  exact not_credentialTrue lost ended said ran (isTrue fuel ended said ran)

/-- Both handovers always end in an outcome that is true exactly when no device is lost: whenever
the login made one, it answered with all of a credential, the credential was sent without an error
and every poll for the acknowledgement was answered. -/
theorem handovers_kept_iff (roomOptions : HandoverOptions) (roomAnswers : RoomAnswers)
    (options : CredentialOptions) (answers : CredentialAnswers) :
    (RoomKept roomOptions roomAnswers ∧ CredentialKept options answers) ↔
      NoneLost options answers := by
  constructor
  · rintro ⟨-, kept⟩
    by_contra lost
    exact not_credentialKept lost kept
  · intro noneLost
    obtain ⟨roomFuel, roomHalts⟩ := exists_halts_ensureHandoverRoom roomOptions roomAnswers
    obtain ⟨fuel, halts⟩ := exists_halts_handOverTheDevice options answers
    exact ⟨⟨⟨roomFuel, roomHalts []⟩, fun fuel => ensures_ensureHandoverRoom⟩,
      ⟨⟨fuel, halts []⟩, fun fuel => ensures_handOverTheDevice noneLost⟩⟩

/-! ### A device that is lost -/

def michel : CredentialOptions where
  baseUrl := "https://matrix.example.com"
  userId := String.ofList ['@', 'm', ':', 'h']
  password := "secret"
  accessToken := "token"
  sensorUserId := "@sensor:example.com"
  roomId := "!handover:example.com"
  ackDeadlineMs := 60000

/-- The answer of a login that made a device. -/
def loggedIn : Response where
  status := 200
  body := some (.object [("user_id", .string "@m:h"), ("device_id", .string "TWALK"),
    ("access_token", .string "credential")])

theorem deviceOf_loggedIn : deviceOf (answerOf loggedIn) = some "TWALK" := by decide

def answering (reached : Except String Nat) (polls : Nat → Except String Response) :
    CredentialAnswers where
  deviceId := some "BROWSER"
  sensorDevices := .ok ["SENSOR"]
  offered := .ok ⟨200, none⟩
  login := {
    minted := some "TWALK"
    response := .ok loggedIn
    honest := by
      rintro answer same device isDevice
      cases same
      exact deviceOf_loggedIn.symm.trans isDevice }
  reached := reached
  polls := polls
  clock := {
    reading := fun turn => 1000 * turn
    goesOn := fun moment => ⟨moment.toNat, by omega⟩ }

theorem reachesLogin_answering (reached : Except String Nat)
    (polls : Nat → Except String Response) : ReachesLogin michel (answering reached polls) := by
  refine ⟨⟨"BROWSER", rfl, by decide⟩, ⟨String.ofList ['m'], ?_⟩, ⟨["SENSOR"], rfl, by decide⟩,
    ⟨200, none⟩, rfl, rfl⟩
  simp [localpartOf, michel]

/-- The connection drops at the first poll, and the credential could not be encrypted. -/
theorem not_kept_answering :
    ¬ CredentialKept michel (answering (.ok 1) fun _ => .error "Failed to fetch") ∧
      ¬ CredentialKept michel (answering (.error "no session") fun _ => .ok ⟨404, none⟩) := by
  refine ⟨not_credentialKept ?_, not_credentialKept ?_⟩
  · rintro (never | none | ⟨login, credential, reached, -, -, -, turn, answered, -⟩)
    · exact never (reachesLogin_answering _ _)
    · cases none
    · obtain ⟨response, isSome⟩ := answered turn le_rfl
      cases isSome
  · rintro (never | none | ⟨login, credential, reached, -, -, isReached, -⟩)
    · exact never (reachesLogin_answering _ _)
    · cases none
    · cases isReached

end Twalk.Handover
