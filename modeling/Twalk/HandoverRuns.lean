/-
This file holds every outcome of the handover of the room against what was said
before it. Whatever the homeserver and the crypto machine answer, the room is
reported ready only when the Sensor's membership was read as joined and a device
of the Sensor's was counted, a room is asked for at most once and only after its
alias named none, and the sync is stopped wherever it was started.
-/

import Twalk.HandoverRoom

namespace Twalk.Handover

/-! ### What is owed -/

def IsAsked (saying : Saying) : Prop :=
  ∃ request answer, saying = .asked request answer

def IsCreation (options : HandoverOptions) (saying : Saying) : Prop :=
  ∃ request answer, saying = .asked request answer ∧ request.method = "POST" ∧
    request.url = options.baseUrl ++ createRoomPath

def lookupRequest (options : HandoverOptions) (roomAlias : String) : Request where
  method := "GET"
  url := options.baseUrl ++ aliasPath roomAlias
  token := some options.accessToken
  body := none

def creationRequest (options : HandoverOptions) (sensor ownerLocalpart : String) : Request where
  method := "POST"
  url := options.baseUrl ++ createRoomPath
  token := some options.accessToken
  body := some (handoverRoomCreation sensor ownerLocalpart options.roomName)

def memberRequest (options : HandoverOptions) (room sensor : String) : Request where
  method := "GET"
  url := options.baseUrl ++ memberPath room sensor
  token := some options.accessToken
  body := none

/-- No room is asked for, or one is, under the alias that was looked up just before and named no
room, and no other after it. -/
def CreatesOnce (options : HandoverOptions) (said : List Saying) : Prop :=
  (∀ saying ∈ said, ¬ IsCreation options saying) ∨
    ∃ sensor roomAlias ownerLocalpart looked created rest,
      handoverAlias options.userId = some roomAlias ∧
      localpartOf options.userId = some ownerLocalpart ∧
      said = .asked (lookupRequest options roomAlias) (.ok looked) ::
        .asked (creationRequest options sensor ownerLocalpart) created :: rest ∧
      roomOf looked = none ∧ ∀ saying ∈ rest, ¬ IsCreation options saying

structure RoomTrue (options : HandoverOptions) (ended : Except String HandoverOutcome)
    (said : List Saying) : Prop where
  outcome : ∃ outcome, ended = .ok outcome
  ready : ∀ room devices created, ended = .ok (.ready room devices created) →
    ∃ sensor, options.sensorUserId = some sensor ∧
      (∃ answer, .asked (memberRequest options room sensor) (.ok answer) ∈ said ∧
        membershipOf answer = some "join") ∧
      0 < devices ∧ .counted sensor (.ok devices) ∈ said
  creates : CreatesOnce options said
  stops : ∀ front result back, said = front ++ .started result :: back → .stopped ∈ back

section Room

variable {options : HandoverOptions} {answers : RoomAnswers}
  {sensor roomAlias ownerLocalpart room : String} {fuel : Nat} {said : List Saying}

/-! ### What each part says -/

variable {answer : Except String Answer}

theorem not_isCreation_of_method {request : Request} (other : request.method ≠ "POST") :
    ¬ IsCreation options (.asked request answer) := by
  rintro ⟨_, _, same, isPost, -⟩
  cases same
  exact other isPost

theorem not_isCreation_of_rooms {request : Request} {place : String}
    (url : request.url = options.baseUrl ++ ("/_matrix/client/v3/rooms/" ++ place)) :
    ¬ IsCreation options (.asked request answer) := by
  rintro ⟨_, _, same, -, sameUrl⟩
  cases same
  rw [url] at sameUrl
  have paths := congrArg String.toList sameUrl
  simp only [String.toList_append, createRoomPath] at paths
  have tails := List.append_cancel_left paths
  have letters := congrArg (fun letters => letters[20]?) tails
  simp at letters

def Sharing (options : HandoverOptions) (saying : Saying) : Prop :=
  IsAsked saying ∧ ¬ IsCreation options saying

variable {response : Except String Response}

theorem confined_call {method path : String} {body : Option Json} (other : method ≠ "POST") :
    Talk.Confined (Sharing options) (options.call method path body response) :=
  Talk.confined_ask ⟨⟨_, _, rfl⟩, not_isCreation_of_method other⟩

theorem confined_memberOf :
    Talk.Confined (Sharing options) (memberOf options room sensor response) :=
  (confined_call (by decide)).bind fun _ => Talk.confined_pure _

theorem confined_grantTheAcknowledgement :
    Talk.Confined (Sharing options) (grantTheAcknowledgement options answers room) := by
  refine (confined_call (by decide)).bind fun current => ?_
  split_ifs
  · exact Talk.confined_pure _
  · exact Talk.confined_pure _
  · refine (confined_call (by decide)).bind fun written => ?_
    split_ifs
    · exact Talk.confined_pure _
    · refine (confined_call (by decide)).bind fun rewritten => ?_
      split_ifs
      · exact Talk.confined_pure _
      · exact Talk.confined_pure _

variable {created : Bool}

theorem confined_shareRoom :
    Talk.Confined (Sharing options) (shareRoom options answers sensor room created fuel) := by
  refine confined_grantTheAcknowledgement.bind fun granted => ?_
  cases granted with
  | some words => exact Talk.confined_pure _
  | none =>
    refine confined_memberOf.bind fun membership => Talk.Confined.bind ?_ fun refused => ?_
    · split_ifs
      · exact Talk.confined_pure _
      · refine Talk.Confined.bind ?_ fun invitation => Talk.confined_pure _
        exact Talk.confined_ask ⟨⟨_, _, rfl⟩, not_isCreation_of_rooms
          (congrArg (options.baseUrl ++ ·) (String.append_assoc ..))⟩
    · cases refused with
      | some words => exact Talk.confined_pure _
      | none =>
        refine (confined_waitFor fun turn => ?_).bind fun (joined, _) => ?_
        · exact confined_memberOf.bind fun _ => Talk.confined_pure _
        · dsimp only
          split_ifs
          · exact Talk.confined_pure _
          · exact Talk.confined_pure _

/-! ### The room is found or created -/

theorem CreatesOnce.append {rest : List Saying} (creates : CreatesOnce options said)
    (others : ∀ saying ∈ rest, ¬ IsCreation options saying) :
    CreatesOnce options (said ++ rest) := by
  rcases creates with none | ⟨sensor, roomAlias, owner, looked, created, more, isAlias, isOwner, rfl,
    unnamed, noMore⟩
  · exact Or.inl fun saying member => (List.mem_append.mp member).elim (none saying) (others saying)
  · exact Or.inr ⟨sensor, roomAlias, owner, looked, created, more ++ rest, isAlias, isOwner, rfl,
      unnamed, fun saying member =>
        (List.mem_append.mp member).elim (noMore saying) (others saying)⟩

theorem ensures_findRoom (isAlias : handoverAlias options.userId = some roomAlias)
    (isOwner : localpartOf options.userId = some ownerLocalpart) :
    (findRoom options answers sensor roomAlias ownerLocalpart).Ensures [] fun _ later =>
      CreatesOnce options later ∧ ∀ saying ∈ later, IsAsked saying := by
  have notCreation : ∀ answer, ¬ IsCreation options
      (.asked (lookupRequest options roomAlias) answer) :=
    fun answer => not_isCreation_of_method (show "GET" ≠ "POST" by decide)
  have onlyLooked : ∀ answer, CreatesOnce options
        [.asked (lookupRequest options roomAlias) answer] ∧
      ∀ saying ∈ [Saying.asked (lookupRequest options roomAlias) answer], IsAsked saying :=
    fun answer => ⟨Or.inl (List.forall_mem_singleton.mpr (notCreation answer)),
      List.forall_mem_singleton.mpr ⟨_, _, rfl⟩⟩
  refine (Talk.ensures_bind _ _).mpr ((Talk.ensures_bind _ _).mpr
    ((Talk.ensures_ask _ _).mpr ?_))
  rcases found : answers.found.map answerOf with error | looked
  · exact onlyLooked _
  · refine (Talk.ensures_pure _).mpr ?_
    rcases named : roomOf looked with _ | found
    · refine (Talk.ensures_bind _ _).mpr ((Talk.ensures_ask _ _).mpr ?_)
      have createdOnce : ∀ created, CreatesOnce options
            [.asked (lookupRequest options roomAlias) (.ok looked),
              .asked (creationRequest options sensor ownerLocalpart) created] ∧
          ∀ saying ∈ [Saying.asked (lookupRequest options roomAlias) (.ok looked),
            .asked (creationRequest options sensor ownerLocalpart) created], IsAsked saying := by
        refine fun created => ⟨Or.inr ⟨sensor, roomAlias, ownerLocalpart, looked, created, [],
          isAlias, isOwner, rfl, named, List.forall_mem_nil _⟩, fun saying member => ?_⟩
        rcases List.mem_cons.mp member with rfl | member
        · exact ⟨_, _, rfl⟩
        · exact List.mem_singleton.mp member ▸ ⟨_, _, rfl⟩
      rcases made : answers.creation.map answerOf with error | creation
      · exact createdOnce _
      · dsimp only
        rcases isRoom : roomOf creation with _ | room
        · dsimp only
          split_ifs
          · have again : ∀ answer, CreatesOnce options
                  ([.asked (lookupRequest options roomAlias) (.ok looked),
                    .asked (creationRequest options sensor ownerLocalpart) (.ok creation)] ++
                    [.asked (lookupRequest options roomAlias) answer]) ∧
                ∀ saying ∈ [Saying.asked (lookupRequest options roomAlias) (.ok looked),
                    .asked (creationRequest options sensor ownerLocalpart) (.ok creation)] ++
                    [.asked (lookupRequest options roomAlias) answer], IsAsked saying :=
              fun answer => ⟨(createdOnce _).1.append
                  (List.forall_mem_singleton.mpr (notCreation answer)),
                List.forall_mem_append.mpr ⟨(createdOnce _).2,
                  List.forall_mem_singleton.mpr ⟨_, _, rfl⟩⟩⟩
            refine (Talk.ensures_bind _ _).mpr ((Talk.ensures_bind _ _).mpr
              ((Talk.ensures_ask _ _).mpr ?_))
            rcases raced : answers.raced.map answerOf with error | racedAnswer
            · exact again _
            · refine (Talk.ensures_pure _).mpr ?_
              dsimp only
              rcases roomOf racedAnswer with _ | room
              · exact (Talk.ensures_pure _).mpr (again _)
              · exact (Talk.ensures_pure _).mpr (again _)
          · exact (Talk.ensures_pure _).mpr (createdOnce _)
        · exact (Talk.ensures_pure _).mpr (createdOnce _)
    · exact (Talk.ensures_pure _).mpr (onlyLooked _)

/-! ### Early outcomes -/

def Early (ended : Except String (HandoverOutcome ⊕ String × Bool)) : Prop :=
  ∀ outcome, ended = .ok (.inl outcome) → ∀ room devices created,
    outcome ≠ .ready room devices created

theorem early_error (error : String) : Early (.error error) := fun _ same => nomatch same

theorem early_inr (place : String × Bool) : Early (.ok (.inr place)) := fun _ same => nomatch same

theorem early_failed (detail : String) : Early (.ok (.inl (.failed detail))) := by
  rintro outcome same
  cases same
  exact fun _ _ _ => nofun

theorem early_sensorDidNotJoin : Early (.ok (.inl (.sensorDidNotJoin room))) := by
  rintro outcome same
  cases same
  exact fun _ _ _ => nofun

theorem ensures_findRoom_early :
    (findRoom options answers sensor roomAlias ownerLocalpart).Ensures said
      fun ended _ => Early ended := by
  refine Talk.ensures_bind_of_rest (fun error _ => early_error error) fun found later => ?_
  split
  · exact (Talk.ensures_pure _).mpr (early_inr _)
  · refine Talk.ensures_bind_of_rest (fun error _ => early_error error) fun creation later => ?_
    split
    · exact (Talk.ensures_pure _).mpr (early_inr _)
    · split_ifs
      · refine Talk.ensures_bind_of_rest (fun error _ => early_error error) fun raced later => ?_
        split
        · exact (Talk.ensures_pure _).mpr (early_inr _)
        · exact (Talk.ensures_pure _).mpr (early_failed _)
      · exact (Talk.ensures_pure _).mpr (early_failed _)

theorem ensures_shareRoom_early :
    (shareRoom options answers sensor room created fuel).Ensures said
      fun ended _ => Early ended := by
  refine Talk.ensures_bind_of_rest (fun error _ => early_error error) fun granted later => ?_
  split
  · exact (Talk.ensures_pure _).mpr (early_failed _)
  · refine Talk.ensures_bind_of_rest (fun error _ => early_error error) fun membership later => ?_
    refine Talk.ensures_bind_of_rest (fun error _ => early_error error) fun refused later => ?_
    split
    · exact (Talk.ensures_pure _).mpr (early_failed _)
    · refine Talk.ensures_bind_of_rest (fun error _ => early_error error)
        fun (joined, _) later => ?_
      dsimp only
      split_ifs
      · exact (Talk.ensures_pure _).mpr (early_inr _)
      · exact (Talk.ensures_pure _).mpr early_sensorDidNotJoin

/-! ### The Sensor joins and is tracked -/

theorem ensures_shareRoom :
    (shareRoom options answers sensor room created fuel).Ensures said fun ended later =>
      ∀ place, ended = .ok (.inr place) → place.1 = room ∧
        ∃ answer, .asked (memberRequest options room sensor) (.ok answer) ∈ later ∧
          membershipOf answer = some "join" := by
  refine Talk.ensures_bind_of_rest (fun _ _ _ same => nomatch same) fun granted later => ?_
  cases granted with
  | some words => exact (Talk.ensures_pure _).mpr fun _ same => nomatch same
  | none =>
    refine Talk.ensures_bind_of_rest (fun _ _ _ same => nomatch same) fun membership later => ?_
    refine Talk.ensures_bind_of_rest (fun _ _ _ same => nomatch same) fun refused later => ?_
    cases refused with
    | some words => exact (Talk.ensures_pure _).mpr fun _ same => nomatch same
    | none =>
      have joins : (waitFor (fun turn => do
            let membership ← memberOf options room sensor (answers.joins turn)
            return (membership == some "join", ())) answers.joining options.joinDeadlineMs
            fuel).Ensures later fun ended final => ended = .ok (true, ()) →
          ∃ answer, .asked (memberRequest options room sensor) (.ok answer) ∈ final ∧
            membershipOf answer = some "join" := by
        refine ensures_waitFor (fun _ _ => True) (fun turn said _ => ?_) trivial
        refine (Talk.ensures_bind _ _).mpr ((Talk.ensures_bind _ _).mpr
          ((Talk.ensures_ask _ _).mpr ?_))
        rcases answers.joins turn with error | response
        · exact fun same => nomatch same
        · refine (Talk.ensures_pure _).mpr ((Talk.ensures_pure _).mpr ?_)
          rcases isJoin : membershipOf (answerOf response) == some "join" with _ | _
          · dsimp only
            split_ifs
            exact fun same => nomatch same
          · exact fun _ => ⟨answerOf response, List.mem_append_right _ (List.mem_singleton_self _),
              eq_of_beq isJoin⟩
      refine (Talk.ensures_bind _ _).mpr (joins.mono ?_)
      rintro (error | ⟨joined, _⟩) final joinedRead
      · exact fun _ same => nomatch same
      · cases joined with
        | false => exact (Talk.ensures_pure _).mpr fun _ same => nomatch same
        | true =>
          refine (Talk.ensures_pure _).mpr fun place same => ?_
          cases same
          exact ⟨rfl, joinedRead rfl⟩

/-- What the sync adds to what was said. -/
def Tracking (saying : Saying) : Prop :=
  (∃ result, saying = .started result) ∨ ∃ user devices, saying = .counted user devices

theorem confined_trackSensor :
    Talk.Confined Tracking (trackSensor options answers sensor fuel) := by
  have started : Tracking (.started answers.sync) := Or.inl ⟨_, rfl⟩
  have counted : ∀ turn, Tracking (.counted sensor (answers.counts turn)) :=
    fun turn => Or.inr ⟨_, _, rfl⟩
  refine (Talk.confined_ask started).bind fun _ => Talk.Confined.bind ?_ fun _ =>
    Talk.confined_pure _
  exact confined_waitFor fun turn =>
    (Talk.confined_ask (counted turn)).bind fun _ => Talk.confined_pure _

theorem ensures_trackSensor :
    (trackSensor options answers sensor fuel).Ensures said fun ended later =>
      ∀ devices, ended = .ok devices → .counted sensor (.ok devices) ∈ later := by
  refine Talk.ensures_bind_of_rest (fun _ _ _ same => nomatch same) fun _ later => ?_
  have counts : (waitFor (fun turn => do
        let devices ← Talk.ask (Saying.counted sensor) (answers.counts turn)
        return (decide (0 < devices), devices)) answers.tracking options.trackingDeadlineMs
        fuel).Ensures later fun ended final => ∀ held devices, ended = .ok (held, devices) →
          .counted sensor (.ok devices) ∈ final := by
    refine ensures_waitFor (fun _ _ => True) (fun turn said _ => ?_) trivial
    refine (Talk.ensures_bind _ _).mpr ((Talk.ensures_ask _ _).mpr ?_)
    rcases answers.counts turn with error | devices
    · exact fun _ _ same => nomatch same
    · refine (Talk.ensures_pure _).mpr ?_
      have counted : .counted sensor (.ok devices) ∈ said ++ [.counted sensor (.ok devices)] :=
        List.mem_append_right _ (List.mem_singleton_self _)
      rcases decide (0 < devices) with _ | _
      · dsimp only
        split_ifs
        rintro held others same
        cases same
        exact counted
      · rintro held others same
        cases same
        exact counted
  refine (Talk.ensures_bind _ _).mpr (counts.mono ?_)
  rintro (error | ⟨held, devices⟩) final counted
  · exact fun _ same => nomatch same
  · refine (Talk.ensures_pure _).mpr fun others same => ?_
    cases same
    exact counted held devices rfl

/-! ### Every outcome is true -/

theorem roomTrue_of_asked {outcome : HandoverOutcome} (creates : CreatesOnce options said)
    (asked : ∀ saying ∈ said, IsAsked saying)
    (notReady : ∀ room devices created, outcome ≠ .ready room devices created) :
    RoomTrue options (.ok outcome) said where
  outcome := ⟨outcome, rfl⟩
  ready room devices created same := by
    cases same
    exact absurd rfl (notReady room devices created)
  creates := creates
  stops front result back split := by
    obtain ⟨_, _, same⟩ := asked (.started result)
      (split ▸ List.mem_append_right _ List.mem_cons_self)
    cases same

theorem creates_nil : CreatesOnce options [] := Or.inl (List.forall_mem_nil _)

theorem ensures_prepareRoom (isAlias : handoverAlias options.userId = some roomAlias)
    (isOwner : localpartOf options.userId = some ownerLocalpart) :
    (prepareRoom options answers sensor roomAlias ownerLocalpart fuel).Ensures []
      fun ended later => CreatesOnce options later ∧ (∀ saying ∈ later, IsAsked saying) ∧
        Early ended ∧ ∀ place, ended = .ok (.inr place) →
          ∃ answer, .asked (memberRequest options place.1 sensor) (.ok answer) ∈ later ∧
            membershipOf answer = some "join" := by
  refine (Talk.ensures_bind _ _).mpr
    (((ensures_findRoom isAlias isOwner).and ensures_findRoom_early).mono ?_)
  rintro (error | outcome | ⟨room, created⟩) later ⟨⟨creates, asked⟩, early⟩
  · exact ⟨creates, asked, early_error error, fun _ same => nomatch same⟩
  · refine (Talk.ensures_pure _).mpr ⟨creates, asked, ?_, fun _ same => nomatch same⟩
    rintro other same
    cases same
    exact early outcome rfl
  · refine (((confined_shareRoom later).and ensures_shareRoom).and ensures_shareRoom_early).mono ?_
    rintro ended final ⟨⟨⟨rest, rfl, sharing⟩, joined⟩, isEarly⟩
    refine ⟨creates.append fun saying member => (sharing saying member).2,
      fun saying member => (List.mem_append.mp member).elim (asked saying)
        fun inRest => (sharing saying inRest).1, isEarly, fun place same => ?_⟩
    obtain ⟨rfl, read⟩ := joined place same
    exact read

theorem stopped_mem {saying : Saying} {front back : List Saying} (other : saying ≠ .stopped)
    (split : said ++ [.stopped] = front ++ saying :: back) : .stopped ∈ back := by
  rcases List.eq_nil_or_concat back with rfl | ⟨others, final, rfl⟩
  · obtain ⟨-, same⟩ := List.append_inj' split rfl
    cases same
    exact absurd rfl other
  · have regrouped : said ++ [.stopped] = (front ++ saying :: others) ++ [final] := by
      rw [split]
      simp
    obtain ⟨-, same⟩ := List.append_inj' regrouped rfl
    cases same
    simp

theorem ensures_ensureHandoverRoom :
    (ensureHandoverRoom options answers fuel).Ensures [] (RoomTrue options) := by
  unfold ensureHandoverRoom
  split
  · exact (Talk.ensures_pure _).mpr
      (roomTrue_of_asked creates_nil (List.forall_mem_nil _) (by simp))
  · rename_i sensor isSensor
    split_ifs
    · exact (Talk.ensures_pure _).mpr
        (roomTrue_of_asked creates_nil (List.forall_mem_nil _) (by simp))
    · split
      · rename_i roomAlias ownerLocalpart isAlias isOwner
        refine (Talk.ensures_bind _ _).mpr ((Talk.ensures_attempt _).mpr
          ((ensures_prepareRoom isAlias isOwner).mono ?_))
        rintro (error | outcome | ⟨room, created⟩) later ⟨creates, asked, early, joined⟩
        · exact (Talk.ensures_pure _).mpr (roomTrue_of_asked creates asked (by simp))
        · exact (Talk.ensures_pure _).mpr (roomTrue_of_asked creates asked (early outcome rfl))
        · refine (Talk.ensures_bind _ _).mpr ((Talk.ensures_attempt _).mpr
            ((Talk.ensures_lastly _ _).mpr
              (((confined_trackSensor later).and ensures_trackSensor).mono ?_)))
          rintro ended final ⟨⟨rest, rfl, tracking⟩, counted⟩
          have allCreates : CreatesOnce options (later ++ rest ++ [.stopped]) := by
            rw [List.append_assoc]
            refine creates.append fun saying member => ?_
            rintro ⟨request, answer, rfl, -⟩
            rcases List.mem_append.mp member with inRest | isLast
            · rcases tracking _ inRest with ⟨_, same⟩ | ⟨_, _, same⟩
              · cases same
              · cases same
            · cases List.mem_singleton.mp isLast
          have stops : ∀ front result back,
              later ++ rest ++ [.stopped] = front ++ .started result :: back →
                .stopped ∈ back := fun front result back split =>
                  stopped_mem (show Saying.started result ≠ .stopped by simp) split
          rcases ended with error | devices
          · exact (Talk.ensures_pure _).mpr ⟨⟨_, rfl⟩, fun _ _ _ same => (nomatch same),
              allCreates, stops⟩
          · dsimp only
            split_ifs with some
            · refine (Talk.ensures_pure _).mpr ⟨⟨_, rfl⟩, ?_, allCreates, stops⟩
              rintro room devices created same
              cases same
              obtain ⟨answer, read, isJoin⟩ := joined _ rfl
              exact ⟨sensor, isSensor, ⟨answer, by simp [read], isJoin⟩, some,
                List.mem_append_left _ (counted _ rfl)⟩
            · exact (Talk.ensures_pure _).mpr ⟨⟨_, rfl⟩, fun _ _ _ same => (nomatch same),
                allCreates, stops⟩
      · exact (Talk.ensures_pure _).mpr
          (roomTrue_of_asked creates_nil (List.forall_mem_nil _) (by simp))

/-! ### It ends -/

theorem halts_call {method path : String} {body : Option Json} :
    (options.call method path body response).Halts :=
  Talk.halts_ask _ _

theorem halts_resolveAlias :
    (resolveAlias options roomAlias response).Halts :=
  halts_call.bind fun _ => Talk.halts_pure _

theorem halts_memberOf :
    (memberOf options room sensor response).Halts :=
  halts_call.bind fun _ => Talk.halts_pure _

theorem halts_findRoom : (findRoom options answers sensor roomAlias ownerLocalpart).Halts := by
  refine halts_resolveAlias.bind fun found => ?_
  split
  · exact Talk.halts_pure _
  · refine halts_call.bind fun creation => ?_
    split
    · exact Talk.halts_pure _
    · split_ifs
      · refine halts_resolveAlias.bind fun raced => ?_
        split
        · exact Talk.halts_pure _
        · exact Talk.halts_pure _
      · exact Talk.halts_pure _

theorem halts_grantTheAcknowledgement :
    (grantTheAcknowledgement options answers room).Halts := by
  refine halts_call.bind fun current => ?_
  split_ifs
  · exact Talk.halts_pure _
  · exact Talk.halts_pure _
  · refine halts_call.bind fun written => ?_
    split_ifs
    · exact Talk.halts_pure _
    · refine halts_call.bind fun rewritten => ?_
      split_ifs
      · exact Talk.halts_pure _
      · exact Talk.halts_pure _

theorem halts_shareRoom {last : Nat}
    (passed : answers.joining.passed options.joinDeadlineMs last = true) (enough : last < fuel) :
    (shareRoom options answers sensor room created fuel).Halts := by
  refine halts_grantTheAcknowledgement.bind fun granted => ?_
  split
  · exact Talk.halts_pure _
  · refine halts_memberOf.bind fun membership => Talk.Halts.bind ?_ fun refused => ?_
    · split_ifs
      · exact Talk.halts_pure _
      · exact halts_call.bind fun _ => Talk.halts_pure _
    · split
      · exact Talk.halts_pure _
      · refine (halts_waitFor (fun turn => ?_) passed enough).bind fun (joined, _) => ?_
        · exact halts_memberOf.bind fun _ => Talk.halts_pure _
        · dsimp only
          split_ifs
          · exact Talk.halts_pure _
          · exact Talk.halts_pure _

theorem halts_trackSensor {last : Nat}
    (passed : answers.tracking.passed options.trackingDeadlineMs last = true)
    (enough : last < fuel) : (trackSensor options answers sensor fuel).Halts := by
  refine (Talk.halts_ask _ _).bind fun _ => Talk.Halts.bind ?_ fun _ => Talk.halts_pure _
  refine halts_waitFor (fun turn => ?_) passed enough
  exact (Talk.halts_ask _ _).bind fun _ => Talk.halts_pure _

theorem exists_halts_ensureHandoverRoom (options : HandoverOptions) (answers : RoomAnswers) :
    ∃ fuel, (ensureHandoverRoom options answers fuel).Halts := by
  obtain ⟨joinTurn, joinPassed⟩ := answers.joining.exists_passed options.joinDeadlineMs
  obtain ⟨trackTurn, trackPassed⟩ := answers.tracking.exists_passed options.trackingDeadlineMs
  refine ⟨joinTurn + trackTurn + 1, ?_⟩
  unfold ensureHandoverRoom
  split
  · exact Talk.halts_pure _
  · split_ifs
    · exact Talk.halts_pure _
    · split
      · refine Talk.Halts.bind (Talk.Halts.attempt (halts_findRoom.bind fun found => ?_))
          fun prepared => ?_
        · split
          · exact Talk.halts_pure _
          · exact halts_shareRoom joinPassed (by omega)
        · split
          · exact Talk.halts_pure _
          · exact Talk.halts_pure _
          · refine Talk.Halts.bind ((halts_trackSensor trackPassed (by omega)).lastly _).attempt
              fun tracked => ?_
            split
            · exact Talk.halts_pure _
            · split_ifs
              · exact Talk.halts_pure _
              · exact Talk.halts_pure _
      · exact Talk.halts_pure _

end Room

end Twalk.Handover
