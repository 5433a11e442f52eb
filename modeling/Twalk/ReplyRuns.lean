/-
This file is the posting of approved replies over whole runs of a deployment: starts of
the Sensor with what is configured and what is kept on the volume, handovers of a device,
refusals of its credential, and approvals that are delivered and delivered again. Two
things are asked of every run. A deployment that was given a device of the owner's posts
no reply into a portal as its own account; and one approval becomes one message, and is
acknowledged only once it was posted or put aside.
-/

import Twalk.Library.System
import Twalk.OwnerDevice

namespace Twalk.Sensor

/-! ### Bringing the owner's device up -/

/-- What a start of the Sensor finds: whether an owner is named, the device that is configured,
whether there is a state directory and its credential can be read, and whether the device that is
chosen can be opened. -/
structure Setup where
  ownerNamed : Bool
  configured : Option Device
  stateDir : Bool
  credentialReadable : Bool
  opens : Bool
deriving DecidableEq, Repr

structure BroughtUp where
  client : Option Device
  state : DeviceState
deriving DecidableEq, Repr

/-- `bring_up_owner_device`, with the device of the credential on the volume: a credential that was
handed over goes before one that is configured, and only the latter is fatal when it cannot be
used. -/
def bringUpOwnerDevice (setup : Setup) (volume : Option Device) : Option BroughtUp :=
  let held := if setup.stateDir && setup.credentialReadable then volume else none
  if setup.configured.isSome && !setup.ownerNamed then none
  else match held.or setup.configured with
    | none => some ⟨none, .notConfigured⟩
    | some device =>
      if !setup.ownerNamed then some ⟨none, .notConfigured⟩
      else if setup.opens then some ⟨some device, .present⟩
      else if held.isSome then some ⟨none, .credentialGone⟩
      else none

/-! ### A deployment -/

/-- What a deployment holds, and what became of its approvals: the messages the homeserver took,
each with the device and the transaction it was sent in, and the events that were posted, whose
dead-letter copy was stored, and that were acknowledged. Whether a device was ever given, and
whether one was opened or handed over since the last start, is kept beside it. -/
structure Deployment where
  running : Bool
  ownerNamed : Bool
  stateDir : Bool
  cell : Option Device
  present : Bool
  gone : Bool
  volume : Option Device
  everGiven : Bool
  supplied : Bool
  messages : List (Device × String)
  posts : List Json
  copies : List Json
  acks : List Json

def Deployment.fresh : Deployment where
  running := false
  ownerNamed := false
  stateDir := false
  cell := none
  present := false
  gone := false
  volume := none
  everGiven := false
  supplied := false
  messages := []
  posts := []
  copies := []
  acks := []

/-- How the bus meets a dead-letter copy: it acknowledges it, or the publication fails, and then the
copy was stored or not. -/
inductive CopyAnswer where
  | acked
  | failed (stored : Bool)
deriving DecidableEq, Repr

def CopyAnswer.stores : CopyAnswer → Bool
  | .acked => true
  | .failed stored => stored

inductive Happening where
  | started (setup : Setup)
  | handedOver (device : Device) (opens written : Bool)
  | credentialRefused
  | delivered (event : Json) (count : Int) (surroundings : Surroundings) (copy : CopyAnswer)

def Deployment.acting (deployment : Deployment) : Acting :=
  match deployment.cell with
  | some device =>
    if deployment.present && !deployment.gone then .ownersDevice device else .credentialGone
  | none => .notConfigured

/-- The messages after one more is sent: a homeserver drops the second of one device in one
transaction. -/
def received (messages : List (Device × String)) (device : Device) (transaction : String) :
    List (Device × String) :=
  if (device, transaction) ∈ messages then messages else messages ++ [(device, transaction)]

def transactionOf (event : Json) : Option String :=
  match ApprovedReply.parse event with
  | .ok (.ours job) => some (transactionId job)
  | _ => none

section Runs

variable (ruma : Ruma) (sensor : Device) (retry : SendRetry)

def Deployment.handles (deployment : Deployment) (event : Json) (count : Int)
    (surroundings : Surroundings) : Handled :=
  handleReply ruma sensor retry deployment.acting event count surroundings

/-- The message a delivery puts into the room, when the homeserver takes one: by which device and in
which transaction. -/
def Deployment.message (deployment : Deployment) (event : Json) (count : Int)
    (surroundings : Surroundings) : Option (Device × String) :=
  if surroundings.taken then
    (deployment.handles ruma sensor retry event count surroundings).sender.bind fun device =>
      (transactionOf event).map fun transaction => (device, transaction)
  else none

def Deployment.delivers (deployment : Deployment) (event : Json) (count : Int)
    (surroundings : Surroundings) (copy : CopyAnswer) : Deployment :=
  let handled := deployment.handles ruma sensor retry event count surroundings
  let sent := { deployment with
    gone := deployment.gone || handled.credentialGone
    messages := match deployment.message ruma sensor retry event count surroundings with
      | some (device, transaction) => received deployment.messages device transaction
      | none => deployment.messages }
  match handled.settlement with
  | .untouched => { sent with acks := event :: sent.acks }
  | .posted _ => { sent with posts := event :: sent.posts, acks := event :: sent.acks }
  | .deadLettered _ => { sent with
      copies := if copy.stores then event :: sent.copies else sent.copies
      acks := if copy = .acked then event :: sent.acks else sent.acks }
  | .retried _ => sent

def Deployment.step (deployment : Deployment) : Happening → Deployment
  | .started setup =>
    let given := { deployment with
      ownerNamed := setup.ownerNamed
      stateDir := setup.stateDir
      everGiven := deployment.everGiven || setup.configured.isSome }
    match bringUpOwnerDevice setup deployment.volume with
    | none => { given with
        running := false, cell := none, present := false, gone := false, supplied := false }
    | some broughtUp => { given with
        running := true
        cell := broughtUp.client
        present := broughtUp.state != .notConfigured
        gone := broughtUp.state == .credentialGone
        supplied := broughtUp.state == .present }
  | .handedOver device opens written =>
    if deployment.running && deployment.ownerNamed && opens && (written || !deployment.stateDir) then
      { deployment with
        cell := some device
        present := true
        gone := false
        volume := if deployment.stateDir then some device else deployment.volume
        everGiven := true
        supplied := true }
    else deployment
  | .credentialRefused => { deployment with gone := deployment.running || deployment.gone }
  | .delivered event count surroundings copy =>
    if deployment.running then
      deployment.delivers ruma sensor retry event count surroundings copy
    else deployment

/-! ### One delivery -/

variable {ruma sensor retry}

theorem settle_error (retry : SendRetry) (count : Int) (error : PostError) :
    (∃ delay, settle retry count (.error error) = .retried delay) ∨
      ∃ reason, settle retry count (.error error) = .deadLettered reason := by
  have exhausted : ∀ text : String,
      (∃ delay, (if retry.maxAttempts ≤ count then
          .deadLettered (cappedReason s!"the reply exhausted its {count} attempts: {text}")
        else .retried (retryDelay retry.base count) : Settlement) = .retried delay) ∨
      ∃ reason, (if retry.maxAttempts ≤ count then
          .deadLettered (cappedReason s!"the reply exhausted its {count} attempts: {text}")
        else .retried (retryDelay retry.base count) : Settlement) = .deadLettered reason := by
    intro text
    by_cases enough : retry.maxAttempts ≤ count
    · exact .inr ⟨_, if_pos enough⟩
    · exact .inl ⟨_, if_neg enough⟩
  cases error with
  | permanent text => exact .inr ⟨_, rfl⟩
  | transient text => exact exhausted text
  | credentialGone text => exact exhausted text

variable {event : Json}

theorem handleReply_of_room (aRoom : namesARoom event = true) (acting : Acting) (count : Int)
    (surroundings : Surroundings) :
    (transactionOf event = none ∧ ∃ reason,
      handleReply ruma sensor retry acting event count surroundings =
        ⟨none, .deadLettered reason, false⟩) ∨
    ∃ job, ApprovedReply.parse event = .ok (.ours job) ∧
      (handleReply ruma sensor retry acting event count surroundings).sender =
        (postApprovedReply ruma sensor acting job surroundings).sender ∧
      (handleReply ruma sensor retry acting event count surroundings).settlement =
        settle retry count (postApprovedReply ruma sensor acting job surroundings).result := by
  unfold handleReply transactionOf
  cases parsed : ApprovedReply.parse event with
  | error error => exact .inl ⟨rfl, _, rfl⟩
  | ok whose =>
    cases whose with
    | ours job => exact .inr ⟨job, rfl, rfl, rfl⟩
    | anotherComponents connection =>
      exact absurd parsed (parse_ne_anotherComponents aRoom connection)

/-! ### To the contact -/

/-- What is to come of an approval for a portal where a device was given: only the device that is
held posts it, into a room it has joined, and then it reached the contact; or it is retried or put
aside. -/
structure ToTheContact (deployment : Deployment) (handled : Handled)
    (surroundings : Surroundings) : Prop where
  sender : ∀ device, handled.sender = some device → surroundings.taken = true →
    deployment.cell = some device ∧ device ∈ surroundings.joined
  settled :
    (∃ posted device, handled.settlement = .posted posted ∧ posted.reach = .contact ∧
      deployment.cell = some device ∧ posted.postedAs = device.userId) ∨
    (∃ delay, handled.settlement = .retried delay) ∨
    ∃ reason, handled.settlement = .deadLettered reason

variable (ruma sensor retry)

def NeverToNobody (deployment : Deployment) : Happening → Prop
  | .delivered event count surroundings _ =>
    deployment.running = true → namesARoom event = true → surroundings.marked = true →
      deployment.everGiven = true →
      ToTheContact deployment (deployment.handles ruma sensor retry event count surroundings)
        surroundings
  | _ => True

/-- Where a device was given, an approval for a portal that the Sensor's own account could post and
the homeserver would take comes only after the last start opened a device, or a handover since. -/
def Supplied (deployment : Deployment) : Happening → Prop
  | .delivered event _ surroundings _ =>
    deployment.running = true → namesARoom event = true → surroundings.marked = true →
      deployment.everGiven = true →
      (∃ job, ApprovedReply.parse event = .ok (.ours job) ∧ Deliverable ruma job) →
      sensor ∈ surroundings.joined → surroundings.taken = true → deployment.supplied = true
  | _ => True

variable {ruma sensor retry}

/-- A device is held exactly when one was opened by the last start or handed over since. -/
def HoldsWhatItWasGiven (deployment : Deployment) : Prop :=
  deployment.cell.isSome = deployment.supplied

theorem bringUpOwnerDevice_isSome {setup : Setup} {volume : Option Device} {broughtUp : BroughtUp}
    (isUp : bringUpOwnerDevice setup volume = some broughtUp) :
    broughtUp.client.isSome = (broughtUp.state == .present) := by
  unfold bringUpOwnerDevice at isUp
  generalize (if setup.stateDir && setup.credentialReadable then volume else none) = held at isUp
  dsimp only at isUp
  split at isUp
  · cases isUp
  · split at isUp
    · cases isUp
      rfl
    · split at isUp
      · cases isUp
        rfl
      · split at isUp
        · cases isUp
          rfl
        · split at isUp
          · cases isUp
            rfl
          · cases isUp

variable {deployment : Deployment}

theorem holdsWhatItWasGiven_step (holds : HoldsWhatItWasGiven deployment) (next : Happening) :
    HoldsWhatItWasGiven (deployment.step ruma sensor retry next) := by
  unfold HoldsWhatItWasGiven at holds ⊢
  cases next with
  | started setup =>
    dsimp only [Deployment.step]
    cases isUp : bringUpOwnerDevice setup deployment.volume with
    | none => rfl
    | some broughtUp => exact bringUpOwnerDevice_isSome isUp
  | handedOver device opens written =>
    dsimp only [Deployment.step]
    split
    · rfl
    · exact holds
  | credentialRefused => exact holds
  | delivered event count surroundings copy =>
    dsimp only [Deployment.step]
    split
    · unfold Deployment.delivers
      dsimp only
      split <;> exact holds
    · exact holds

variable {surroundings : Surroundings}

theorem theRoomIsAPortal_of_marked (marked : surroundings.marked = true) :
    surroundings.theRoomIsAPortal = true := by
  unfold Surroundings.theRoomIsAPortal
  split
  · exact marked
  · rfl

theorem toTheContact_of_cell {held : Device} (isHeld : deployment.cell = some held)
    (aRoom : namesARoom event = true) (count : Int) (marked : surroundings.marked = true) :
    ToTheContact deployment (deployment.handles ruma sensor retry event count surroundings)
      surroundings := by
  have portal := theRoomIsAPortal_of_marked marked
  have acts : ∀ device, Speaks sensor deployment.acting surroundings device →
      device = held ∧ device ∈ surroundings.joined := by
    intro device speaks
    unfold Deployment.acting at speaks
    rw [isHeld] at speaks
    dsimp only at speaks
    cases speaks with
    | owners isActing joined =>
      split at isActing
      · cases isActing
        exact ⟨rfl, joined⟩
      · cases isActing
    | sensors joined alone =>
      rcases alone with isActing | ⟨notPortal, _⟩
      · split at isActing <;> cases isActing
      · rw [portal] at notPortal
        cases notPortal
  rcases handleReply_of_room aRoom deployment.acting count surroundings with
    ⟨_, reason, isHandled⟩ | ⟨job, _, isSender, isSettled⟩
  · unfold Deployment.handles
    rw [isHandled]
    exact ⟨fun _ isSender => (nomatch isSender), .inr (.inr ⟨reason, rfl⟩)⟩
  · constructor
    · intro device sent _
      unfold Deployment.handles at sent
      rw [isSender] at sent
      obtain ⟨isDevice, joined⟩ := acts device (sender_postApprovedReply.mp sent).2
      exact ⟨isDevice ▸ isHeld, joined⟩
    · unfold Deployment.handles
      rw [isSettled]
      cases isResult : (postApprovedReply ruma sensor deployment.acting job surroundings).result with
      | error error => exact .inr (settle_error retry count error)
      | ok posted =>
        obtain ⟨device, byTheOwnersDevice, chosen, sent, _, isPosted⟩ :=
          result_postApprovedReply isResult
        obtain ⟨speaks, _, own⟩ := speaks_of_chooseRoom chosen
        obtain ⟨isDevice, _⟩ := acts device speaks
        refine .inl ⟨posted, device, rfl, ?_, isDevice ▸ isHeld, by rw [isPosted]⟩
        cases byTheOwnersDevice with
        | true => rw [isPosted]; rfl
        | false =>
          rcases own rfl with isActing | notPortal
          · unfold Deployment.acting at isActing
            rw [isHeld] at isActing
            dsimp only at isActing
            split at isActing <;> cases isActing
          · rw [portal] at notPortal
            cases notPortal

/-- What comes of an approval for a portal where no device is held. -/
theorem toTheContact_iff_of_none (isEmpty : deployment.cell = none)
    (aRoom : namesARoom event = true) (count : Int) :
    ToTheContact deployment (deployment.handles ruma sensor retry event count surroundings)
        surroundings ↔
      ¬ ((∃ job, ApprovedReply.parse event = .ok (.ours job) ∧ Deliverable ruma job) ∧
        sensor ∈ surroundings.joined ∧ surroundings.taken = true) := by
  have isActing : deployment.acting = .notConfigured := by
    unfold Deployment.acting
    rw [isEmpty]
  constructor
  · rintro contact ⟨⟨job, isJob, deliverable⟩, joined, taken⟩
    have speaks : Speaks sensor deployment.acting surroundings sensor :=
      .sensors joined (.inl isActing)
    have sent : (deployment.handles ruma sensor retry event count surroundings).sender =
        some sensor := by
      rcases handleReply_of_room aRoom deployment.acting count surroundings with
        ⟨_, reason, isHandled⟩ | ⟨other, isOther, isSender, _⟩
      · unfold handleReply at isHandled
        rw [isJob] at isHandled
        have sender := congrArg Handled.sender isHandled
        dsimp only at sender
        rw [sender_postApprovedReply.mpr ⟨deliverable, speaks⟩] at sender
        cases sender
      · rw [isJob] at isOther
        cases isOther
        unfold Deployment.handles
        rw [isSender]
        exact sender_postApprovedReply.mpr ⟨deliverable, speaks⟩
    have isHeld := (contact.sender sensor sent taken).1
    rw [isEmpty] at isHeld
    cases isHeld
  · intro none
    rcases handleReply_of_room aRoom deployment.acting count surroundings with
      ⟨_, reason, isHandled⟩ | ⟨job, isJob, isSender, isSettled⟩
    · unfold Deployment.handles
      rw [isHandled]
      exact ⟨fun _ isSender => (nomatch isSender), .inr (.inr ⟨reason, rfl⟩)⟩
    · have unsent : ∀ device,
          (postApprovedReply ruma sensor deployment.acting job surroundings).sender =
            some device → surroundings.taken = true → False := by
        intro device sent taken
        obtain ⟨deliverable, speaks⟩ := sender_postApprovedReply.mp sent
        cases speaks with
        | owners acts joined =>
          rw [isActing] at acts
          cases acts
        | sensors joined alone => exact none ⟨⟨job, isJob, deliverable⟩, joined, taken⟩
      constructor
      · intro device sent taken
        unfold Deployment.handles at sent
        rw [isSender] at sent
        exact (unsent device sent taken).elim
      · unfold Deployment.handles
        rw [isSettled]
        cases isResult :
            (postApprovedReply ruma sensor deployment.acting job surroundings).result with
        | error error => exact .inr (settle_error retry count error)
        | ok posted =>
          obtain ⟨device, _, _, sent, answer, _⟩ := result_postApprovedReply isResult
          refine (unsent device sent ?_).elim
          unfold Surroundings.taken
          rw [answer]

/-- In every run, no reply is posted to nobody by a deployment that was given a device if and only if
every approval for a portal that could be posted comes after a device was opened or handed over. -/
theorem neverToNobody_iff_supplied (happenings : List Happening) :
    Along (Deployment.step ruma sensor retry) (NeverToNobody ruma sensor retry) .fresh happenings ↔
      Along (Deployment.step ruma sensor retry) (Supplied ruma sensor) .fresh happenings := by
  refine along_iff_along HoldsWhatItWasGiven (fun _ next holds => holdsWhatItWasGiven_step holds next)
    ?_ (by rfl : HoldsWhatItWasGiven .fresh) happenings
  intro deployment next holds
  cases next with
  | delivered event count surroundings copy =>
    refine imp_congr_right fun _ => forall_congr' fun aRoom => ?_
    refine forall_congr' fun marked => imp_congr_right fun _ => ?_
    cases isHeld : deployment.cell with
    | none =>
      have unsupplied : deployment.supplied = false := by
        rw [← holds, isHeld]
        rfl
      rw [toTheContact_iff_of_none isHeld aRoom, unsupplied]
      simp only [not_and, Bool.false_eq_true]
    | some held =>
      have supplied : deployment.supplied = true := by
        rw [← holds, isHeld]
        rfl
      exact iff_of_true (toTheContact_of_cell isHeld aRoom count marked)
        fun _ _ _ => supplied
  | _ => exact Iff.rfl

/-! ### Posted once -/

/-- One approval is one message, and what is acknowledged was posted or its dead-letter copy
stored. -/
structure PostedOnce (deployment : Deployment) : Prop where
  once : (deployment.messages.map Prod.snd).Nodup
  accounted : ∀ event ∈ deployment.acks, namesARoom event = true →
    event ∈ deployment.posts ∨ event ∈ deployment.copies

variable (ruma sensor) in
/-- Whoever posts an approval and is taken is the device whose message of it was taken before, if one
was. -/
def OneVoice (deployment : Deployment) : Happening → Prop
  | .delivered event _ surroundings _ => deployment.running = true → surroundings.taken = true →
      ∀ job, ApprovedReply.parse event = .ok (.ours job) → Deliverable ruma job →
        ∀ device, Speaks sensor deployment.acting surroundings device →
          ∀ earlier ∈ deployment.messages, earlier.2 = transactionId job → earlier.1 = device
  | _ => True

theorem nodup_received {messages : List (Device × String)}
    (once : (messages.map Prod.snd).Nodup) (device : Device) (transaction : String) :
    ((received messages device transaction).map Prod.snd).Nodup ↔
      ∀ earlier ∈ messages, earlier.2 = transaction → earlier.1 = device := by
  unfold received
  split
  · rename_i isThere
    refine iff_of_true once fun earlier member same => ?_
    have isSame : earlier = (device, transaction) :=
      List.inj_on_of_nodup_map once member isThere same
    rw [isSame]
  · rename_i absent
    rw [List.map_append, List.map_singleton, List.nodup_append]
    constructor
    · rintro ⟨_, _, apart⟩ earlier member same
      exact absurd same (apart _ (List.mem_map_of_mem member) _ List.mem_cons_self)
    · intro oneDevice
      refine ⟨once, List.nodup_singleton _, fun other isOther _ isLast same => ?_⟩
      rw [List.mem_singleton.mp isLast] at same
      obtain ⟨earlier, member, rfl⟩ := List.mem_map.mp isOther
      have isEarlier : earlier = (device, transaction) :=
        Prod.ext (oneDevice earlier member same) same
      exact absent (isEarlier ▸ member)

theorem message_eq_some {count : Int} {device : Device} {transaction : String} :
    deployment.message ruma sensor retry event count surroundings = some (device, transaction) ↔
      surroundings.taken = true ∧ ∃ job, ApprovedReply.parse event = .ok (.ours job) ∧
        Deliverable ruma job ∧ Speaks sensor deployment.acting surroundings device ∧
        transactionId job = transaction := by
  unfold Deployment.message Deployment.handles handleReply transactionOf
  by_cases taken : surroundings.taken = true
  · rw [if_pos taken]
    cases parsed : ApprovedReply.parse event with
    | error error => simp
    | ok whose =>
      cases whose with
      | anotherComponents connection => simp
      | ours job =>
        simp only [Option.map_some, Option.bind_eq_some_iff, Option.some.injEq, Prod.mk.injEq,
          sender_postApprovedReply, taken, true_and, Except.ok.injEq, Parsed.ours.injEq,
          exists_eq_left']
        constructor
        · rintro ⟨_, ⟨deliverable, speaks⟩, rfl, same⟩
          exact ⟨deliverable, speaks, same⟩
        · rintro ⟨deliverable, speaks, same⟩
          exact ⟨device, ⟨deliverable, speaks⟩, rfl, same⟩
  · rw [if_neg taken]
    simp [taken]

variable (ruma sensor retry) in
theorem messages_delivers (deployment : Deployment) (event : Json) (count : Int)
    (surroundings : Surroundings) (copy : CopyAnswer) :
    (deployment.delivers ruma sensor retry event count surroundings copy).messages =
      match deployment.message ruma sensor retry event count surroundings with
      | some (device, transaction) => received deployment.messages device transaction
      | none => deployment.messages := by
  unfold Deployment.delivers
  dsimp only
  split <;> rfl

theorem settlement_ne_untouched (aRoom : namesARoom event = true) (acting : Acting) (count : Int)
    (surroundings : Surroundings) :
    (handleReply ruma sensor retry acting event count surroundings).settlement ≠ .untouched := by
  rcases handleReply_of_room aRoom acting count surroundings with
    ⟨_, reason, isHandled⟩ | ⟨job, _, _, isSettled⟩
  · rw [isHandled]
    exact fun isUntouched => nomatch isUntouched
  · rw [isSettled]
    cases (postApprovedReply ruma sensor acting job surroundings).result with
    | ok posted => exact fun isUntouched => nomatch isUntouched
    | error error =>
      rcases settle_error retry count error with ⟨_, isRetried⟩ | ⟨_, isDead⟩
      · rw [isRetried]
        exact fun isUntouched => nomatch isUntouched
      · rw [isDead]
        exact fun isUntouched => nomatch isUntouched

variable (ruma sensor retry) in
theorem accounted_delivers (accounted : ∀ event ∈ deployment.acks, namesARoom event = true →
      event ∈ deployment.posts ∨ event ∈ deployment.copies) (event : Json) (count : Int)
    (surroundings : Surroundings) (copy : CopyAnswer) :
    ∀ acked ∈ (deployment.delivers ruma sensor retry event count surroundings copy).acks,
      namesARoom acked = true →
      acked ∈ (deployment.delivers ruma sensor retry event count surroundings copy).posts ∨
      acked ∈ (deployment.delivers ruma sensor retry event count surroundings copy).copies := by
  intro acked
  unfold Deployment.delivers
  dsimp only
  split
  · rename_i isUntouched
    intro isAcked aRoom
    rcases List.mem_cons.mp isAcked with rfl | before
    · exact absurd isUntouched (settlement_ne_untouched aRoom deployment.acting count surroundings)
    · exact accounted acked before aRoom
  · intro isAcked aRoom
    rcases List.mem_cons.mp isAcked with rfl | before
    · exact .inl List.mem_cons_self
    · exact (accounted acked before aRoom).imp_left (List.mem_cons_of_mem event)
  · cases copy with
    | acked =>
      intro isAcked aRoom
      rcases List.mem_cons.mp isAcked with rfl | before
      · exact .inr List.mem_cons_self
      · exact (accounted acked before aRoom).imp_right (List.mem_cons_of_mem event)
    | failed stored =>
      intro before aRoom
      refine (accounted acked before aRoom).imp_right fun isCopied => ?_
      cases stored with
      | true => exact List.mem_cons_of_mem event isCopied
      | false => exact isCopied
  · exact accounted acked

theorem postedOnce_step_iff (postedOnce : PostedOnce deployment) (next : Happening) :
    PostedOnce (deployment.step ruma sensor retry next) ↔ OneVoice ruma sensor deployment next := by
  cases next with
  | started setup =>
    refine iff_of_true ?_ trivial
    dsimp only [Deployment.step]
    split <;> exact ⟨postedOnce.once, postedOnce.accounted⟩
  | handedOver device opens written =>
    refine iff_of_true ?_ trivial
    dsimp only [Deployment.step]
    split
    · exact ⟨postedOnce.once, postedOnce.accounted⟩
    · exact postedOnce
  | credentialRefused => exact iff_of_true ⟨postedOnce.once, postedOnce.accounted⟩ trivial
  | delivered event count surroundings copy =>
    dsimp only [Deployment.step, OneVoice]
    split
    · rename_i running
      have accounted := accounted_delivers ruma sensor retry postedOnce.accounted event count
        surroundings copy
      have messages := messages_delivers ruma sensor retry deployment event count surroundings copy
      cases isMessage : deployment.message ruma sensor retry event count surroundings with
      | none =>
        rw [isMessage] at messages
        refine iff_of_true ⟨messages ▸ postedOnce.once, accounted⟩ ?_
        intro _ taken job isJob deliverable device speaks
        rw [message_eq_some.mpr ⟨taken, job, isJob, deliverable, speaks, rfl⟩] at isMessage
        cases isMessage
      | some sent =>
        obtain ⟨device, transaction⟩ := sent
        rw [isMessage] at messages
        dsimp only at messages
        have once := nodup_received postedOnce.once device transaction
        obtain ⟨taken, job, isJob, deliverable, speaks, isTransaction⟩ :=
          message_eq_some.mp isMessage
        constructor
        · intro after _ _ otherJob isOther otherDeliverable other otherSpeaks earlier member same
          have sameMessage := isMessage.symm.trans (message_eq_some.mpr
            ⟨taken, otherJob, isOther, otherDeliverable, otherSpeaks, rfl⟩)
          cases sameMessage
          exact once.mp (messages ▸ after.once) earlier member same
        · intro oneVoice
          refine ⟨?_, accounted⟩
          rw [messages]
          refine once.mpr fun earlier member same => ?_
          exact oneVoice running taken job isJob deliverable device speaks earlier member
            (same.trans isTransaction.symm)
    · rename_i stopped
      exact iff_of_true postedOnce fun running => absurd running stopped

/-- In every run, one approval is one message and what is acknowledged was posted or put aside, if
and only if whoever posts an approval again is the device that posted it before. -/
theorem postedOnce_iff_oneVoice (happenings : List Happening) :
    (∀ front, front <+: happenings →
      PostedOnce (run (Deployment.step ruma sensor retry) .fresh front)) ↔
      Along (Deployment.step ruma sensor retry) (OneVoice ruma sensor) .fresh happenings :=
  invariant_along_iff PostedOnce (fun _ next postedOnce => postedOnce_step_iff postedOnce next)
    ⟨by exact List.nodup_nil, fun _ isAcked => absurd isAcked List.not_mem_nil⟩ happenings

end Runs

/-! ### A device that is revoked -/

namespace RevokedDevice

def ruma : Ruma := ⟨fun _ => none, fun _ => none⟩

def sensor : Device := ⟨"@sensor:example.org", "SENSOR"⟩

def owners : Device := ⟨"@michel:example.org", "PHONE"⟩

def retry : SendRetry := ⟨1000, 5⟩

def setup : Setup := ⟨true, none, true, true, true⟩

def approval : Json :=
  .object [("id", .string "approval"), ("data", .object [
    ("target", .object [("room_id", .string "!portal:example.org")]),
    ("final", .object [("body", .string "Oui."), ("format", .string "text/plain")])])]

/-- A portal that both accounts have joined, and a homeserver that takes what is sent. -/
def portal : Surroundings := ⟨["m.room.create", "m.bridge"], true, [sensor, owners], .posted⟩

/-- A device is handed over, the Sensor is started again when the homeserver no longer knows it, and
an approval comes. -/
def happenings : List Happening :=
  [.started setup, .handedOver owners true true, .started { setup with opens := false },
    .delivered approval 1 portal .acked]

/-- The reply is posted by the Sensor's own account, and reaches nobody. -/
theorem posted_to_nobody :
    ¬ ∀ (ruma : Ruma) (sensor : Device) (retry : SendRetry) (happenings : List Happening),
      Along (Deployment.step ruma sensor retry) (NeverToNobody ruma sensor retry) .fresh
        happenings := by
  intro always
  obtain ⟨_, _, _, contact, _⟩ := always ruma sensor retry happenings
  have toTheContact := contact rfl rfl (by decide) rfl
  exact (toTheContact_iff_of_none rfl rfl 1).mp toTheContact
    ⟨⟨_, rfl, rfl, rfl, rfl⟩, by decide, rfl⟩

end RevokedDevice

/-! ### A device that is replaced -/

namespace ReplacedDevice

open RevokedDevice (ruma sensor owners retry setup approval portal)

def successor : Device := ⟨"@michel:example.org", "TABLET"⟩

/-- The first device's send is taken and its answer is lost; another device is handed over; and the
approval is delivered again. -/
def happenings : List Happening :=
  [.started setup, .handedOver owners true true,
    .delivered approval 1 { portal with answer := .failed true none "timed out" } .acked,
    .handedOver successor true true,
    .delivered approval 2 { portal with joined := [sensor, owners, successor] } .acked]

/-- The reply is posted twice. -/
theorem reply_posted_twice :
    ¬ ∀ (ruma : Ruma) (sensor : Device) (retry : SendRetry) (happenings : List Happening),
      ∀ front, front <+: happenings →
        PostedOnce (run (Deployment.step ruma sensor retry) .fresh front) := by
  intro always
  have once := (always ruma sensor retry happenings happenings List.prefix_rfl).once
  exact absurd once (by decide)

end ReplacedDevice

end Twalk.Sensor
