/-
This file is the clerk's two loops over whole runs: ticks and sweeps between any two calls
of one another, gestures that arrive, calls to the relay that fail, a Gateway that answers
anything or nothing, sessions that die and come back, and restarts. A gesture is answered
for good once and asked about no more, whatever the order. Whether the sweep leaves a
gesture without a line that the Gateway gave no usable answer for is a matter of time: of
when the loop last turned to it.
-/

import Twalk.Library.System
import Twalk.TickState

namespace Twalk.Clerk

variable {errands : List Errand}

variable {world : World}

section Runs

variable {desk : Desk}

variable {next : Happening}

theorem recalls_unless (other : ∀ serves, next ≠ .readsComments serves) :
    Recalls desk world next := by
  have isNone : world.queriedBy desk next = none := by
    unfold World.queriedBy
    split
    · rename_i serves _
      exact absurd rfl (other serves)
    · rfl
  unfold Recalls
  rw [isNone]
  exact fun _ isSome => nomatch isSome

/-! ### What is settled -/

def World.oldest (desk : Desk) (world : World) (answers : List (List Event)) (postId : String) :
    Option Decision :=
  ((desk.decisions answers postId).filter fun decision =>
    !world.comments.any (spends decision.gestureId)).find? Decision.byOwner

/-- Each gesture is settled once, and none in silence. No two answers spend one gesture, and none
that an answer spends is asked about. No gesture is told twice that the session is revoked, and
what is only told so is not spent: a tick comes to the oldest gesture on an open post that no answer
spends, and asks about it if the session lives then. No request is made while the session is dead.
A gesture the Gateway gave no usable answer for has a line when the sweep has deleted its post as
expired. -/
structure Settled (desk : Desk) (world : World) : Prop where
  once : world.comments.Pairwise fun later earlier =>
    ∀ gestureId, spends gestureId later = true → spends gestureId earlier = false
  unspent : ∀ call ∈ world.calls, ∀ comment ∈ call.comments,
    spends call.gestureId comment = false
  toldOnce : world.comments.Pairwise fun later earlier =>
    ∀ gestureId, tells gestureId later = true → tells gestureId earlier = false
  comesTo : ∀ began posts answers, world.loop = .gesturesRead began posts answers →
    WithinLimit world.comments ((desk.partitioned began posts).map Post.id) →
    ∀ post ∈ posts, postHasExpired desk.expiresAtUnix post.content began = false →
    ∀ act ∈ world.oldest desk answers post.id,
      ∃ told, .carry post act told ∈ (world.step desk (.readsComments true)).loop.errands
  asks : ∀ post act told errands, world.loop = .working (.carry post act told :: errands) →
    world.session = .alive → (parse post.content).isSome = true → act.gesture ≠ .refuse →
    (world.step desk .turns).calls = ⟨act.gestureId, .alive, world.comments⟩ :: world.calls
  alive : ∀ call ∈ world.calls, call.session = .alive
  spoken : Spoken world

/-- Whether the Gateway's answer leaves a gesture to a later tick. -/
def deferred : GatewayAnswer → Bool
  | .answered (.approved _) => false
  | .answered (.refused code) => !sent code && remedy code == .retry
  | .unauthenticated => false
  | .failed => true

def World.asked (world : World) : Option Post :=
  match world.loop with
  | .asking post _ _ _ => some post
  | _ => none

def World.sweptBy (world : World) : Happening → Option Post
  | .sweepDeletes true => world.sweepsNext
  | _ => none

def World.lostBy (world : World) : Happening → Option Post
  | .gatewayAnswers answer => if deferred answer then world.asked else none
  | .restarted _ _ => world.asked
  | _ => none

/-- The sweep deletes a post as expired when the loop last turned, within the window of the expiry,
to each gesture on it that the Gateway gave no usable answer for, and the relay took what was then
written; and the Gateway leaves no gesture without an answer whose post was deleted so before. -/
def InTime (desk : Desk) (world : World) (next : Happening) : Prop :=
  (∀ post ∈ world.sweptBy next, ∀ silent ∈ world.unheard, silent.post.id = post.id →
    silent.Timely desk ∧ world.loop.writesLine silent.gestureId = false) ∧
  ∀ post ∈ world.lostBy next, post.id ∉ world.swept

instance (desk : Desk) (world : World) (next : Happening) : Decidable (InTime desk world next) :=
  inferInstanceAs (Decidable ((∀ _ ∈ _, ∀ _ ∈ _, _) ∧ ∀ _ ∈ _, _))

theorem inTime_of_none (noSweep : world.sweptBy next = none) (noLoss : world.lostBy next = none) :
    InTime desk world next := by
  unfold InTime
  rw [noSweep, noLoss]
  exact ⟨fun _ isNone => (nomatch isNone), fun _ isNone => nomatch isNone⟩

theorem inTime_iff_of_none (noSweep : world.sweptBy next = none) :
    InTime desk world next ↔ ∀ post ∈ world.lostBy next, post.id ∉ world.swept := by
  unfold InTime
  rw [noSweep]
  exact and_iff_right fun _ isNone => nomatch isNone

variable {act : Decision}

theorem Steady.comesTo (steady : Steady desk world) {began : Int} {posts : List Post}
    {answers : List (List Event)} (isLoop : world.loop = .gesturesRead began posts answers)
    (within : WithinLimit world.comments ((desk.partitioned began posts).map Post.id)) {post : Post}
    (isPost : post ∈ posts) (isOpen : postHasExpired desk.expiresAtUnix post.content began = false)
    (isOldest : act ∈ world.oldest desk answers post.id) :
    ∃ told, .carry post act told ∈ (world.step desk (.readsComments true)).loop.errands := by
  have reads := steady.reads
  rw [isLoop] at reads
  obtain ⟨_, _, served⟩ := reads
  have isRead : post ∈ desk.partitioned began posts := (mem_partitioned _ _).mpr isPost
  have unanswered : desk.unanswered answers (answeredGestures (ownCommentsOn world.comments
      ((desk.partitioned began posts).map Post.id))).1 post.id =
      (desk.decisions answers post.id).filter fun decision =>
        !world.comments.any (spends decision.gestureId) := by
    refine List.filter_congr fun decision isDecision => ?_
    have held := held_of_mem_decisions served isDecision
    have same := steady.recorded.mem_spent_iff within (List.mem_map_of_mem isRead) held
    rw [Bool.not_inj_iff, Bool.eq_iff_iff, List.contains_iff_mem, List.any_eq_true, same]
  have loopAfter : (world.step desk (.readsComments true)).loop =
      .working (desk.errands began posts answers world.comments) := by
    dsimp only [World.step]
    unfold World.read
    rw [isLoop]
  rw [loopAfter]
  refine ⟨(answeredGestures (ownCommentsOn world.comments
    ((desk.partitioned began posts).map Post.id))).2.contains act.gestureId, ?_⟩
  refine List.mem_flatMap.mpr ⟨post, isRead, List.mem_append_right _ ?_⟩
  refine List.mem_filterMap.mpr ⟨act, ?_, if_pos isOpen⟩
  rw [decided_eq, unanswered, act_triage, Option.mem_toList]
  exact isOldest

theorem Steady.settled (steady : Steady desk world) (spoken : Spoken world) :
    Settled desk world where
  once := steady.recorded.once
  unspent call isCall := (steady.made call isCall).2
  toldOnce := steady.recorded.toldOnce
  comesTo _ _ _ isLoop within _ isPost isOpen _ isOldest :=
    steady.comesTo isLoop within isPost isOpen isOldest
  asks post act told errands isLoop isAlive isAbout approves := by
    have readable : ¬ (parse post.content).isNone = true := by
      rw [Option.isNone_iff_eq_none, ← Option.not_isSome_iff_eq_none, not_not]
      exact isAbout
    dsimp only [World.step]
    rw [isLoop]
    dsimp only [World.turn]
    rw [if_neg readable, if_neg approves, isAlive]
  alive call isCall := (steady.made call isCall).1
  spoken := spoken

/-! ### What is swept -/

theorem Spoken.of {world later : World} (spoken : Spoken world)
    (swept : later.swept = world.swept) (comments : world.comments ⊆ later.comments)
    (unheard : ∀ silent ∈ later.unheard, ∃ before ∈ world.unheard,
      before.gestureId = silent.gestureId ∧ before.post.id = silent.post.id) : Spoken later := by
  intro silent isSilent isSwept
  obtain ⟨before, isBefore, sameGesture, samePost⟩ := unheard silent isSilent
  rw [swept, ← samePost] at isSwept
  obtain ⟨comment, isComment, line⟩ := spoken before isBefore isSwept
  exact ⟨comment, comments isComment, sameGesture ▸ line⟩

variable {told : Bool}

theorem spoken_lost_iff (steady : Steady desk world) (spoken : Spoken world) {post : Post}
    (isLoop : world.loop = .asking post act told errands) (later : World) {refused : Bool}
    (swept : later.swept = world.swept) (comments : later.comments = world.comments)
    (unheard : later.unheard =
      ⟨act.gestureId, post, world.now, refused⟩ :: world.others act.gestureId) :
    Spoken later ↔ post.id ∉ world.swept := by
  have faces : world.loop.Faces (.carry post act told) errands :=
    isLoop ▸ ⟨rfl, rfl, fun _ => rfl⟩
  unfold Spoken
  rw [swept, comments, unheard]
  constructor
  · intro always isSwept
    exact steady.unlined faces (always _ List.mem_cons_self isSwept)
  · intro notSwept silent isSilent isSwept
    rcases List.mem_cons.mp isSilent with rfl | isOther
    · exact absurd isSwept notSwept
    · exact spoken silent (mem_others isOther).1 isSwept

theorem asked_asking {post : Post} (isLoop : world.loop = .asking post act told errands) :
    world.asked = some post := by
  unfold World.asked
  rw [isLoop]

theorem spoken_turn (steady : Steady desk world) (spoken : Spoken world) {errand : Errand}
    (isLoop : world.loop = .working (errand :: errands)) : Spoken (world.turn errands errand) := by
  have faces : world.loop.Faces errand errands := isLoop ▸ ⟨rfl, rfl, fun _ => rfl⟩
  cases errand with
  | stranger postId gestureId => exact spoken
  | carry post act told =>
    dsimp only [World.turn]
    split
    · exact spoken
    · split
      · exact spoken
      · split <;> exact spoken
  | tooLate post act =>
    refine spoken.of rfl (List.Subset.refl _) fun silent isSilent => ?_
    obtain ⟨before, isBefore, rfl⟩ := List.mem_map.mp isSilent
    refine ⟨before, isBefore, ?_⟩
    by_cases same : before.gestureId = act.gestureId
    · rw [if_pos same]
      have held := steady.watched.held before isBefore
      rw [same] at held
      exact ⟨same, held.post_eq steady.recorded.distinct (steady.held faces)⟩
    · rw [if_neg same]
      exact ⟨rfl, rfl⟩

theorem spoken_hear_iff (steady : Steady desk world) (spoken : Spoken world) {post : Post}
    (isLoop : world.loop = .asking post act told errands) (answer : GatewayAnswer) :
    Spoken (world.hear desk post act told errands answer) ↔
      (deferred answer = true → post.id ∉ world.swept) := by
  have lost := spoken_lost_iff steady spoken isLoop (world.defer desk post act errands)
    rfl rfl rfl
  have others : ∀ loop, Spoken { world with unheard := world.others act.gestureId, loop := loop } :=
    fun loop => spoken.of rfl (List.Subset.refl _) fun silent isSilent =>
      ⟨silent, (mem_others isSilent).1, rfl, rfl⟩
  cases answer with
  | answered outcome =>
    cases outcome with
    | approved already => exact iff_of_true (others _) fun isDeferred => nomatch isDeferred
    | refused code =>
      dsimp only [World.hear, deferred]
      by_cases wasSent : sent code = true
      · rw [if_pos wasSent, wasSent]
        exact iff_of_true (others _) fun isDeferred => nomatch isDeferred
      · rw [if_neg wasSent, Bool.eq_false_iff.mpr wasSent]
        by_cases retries : remedy code = .retry
        · rw [if_pos retries, retries, lost]
          exact ⟨fun notSwept _ => notSwept, fun notSwept => notSwept (by decide)⟩
        · rw [if_neg retries]
          refine iff_of_true (others _) fun isDeferred => absurd ?_ retries
          simpa using isDeferred
  | unauthenticated =>
    exact iff_of_true (spoken) fun isDeferred => nomatch isDeferred
  | failed => exact lost.trans ⟨fun notSwept _ => notSwept, fun notSwept => notSwept rfl⟩

theorem spoken_write (spoken : Spoken world) (errands : List Errand) (takes : Bool) (write : Write)
    : Spoken (world.write desk errands takes write) := by
  cases write with
  | delete postId => exact spoken
  | comment postId gestureId content =>
    cases takes with
    | true =>
      exact spoken.of rfl (List.subset_cons_self _ _) fun silent isSilent =>
        ⟨silent, isSilent, rfl, rfl⟩
    | false =>
      refine spoken.of rfl (List.Subset.refl _) fun silent isSilent => ?_
      obtain ⟨before, isBefore, rfl⟩ := List.mem_map.mp isSilent
      refine ⟨before, isBefore, ?_⟩
      split <;> exact ⟨rfl, rfl⟩

theorem spoken_halt_iff (steady : Steady desk world) (spoken : Spoken world) (takes : Bool) :
    Spoken (world.halt desk takes) ↔ ∀ post ∈ world.asked, post.id ∉ world.swept := by
  cases isLoop : world.loop with
  | writing write errands =>
    have isHalted : world.halt desk takes = world.write desk errands takes write := by
      unfold World.halt
      rw [isLoop]
    have notAsked : world.asked = none := by
      unfold World.asked
      rw [isLoop]
    rw [isHalted, notAsked]
    exact iff_of_true (spoken_write spoken errands takes write) fun _ isAsked => nomatch isAsked
  | asking post act told errands =>
    have lost := spoken_lost_iff steady spoken isLoop (world.halt desk takes)
      (by unfold World.halt; rw [isLoop]) (by unfold World.halt; rw [isLoop])
      (by unfold World.halt; rw [isLoop])
    rw [lost, asked_asking isLoop]
    simp
  | _ =>
    have isHalted : world.halt desk takes = world := by
      unfold World.halt
      rw [isLoop]
    have notAsked : world.asked = none := by
      unfold World.asked
      rw [isLoop]
    rw [isHalted, notAsked]
    exact iff_of_true spoken fun _ isAsked => nomatch isAsked

theorem Steady.lined_iff (steady : Steady desk world) {silent : Unheard}
    (isSilent : silent ∈ world.unheard) :
    Lined world.comments silent.gestureId ↔
      silent.Timely desk ∧ world.loop.writesLine silent.gestureId = false := by
  constructor
  · intro lined
    refine ⟨steady.watched.timely silent isSilent (.inl lined), Bool.eq_false_iff.mpr ?_⟩
    intro writes
    have isDue : ∃ postId, (postId, silent.gestureId) ∈ world.loop.due := by
      unfold Loop.writesLine at writes
      split at writes
      · rename_i postId answered content errands isLoop
        rw [Bool.and_eq_true, beq_iff_eq] at writes
        rw [isLoop, ← writes.1]
        exact ⟨postId, List.mem_cons_self⟩
      · cases writes
    obtain ⟨_, isDue⟩ := isDue
    exact steady.pending.not_lined desk isDue lined
  · rintro ⟨timely, notWriting⟩
    have inThread := steady.watched.lined silent isSilent timely
    rw [notWriting] at inThread
    exact inThread.resolve_right Bool.false_ne_true

theorem spoken_sweepDeletes_iff (steady : Steady desk world) (spoken : Spoken world) (takes : Bool)
    :
    Spoken (world.step desk (.sweepDeletes takes)) ↔ InTime desk world (.sweepDeletes takes) := by
  dsimp only [World.step]
  split
  · rename_i post why due isSweep
    cases takes with
    | false => exact iff_of_true spoken (inTime_of_none rfl rfl)
    | true =>
      have sweeps : Spoken { world with
          sweep := .deleting due
          posts := world.posts.filter fun standing => standing.id != post.id
          swept := (world.sweepsNext.map Post.id).toList ++ world.swept } ↔
          ∀ post ∈ world.sweepsNext, ∀ silent ∈ world.unheard, silent.post.id = post.id →
            Lined world.comments silent.gestureId := by
        constructor
        · intro always post isNext silent isSilent samePost
          refine always silent isSilent (List.mem_append_left _ ?_)
          rw [Option.mem_def.mp isNext, samePost]
          exact List.mem_singleton.mpr rfl
        · intro lined silent isSilent isSwept
          rcases List.mem_append.mp isSwept with isNext | before
          · rw [Option.mem_toList] at isNext
            obtain ⟨post, isPost, samePost⟩ := Option.map_eq_some_iff.mp isNext
            exact lined post isPost silent isSilent samePost.symm
          · exact spoken silent isSilent before
      have inTime : (∀ post ∈ world.sweepsNext, ∀ silent ∈ world.unheard,
          silent.post.id = post.id → Lined world.comments silent.gestureId) ↔
          ∀ post ∈ world.sweepsNext, ∀ silent ∈ world.unheard, silent.post.id = post.id →
            silent.Timely desk ∧ world.loop.writesLine silent.gestureId = false := by
        refine forall₂_congr fun post _ => forall₂_congr fun silent isSilent => ?_
        rw [steady.lined_iff isSilent]
      exact (sweeps.trans inTime).trans (and_iff_left fun _ isNone => nomatch isNone).symm
  · rename_i noDue
    have noNext : world.sweepsNext = none := by
      unfold World.sweepsNext
      split
      · rename_i post due isSweep
        exact absurd isSweep (noDue post .expired due)
      · rfl
    refine iff_of_true spoken (inTime_of_none ?_ rfl)
    cases takes with
    | false => rfl
    | true => exact noNext

theorem spoken_step_iff (steady : Steady desk world) (spoken : Spoken world) (next : Happening) :
    Spoken (world.step desk next) ↔ InTime desk world next := by
  have read : ∀ next, Spoken (world.read desk next) := by
    intro next
    unfold World.read
    split <;> exact spoken
  cases next with
  | passes seconds => exact iff_of_true spoken (inTime_of_none rfl rfl)
  | posted post =>
    refine iff_of_true ?_ (inTime_of_none rfl rfl)
    dsimp only [World.step]
    split <;> exact spoken
  | arrives event =>
    refine iff_of_true ?_ (inTime_of_none rfl rfl)
    dsimp only [World.step]
    split <;> exact spoken
  | wakes =>
    refine iff_of_true ?_ (inTime_of_none rfl rfl)
    dsimp only [World.step]
    split <;> exact spoken
  | readsPosts serves => exact iff_of_true (read _) (inTime_of_none rfl rfl)
  | readsGestures answers => exact iff_of_true (read _) (inTime_of_none rfl rfl)
  | readsComments serves => exact iff_of_true (read _) (inTime_of_none rfl rfl)
  | turns =>
    refine iff_of_true ?_ (inTime_of_none rfl rfl)
    dsimp only [World.step]
    split
    · exact spoken
    · rename_i errand errands isLoop
      exact spoken_turn steady spoken isLoop
    · exact spoken
  | gatewayAnswers answer =>
    have lost : InTime desk world (.gatewayAnswers answer) ↔
        (deferred answer = true → ∀ post ∈ world.asked, post.id ∉ world.swept) := by
      rw [inTime_iff_of_none rfl]
      cases isDeferred : deferred answer <;> simp [World.lostBy, isDeferred]
    rw [lost]
    dsimp only [World.step]
    split
    · rename_i post act told errands isLoop
      rw [spoken_hear_iff steady spoken isLoop answer, asked_asking isLoop]
      simp
    · rename_i notAsking
      have notAsked : world.asked = none := by
        unfold World.asked
        split
        · rename_i post act told errands isLoop
          exact absurd isLoop (notAsking post act told errands)
        · rfl
      rw [notAsked]
      simpa using spoken
  | relayAnswers takes =>
    refine iff_of_true ?_ (inTime_of_none rfl rfl)
    dsimp only [World.step]
    split
    · rename_i write errands isLoop
      exact spoken_write spoken errands takes write
    · exact spoken
  | refreshes answer =>
    refine iff_of_true ?_ (inTime_of_none rfl rfl)
    dsimp only [World.step]
    split <;> exact spoken
  | dies => exact iff_of_true spoken (inTime_of_none rfl rfl)
  | sweepWakes =>
    refine iff_of_true ?_ (inTime_of_none rfl rfl)
    dsimp only [World.step]
    split <;> exact spoken
  | sweepReads serves =>
    refine iff_of_true ?_ (inTime_of_none rfl rfl)
    dsimp only [World.step]
    split <;> exact spoken
  | sweepDeletes takes => exact spoken_sweepDeletes_iff steady spoken takes
  | restarted lang takes =>
    have lost : InTime desk world (.restarted lang takes) ↔
        ∀ post ∈ world.asked, post.id ∉ world.swept :=
      inTime_iff_of_none rfl
    rw [lost, ← spoken_halt_iff steady spoken takes]
    exact Iff.rfl

/-- In every run in which each tick that reads its answers can read them all, each gesture is
settled once and none in silence, in every state that is reached, if and only if the sweep and the
Gateway are in time. -/
theorem settled_iff_inTime (now : Int) (lang : Lang) (happenings : List Happening)
    (recalls : Along (World.step desk) (Recalls desk) (World.initial now lang) happenings) :
    (∀ front, front <+: happenings →
      Settled desk (run (World.step desk) (World.initial now lang) front)) ↔
      Along (World.step desk) (InTime desk) (World.initial now lang) happenings := by
  have initial : Steady desk (World.initial now lang) := by
    refine ⟨⟨List.nodup_nil, ?_, ?_, List.Pairwise.nil, List.Pairwise.nil⟩, List.nodup_nil, trivial,
      Pending.idle desk rfl rfl fun _ => rfl, ⟨?_, ?_, ?_⟩, ?_⟩ <;>
      exact fun _ isNone => nomatch isNone
  refine property_along_iff (fun world => Steady desk world ∧ Spoken world) (Settled desk)
    (fun _ holds => holds.1.settled holds.2) ?_ ?_ ⟨initial, fun _ isNone => nomatch isNone⟩ recalls
  · rintro world next ⟨steady, spoken⟩ recalls
    rw [← spoken_step_iff steady spoken next]
    exact ⟨Settled.spoken, (steady.step next recalls).settled⟩
  · rintro world next ⟨steady, spoken⟩ recalls inTime
    exact ⟨steady.step next recalls, (spoken_step_iff steady spoken next).mpr inTime⟩

end Runs

/-! ### A Gateway that hangs -/

namespace HangingGateway

def owner : String := "9999999999999999999999999999999999999999999999999999999999999999"

def first : String := "1111111111111111111111111111111111111111111111111111111111111111"

def second : String := "2222222222222222222222222222222222222222222222222222222222222222"

def third : String := "3333333333333333333333333333333333333333333333333333333333333333"

def gestureIds (createdAt : Nat) : String :=
  match createdAt with
  | 1789639101 => "aaaaaaaaaaaaaaaaaaaaaaaaaaaaaaaaaaaaaaaaaaaaaaaaaaaaaaaaaaaaaaaa"
  | 1789639102 => "bbbbbbbbbbbbbbbbbbbbbbbbbbbbbbbbbbbbbbbbbbbbbbbbbbbbbbbbbbbbbbbb"
  | _ => "cccccccccccccccccccccccccccccccccccccccccccccccccccccccccccccccc"

/-- The seconds of 10:00:00. -/
def began : Int := 1789639200

def expiresAtUnix (text : String) : Option Int :=
  match text with
  | "2026-09-17T10:00:26Z" => some 1789639226
  | "2026-09-17T11:00:00Z" => some 1789642800
  | _ => none

def desk : Desk where
  nostr := ⟨fun signed => gestureIds signed.createdAt, fun _ _ _ => true⟩
  keys := ⟨"0000000000000000000000000000000000000000000000000000000000000000", fun id => id⟩
  ownerPubkey := owner
  channelApprovals := "9b1ba94a-38c3-49fe-9eb0-ffaafa62571a"
  decision := 5
  expiresAtUnix := expiresAtUnix
  catalogue := fun _ _ => none

def suggestion (digit : Char) : String := String.ofList (List.replicate 64 digit)

def post (id : String) (digit : Char) (expiresAt : String) : Post :=
  ⟨id, line ⟨suggestion digit, some expiresAt⟩, 1789639000⟩

def approval (postId : String) (createdAt : Nat) : Event :=
  ⟨⟨owner, createdAt, kindReaction, [["e", postId]], "✅"⟩, gestureIds createdAt, ""⟩

/-- What the owner's approval of a post decides. -/
def decision (createdAt : Nat) : Decision :=
  ⟨.approve, gestureIds createdAt, true, owner, createdAt⟩

def sooner : Post := post first '1' "2026-09-17T10:00:26Z"

def later : Post := post second '2' "2026-09-17T11:00:00Z"

def latest : Post := post third '3' "2026-09-17T11:00:00Z"

def approvals : List Event :=
  [approval first 1789639101, approval second 1789639102, approval third 1789639103]

theorem parse_post {id expiresAt : String} {digit : Char} (isDigit : isIdDigit digit = true)
    (isSome : expiresAt.toList ≠ [])
    (visible : expiresAt.toList.any Text.isWhiteSpace = false) :
    parse (post id digit expiresAt).content = some ⟨suggestion digit, some expiresAt⟩ := by
  refine parse_line ?_ isSome (Text.visible_of_any visible)
  simp [isSuggestionId, suggestion, isDigit]

/-- The owner approves three posts, of which the newest expires first. Each request takes its whole
time, and the sweep comes while the third does. -/
def hangs : List Happening := [
  .refreshes .issued, .posted latest, .posted later, .posted sooner,
  .arrives (approval third 1789639103), .arrives (approval second 1789639102),
  .arrives (approval first 1789639101), .wakes, .readsPosts true,
  .readsGestures (some [approvals]), .readsComments true, .turns, .passes 10,
  .gatewayAnswers .failed, .turns, .passes 10, .gatewayAnswers .failed, .turns, .passes 7,
  .sweepWakes, .sweepReads true, .sweepDeletes true]

theorem expiryOf_sooner : expiryOf sooner.content = some "2026-09-17T10:00:26Z" := by
  unfold expiryOf sooner
  rw [parse_post (by decide) (by decide) rfl]
  rfl

theorem expiryOf_later : expiryOf later.content = some "2026-09-17T11:00:00Z" := by
  unfold expiryOf later
  rw [parse_post (by decide) (by decide) rfl]
  rfl

theorem expiryOf_latest : expiryOf latest.content = some "2026-09-17T11:00:00Z" := by
  unfold expiryOf latest
  rw [parse_post (by decide) (by decide) rfl]
  rfl

theorem isSome_parse {content : String} {expiresAt : String}
    (isExpiry : expiryOf content = some expiresAt) : (parse content).isNone = false := by
  unfold expiryOf at isExpiry
  cases isParsed : parse content with
  | none => rw [isParsed] at isExpiry; cases isExpiry
  | some reference => rfl

theorem errands_read : desk.errands began [sooner, later, latest] [approvals] [] =
    [.carry sooner (decision 1789639101) false, .carry later (decision 1789639102) false,
      .carry latest (decision 1789639103) false] := by
  have isOpen : ∀ post ∈ [sooner, later, latest],
      postHasExpired desk.expiresAtUnix post.content began = false := by
    simp [postHasExpired, expiryOf_sooner, expiryOf_later, expiryOf_latest, hasExpired, desk,
      expiresAtUnix, began]
  have decidesFirst : decided desk.nostr desk.keys.pubkey desk.ownerPubkey first [] [approvals] =
      ⟨some (decision 1789639101), []⟩ := by
    rfl
  have decidesSecond : decided desk.nostr desk.keys.pubkey desk.ownerPubkey second [] [approvals] =
      ⟨some (decision 1789639102), []⟩ := by
    rfl
  have decidesThird : decided desk.nostr desk.keys.pubkey desk.ownerPubkey third [] [approvals] =
      ⟨some (decision 1789639103), []⟩ := by
    rfl
  have isPartitioned :
      desk.partitioned began [sooner, later, latest] = [sooner, later, latest] := by
    unfold Desk.partitioned
    rw [List.filter_eq_self.mpr fun post isPost => by rw [isOpen post isPost]; rfl,
      List.filter_eq_nil_iff.mpr fun post isPost => by
        rw [isOpen post isPost]
        exact Bool.false_ne_true]
    rfl
  have nothing : ∀ ids, answeredGestures (ownCommentsOn [] ids) = ([], []) := by
    intro ids
    have none : ownCommentsOn [] ids = [] := by simp [ownCommentsOn]
    rw [none]
    rfl
  have onPost : ∀ post ∈ [sooner, later, latest], ∀ act,
      decided desk.nostr desk.keys.pubkey desk.ownerPubkey post.id [] [approvals] =
        ⟨some act, []⟩ →
      desk.errandsOn began ([], []) [approvals] post = [.carry post act false] := by
    intro post isPost act isDecided
    unfold Desk.errandsOn
    rw [isDecided]
    simp [isOpen post isPost]
  unfold Desk.errands
  rw [isPartitioned, nothing, List.flatMap_cons, List.flatMap_cons, List.flatMap_cons,
    onPost sooner (by simp) _ decidesFirst, onPost later (by simp) _ decidesSecond,
    onPost latest (by simp) _ decidesThird]
  rfl

theorem step_posted {post : Post} (fresh : ∀ standing ∈ world.posts, standing.id ≠ post.id) :
    world.step desk (.posted post) = { world with posts := post :: world.posts } := by
  dsimp only [World.step]
  rw [if_neg]
  intro isPosted
  obtain ⟨standing, isStanding, same⟩ := List.any_eq_true.mp isPosted
  exact fresh standing isStanding (beq_iff_eq.mp same)

theorem step_arrives {event : Event} (named : event.id ≠ "")
    (fresh : ∀ held ∈ world.gestures, held.id ≠ event.id) :
    world.step desk (.arrives event) = { world with gestures := event :: world.gestures } := by
  dsimp only [World.step]
  rw [if_neg]
  rintro (isNamed | isHeld)
  · exact named isNamed
  · obtain ⟨held, inGestures, same⟩ := List.mem_map.mp isHeld
    exact fresh held inGestures same

theorem apart : first ≠ second ∧ first ≠ third ∧ second ≠ third := by decide

/-- The channel with the three posts and their approvals, some time after ten, and the loop
somewhere, with the requests it has made and the gestures that got no answer. -/
def standing (passed : Nat) (loop : Loop) (calls : List Call) (unheard : List Unheard) : World :=
  ⟨began + passed, .fr, [sooner, later, latest], approvals, [], .alive, loop, .deleting [], calls,
    unheard, []⟩

theorem run_arrivals : run (World.step desk) (World.initial began .fr) (hangs.take 7) =
    standing 0 .resting [] [] := by
  have ids : sooner.id = first ∧ later.id = second ∧ latest.id = third := ⟨rfl, rfl, rfl⟩
  obtain ⟨one, two, three⟩ := apart
  have isTaken : hangs.take 7 = [.refreshes .issued, .posted latest, .posted later, .posted sooner,
    .arrives (approval third 1789639103), .arrives (approval second 1789639102),
    .arrives (approval first 1789639101)] := rfl
  rw [isTaken, run_cons, run_cons, step_posted (by exact fun _ isNone => nomatch isNone), run_cons,
    step_posted (by simpa [World.step, World.initial, ids] using three.symm), run_cons,
    step_posted (by simpa [World.step, World.initial, ids] using ⟨one.symm, two.symm⟩), run_cons,
    step_arrives (by decide) (by exact fun _ isNone => nomatch isNone), run_cons,
    step_arrives (by decide) (by decide +kernel), run_cons,
    step_arrives (by decide) (by decide +kernel)]
  rfl

theorem run_reads : run (World.step desk) (standing 0 .resting [] []) ((hangs.drop 7).take 4) =
    standing 0 (.working [.carry sooner (decision 1789639101) false,
      .carry later (decision 1789639102) false, .carry latest (decision 1789639103) false]) [] []
    := by
  have isTaken : (hangs.drop 7).take 4 = [.wakes, .readsPosts true,
    .readsGestures (some [approvals]), .readsComments true] := rfl
  have woken : (standing 0 .resting [] []).step desk .wakes = standing 0 (.woken began) [] [] := rfl
  have posts : (standing 0 (.woken began) [] []).step desk (.readsPosts true) =
      standing 0 (.postsRead began [sooner, later, latest]) [] [] := rfl
  have held : [approvals].map (fun answer => answer.filter fun event =>
      decide (event ∈ approvals)) = [approvals] := by
    decide
  have ofOthers : ((queryEach desk.nostr [approvals]).all fun gesture =>
      gesture.pubkey == desk.keys.pubkey) = false := by
    decide
  have gestures : (standing 0 (.postsRead began [sooner, later, latest]) [] []).step desk
      (.readsGestures (some [approvals])) =
      standing 0 (.gesturesRead began [sooner, later, latest] [approvals]) [] [] := by
    dsimp only [World.step]
    unfold World.read standing
    dsimp only
    rw [held, ofOthers, if_neg Bool.false_ne_true]
  have comments : (standing 0 (.gesturesRead began [sooner, later, latest] [approvals]) [] []).step
      desk (.readsComments true) = standing 0 (.working (desk.errands began [sooner, later, latest]
        [approvals] [])) [] [] := rfl
  rw [isTaken, run_cons, woken, run_cons, posts, run_cons, gestures, run_cons, comments, run_nil,
    errands_read]

theorem turns (passed : Nat) {post : Post} {createdAt : Nat} {calls : List Call}
    {unheard : List Unheard} (readable : (parse post.content).isNone = false) :
    (standing passed (.working (.carry post (decision createdAt) false :: errands)) calls
      unheard).step desk .turns =
      standing passed (.asking post (decision createdAt) false errands)
        (⟨gestureIds createdAt, .alive, []⟩ :: calls) unheard := by
  dsimp only [World.step, standing]
  dsimp only [World.turn]
  rw [if_neg (readable ▸ Bool.false_ne_true), if_neg (by exact fun refuses => nomatch refuses)]
  rfl

theorem fails (passed : Nat) {post : Post} {createdAt : Nat} {calls : List Call}
    {unheard : List Unheard} (early : expiresWithin desk.expiresAtUnix post.content (began + passed)
      (notRecordedWindow desk.decision) = false)
    (fresh : ∀ silent ∈ unheard, silent.gestureId ≠ gestureIds createdAt) :
    (standing passed (.asking post (decision createdAt) false errands) calls unheard).step desk
      (.gatewayAnswers .failed) =
      standing passed (.working errands) calls
        (⟨gestureIds createdAt, post, began + passed, false⟩ :: unheard) := by
  have others : (unheard.filter fun silent => silent.gestureId != gestureIds createdAt) = unheard :=
    List.filter_eq_self.mpr fun silent isSilent => bne_iff_ne.mpr (fresh silent isSilent)
  dsimp only [World.step, standing]
  dsimp only [World.hear, World.defer, World.others]
  have isId : (decision createdAt).gestureId = gestureIds createdAt := rfl
  rw [if_neg (early ▸ Bool.false_ne_true), isId, others]

/-- The gestures that were left without an answer after ten and after twenty seconds. -/
def unheard : List Unheard :=
  [⟨gestureIds 1789639102, later, began + 20, false⟩,
    ⟨gestureIds 1789639101, sooner, began + 10, false⟩]

theorem passes (passed seconds : Nat) {loop : Loop} {calls : List Call} {unheard : List Unheard} :
    (standing passed loop calls unheard).step desk (.passes seconds) =
      standing (passed + seconds) loop calls unheard := by
  dsimp only [World.step, standing]
  rw [Int.natCast_add, Int.add_assoc]

/-- The requests that were made, the newest first. -/
def calls : List Call :=
  [⟨gestureIds 1789639103, .alive, []⟩, ⟨gestureIds 1789639102, .alive, []⟩,
    ⟨gestureIds 1789639101, .alive, []⟩]

theorem run_turns : run (World.step desk) (standing 0 (.working
    [.carry sooner (decision 1789639101) false, .carry later (decision 1789639102) false,
      .carry latest (decision 1789639103) false]) [] []) ((hangs.drop 11).take 8) =
    standing 27 (.asking latest (decision 1789639103) false []) calls unheard := by
  have isTaken : (hangs.drop 11).take 8 = [.turns, .passes 10, .gatewayAnswers .failed, .turns,
    .passes 10, .gatewayAnswers .failed, .turns, .passes 7] := rfl
  have early : expiresWithin desk.expiresAtUnix sooner.content (began + (10 : Nat))
      (notRecordedWindow desk.decision) = false := by
    unfold expiresWithin
    rw [expiryOf_sooner]
    decide
  have earlier : expiresWithin desk.expiresAtUnix later.content (began + (20 : Nat))
      (notRecordedWindow desk.decision) = false := by
    unfold expiresWithin
    rw [expiryOf_later]
    decide
  rw [isTaken, run_cons, turns _ (isSome_parse expiryOf_sooner), run_cons, passes, run_cons,
    fails _ early (by exact fun _ isNone => nomatch isNone), run_cons,
    turns _ (isSome_parse expiryOf_later), run_cons, passes, run_cons,
    fails _ earlier (by decide), run_cons, turns _ (isSome_parse expiryOf_latest), run_cons,
    passes, run_nil]
  rfl

theorem sweeps_eq {now expires : Int} {post : Post} {expiresAt : String}
    (isExpiry : expiryOf post.content = some expiresAt)
    (isDate : expiresAtUnix expiresAt = some expires) :
    desk.sweeps now post = if expires ≤ now then some (post, .expired) else none := by
  have dated : ((parse post.content).bind Reference.expiresAt).bind desk.expiresAtUnix =
      some expires := by
    have whole : (parse post.content).bind Reference.expiresAt = some expiresAt := isExpiry
    rw [whole]
    exact isDate
  unfold Desk.sweeps verdict
  rw [dated]
  dsimp only
  by_cases past : expires ≤ now
  · rw [if_pos past, if_pos past]
  · rw [if_neg past, if_neg past]

/-- The sweep has found the post that expired a second ago. -/
def overdue (loop : Loop) (calls : List Call) : World :=
  ⟨began + (27 : Nat), .fr, [sooner, later, latest], approvals, [], .alive, loop,
    .deleting [(sooner, .expired)], calls, unheard, []⟩

theorem sweeps (loop : Loop) (calls : List Call) :
    ¬ Spoken (run (World.step desk) (standing 27 loop calls unheard)
      [.sweepWakes, .sweepReads true, .sweepDeletes true]) := by
  have expired : desk.sweeps (began + (27 : Nat)) sooner = some (sooner, .expired) :=
    (sweeps_eq expiryOf_sooner rfl).trans (if_pos (by decide))
  have stands : desk.sweeps (began + (27 : Nat)) later = none :=
    (sweeps_eq expiryOf_later rfl).trans (if_neg (by decide))
  have standsToo : desk.sweeps (began + (27 : Nat)) latest = none :=
    (sweeps_eq expiryOf_latest rfl).trans (if_neg (by decide))
  have due : ([sooner, later, latest].take ownPostsLimit).filterMap
      (desk.sweeps (began + (27 : Nat))) = [(sooner, .expired)] := by
    have all : [sooner, later, latest].take ownPostsLimit = [sooner, later, latest] := rfl
    rw [all, List.filterMap_cons_some expired, List.filterMap_cons_none stands,
      List.filterMap_cons_none standsToo, List.filterMap_nil]
  have reads : run (World.step desk) (standing 27 loop calls unheard)
      [.sweepWakes, .sweepReads true] = overdue loop calls := by
    unfold overdue
    rw [← due]
    rfl
  have splits : [Happening.sweepWakes, .sweepReads true, .sweepDeletes true] =
      [.sweepWakes, .sweepReads true] ++ [.sweepDeletes true] := rfl
  have isNext : (overdue loop calls).sweepsNext = some sooner := by
    simp [World.sweepsNext, overdue]
  have swept : ((overdue loop calls).step desk (.sweepDeletes true)).swept = [sooner.id] := by
    dsimp only [World.step, overdue]
    unfold overdue at isNext
    rw [isNext]
    rfl
  intro spoken
  rw [splits, run_append, reads, run_cons, run_nil] at spoken
  obtain ⟨comment, isComment, _⟩ := spoken ⟨gestureIds 1789639101, sooner, began + 10, false⟩
    (List.mem_cons_of_mem _ List.mem_cons_self) (swept ▸ List.mem_cons_self)
  cases isComment

/-- Sixteen seconds before the expiry the gesture gets no line, and the tick has not come round when
the sweep deletes the post. -/
theorem swept_in_silence :
    ¬ ∀ (desk : Desk) (now : Int) (lang : Lang) (happenings : List Happening),
      Settled desk (run (World.step desk) (World.initial now lang) happenings) := by
  intro always
  have parts : hangs = hangs.take 7 ++ ((hangs.drop 7).take 4 ++ ((hangs.drop 11).take 8 ++
      [.sweepWakes, .sweepReads true, .sweepDeletes true])) := rfl
  have spoken := (always desk began .fr hangs).spoken
  rw [parts, run_append, run_arrivals, run_append, run_reads, run_append, run_turns] at spoken
  exact sweeps _ _ spoken

def taken : List Happening := [
  .refreshes .issued, .posted sooner, .arrives (approval first 1789639101), .wakes,
  .readsPosts true, .readsGestures (some [[approval first 1789639101]]), .readsComments true,
  .turns, .gatewayAnswers (.answered (.approved false)), .relayAnswers true, .sweepWakes,
  .sweepReads true]

/-- A gesture that gets an answer is settled. -/
theorem settled_taken : Settled desk (run (World.step desk) (World.initial began .fr) taken) := by
  have noComments :
      (run (World.step desk) (World.initial began .fr) (taken.take 6)).comments = [] := by
    decide
  have recalls : Along (World.step desk) (Recalls desk) (World.initial began .fr) taken := by
    refine ⟨recalls_unless nofun, recalls_unless nofun, recalls_unless nofun, recalls_unless nofun,
      recalls_unless nofun, recalls_unless nofun, ?_, recalls_unless nofun, recalls_unless nofun,
      recalls_unless nofun, recalls_unless nofun, recalls_unless nofun, trivial⟩
    intro ids _
    have within : WithinLimit [] ids := fun _ _ => Nat.zero_le _
    rw [← noComments] at within
    exact within
  have inTime : Along (World.step desk) (InTime desk) (World.initial began .fr) taken :=
    ⟨inTime_of_none rfl rfl, inTime_of_none rfl rfl, inTime_of_none rfl rfl,
      inTime_of_none rfl rfl, inTime_of_none rfl rfl, inTime_of_none rfl rfl,
      inTime_of_none rfl rfl, inTime_of_none rfl rfl, inTime_of_none rfl rfl,
      inTime_of_none rfl rfl, inTime_of_none rfl rfl, inTime_of_none rfl rfl, trivial⟩
  exact (settled_iff_inTime began .fr taken recalls).mpr inTime taken List.prefix_rfl

end HangingGateway

end Twalk.Clerk
