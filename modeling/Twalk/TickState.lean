/-
This file is what holds of the clerk's two loops in every run: of what the decisions loop
is at and has still to turn to, of the answers in the threads and of the gestures the
Companion Gateway gave no usable answer for. Every step keeps it, whatever arrives, fails,
dies or restarts, as long as a tick can read all the answers on the posts it has read.
-/

import Twalk.Ticks

namespace Twalk.Clerk

/-! ### What is due -/

def Errand.postId : Errand → String
  | .stranger postId _ => postId
  | .carry post _ _ => post.id
  | .tooLate post _ => post.id

def Errand.gestureId : Errand → String
  | .stranger _ gestureId => gestureId
  | .carry _ act _ => act.gestureId
  | .tooLate _ act => act.gestureId

def Errand.about (errand : Errand) : String × String := (errand.postId, errand.gestureId)

def Loop.errands : Loop → List Errand
  | .working errands => errands
  | .asking post act told errands => .carry post act told :: errands
  | .writing _ errands => errands
  | _ => []

/-- The answer that is being written. -/
def Loop.hand : Loop → List (String × String)
  | .writing (.comment postId gestureId _) _ => [(postId, gestureId)]
  | _ => []

/-- The posts and gestures the loop is at or comes to. -/
def Loop.due (loop : Loop) : List (String × String) := loop.hand ++ loop.errands.map Errand.about

def Loop.writesLine (loop : Loop) (gestureId : String) : Bool :=
  match loop with
  | .writing (.comment _ answered content) _ => answered == gestureId && isLine content
  | _ => false

/-- Whether the sentence about the revoked session is being written to a gesture. -/
def Loop.writesRevoked (loop : Loop) (gestureId : String) : Bool :=
  match loop with
  | .writing (.comment _ answered content) _ => answered == gestureId && isRevoked content
  | _ => false

/-! ### What holds -/

def Lined (comments : List Event) (gestureId : String) : Prop :=
  ∃ comment ∈ comments, answeredGesture comment = some gestureId ∧ isLine comment.content = true

def Held (gestures : List Event) (postId gestureId : String) : Prop :=
  ∃ event ∈ gestures, event.id = gestureId ∧ targets event postId = true

/-- The relay has one gesture for each id, and each answer stands in the thread of the post that
the gesture it answers is on. No two answers spend one gesture or tell it the same. -/
structure Recorded (gestures comments : List Event) : Prop where
  distinct : (gestures.map Event.id).Nodup
  named : ∀ event ∈ gestures, event.id ≠ ""
  placed : ∀ comment ∈ comments, ∃ postId gestureId, Held gestures postId gestureId ∧
    answeredGesture comment = some gestureId ∧
    ∀ ids, namesOne ids comment = ids.contains postId
  once : comments.Pairwise fun later earlier =>
    ∀ gestureId, spends gestureId later = true → spends gestureId earlier = false
  toldOnce : comments.Pairwise fun later earlier =>
    ∀ gestureId, tells gestureId later = true → tells gestureId earlier = false

section Runs

variable (desk : Desk)

def Loop.Reads (gestures : List Event) (now : Int) : Loop → Prop
  | .woken began => began ≤ now
  | .postsRead began posts => began ≤ now ∧ (posts.map Post.id).Nodup
  | .gesturesRead began posts answers => began ≤ now ∧ (posts.map Post.id).Nodup ∧
      ∀ answer ∈ answers, ∀ event ∈ answer, event ∈ gestures
  | _ => True

/-- What the loop is at or comes to is on the relay, each gesture once, and no answer spends it; a
gesture that is carried as not told yet is not, and what is too late has expired. -/
structure Pending (now : Int) (gestures comments : List Event) (loop : Loop) : Prop where
  distinct : (loop.due.map Prod.snd).Nodup
  held : ∀ due ∈ loop.due, Held gestures due.1 due.2
  unspent : ∀ due ∈ loop.due, ∀ comment ∈ comments, spends due.2 comment = false
  untold : ∀ post act, .carry post act false ∈ loop.errands →
    ∀ comment ∈ comments, tells act.gestureId comment = false
  late : ∀ post act, .tooLate post act ∈ loop.errands →
    postHasExpired desk.expiresAtUnix post.content now = true
  revoked : ∀ gestureId, loop.writesRevoked gestureId = true →
    ∀ comment ∈ comments, tells gestureId comment = false

/-- The loop last turned to a gesture within the window of its post's expiry, and what it then wrote
was not refused. -/
def Unheard.Timely (unheard : Unheard) : Prop :=
  expiresWithin desk.expiresAtUnix unheard.post.content unheard.turned
    (notRecordedWindow desk.decision) = true ∧ unheard.refused = false

instance (unheard : Unheard) : Decidable (unheard.Timely desk) :=
  inferInstanceAs (Decidable (_ ∧ _))

/-- A gesture the Gateway gave no usable answer for has a line, or is being written one, exactly
when the loop turned to it in time. -/
structure Watched (gestures comments : List Event) (loop : Loop) (unheard : List Unheard) :
    Prop where
  held : ∀ silent ∈ unheard, Held gestures silent.post.id silent.gestureId
  timely : ∀ silent ∈ unheard, Lined comments silent.gestureId ∨
    loop.writesLine silent.gestureId = true → silent.Timely desk
  lined : ∀ silent ∈ unheard, silent.Timely desk → Lined comments silent.gestureId ∨
    loop.writesLine silent.gestureId = true

/-- What holds of the two loops in every run. -/
structure Steady (world : World) : Prop where
  recorded : Recorded world.gestures world.comments
  posts : (world.posts.map Post.id).Nodup
  reads : world.loop.Reads world.gestures world.now
  pending : Pending desk world.now world.gestures world.comments world.loop
  watched : Watched desk world.gestures world.comments world.loop world.unheard
  made : ∀ call ∈ world.calls, call.session = .alive ∧
    ∀ comment ∈ call.comments, spends call.gestureId comment = false

/-- No gesture that the Gateway gave no usable answer for is swept in silence. -/
def Spoken (world : World) : Prop :=
  ∀ silent ∈ world.unheard, silent.post.id ∈ world.swept → Lined world.comments silent.gestureId

/-! ### One gesture for each id -/

theorem eq_of_targets {event : Event} {first second : String}
    (one : targets event first = true) (other : targets event second = true) : first = second := by
  obtain ⟨_, tag, isLast, names⟩ := targets_iff.mp one
  obtain ⟨_, otherTag, isOtherLast, namesOther⟩ := targets_iff.mp other
  rw [isLast, Option.some.injEq] at isOtherLast
  rw [← isOtherLast, names, Option.some.injEq] at namesOther
  exact namesOther

variable {gestures comments : List Event} {postId gestureId : String}

theorem Held.post_eq (distinct : (gestures.map Event.id).Nodup) {first second : String}
    (one : Held gestures first gestureId) (other : Held gestures second gestureId) :
    first = second := by
  obtain ⟨event, isEvent, isId, onFirst⟩ := one
  obtain ⟨otherEvent, isOther, isOtherId, onSecond⟩ := other
  have same : event = otherEvent :=
    List.inj_on_of_nodup_map distinct isEvent isOther (isId.trans isOtherId.symm)
  exact eq_of_targets onFirst (same ▸ onSecond)

theorem Held.mono {more : List Event} (grows : gestures ⊆ more)
    (held : Held gestures postId gestureId) : Held more postId gestureId := by
  obtain ⟨event, isEvent, isGesture⟩ := held
  exact ⟨event, grows isEvent, isGesture⟩

theorem Recorded.ne_empty (recorded : Recorded gestures comments)
    (held : Held gestures postId gestureId) : gestureId ≠ "" := by
  obtain ⟨event, isEvent, rfl, _⟩ := held
  exact recorded.named event isEvent

/-! ### What an answer does -/

theorem Lined.exists_spends (lined : Lined comments gestureId) :
    ∃ comment ∈ comments, spends gestureId comment = true := by
  obtain ⟨comment, isComment, answers, line⟩ := lined
  refine ⟨comment, isComment, ?_⟩
  rw [spends, answers, isRevoked_of_isLine line]
  simp

variable {now : Int} {loop : Loop}

theorem Pending.not_lined (pending : Pending desk now gestures comments loop)
    {due : String × String} (isDue : due ∈ loop.due) : ¬ Lined comments due.2 := by
  intro lined
  obtain ⟨comment, isComment, spent⟩ := lined.exists_spends
  rw [pending.unspent due isDue comment isComment] at spent
  cases spent

section Answering

variable {answer : Event} (answers : answeredGesture answer = some gestureId)

include answers

variable {other : String}

theorem eq_of_spends (spent : spends other answer = true) :
    other = gestureId ∧ isRevoked answer.content = false := by
  rw [spends, answers, Bool.and_eq_true, beq_iff_eq, Bool.not_eq_true', Option.some.injEq] at spent
  exact ⟨spent.1.symm, spent.2⟩

theorem eq_of_tells (told : tells other answer = true) :
    other = gestureId ∧ isRevoked answer.content = true := by
  rw [tells, answers, Bool.and_eq_true, beq_iff_eq, Option.some.injEq] at told
  exact ⟨told.1.symm, told.2⟩

theorem Recorded.answered (recorded : Recorded gestures comments)
    (held : Held gestures postId gestureId)
    (stands : ∀ ids, namesOne ids answer = ids.contains postId)
    (unspent : ∀ comment ∈ comments, spends gestureId comment = false)
    (untold : isRevoked answer.content = true →
      ∀ comment ∈ comments, tells gestureId comment = false) :
    Recorded gestures (answer :: comments) where
  distinct := recorded.distinct
  named := recorded.named
  placed comment isComment := by
    rcases List.mem_cons.mp isComment with rfl | before
    · exact ⟨postId, gestureId, held, answers, stands⟩
    · exact recorded.placed comment before
  once := List.pairwise_cons.mpr ⟨fun earlier isEarlier other spent =>
    (eq_of_spends answers spent).1 ▸ unspent earlier isEarlier, recorded.once⟩
  toldOnce := List.pairwise_cons.mpr ⟨fun earlier isEarlier other told =>
    (eq_of_tells answers told).1 ▸ untold (eq_of_tells answers told).2 earlier isEarlier,
    recorded.toldOnce⟩

theorem lined_cons_iff :
    Lined (answer :: comments) other ↔
      Lined comments other ∨ gestureId = other ∧ isLine answer.content = true := by
  unfold Lined
  constructor
  · rintro ⟨comment, isComment, answersOther, line⟩
    rcases List.mem_cons.mp isComment with rfl | before
    · rw [answers, Option.some.injEq] at answersOther
      exact .inr ⟨answersOther, line⟩
    · exact .inl ⟨comment, before, answersOther, line⟩
  · rintro (⟨comment, before, answersOther, line⟩ | ⟨rfl, line⟩)
    · exact ⟨comment, List.mem_cons_of_mem _ before, answersOther, line⟩
    · exact ⟨answer, List.mem_cons_self, answers, line⟩

end Answering

/-! ### What the loop comes to -/

theorem Pending.next {loop next : Loop} (pending : Pending desk now gestures comments loop)
    (fewer : next.due.Sublist loop.due) (among : next.errands ⊆ loop.errands)
    (revoked : ∀ gestureId, next.writesRevoked gestureId = true →
      ∀ comment ∈ comments, tells gestureId comment = false) :
    Pending desk now gestures comments next where
  distinct := pending.distinct.sublist (fewer.map Prod.snd)
  held due isDue := pending.held due (fewer.subset isDue)
  unspent due isDue := pending.unspent due (fewer.subset isDue)
  untold post act isErrand := pending.untold post act (among isErrand)
  late post act isErrand := pending.late post act (among isErrand)
  revoked := revoked

theorem Pending.idle (nothing : loop.due = []) (noErrand : loop.errands = [])
    (noWrite : ∀ gestureId, loop.writesRevoked gestureId = false) :
    Pending desk now gestures comments loop where
  distinct := by rw [nothing]; exact List.nodup_nil
  held due isDue := by rw [nothing] at isDue; cases isDue
  unspent due isDue := by rw [nothing] at isDue; cases isDue
  untold post act isErrand := by rw [noErrand] at isErrand; cases isErrand
  late post act isErrand := by rw [noErrand] at isErrand; cases isErrand
  revoked gestureId writes := by rw [noWrite] at writes; cases writes

variable {errands : List Errand} {content : String}

theorem Pending.answered (pending : Pending desk now gestures comments
      (.writing (.comment postId gestureId content) errands)) {answer : Event}
    (answers : answeredGesture answer = some gestureId) :
    Pending desk now gestures (answer :: comments) (.working errands) := by
  have rest : Pending desk now gestures comments (.working errands) :=
    pending.next desk (List.sublist_cons_self _ _) (fun _ => id) fun _ writes => nomatch writes
  have fresh : gestureId ∉ errands.map Errand.gestureId := by
    have distinct := pending.distinct
    rw [Loop.due, Loop.hand, Loop.errands, List.singleton_append, List.map_cons,
      List.map_map] at distinct
    exact (List.nodup_cons.mp distinct).1
  have apart : ∀ errand ∈ errands, errand.gestureId ≠ gestureId := fun errand isErrand same =>
    fresh (same ▸ List.mem_map_of_mem isErrand)
  refine { rest with unspent := ?_, untold := ?_, revoked := fun _ writes => nomatch writes }
  · intro due isDue comment isComment
    obtain ⟨errand, isErrand, rfl⟩ := List.mem_map.mp isDue
    rcases List.mem_cons.mp isComment with rfl | before
    · refine Bool.eq_false_iff.mpr fun spent => ?_
      exact apart errand isErrand (eq_of_spends answers spent).1
    · exact rest.unspent _ isDue comment before
  · intro post act isErrand comment isComment
    rcases List.mem_cons.mp isComment with rfl | before
    · refine Bool.eq_false_iff.mpr fun told => ?_
      exact apart _ isErrand (eq_of_tells answers told).1
    · exact rest.untold post act isErrand comment before

/-! ### What is watched -/

variable {expiresAtUnix : String → Option Int}

theorem expiresWithin_of_expired {now window : Int} (positive : 0 ≤ window)
    (expired : postHasExpired expiresAtUnix content now = true) :
    expiresWithin expiresAtUnix content now window = true := by
  obtain ⟨expiresAt, isExpiry, hasPassed⟩ := (Option.any_eq_true _ _).mp expired
  obtain ⟨expires, isDate, past⟩ := (Option.any_eq_true _ _).mp hasPassed
  refine (Option.any_eq_true _ _).mpr ⟨expires, Option.bind_eq_some_iff.mpr
    ⟨expiresAt, isExpiry, isDate⟩, ?_⟩
  have past : expires ≤ now := of_decide_eq_true past
  unfold minSeconds maxSeconds
  rw [decide_eq_true_eq]
  omega

theorem postHasExpired_mono {now later : Int} (passes : now ≤ later)
    (expired : postHasExpired expiresAtUnix content now = true) :
    postHasExpired expiresAtUnix content later = true := by
  obtain ⟨expiresAt, isExpiry, hasPassed⟩ := (Option.any_eq_true _ _).mp expired
  obtain ⟨expires, isDate, past⟩ := (Option.any_eq_true _ _).mp hasPassed
  refine (Option.any_eq_true _ _).mpr ⟨expiresAt, isExpiry,
    (Option.any_eq_true _ _).mpr ⟨expires, isDate, ?_⟩⟩
  exact decide_eq_true ((of_decide_eq_true past).trans passes)

theorem notRecordedWindow_nonneg (decision : Nat) : 0 ≤ notRecordedWindow decision := by
  unfold notRecordedWindow
  omega

variable {desk}

theorem Watched.next {loop next : Loop} {unheard : List Unheard}
    (watched : Watched desk gestures comments loop unheard)
    (same : ∀ gestureId, next.writesLine gestureId = loop.writesLine gestureId) :
    Watched desk gestures comments next unheard where
  held := watched.held
  timely silent isSilent := by rw [same]; exact watched.timely silent isSilent
  lined silent isSilent := by rw [same]; exact watched.lined silent isSilent

theorem Watched.about {loop next : Loop} {unheard later : List Unheard}
    (watched : Watched desk gestures comments loop unheard)
    (unlined : ¬ Lined comments gestureId)
    (quiet : ∀ other, other ≠ gestureId → loop.writesLine other = false)
    (only : ∀ other, other ≠ gestureId → next.writesLine other = false)
    (each : ∀ silent ∈ later, silent ∈ unheard ∧ silent.gestureId ≠ gestureId ∨
      silent.gestureId = gestureId ∧ Held gestures silent.post.id gestureId ∧
        (next.writesLine gestureId = true ↔ silent.Timely desk)) :
    Watched desk gestures comments next later where
  held silent isSilent := by
    rcases each silent isSilent with ⟨before, _⟩ | ⟨isGesture, held, _⟩
    · exact watched.held silent before
    · exact isGesture ▸ held
  timely silent isSilent inThread := by
    rcases each silent isSilent with ⟨before, apart⟩ | ⟨isGesture, _, exactly⟩
    · rw [only _ apart] at inThread
      exact watched.timely silent before (.inl (inThread.resolve_right Bool.false_ne_true))
    · rw [isGesture] at inThread
      exact exactly.mp (inThread.resolve_left unlined)
  lined silent isSilent timely := by
    rcases each silent isSilent with ⟨before, apart⟩ | ⟨isGesture, _, exactly⟩
    · have inThread := watched.lined silent before timely
      rw [quiet _ apart] at inThread
      exact .inl (inThread.resolve_right Bool.false_ne_true)
    · exact .inr (isGesture ▸ exactly.mpr timely)

theorem Watched.answered {unheard : List Unheard} (watched : Watched desk gestures comments
      (.writing (.comment postId gestureId content) errands) unheard) {answer : Event}
    (answers : answeredGesture answer = some gestureId) (isContent : answer.content = content) :
    Watched desk gestures (answer :: comments) (.working errands) unheard := by
  have inThread : ∀ other, Lined (answer :: comments) other ↔ Lined comments other ∨
      Loop.writesLine (.writing (.comment postId gestureId content) errands) other = true := by
    intro other
    rw [lined_cons_iff answers, isContent]
    simp [Loop.writesLine]
  refine ⟨watched.held, fun silent isSilent already => ?_, fun silent isSilent timely => ?_⟩
  · exact watched.timely silent isSilent
      ((inThread _).mp (already.resolve_right fun writes => nomatch writes))
  · exact .inl ((inThread _).mpr (watched.lined silent isSilent timely))

/-! ### What a tick gathers -/

variable {ids : List String}

theorem Recorded.read (recorded : Recorded gestures comments) (within : WithinLimit comments ids)
    (isRead : postId ∈ ids) (held : Held gestures postId gestureId) {comment : Event}
    (isComment : comment ∈ comments) (answers : answeredGesture comment = some gestureId) :
    comment ∈ ownCommentsOn comments ids := by
  obtain ⟨otherId, answered, heldThere, answersIt, stands⟩ := recorded.placed comment isComment
  obtain rfl : gestureId = answered := Option.some.inj (answers.symm.trans answersIt)
  obtain rfl := held.post_eq recorded.distinct heldThere
  refine mem_ownCommentsOn within isComment ?_
  rw [stands, List.contains_iff_mem]
  exact isRead

theorem Recorded.mem_spent_iff (recorded : Recorded gestures comments)
    (within : WithinLimit comments ids) (isRead : postId ∈ ids)
    (held : Held gestures postId gestureId) :
    gestureId ∈ (answeredGestures (ownCommentsOn comments ids)).1 ↔
      ∃ comment ∈ comments, spends gestureId comment = true := by
  rw [Clerk.mem_spent_iff]
  constructor
  · rintro ⟨comment, isRead, spent⟩
    exact ⟨comment, mem_of_mem_ownCommentsOn isRead, spent⟩
  · rintro ⟨comment, isComment, spent⟩
    have answers := spent
    rw [spends, Bool.and_eq_true, beq_iff_eq] at answers
    exact ⟨comment, recorded.read within isRead held isComment answers.1, spent⟩

theorem Recorded.mem_told_iff (recorded : Recorded gestures comments)
    (within : WithinLimit comments ids) (isRead : postId ∈ ids)
    (held : Held gestures postId gestureId) :
    gestureId ∈ (answeredGestures (ownCommentsOn comments ids)).2 ↔
      ∃ comment ∈ comments, tells gestureId comment = true := by
  rw [Clerk.mem_told_iff]
  constructor
  · rintro ⟨comment, isRead, told⟩
    exact ⟨comment, mem_of_mem_ownCommentsOn isRead, told⟩
  · rintro ⟨comment, isComment, told⟩
    have answers := told
    rw [tells, Bool.and_eq_true, beq_iff_eq] at answers
    exact ⟨comment, recorded.read within isRead held isComment answers.1, told⟩

section Gathering

variable {answers : List (List Event)}
  (served : ∀ answer ∈ answers, ∀ event ∈ answer, event ∈ gestures)

def Desk.gesturesOf (desk : Desk) (answers : List (List Event)) : List Event :=
  (queryEach desk.nostr answers).filter fun gesture => gesture.pubkey != desk.keys.pubkey

def Desk.decisions (desk : Desk) (answers : List (List Event)) (postId : String) :
    List Decision :=
  decisionsOn postId desk.ownerPubkey (desk.gesturesOf answers)

theorem nodup_decisions (postId : String) :
    ((desk.decisions answers postId).map Decision.gestureId).Nodup :=
  nodup_decisionsOn ((nodup_onceBy [] _).1.sublist (List.filter_sublist.map _))

include served in
theorem held_of_mem_decisions {postId : String} {decision : Decision}
    (isDecision : decision ∈ desk.decisions answers postId) :
    Held gestures postId decision.gestureId := by
  obtain ⟨event, isEvent, isTarget, isId⟩ := exists_event_of_mem_decisionsOn isDecision
  obtain ⟨isServed, _⟩ := of_mem_queryEach (List.mem_filter.mp isEvent).1
  obtain ⟨answer, isAnswer, inAnswer⟩ := List.mem_flatten.mp isServed
  exact ⟨event, served answer isAnswer event inAnswer, isId, isTarget⟩

variable (now : Int) (answered : List String × List String) (post : Post)

def Desk.unanswered (desk : Desk) (answers : List (List Event)) (spent : List String)
    (postId : String) : List Decision :=
  (desk.decisions answers postId).filter fun decision => !spent.contains decision.gestureId

theorem decided_eq (spent : List String) (postId : String) :
    decided desk.nostr desk.keys.pubkey desk.ownerPubkey postId spent answers =
      triage (desk.unanswered answers spent postId) := rfl

theorem of_mem_errandsOn {errand : Errand}
    (isErrand : errand ∈ desk.errandsOn now answered answers post) :
    errand.postId = post.id ∧
      (∃ decision ∈ desk.decisions answers post.id,
        decision.gestureId = errand.gestureId ∧ decision.gestureId ∉ answered.1) ∧
      (∀ carried act told, errand = .carry carried act told →
        told = answered.2.contains act.gestureId) ∧
      ∀ late act, errand = .tooLate late act →
        postHasExpired desk.expiresAtUnix late.content now = true := by
  have isOpen : ∀ decision ∈ desk.unanswered answers answered.1 post.id,
      decision ∈ desk.decisions answers post.id ∧ decision.gestureId ∉ answered.1 := by
    intro decision isUnanswered
    obtain ⟨isDecision, unspent⟩ := List.mem_filter.mp isUnanswered
    exact ⟨isDecision, by simpa using unspent⟩
  unfold Desk.errandsOn at isErrand
  rw [decided_eq] at isErrand
  rcases List.mem_append.mp isErrand with isStranger | isAct
  · obtain ⟨stranger, isOne, rfl⟩ := List.mem_map.mp isStranger
    rw [strangers_triage] at isOne
    obtain ⟨isDecision, unspent⟩ := isOpen _ (List.mem_filter.mp isOne).1
    exact ⟨rfl, ⟨stranger, isDecision, rfl, unspent⟩, fun _ _ _ isCarry => (nomatch isCarry),
      fun _ _ isLate => (nomatch isLate)⟩
  · obtain ⟨act, isFound, does⟩ := List.mem_filterMap.mp isAct
    rw [act_triage, Option.mem_toList] at isFound
    obtain ⟨isDecision, unspent⟩ := isOpen _ (List.mem_of_find?_eq_some isFound)
    split at does
    · cases does
      refine ⟨rfl, ⟨act, isDecision, rfl, unspent⟩, ?_, fun _ _ isLate => (nomatch isLate)⟩
      rintro _ _ _ ⟨⟩
      rfl
    · rename_i expired
      split at does
      · cases does
      · cases does
        refine ⟨rfl, ⟨act, isDecision, rfl, unspent⟩, fun _ _ _ isCarry => (nomatch isCarry), ?_⟩
        rintro _ _ ⟨⟩
        exact Bool.of_not_eq_false expired

theorem nodup_errandsOn :
    ((desk.errandsOn now answered answers post).map Errand.gestureId).Nodup := by
  have kept : (desk.unanswered answers answered.1 post.id).Sublist
      (desk.decisions answers post.id) := List.filter_sublist
  have distinct := nodup_triage ((nodup_decisions post.id).sublist (kept.map _))
  refine distinct.sublist ?_
  unfold Desk.errandsOn
  rw [decided_eq, List.map_append, List.map_append]
  refine List.Sublist.append ?_ ?_
  · rw [List.map_map]
    exact List.Sublist.refl _
  · cases (triage (desk.unanswered answers answered.1 post.id)).act with
    | none => exact List.Sublist.slnil
    | some act =>
      rw [Option.toList_some]
      by_cases isOpen : postHasExpired desk.expiresAtUnix post.content now = false
      · simp [isOpen, Errand.gestureId]
      · by_cases refuses : act.gesture = .refuse
        · simp [isOpen, refuses]
        · simp [isOpen, refuses, Errand.gestureId]

variable {posts : List Post}

theorem mem_partitioned :
    post ∈ desk.partitioned now posts ↔ post ∈ posts := by
  unfold Desk.partitioned
  rw [List.mem_append, List.mem_filter, List.mem_filter]
  cases postHasExpired desk.expiresAtUnix post.content now <;> simp

theorem nodup_partitioned (distinct : (posts.map Post.id).Nodup) :
    ((desk.partitioned now posts).map Post.id).Nodup := by
  have same := List.filter_append_perm
    (fun post : Post => !postHasExpired desk.expiresAtUnix post.content now) posts
  simp only [Bool.not_not] at same
  exact (same.map Post.id).nodup_iff.mpr distinct

include served in
theorem Recorded.pending {began : Int} (recorded : Recorded gestures comments)
    (passed : began ≤ now) (distinct : (posts.map Post.id).Nodup)
    (within : WithinLimit comments ((desk.partitioned began posts).map Post.id)) :
    Pending desk now gestures comments (.working (desk.errands began posts answers comments)) := by
  have isPost : ∀ errand ∈ desk.errands began posts answers comments,
      ∃ post ∈ desk.partitioned began posts, errand ∈ desk.errandsOn began
        (answeredGestures (ownCommentsOn comments ((desk.partitioned began posts).map Post.id)))
        answers post := fun errand isErrand => List.mem_flatMap.mp isErrand
  have about : ∀ errand ∈ desk.errands began posts answers comments,
      Held gestures errand.postId errand.gestureId ∧
        errand.postId ∈ (desk.partitioned began posts).map Post.id := by
    intro errand isErrand
    obtain ⟨post, isRead, onPost⟩ := isPost errand isErrand
    obtain ⟨samePost, ⟨decision, isDecision, isGesture, _⟩, _⟩ := of_mem_errandsOn _ _ _ onPost
    rw [samePost, ← isGesture]
    exact ⟨held_of_mem_decisions served isDecision, List.mem_map_of_mem isRead⟩
  refine ⟨?_, ?_, ?_, ?_, ?_, fun _ writes => nomatch writes⟩
  · have gestureIds : (Loop.due (.working (desk.errands began posts answers comments))).map
        Prod.snd = (desk.errands began posts answers comments).map Errand.gestureId :=
      List.map_map
    rw [gestureIds, Desk.errands, List.map_flatMap, List.nodup_flatMap]
    refine ⟨fun post _ => nodup_errandsOn _ _ post, ?_⟩
    have apart : ((desk.partitioned began posts).map Post.id).Nodup :=
      nodup_partitioned began distinct
    refine (List.pairwise_map.mp apart).imp ?_
    intro first second isApart gestureId onFirst onSecond
    obtain ⟨one, isOne, rfl⟩ := List.mem_map.mp onFirst
    obtain ⟨other, isOther, same⟩ := List.mem_map.mp onSecond
    obtain ⟨_, ⟨decision, isDecision, isGesture, _⟩, _⟩ := of_mem_errandsOn _ _ _ isOne
    obtain ⟨_, ⟨otherDecision, isOtherDecision, isOtherGesture, _⟩, _⟩ :=
      of_mem_errandsOn _ _ _ isOther
    have heldFirst := held_of_mem_decisions served isDecision
    have heldSecond := held_of_mem_decisions served isOtherDecision
    rw [isGesture] at heldFirst
    rw [isOtherGesture, same] at heldSecond
    exact isApart (heldFirst.post_eq recorded.distinct heldSecond)
  · intro due isDue
    obtain ⟨errand, isErrand, rfl⟩ := List.mem_map.mp isDue
    exact (about errand isErrand).1
  · intro due isDue comment isComment
    obtain ⟨errand, isErrand, rfl⟩ := List.mem_map.mp isDue
    obtain ⟨post, _, onPost⟩ := isPost errand isErrand
    obtain ⟨_, ⟨decision, _, isGesture, unspent⟩, _⟩ := of_mem_errandsOn _ _ _ onPost
    obtain ⟨held, isRead⟩ := about errand isErrand
    refine Bool.eq_false_iff.mpr fun spent => unspent ?_
    rw [isGesture]
    exact (recorded.mem_spent_iff within isRead held).mpr ⟨comment, isComment, spent⟩
  · intro post act isErrand comment isComment
    obtain ⟨_, _, onPost⟩ := isPost _ isErrand
    obtain ⟨_, _, isTold, _⟩ := of_mem_errandsOn _ _ _ onPost
    obtain ⟨held, isRead⟩ := about _ isErrand
    refine Bool.eq_false_iff.mpr fun told => ?_
    have reads := (recorded.mem_told_iff within isRead held).mpr ⟨comment, isComment, told⟩
    exact Bool.false_ne_true ((isTold _ _ _ rfl).trans (List.contains_iff_mem.mpr reads))
  · intro post act isErrand
    obtain ⟨_, _, onPost⟩ := isPost _ isErrand
    obtain ⟨_, _, _, isLate⟩ := of_mem_errandsOn _ _ _ onPost
    exact postHasExpired_mono passed (isLate _ _ rfl)

end Gathering

/-! ### One step -/

variable {world : World}

theorem mem_others {gestureId : String} {silent : Unheard}
    (member : silent ∈ world.others gestureId) :
    silent ∈ world.unheard ∧ silent.gestureId ≠ gestureId := by
  obtain ⟨isSilent, apart⟩ := List.mem_filter.mp member
  exact ⟨isSilent, bne_iff_ne.mp apart⟩

variable {next : Loop}

theorem Steady.goOn (steady : Steady desk world) (fewer : next.due.Sublist world.loop.due)
    (among : next.errands ⊆ world.loop.errands) (reads : next.Reads world.gestures world.now)
    (revoked : ∀ gestureId, next.writesRevoked gestureId = true →
      ∀ comment ∈ world.comments, tells gestureId comment = false)
    (same : ∀ gestureId, next.writesLine gestureId = world.loop.writesLine gestureId) :
    Steady desk { world with loop := next } where
  recorded := steady.recorded
  posts := steady.posts
  reads := reads
  pending := steady.pending.next desk fewer among revoked
  watched := steady.watched.next same
  made := steady.made

variable {later : List Unheard}

theorem Steady.about (steady : Steady desk world) (fewer : next.due.Sublist world.loop.due)
    (among : next.errands ⊆ world.loop.errands) (reads : next.Reads world.gestures world.now)
    (revoked : ∀ other, next.writesRevoked other = true →
      ∀ comment ∈ world.comments, tells other comment = false)
    (unlined : ¬ Lined world.comments gestureId)
    (quiet : ∀ other, other ≠ gestureId → world.loop.writesLine other = false)
    (only : ∀ other, other ≠ gestureId → next.writesLine other = false)
    (each : ∀ silent ∈ later, silent ∈ world.unheard ∧ silent.gestureId ≠ gestureId ∨
      silent.gestureId = gestureId ∧ Held world.gestures silent.post.id gestureId ∧
        (next.writesLine gestureId = true ↔ silent.Timely desk)) :
    Steady desk { world with loop := next, unheard := later } where
  recorded := steady.recorded
  posts := steady.posts
  reads := reads
  pending := steady.pending.next desk fewer among revoked
  watched := steady.watched.about unlined quiet only each
  made := steady.made

structure Loop.Faces (loop : Loop) (errand : Errand) (errands : List Errand) : Prop where
  due : loop.due = errand.about :: errands.map Errand.about
  isErrands : loop.errands = errand :: errands
  quiet : ∀ other, loop.writesLine other = false

section Facing

variable {world : World} (steady : Steady desk world) {errand : Errand} {errands : List Errand}
  (faces : world.loop.Faces errand errands)

include steady faces

theorem Steady.unlined : ¬ Lined world.comments errand.gestureId := by
  have isDue : errand.about ∈ world.loop.due := faces.due ▸ List.mem_cons_self
  exact steady.pending.not_lined desk isDue

theorem Steady.held : Held world.gestures errand.postId errand.gestureId :=
  steady.pending.held errand.about (faces.due ▸ List.mem_cons_self)

theorem Steady.leaves (fewer : next.due.Sublist (errand.about :: errands.map Errand.about))
    (among : next.errands ⊆ errand :: errands) (reads : next.Reads world.gestures world.now)
    (untold : ∀ other, next.writesRevoked other = false)
    (quiet : ∀ other, next.writesLine other = false) : Steady desk { world with loop := next } :=
  steady.goOn (faces.due ▸ fewer) (faces.isErrands ▸ among) reads
    (fun other writes => by rw [untold] at writes; cases writes)
    fun other => (quiet other).trans (faces.quiet other).symm

theorem Steady.leavesUnheard (due : next.due = errands.map Errand.about)
    (isErrands : next.errands = errands) (reads : next.Reads world.gestures world.now)
    (untold : ∀ other, next.writesRevoked other = false)
    (quiet : ∀ other, next.writesLine other = false)
    (each : ∀ silent ∈ later, silent ∈ world.unheard ∧ silent.gestureId ≠ errand.gestureId ∨
      silent.gestureId = errand.gestureId ∧
        Held world.gestures silent.post.id errand.gestureId ∧ ¬ silent.Timely desk) :
    Steady desk { world with loop := next, unheard := later } := by
  refine steady.about (by rw [due, faces.due]; exact List.sublist_cons_self _ _)
    (by rw [isErrands, faces.isErrands]; exact List.subset_cons_self _ _) reads
    (fun other writes => by rw [untold] at writes; cases writes) (steady.unlined faces)
    (fun other _ => faces.quiet other) (fun other _ => quiet other) ?_
  refine fun silent isSilent => (each silent isSilent).imp_right ?_
  rintro ⟨isGesture, held, late⟩
  exact ⟨isGesture, held, iff_of_false (Bool.eq_false_iff.mp (quiet _)) late⟩

theorem Steady.writes (noLine : isLine content = false) (untold : isRevoked content = true →
      ∀ comment ∈ world.comments, tells errand.gestureId comment = false) :
    Steady desk { world with
      loop := .writing (.comment errand.postId errand.gestureId content) errands } := by
  refine steady.goOn (faces.due ▸ List.Sublist.refl _)
    (faces.isErrands ▸ List.subset_cons_self _ _) trivial ?_ ?_
  · intro other writes
    simp only [Loop.writesRevoked, Bool.and_eq_true, beq_iff_eq] at writes
    rw [← writes.1]
    exact untold writes.2
  · intro other
    rw [faces.quiet]
    simp [Loop.writesLine, noLine]

theorem Steady.writesUnheard (spent : isRevoked content = false)
    (each : ∀ silent ∈ later, silent ∈ world.unheard ∧ silent.gestureId ≠ errand.gestureId ∨
      silent.gestureId = errand.gestureId ∧
        Held world.gestures silent.post.id errand.gestureId ∧
        isLine content = true ∧ silent.Timely desk) :
    Steady desk { world with
      loop := .writing (.comment errand.postId errand.gestureId content) errands
      unheard := later } := by
  refine steady.about (faces.due ▸ List.Sublist.refl _)
    (faces.isErrands ▸ List.subset_cons_self _ _) trivial ?_ (steady.unlined faces)
    (fun other _ => faces.quiet other) ?_ ?_
  · intro other writes
    simp [Loop.writesRevoked, spent] at writes
  · intro other apart
    simp [Loop.writesLine, Ne.symm apart]
  · refine fun silent isSilent => (each silent isSilent).imp_right ?_
    rintro ⟨isGesture, held, line, timely⟩
    refine ⟨isGesture, held, iff_of_true ?_ timely⟩
    simp [Loop.writesLine, line]

end Facing

theorem isLine_threadNotTheOwner (lang : Lang) : isLine (threadNotTheOwner lang) = false := by
  cases lang <;> decide

theorem isLine_threadRevoked (lang : Lang) : isLine (threadRevoked lang) = false := by
  cases lang <;> decide

theorem isLine_threadExpired (lang : Lang) : isLine (threadExpired lang) = true := by
  cases lang <;> decide

theorem isLine_threadNotRecorded (lang : Lang) : isLine (threadNotRecorded lang) = true := by
  cases lang <;> decide

theorem Steady.turn (steady : Steady desk world) {errand : Errand}
    (isLoop : world.loop = .working (errand :: errands)) :
    Steady desk (world.turn errands errand) := by
  have faces : world.loop.Faces errand errands := isLoop ▸ ⟨rfl, rfl, fun _ => rfl⟩
  have isErrand : errand ∈ world.loop.errands := faces.isErrands ▸ List.mem_cons_self
  have goesOn : Steady desk { world with loop := .working errands } :=
    steady.leaves faces (List.sublist_cons_self _ _) (List.subset_cons_self _ _) trivial
      (fun _ => rfl) fun _ => rfl
  cases errand with
  | stranger postId gestureId =>
    refine steady.writes faces (isLine_threadNotTheOwner _) fun revoked => ?_
    rw [isRevoked_threadNotTheOwner] at revoked
    cases revoked
  | carry post act told =>
    dsimp only [World.turn]
    split
    · exact goesOn
    · split
      · exact steady.leaves faces (List.sublist_cons_self _ _) (List.subset_cons_self _ _) trivial
          (fun _ => rfl) fun _ => rfl
      · split
        · exact goesOn
        · exact steady.writes faces (isLine_threadRevoked _) fun _ =>
            steady.pending.untold post act isErrand
        · rename_i told _ _ isAlive
          have asks : Steady desk { world with loop := .asking post act told errands } :=
            steady.leaves faces (List.Sublist.refl _) (List.Subset.refl _) trivial
              (fun _ => rfl) fun _ => rfl
          refine { asks with made := ?_ }
          intro call isCall
          rcases List.mem_cons.mp isCall with rfl | before
          · exact ⟨isAlive, steady.pending.unspent _ (faces.due ▸ List.mem_cons_self)⟩
          · exact steady.made call before
  | tooLate post act =>
    refine steady.writesUnheard faces (isRevoked_threadExpired _) ?_
    intro silent isSilent
    obtain ⟨before, isBefore, rfl⟩ := List.mem_map.mp isSilent
    by_cases same : before.gestureId = act.gestureId
    · rw [if_pos same]
      exact .inr ⟨rfl, steady.held faces, isLine_threadExpired _,
        expiresWithin_of_expired (notRecordedWindow_nonneg _)
          (steady.pending.late post act isErrand), rfl⟩
    · rw [if_neg same]
      exact .inl ⟨isBefore, same⟩

theorem Steady.defer (steady : Steady desk world) {post : Post} {act : Decision} {told : Bool}
    (isLoop : world.loop = .asking post act told errands) :
    Steady desk (world.defer desk post act errands) := by
  have faces : world.loop.Faces (.carry post act told) errands :=
    isLoop ▸ ⟨rfl, rfl, fun _ => rfl⟩
  have each : ∀ silent ∈ ⟨act.gestureId, post, world.now, false⟩ :: world.others act.gestureId,
      silent ∈ world.unheard ∧ silent.gestureId ≠ act.gestureId ∨
        silent = ⟨act.gestureId, post, world.now, false⟩ := fun silent isSilent =>
    (List.mem_cons.mp isSilent).elim .inr fun isOther => .inl (mem_others isOther)
  dsimp only [World.defer]
  split
  · rename_i expires
    refine steady.writesUnheard faces (isRevoked_threadNotRecorded _) fun silent isSilent =>
      (each silent isSilent).imp_right ?_
    rintro rfl
    exact ⟨rfl, steady.held faces, isLine_threadNotRecorded _, expires, rfl⟩
  · rename_i early
    refine steady.leavesUnheard faces rfl rfl trivial (fun _ => rfl) (fun _ => rfl)
      fun silent isSilent => (each silent isSilent).imp_right ?_
    rintro rfl
    exact ⟨rfl, steady.held faces, fun timely => early timely.1⟩

theorem Steady.hear (steady : Steady desk world) {post : Post} {act : Decision} {told : Bool}
    (isLoop : world.loop = .asking post act told errands) (answer : GatewayAnswer) :
    Steady desk (world.hear desk post act told errands answer) := by
  have faces : world.loop.Faces (.carry post act told) errands :=
    isLoop ▸ ⟨rfl, rfl, fun _ => rfl⟩
  have sent : Steady desk { world with
      unheard := world.others act.gestureId, loop := .writing (.delete post.id) errands } :=
    steady.leavesUnheard faces rfl rfl trivial (fun _ => rfl) (fun _ => rfl)
      fun silent isSilent => .inl (mem_others isSilent)
  cases answer with
  | answered outcome =>
    cases outcome with
    | approved already => exact sent
    | refused code =>
      dsimp only [World.hear]
      split
      · exact sent
      · split
        · exact steady.defer isLoop
        · exact steady.writesUnheard faces (isRevoked_threadRefused _ _ _)
            fun silent isSilent => .inl (mem_others isSilent)
  | unauthenticated =>
    cases told with
    | true =>
      have goesOn : Steady desk { world with loop := .working errands } :=
        steady.leaves faces (List.sublist_cons_self _ _) (List.subset_cons_self _ _) trivial
          (fun _ => rfl) fun _ => rfl
      exact { goesOn with }
    | false =>
      have tells := steady.writes faces (isLine_threadRevoked world.lang) fun _ =>
        steady.pending.untold post act (faces.isErrands ▸ List.mem_cons_self)
      exact { tells with }
  | failed => exact steady.defer isLoop

theorem Steady.write (steady : Steady desk world) {write : Write}
    (isLoop : world.loop = .writing write errands) (takes : Bool) :
    Steady desk (world.write desk errands takes write) := by
  cases write with
  | delete postId =>
    have isRest : world.loop.due = errands.map Errand.about := by
      rw [isLoop]
      rfl
    have isErrands : world.loop.errands = errands := by
      rw [isLoop]
      rfl
    have goesOn : Steady desk { world with loop := .working errands } :=
      steady.goOn (isRest ▸ List.Sublist.refl _) (isErrands ▸ List.Subset.refl _) trivial
        (fun _ writes => nomatch writes) fun _ => by rw [isLoop]; rfl
    refine { goesOn with posts := ?_ }
    dsimp only [World.write]
    split
    · exact steady.posts.sublist (List.filter_sublist.map _)
    · exact steady.posts
  | comment postId gestureId content =>
    have isDue : world.loop.due = (postId, gestureId) :: errands.map Errand.about := by
      rw [isLoop]
      rfl
    have isErrands : world.loop.errands = errands := by
      rw [isLoop]
      rfl
    have inHand : (postId, gestureId) ∈ world.loop.due := isDue ▸ List.mem_cons_self
    have held : Held world.gestures postId gestureId := steady.pending.held _ inHand
    cases takes with
    | true =>
      have answers := answeredGesture_comment desk.nostr desk.keys world.now.toNat
        desk.channelApprovals postId gestureId content (steady.recorded.ne_empty held)
      have pending := steady.pending
      have watched := steady.watched
      rw [isLoop] at pending watched
      refine ⟨?_, steady.posts, trivial, pending.answered desk answers,
        watched.answered answers rfl, steady.made⟩
      refine steady.recorded.answered answers held
        (namesOne_comment _ _ _ _ _ _ _) (pending.unspent _ List.mem_cons_self) fun revoked => ?_
      have revoked : isRevoked content = true := revoked
      refine pending.revoked gestureId ?_
      simp [Loop.writesRevoked, revoked]
    | false =>
      refine steady.about (isDue ▸ List.sublist_cons_self _ _) (isErrands ▸ List.Subset.refl _)
        trivial (fun _ writes => nomatch writes) (steady.pending.not_lined _ inHand) ?_
        (fun _ _ => rfl) ?_
      · intro other apart
        rw [isLoop]
        simp [Loop.writesLine, Ne.symm apart]
      · intro silent isSilent
        obtain ⟨before, isBefore, rfl⟩ := List.mem_map.mp isSilent
        by_cases same : before.gestureId = gestureId
        · rw [if_pos same]
          exact .inr ⟨same, same ▸ steady.watched.held before isBefore,
            iff_of_false Bool.false_ne_true fun timely => nomatch timely.2⟩
        · rw [if_neg same]
          exact .inl ⟨isBefore, same⟩

theorem Steady.idles (steady : Steady desk world)
    (quiet : ∀ gestureId, world.loop.writesLine gestureId = false)
    (reads : next.Reads world.gestures world.now) (nothing : next.due = [])
    (noErrand : next.errands = []) (untold : ∀ gestureId, next.writesRevoked gestureId = false)
    (silent : ∀ gestureId, next.writesLine gestureId = false) :
    Steady desk { world with loop := next } where
  recorded := steady.recorded
  posts := steady.posts
  reads := reads
  pending := Pending.idle desk nothing noErrand untold
  watched := steady.watched.next fun gestureId => (silent gestureId).trans (quiet gestureId).symm
  made := steady.made

theorem Steady.halt (steady : Steady desk world) (takes : Bool) :
    Steady desk (world.halt desk takes) ∧
      ∀ gestureId, (world.halt desk takes).loop.writesLine gestureId = false := by
  unfold World.halt
  split
  · rename_i write errands isLoop
    refine ⟨steady.write isLoop takes, ?_⟩
    cases write <;> cases takes <;> exact fun _ => rfl
  · rename_i post act told errands isLoop
    have faces : world.loop.Faces (.carry post act told) errands :=
      isLoop ▸ ⟨rfl, rfl, fun _ => rfl⟩
    refine ⟨?_, faces.quiet⟩
    refine steady.about (List.Sublist.refl world.loop.due) (List.Subset.refl _) steady.reads
      steady.pending.revoked (steady.unlined faces) (fun other _ => faces.quiet other)
      (fun other _ => faces.quiet other) ?_
    intro silent isSilent
    rcases List.mem_cons.mp isSilent with rfl | isOther
    · refine .inr ⟨rfl, steady.held faces, iff_of_false ?_ fun timely => nomatch timely.2⟩
      exact Bool.eq_false_iff.mp (faces.quiet _)
    · exact .inl (mem_others isOther)
  · rename_i notWriting _
    refine ⟨steady, fun gestureId => ?_⟩
    cases isLoop : world.loop with
    | writing write errands => exact absurd isLoop (notWriting write errands)
    | _ => rfl

/-- The ids of the posts on which a step reads the clerk's answers. -/
def World.queriedBy (desk : Desk) (world : World) (next : Happening) : Option (List String) :=
  match world.loop, next with
  | .gesturesRead began posts _, .readsComments _ =>
    some ((desk.partitioned began posts).map Post.id)
  | _, _ => none

/-- A tick that reads its answers can read them all. -/
def Recalls (desk : Desk) (world : World) (next : Happening) : Prop :=
  ∀ ids ∈ world.queriedBy desk next, WithinLimit world.comments ids

instance (desk : Desk) (world : World) (next : Happening) : Decidable (Recalls desk world next) :=
  inferInstanceAs (Decidable (∀ _ ∈ _, _))

theorem Loop.Reads.mono {more : List Event} {now later : Int} (passes : now ≤ later)
    (grows : gestures ⊆ more) (reads : loop.Reads gestures now) : loop.Reads more later := by
  cases loop with
  | woken began => exact reads.trans passes
  | postsRead began posts => exact ⟨reads.1.trans passes, reads.2⟩
  | gesturesRead began posts answers =>
    exact ⟨reads.1.trans passes, reads.2.1, fun answer isAnswer event isEvent =>
      grows (reads.2.2 answer isAnswer event isEvent)⟩
  | _ => trivial

theorem Steady.read (steady : Steady desk world) {next : Happening}
    (recalls : Recalls desk world next) : Steady desk (world.read desk next) := by
  unfold World.read
  split
  · rename_i began isLoop
    have quiet : ∀ gestureId, world.loop.writesLine gestureId = false := isLoop ▸ fun _ => rfl
    have reads := steady.reads
    rw [isLoop] at reads
    split
    · exact steady.idles quiet trivial rfl rfl (fun _ => rfl) fun _ => rfl
    · exact steady.idles quiet
        ⟨reads, steady.posts.sublist ((List.take_sublist _ _).map _)⟩ rfl rfl (fun _ => rfl)
        fun _ => rfl
  · rename_i isLoop
    exact steady.idles (isLoop ▸ fun _ => rfl) trivial rfl rfl (fun _ => rfl) fun _ => rfl
  · rename_i began posts answers isLoop
    have quiet : ∀ gestureId, world.loop.writesLine gestureId = false := isLoop ▸ fun _ => rfl
    have reads := steady.reads
    rw [isLoop] at reads
    dsimp only
    split
    · exact steady.idles quiet trivial rfl rfl (fun _ => rfl) fun _ => rfl
    · refine steady.idles quiet ⟨reads.1, reads.2, ?_⟩ rfl rfl (fun _ => rfl) fun _ => rfl
      intro answer isAnswer event isEvent
      obtain ⟨served, _, rfl⟩ := List.mem_map.mp isAnswer
      exact of_decide_eq_true (List.mem_filter.mp isEvent).2
  · rename_i isLoop
    exact steady.idles (isLoop ▸ fun _ => rfl) trivial rfl rfl (fun _ => rfl) fun _ => rfl
  · rename_i began posts answers isLoop
    have reads := steady.reads
    rw [isLoop] at reads
    have isQueried : world.queriedBy desk (.readsComments true) =
        some ((desk.partitioned began posts).map Post.id) := by
      unfold World.queriedBy
      rw [isLoop]
    refine ⟨steady.recorded, steady.posts, trivial, ?_, steady.watched.next ?_, steady.made⟩
    · exact steady.recorded.pending reads.2.2 _ reads.1 reads.2.1 (recalls _ isQueried)
    · rw [isLoop]
      exact fun _ => rfl
  · rename_i isLoop
    exact steady.idles (isLoop ▸ fun _ => rfl) trivial rfl rfl (fun _ => rfl) fun _ => rfl
  · exact steady

theorem Steady.step (steady : Steady desk world) (next : Happening)
    (recalls : Recalls desk world next) : Steady desk (world.step desk next) := by
  cases next with
  | passes seconds =>
    have later : world.now ≤ world.now + seconds := by omega
    refine ⟨steady.recorded, steady.posts, steady.reads.mono later (List.Subset.refl _), ?_,
      steady.watched, steady.made⟩
    exact { steady.pending with
      late := fun post act isErrand =>
        postHasExpired_mono later (steady.pending.late post act isErrand) }
  | posted post =>
    dsimp only [World.step]
    split
    · exact steady
    · rename_i fresh
      refine { steady with posts := List.nodup_cons.mpr ⟨fun isPosted => fresh ?_, steady.posts⟩ }
      obtain ⟨standing, isStanding, same⟩ := List.mem_map.mp isPosted
      exact List.any_eq_true.mpr ⟨standing, isStanding, beq_iff_eq.mpr same⟩
  | arrives event =>
    dsimp only [World.step]
    split
    · exact steady
    · rename_i fresh
      obtain ⟨named, unknown⟩ := not_or.mp fresh
      have grows : world.gestures ⊆ event :: world.gestures := List.subset_cons_self _ _
      refine ⟨⟨List.nodup_cons.mpr ⟨unknown, steady.recorded.distinct⟩, ?_, ?_,
          steady.recorded.once, steady.recorded.toldOnce⟩,
        steady.posts, steady.reads.mono (Int.le_refl _) grows,
        { steady.pending with
          held := fun due isDue => (steady.pending.held due isDue).mono grows },
        { steady.watched with
          held := fun silent isSilent => (steady.watched.held silent isSilent).mono grows },
        steady.made⟩
      · intro other isOther
        rcases List.mem_cons.mp isOther with rfl | before
        · exact named
        · exact steady.recorded.named other before
      · intro comment isComment
        obtain ⟨postId, gestureId, held, answers, stands⟩ :=
          steady.recorded.placed comment isComment
        exact ⟨postId, gestureId, held.mono grows, answers, stands⟩
  | wakes =>
    dsimp only [World.step]
    split
    · rename_i isLoop
      exact steady.idles (isLoop ▸ fun _ => rfl) (Int.le_refl _) rfl rfl (fun _ => rfl) fun _ => rfl
    · exact steady
  | readsPosts serves => exact steady.read recalls
  | readsGestures answers => exact steady.read recalls
  | readsComments serves => exact steady.read recalls
  | turns =>
    dsimp only [World.step]
    split
    · rename_i isLoop
      exact steady.idles (isLoop ▸ fun _ => rfl) trivial rfl rfl (fun _ => rfl) fun _ => rfl
    · rename_i errand errands isLoop
      exact steady.turn isLoop
    · exact steady
  | gatewayAnswers answer =>
    dsimp only [World.step]
    split
    · rename_i isLoop
      exact steady.hear isLoop answer
    · exact steady
  | relayAnswers takes =>
    dsimp only [World.step]
    split
    · rename_i isLoop
      exact steady.write isLoop takes
    · exact steady
  | refreshes answer =>
    dsimp only [World.step]
    split
    · rename_i isLoop
      have quiet : ∀ gestureId, world.loop.writesLine gestureId = false := by
        rcases isLoop with isLoop | isLoop <;> exact isLoop ▸ fun _ => rfl
      have idles : Steady desk { world with loop := .resting } :=
        steady.idles quiet trivial rfl rfl (fun _ => rfl) fun _ => rfl
      exact { idles with }
    · exact steady
  | dies => exact { steady with }
  | sweepWakes =>
    dsimp only [World.step]
    split
    · exact { steady with }
    · exact steady
  | sweepReads serves =>
    dsimp only [World.step]
    split
    · exact { steady with }
    · exact steady
  | sweepDeletes takes =>
    dsimp only [World.step]
    split
    · refine { steady with posts := ?_ }
      dsimp only
      split
      · exact steady.posts.sublist (List.filter_sublist.map _)
      · exact steady.posts
    · exact steady
  | restarted lang takes =>
    obtain ⟨halted, quiet⟩ := steady.halt takes
    have idles : Steady desk { world.halt desk takes with loop := .starting } :=
      halted.idles quiet trivial rfl rfl (fun _ => rfl) fun _ => rfl
    exact { idles with }

end Runs

end Twalk.Clerk
