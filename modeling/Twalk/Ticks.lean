/-
This file models the two loops of the clerk that end a post, `decisions_once` and
`sweep_once` of `clerk/src/consumers.rs`. A tick of the decisions loop reads its posts, the
gestures on them and its own answers, and then turns to one gesture after the other: it
answers a stranger, asks the Companion Gateway for the owner, and writes to the thread or
deletes the post by what it is answered. The sweep deletes the posts that have expired.
The two share nothing but what the relay holds, and either may move between any two calls
of the other.
-/

import Twalk.Thread

namespace Twalk.Clerk

/-! ### The time a post has left -/

/-- The seconds a request to the Gateway may take. -/
def requestTimeout : Nat := 10

def notRecordedWindow (decision : Nat) : Int := decision + requestTimeout

def minSeconds : Int := -9223372036854775808

section Expiry

variable (expiresAtUnix : String → Option Int)

def expiryOf (content : String) : Option String := (parse content).bind Reference.expiresAt

def postHasExpired (content : String) (now : Int) : Bool :=
  (expiryOf content).any fun expiresAt => hasExpired expiresAtUnix expiresAt now

def expiresWithin (content : String) (now window : Int) : Bool :=
  ((expiryOf content).bind expiresAtUnix).any fun expires =>
    decide (max minSeconds (min (expires - now) maxSeconds) ≤ window)

end Expiry

/-! ### What the Gateway answers -/

/-- What the clerk knows of its session on the Gateway. -/
inductive Session where
  | alive
  | dead
deriving DecidableEq, Repr

inductive Outcome where
  | approved (already : Bool)
  | refused (code : String)
deriving DecidableEq, Repr

inductive GatewayAnswer where
  | answered (outcome : Outcome)
  | unauthenticated
  | failed
deriving DecidableEq, Repr

inductive Refreshed where
  | issued
  | unauthenticated
  | failed
deriving DecidableEq, Repr

/-! ### The decisions loop -/

/-- One of the clerk's own posts. -/
structure Post where
  id : String
  content : String
  createdAt : Int
deriving DecidableEq, Repr

/-- What a tick has still to turn to. -/
inductive Errand where
  | stranger (postId gestureId : String)
  | carry (post : Post) (act : Decision) (told : Bool)
  | tooLate (post : Post) (act : Decision)
deriving DecidableEq, Repr

/-- What is being written to the relay. -/
inductive Write where
  | comment (postId gestureId content : String)
  | delete (postId : String)
deriving DecidableEq, Repr

inductive Loop where
  | starting
  | resting
  | woken (now : Int)
  | postsRead (now : Int) (posts : List Post)
  | gesturesRead (now : Int) (posts : List Post) (answers : List (List Event))
  | working (errands : List Errand)
  | asking (post : Post) (act : Decision) (told : Bool) (errands : List Errand)
  | writing (write : Write) (errands : List Errand)
deriving DecidableEq, Repr

/-- Why the sweep deletes a post. -/
inductive Deleted where
  | expired
  | undatable
deriving DecidableEq, Repr

inductive Sweep where
  | woken (now : Int)
  | deleting (due : List (Post × Deleted))
deriving DecidableEq, Repr

/-- What the clerk is configured with, and the libraries it calls. -/
structure Desk where
  nostr : Nostr
  keys : Keys
  ownerPubkey : String
  channelApprovals : String
  decision : Nat
  expiresAtUnix : String → Option Int
  catalogue : Catalogue

structure Call where
  gestureId : String
  session : Session
  comments : List Event
deriving DecidableEq, Repr

/-- A gesture for which the Gateway gave no usable answer: when the loop last turned to it, and
whether what the loop then wrote was refused or not written at all. -/
structure Unheard where
  gestureId : String
  post : Post
  turned : Int
  refused : Bool
deriving DecidableEq, Repr

/-- The relay's posts, gestures and answers, newest first; the clerk's session and its two loops;
and, for the record, the requests that were made, the gestures the Gateway gave no usable answer
for and the posts that the sweep deleted as expired. -/
structure World where
  now : Int
  lang : Lang
  posts : List Post
  gestures : List Event
  comments : List Event
  session : Session
  loop : Loop
  sweep : Sweep
  calls : List Call
  unheard : List Unheard
  swept : List String
deriving DecidableEq, Repr

def World.initial (now : Int) (lang : Lang) : World :=
  ⟨now, lang, [], [], [], .alive, .starting, .deleting [], [], [], []⟩

section Loops

variable (desk : Desk)

/-- The posts a tick reads, the open ones first. -/
def Desk.partitioned (now : Int) (posts : List Post) : List Post :=
  (posts.filter fun post => !postHasExpired desk.expiresAtUnix post.content now) ++
    posts.filter fun post => postHasExpired desk.expiresAtUnix post.content now

/-- What there is to do on a post: strangers to answer, and the owner's oldest gesture, to carry or
to be told that it comes too late. -/
def Desk.errandsOn (now : Int) (answered : List String × List String)
    (answers : List (List Event)) (post : Post) : List Errand :=
  let triage :=
    decided desk.nostr desk.keys.pubkey desk.ownerPubkey post.id answered.1 answers
  (triage.strangers.map fun stranger => .stranger post.id stranger.gestureId) ++
    triage.act.toList.filterMap fun act =>
      if postHasExpired desk.expiresAtUnix post.content now = false then
        some (.carry post act (answered.2.contains act.gestureId))
      else if act.gesture = .refuse then none
      else some (.tooLate post act)

/-- What a tick has to do, once it has read everything. -/
def Desk.errands (now : Int) (posts : List Post) (answers : List (List Event))
    (comments : List Event) : List Errand :=
  (desk.partitioned now posts).flatMap
    (desk.errandsOn now
      (answeredGestures (ownCommentsOn comments ((desk.partitioned now posts).map Post.id)))
      answers)

def World.turnTo (world : World) (post : Post) (gestureId : String) : List Unheard :=
  world.unheard.map fun unheard =>
    if unheard.gestureId = gestureId then ⟨gestureId, post, world.now, false⟩ else unheard

def World.others (world : World) (gestureId : String) : List Unheard :=
  world.unheard.filter fun unheard => unheard.gestureId != gestureId

/-- `carry` up to the request to the Gateway, and the answers that need none. -/
def World.turn (world : World) (errands : List Errand) : Errand → World
  | .stranger postId gestureId =>
    { world with
      loop := .writing (.comment postId gestureId (threadNotTheOwner world.lang)) errands }
  | .carry post act told =>
    if (parse post.content).isNone then { world with loop := .working errands }
    else if act.gesture = .refuse then { world with loop := .writing (.delete post.id) errands }
    else match world.session, told with
      | .dead, true => { world with loop := .working errands }
      | .dead, false =>
        { world with
          loop := .writing (.comment post.id act.gestureId (threadRevoked world.lang)) errands }
      | .alive, _ =>
        { world with
          loop := .asking post act told errands
          calls := ⟨act.gestureId, world.session, world.comments⟩ :: world.calls }
  | .tooLate post act =>
    { world with
      loop := .writing (.comment post.id act.gestureId (threadExpired world.lang)) errands
      unheard := world.turnTo post act.gestureId }

/-- `defer`: the Gateway gave no usable answer. The thread is told when the post expires before the
next tick. -/
def World.defer (world : World) (post : Post) (act : Decision) (errands : List Errand) : World :=
  { world with
    unheard := ⟨act.gestureId, post, world.now, false⟩ :: world.others act.gestureId
    loop :=
      if expiresWithin desk.expiresAtUnix post.content world.now
          (notRecordedWindow desk.decision) then
        .writing (.comment post.id act.gestureId (threadNotRecorded world.lang)) errands
      else .working errands }

def World.hear (world : World) (post : Post) (act : Decision) (told : Bool)
    (errands : List Errand) : GatewayAnswer → World
  | .answered (.approved _) =>
    { world with
      unheard := world.others act.gestureId
      loop := .writing (.delete post.id) errands }
  | .answered (.refused code) =>
    if sent code then
      { world with
        unheard := world.others act.gestureId
        loop := .writing (.delete post.id) errands }
    else if remedy code = .retry then world.defer desk post act errands
    else
      { world with
        unheard := world.others act.gestureId
        loop := .writing (.comment post.id act.gestureId
          (threadRefused desk.catalogue world.lang code)) errands }
  | .unauthenticated =>
    { world with
      session := .dead
      loop :=
        if told then .working errands
        else .writing (.comment post.id act.gestureId (threadRevoked world.lang)) errands }
  | .failed => world.defer desk post act errands

/-- What the relay makes of a write, whether or not its answer arrives. -/
def World.write (world : World) (errands : List Errand) (takes : Bool) : Write → World
  | .comment postId gestureId content =>
    if takes then
      { world with
        comments := comment desk.nostr desk.keys world.now.toNat desk.channelApprovals postId
          gestureId content :: world.comments
        loop := .working errands }
    else
      { world with
        unheard := world.unheard.map fun unheard =>
          if unheard.gestureId = gestureId then { unheard with refused := true } else unheard
        loop := .working errands }
  | .delete postId =>
    { world with
      posts := if takes then world.posts.filter fun post => post.id != postId else world.posts
      loop := .working errands }

/-- A process that ends: what it was writing, the relay may have taken, and what it was asking is
never answered. -/
def World.halt (world : World) (takes : Bool) : World :=
  match world.loop with
  | .writing write errands => world.write desk errands takes write
  | .asking post act _ _ =>
    { world with
      unheard := ⟨act.gestureId, post, world.now, true⟩ :: world.others act.gestureId }
  | _ => world

def Desk.sweeps (now : Int) (post : Post) : Option (Post × Deleted) :=
  match verdict desk.expiresAtUnix post.content post.createdAt now with
  | .stands => none
  | .standsUndated => none
  | .expired => some (post, .expired)
  | .pastCeiling => some (post, .undatable)

def World.sweepsNext (world : World) : Option Post :=
  match world.sweep with
  | .deleting ((post, .expired) :: _) =>
    if world.posts.any fun standing => standing.id == post.id then some post else none
  | _ => none

/-- One thing that happens: to the clock, the channel, the decisions loop, the session, the sweep or
the process. -/
inductive Happening where
  | passes (seconds : Nat)
  | posted (post : Post)
  | arrives (event : Event)
  | wakes
  | readsPosts (serves : Bool)
  | readsGestures (answers : Option (List (List Event)))
  | readsComments (serves : Bool)
  | turns
  | gatewayAnswers (answer : GatewayAnswer)
  | relayAnswers (takes : Bool)
  | refreshes (answer : Refreshed)
  | dies
  | sweepWakes
  | sweepReads (serves : Bool)
  | sweepDeletes (takes : Bool)
  | restarted (lang : Lang) (takes : Bool)

def World.read (world : World) (next : Happening) : World :=
  match world.loop, next with
  | .woken now, .readsPosts true =>
    { world with
      loop :=
        if world.posts = [] then .resting
        else .postsRead now (world.posts.take ownPostsLimit) }
  | .woken _, .readsPosts false => { world with loop := .resting }
  | .postsRead now posts, .readsGestures (some answers) =>
    let held := answers.map fun answer => answer.filter fun event => decide (event ∈ world.gestures)
    { world with
      loop :=
        if (queryEach desk.nostr held).all fun gesture => gesture.pubkey == desk.keys.pubkey then
          .resting
        else .gesturesRead now posts held }
  | .postsRead _ _, .readsGestures none => { world with loop := .resting }
  | .gesturesRead now posts answers, .readsComments true =>
    { world with loop := .working (desk.errands now posts answers world.comments) }
  | .gesturesRead _ _ _, .readsComments false => { world with loop := .resting }
  | _, _ => world

/-- One step. What does not concern a loop where it is leaves it there. -/
def World.step (world : World) (next : Happening) : World :=
  match next with
  | .passes seconds => { world with now := world.now + seconds }
  | .posted post =>
    if world.posts.any fun standing => standing.id == post.id then world
    else { world with posts := post :: world.posts }
  | .arrives event =>
    if event.id = "" ∨ event.id ∈ world.gestures.map Event.id then world
    else { world with gestures := event :: world.gestures }
  | .wakes => if world.loop = .resting then { world with loop := .woken world.now } else world
  | .readsPosts _ => world.read desk next
  | .readsGestures _ => world.read desk next
  | .readsComments _ => world.read desk next
  | .turns =>
    match world.loop with
    | .working [] => { world with loop := .resting }
    | .working (errand :: errands) => world.turn errands errand
    | _ => world
  | .gatewayAnswers answer =>
    match world.loop with
    | .asking post act told errands => world.hear desk post act told errands answer
    | _ => world
  | .relayAnswers takes =>
    match world.loop with
    | .writing write errands => world.write desk errands takes write
    | _ => world
  | .refreshes answer =>
    if world.loop = .starting ∨ world.loop = .resting then
      { world with
        loop := .resting
        session := match answer with
          | .issued => .alive
          | .unauthenticated => .dead
          | .failed => world.session }
    else world
  | .dies => { world with session := .dead }
  | .sweepWakes =>
    if world.sweep = .deleting [] then { world with sweep := .woken world.now } else world
  | .sweepReads serves =>
    match world.sweep with
    | .woken now =>
      { world with
        sweep := .deleting
          (if serves then (world.posts.take ownPostsLimit).filterMap (desk.sweeps now) else []) }
    | .deleting _ => world
  | .sweepDeletes takes =>
    match world.sweep with
    | .deleting ((post, _) :: due) =>
      { world with
        sweep := .deleting due
        posts := if takes then world.posts.filter fun standing => standing.id != post.id
          else world.posts
        swept := if takes then (world.sweepsNext.map Post.id).toList ++ world.swept
          else world.swept }
    | _ => world
  | .restarted lang takes =>
    { world.halt desk takes with
      lang := lang
      session := .alive
      loop := .starting
      sweep := .deleting [] }

end Loops

end Twalk.Clerk
