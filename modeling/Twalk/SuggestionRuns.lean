/-
This file is the clerk's suggestions consumer over whole runs: suggestions that are
delivered and delivered again, posts that the sweep deletes, posts that a decision of the
owner's deletes, and restarts. The posts that stand on the relay are all that the clerk
remembers, so a post that is gone is forgotten with everything it said. A suggestion is
posted once exactly while nothing brings back one whose post is gone.
-/

import Twalk.Library.System
import Twalk.Suggestions

namespace Twalk.Clerk

/-! ### What is read back -/

theorem alreadyPosted_iff (posts : List String) (id : String) :
    alreadyPosted posts id = true ↔ ∃ content ∈ posts, named content = some id := by
  unfold alreadyPosted named
  simp only [List.any_eq_true, List.mem_filterMap, beq_iff_eq, Option.map_eq_some_iff]
  constructor
  · rintro ⟨reference, ⟨content, member, isParsed⟩, same⟩
    exact ⟨content, member, reference, isParsed, same⟩
  · rintro ⟨content, member, reference, isParsed, same⟩
    exact ⟨reference, ⟨content, member, isParsed⟩, same⟩

/-- The Gateway answers that a suggestion is approved. -/
def Approved (asked : Asked) : Prop := ∃ read, asked = .found read ∧ read.standing = "approved"

theorem readBeforePost_eq (dates : Dates) (catalogue : Catalogue) (lang : Lang) (asked : Asked) :
    (Approved asked ∧ readBeforePost dates catalogue lang asked = .alreadyApproved) ∨
      (¬ Approved asked ∧ ∃ deliveryLine path,
        readBeforePost dates catalogue lang asked = .post deliveryLine path) := by
  unfold readBeforePost
  cases asked with
  | found read =>
    by_cases approved : read.standing = "approved"
    · exact .inl ⟨⟨read, rfl, approved⟩, if_pos approved⟩
    · refine .inr ⟨?_, _, _, if_neg approved⟩
      rintro ⟨other, isOther, isApproved⟩
      cases isOther
      exact approved isApproved
  | refused status code =>
    refine .inr ⟨fun ⟨_, isFound, _⟩ => (nomatch isFound), ?_⟩
    by_cases absent : status = 404 ∨ status = 410
    · exact ⟨_, _, if_pos absent⟩
    · exact ⟨_, _, if_neg absent⟩
  | noDevice => exact .inr ⟨fun ⟨_, isFound, _⟩ => (nomatch isFound), _, _, rfl⟩
  | sessionDead => exact .inr ⟨fun ⟨_, isFound, _⟩ => (nomatch isFound), _, _, rfl⟩
  | unauthenticated => exact .inr ⟨fun ⟨_, isFound, _⟩ => (nomatch isFound), _, _, rfl⟩
  | failed => exact .inr ⟨fun ⟨_, isFound, _⟩ => (nomatch isFound), _, _, rfl⟩

/-! ### The board -/

/-- A post of the clerk's that stands, and the suggestion it was made of, which the relay does not
know. -/
structure Posted where
  about : String
  content : String
  createdAt : Int
deriving DecidableEq, Repr

/-- The posts that stand, newest first, and the ids of all that were ever taken. -/
structure Board where
  standing : List Posted
  published : List String
deriving DecidableEq, Repr

def Board.empty : Board := ⟨[], []⟩

def Board.ownPosts (board : Board) : List Posted := board.standing.take ownPostsLimit

/-- What meets a delivery: the time, whether the relay serves the clerk's posts, what the Gateway
answers, whether the relay takes the post and how it dates it. Whether the relay's answer and the
acknowledgement to the bus arrive makes no difference to either. -/
structure Attempt where
  now : Int
  serves : Bool
  asked : Asked
  takes : Bool
  createdAt : Int
deriving DecidableEq, Repr

inductive Moment where
  | delivered (suggestion : Suggestion) (attempt : Attempt)
  | swept (now : Int) (deletes : Posted → Bool)
  | settled (deletes : Posted → Bool)
  | restarted

section Runs

variable (dates : Dates) (catalogue : Catalogue) (lang : Lang)

def Board.writes (board : Board) (suggestion : Suggestion) (attempt : Attempt) : Option String :=
  match handleSuggestion dates catalogue lang attempt.now
    (if attempt.serves then some (board.ownPosts.map Posted.content) else none) attempt.asked
    suggestion with
  | .written content => some content
  | .skipped _ => none
  | .unread => none

def Board.spares (now : Int) (post : Posted) : Bool :=
  match verdict dates.expiresAtUnix post.content post.createdAt now with
  | .stands => true
  | .standsUndated => true
  | .expired => false
  | .pastCeiling => false

/-- One step: a delivery adds the post it writes, if the relay takes it; a sweep and the decisions
loop delete posts, as far as the relay does; a restart changes nothing, since nothing is kept. -/
def Board.step (board : Board) : Moment → Board
  | .delivered suggestion attempt =>
    match board.writes dates catalogue lang suggestion attempt with
    | some content =>
      if attempt.takes then
        ⟨⟨suggestion.id, content, attempt.createdAt⟩ :: board.standing,
          board.published ++ [suggestion.id]⟩
      else board
    | none => board
  | .swept now deletes =>
    { board with standing :=
        (board.ownPosts.filter fun post => Board.spares dates now post || !deletes post) ++
          board.standing.drop ownPostsLimit }
  | .settled deletes =>
    { board with standing := board.standing.filter fun post => !deletes post }
  | .restarted => board

/-! ### Once each -/

/-- Each suggestion was posted at most once, and one is taken for posted exactly when a post about
it stands. -/
structure OnceEach (board : Board) : Prop where
  once : board.published.Nodup
  recognised : ∀ id, alreadyPosted (board.ownPosts.map Posted.content) id = true ↔
    ∃ post ∈ board.standing, post.about = id

/-- A delivery comes to a post that the relay takes: the suggestion has not expired, the relay
serves the clerk's posts, none of those that stand is about it, and the Gateway does not say that it
is approved. -/
structure Comes (board : Board) (suggestion : Suggestion) (attempt : Attempt) : Prop where
  unexpired : ∀ expiresAt ∈ suggestion.data.expiresAt,
    hasExpired dates.expiresAtUnix expiresAt attempt.now = false
  serves : attempt.serves = true
  gone : ∀ post ∈ board.standing, post.about ≠ suggestion.id
  unapproved : ¬ Approved attempt.asked
  takes : attempt.takes = true

/-- A delivery that comes to a post is the first of its suggestion that does, and its reference line
reads back. -/
def Orderly (board : Board) : Moment → Prop
  | .delivered suggestion attempt => Comes dates board suggestion attempt →
      suggestion.id ∉ board.published ∧ ReadsBack suggestion.reference
  | _ => True

def Room (board : Board) (_ : Moment) : Prop := board.standing.length < ownPostsLimit

instance (board : Board) (next : Moment) : Decidable (Room board next) :=
  inferInstanceAs (Decidable (board.standing.length < ownPostsLimit))

/-- Every post that stands is read to be about the suggestion it was made of, and the clerk reads
them all. -/
structure Sound (board : Board) : Prop where
  once : board.published.Nodup
  readsBack : ∀ post ∈ board.standing, named post.content = some post.about
  read : board.standing.length ≤ ownPostsLimit

variable {board : Board}

theorem recognised_iff (read : board.standing.length ≤ ownPostsLimit) (id : String) :
    alreadyPosted (board.ownPosts.map Posted.content) id = true ↔
      ∃ post ∈ board.standing, named post.content = some id := by
  rw [alreadyPosted_iff, Board.ownPosts, List.take_of_length_le read]
  simp only [List.mem_map]
  constructor
  · rintro ⟨content, ⟨post, member, rfl⟩, isNamed⟩
    exact ⟨post, member, isNamed⟩
  · rintro ⟨post, member, isNamed⟩
    exact ⟨post.content, ⟨post, member, rfl⟩, isNamed⟩

theorem Sound.recognised (sound : Sound board) (id : String) :
    alreadyPosted (board.ownPosts.map Posted.content) id = true ↔
      ∃ post ∈ board.standing, post.about = id := by
  rw [recognised_iff sound.read]
  refine exists_congr fun post => and_congr_right fun member => ?_
  rw [sound.readsBack post member, Option.some.injEq]

theorem Sound.onceEach (sound : Sound board) : OnceEach board :=
  ⟨sound.once, sound.recognised⟩

variable {dates}

variable {suggestion : Suggestion}

/-- What a delivery to a sound board writes, when the relay takes it: nothing, or a post whose last
line is the reference of its suggestion. -/
theorem writes_of_comes (sound : Sound board) {attempt : Attempt}
    (comes : Comes dates board suggestion attempt) :
    ∃ front, board.writes dates catalogue lang suggestion attempt =
      some (front ++ "\n" ++ line suggestion.reference) := by
  have unexpired : ¬ (suggestion.data.expiresAt.any fun expiresAt =>
      hasExpired dates.expiresAtUnix expiresAt attempt.now) = true := by
    intro expired
    obtain ⟨expiresAt, isExpiry, hasPassed⟩ := (Option.any_eq_true _ _).mp expired
    rw [comes.unexpired expiresAt isExpiry] at hasPassed
    cases hasPassed
  have unposted :
      ¬ alreadyPosted (board.ownPosts.map Posted.content) suggestion.id = true := by
    rw [sound.recognised]
    rintro ⟨post, member, isAbout⟩
    exact comes.gone post member isAbout
  rcases readBeforePost_eq dates catalogue lang attempt.asked with
    ⟨approved, _⟩ | ⟨_, deliveryLine, path, isPost⟩
  · exact absurd approved comes.unapproved
  · refine ⟨aboveReference dates lang suggestion deliveryLine path, ?_⟩
    unfold Board.writes handleSuggestion
    rw [if_neg unexpired, if_pos comes.serves]
    dsimp only
    rw [if_neg unposted, isPost]
    rfl

theorem writes_of_not_comes (sound : Sound board) {attempt : Attempt} (takes : attempt.takes = true)
    (notComes : ¬ Comes dates board suggestion attempt) :
    board.writes dates catalogue lang suggestion attempt = none := by
  unfold Board.writes handleSuggestion
  by_cases expired : (suggestion.data.expiresAt.any fun expiresAt =>
      hasExpired dates.expiresAtUnix expiresAt attempt.now) = true
  · rw [if_pos expired]
  · rw [if_neg expired]
    by_cases serves : attempt.serves = true
    · rw [if_pos serves]
      dsimp only
      by_cases posted :
          alreadyPosted (board.ownPosts.map Posted.content) suggestion.id = true
      · rw [if_pos posted]
      · rw [if_neg posted]
        rcases readBeforePost_eq dates catalogue lang attempt.asked with
          ⟨_, isApproved⟩ | ⟨unapproved, _⟩
        · rw [isApproved]
        · refine absurd ⟨?_, serves, ?_, unapproved, takes⟩ notComes
          · intro expiresAt isExpiry
            refine Bool.eq_false_iff.mpr fun hasPassed => expired ?_
            exact (Option.any_eq_true _ _).mpr ⟨expiresAt, isExpiry, hasPassed⟩
          · intro post member isAbout
            exact posted ((sound.recognised suggestion.id).mpr ⟨post, member, isAbout⟩)
    · rw [if_neg serves]

theorem step_delivered (sound : Sound board) (suggestion : Suggestion) (attempt : Attempt) :
    (Comes dates board suggestion attempt ∧ ∃ front,
      board.step dates catalogue lang (.delivered suggestion attempt) =
        ⟨⟨suggestion.id, front ++ "\n" ++ line suggestion.reference, attempt.createdAt⟩ ::
          board.standing, board.published ++ [suggestion.id]⟩) ∨
    (¬ Comes dates board suggestion attempt ∧
      board.step dates catalogue lang (.delivered suggestion attempt) = board) := by
  dsimp only [Board.step]
  by_cases comes : Comes dates board suggestion attempt
  · obtain ⟨front, writes⟩ := writes_of_comes catalogue lang sound comes
    refine .inl ⟨comes, front, ?_⟩
    rw [writes]
    exact if_pos comes.takes
  · refine .inr ⟨comes, ?_⟩
    by_cases takes : attempt.takes = true
    · rw [writes_of_not_comes catalogue lang sound takes comes]
    · cases board.writes dates catalogue lang suggestion attempt with
      | none => rfl
      | some content => exact if_neg takes

theorem Sound.of_sublist (sound : Sound board) {standing : List Posted}
    (kept : standing.Sublist board.standing) : Sound { board with standing := standing } where
  once := sound.once
  readsBack post member := sound.readsBack post (kept.subset member)
  read := kept.length_le.trans sound.read

theorem swept_sublist (board : Board) (now : Int) (deletes : Posted → Bool) :
    ((board.ownPosts.filter fun post => Board.spares dates now post || !deletes post) ++
      board.standing.drop ownPostsLimit).Sublist board.standing := by
  have kept := (List.filter_sublist : (board.ownPosts.filter fun post =>
    Board.spares dates now post || !deletes post).Sublist board.ownPosts)
  have whole := kept.append_right (board.standing.drop ownPostsLimit)
  rwa [Board.ownPosts, List.take_append_drop] at whole

theorem Sound.posted (sound : Sound board) (room : board.standing.length < ownPostsLimit)
    (fresh : suggestion.id ∉ board.published) (readsBack : ReadsBack suggestion.reference)
    (front : String) (createdAt : Int) :
    Sound ⟨⟨suggestion.id, front ++ "\n" ++ line suggestion.reference, createdAt⟩ ::
      board.standing, board.published ++ [suggestion.id]⟩ where
  once := List.nodup_append.mpr ⟨sound.once, List.nodup_singleton _, by
    intro published isPublished other isOther same
    rw [List.mem_singleton.mp isOther] at same
    exact fresh (same ▸ isPublished)⟩
  readsBack post member := by
    rcases List.mem_cons.mp member with rfl | stood
    · exact (named_append_line front suggestion.reference).mpr readsBack
    · exact sound.readsBack post stood
  read := room

theorem OnceEach.of_posted (sound : Sound board) (room : board.standing.length < ownPostsLimit)
    (gone : ∀ post ∈ board.standing, post.about ≠ suggestion.id) {front : String} {createdAt : Int}
    (onceEach : OnceEach ⟨⟨suggestion.id, front ++ "\n" ++ line suggestion.reference, createdAt⟩ ::
      board.standing, board.published ++ [suggestion.id]⟩) :
    suggestion.id ∉ board.published ∧ ReadsBack suggestion.reference := by
  refine ⟨fun isPublished => ?_, ?_⟩
  · obtain ⟨_, _, apart⟩ := List.nodup_append.mp onceEach.once
    exact apart _ isPublished _ (List.mem_singleton.mpr rfl) rfl
  · have recognised := (onceEach.recognised suggestion.id).mpr
      ⟨_, List.mem_cons_self, rfl⟩
    obtain ⟨post, member, isNamed⟩ := (recognised_iff (by exact room) _).mp recognised
    rcases List.mem_cons.mp member with rfl | stood
    · exact (named_append_line front suggestion.reference).mp isNamed
    · rw [sound.readsBack post stood, Option.some.injEq] at isNamed
      exact absurd isNamed (gone post stood)

theorem onceEach_step_iff (sound : Sound board) (next : Moment) (room : Room board next) :
    OnceEach (board.step dates catalogue lang next) ↔ Orderly dates board next := by
  cases next with
  | delivered suggestion attempt =>
    rcases step_delivered catalogue lang sound suggestion attempt with
      ⟨comes, front, isPosted⟩ | ⟨notComes, isSame⟩
    · rw [isPosted]
      constructor
      · exact fun onceEach _ => onceEach.of_posted sound room comes.gone
      · intro orderly
        obtain ⟨fresh, readsBack⟩ := orderly comes
        exact (sound.posted room fresh readsBack front attempt.createdAt).onceEach
    · rw [isSame]
      exact iff_of_true sound.onceEach fun comes => absurd comes notComes
  | swept now deletes =>
    exact iff_of_true (sound.of_sublist (swept_sublist board now deletes)).onceEach trivial
  | settled deletes =>
    exact iff_of_true (sound.of_sublist List.filter_sublist).onceEach trivial
  | restarted => exact iff_of_true sound.onceEach trivial

theorem sound_step (sound : Sound board) (next : Moment) (room : Room board next)
    (orderly : Orderly dates board next) :
    Sound (board.step dates catalogue lang next) := by
  cases next with
  | delivered suggestion attempt =>
    rcases step_delivered catalogue lang sound suggestion attempt with
      ⟨comes, front, isPosted⟩ | ⟨_, isSame⟩
    · obtain ⟨fresh, readsBack⟩ := orderly comes
      rw [isPosted]
      exact sound.posted room fresh readsBack front attempt.createdAt
    · rw [isSame]
      exact sound
  | swept now deletes => exact sound.of_sublist (swept_sublist board now deletes)
  | settled deletes => exact sound.of_sublist List.filter_sublist
  | restarted => exact sound

/-- In every run in which there is room for a further post, each suggestion is posted at most once
and each is taken for posted exactly while a post about it stands, if and only if every delivery
that comes to a post is the first of its suggestion that does and carries a reference that reads
back. -/
theorem onceEach_iff_orderly (moments : List Moment)
    (room : Along (Board.step dates catalogue lang) Room Board.empty moments) :
    (∀ front, front <+: moments →
      OnceEach (run (Board.step dates catalogue lang) Board.empty front)) ↔
      Along (Board.step dates catalogue lang) (Orderly dates) Board.empty moments :=
  property_along_iff Sound OnceEach (fun _ => Sound.onceEach)
    (fun _ next sound room => onceEach_step_iff catalogue lang sound next room)
    (fun _ next sound room orderly => sound_step catalogue lang sound next room orderly)
    ⟨List.nodup_nil, fun _ member => absurd member List.not_mem_nil, Nat.zero_le _⟩ room

end Runs

/-! ### A proposal that is declined -/

namespace DeclinedProposal

def dates : Dates := ⟨fun _ => none, fun _ => none, fun _ => none⟩

def catalogue : Catalogue := fun _ _ => none

def proposal : Suggestion where
  id := "319be8ff15d5dee005c8aa27119b983da8223959987e5dbc639d81e370b5ef9b"
  time := "2026-09-17T10:00:00Z"
  network := "whatsapp"
  data := {
    personaId := "tomas"
    suggestion := ⟨"Oui, à demain."⟩
    context := none
    expiresAt := none
    times := none }

def attempt : Attempt where
  now := 1789639200
  serves := true
  asked := .found ⟨"approvable", ⟨"can_reach", ""⟩, []⟩
  takes := true
  createdAt := 1789639200

theorem readsBack : ReadsBack proposal.reference :=
  ⟨by decide, fun _ isExpiry => nomatch isExpiry⟩

theorem stands : ∃ post ∈ (Board.step dates catalogue .fr Board.empty
    (.delivered proposal attempt)).standing, post.about = proposal.id := by
  decide

/-- Delivered again while its post stands, the proposal is not posted again. -/
theorem posted_once :
    OnceEach (run (Board.step dates catalogue .fr) Board.empty
      [.delivered proposal attempt, .delivered proposal attempt]) := by
  have orderly : Along (Board.step dates catalogue .fr) (Orderly dates) Board.empty
      [.delivered proposal attempt, .delivered proposal attempt] := by
    refine ⟨fun _ => ⟨List.not_mem_nil, readsBack⟩, fun comes => ?_, trivial⟩
    obtain ⟨post, member, isAbout⟩ := stands
    exact absurd isAbout (comes.gone post member)
  exact (onceEach_iff_orderly catalogue .fr _ (by decide)).mpr orderly _ List.prefix_rfl

/-- Delivered again after the owner declined it and its post was deleted, it is posted again. -/
theorem posted_twice :
    ¬ ∀ (dates : Dates) (catalogue : Catalogue) (lang : Lang) (moments : List Moment),
      Along (Board.step dates catalogue lang) Room Board.empty moments →
      ∀ front, front <+: moments →
        OnceEach (run (Board.step dates catalogue lang) Board.empty front) := by
  intro always
  have once := (always dates catalogue .fr
    [.delivered proposal attempt, .settled fun _ => true, .delivered proposal attempt]
    (by decide) _ List.prefix_rfl).once
  exact absurd once (by decide)

end DeclinedProposal

end Twalk.Clerk
