/-
This file models what the clerk answers in the thread of a post and how it reads its own
answers back: the sentences of `clerk/src/text.rs`, the refusals of `clerk/src/refusals.rs`,
the reply of `clerk/src/relay.rs` and `answered_gestures` of `clerk/src/consumers.rs`. An
answer carries the gesture it is given to in a tag. It spends the gesture, unless it is the
sentence about the revoked session, which only tells.
-/

import Twalk.Decisions
import Twalk.Suggestions

namespace Twalk.Clerk

/-! ### Refusals -/

/-- What the owner can do about a refusal. -/
inductive Remedy where
  | retry
  | reload
  | signIn
  | diagnostics
  | none
deriving DecidableEq, Repr

def Remedy.key : Remedy → String
  | .retry => "approvals.remedy.retry"
  | .reload => "approvals.remedy.reload"
  | .signIn => "approvals.remedy.signIn"
  | .diagnostics => "approvals.remedy.diagnostics"
  | .none => "approvals.remedy.none"

def refusals : List (String × Remedy) := [
  ("malformed_request", .diagnostics),
  ("approval_is_not_a_batch", .diagnostics),
  ("unknown_value", .diagnostics),
  ("approved_by_is_not_the_owner", .diagnostics),
  ("unauthenticated", .signIn),
  ("suggestion_not_found", .reload),
  ("trigger_not_found", .none),
  ("suggestion_out_of_reach", .none),
  ("trigger_out_of_reach", .none),
  ("suggestion_expired", .none),
  ("consent_revoked", .none),
  ("consent_pending", .none),
  ("suggestion_was_never_consented", .none),
  ("already_approved", .reload),
  ("trigger_has_no_room", .none),
  ("connection_not_connected", .none),
  ("suggestion_unreadable", .none),
  ("bus_unreachable", .retry),
  ("store_unavailable", .retry),
  ("approval_published_but_not_recorded", .reload),
  ("approvals_not_configured", .none)]

def remedy (code : String) : Remedy := (refusals.lookup code).getD .diagnostics

/-- The one refusal of a reply that went out. -/
def sent (code : String) : Bool := code == "approval_published_but_not_recorded"

section Sentences

variable (catalogue : Catalogue) (lang : Lang)

def unknown (code : String) : String :=
  match catalogue lang "approvals.refusal.unknown" with
  | some template => template.replace "\x7berror\x7d" code
  | none => code

def sentence (code : String) : String :=
  let (cause, remedy) :=
    match refusals.lookup code, catalogue lang ("approvals.refusal." ++ code) with
    | some remedy, some cause => (cause, remedy)
    | _, _ => (unknown catalogue lang code, .diagnostics)
  match catalogue lang remedy.key with
  | some next => cause ++ " " ++ next
  | none => cause

/-! ### The sentences of a thread -/

def threadNotTheOwner : Lang → String
  | .fr => "Seul le propriétaire approuve."
  | .en => "Only the owner approves."

/-- How the answer to a refusal begins. -/
def refusedWords : Lang → Bool → String
  | .fr, true => "Envoyée mais non enregistrée — "
  | .fr, false => "Non envoyée — "
  | .en, true => "Sent but not recorded — "
  | .en, false => "Not sent — "

def threadRefused (code : String) : String :=
  refusedWords lang (sent code) ++ sentence catalogue lang code

/-- How both sentences about what was not recorded begin. -/
def notRecordedWords : Lang → String
  | .fr => "Non enregistrée — "
  | .en => "Not recorded — "

def threadNotRecorded (lang : Lang) : String :=
  notRecordedWords lang ++ match lang with
    | .fr => "le Companion Gateway n’a pas répondu avant l’expiration ; réagis de nouveau."
    | .en => "the Companion Gateway did not answer before the expiry; react again."

def threadRevoked (lang : Lang) : String :=
  notRecordedWords lang ++ match lang with
    | .fr => "l’appareil « Buzz » a été révoqué sur le tableau de bord ; " ++
        "relance provision-clerk-device.sh."
    | .en => "the “Buzz” device was revoked on the dashboard; run provision-clerk-device.sh again."

def threadExpired : Lang → String
  | .fr => "Non envoyée — la suggestion avait expiré."
  | .en => "Not sent — the suggestion had expired."

end Sentences

/-- Whether an answer is the sentence about the revoked session, in either language. -/
def isRevoked (content : String) : Bool := [threadRevoked .fr, threadRevoked .en].contains content

/-- Whether an answer says that a gesture was not recorded, or came too late. -/
def isLine (content : String) : Bool :=
  [threadNotRecorded .fr, threadNotRecorded .en, threadExpired .fr, threadExpired .en].contains
    content

/-! ### Answers -/

structure Keys where
  pubkey : String
  sign : String → String

def commentTags (channel postId gestureId : String) : List (List String) :=
  [["h", channel], ["e", postId, "", "reply"], ["r", gesturePrefix ++ gestureId]]

/-- An answer of the clerk's, signed. -/
def comment (nostr : Nostr) (keys : Keys) (createdAt : Nat)
    (channel postId gestureId content : String) : Event :=
  let signed : Signed :=
    ⟨keys.pubkey, createdAt, kindForumComment, commentTags channel postId gestureId, content⟩
  { signed with id := nostr.idOf signed, sig := keys.sign (nostr.idOf signed) }

/-- `answered_gestures`: the gestures some answers spend, and those they tell. -/
def answeredGestures (answers : List Event) : List String × List String :=
  (answers.filterMap fun answer =>
      if isRevoked answer.content then none else answeredGesture answer,
    answers.filterMap fun answer =>
      if isRevoked answer.content then answeredGesture answer else none)

/-- How many ids one filter names. -/
def gestureQueryIds : Nat := 100

def idChunks (ids : List String) : List (List String) :=
  (List.range (ids.length / gestureQueryIds + 1)).map fun index =>
    (ids.drop (index * gestureQueryIds)).take gestureQueryIds

def namesOne (ids : List String) (event : Event) : Bool :=
  (eTags event).any fun tag => tag[1]?.any ids.contains

/-- The clerk's answers in the threads of some posts, newest first, as the relay serves them: as
many as a filter asks for. -/
def ownCommentsOn (comments : List Event) (ids : List String) : List Event :=
  (idChunks ids).flatMap fun chunk => (comments.filter (namesOne chunk)).take ownPostsLimit

/-- No filter finds more answers than it asks for. -/
def WithinLimit (comments : List Event) (ids : List String) : Prop :=
  ∀ chunk ∈ idChunks ids, (comments.filter (namesOne chunk)).length ≤ ownPostsLimit

instance (comments : List Event) (ids : List String) : Decidable (WithinLimit comments ids) :=
  inferInstanceAs (Decidable (∀ _ ∈ _, _))

def spends (gestureId : String) (answer : Event) : Bool :=
  answeredGesture answer == some gestureId && !isRevoked answer.content

def tells (gestureId : String) (answer : Event) : Bool :=
  answeredGesture answer == some gestureId && isRevoked answer.content

/-! ### What is read back -/

theorem isRevoked_threadNotTheOwner (lang : Lang) : isRevoked (threadNotTheOwner lang) = false := by
  cases lang <;> decide

theorem isRevoked_threadNotRecorded (lang : Lang) : isRevoked (threadNotRecorded lang) = false := by
  cases lang <;> decide

theorem isRevoked_threadExpired (lang : Lang) : isRevoked (threadExpired lang) = false := by
  cases lang <;> decide

theorem isRevoked_of_isLine {content : String} (line : isLine content = true) :
    isRevoked content = false := by
  unfold isLine at line
  rw [List.contains_iff_mem] at line
  simp only [List.mem_cons, List.not_mem_nil, or_false] at line
  rcases line with rfl | rfl | rfl | rfl <;> decide

/-- The answer to a refusal is never the sentence about the revoked session, whatever the
Companion's sentences are: it begins otherwise. -/
theorem isRevoked_threadRefused (catalogue : Catalogue) (lang : Lang) (code : String) :
    isRevoked (threadRefused catalogue lang code) = false := by
  have begins : ∀ (lang : Lang) (wasSent : Bool) (revoked : Lang) (rest : String),
      refusedWords lang wasSent ++ rest ≠ threadRevoked revoked := by
    intro lang wasSent revoked rest same
    have apart : (refusedWords lang wasSent).toList.take 7 ≠
        (notRecordedWords revoked).toList.take 7 := by
      cases lang <;> cases wasSent <;> cases revoked <;> decide
    have long : 7 ≤ (refusedWords lang wasSent).toList.length ∧
        7 ≤ (notRecordedWords revoked).toList.length := by
      cases lang <;> cases wasSent <;> cases revoked <;> decide
    have front := congrArg (fun text : String => text.toList.take 7) same
    unfold threadRevoked at front
    simp only [String.toList_append] at front
    rw [List.take_append_of_le_length long.1, List.take_append_of_le_length long.2] at front
    exact apart front
  unfold isRevoked threadRefused
  rw [Bool.eq_false_iff, Ne, List.contains_iff_mem]
  simp only [List.mem_cons, List.not_mem_nil, or_false]
  exact not_or.mpr ⟨begins _ _ _ _, begins _ _ _ _⟩

section Comments

variable (nostr : Nostr) (keys : Keys) (createdAt : Nat) (channel postId gestureId content : String)

theorem answeredGesture_comment (isSome : gestureId ≠ "") :
    answeredGesture (comment nostr keys createdAt channel postId gestureId content) =
      some gestureId := by
  have stripped : stripPrefix gesturePrefix (gesturePrefix ++ gestureId) = some gestureId := by
    unfold stripPrefix
    rw [String.toList_append, if_pos (List.isPrefixOf_iff_prefix.mpr (List.prefix_append _ _)),
      List.drop_left, String.ofList_toList]
  simp [answeredGesture, comment, commentTags, stripped, isSome]

theorem namesOne_comment (ids : List String) :
    namesOne ids (comment nostr keys createdAt channel postId gestureId content) =
      ids.contains postId := by
  simp [namesOne, eTags, comment, commentTags]

end Comments

theorem mem_spent_iff {answers : List Event} {gestureId : String} :
    gestureId ∈ (answeredGestures answers).1 ↔
      ∃ answer ∈ answers, spends gestureId answer = true := by
  unfold answeredGestures spends
  simp only [List.mem_filterMap, Bool.and_eq_true, beq_iff_eq, Bool.not_eq_true']
  refine exists_congr fun answer => and_congr_right fun _ => ?_
  cases isRevoked answer.content <;> simp

theorem mem_told_iff {answers : List Event} {gestureId : String} :
    gestureId ∈ (answeredGestures answers).2 ↔
      ∃ answer ∈ answers, tells gestureId answer = true := by
  unfold answeredGestures tells
  simp only [List.mem_filterMap, Bool.and_eq_true, beq_iff_eq]
  refine exists_congr fun answer => and_congr_right fun _ => ?_
  cases isRevoked answer.content <;> simp

variable {ids : List String}

theorem exists_mem_idChunks {id : String} (member : id ∈ ids) :
    ∃ chunk ∈ idChunks ids, id ∈ chunk := by
  obtain ⟨index, inRange, isId⟩ := List.mem_iff_getElem.mp member
  have positive : 0 < gestureQueryIds := by decide
  have early : index / gestureQueryIds < ids.length / gestureQueryIds + 1 :=
    Nat.lt_succ_of_le (Nat.div_le_div_right (Nat.le_of_lt inRange))
  refine ⟨_, List.mem_map.mpr ⟨index / gestureQueryIds, List.mem_range.mpr early, rfl⟩, ?_⟩
  rw [List.mem_iff_getElem]
  have split := Nat.div_add_mod index gestureQueryIds
  have small := Nat.mod_lt index positive
  rw [Nat.mul_comm] at split
  refine ⟨index % gestureQueryIds, ?_, ?_⟩
  · rw [List.length_take, List.length_drop]
    omega
  · rw [List.getElem_take, List.getElem_drop]
    simpa only [split] using isId

theorem mem_ownCommentsOn {comments : List Event} (within : WithinLimit comments ids)
    {answer : Event} (member : answer ∈ comments) (named : namesOne ids answer = true) :
    answer ∈ ownCommentsOn comments ids := by
  unfold namesOne at named
  obtain ⟨tag, isTag, namesId⟩ := List.any_eq_true.mp named
  obtain ⟨id, isId, isNamed⟩ := (Option.any_eq_true _ _).mp namesId
  obtain ⟨chunk, isChunk, inChunk⟩ := exists_mem_idChunks (List.contains_iff_mem.mp isNamed)
  refine List.mem_flatMap.mpr ⟨chunk, isChunk, ?_⟩
  rw [List.take_of_length_le (within chunk isChunk), List.mem_filter]
  refine ⟨member, List.any_eq_true.mpr ⟨tag, isTag, ?_⟩⟩
  exact (Option.any_eq_true _ _).mpr ⟨id, isId, List.contains_iff_mem.mpr inChunk⟩

theorem mem_of_mem_ownCommentsOn {comments : List Event} {answer : Event}
    (member : answer ∈ ownCommentsOn comments ids) : answer ∈ comments := by
  obtain ⟨chunk, _, isRead⟩ := List.mem_flatMap.mp member
  exact (List.mem_filter.mp (List.mem_of_mem_take isRead)).1

end Twalk.Clerk
