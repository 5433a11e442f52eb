/-
This file models what the clerk makes of the events a Buzz relay serves: the checks and
readings of `clerk/src/relay.rs`. An event is what somebody signed, with an id and a
signature; how an id is made of it and whether a signature is a key's are the Nostr
library's, taken as they come. What is not verified is dropped before anything reads it.
-/

import Twalk.Library.Choice
import Twalk.Library.Text

namespace Twalk.Clerk

/-! ### Events -/

def kindReaction : Nat := 7

def kindForumPost : Nat := 45001

def kindForumComment : Nat := 45003

structure Signed where
  pubkey : String
  createdAt : Nat
  kind : Nat
  tags : List (List String)
  content : String
deriving DecidableEq, Repr

structure Event extends Signed where
  id : String
  sig : String
deriving DecidableEq, Repr

structure Nostr where
  idOf : Signed → String
  signs : String → String → String → Bool

inductive VerifyError where
  | invalidId
  | invalidSignature
deriving DecidableEq, Repr

/-- An event that is served and not believed. -/
structure Rejected where
  id : String
  kind : Nat
  error : VerifyError
deriving DecidableEq, Repr

section Verification

variable (nostr : Nostr)

def verifyError (event : Event) : Option VerifyError :=
  if nostr.idOf event.toSigned ≠ event.id then some .invalidId
  else if nostr.signs event.pubkey event.id event.sig = false then some .invalidSignature
  else none

def verifies (event : Event) : Bool := (verifyError nostr event).isNone

def verified (served : List Event) : List Event × List Rejected :=
  (served.filter (verifies nostr),
    served.filterMap fun event =>
      (verifyError nostr event).map fun error => ⟨event.id, event.kind, error⟩)

def queryEach (answers : List (List Event)) : List Event :=
  onceBy Event.id [] (answers.flatMap fun served => (verified nostr served).1)

def Collisionless (served : List Event) : Prop :=
  ∀ first ∈ served, ∀ second ∈ served,
    nostr.idOf first.toSigned = nostr.idOf second.toSigned → first.toSigned = second.toSigned

variable {nostr}

variable {event : Event}

theorem id_of_verifies (isVerified : verifies nostr event = true) :
    nostr.idOf event.toSigned = event.id := by
  unfold verifies verifyError at isVerified
  by_contra differs
  rw [if_pos differs] at isVerified
  cases isVerified

variable {answers : List (List Event)}

theorem mem_served :
    event ∈ answers.flatMap (fun served => (verified nostr served).1) ↔
      event ∈ answers.flatten ∧ verifies nostr event = true := by
  simp only [verified, List.mem_flatMap, List.mem_filter, List.mem_flatten]
  constructor
  · rintro ⟨served, isAnswer, member, isVerified⟩
    exact ⟨⟨served, isAnswer, member⟩, isVerified⟩
  · rintro ⟨⟨served, isAnswer, member⟩, isVerified⟩
    exact ⟨served, isAnswer, member, isVerified⟩

theorem of_mem_queryEach (member : event ∈ queryEach nostr answers) :
    event ∈ answers.flatten ∧ verifies nostr event = true :=
  mem_served.mp (mem_of_mem_onceBy member)

theorem exists_mem_queryEach (collisionless : Collisionless nostr answers.flatten)
    (member : event ∈ answers.flatten) (isVerified : verifies nostr event = true) :
    ∃ kept ∈ queryEach nostr answers, kept.id = event.id ∧ kept.toSigned = event.toSigned := by
  have found : ∃ kept ∈ queryEach nostr answers, kept.id = event.id :=
    exists_mem_onceBy (mem_served.mpr ⟨member, isVerified⟩) List.not_mem_nil
  obtain ⟨kept, isKept, sameId⟩ := found
  obtain ⟨isServed, keptVerified⟩ := of_mem_queryEach isKept
  refine ⟨kept, isKept, sameId, collisionless kept isServed event member ?_⟩
  rw [id_of_verifies keptVerified, id_of_verifies isVerified, sameId]

end Verification

/-! ### Tags -/

/-- The `e` tags of an event that name an id, in order. -/
def eTags (event : Event) : List (List String) :=
  event.tags.filter fun tag => decide (2 ≤ tag.length) && tag.head? == some "e"

def targets (event : Event) (postId : String) : Bool :=
  (event.kind == kindReaction || event.kind == kindForumComment) &&
    (eTags event).getLast?.any fun tag => tag[1]? == some postId

/-- Whether an event is a direct reply to a post: a thread reply with one `e` tag, that names the
post and is not marked as anything but a reply. -/
def isDirectReply (event : Event) (postId : String) : Bool :=
  event.kind == kindForumComment &&
    match eTags event with
    | [tag] =>
      tag[1]? == some postId &&
        (tag[3]?.isNone || tag[3]? == some "" || tag[3]? == some "reply")
    | _ => false

def gesturePrefix : String := "twalk:gesture:"

def stripPrefix (start text : String) : Option String :=
  if start.toList.isPrefixOf text.toList then
    some (String.ofList (text.toList.drop start.toList.length))
  else none

def answeredGesture (event : Event) : Option String :=
  ((event.tags.filter fun tag => decide (2 ≤ tag.length) && tag.head? == some "r").findSome?
    fun tag => tag[1]?.bind (stripPrefix gesturePrefix)).filter fun id => id != ""

end Twalk.Clerk
