/-
This file is the theory of a message stream that stores at most one message for
each message id. Positions start at one and only grow; other traffic takes
positions of its own between two messages. A publication whose id the stream
already holds stores nothing and is answered with the position of the message
that is held, so a publisher that repeats itself after a crash is told where its
first attempt went.
-/

import Twalk.Library.Ledger

namespace Twalk

/-! ### The stream -/

structure Message (Payload : Type) where
  position : Nat
  messageId : String
  payload : Payload

structure MessageStream (Payload : Type) where
  messages : List (Message Payload)
  lastPosition : Nat
  ordered : messages.Pairwise fun earlier later => earlier.position < later.position
  bounded : ∀ message ∈ messages, message.position ≤ lastPosition
  positive : ∀ message ∈ messages, 0 < message.position
  distinct : ∀ first ∈ messages, ∀ second ∈ messages,
    first.messageId = second.messageId → first = second

namespace MessageStream

variable {Payload : Type}

def empty : MessageStream Payload where
  messages := []
  lastPosition := 0
  ordered := List.Pairwise.nil
  bounded := by simp
  positive := by simp
  distinct := by simp

def held (stream : MessageStream Payload) (messageId : String) : Option (Message Payload) :=
  stream.messages.find? fun message => message.messageId == messageId

variable {stream : MessageStream Payload} {message : Message Payload} {messageId : String}

theorem held_messageId (found : stream.held messageId = some message) :
    message.messageId = messageId := by
  have test := List.find?_some found
  exact eq_of_beq test

theorem held_mem (found : stream.held messageId = some message) :
    message ∈ stream.messages :=
  List.mem_of_find?_eq_some found

theorem held_of_mem (member : message ∈ stream.messages) :
    stream.held message.messageId = some message := by
  cases found : stream.held message.messageId with
  | none =>
    have absent := List.find?_eq_none.mp found message member
    simp at absent
  | some other =>
    rw [stream.distinct other (held_mem found) message member (held_messageId found)]

theorem held_eq_none_iff :
    stream.held messageId = none ↔
      ∀ message ∈ stream.messages, message.messageId ≠ messageId := by
  unfold held
  rw [List.find?_eq_none]
  simp only [beq_iff_eq, ne_eq]

/-! ### Publishing -/

def append (stream : MessageStream Payload) (messageId : String) (payload : Payload)
    (fresh : stream.held messageId = none) : MessageStream Payload where
  messages := stream.messages ++ [⟨stream.lastPosition + 1, messageId, payload⟩]
  lastPosition := stream.lastPosition + 1
  ordered := by
    refine List.pairwise_append.mpr ⟨stream.ordered, List.pairwise_singleton _ _, ?_⟩
    intro earlier member later isNew
    rw [List.mem_singleton.mp isNew]
    exact Nat.lt_succ_of_le (stream.bounded earlier member)
  bounded := by
    intro message member
    rcases List.mem_append.mp member with old | isNew
    · exact Nat.le_succ_of_le (stream.bounded message old)
    · exact Nat.le_of_eq (congrArg Message.position (List.mem_singleton.mp isNew))
  positive := by
    intro message member
    rcases List.mem_append.mp member with old | isNew
    · exact stream.positive message old
    · rw [List.mem_singleton.mp isNew]
      exact Nat.succ_pos _
  distinct := by
    have unused := held_eq_none_iff.mp fresh
    intro first firstIn second secondIn same
    rcases List.mem_append.mp firstIn with firstOld | firstNew <;>
      rcases List.mem_append.mp secondIn with secondOld | secondNew
    · exact stream.distinct first firstOld second secondOld same
    · rw [List.mem_singleton.mp secondNew] at same
      exact absurd same (unused first firstOld)
    · rw [List.mem_singleton.mp firstNew] at same
      exact absurd same.symm (unused second secondOld)
    · rw [List.mem_singleton.mp firstNew, List.mem_singleton.mp secondNew]

def publish (stream : MessageStream Payload) (messageId : String) (payload : Payload) :
    MessageStream Payload × Nat :=
  match found : stream.held messageId with
  | some message => (stream, message.position)
  | none => (stream.append messageId payload found, stream.lastPosition + 1)

def advance (stream : MessageStream Payload) (count : Nat) : MessageStream Payload :=
  { stream with
    lastPosition := stream.lastPosition + count
    bounded := fun message member => Nat.le_add_right_of_le (stream.bounded message member) }

theorem publish_of_held (found : stream.held messageId = some message) (payload : Payload) :
    stream.publish messageId payload = (stream, message.position) := by
  unfold publish
  split
  · rename_i other foundOther
    rw [Option.some.inj (found.symm.trans foundOther)]
  · rename_i absent
    rw [found] at absent
    exact absurd absent (by simp)

theorem publish_of_fresh (fresh : stream.held messageId = none) (payload : Payload) :
    stream.publish messageId payload =
      (stream.append messageId payload fresh, stream.lastPosition + 1) := by
  unfold publish
  split
  · rename_i other found
    rw [fresh] at found
    exact absurd found (by simp)
  · rfl

@[simp] theorem messages_append (stream : MessageStream Payload) (messageId : String)
    (payload : Payload) (fresh : stream.held messageId = none) :
    (stream.append messageId payload fresh).messages =
      stream.messages ++ [⟨stream.lastPosition + 1, messageId, payload⟩] := rfl

theorem exists_held_publish (stream : MessageStream Payload) (messageId : String)
    (payload : Payload) :
    ∃ message, (stream.publish messageId payload).1.held messageId = some message ∧
      message.position = (stream.publish messageId payload).2 := by
  cases found : stream.held messageId with
  | some message =>
    rw [publish_of_held found]
    exact ⟨message, found, rfl⟩
  | none =>
    rw [publish_of_fresh found]
    have stored : ⟨stream.lastPosition + 1, messageId, payload⟩ ∈
        (stream.append messageId payload found).messages :=
      List.mem_append_right _ (List.mem_singleton.mpr rfl)
    exact ⟨_, held_of_mem stored, rfl⟩

theorem mem_messages_publish (stored : message ∈ stream.messages) (messageId : String)
    (payload : Payload) :
    message ∈ (stream.publish messageId payload).1.messages := by
  cases found : stream.held messageId with
  | some earlier =>
    rw [publish_of_held found]
    exact stored
  | none =>
    rw [publish_of_fresh found]
    exact List.mem_append_left _ stored

theorem held_publish_of_held (found : stream.held messageId = some message) (other : String)
    (payload : Payload) :
    (stream.publish other payload).1.held messageId = some message := by
  cases duplicate : stream.held other with
  | some earlier =>
    rw [publish_of_held duplicate]
    exact found
  | none =>
    rw [publish_of_fresh duplicate]
    have stored : message ∈ (stream.append other payload duplicate).messages :=
      List.mem_append_left _ (held_mem found)
    rw [← held_messageId found]
    exact held_of_mem stored

theorem held_publish_of_ne {messageId other : String} (differ : other ≠ messageId)
    (unheld : stream.held other = none) (payload : Payload) :
    (stream.publish messageId payload).1.held other = none := by
  cases found : stream.held messageId with
  | some message =>
    rw [publish_of_held found]
    exact unheld
  | none =>
    rw [publish_of_fresh found, held_eq_none_iff, messages_append]
    intro message member
    rcases List.mem_append.mp member with old | isNew
    · exact held_eq_none_iff.mp unheld message old
    · rw [List.mem_singleton.mp isNew]
      exact differ.symm

def messagesFrom (stream : MessageStream Payload) (position : Nat) : List (Message Payload) :=
  stream.messages.filter fun message => position ≤ message.position

end MessageStream

end Twalk
