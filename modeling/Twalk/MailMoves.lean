/-
This file models the journal of what the owner's triage rules moved and the queue of what is to be
put back: `record_mail_move`, `request_mail_undo` and `pending_mail_undos` of
`companion-gateway/src/store.rs`, over the table of its twenty-first migration. A move is journalled
once for a mail of a connection at an instant. An undo is a move of its own that names the move it
reverses, and the report of it takes that move off the queue, whether or not it was journalled.
-/

import Twalk.Library.System
import Mathlib.Data.List.Nodup

namespace Twalk.MailMoves

/-! ### The journal -/

/-- One move, as the collector reports it and as the journal holds it. -/
structure Move where
  connection : String
  emailId : String
  ruleId : String
  fromMailboxId : String
  fromMailboxName : String
  toMailboxId : String
  toMailboxName : String
  occurredAt : String
  undoes : Option Int
deriving DecidableEq, Repr

/-- What no two recorded moves have in common. -/
def Move.key (moved : Move) : String × String × String :=
  (moved.connection, moved.emailId, moved.occurredAt)

/-- A row of `mail_move`. -/
structure Recorded where
  sequence : Int
  moved : Move
  undoRequestedAt : Option String
deriving DecidableEq, Repr

/-- The journal, with what its schema enforces: the sequences grow, a mail of a connection is moved
once at an instant, and an undo names a move that is recorded. -/
structure Journal where
  rows : List Recorded
  ordered : rows.Pairwise fun earlier later => earlier.sequence < later.sequence
  once : (rows.map fun row => row.moved.key).Nodup
  undoesRecorded : ∀ row ∈ rows, ∀ sequence ∈ row.moved.undoes,
    sequence ∈ rows.map Recorded.sequence

variable {burnt : Nat}

variable {moved : Move}

namespace Journal

def empty : Journal where
  rows := []
  ordered := List.Pairwise.nil
  once := List.nodup_nil
  undoesRecorded := List.forall_mem_nil _

def Undone (journal : Journal) (sequence : Int) : Prop :=
  ∃ row ∈ journal.rows, row.moved.undoes = some sequence

instance (journal : Journal) (sequence : Int) : Decidable (journal.Undone sequence) :=
  inferInstanceAs (Decidable (∃ row ∈ journal.rows, row.moved.undoes = some sequence))

def nextSequence (journal : Journal) (burnt : Nat) : Int :=
  ((journal.rows.getLast?.map Recorded.sequence).getD 0) + 1 + burnt

theorem sequence_lt_nextSequence (journal : Journal) (burnt : Nat) {row : Recorded}
    (member : row ∈ journal.rows) : row.sequence < journal.nextSequence burnt := by
  unfold nextSequence
  have last : ∀ {rows : List Recorded},
      (rows.Pairwise fun earlier later => earlier.sequence < later.sequence) → row ∈ rows →
        row.sequence ≤ (rows.getLast?.map Recorded.sequence).getD 0 := by
    intro rows ordered inRows
    cases isLast : rows.getLast? with
    | none =>
      rw [List.getLast?_eq_none_iff.mp isLast] at inRows
      cases inRows
    | some final =>
      obtain ⟨front, rfl⟩ := List.getLast?_eq_some_iff.mp isLast
      show row.sequence ≤ final.sequence
      rcases List.mem_append.mp inRows with before | isFinal
      · exact Int.le_of_lt ((List.pairwise_append.mp ordered).2.2 row before final
          (List.mem_singleton_self final))
      · exact Int.le_of_eq (congrArg Recorded.sequence (List.mem_singleton.mp isFinal))
  have bound := last journal.ordered member
  omega

def Points (journal : Journal) (moved : Move) (burnt : Nat) : Prop :=
  ∀ sequence ∈ moved.undoes,
    sequence ∈ journal.rows.map Recorded.sequence ∨ sequence = journal.nextSequence burnt

instance (journal : Journal) (moved : Move) (burnt : Nat) :
    Decidable (journal.Points moved burnt) := by
  unfold Points
  infer_instance

def insert (journal : Journal) (moved : Move) (burnt : Nat)
    (new : moved.key ∉ journal.rows.map fun row => row.moved.key)
    (points : journal.Points moved burnt) : Journal where
  rows := journal.rows ++ [⟨journal.nextSequence burnt, moved, none⟩]
  ordered := List.pairwise_append.mpr ⟨journal.ordered, List.pairwise_singleton _ _, by
    intro earlier member later isNew
    rw [List.mem_singleton.mp isNew]
    exact journal.sequence_lt_nextSequence burnt member⟩
  once := by
    rw [List.map_append, List.map_singleton, ← List.concat_eq_append]
    exact List.Nodup.concat new journal.once
  undoesRecorded := by
    intro row member sequence undoes
    rw [List.map_append, List.mem_append, List.map_singleton, List.mem_singleton]
    rcases List.mem_append.mp member with before | isNew
    · exact .inl (journal.undoesRecorded row before sequence undoes)
    · rw [List.mem_singleton.mp isNew] at undoes
      exact points sequence undoes

/-- The one column that changes after the fact. -/
def setRequests (journal : Journal) (request : Recorded → Option String) : Journal where
  rows := journal.rows.map fun row => { row with undoRequestedAt := request row }
  ordered := List.pairwise_map.mpr journal.ordered
  once := by
    rw [List.map_map]
    exact journal.once
  undoesRecorded := by
    intro row member sequence undoes
    obtain ⟨other, isOther, rfl⟩ := List.mem_map.mp member
    rw [List.map_map]
    exact journal.undoesRecorded other isOther sequence undoes

def settle (journal : Journal) (moved : Move) : Journal :=
  match moved.undoes with
  | none => journal
  | some undone => journal.setRequests fun row =>
      if row.sequence = undone then none else row.undoRequestedAt

/-- `record_mail_move`: whether the move is new, unless the move it points at is unknown. -/
def recordMailMove (journal : Journal) (moved : Move) (burnt : Nat) :
    Except String (Journal × Bool) :=
  if known : moved.key ∈ journal.rows.map fun row => row.moved.key then
    .ok (journal.settle moved, false)
  else if points : journal.Points moved burnt then
    .ok ((journal.insert moved burnt known points).settle moved, true)
  else .error "FOREIGN KEY constraint failed"

/-- A rule's move that nobody asked about and that was not undone. -/
def Undoable (journal : Journal) (sequence : Int) (row : Recorded) : Prop :=
  row.sequence = sequence ∧ row.moved.undoes = none ∧ row.undoRequestedAt = none ∧
    ¬journal.Undone sequence

instance (journal : Journal) (sequence : Int) : DecidablePred (journal.Undoable sequence) :=
  fun _ => inferInstanceAs (Decidable (_ ∧ _))

def requestMailUndo (journal : Journal) (sequence : Int) (instant : String) : Journal × Bool :=
  (journal.setRequests fun row =>
      if journal.Undoable sequence row then some instant else row.undoRequestedAt,
    journal.rows.any fun row => decide (journal.Undoable sequence row))

/-- `pending_mail_undos`: the undos that are asked for and not done, oldest first. -/
def pendingMailUndos (journal : Journal) : List Recorded :=
  journal.rows.filter fun row => row.undoRequestedAt.isSome

def IsPending (journal : Journal) (sequence : Int) : Prop :=
  ∃ row ∈ journal.pendingMailUndos, row.sequence = sequence

/-! ### What each call does to the journal -/

def moves (journal : Journal) : List (Int × Move) :=
  journal.rows.map fun row => (row.sequence, row.moved)

variable {journal : Journal} {sequence : Int}

theorem mem_moves_iff :
    (sequence, moved) ∈ journal.moves ↔
      ∃ row ∈ journal.rows, row.sequence = sequence ∧ row.moved = moved := by
  simp only [moves, List.mem_map, Prod.mk.injEq]

def Has (journal : Journal) (moved : Move) : Prop :=
  ∃ row ∈ journal.rows, row.moved = moved

theorem has_iff :
    journal.Has moved ↔ ∃ sequence, (sequence, moved) ∈ journal.moves := by
  simp only [mem_moves_iff, Has]
  exact ⟨fun ⟨row, member, same⟩ => ⟨row.sequence, row, member, rfl, same⟩,
    fun ⟨_, row, member, _, same⟩ => ⟨row, member, same⟩⟩

theorem undone_iff :
    journal.Undone sequence ↔ ∃ moved, journal.Has moved ∧ moved.undoes = some sequence :=
  ⟨fun ⟨row, member, undoes⟩ => ⟨row.moved, ⟨row, member, rfl⟩, undoes⟩,
    fun ⟨_, ⟨row, member, rfl⟩, undoes⟩ => ⟨row, member, undoes⟩⟩

theorem isPending_iff :
    journal.IsPending sequence ↔
      ∃ row ∈ journal.rows, row.sequence = sequence ∧ row.undoRequestedAt.isSome = true := by
  simp only [IsPending, pendingMailUndos, List.mem_filter]
  exact exists_congr fun row => ⟨fun ⟨⟨member, asks⟩, named⟩ => ⟨member, named, asks⟩,
    fun ⟨member, named, asks⟩ => ⟨⟨member, asks⟩, named⟩⟩

@[simp] theorem moves_setRequests (journal : Journal) (request : Recorded → Option String) :
    (journal.setRequests request).moves = journal.moves := by
  simp only [moves, setRequests, List.map_map]
  rfl

@[simp] theorem moves_settle (journal : Journal) (moved : Move) :
    (journal.settle moved).moves = journal.moves := by
  unfold settle
  cases moved.undoes with
  | none => rfl
  | some undone => exact moves_setRequests journal _

theorem moves_insert (journal : Journal) (moved : Move) (burnt : Nat)
    (new : moved.key ∉ journal.rows.map fun row => row.moved.key)
    (points : journal.Points moved burnt) :
    (journal.insert moved burnt new points).moves =
      journal.moves ++ [(journal.nextSequence burnt, moved)] := by
  simp only [moves, insert, List.map_append, List.map_singleton]

theorem isPending_setRequests {request : Recorded → Option String} :
    (journal.setRequests request).IsPending sequence ↔
      ∃ row ∈ journal.rows, row.sequence = sequence ∧ (request row).isSome = true := by
  rw [isPending_iff]
  constructor
  · rintro ⟨row, member, named, asks⟩
    obtain ⟨before, isBefore, rfl⟩ := List.mem_map.mp member
    exact ⟨before, isBefore, named, asks⟩
  · rintro ⟨row, member, named, asks⟩
    exact ⟨_, List.mem_map_of_mem member, named, asks⟩

theorem isPending_settle :
    (journal.settle moved).IsPending sequence ↔
      journal.IsPending sequence ∧ moved.undoes ≠ some sequence := by
  unfold settle
  cases moved.undoes with
  | none => exact ⟨fun pending => ⟨pending, nofun⟩, And.left⟩
  | some undone =>
    dsimp only
    rw [isPending_setRequests, isPending_iff]
    constructor
    · rintro ⟨row, member, rfl, asks⟩
      have other : row.sequence ≠ undone := by
        intro same
        rw [if_pos same] at asks
        cases asks
      rw [if_neg other] at asks
      exact ⟨⟨row, member, rfl, asks⟩, fun same => other (Option.some.inj same).symm⟩
    · rintro ⟨⟨row, member, rfl, asks⟩, other⟩
      refine ⟨row, member, rfl, ?_⟩
      rw [if_neg fun same => other (congrArg some same.symm)]
      exact asks

theorem isPending_insert (new : moved.key ∉ journal.rows.map fun row => row.moved.key)
    (points : journal.Points moved burnt) :
    (journal.insert moved burnt new points).IsPending sequence ↔ journal.IsPending sequence := by
  rw [isPending_iff, isPending_iff]
  constructor
  · rintro ⟨row, member, named, asks⟩
    rcases List.mem_append.mp member with before | isNew
    · exact ⟨row, before, named, asks⟩
    · rw [List.mem_singleton.mp isNew] at asks
      cases asks
  · rintro ⟨row, member, named, asks⟩
    exact ⟨row, List.mem_append_left _ member, named, asks⟩

theorem taken_iff {instant : String} :
    (journal.requestMailUndo sequence instant).2 = true ↔
      ∃ row ∈ journal.rows, journal.Undoable sequence row := by
  simp only [requestMailUndo, List.any_eq_true, decide_eq_true_eq]

theorem moves_requestMailUndo (journal : Journal) (sequence : Int) (instant : String) :
    (journal.requestMailUndo sequence instant).1.moves = journal.moves :=
  moves_setRequests journal _

theorem isPending_requestMailUndo {sequence other : Int} {instant : String} :
    (journal.requestMailUndo sequence instant).1.IsPending other ↔ journal.IsPending other ∨
      (journal.requestMailUndo sequence instant).2 = true ∧ other = sequence := by
  rw [taken_iff, requestMailUndo, isPending_setRequests, isPending_iff]
  constructor
  · rintro ⟨row, member, rfl, asks⟩
    by_cases undoable : journal.Undoable sequence row
    · exact .inr ⟨⟨row, member, undoable⟩, undoable.1⟩
    · rw [if_neg undoable] at asks
      exact .inl ⟨row, member, rfl, asks⟩
  · rintro (⟨row, member, named, asks⟩ | ⟨⟨row, member, undoable⟩, rfl⟩)
    · refine ⟨row, member, named, ?_⟩
      by_cases undoable : journal.Undoable sequence row
      · rw [if_pos undoable]
        rfl
      · rw [if_neg undoable]
        exact asks
    · exact ⟨row, member, undoable.1, by rw [if_pos undoable]; rfl⟩

/-- What a report does, whatever it says: it is in the journal already, or becomes its last row, or
nothing changes because it points at no recorded move. -/
theorem recordMailMove_cases (journal : Journal) (moved : Move) (burnt : Nat) :
    (moved.key ∈ (journal.rows.map fun row => row.moved.key) ∧
      journal.recordMailMove moved burnt = .ok (journal.settle moved, false)) ∨
    (∃ (new : moved.key ∉ journal.rows.map fun row => row.moved.key)
        (points : journal.Points moved burnt), journal.recordMailMove moved burnt =
          .ok ((journal.insert moved burnt new points).settle moved, true)) ∨
    (moved.key ∉ (journal.rows.map fun row => row.moved.key) ∧ ¬journal.Points moved burnt ∧
      journal.recordMailMove moved burnt = .error "FOREIGN KEY constraint failed") := by
  unfold recordMailMove
  by_cases known : moved.key ∈ journal.rows.map fun row => row.moved.key
  · exact .inl ⟨known, dif_pos known⟩
  · rw [dif_neg known]
    by_cases points : journal.Points moved burnt
    · exact .inr (.inl ⟨known, points, dif_pos points⟩)
    · exact .inr (.inr ⟨known, points, dif_neg points⟩)

theorem existsUnique_of_has (has : journal.Has moved) :
    ∃! row, row ∈ journal.rows ∧ row.moved = moved := by
  obtain ⟨row, member, rfl⟩ := has
  refine ⟨row, ⟨member, rfl⟩, ?_⟩
  rintro other ⟨isOther, same⟩
  exact List.inj_on_of_nodup_map journal.once isOther member (congrArg Move.key same)

end Journal

/-! ### Runs -/

/-- The journal, with what was reported and which undos were taken so far. -/
structure Desk where
  journal : Journal
  reported : List Move
  asked : List Int

def Desk.opened : Desk := ⟨Journal.empty, [], []⟩

inductive Call where
  | reports (moved : Move) (burnt : Nat)
  | asks (sequence : Int) (instant : String)

def Desk.after (desk : Desk) : Call → Desk
  | .reports moved burnt => {
      journal := match desk.journal.recordMailMove moved burnt with
        | .ok (journal, _) => journal
        | .error _ => desk.journal
      reported := desk.reported ++ [moved]
      asked := desk.asked }
  | .asks sequence instant => {
      journal := (desk.journal.requestMailUndo sequence instant).1
      reported := desk.reported
      asked := if (desk.journal.requestMailUndo sequence instant).2 then
          desk.asked ++ [sequence]
        else desk.asked }

/-- The queue loses nothing: each reported move or undo has its one row, an undo that was taken is
pending exactly as long as no row points at its move, and nothing that was undone is pending. -/
structure LosesNothing (desk : Desk) : Prop where
  journalled : ∀ moved ∈ desk.reported, ∃! row, row ∈ desk.journal.rows ∧ row.moved = moved
  queued : ∀ sequence ∈ desk.asked,
    desk.journal.IsPending sequence ↔ ¬desk.journal.Undone sequence
  settled : ∀ sequence, desk.journal.Undone sequence → ¬desk.journal.IsPending sequence

/-- What is true of any call: an undo is taken only of a rule's move that is in the journal, is not
pending and was not undone, and of a row nothing changes but whether its undo is asked for. -/
structure Truthful (journal : Journal) : Prop where
  taken : ∀ sequence instant, (journal.requestMailUndo sequence instant).2 = true →
    (∃ row ∈ journal.rows, row.sequence = sequence ∧ row.moved.undoes = none) ∧
      ¬journal.IsPending sequence ∧ ¬journal.Undone sequence
  kept : ∀ call, ∀ row ∈ journal.rows, ∀ reported asked,
    ∃ later ∈ (Desk.after ⟨journal, reported, asked⟩ call).journal.rows,
      later.sequence = row.sequence ∧ later.moved = row.moved

/-- A report says something the journal can hold: what it holds already, or a move of a mail that was
not moved at that instant and that points at a recorded move, if at any. -/
def Tells (desk : Desk) : Call → Prop
  | .reports moved burnt => (∃ row ∈ desk.journal.rows, row.moved = moved) ∨
      (moved.key ∉ desk.journal.rows.map fun row => row.moved.key) ∧
        desk.journal.Points moved burnt
  | .asks _ _ => True

/-! ### What a call keeps -/

theorem moves_reports (desk : Desk) (moved : Move) (burnt : Nat) :
    (desk.after (.reports moved burnt)).journal.moves = desk.journal.moves ∨
      ∃ sequence, (desk.after (.reports moved burnt)).journal.moves =
        desk.journal.moves ++ [(sequence, moved)] := by
  rcases desk.journal.recordMailMove_cases moved burnt with
    ⟨_, isOk⟩ | ⟨new, points, isOk⟩ | ⟨_, _, isError⟩
  · simp only [Desk.after, isOk]
    exact .inl (desk.journal.moves_settle moved)
  · simp only [Desk.after, isOk, Journal.moves_settle]
    exact .inr ⟨_, desk.journal.moves_insert moved burnt new points⟩
  · exact .inl (by simp only [Desk.after, isError])

theorem moves_asks (desk : Desk) (sequence : Int) (instant : String) :
    (desk.after (.asks sequence instant)).journal.moves = desk.journal.moves :=
  desk.journal.moves_requestMailUndo sequence instant

variable {desk : Desk}

theorem tells_of_has (has : (desk.after (.reports moved burnt)).journal.Has moved) :
    Tells desk (.reports moved burnt) := by
  rcases desk.journal.recordMailMove_cases moved burnt with
    ⟨_, isOk⟩ | ⟨new, points, _⟩ | ⟨_, _, isError⟩
  · simp only [Desk.after, isOk] at has
    rw [Journal.has_iff, Journal.moves_settle, ← Journal.has_iff] at has
    exact .inl has
  · exact .inr ⟨new, points⟩
  · simp only [Desk.after, isError] at has
    exact .inl has

theorem reports_of_tells (tells : Tells desk (.reports moved burnt)) :
    (∀ other, (desk.after (.reports moved burnt)).journal.Has other ↔
        desk.journal.Has other ∨ other = moved) ∧
      ∀ sequence, (desk.after (.reports moved burnt)).journal.IsPending sequence ↔
        desk.journal.IsPending sequence ∧ moved.undoes ≠ some sequence := by
  rcases desk.journal.recordMailMove_cases moved burnt with
    ⟨known, isOk⟩ | ⟨new, points, isOk⟩ | ⟨new, dangles, _⟩
  · have has : desk.journal.Has moved := by
      rcases tells with has | ⟨new, _⟩
      · exact has
      · exact absurd known new
    simp only [Desk.after, isOk]
    refine ⟨fun other => ?_, fun sequence => Journal.isPending_settle⟩
    rw [Journal.has_iff, Journal.moves_settle, ← Journal.has_iff]
    exact ⟨.inl, fun either => either.elim id fun same => same ▸ has⟩
  · simp only [Desk.after, isOk]
    refine ⟨fun other => ?_, fun sequence => ?_⟩
    · simp only [Journal.has_iff, Journal.moves_settle,
        desk.journal.moves_insert moved burnt new points, List.mem_append, List.mem_singleton,
        Prod.mk.injEq, exists_or, exists_eq_left]
    · rw [Journal.isPending_settle, Journal.isPending_insert]
  · rcases tells with ⟨row, member, rfl⟩ | ⟨_, points⟩
    · exact absurd (List.mem_map_of_mem member) new
    · exact absurd points dangles

theorem losesNothing_reports_iff (whole : LosesNothing desk) (moved : Move) (burnt : Nat) :
    LosesNothing (desk.after (.reports moved burnt)) ↔ Tells desk (.reports moved burnt) := by
  constructor
  · intro later
    obtain ⟨row, ⟨member, same⟩, _⟩ := later.journalled moved
      (List.mem_append_right _ (List.mem_singleton_self moved))
    exact tells_of_has ⟨row, member, same⟩
  · intro tells
    obtain ⟨has, pending⟩ := reports_of_tells tells
    have undone : ∀ sequence, (desk.after (.reports moved burnt)).journal.Undone sequence ↔
        desk.journal.Undone sequence ∨ moved.undoes = some sequence := by
      intro sequence
      simp only [Journal.undone_iff, has, or_and_right, exists_or, exists_eq_left]
    refine ⟨fun other reported => ?_, fun sequence asked => ?_, fun sequence isUndone => ?_⟩
    · apply Journal.existsUnique_of_has
      rcases List.mem_append.mp reported with before | isNew
      · obtain ⟨row, ⟨member, same⟩, _⟩ := whole.journalled other before
        exact (has other).mpr (.inl ⟨row, member, same⟩)
      · exact (has other).mpr (.inr (List.mem_singleton.mp isNew))
    · rw [pending sequence, undone sequence, whole.queued sequence asked, not_or]
    · rw [pending sequence]
      rintro ⟨still, other⟩
      exact ((undone sequence).mp isUndone).elim (fun before => whole.settled sequence before still)
        other

theorem undone_asks (desk : Desk) (asked sequence : Int) (instant : String) :
    (desk.after (.asks asked instant)).journal.Undone sequence ↔
      desk.journal.Undone sequence := by
  simp only [Journal.undone_iff, Journal.has_iff, moves_asks]

theorem losesNothing_asks (whole : LosesNothing desk) (sequence : Int) (instant : String) :
    LosesNothing (desk.after (.asks sequence instant)) := by
  have pending : ∀ other, (desk.after (.asks sequence instant)).journal.IsPending other ↔
      desk.journal.IsPending other ∨
        (desk.journal.requestMailUndo sequence instant).2 = true ∧ other = sequence :=
    fun other => Journal.isPending_requestMailUndo
  have settled : ∀ other, desk.journal.Undone other →
      ¬(desk.after (.asks sequence instant)).journal.IsPending other := by
    rintro other isUndone isPending
    rcases (pending other).mp isPending with before | ⟨taken, rfl⟩
    · exact whole.settled other isUndone before
    · obtain ⟨_, _, _, _, _, notUndone⟩ := Journal.taken_iff.mp taken
      exact notUndone isUndone
  refine ⟨fun moved reported => ?_, fun other asked => ?_, fun other isUndone => ?_⟩
  · obtain ⟨row, ⟨member, same⟩, _⟩ := whole.journalled moved reported
    apply Journal.existsUnique_of_has
    rw [Journal.has_iff, moves_asks, ← Journal.has_iff]
    exact ⟨row, member, same⟩
  · rw [undone_asks]
    refine ⟨fun isPending isUndone => settled other isUndone isPending, fun notUndone => ?_⟩
    refine (pending other).mpr ?_
    simp only [Desk.after] at asked
    split at asked
    · rename_i taken
      rcases List.mem_append.mp asked with before | isNew
      · exact .inl ((whole.queued other before).mpr notUndone)
      · exact .inr ⟨taken, List.mem_singleton.mp isNew⟩
    · exact .inl ((whole.queued other asked).mpr notUndone)
  · exact settled other ((undone_asks desk sequence other instant).mp isUndone)

theorem losesNothing_opened : LosesNothing Desk.opened :=
  ⟨List.forall_mem_nil _, List.forall_mem_nil _, fun _ ⟨_, member, _⟩ => nomatch member⟩

theorem losesNothing_after_iff (desk : Desk) (call : Call) (whole : LosesNothing desk) :
    LosesNothing (desk.after call) ↔ Tells desk call := by
  cases call with
  | reports moved burnt => exact losesNothing_reports_iff whole moved burnt
  | asks sequence instant => exact ⟨fun _ => trivial, fun _ => losesNothing_asks whole _ _⟩

theorem truthful (journal : Journal) : Truthful journal where
  taken := by
    intro sequence instant taken
    obtain ⟨row, member, named, ofARule, notAsked, notUndone⟩ := Journal.taken_iff.mp taken
    refine ⟨⟨row, member, named, ofARule⟩, fun isPending => ?_, notUndone⟩
    obtain ⟨other, isOther, sameSequence, asks⟩ := Journal.isPending_iff.mp isPending
    have same : other = row := List.inj_on_of_nodup_map
      (List.Pairwise.map Recorded.sequence (fun _ _ before => Int.ne_of_lt before) journal.ordered)
      isOther member (sameSequence.trans named.symm)
    rw [same, notAsked] at asks
    cases asks
  kept := by
    intro call row member reported asked
    have before : (row.sequence, row.moved) ∈ journal.moves :=
      Journal.mem_moves_iff.mpr ⟨row, member, rfl, rfl⟩
    apply Journal.mem_moves_iff.mp
    cases call with
    | reports moved burnt =>
      rcases moves_reports ⟨journal, reported, asked⟩ moved burnt with same | ⟨sequence, grown⟩
      · exact same ▸ before
      · exact grown ▸ List.mem_append_left _ before
    | asks sequence instant => exact moves_asks ⟨journal, reported, asked⟩ sequence instant ▸ before

/-- The queue loses nothing in the runs whose reports all say what the journal can hold, and in no
others; an undo that is taken is one of a recorded move of a rule that is neither pending nor done,
and nothing of a recorded move changes but whether its undo is asked for, in every run. -/
theorem losesNothing_iff (calls : List Call) :
    ((∀ front, front <+: calls → LosesNothing (run Desk.after Desk.opened front)) ↔
        Along Desk.after Tells Desk.opened calls) ∧
      Truthful (run Desk.after Desk.opened calls).journal :=
  ⟨invariant_along_iff LosesNothing losesNothing_after_iff losesNothing_opened calls,
    truthful _⟩

namespace OneMail

def byRule : Move where
  connection := "mail"
  emailId := "M1"
  ruleId := "rule-1"
  fromMailboxId := "inbox"
  fromMailboxName := "Inbox"
  toMailboxId := "invoices"
  toMailboxName := "Invoices"
  occurredAt := "2026-07-26T10:00:00Z"
  undoes := none

def putBack : Move where
  connection := "mail"
  emailId := "M1"
  ruleId := "rule-1"
  fromMailboxId := "invoices"
  fromMailboxName := "Invoices"
  toMailboxId := "inbox"
  toMailboxName := "Inbox"
  occurredAt := "2026-07-26T10:00:00Z"
  undoes := some 1

def withinOneSecond : List Call :=
  [.reports byRule 0, .asks 1 "2026-07-26T10:00:00Z", .reports putBack 0]

/-- The undo is not recorded, and is no longer asked for either. -/
theorem neitherPending_nor_undone_withinOneSecond :
    ¬LosesNothing (run Desk.after Desk.opened withinOneSecond) ∧
      1 ∈ (run Desk.after Desk.opened withinOneSecond).asked ∧
      ¬(run Desk.after Desk.opened withinOneSecond).journal.IsPending 1 ∧
      ¬(run Desk.after Desk.opened withinOneSecond).journal.Undone 1 := by
  have notPending : (run Desk.after Desk.opened withinOneSecond).journal.pendingMailUndos = [] :=
    rfl
  have notUndone : ¬(run Desk.after Desk.opened withinOneSecond).journal.Undone 1 := by decide
  have asked : 1 ∈ (run Desk.after Desk.opened withinOneSecond).asked := by decide
  have offTheQueue : ¬(run Desk.after Desk.opened withinOneSecond).journal.IsPending 1 := by
    rintro ⟨row, member, _⟩
    rw [notPending] at member
    cases member
  exact ⟨fun whole => offTheQueue ((whole.queued 1 asked).mpr notUndone), asked, offTheQueue,
    notUndone⟩

end OneMail

end Twalk.MailMoves
