/-
This file is the theory of a log in which the last entry about something is the
one that counts. `latest` is the last entry a predicate concerns. A log grows at
its end, so what appending changes is what a reader has to know; a state that is
built by writing a log entry after entry reads, at each place, the value of the
last entry about that place. A log replayed twice over, or started from a
summary of one of its prefixes, therefore reads like the log itself.
-/

import Mathlib.Data.List.Pairwise

namespace Twalk

variable {Entry State Value : Type}

/-! ### The last entry about something -/

def latest (concerns : Entry → Bool) (log : List Entry) : Option Entry :=
  log.reverse.find? concerns

@[simp] theorem latest_nil (concerns : Entry → Bool) : latest concerns [] = none := rfl

theorem latest_concat (concerns : Entry → Bool) (log : List Entry) (entry : Entry) :
    latest concerns (log ++ [entry]) =
      if concerns entry then some entry else latest concerns log := by
  unfold latest
  rw [List.reverse_append, List.reverse_singleton, List.singleton_append, List.find?_cons]
  cases concerns entry <;> rfl

theorem latest_append (concerns : Entry → Bool) (front back : List Entry) :
    latest concerns (front ++ back) = (latest concerns back).or (latest concerns front) := by
  unfold latest
  rw [List.reverse_append, List.find?_append]

theorem latest_cons (concerns : Entry → Bool) (entry : Entry) (log : List Entry) :
    latest concerns (entry :: log) =
      (latest concerns log).or (if concerns entry then some entry else none) := by
  have single := latest_concat concerns [] entry
  rw [List.nil_append, latest_nil] at single
  rw [← List.singleton_append, latest_append, single]

variable {Row : Type}

theorem latest_map (concerns : Entry → Bool) (expand : Row → Entry) (rows : List Row) :
    latest concerns (rows.map expand) =
      (latest (fun row => concerns (expand row)) rows).map expand := by
  unfold latest
  rw [← List.map_reverse, List.find?_map]
  rfl

theorem latest_filter (concerns keep : Entry → Bool) (log : List Entry) :
    latest concerns (log.filter keep) = latest (fun entry => keep entry && concerns entry) log := by
  unfold latest
  rw [← List.filter_reverse, List.find?_filter]
  simp

variable {concerns : Entry → Bool} {log : List Entry} {entry : Entry}

theorem latest_concerns (found : latest concerns log = some entry) : concerns entry = true :=
  List.find?_some found

theorem latest_mem (found : latest concerns log = some entry) : entry ∈ log :=
  List.mem_reverse.mp (List.mem_of_find?_eq_some found)

variable {last : Entry}

theorem exists_split_of_latest (found : latest concerns log = some last) :
    ∃ front back, log = front ++ last :: back ∧ ∀ entry ∈ back, concerns entry = false := by
  obtain ⟨_, back, front, isReverse, misses⟩ := List.find?_eq_some_iff_append.mp found
  refine ⟨front.reverse, back.reverse, ?_, fun entry member => ?_⟩
  · have isLog := congrArg List.reverse isReverse
    simpa using isLog
  · simpa using misses entry (List.mem_reverse.mp member)

theorem latest_eq_of_implies {concerns narrow : Entry → Bool}
    (found : latest concerns log = some last) (concerned : narrow last = true)
    (implies : ∀ entry ∈ log, narrow entry = true → concerns entry = true) :
    latest narrow log = some last := by
  obtain ⟨front, back, rfl, silent⟩ := exists_split_of_latest found
  have quiet : latest narrow back = none := by
    unfold latest
    rw [List.find?_eq_none]
    intro entry member narrowed
    have inBack := List.mem_reverse.mp member
    have isConcerned := implies entry
      (List.mem_append_right _ (List.mem_cons_of_mem _ inBack)) narrowed
    rw [silent entry inBack] at isConcerned
    exact Bool.false_ne_true isConcerned
  rw [latest_append, latest_cons, quiet, Option.none_or, if_pos concerned, Option.some_or]

theorem latest_eq_none_iff :
    latest concerns log = none ↔ ∀ entry ∈ log, concerns entry = false := by
  unfold latest
  rw [List.find?_eq_none]
  simp only [List.mem_reverse, Bool.not_eq_true]

theorem exists_latest (member : entry ∈ log) (concerned : concerns entry = true) :
    ∃ last, latest concerns log = some last := by
  cases found : latest concerns log with
  | some last => exact ⟨last, rfl⟩
  | none =>
    rw [latest_eq_none_iff.mp found entry member] at concerned
    exact absurd concerned (by decide)

theorem latest_congr {concerns other : Entry → Bool}
    (agree : ∀ entry ∈ log, concerns entry = other entry) :
    latest concerns log = latest other log := by
  induction log with
  | nil => rfl
  | cons entry rest inductionHypothesis =>
    rw [latest_cons, latest_cons, agree entry List.mem_cons_self,
      inductionHypothesis fun later member => agree later (List.mem_cons_of_mem entry member)]

theorem latest_eq_of_unique (member : entry ∈ log) (concerned : concerns entry = true)
    (unique : ∀ other ∈ log, concerns other = true → other = entry) :
    latest concerns log = some entry := by
  obtain ⟨last, found⟩ := exists_latest member concerned
  rw [found, unique last (latest_mem found) (latest_concerns found)]

variable {rank : Entry → Nat}

theorem rank_le_of_latest_of_le
    (ordered : log.Pairwise fun earlier later => rank earlier ≤ rank later)
    (found : latest concerns log = some last) (member : entry ∈ log)
    (concerned : concerns entry = true) : rank entry ≤ rank last := by
  obtain ⟨front, back, rfl, silent⟩ := exists_split_of_latest found
  have before := (List.pairwise_append.mp ordered).2.2
  rcases List.mem_append.mp member with early | late
  · exact before entry early last List.mem_cons_self
  · rcases List.mem_cons.mp late with rfl | after
    · exact Nat.le_refl _
    · rw [silent entry after] at concerned
      exact absurd concerned Bool.false_ne_true

theorem rank_le_of_latest (ordered : log.Pairwise fun earlier later => rank earlier < rank later)
    (found : latest concerns log = some last) (member : entry ∈ log)
    (concerned : concerns entry = true) : rank entry ≤ rank last :=
  rank_le_of_latest_of_le (ordered.imp Nat.le_of_lt) found member concerned

theorem eq_of_rank_eq (ordered : log.Pairwise fun earlier later => rank earlier < rank later)
    {first second : Entry} (firstIn : first ∈ log) (secondIn : second ∈ log)
    (same : rank first = rank second) : first = second := by
  have symmetric : Std.Symm fun one other : Entry => rank one ≠ rank other :=
    ⟨fun _ _ unequal => unequal.symm⟩
  have separated : log.Pairwise fun one other => rank one ≠ rank other := ordered.imp Nat.ne_of_lt
  by_contra apart
  exact separated.forall firstIn secondIn apart same

theorem rank_le_end {front : List Entry}
    (ordered : (front ++ [last]).Pairwise fun earlier later => rank earlier < rank later)
    (member : entry ∈ front ++ [last]) : rank entry ≤ rank last := by
  rcases List.mem_append.mp member with early | isLast
  · exact Nat.le_of_lt
      ((List.pairwise_append.mp ordered).2.2 entry early last (List.mem_singleton_self _))
  · exact Nat.le_of_eq (congrArg rank (List.mem_singleton.mp isLast))

theorem latest_eq_of_rank (ordered : log.Pairwise fun earlier later => rank earlier < rank later)
    (member : entry ∈ log) (concerned : concerns entry = true)
    (greatest : ∀ other ∈ log, concerns other = true → rank other ≤ rank entry) :
    latest concerns log = some entry := by
  obtain ⟨last, found⟩ := exists_latest member concerned
  have below := rank_le_of_latest ordered found member concerned
  have above := greatest last (latest_mem found) (latest_concerns found)
  rw [found, eq_of_rank_eq ordered (latest_mem found) member (Nat.le_antisymm above below)]

variable {value : Entry → Value}

theorem latest_map_eq {said : Value}
    (constant : ∀ entry ∈ log, concerns entry = true → value entry = said) :
    (latest concerns log).map value = if log.any concerns then some said else none := by
  cases found : latest concerns log with
  | some last =>
    have concerned := latest_concerns found
    have present : log.any concerns = true :=
      List.any_eq_true.mpr ⟨last, latest_mem found, concerned⟩
    rw [if_pos present, Option.map_some, constant last (latest_mem found) concerned]
  | none =>
    have absent : ¬log.any concerns = true := fun present => by
      obtain ⟨entry, member, concerned⟩ := List.any_eq_true.mp present
      rw [latest_eq_none_iff.mp found entry member] at concerned
      exact absurd concerned Bool.false_ne_true
    rw [if_neg absent, Option.map_none]

theorem latest_map_of_summary {summary : List Entry} {rows : List Row} {concernsRow : Row → Bool}
    {valueRow : Row → Value} (sound : ∀ entry ∈ summary, concerns entry = true →
      ∃ row, latest concernsRow rows = some row ∧ value entry = valueRow row)
    (complete : ∀ row, latest concernsRow rows = some row →
      ∃ entry ∈ summary, concerns entry = true) :
    (latest concerns summary).map value = (latest concernsRow rows).map valueRow := by
  cases found : latest concerns summary with
  | some entry =>
    obtain ⟨row, last, same⟩ := sound entry (latest_mem found) (latest_concerns found)
    rw [last, Option.map_some, Option.map_some, same]
  | none =>
    cases last : latest concernsRow rows with
    | none => rfl
    | some row =>
      obtain ⟨entry, member, concerned⟩ := complete row last
      rw [latest_eq_none_iff.mp found entry member] at concerned
      exact absurd concerned Bool.false_ne_true

theorem latest_flatMap_map {expand : Row → List Entry} {concernsRow : Row → Bool}
    {valueRow : Row → Value} {rows : List Row}
    (each : ∀ row ∈ rows, (latest concerns (expand row)).map value =
      if concernsRow row then some (valueRow row) else none) :
    (latest concerns (rows.flatMap expand)).map value =
      (latest concernsRow rows).map valueRow := by
  induction rows with
  | nil => rfl
  | cons row rest inductionHypothesis =>
    rw [List.flatMap_cons, latest_append, latest_cons, Option.map_or, Option.map_or,
      each row List.mem_cons_self,
      inductionHypothesis fun later member => each later (List.mem_cons_of_mem row member)]
    split <;> rfl

/-! ### A log of moves -/

section Moves

variable (source target : Entry → Value)

def arrival (start : Value) (log : List Entry) : Value :=
  log.foldl (fun _ entry => target entry) start

/-- Every entry of a log moves from where the entries before it led to, and to somewhere else. -/
def Moves : Value → List Entry → Prop
  | _, [] => True
  | start, entry :: rest =>
    source entry = start ∧ source entry ≠ target entry ∧ Moves (target entry) rest

@[simp] theorem arrival_nil (start : Value) : arrival target start [] = start := rfl

@[simp] theorem arrival_concat (start : Value) (log : List Entry) (entry : Entry) :
    arrival target start (log ++ [entry]) = target entry := by
  unfold arrival
  rw [List.foldl_append]
  rfl

theorem moves_concat {source target : Entry → Value} {start : Value}
    (moves : Moves source target start log) (starts : source entry = arrival target start log)
    (leaves : source entry ≠ target entry) : Moves source target start (log ++ [entry]) := by
  induction log generalizing start with
  | nil => exact ⟨starts, leaves, trivial⟩
  | cons first rest inductionHypothesis =>
    obtain ⟨firstStarts, firstLeaves, restMoves⟩ := moves
    exact ⟨firstStarts, firstLeaves, inductionHypothesis restMoves starts⟩

theorem arrival_filter {target : Entry → Value} (concerns : Entry → Bool) (start : Value)
    (log : List Entry) :
    arrival target start (log.filter concerns) =
      ((latest concerns log).map target).getD start := by
  induction log generalizing start with
  | nil => rfl
  | cons entry rest inductionHypothesis =>
    rw [List.filter_cons, latest_cons]
    cases concerned : concerns entry with
    | true =>
      show arrival target (target entry) (rest.filter concerns) = _
      rw [inductionHypothesis]
      cases latest concerns rest <;> rfl
    | false =>
      show arrival target start (rest.filter concerns) = _
      rw [inductionHypothesis]
      cases latest concerns rest <;> rfl

end Moves

/-! ### The changes of a log -/

section Changes

variable [DecidableEq Value]

def changes (log : List Value) : List Value :=
  log.foldl (fun told value => if told.getLast? = some value then told else told ++ [value]) []

theorem changes_concat (log : List Value) (value : Value) :
    changes (log ++ [value]) =
      if (changes log).getLast? = some value then changes log else changes log ++ [value] := by
  unfold changes
  rw [List.foldl_append]
  rfl

theorem getLast?_changes (log : List Value) : (changes log).getLast? = log.getLast? := by
  rcases List.eq_nil_or_concat log with rfl | ⟨front, value, rfl⟩
  · rfl
  · rw [List.concat_eq_append, changes_concat, List.getLast?_concat]
    split
    · assumption
    · rw [List.getLast?_concat]

end Changes

/-! ### A state written entry after entry -/

theorem read_foldl (read : State → Option Value) {write : State → Entry → State}
    {concerns : Entry → Bool} {value : Entry → Value}
    (hit : ∀ state entry, concerns entry = true → read (write state entry) = some (value entry))
    (miss : ∀ state entry, concerns entry = false → read (write state entry) = read state)
    (log : List Entry) (start : State) :
    read (log.foldl write start) = ((latest concerns log).map value).or (read start) := by
  induction log generalizing start with
  | nil => rfl
  | cons entry rest inductionHypothesis =>
    rw [List.foldl_cons, inductionHypothesis, latest_cons]
    rcases later : latest concerns rest with _ | newer
    · cases concerned : concerns entry with
      | true => simp [hit start entry concerned]
      | false => simp [miss start entry concerned]
    · simp

theorem latest_or_latest_prefix (concerns : Entry → Bool) (front back : List Entry) :
    (latest concerns (front ++ back)).or (latest concerns front) =
      latest concerns (front ++ back) := by
  rw [latest_append, Option.or_assoc]
  cases latest concerns front <;> simp

end Twalk
