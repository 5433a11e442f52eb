/-
This file is the theory of half-open intervals of a linear order, as a calendar has them. A list of
intervals is canonical when each is non-empty and starts strictly after the one before it has
stopped. Such a list is the only canonical one that covers what it covers, so that whatever coalesces
intervals into a canonical list without changing what is covered does not depend on their order.
What a list of intervals leaves of a stretch of time is a list of stretches, and what is left is what
is not covered.
-/

import Mathlib.Data.List.Sort
import Mathlib.Order.MinMax

namespace Twalk

structure Interval (Instant : Type) where
  start : Instant
  stop : Instant
deriving DecidableEq, Repr

namespace Interval

variable {Instant : Type} [LinearOrder Instant]

/-! ### What is covered -/

def Contains (interval : Interval Instant) (instant : Instant) : Prop :=
  interval.start ≤ instant ∧ instant < interval.stop

instance (interval : Interval Instant) (instant : Instant) :
    Decidable (interval.Contains instant) :=
  inferInstanceAs (Decidable (_ ∧ _))

def Covered (intervals : List (Interval Instant)) (instant : Instant) : Prop :=
  ∃ interval ∈ intervals, interval.Contains instant

@[simp] theorem not_covered_nil (instant : Instant) :
    ¬Covered ([] : List (Interval Instant)) instant := by
  rintro ⟨_, member, _⟩
  exact List.not_mem_nil member

variable {interval : Interval Instant} {rest : List (Interval Instant)} {instant : Instant}

@[simp] theorem covered_cons :
    Covered (interval :: rest) instant ↔ interval.Contains instant ∨ Covered rest instant :=
  List.exists_mem_cons_iff _ _ _

@[simp] theorem covered_append {front back : List (Interval Instant)} :
    Covered (front ++ back) instant ↔ Covered front instant ∨ Covered back instant := by
  unfold Covered
  simp only [List.mem_append, or_and_right, exists_or]

theorem covered_congr {intervals others : List (Interval Instant)}
    (same : ∀ interval, interval ∈ intervals ↔ interval ∈ others) (instant : Instant) :
    Covered intervals instant ↔ Covered others instant := by
  unfold Covered
  simp only [same]

/-! ### Canonical lists -/

/-- Each interval is non-empty and starts strictly after the one before it has stopped. -/
structure Canonical (intervals : List (Interval Instant)) : Prop where
  nonempty : ∀ interval ∈ intervals, interval.start < interval.stop
  separated : intervals.Pairwise fun earlier later => earlier.stop < later.start

theorem Canonical.nil : Canonical ([] : List (Interval Instant)) := ⟨by simp, List.Pairwise.nil⟩

theorem Canonical.tail (canonical : Canonical (interval :: rest)) : Canonical rest :=
  ⟨fun other member => canonical.nonempty other (List.mem_cons_of_mem _ member),
    (List.pairwise_cons.mp canonical.separated).2⟩

theorem Canonical.later (canonical : Canonical (interval :: rest))
    (isCovered : Covered rest instant) : interval.stop < instant := by
  obtain ⟨other, member, starts, -⟩ := isCovered
  exact lt_of_lt_of_le ((List.pairwise_cons.mp canonical.separated).1 other member) starts

theorem Canonical.starts (canonical : Canonical (interval :: rest)) :
    Covered (interval :: rest) interval.start :=
  covered_cons.mpr (.inl ⟨le_rfl, canonical.nonempty interval List.mem_cons_self⟩)

theorem Canonical.start_le (canonical : Canonical (interval :: rest))
    (isCovered : Covered (interval :: rest) instant) : interval.start ≤ instant := by
  rcases covered_cons.mp isCovered with inFirst | inRest
  · exact inFirst.1
  · exact ((canonical.nonempty interval List.mem_cons_self).trans (canonical.later inRest)).le

theorem Canonical.not_covered_stop (canonical : Canonical (interval :: rest)) :
    ¬Covered (interval :: rest) interval.stop := by
  intro isCovered
  rcases covered_cons.mp isCovered with inFirst | inRest
  · exact lt_irrefl _ inFirst.2
  · exact lt_irrefl _ (canonical.later inRest)

variable {first second : Interval Instant}

theorem Canonical.stop_le {rest others : List (Interval Instant)}
    (canonical : Canonical (second :: others)) (sameStart : first.start = second.start)
    (asMuch : ∀ instant, Covered (first :: rest) instant → Covered (second :: others) instant) :
    first.stop ≤ second.stop := by
  refine le_of_not_gt fun shorter => ?_
  have inFirst : first.Contains second.stop :=
    ⟨sameStart ▸ (canonical.nonempty second List.mem_cons_self).le, shorter⟩
  exact canonical.not_covered_stop (asMuch _ (covered_cons.mpr (.inl inFirst)))

theorem Canonical.eq_of_covered {intervals others : List (Interval Instant)}
    (canonical : Canonical intervals) (canonicalToo : Canonical others)
    (same : ∀ instant, Covered intervals instant ↔ Covered others instant) :
    intervals = others := by
  induction intervals generalizing others with
  | nil =>
    cases others with
    | nil => rfl
    | cons second others =>
      exact absurd ((same _).mpr canonicalToo.starts) (not_covered_nil _)
  | cons first rest inductionHypothesis =>
    cases others with
    | nil => exact absurd ((same _).mp canonical.starts) (not_covered_nil _)
    | cons second others =>
      have sameStart : first.start = second.start :=
        le_antisymm (canonical.start_le ((same _).mpr canonicalToo.starts))
          (canonicalToo.start_le ((same _).mp canonical.starts))
      have sameStop : first.stop = second.stop :=
        le_antisymm (canonicalToo.stop_le sameStart fun instant => (same instant).mp)
          (canonical.stop_le sameStart.symm fun instant => (same instant).mpr)
      have sameFirst : first = second := by
        cases first
        cases second
        cases sameStart
        cases sameStop
        rfl
      subst sameFirst
      rw [inductionHypothesis canonical.tail canonicalToo.tail]
      intro instant
      constructor
      · intro inRest
        rcases covered_cons.mp ((same instant).mp (covered_cons.mpr (.inr inRest))) with
          inFirst | inOthers
        · exact absurd inFirst.2 (not_lt.mpr (canonical.later inRest).le)
        · exact inOthers
      · intro inOthers
        rcases covered_cons.mp ((same instant).mpr (covered_cons.mpr (.inr inOthers))) with
          inFirst | inRest
        · exact absurd inFirst.2 (not_lt.mpr (canonicalToo.later inOthers).le)
        · exact inRest

variable {intervals : List (Interval Instant)}

theorem Canonical.apart (canonical : Canonical intervals) (isFirst : first ∈ intervals)
    (isSecond : second ∈ intervals) :
    first = second ∨ first.stop < second.start ∨ second.stop < first.start := by
  have backwards := canonical.separated.imp fun {earlier later} before =>
    (.inr (.inr before) : later = earlier ∨ later.stop < earlier.start ∨
      earlier.stop < later.start)
  exact List.Pairwise.forall_of_forall_of_flip (fun _ _ => .inl rfl)
    (canonical.separated.imp fun before => .inr (.inl before)) backwards isFirst isSecond

/-! ### Coalescing -/

/-- An interval joins the last of those before it when it touches or overlaps it. -/
def absorb (merged : List (Interval Instant)) (interval : Interval Instant) :
    List (Interval Instant) :=
  match merged.getLast? with
  | none => [interval]
  | some last =>
    if interval.start ≤ last.stop then
      merged.dropLast ++ [⟨last.start, max last.stop interval.stop⟩]
    else merged ++ [interval]

theorem absorb_concat (front : List (Interval Instant)) (last interval : Interval Instant) :
    absorb (front ++ [last]) interval =
      if interval.start ≤ last.stop then
        front ++ [⟨last.start, max last.stop interval.stop⟩]
      else front ++ [last] ++ [interval] := by
  unfold absorb
  rw [List.getLast?_concat, List.dropLast_concat]

/-- What coalescing keeps, interval after interval: the list is canonical, it covers what was
taken, and each of its ends is one of what was taken. -/
structure Coalesced (taken merged : List (Interval Instant)) : Prop where
  canonical : Canonical merged
  covered : ∀ instant, Covered merged instant ↔ Covered taken instant
  starts : ∀ interval ∈ merged, ∃ other ∈ taken, other.start = interval.start
  stops : ∀ interval ∈ merged, ∃ other ∈ taken, other.stop = interval.stop

theorem canonical_concat {front : List (Interval Instant)} {last : Interval Instant} :
    Canonical (front ++ [last]) ↔ Canonical front ∧ last.start < last.stop ∧
      ∀ interval ∈ front, interval.stop < last.start := by
  constructor
  · intro canonical
    obtain ⟨separated, -, before⟩ := List.pairwise_append.mp canonical.separated
    exact ⟨⟨fun interval member => canonical.nonempty interval (List.mem_append_left _ member),
      separated⟩, canonical.nonempty last (List.mem_append_right _ List.mem_cons_self),
      fun interval member => before interval member last List.mem_cons_self⟩
  · rintro ⟨canonical, nonempty, before⟩
    refine ⟨fun interval member => ?_, List.pairwise_append.mpr
      ⟨canonical.separated, List.pairwise_singleton _ _, fun interval member other isLast => ?_⟩⟩
    · rcases List.mem_append.mp member with inFront | isLast
      · exact canonical.nonempty interval inFront
      · rw [List.mem_singleton.mp isLast]
        exact nonempty
    · rw [List.mem_singleton.mp isLast]
      exact before interval member

omit [LinearOrder Instant] in
theorem exists_mem_concat {End : Type} {taken : List (Interval Instant)}
    (endOf : Interval Instant → End) {value : End}
    (isEnd : (∃ other ∈ taken, endOf other = value) ∨ endOf interval = value) :
    ∃ other ∈ taken ++ [interval], endOf other = value := by
  rcases isEnd with ⟨other, member, isOther⟩ | isNew
  · exact ⟨other, List.mem_append_left _ member, isOther⟩
  · exact ⟨interval, List.mem_append_right _ List.mem_cons_self, isNew⟩

variable {taken merged : List (Interval Instant)}

theorem Coalesced.absorb (coalesced : Coalesced taken merged)
    (nonempty : interval.start < interval.stop)
    (inOrder : ∀ other ∈ taken, other.start ≤ interval.start) :
    Coalesced (taken ++ [interval]) (absorb merged interval) := by
  rcases List.eq_nil_or_concat' merged with isNil | ⟨front, last, isConcat⟩
  · subst isNil
    have alone : Canonical ([] ++ [interval]) := canonical_concat.mpr ⟨.nil, nonempty, by simp⟩
    refine ⟨alone, fun instant => ?_,
      fun other member => exists_mem_concat start (.inr ?_),
      fun other member => exists_mem_concat stop (.inr ?_)⟩
    · rw [covered_append, ← coalesced.covered]
      simp [Interval.absorb]
    · rw [List.mem_singleton.mp member]
    · rw [List.mem_singleton.mp member]
  · subst isConcat
    obtain ⟨canonical, lastNonempty, apart⟩ := canonical_concat.mp coalesced.canonical
    have isLast : last ∈ front ++ [last] := List.mem_append_right _ List.mem_cons_self
    have lastBefore : last.start ≤ interval.start := by
      obtain ⟨earlier, isTaken, starts⟩ := coalesced.starts last isLast
      rw [← starts]
      exact inOrder earlier isTaken
    rw [absorb_concat]
    split
    · -- The last interval is stretched, and its start stays.
      rename_i touches
      refine ⟨canonical_concat.mpr ⟨canonical, lt_max_of_lt_left lastNonempty, apart⟩,
        fun instant => ?_, fun other member => exists_mem_concat start (.inl ?_),
        fun other member => exists_mem_concat stop ?_⟩
      · rw [covered_append, covered_append, ← coalesced.covered, covered_append, or_assoc]
        refine or_congr_right ?_
        simp only [covered_cons, not_covered_nil, or_false, Contains, lt_max_iff]
        constructor
        · rintro ⟨starts, inLast | inNew⟩
          · exact .inl ⟨starts, inLast⟩
          · rcases lt_or_ge instant last.stop with inLast | afterLast
            · exact .inl ⟨starts, inLast⟩
            · exact .inr ⟨touches.trans afterLast, inNew⟩
        · rintro (⟨starts, inLast⟩ | ⟨starts, inNew⟩)
          · exact ⟨starts, .inl inLast⟩
          · exact ⟨lastBefore.trans starts, .inr inNew⟩
      · rcases List.mem_append.mp member with inFront | isStretched
        · exact coalesced.starts other (List.mem_append_left _ inFront)
        · rw [List.mem_singleton.mp isStretched]
          exact coalesced.starts last isLast
      · rcases List.mem_append.mp member with inFront | isStretched
        · exact .inl (coalesced.stops other (List.mem_append_left _ inFront))
        · rw [List.mem_singleton.mp isStretched]
          rcases max_choice last.stop interval.stop with isOld | isNew
          · rw [isOld]
            exact .inl (coalesced.stops last isLast)
          · exact .inr isNew.symm
    · -- The interval starts after the last one has stopped, and so after all of them.
      rename_i after
      have afterLast : last.stop < interval.start := not_le.mp after
      refine ⟨canonical_concat.mpr ⟨coalesced.canonical, nonempty, fun other member => ?_⟩,
        fun instant => ?_, fun other member => exists_mem_concat start ?_,
        fun other member => exists_mem_concat stop ?_⟩
      · rcases List.mem_append.mp member with inFront | isLastToo
        · exact (apart other inFront).trans (lastNonempty.trans afterLast)
        · rw [List.mem_singleton.mp isLastToo]
          exact afterLast
      · rw [covered_append, coalesced.covered, covered_append]
      · exact (List.mem_append.mp member).imp (coalesced.starts other)
          fun isNew => by rw [List.mem_singleton.mp isNew]
      · exact (List.mem_append.mp member).imp (coalesced.stops other)
          fun isNew => by rw [List.mem_singleton.mp isNew]

theorem coalesced_foldl (nonempty : ∀ interval ∈ intervals, interval.start < interval.stop)
    (sorted : intervals.Pairwise fun earlier later => earlier.start ≤ later.start)
    (coalesced : Coalesced taken merged)
    (inOrder : ∀ other ∈ taken, ∀ interval ∈ intervals, other.start ≤ interval.start) :
    Coalesced (taken ++ intervals) (intervals.foldl Interval.absorb merged) := by
  induction intervals generalizing taken merged with
  | nil =>
    rw [List.append_nil]
    exact coalesced
  | cons interval rest inductionHypothesis =>
    obtain ⟨first, sortedRest⟩ := List.pairwise_cons.mp sorted
    have taking := coalesced.absorb (nonempty interval List.mem_cons_self)
      fun other member => inOrder other member interval List.mem_cons_self
    rw [List.append_cons, List.foldl_cons]
    refine inductionHypothesis (fun other member => nonempty other (List.mem_cons_of_mem _ member))
      sortedRest taking fun other member later isLater => ?_
    rcases List.mem_append.mp member with isTaken | isNew
    · exact inOrder other isTaken later (List.mem_cons_of_mem _ isLater)
    · rw [List.mem_singleton.mp isNew]
      exact first later isLater

/-! ### Sorting and clipping -/

def Before (earlier later : Interval Instant) : Prop :=
  earlier.start < later.start ∨ earlier.start = later.start ∧ earlier.stop ≤ later.stop

instance : DecidableRel (Before : Interval Instant → Interval Instant → Prop) :=
  fun _ _ => inferInstanceAs (Decidable (_ ∨ _))

theorem Before.start_le {earlier later : Interval Instant} (before : Before earlier later) :
    earlier.start ≤ later.start := by
  rcases before with isLess | ⟨same, -⟩
  · exact isLess.le
  · exact same.le

instance : Std.Total (Before : Interval Instant → Interval Instant → Prop) where
  total first second := by
    rcases lt_trichotomy first.start second.start with isLess | same | isMore
    · exact .inl (.inl isLess)
    · exact (le_total first.stop second.stop).imp (fun le => .inr ⟨same, le⟩)
        (fun le => .inr ⟨same.symm, le⟩)
    · exact .inr (.inl isMore)

instance : IsTrans (Interval Instant) Before where
  trans first second third before after := by
    rcases before with isLess | ⟨same, shorter⟩
    · exact .inl (isLess.trans_le after.start_le)
    · rcases after with isLess | ⟨sameToo, shorterToo⟩
      · exact .inl (same.trans_lt isLess)
      · exact .inr ⟨same.trans sameToo, shorter.trans shorterToo⟩

def clip (within interval : Interval Instant) : Interval Instant :=
  ⟨max interval.start within.start, min interval.stop within.stop⟩

theorem contains_clip {within interval : Interval Instant} :
    (clip within interval).Contains instant ↔
      within.Contains instant ∧ interval.Contains instant := by
  unfold clip Contains
  rw [max_le_iff, lt_min_iff]
  tauto

def coalesce (within : Interval Instant) (intervals : List (Interval Instant)) :
    List (Interval Instant) :=
  ((((intervals.map (clip within)).filter fun interval => interval.start < interval.stop)
    ).insertionSort Before).foldl absorb []

/-- What is coalesced of intervals: it is canonical, and covers what they do inside, and each of its
ends is one of theirs, or the one they are clipped at. -/
structure CoalescedFrom (within : Interval Instant)
    (intervals merged : List (Interval Instant)) : Prop where
  canonical : Canonical merged
  covered : ∀ instant, Covered merged instant ↔
    within.Contains instant ∧ Covered intervals instant
  starts : ∀ interval ∈ merged, ∃ other ∈ intervals,
    (clip within other).start < (clip within other).stop ∧
      (clip within other).start = interval.start
  stops : ∀ interval ∈ merged, ∃ other ∈ intervals,
    (clip within other).start < (clip within other).stop ∧
      (clip within other).stop = interval.stop

theorem coalescedFrom_coalesce (within : Interval Instant)
    (intervals : List (Interval Instant)) :
    CoalescedFrom within intervals (coalesce within intervals) := by
  have permuted := List.perm_insertionSort Before
    ((intervals.map (clip within)).filter fun interval => interval.start < interval.stop)
  have nonempty : ∀ interval ∈ (((intervals.map (clip within)).filter
      fun interval => interval.start < interval.stop)).insertionSort Before,
      interval.start < interval.stop := by
    intro interval member
    exact of_decide_eq_true (List.mem_filter.mp (permuted.mem_iff.mp member)).2
  have sorted := (List.pairwise_insertionSort Before ((intervals.map (clip within)).filter
    fun interval => interval.start < interval.stop)).imp Before.start_le
  have nothing : Coalesced ([] : List (Interval Instant)) [] :=
    ⟨.nil, fun _ => Iff.rfl, by simp, by simp⟩
  have coalesced := coalesced_foldl nonempty sorted nothing (by simp)
  rw [List.nil_append] at coalesced
  have fromClips : ∀ {End : Type} (endOf : Interval Instant → End) {value : End},
      (∃ other ∈ ((intervals.map (clip within)).filter
        fun interval => interval.start < interval.stop).insertionSort Before,
          endOf other = value) →
      ∃ other ∈ intervals, (clip within other).start < (clip within other).stop ∧
        endOf (clip within other) = value := by
    rintro End endOf value ⟨clipped, member, isEnd⟩
    obtain ⟨inClips, isNonempty⟩ := List.mem_filter.mp (permuted.mem_iff.mp member)
    obtain ⟨other, isOther, rfl⟩ := List.mem_map.mp inClips
    exact ⟨other, isOther, of_decide_eq_true isNonempty, isEnd⟩
  refine ⟨coalesced.canonical, fun instant => (coalesced.covered instant).trans ?_,
    fun interval member => fromClips start (coalesced.starts interval member),
    fun interval member => fromClips stop (coalesced.stops interval member)⟩
  rw [covered_congr fun interval => permuted.mem_iff]
  constructor
  · rintro ⟨clipped, member, contains⟩
    obtain ⟨interval, isInterval, rfl⟩ := List.mem_map.mp (List.mem_filter.mp member).1
    obtain ⟨isWithin, isInside⟩ := contains_clip.mp contains
    exact ⟨isWithin, interval, isInterval, isInside⟩
  · rintro ⟨isWithin, interval, isInterval, isInside⟩
    have contains := contains_clip.mpr ⟨isWithin, isInside⟩
    exact ⟨clip within interval, List.mem_filter.mpr ⟨List.mem_map_of_mem isInterval,
      decide_eq_true (contains.1.trans_lt contains.2)⟩, contains⟩

theorem canonical_coalesce (within : Interval Instant) (intervals : List (Interval Instant)) :
    Canonical (coalesce within intervals) := (coalescedFrom_coalesce within intervals).canonical

variable {within : Interval Instant}

theorem covered_coalesce : Covered (coalesce within intervals) instant ↔
      within.Contains instant ∧ Covered intervals instant :=
  (coalescedFrom_coalesce within intervals).covered instant

theorem inside_of_mem_coalesce (member : interval ∈ coalesce within intervals) :
    within.start ≤ interval.start ∧ interval.stop ≤ within.stop := by
  have coalesced := coalescedFrom_coalesce within intervals
  obtain ⟨first, -, -, starts⟩ := coalesced.starts interval member
  obtain ⟨last, -, -, stops⟩ := coalesced.stops interval member
  rw [← starts, ← stops]
  exact ⟨le_max_right _ _, min_le_right _ _⟩

theorem coalesce_congr {intervals others : List (Interval Instant)}
    (same : ∀ instant, within.Contains instant →
      (Covered intervals instant ↔ Covered others instant)) :
    coalesce within intervals = coalesce within others :=
  (canonical_coalesce within intervals).eq_of_covered (canonical_coalesce within others)
    fun _ => by
      rw [covered_coalesce, covered_coalesce]
      exact and_congr_right (same _)

theorem Canonical.not_covered_stop_of_mem (canonical : Canonical intervals)
    (member : interval ∈ intervals) :
    ¬Covered intervals interval.stop := by
  rintro ⟨other, isOther, starts, stops⟩
  rcases canonical.apart member isOther with rfl | before | after
  · exact lt_irrefl _ stops
  · exact absurd starts (not_le.mpr before)
  · exact absurd (stops.trans after) (not_lt.mpr (canonical.nonempty interval member).le)

theorem exists_coalesce_of_clip {within interval : Interval Instant} (member : interval ∈ intervals)
    (nonempty : (clip within interval).start < (clip within interval).stop) :
    ∃ merged ∈ coalesce within intervals, merged.start ≤ (clip within interval).start ∧
      (clip within interval).stop ≤ merged.stop := by
  have covered : ∀ instant, (clip within interval).Contains instant →
      Covered (coalesce within intervals) instant := fun instant contains =>
    covered_coalesce.mpr
      ⟨(contains_clip.mp contains).1, interval, member, (contains_clip.mp contains).2⟩
  obtain ⟨merged, isMerged, starts, stops⟩ := covered _ ⟨le_rfl, nonempty⟩
  refine ⟨merged, isMerged, starts, le_of_not_gt fun shorter => ?_⟩
  exact (canonical_coalesce within intervals).not_covered_stop_of_mem isMerged
    (covered _ ⟨stops.le, shorter⟩)

/-! ### What is left -/

/-- What intervals leave of a stretch of time, one stretch before each and one after the last. -/
def stretches (start stop : Instant) : List (Interval Instant) → List (Interval Instant)
  | [] => [⟨start, stop⟩]
  | interval :: rest =>
    ⟨start, interval.start⟩ :: stretches (max start interval.stop) stop rest

/-- Intervals one after another, that may touch and may be empty. -/
structure Ordered (intervals : List (Interval Instant)) : Prop where
  forward : ∀ interval ∈ intervals, interval.start ≤ interval.stop
  inOrder : intervals.Pairwise fun earlier later => earlier.stop ≤ later.start

theorem Ordered.tail (ordered : Ordered (interval :: rest)) : Ordered rest :=
  ⟨fun other member => ordered.forward other (List.mem_cons_of_mem _ member),
    (List.pairwise_cons.mp ordered.inOrder).2⟩

variable {start stop : Instant} {stretch : Interval Instant}

theorem start_le_of_mem_stretches (member : stretch ∈ stretches start stop intervals) :
    start ≤ stretch.start := by
  induction intervals generalizing start with
  | nil =>
    rw [List.mem_singleton.mp member]
  | cons interval rest inductionHypothesis =>
    rcases List.mem_cons.mp member with rfl | later
    · exact le_rfl
    · exact (le_max_left _ _).trans (inductionHypothesis later)

theorem covered_stretches (ordered : Ordered intervals) (starts : start ≤ instant)
    (stops : instant < stop) :
    Covered (stretches start stop intervals) instant ↔ ¬Covered intervals instant := by
  induction intervals generalizing start with
  | nil =>
    simp only [stretches, covered_cons, not_covered_nil, or_false, not_false_eq_true, iff_true]
    exact ⟨starts, stops⟩
  | cons interval rest inductionHypothesis =>
    have forward := ordered.forward interval List.mem_cons_self
    rw [stretches, covered_cons, covered_cons, not_or]
    rcases lt_or_ge instant interval.stop with early | late
    · have laterStretches : ¬Covered (stretches (max start interval.stop) stop rest) instant := by
        rintro ⟨stretch, member, contains, -⟩
        exact absurd ((le_max_right _ _).trans ((start_le_of_mem_stretches member).trans contains))
          (not_le.mpr early)
      have laterIntervals : ¬Covered rest instant := by
        rintro ⟨other, member, contains, -⟩
        exact absurd (((List.pairwise_cons.mp ordered.inOrder).1 other member).trans contains)
          (not_le.mpr early)
      simp only [laterStretches, laterIntervals, or_false, not_false_eq_true, and_true]
      unfold Contains
      rw [and_iff_right starts, not_and_or, not_le, not_lt, or_iff_left (not_le.mpr early)]
    · have notFirst : ¬(Interval.mk start interval.start).Contains instant :=
        fun contains => absurd contains.2 (not_lt.mpr (forward.trans late))
      have notInside : ¬interval.Contains instant :=
        fun contains => absurd contains.2 (not_lt.mpr late)
      rw [or_iff_right notFirst, and_iff_right notInside]
      exact inductionHypothesis ordered.tail (max_le starts late)

theorem stretches_inOrder (ordered : Ordered intervals) :
    (stretches start stop intervals).Pairwise fun earlier later =>
      earlier.stop ≤ later.start := by
  induction intervals generalizing start with
  | nil => exact List.pairwise_singleton _ _
  | cons interval rest inductionHypothesis =>
    refine List.pairwise_cons.mpr ⟨fun later member => ?_, inductionHypothesis ordered.tail⟩
    exact (ordered.forward interval List.mem_cons_self).trans
      ((le_max_right _ _).trans (start_le_of_mem_stretches member))

theorem stretches_apart (ordered : Ordered intervals)
    (isFirst : first ∈ stretches start stop intervals)
    (isSecond : second ∈ stretches start stop intervals) :
    first = second ∨ first.stop ≤ second.start ∨ second.stop ≤ first.start := by
  have inOrder : (stretches start stop intervals).Pairwise fun earlier later =>
      earlier.stop ≤ later.start := stretches_inOrder ordered
  have backwards := inOrder.imp fun {earlier later} before =>
    (.inr (.inr before) : later = earlier ∨ later.stop ≤ earlier.start ∨
      earlier.stop ≤ later.start)
  exact List.Pairwise.forall_of_forall_of_flip (fun _ _ => .inl rfl)
    (inOrder.imp fun before => .inr (.inl before)) backwards isFirst isSecond

theorem start_of_mem_stretches (member : stretch ∈ stretches start stop intervals) :
    stretch.start = start ∨ ∃ interval ∈ intervals, stretch.start = interval.stop := by
  induction intervals generalizing start with
  | nil =>
    rw [List.mem_singleton.mp member]
    exact .inl rfl
  | cons interval rest inductionHypothesis =>
    rcases List.mem_cons.mp member with rfl | later
    · exact .inl rfl
    · rcases inductionHypothesis later with isMax | ⟨other, isOther, starts⟩
      · rcases max_choice start interval.stop with isStart | isStop
        · exact .inl (isMax.trans isStart)
        · exact .inr ⟨interval, List.mem_cons_self, isMax.trans isStop⟩
      · exact .inr ⟨other, List.mem_cons_of_mem _ isOther, starts⟩

theorem stop_of_mem_stretches (member : stretch ∈ stretches start stop intervals) :
    stretch.stop = stop ∨ ∃ interval ∈ intervals, stretch.stop = interval.start := by
  induction intervals generalizing start with
  | nil =>
    rw [List.mem_singleton.mp member]
    exact .inl rfl
  | cons interval rest inductionHypothesis =>
    rcases List.mem_cons.mp member with rfl | later
    · exact .inr ⟨interval, List.mem_cons_self, rfl⟩
    · rcases inductionHypothesis later with atStop | ⟨other, isOther, stops⟩
      · exact .inl atStop
      · exact .inr ⟨other, List.mem_cons_of_mem _ isOther, stops⟩

theorem stop_le_of_mem_stretches (inside : ∀ interval ∈ intervals, interval.start ≤ stop)
    (member : stretch ∈ stretches start stop intervals) : stretch.stop ≤ stop := by
  rcases stop_of_mem_stretches member with atStop | ⟨interval, isInterval, stops⟩
  · exact atStop.le
  · exact stops.trans_le (inside interval isInterval)

end Interval

end Twalk
