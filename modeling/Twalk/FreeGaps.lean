/-
This file is about the free gaps a read answers without a working day. They are read as what the busy
intervals leave of the window, nothing more and nothing less, exactly when each stretch that is left
and is not empty lasts a minute and has ends that a text says: a stretch under a minute is dropped.
-/

import Twalk.FreeBusyMerge

namespace Twalk.Collector.FreeBusy

open Twalk.Interval (Covered Canonical Ordered stretches)

/-- A list of busy intervals that was made for a window: of periods at whole seconds, or of the
answers of calendars that have such periods. -/
inductive MadeFor (window : Window) : List Busy → Prop where
  | merged (periods : List (Interval Int))
      (whole : ∀ period ∈ periods, AtWholeSecond period.start ∧ AtWholeSecond period.stop) :
      MadeFor window (merge periods window)
  | answered (calendars : List (List (Interval Int)))
      (whole : ∀ periods ∈ calendars, ∀ period ∈ periods,
        AtWholeSecond period.start ∧ AtWholeSecond period.stop) :
      MadeFor window (mergeAnswers (calendars.map fun periods => merge periods window) window)

def IsBusy (busy : List Busy) (instant : Int) : Prop :=
  Covered (busy.filterMap Busy.interval) instant

/-- The gaps are what the busy intervals leave of a window: they are in order and inside it, none has
an instant of a busy interval, and each instant of the window that is in none lies in a gap. -/
structure Complements (window : Window) (busy : List Busy) (free : List Free) : Prop where
  gaps : ∃ gaps, free.mapM Free.interval = some gaps ∧
    (gaps.Pairwise fun earlier later => earlier.stop ≤ later.start) ∧
    (∀ gap ∈ gaps, window.start ≤ gap.start ∧ gap.stop ≤ window.stop) ∧
    (∀ instant, Covered gaps instant → ¬IsBusy busy instant) ∧
    ∀ instant, window.Contains instant → ¬IsBusy busy instant → Covered gaps instant

/-- A stretch that is answered as it is: a minute at least, between instants that texts say. -/
def Offered (stretch : Interval Int) : Prop :=
  60 * second ≤ stretch.stop - stretch.start ∧ Spelled stretch.start ∧ Spelled stretch.stop

def LeavesOffers (window : Window) (busy : List Busy) : Prop :=
  ∃ intervals, busy.mapM Busy.interval = some intervals ∧
    ∀ stretch ∈ stretches window.start window.stop intervals,
      stretch.start < stretch.stop → Offered stretch

instance (stretch : Interval Int) : Decidable (Offered stretch) :=
  inferInstanceAs (Decidable (_ ∧ _))

instance (window : Window) (busy : List Busy) : Decidable (LeavesOffers window busy) :=
  decidable_of_iff (∃ intervals ∈ (busy.mapM Busy.interval).toList,
    ∀ stretch ∈ stretches window.start window.stop intervals,
      stretch.start < stretch.stop → Offered stretch) (by
    simp only [Option.mem_toList, LeavesOffers])

/-! ### Gaps and their texts -/

section Offering

variable {zone : Option Zone} {stretch : Interval Int}

theorem minutes_le_iff : (stretch.stop - stretch.start).tdiv (60 * second) ≤ 0 ↔
    stretch.stop - stretch.start < 60 * second := by
  rw [show 60 * second = 60000000000 from rfl]
  generalize stretch.stop - stretch.start = length
  rcases le_or_gt 0 length with forward | backward
  · rw [Int.tdiv_eq_ediv_of_nonneg forward]
    omega
  · have forwardToo : 0 ≤ (-length).tdiv 60000000000 :=
      Int.tdiv_nonneg (by omega) (by decide)
    rw [Int.neg_tdiv] at forwardToo
    omega

def asOffer (zone : Option Zone) (stretch : Interval Int) : Free :=
  ⟨rfc3339 stretch.start, rfc3339 stretch.stop, zone.map fun zone => zone.localText stretch.start,
    zone.map fun zone => zone.localText stretch.stop,
    (stretch.stop - stretch.start).tdiv (60 * second)⟩

def Long (stretch : Interval Int) : Prop := 60 * second ≤ stretch.stop - stretch.start

instance (stretch : Interval Int) : Decidable (Long stretch) :=
  inferInstanceAs (Decidable (_ ≤ _))

theorem offer_eq : offer zone stretch =
    if Long stretch then some (asOffer zone stretch) else none := by
  unfold offer
  dsimp only
  by_cases long : Long stretch
  · rw [if_pos long, if_neg (mt minutes_le_iff.mp (not_lt.mpr long))]
    rfl
  · rw [if_neg long, if_pos (minutes_le_iff.mpr (not_le.mp long))]

theorem Long.nonempty (long : Long stretch) : stretch.start < stretch.stop := by
  unfold Long second at long
  omega

end Offering

theorem filterMap_offer (zone : Option Zone) (left : List (Interval Int)) :
    left.filterMap (offer zone) = (left.filter fun stretch => Long stretch).map (asOffer zone) := by
  induction left with
  | nil => rfl
  | cons stretch rest inductionHypothesis =>
    by_cases long : Long stretch
    · rw [List.filterMap_cons_some (offer_eq.trans (if_pos long)),
        List.filter_cons, if_pos (decide_eq_true long), List.map_cons, inductionHypothesis]
    · rw [List.filterMap_cons_none (offer_eq.trans (if_neg long)),
        List.filter_cons, if_neg (by rw [decide_eq_true_eq]; exact long), inductionHypothesis]

theorem mapM_offers {zone : Option Zone} {left gaps : List (Interval Int)} :
    (left.filterMap (offer zone)).mapM Free.interval = some gaps ↔
      (∀ stretch ∈ left, Long stretch → Written stretch) ∧
        gaps = (left.filter fun stretch => Long stretch).map floored := by
  have guarded : ∀ stretch : Interval Int, (Free.interval ∘ asOffer zone) stretch =
      if Written stretch then some (floored stretch) else none := read_interval
  rw [filterMap_offer, List.mapM_map]
  refine (mapM_eq_some_iff_of_guard guarded).trans ?_
  simp only [List.mem_filter, decide_eq_true_eq, and_imp]

/-! ### What was made for a window -/

variable {interval : Interval Int}

theorem whole_of_mem_merge {periods : List (Interval Int)} {window : Window} {busy : Busy}
    (member : busy ∈ merge periods window) (isRead : busy.interval = some interval) :
    AtWholeSecond interval.start ∧ AtWholeSecond interval.stop := by
  obtain ⟨merged, -, rfl⟩ := List.mem_map.mp member
  rw [interval_of_written] at isRead
  obtain ⟨-, isFloored⟩ := Option.ite_none_right_eq_some.mp isRead
  rw [← Option.some.inj isFloored]
  exact ⟨atWholeSecond_floor _, atWholeSecond_floor _⟩

theorem MadeFor.exists_periods {window : Window} {busy : List Busy} (madeFor : MadeFor window busy) :
    ∃ periods, (∀ period ∈ periods, AtWholeSecond period.start ∧ AtWholeSecond period.stop) ∧
      busy = merge periods window := by
  cases madeFor with
  | merged periods whole => exact ⟨periods, whole, rfl⟩
  | answered calendars whole =>
    refine ⟨_, fun period member => ?_, rfl⟩
    obtain ⟨one, isOne, isRead⟩ := List.mem_filterMap.mp member
    obtain ⟨answer, isAnswer, inAnswer⟩ := List.mem_flatten.mp isOne
    obtain ⟨periods, -, rfl⟩ := List.mem_map.mp isAnswer
    exact whole_of_mem_merge inAnswer isRead

section Left

variable {window : Window} {periods : List (Interval Int)}

variable {instant : Int}

theorem isBusy_merge : IsBusy (merge periods window) instant ↔
    ∃ interval ∈ Interval.coalesce window periods, Written interval ∧
      (floored interval).Contains instant := by
  unfold IsBusy merge Covered
  rw [List.filterMap_map]
  constructor
  · rintro ⟨_, member, contains⟩
    obtain ⟨interval, isInterval, isRead⟩ := List.mem_filterMap.mp member
    rw [Function.comp_apply, interval_of_written] at isRead
    obtain ⟨written, isFloored⟩ := Option.ite_none_right_eq_some.mp isRead
    rw [← Option.some.inj isFloored] at contains
    exact ⟨interval, isInterval, written, contains⟩
  · rintro ⟨interval, isInterval, written, contains⟩
    refine ⟨_, List.mem_filterMap.mpr ⟨interval, isInterval, ?_⟩, contains⟩
    rw [Function.comp_apply, interval_of_written, if_pos written]

theorem not_isBusy_of_unwritten
    (whole : ∀ period ∈ periods, AtWholeSecond period.start ∧ AtWholeSecond period.stop)
    (member : interval ∈ Interval.coalesce window periods) (unwritten : ¬Written interval) :
    ¬IsBusy (merge periods window) interval.start := by
  rw [isBusy_merge]
  rintro ⟨other, isOther, written, starts, stops⟩
  have canonical := Interval.canonical_coalesce window periods
  have nonempty := canonical.nonempty interval member
  rcases canonical.apart isOther member with rfl | before | after
  · exact unwritten written
  · have stopsLater : interval.start < floor other.stop := stops
    exact absurd (stopsLater.trans_le (floor_le _)) (not_lt.mpr before.le)
  · obtain ⟨period, isPeriod, -, isStart⟩ :=
      (Interval.coalescedFrom_coalesce window periods).starts other isOther
    have startsEarlier : floor other.start ≤ interval.start := starts
    rcases (clip_ends window (whole period isPeriod)).1 with isWhole | atWindow
    · rw [isStart] at isWhole
      rw [floor_eq_iff.mpr isWhole] at startsEarlier
      exact absurd (nonempty.trans after) (not_lt.mpr startsEarlier)
    · rw [isStart] at atWindow
      have inside := (Interval.inside_of_mem_coalesce member).1
      rw [← atWindow] at inside
      exact absurd (nonempty.trans after) (not_lt.mpr inside)

theorem ordered_floored (window : Window) (periods : List (Interval Int)) :
    Ordered ((Interval.coalesce window periods).map floored) := by
  have canonical := Interval.canonical_coalesce window periods
  refine ⟨List.forall_mem_map.mpr fun interval member =>
    floor_mono (canonical.nonempty interval member).le, ?_⟩
  rw [List.pairwise_map]
  exact canonical.separated.imp fun before => floor_mono before.le

def left (window : Window) (periods : List (Interval Int)) : List (Interval Int) :=
  stretches window.start window.stop ((Interval.coalesce window periods).map floored)

theorem left_of_contains {stretch : Interval Int} (member : stretch ∈ left window periods)
    (contains : stretch.Contains instant) :
    window.Contains instant ∧
      ¬Covered ((Interval.coalesce window periods).map floored) instant := by
  have starts := (Interval.start_le_of_mem_stretches member).trans contains.1
  have stops : instant < window.stop := by
    refine contains.2.trans_le (Interval.stop_le_of_mem_stretches ?_ member)
    refine List.forall_mem_map.mpr fun interval isInterval => ?_
    have inside := Interval.inside_of_mem_coalesce isInterval
    have nonempty := (Interval.canonical_coalesce window periods).nonempty interval isInterval
    exact (floor_le _).trans (nonempty.le.trans inside.2)
  refine ⟨⟨starts, stops⟩, ?_⟩
  exact (Interval.covered_stretches (ordered_floored window periods) starts stops).mp
    ⟨stretch, member, contains⟩

theorem isBusy_of_written
    (written : ∀ interval ∈ Interval.coalesce window periods, Written interval) :
    IsBusy (merge periods window) instant ↔
      Covered ((Interval.coalesce window periods).map floored) instant := by
  rw [isBusy_merge]
  constructor
  · rintro ⟨interval, member, -, contains⟩
    exact ⟨_, List.mem_map_of_mem member, contains⟩
  · rintro ⟨_, member, contains⟩
    obtain ⟨interval, isInterval, rfl⟩ := List.mem_map.mp member
    exact ⟨interval, isInterval, written interval isInterval, contains⟩

theorem start_of_left {stretch : Interval Int}
    (member : stretch ∈ left window periods) :
    stretch.start = window.start ∨ AtWholeSecond stretch.start := by
  refine (Interval.start_of_mem_stretches member).imp_right ?_
  rintro ⟨_, isFloored, starts⟩
  obtain ⟨interval, -, rfl⟩ := List.mem_map.mp isFloored
  rw [starts]
  exact atWholeSecond_floor _

variable (zones : String → Option Zone) (zone : Option String)

theorem freeBetween_of_read {busy : List Busy} {intervals : List (Interval Int)}
    (isRead : busy.mapM Busy.interval = some intervals) :
    freeBetween zones busy window zone none =
      (stretches window.start window.stop intervals).filterMap (offer (zone.bind zones)) := by
  unfold freeBetween
  rw [isRead]

theorem complements_of_leavesOffers (leavesOffers : LeavesOffers window (merge periods window)) :
    Complements window (merge periods window)
      (freeBetween zones (merge periods window) window zone none) := by
  obtain ⟨intervals, isRead, offered⟩ := leavesOffers
  obtain ⟨written, rfl⟩ := intervalsOf_merge.mp isRead
  have same : ((left window periods).filter fun stretch => Long stretch).map floored =
      (left window periods).filter fun stretch => Long stretch := by
    conv_rhs => rw [← List.map_id (List.filter _ _)]
    refine List.map_congr_left fun stretch member => ?_
    obtain ⟨isLeft, long⟩ := List.mem_filter.mp member
    obtain ⟨-, starts, stops⟩ := offered stretch isLeft (of_decide_eq_true long).nonempty
    exact floored_of_spelled starts stops
  have ordered := ordered_floored window periods
  refine ⟨(left window periods).filter fun stretch => Long stretch, ?_,
    (Interval.stretches_inOrder ordered).filter _, fun gap member => ?_, fun instant => ?_,
    fun instant isWithin free => ?_⟩
  · rw [freeBetween_of_read zones zone isRead]
    refine mapM_offers.mpr ⟨fun stretch isLeft long => ?_, same.symm⟩
    obtain ⟨-, starts, stops⟩ := offered stretch isLeft long.nonempty
    exact ⟨starts.2, stops.2⟩
  · obtain ⟨isLeft, -⟩ := List.mem_filter.mp member
    refine ⟨Interval.start_le_of_mem_stretches isLeft, Interval.stop_le_of_mem_stretches ?_ isLeft⟩
    refine List.forall_mem_map.mpr fun interval isInterval => ?_
    have nonempty := (Interval.canonical_coalesce window periods).nonempty interval isInterval
    exact (floor_le _).trans
      (nonempty.le.trans (Interval.inside_of_mem_coalesce isInterval).2)
  · rintro ⟨gap, member, contains⟩
    rw [isBusy_of_written written]
    exact (left_of_contains (List.mem_filter.mp member).1 contains).2
  · rw [isBusy_of_written written] at free
    obtain ⟨stretch, isLeft, contains⟩ :=
      (Interval.covered_stretches ordered isWithin.1 isWithin.2).mpr free
    have offers := offered stretch isLeft (contains.1.trans_lt contains.2)
    exact ⟨stretch, List.mem_filter.mpr ⟨isLeft, decide_eq_true offers.1⟩, contains⟩

theorem leavesOffers_of_complements
    (whole : ∀ period ∈ periods, AtWholeSecond period.start ∧ AtWholeSecond period.stop)
    (complements : Complements window (merge periods window)
      (freeBetween zones (merge periods window) window zone none)) :
    LeavesOffers window (merge periods window) := by
  obtain ⟨gaps, areRead, -, inside, -, complete⟩ := complements
  by_cases written : ∀ interval ∈ Interval.coalesce window periods, Written interval
  · have isRead := intervalsOf_merge.mpr ⟨written, rfl⟩
    have ordered := ordered_floored window periods
    rw [freeBetween_of_read zones zone isRead] at areRead
    obtain ⟨spelled, rfl⟩ := mapM_offers.mp areRead
    refine ⟨_, isRead, fun stretch isLeft nonempty => ?_⟩
    -- Every instant of the stretch lies in the gap that is made of this stretch.
    have own : ∀ instant, stretch.Contains instant →
        Long stretch ∧ (floored stretch).Contains instant := by
      intro instant contains
      obtain ⟨isWithin, free⟩ := left_of_contains isLeft contains
      rw [← isBusy_of_written written] at free
      obtain ⟨_, member, inGap⟩ := complete instant isWithin free
      obtain ⟨other, isOffered, rfl⟩ := List.mem_map.mp member
      obtain ⟨isOther, long⟩ := List.mem_filter.mp isOffered
      have starts : floor other.start ≤ instant := inGap.1
      have stops : instant < floor other.stop := inGap.2
      rcases Interval.stretches_apart ordered isLeft isOther with rfl | before | after
      · exact ⟨of_decide_eq_true long, inGap⟩
      · have later := contains.2.trans_le before
        rcases start_of_left isOther with atWindow | isWhole
        · exact absurd (atWindow ▸ later) (not_lt.mpr isWithin.1)
        · rw [floor_eq_iff.mpr isWhole] at starts
          exact absurd later (not_lt.mpr starts)
      · exact absurd (after.trans contains.1) (not_le.mpr (stops.trans_le (floor_le _)))
    obtain ⟨long, -⟩ := own _ ⟨le_rfl, nonempty⟩
    obtain ⟨startWritten, stopWritten⟩ := spelled stretch isLeft long
    refine ⟨long, ⟨?_, startWritten⟩, ⟨?_, stopWritten⟩⟩
    · rcases start_of_left isLeft with atWindow | isWhole
      · have insideToo := (inside (floored stretch) (List.mem_map_of_mem
          (List.mem_filter.mpr ⟨isLeft, decide_eq_true long⟩))).1
        rw [← atWindow] at insideToo
        exact floor_eq_iff.mp (le_antisymm (floor_le _) insideToo)
      · exact isWhole
    · refine floor_eq_iff.mp (le_antisymm (floor_le _) (le_of_not_gt fun isInside => ?_))
      have contains := (own (max stretch.start (floor stretch.stop))
        ⟨le_max_left _ _, max_lt nonempty isInside⟩).2.2
      exact lt_irrefl _ ((le_max_right _ _).trans_lt contains)
  · -- An interval cannot be read: no gap is answered, and its start is in none.
    push Not at written
    obtain ⟨interval, member, unwritten⟩ := written
    have unread : (merge periods window).mapM Busy.interval = none := by
      rw [Option.eq_none_iff_forall_not_mem]
      intro intervals isRead
      exact unwritten ((intervalsOf_merge.mp isRead).1 interval member)
    have noGaps : freeBetween zones (merge periods window) window zone none = [] := by
      unfold freeBetween
      rw [unread]
    rw [noGaps] at areRead
    cases areRead
    have nonempty := (Interval.canonical_coalesce window periods).nonempty interval member
    obtain ⟨starts, stops⟩ := Interval.inside_of_mem_coalesce member
    exact absurd (complete interval.start ⟨starts, nonempty.trans_le stops⟩
      (not_isBusy_of_unwritten whole member unwritten)) (Interval.not_covered_nil _)

/-- The gaps are the complement of the busy intervals exactly when these can be read and every
stretch they leave is empty, or lasts a minute at least between instants that texts say. -/
theorem complements_iff {busy : List Busy} (madeFor : MadeFor window busy) :
    Complements window busy (freeBetween zones busy window zone none) ↔
      LeavesOffers window busy := by
  obtain ⟨periods, whole, rfl⟩ := madeFor.exists_periods
  exact ⟨leavesOffers_of_complements zones zone whole, complements_of_leavesOffers zones zone⟩

end Left

namespace HalfAMinute

def window : Window := ⟨1791784800 * second, 1791828000 * second⟩

/-- Two meetings with half a minute between them. -/
def meetings : List (Interval Int) :=
  [⟨1791784800 * second, 1791799200 * second⟩, ⟨1791799230 * second, 1791828000 * second⟩]

theorem madeFor_meetings : MadeFor window (merge meetings window) := .merged meetings (by decide)

theorem complements_meetings :
    Complements window (merge meetings window)
        (freeBetween (fun _ => none) (merge meetings window) window none none) ↔
      LeavesOffers window (merge meetings window) :=
  complements_iff _ none madeFor_meetings

/-- The half minute is free, and is in no gap. -/
theorem meetings_not_complements : ¬Complements window (merge meetings window)
    (freeBetween (fun _ => none) (merge meetings window) window none none) := by
  intro complements
  have leaves := leavesOffers_of_complements _ none (by decide) complements
  revert leaves
  decide +kernel

end HalfAMinute

end Twalk.Collector.FreeBusy
