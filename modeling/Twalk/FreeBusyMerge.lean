/-
This file is about the busy intervals a read answers. They are one canonical list for all the
periods of all the calendars, whatever order and grouping the periods come in, and merging the
answers of single calendars comes to the same. All of it holds of what the texts of an answer say,
which is exactly when each period, as far as it lies in the window, has ends that a text can hold:
whole seconds of a year of four digits.
-/

import Twalk.FreeBusy
import Twalk.Library.Fallible

namespace Twalk.Collector.FreeBusy

open Twalk.Interval (Covered Canonical)

/-! ### What a text holds -/

def AtWholeSecond (instant : Int) : Prop := instant % second = 0

instance (instant : Int) : Decidable (AtWholeSecond instant) :=
  inferInstanceAs (Decidable (_ = _))

def Spelled (instant : Int) : Prop := AtWholeSecond instant ∧ Rfc3339.Writable instant

instance (instant : Int) : Decidable (Spelled instant) := inferInstanceAs (Decidable (_ ∧ _))

def floor (instant : Int) : Int := instant / second * second

theorem floor_le (instant : Int) : floor instant ≤ instant := by
  unfold floor second
  omega

theorem floor_mono {first last : Int} (le : first ≤ last) : floor first ≤ floor last := by
  unfold floor second
  omega

variable {instant : Int}

theorem floor_eq_iff : floor instant = instant ↔ AtWholeSecond instant := by
  unfold floor AtWholeSecond second
  omega

theorem atWholeSecond_floor (instant : Int) : AtWholeSecond (floor instant) := by
  unfold floor AtWholeSecond second
  omega

theorem writable_days : Rfc3339.Writable instant ↔
    Rfc3339.firstDay ≤ instant / second / 86400 ∧
      instant / second / 86400 < Rfc3339.lastDay := by
  unfold Rfc3339.Writable Rfc3339.firstDay Rfc3339.lastDay second
  omega

theorem writable_floor :
    Rfc3339.Writable (floor instant) ↔ Rfc3339.Writable instant := by
  unfold Rfc3339.Writable Rfc3339.firstDay Rfc3339.lastDay floor second
  omega

theorem rfc3339_of_writable (writable : Rfc3339.Writable instant) :
    rfc3339 instant = Rfc3339.write (floor instant) := by
  have year := Rfc3339.year_dateOf (writable_days.mp writable)
  have same : floor instant / 1000000000 = instant / second := by
    unfold floor second
    omega
  have noFraction : floor instant % 1000000000 = 0 := atWholeSecond_floor instant
  unfold rfc3339 dateTimeText yearText Rfc3339.write Rfc3339.written
  dsimp only
  rw [same, noFraction, if_pos year]
  rfl

theorem read_of_not_writable (unwritable : ¬Rfc3339.Writable instant) :
    Rfc3339.read (rfc3339 instant) = none := by
  have year := mt (Rfc3339.year_dateOf_iff.mp) (mt writable_days.mpr unwritable)
  have signed : ∀ (sign : Char) (rest : List Char), sign = '-' ∨ sign = '+' →
      Rfc3339.number 4 0 (sign :: rest) = none := by
    rintro sign rest (rfl | rfl) <;> rfl
  unfold rfc3339 dateTimeText yearText
  dsimp only
  rw [if_neg year]
  unfold Rfc3339.read
  rw [String.toList_ofList, List.cons_append, signed _ _ (by split <;> simp)]
  rfl

theorem read_rfc3339 (instant : Int) : Rfc3339.read (rfc3339 instant) =
    if Rfc3339.Writable instant then some (floor instant) else none := by
  split
  · rename_i writable
    rw [rfc3339_of_writable writable, Rfc3339.read_write (writable_floor.mpr writable)]
  · rename_i unwritable
    exact read_of_not_writable unwritable

/-- Both ends of an interval have a text. -/
def Written (interval : Interval Int) : Prop :=
  Rfc3339.Writable interval.start ∧ Rfc3339.Writable interval.stop

instance (interval : Interval Int) : Decidable (Written interval) :=
  inferInstanceAs (Decidable (_ ∧ _))

def floored (interval : Interval Int) : Interval Int := ⟨floor interval.start, floor interval.stop⟩

theorem read_interval (interval : Interval Int) :
    between (rfc3339 interval.start) (rfc3339 interval.stop) =
      if Written interval then some (floored interval) else none := by
  unfold between
  rw [read_rfc3339, read_rfc3339]
  by_cases starts : Rfc3339.Writable interval.start
  · by_cases stops : Rfc3339.Writable interval.stop
    · have written : Written interval := ⟨starts, stops⟩
      rw [if_pos starts, if_pos stops, if_pos written]
      rfl
    · have unwritten : ¬Written interval := mt And.right stops
      rw [if_pos starts, if_neg stops, if_neg unwritten]
      rfl
  · have unwritten : ¬Written interval := mt And.left starts
    rw [if_neg starts, if_neg unwritten]
    rfl

theorem interval_of_written (interval : Interval Int) :
    (Busy.mk (rfc3339 interval.start) (rfc3339 interval.stop)).interval =
      if Written interval then some (floored interval) else none := read_interval interval

theorem floored_of_spelled {interval : Interval Int} (starts : Spelled interval.start)
    (stops : Spelled interval.stop) : floored interval = interval := by
  unfold floored
  rw [floor_eq_iff.mpr starts.1, floor_eq_iff.mpr stops.1]

/-! ### Merging -/

def intervalsOf (busy : List Busy) : Option (List (Interval Int)) := busy.mapM Busy.interval

theorem intervalsOf_merge {periods : List (Interval Int)} {window : Window}
    {intervals : List (Interval Int)} :
    intervalsOf (merge periods window) = some intervals ↔
      (∀ interval ∈ Interval.coalesce window periods, Written interval) ∧
        intervals = (Interval.coalesce window periods).map floored := by
  have guarded : ∀ interval : Interval Int, (Busy.interval ∘ fun interval : Interval Int =>
      Busy.mk (rfc3339 interval.start) (rfc3339 interval.stop)) interval =
        if Written interval then some (floored interval) else none := interval_of_written
  unfold intervalsOf merge
  rw [List.mapM_map]
  exact mapM_eq_some_iff_of_guard guarded

/-- Merging is canonical on the periods of some calendars: what is answered is read as a canonical
list inside the window that covers what the periods do, and neither the order nor the grouping of
the periods makes a difference, whether the periods are merged or the calendars' own answers. -/
structure MergesWell (window : Window) (calendars : List (List (Interval Int))) : Prop where
  canonical : ∃ intervals, intervalsOf (merge calendars.flatten window) = some intervals ∧
    Canonical intervals ∧
    (∀ interval ∈ intervals, window.start ≤ interval.start ∧ interval.stop ≤ window.stop) ∧
    ∀ instant, window.Contains instant →
      (Covered intervals instant ↔ Covered calendars.flatten instant)
  alike : ∀ others : List (List (Interval Int)), others.flatten.Perm calendars.flatten →
    merge others.flatten window = merge calendars.flatten window ∧
      mergeAnswers (others.map fun periods => merge periods window) window =
        merge calendars.flatten window

/-- Each period, as far as it lies in the window, has ends that a text says. -/
def SpelledInside (window : Window) (periods : List (Interval Int)) : Prop :=
  ∀ period ∈ periods, (Interval.clip window period).start < (Interval.clip window period).stop →
    Spelled (Interval.clip window period).start ∧ Spelled (Interval.clip window period).stop

section Merged

variable {window : Window} {periods : List (Interval Int)}

theorem spelled_coalesce (spelled : SpelledInside window periods) :
    ∀ interval ∈ Interval.coalesce window periods,
      Spelled interval.start ∧ Spelled interval.stop := by
  intro interval member
  have coalesced := Interval.coalescedFrom_coalesce window periods
  obtain ⟨first, isFirst, nonempty, starts⟩ := coalesced.starts interval member
  obtain ⟨last, isLast, nonemptyToo, stops⟩ := coalesced.stops interval member
  rw [← starts, ← stops]
  exact ⟨(spelled first isFirst nonempty).1, (spelled last isLast nonemptyToo).2⟩

theorem intervalsOf_merge_of_spelled (spelled : SpelledInside window periods) :
    intervalsOf (merge periods window) = some (Interval.coalesce window periods) := by
  have ends := spelled_coalesce spelled
  refine intervalsOf_merge.mpr ⟨fun interval member =>
    ⟨(ends interval member).1.2, (ends interval member).2.2⟩, ?_⟩
  conv_lhs => rw [← List.map_id (Interval.coalesce window periods)]
  exact List.map_congr_left fun interval member =>
    (floored_of_spelled (ends interval member).1 (ends interval member).2).symm

theorem filterMap_merge_of_spelled (spelled : SpelledInside window periods) :
    (merge periods window).filterMap Busy.interval = Interval.coalesce window periods := by
  have ends := spelled_coalesce spelled
  unfold merge
  rw [List.filterMap_map]
  refine (List.filterMap_congr fun interval member => ?_).trans List.filterMap_some
  obtain ⟨starts, stops⟩ := ends interval member
  refine (interval_of_written interval).trans ?_
  rw [if_pos ⟨starts.2, stops.2⟩, floored_of_spelled starts stops]

variable {others : List (Interval Int)}

theorem merge_congr
    (same : ∀ instant, window.Contains instant → (Covered others instant ↔ Covered periods instant))
    :
    merge others window = merge periods window := by
  unfold merge
  rw [Interval.coalesce_congr same]

theorem covered_perm (permuted : others.Perm periods) (instant : Int) :
    Covered others instant ↔ Covered periods instant :=
  Interval.covered_congr (fun _ => permuted.mem_iff) instant

variable {calendars : List (List (Interval Int))}

theorem mergeAnswers_of_spelled (spelled : SpelledInside window calendars.flatten) :
    mergeAnswers (calendars.map fun periods => merge periods window) window =
      merge calendars.flatten window := by
  have each : ((calendars.map fun periods => merge periods window).flatten).filterMap
      Busy.interval = (calendars.map (Interval.coalesce window)).flatten := by
    rw [List.filterMap_flatten, List.map_map]
    congr 1
    refine List.map_congr_left fun periods member => filterMap_merge_of_spelled ?_
    exact fun period isPeriod => spelled period (List.mem_flatten_of_mem member isPeriod)
  unfold mergeAnswers
  rw [each]
  refine merge_congr fun instant isWithin => ?_
  constructor
  · rintro ⟨interval, member, contains⟩
    obtain ⟨_, isMerged, isMember⟩ := List.mem_flatten.mp member
    obtain ⟨periods, isCalendar, rfl⟩ := List.mem_map.mp isMerged
    obtain ⟨period, isPeriod, containsToo⟩ :=
      (Interval.covered_coalesce.mp ⟨interval, isMember, contains⟩).2
    exact ⟨period, List.mem_flatten_of_mem isCalendar isPeriod, containsToo⟩
  · rintro ⟨period, member, contains⟩
    obtain ⟨periods, isCalendar, isPeriod⟩ := List.mem_flatten.mp member
    obtain ⟨interval, isInterval, containsToo⟩ :=
      Interval.covered_coalesce.mpr ⟨isWithin, period, isPeriod, contains⟩
    exact ⟨interval, List.mem_flatten_of_mem (List.mem_map_of_mem isCalendar) isInterval,
      containsToo⟩

theorem mergesWell_of_spelled (spelled : SpelledInside window calendars.flatten) :
    MergesWell window calendars where
  canonical := by
    refine ⟨_, intervalsOf_merge_of_spelled spelled, Interval.canonical_coalesce _ _,
      fun interval member => ?_, fun instant isWithin => ?_⟩
    · exact Interval.inside_of_mem_coalesce member
    · rw [Interval.covered_coalesce, and_iff_right isWithin]
  alike others permuted := by
    have same : merge others.flatten window = merge calendars.flatten window :=
      merge_congr fun instant _ => covered_perm permuted instant
    refine ⟨same, (mergeAnswers_of_spelled fun period member => ?_).trans same⟩
    exact spelled period (permuted.mem_iff.mp member)

/-! ### When merging goes wrong -/

theorem clip_ends (window : Window) {period : Interval Int}
    (whole : AtWholeSecond period.start ∧ AtWholeSecond period.stop) :
    (AtWholeSecond (Interval.clip window period).start ∨
        (Interval.clip window period).start = window.start) ∧
      (AtWholeSecond (Interval.clip window period).stop ∨
        (Interval.clip window period).stop = window.stop) := by
  unfold Interval.clip
  dsimp only
  constructor
  · rcases max_choice period.start window.start with isOwn | isWindow
    · exact .inl (isOwn.symm ▸ whole.1)
    · exact .inr isWindow
  · rcases min_choice period.stop window.stop with isOwn | isWindow
    · exact .inl (isOwn.symm ▸ whole.2)
    · exact .inr isWindow

theorem spelledInside_of_mergesWell
    (whole : ∀ period ∈ calendars.flatten, AtWholeSecond period.start ∧ AtWholeSecond period.stop)
    (mergesWell : MergesWell window calendars) : SpelledInside window calendars.flatten := by
  obtain ⟨intervals, isRead, -, inside, covered⟩ := mergesWell.canonical
  obtain ⟨written, rfl⟩ := intervalsOf_merge.mp isRead
  intro period member nonempty
  obtain ⟨merged, isMerged, starts, stops⟩ := Interval.exists_coalesce_of_clip member nonempty
  obtain ⟨firstWritten, lastWritten⟩ := written merged isMerged
  obtain ⟨windowStarts, windowStops⟩ := Interval.inside_of_mem_coalesce isMerged
  obtain ⟨wholeStart, wholeStop⟩ := clip_ends window (whole period member)
  have inRange : Rfc3339.Writable (Interval.clip window period).start ∧
      Rfc3339.Writable (Interval.clip window period).stop := by
    unfold Rfc3339.Writable at *
    omega
  have insideToo := inside (floored merged) (List.mem_map_of_mem isMerged)
  refine ⟨⟨?_, inRange.1⟩, ⟨?_, inRange.2⟩⟩
  · -- A start inside a second is the window's, and the text says an instant before it.
    rcases wholeStart with isWhole | atWindow
    · exact isWhole
    · rw [atWindow] at starts ⊢
      have same : merged.start = window.start := le_antisymm starts windowStarts
      have before : window.start ≤ floor merged.start := insideToo.1
      rw [same] at before
      exact floor_eq_iff.mp (le_antisymm (floor_le _) before)
  · -- A stop inside a second is the window's, and what is left of the second is not covered.
    rcases wholeStop with isWhole | atWindow
    · exact isWhole
    · rw [atWindow] at stops ⊢
      have same : merged.stop = window.stop := le_antisymm windowStops stops
      refine floor_eq_iff.mp (le_antisymm (floor_le _) (le_of_not_gt fun isInside => ?_))
      have nonemptyToo := (Interval.canonical_coalesce _ _).nonempty merged isMerged
      have contains : merged.Contains (max merged.start (floor window.stop)) :=
        ⟨le_max_left _ _, max_lt nonemptyToo (same.symm ▸ isInside)⟩
      obtain ⟨isWithin, isCovered⟩ := Interval.covered_coalesce.mp ⟨merged, isMerged, contains⟩
      obtain ⟨_, isFloored, -, ends⟩ := (covered _ isWithin).mpr isCovered
      obtain ⟨other, isOther, rfl⟩ := List.mem_map.mp isFloored
      have late : floor window.stop < floor other.stop := (le_max_right _ _).trans_lt ends
      exact absurd (floor_mono (Interval.inside_of_mem_coalesce isOther).2) (not_le.mpr late)

/-- Merging is canonical exactly when what of each period lies in the window has ends that a text
says. Periods are at whole seconds, as they are read. -/
theorem mergesWell_iff {calendars : List (List (Interval Int))}
    (whole : ∀ period ∈ calendars.flatten,
      AtWholeSecond period.start ∧ AtWholeSecond period.stop) :
    MergesWell window calendars ↔ SpelledInside window calendars.flatten :=
  ⟨spelledInside_of_mergesWell whole, mergesWell_of_spelled⟩

end Merged

namespace TwoCalendars

def window : Window := ⟨1791784800 * second, 1791828000 * second⟩

/-- Two calendars that are busy at once. -/
def calendars : List (List (Interval Int)) :=
  [[⟨1791790200 * second, 1791799200 * second⟩],
    [⟨1791795600 * second, 1791806400 * second⟩]]

theorem mergesWell_calendars :
    MergesWell window calendars ↔ SpelledInside window calendars.flatten :=
  mergesWell_iff (by decide)

/-- The last hour of the year 9999 and the first of the next. -/
def newYear : Window := ⟨253402297200 * second, 253402304400 * second⟩

/-- An interval that stops in the year 10000 is written with a sign, and is lost where the answers
of calendars are merged. -/
theorem newYear_not_mergesWell : ¬MergesWell newYear [[newYear]] := by
  intro mergesWell
  have spelled := spelledInside_of_mergesWell (by decide) mergesWell newYear (by decide) (by decide)
  exact absurd spelled.2 (by decide)

end TwoCalendars

end Twalk.Collector.FreeBusy
