/-
This file is about the owner's working day as the free gaps are clipped by it. An instant is in
working hours by the owner's own clock: its weekday is one of the days and the clock is between that
day's opening and closing. What is answered of a list of gaps goes by the first second that shows the
opening and the first that shows the closing instead, day after day. The two are the same exactly
when these first seconds bound the working hours, and they do where the clock passes every opening
and closing once.
-/

import Twalk.FreeGaps

namespace Twalk.Collector.FreeBusy

open Twalk.Interval (Covered)

/-! ### Zones -/

namespace Zone

def FirstShows (zone : Zone) (wall seconds : Int) : Prop :=
  zone.clock seconds = wall ∧ ∀ other, zone.clock other = wall → seconds ≤ other

theorem earliest_eq_some_iff {zone : Zone} {wall seconds : Int} :
    zone.earliest wall = some seconds ↔ zone.FirstShows wall seconds := by
  unfold earliest FirstShows
  have shown : ∀ other, other ∈ ((zone.offsets.map fun offset => wall - offset).filter
      fun seconds => zone.clock seconds = wall) ↔ zone.clock other = wall := by
    intro other
    rw [List.mem_filter, decide_eq_true_eq, and_iff_right_iff_imp]
    intro isShown
    refine List.mem_map.mpr ⟨zone.offsetAt other, zone.offset_mem other, ?_⟩
    rw [← isShown]
    unfold clock
    omega
  rw [List.min?_eq_some_iff]
  simp only [shown]

end Zone

/-! ### Working hours -/

structure Hours where
  day : WorkingDay
  default : Nat × Nat
  readable : WorkingDay.minutes day.startsAt = some default.1 ∧
    WorkingDay.minutes day.endsAt = some default.2

namespace Hours

variable (hours : Hours)

def opening (date : Int) : Int :=
  date * 86400 + (hours.day.hours hours.default (weekdayOfDate date)).1 * 60

def closing (date : Int) : Int :=
  date * 86400 + (hours.day.hours hours.default (weekdayOfDate date)).2 * 60

def Accepts (date : Int) : Prop := weekdayOfDate date ∈ hours.day.days

end Hours

/-- An instant is in working hours by the owner's clock: its weekday is one of the days, and the time
of the clock is one of that weekday's. -/
structure InHours (hours : Hours) (zone : Zone) (instant : Int) : Prop where
  accepted : hours.Accepts (zone.date instant)
  opened : hours.opening (zone.date instant) ≤ zone.clock (instant / second)
  openYet : zone.clock (instant / second) < hours.closing (zone.date instant)

/-- An instant of a gap, among those whose ends are read. -/
def InGaps (gaps : List Free) (instant : Int) : Prop :=
  Covered (gaps.filterMap Free.interval) instant

def IsWritten (gap : Free) : Prop :=
  ∃ stretch : Interval Int, gap.start = rfc3339 stretch.start ∧ gap.finish = rfc3339 stretch.stop

def WorkingMinute (hours : Hours) (zone : Zone) (start : Int) : Prop :=
  ∀ instant, (Interval.mk start (start + 60 * second)).Contains instant →
    InHours hours zone instant

def MinuteOf (gap : Interval Int) (start : Int) : Prop :=
  gap.start ≤ start ∧ start + 60 * second ≤ gap.stop

instance (gap : Interval Int) (start : Int) : Decidable (MinuteOf gap start) :=
  inferInstanceAs (Decidable (_ ∧ _))

/-- The working day clips the gaps by the owner's clock: what is kept is in a gap and in working
hours, and every minute of a gap that is in working hours is kept. -/
structure ClipsByTheClock (hours : Hours) (zone : Zone) (gaps : List Free) : Prop where
  sound : ∀ instant, InGaps (within gaps hours.day zone) instant →
    InGaps gaps instant ∧ InHours hours zone instant
  complete : ∀ gap ∈ gaps, ∀ interval, gap.interval = some interval →
    ∀ start, MinuteOf interval start → WorkingMinute hours zone start →
      ∀ instant, (Interval.mk start (start + 60 * second)).Contains instant →
        InGaps (within gaps hours.day zone) instant

/-- An instant of a gap is between the first second that shows the opening of an accepted date and the
first that shows its closing, at least a minute of which lies in the gap. The date is one of those
from the date of the gap's start to that of its stop. -/
structure BetweenFirsts (hours : Hours) (zone : Zone) (gap : Interval Int) (instant : Int) :
    Prop where
  inside : gap.Contains instant
  between : ∃ date opens closes, (zone.date gap.start ≤ date ∧ date ≤ zone.date gap.stop) ∧
    hours.Accepts date ∧ zone.FirstShows (hours.opening date) opens ∧
      zone.FirstShows (hours.closing date) closes ∧
        (Interval.mk (opens * second) (closes * second)).Contains instant ∧
          Long (Interval.clip ⟨opens * second, closes * second⟩ gap)

/-- The first opening and the first closing bound the working hours in a list of gaps: between them
it is working hours, and every minute of working hours lies between them. -/
structure FirstsBound (hours : Hours) (zone : Zone) (gaps : List (Interval Int)) : Prop where
  working : ∀ gap ∈ gaps, ∀ instant, BetweenFirsts hours zone gap instant →
    InHours hours zone instant
  met : ∀ gap ∈ gaps, ∀ start, MinuteOf gap start → WorkingMinute hours zone start →
    ∀ instant, (Interval.mk start (start + 60 * second)).Contains instant →
      ∃ other ∈ gaps, BetweenFirsts hours zone other instant

/-! ### What is kept -/

variable {instant : Int}

section Kept

variable {hours : Hours} {zone : Zone}

theorem mem_datesBetween {first last date : Int} :
    date ∈ datesBetween first last ↔ first ≤ date ∧ date ≤ last := by
  unfold datesBetween
  rw [List.mem_map]
  constructor
  · rintro ⟨index, inRange, rfl⟩
    rw [List.mem_range] at inRange
    omega
  · rintro ⟨starts, stops⟩
    refine ⟨(date - first).toNat, List.mem_range.mpr ?_, ?_⟩ <;> omega

variable {gap : Interval Int}

theorem onDate_eq_some_iff {date : Int} {kept : Free} :
    onDate hours.day hours.default zone gap date = some kept ↔
      hours.Accepts date ∧ ∃ opens closes, zone.FirstShows (hours.opening date) opens ∧
        zone.FirstShows (hours.closing date) closes ∧
          offer (some zone) (Interval.clip ⟨opens * second, closes * second⟩ gap) = some kept := by
  unfold onDate
  dsimp only
  rw [Option.ite_none_right_eq_some]
  refine and_congr_right fun _ => ?_
  simp only [← Zone.earliest_eq_some_iff]
  unfold Hours.opening Hours.closing
  cases zone.earliest _ with
  | none => simp
  | some opens =>
    cases zone.earliest _ with
    | none => simp
    | some closes => simp [Interval.clip]

theorem spelled_of_isWritten {gap : Free} (isWritten : IsWritten gap) {interval : Interval Int}
    (isRead : gap.interval = some interval) :
    Spelled interval.start ∧ Spelled interval.stop := by
  obtain ⟨stretch, starts, stops⟩ := isWritten
  unfold Free.interval at isRead
  rw [starts, stops, read_interval] at isRead
  obtain ⟨written, isFloored⟩ := Option.ite_none_right_eq_some.mp isRead
  rw [← Option.some.inj isFloored]
  exact ⟨⟨atWholeSecond_floor _, writable_floor.mpr written.1⟩,
    ⟨atWholeSecond_floor _, writable_floor.mpr written.2⟩⟩

theorem atWholeSecond_mul (seconds : Int) : AtWholeSecond (seconds * second) := by
  unfold AtWholeSecond second
  omega

theorem spelled_clip (spelled : Spelled gap.start ∧ Spelled gap.stop) {opens closes : Int}
    (long : Long (Interval.clip ⟨opens * second, closes * second⟩ gap)) :
    Spelled (Interval.clip ⟨opens * second, closes * second⟩ gap).start ∧
      Spelled (Interval.clip ⟨opens * second, closes * second⟩ gap).stop := by
  have nonempty := long.nonempty
  obtain ⟨⟨wholeStart, startWritable⟩, ⟨wholeStop, stopWritable⟩⟩ := spelled
  unfold Interval.clip at *
  dsimp only at *
  refine ⟨⟨?_, ?_⟩, ⟨?_, ?_⟩⟩
  · rcases max_choice gap.start (opens * second) with isGap | isOpening
    · rwa [isGap]
    · rw [isOpening]
      exact atWholeSecond_mul opens
  · unfold Rfc3339.Writable at *
    omega
  · rcases min_choice gap.stop (closes * second) with isGap | isClosing
    · rwa [isGap]
    · rw [isClosing]
      exact atWholeSecond_mul closes
  · unfold Rfc3339.Writable at *
    omega

theorem within_of_readable (gaps : List Free) :
    within gaps hours.day zone = gaps.flatMap fun gap =>
      match gap.interval with
      | none => [gap]
      | some interval => (datesBetween (zone.date interval.start) (zone.date interval.stop)
          ).filterMap (onDate hours.day hours.default zone interval) := by
  unfold within
  split
  · rename_i opens closes isOpening isClosing
    obtain rfl := Option.some.inj (hours.readable.1.symm.trans isOpening)
    obtain rfl := Option.some.inj (hours.readable.2.symm.trans isClosing)
    rfl
  · rename_i unread
    exact absurd hours.readable.2 (unread _ _ hours.readable.1)

theorem interval_of_offer {stretch : Interval Int} {kept : Free}
    (isOffer : offer (some zone) stretch = some kept)
    (spelled : Spelled stretch.start ∧ Spelled stretch.stop) :
    Long stretch ∧ kept.interval = some stretch := by
  rw [offer_eq] at isOffer
  obtain ⟨long, isKept⟩ := Option.ite_none_right_eq_some.mp isOffer
  refine ⟨long, ?_⟩
  rw [← Option.some.inj isKept]
  refine (read_interval stretch).trans ?_
  rw [if_pos ⟨spelled.1.2, spelled.2.2⟩, floored_of_spelled spelled.1 spelled.2]

theorem inGaps_within {gaps : List Free} (written : ∀ gap ∈ gaps, IsWritten gap) :
    InGaps (within gaps hours.day zone) instant ↔
      ∃ gap ∈ gaps.filterMap Free.interval, BetweenFirsts hours zone gap instant := by
  rw [within_of_readable]
  constructor
  · rintro ⟨stretch, isStretch, contains⟩
    obtain ⟨kept, isKept, isRead⟩ := List.mem_filterMap.mp isStretch
    obtain ⟨gap, isGap, fromGap⟩ := List.mem_flatMap.mp isKept
    cases gapRead : gap.interval with
    | none =>
      rw [gapRead] at fromGap
      rw [List.mem_singleton.mp fromGap, gapRead] at isRead
      cases isRead
    | some interval =>
      rw [gapRead] at fromGap
      obtain ⟨date, isDate, onThisDate⟩ := List.mem_filterMap.mp fromGap
      obtain ⟨accepts, opens, closes, isOpening, isClosing, isOffer⟩ :=
        onDate_eq_some_iff.mp onThisDate
      have spelled := spelled_of_isWritten (written gap isGap) gapRead
      have long : Long (Interval.clip ⟨opens * second, closes * second⟩ interval) := by
        rw [offer_eq] at isOffer
        exact (Option.ite_none_right_eq_some.mp isOffer).1
      have same := (interval_of_offer isOffer (spelled_clip spelled long)).2
      rw [isRead] at same
      rw [Option.some.inj same] at contains
      obtain ⟨between, inGap⟩ := Interval.contains_clip.mp contains
      exact ⟨interval, List.mem_filterMap.mpr ⟨gap, isGap, gapRead⟩, inGap, date, opens, closes,
        mem_datesBetween.mp isDate, accepts, isOpening, isClosing, between, long⟩
  · rintro ⟨interval, isInterval, inGap, date, opens, closes, isDate, accepts, isOpening, isClosing,
      between, long⟩
    obtain ⟨gap, isGap, gapRead⟩ := List.mem_filterMap.mp isInterval
    have spelled := spelled_of_isWritten (written gap isGap) gapRead
    have isOffer : offer (some zone) (Interval.clip ⟨opens * second, closes * second⟩ interval) =
        some _ := offer_eq.trans (if_pos long)
    refine ⟨_, List.mem_filterMap.mpr ⟨_, List.mem_flatMap.mpr ⟨gap, isGap, ?_⟩,
      (interval_of_offer isOffer (spelled_clip spelled long)).2⟩,
      Interval.contains_clip.mpr ⟨between, inGap⟩⟩
    rw [gapRead]
    exact List.mem_filterMap.mpr ⟨date, mem_datesBetween.mpr isDate,
      onDate_eq_some_iff.mpr ⟨accepts, opens, closes, isOpening, isClosing, isOffer⟩⟩

theorem minutes_lt {value : String} {minutes : Nat}
    (isRead : WorkingDay.minutes value = some minutes) : minutes < 1440 := by
  unfold WorkingDay.minutes at isRead
  obtain ⟨_, -, isRead⟩ := Option.bind_eq_some_iff.mp isRead
  obtain ⟨hour, -, isRead⟩ := Option.bind_eq_some_iff.mp isRead
  obtain ⟨minute, -, isRead⟩ := Option.bind_eq_some_iff.mp isRead
  obtain ⟨⟨hourOfDay, minuteOfHour⟩, isMinutes⟩ := Option.ite_none_right_eq_some.mp isRead
  rw [← Option.some.inj isMinutes]
  omega

theorem hours_lt (hours : Hours) (weekday : Nat) :
    (hours.day.hours hours.default weekday).1 < 1440 ∧
      (hours.day.hours hours.default weekday).2 < 1440 := by
  have default := And.intro (minutes_lt hours.readable.1) (minutes_lt hours.readable.2)
  unfold WorkingDay.hours
  dsimp only
  split
  · rename_i opens closes isOpening isClosing
    split
    · exact ⟨minutes_lt isOpening, minutes_lt isClosing⟩
    · exact default
  · exact default

theorem opening_closing (hours : Hours) (date : Int) :
    date * 86400 ≤ hours.opening date ∧ hours.opening date < (date + 1) * 86400 ∧
      date * 86400 ≤ hours.closing date ∧ hours.closing date < (date + 1) * 86400 := by
  obtain ⟨opens, closes⟩ := hours_lt hours (weekdayOfDate date)
  unfold Hours.opening Hours.closing
  omega

/-- A date is met in a gap: it is one of those from the gap's start to its stop, or the clock shows
it. -/
def Meets (zone : Zone) (gap : Interval Int) (date : Int) : Prop :=
  (zone.date gap.start ≤ date ∧ date ≤ zone.date gap.stop) ∨
    ∃ instant, gap.Contains instant ∧ zone.date instant = date

/-- The clock passes a local time once in a gap: it shows it, and in the gap it is before that time
until it first does and not before it from then on. -/
def PassesOnce (zone : Zone) (gap : Interval Int) (wall : Int) : Prop :=
  ∃ first, zone.FirstShows wall first ∧ ∀ seconds, gap.start ≤ seconds * second →
    seconds * second ≤ gap.stop → (wall ≤ zone.clock seconds ↔ first ≤ seconds)

structure PassesHoursOnce (hours : Hours) (zone : Zone) (gap : Interval Int) (date : Int) :
    Prop where
  opening : PassesOnce zone gap (hours.opening date)
  closing : PassesOnce zone gap (hours.closing date)

theorem firstShows_unique {wall first other : Int} (isFirst : zone.FirstShows wall first)
    (isOther : zone.FirstShows wall other) : first = other :=
  le_antisymm (isFirst.2 other isOther.1) (isOther.2 first isFirst.1)

theorem second_in_gap (whole : AtWholeSecond gap.start) (contains : gap.Contains instant) :
    gap.start ≤ instant / second * second ∧ instant / second * second ≤ gap.stop := by
  obtain ⟨starts, stops⟩ := contains
  unfold AtWholeSecond second at *
  omega

theorem contains_mul {opens closes instant : Int} :
    (Interval.mk (opens * second) (closes * second)).Contains instant ↔
      opens ≤ instant / second ∧ instant / second < closes := by
  unfold Interval.Contains second
  dsimp only
  omega

theorem inHours_of_passesOnce (whole : AtWholeSecond gap.start) {instant date opens closes : Int}
    (contains : gap.Contains instant) (accepts : hours.Accepts date)
    (passes : PassesHoursOnce hours zone gap date)
    (isOpening : zone.FirstShows (hours.opening date) opens)
    (isClosing : zone.FirstShows (hours.closing date) closes)
    (between : (Interval.mk (opens * second) (closes * second)).Contains instant) :
    InHours hours zone instant := by
  obtain ⟨fromOpening, beforeClosing⟩ := contains_mul.mp between
  obtain ⟨inGap, inGapToo⟩ := second_in_gap whole contains
  obtain ⟨first, isFirst, passesOpening⟩ := passes.opening
  obtain ⟨last, isLast, passesClosing⟩ := passes.closing
  rw [firstShows_unique isFirst isOpening] at passesOpening
  rw [firstShows_unique isLast isClosing] at passesClosing
  have opened := (passesOpening _ inGap inGapToo).mpr fromOpening
  have notClosed := not_le.mp (mt (passesClosing _ inGap inGapToo).mp (not_le.mpr beforeClosing))
  have bounds := opening_closing hours date
  have isDate : zone.date instant = date := by
    unfold Zone.date
    omega
  exact ⟨isDate.symm ▸ accepts, isDate.symm ▸ opened, isDate.symm ▸ notClosed⟩

structure PassedMinute (hours : Hours) (zone : Zone) (gap : Interval Int) (start : Int) : Prop where
  whole : AtWholeSecond gap.start ∧ AtWholeSecond gap.stop
  minute : MinuteOf gap start
  working : WorkingMinute hours zone start
  passes : ∀ date, hours.Accepts date → Meets zone gap date → PassesHoursOnce hours zone gap date

namespace PassedMinute

variable {gap : Interval Int} {start : Int} (passed : PassedMinute hours zone gap start)

include passed

theorem inGap (contains : (Interval.mk start (start + 60 * second)).Contains instant) :
    gap.Contains instant :=
  ⟨passed.minute.1.trans contains.1, contains.2.trans_le passed.minute.2⟩

theorem exists_firsts (contains : (Interval.mk start (start + 60 * second)).Contains instant) :
    ∃ opens closes, zone.FirstShows (hours.opening (zone.date instant)) opens ∧
      zone.FirstShows (hours.closing (zone.date instant)) closes ∧
      (∀ seconds, gap.start ≤ seconds * second → seconds * second ≤ gap.stop →
        (hours.opening (zone.date instant) ≤ zone.clock seconds ↔ opens ≤ seconds)) ∧
      (∀ seconds, gap.start ≤ seconds * second → seconds * second ≤ gap.stop →
        (hours.closing (zone.date instant) ≤ zone.clock seconds ↔ closes ≤ seconds)) ∧
      opens ≤ instant / second ∧ instant / second < closes := by
  have inHours := passed.working instant contains
  have inGap := passed.inGap contains
  have passes := passed.passes _ inHours.accepted (.inr ⟨instant, inGap, rfl⟩)
  obtain ⟨opens, isOpening, passesOpening⟩ := passes.opening
  obtain ⟨closes, isClosing, passesClosing⟩ := passes.closing
  obtain ⟨starts, stops⟩ := second_in_gap passed.whole.1 inGap
  refine ⟨opens, closes, isOpening, isClosing, passesOpening, passesClosing,
    (passesOpening _ starts stops).mp inHours.opened, ?_⟩
  exact not_le.mp (mt (passesClosing _ starts stops).mpr (not_le.mpr inHours.openYet))

theorem before_closing {instant other closes : Int}
    (contains : (Interval.mk start (start + 60 * second)).Contains instant)
    (containsOther : (Interval.mk start (start + 60 * second)).Contains other)
    (isClosing : zone.FirstShows (hours.closing (zone.date instant)) closes)
    (beforeClosing : instant / second < closes) : other < closes * second := by
  refine lt_of_not_ge fun reached => ?_
  have later : instant < closes * second := by
    unfold second at *
    omega
  have atClosing := passed.working (closes * second)
    ⟨contains.1.trans later.le, reached.trans_lt containsOther.2⟩
  have sameSecond : closes * second / second = closes :=
    Int.mul_ediv_cancel closes (by decide)
  have bounds := opening_closing hours (zone.date instant)
  have sameDate : zone.date (closes * second) = zone.date instant := by
    have shown := isClosing.1
    unfold Zone.date at *
    rw [sameSecond, shown]
    omega
  have notYet := atClosing.openYet
  rw [sameDate, sameSecond, isClosing.1] at notYet
  exact lt_irrefl _ notYet

theorem after_opening {instant other opens : Int}
    (contains : (Interval.mk start (start + 60 * second)).Contains instant)
    (containsOther : (Interval.mk start (start + 60 * second)).Contains other)
    (isOpening : zone.FirstShows (hours.opening (zone.date instant)) opens)
    (passesOpening : ∀ seconds, gap.start ≤ seconds * second → seconds * second ≤ gap.stop →
      (hours.opening (zone.date instant) ≤ zone.clock seconds ↔ opens ≤ seconds))
    (afterOpening : opens ≤ instant / second) : opens * second ≤ other := by
  refine le_of_not_gt fun early => ?_
  -- The last nanosecond before the opening is in the minute, on an earlier date that closes there.
  have containsBefore :
      (Interval.mk start (start + 60 * second)).Contains (opens * second - 1) := by
    obtain ⟨-, before⟩ := contains
    obtain ⟨first, -⟩ := containsOther
    unfold Interval.Contains second at *
    dsimp only at *
    omega
  have lastSecond : (opens * second - 1) / second = opens - 1 := by
    unfold second
    omega
  have inHours := passed.working _ containsBefore
  obtain ⟨earlyOpens, earlyCloses, -, isClosing, -, passesClosing, -, -⟩ :=
    passed.exists_firsts containsBefore
  obtain ⟨starts, stops⟩ := second_in_gap passed.whole.1 (passed.inGap containsBefore)
  obtain ⟨-, stopsAfter⟩ := second_in_gap passed.whole.1 (passed.inGap contains)
  have inGapBefore : gap.start ≤ opens * second ∧ opens * second ≤ gap.stop := by
    rw [lastSecond] at starts
    unfold second at *
    omega
  rw [lastSecond] at starts stops
  have opened := inHours.opened
  have openYet := inHours.openYet
  rw [lastSecond] at opened openYet
  have notOpened := not_le.mp (mt (passesOpening _ starts stops).mp (by omega))
  have bounds := opening_closing hours (zone.date instant)
  have boundsBefore := opening_closing hours (zone.date (opens * second - 1))
  have shown := isOpening.1
  have earlier : zone.date (opens * second - 1) < zone.date instant := by
    refine lt_of_le_of_ne (by omega) fun same => ?_
    rw [same] at opened
    omega
  have closed : earlyCloses ≤ opens :=
    (passesClosing _ inGapBefore.1 inGapBefore.2).mp (by omega)
  have notClosed := mt (passesClosing _ starts stops).mpr (not_le.mpr openYet)
  have same : earlyCloses = opens := by omega
  have shownToo := isClosing.1
  rw [same] at shownToo
  omega

theorem betweenFirsts (contains : (Interval.mk start (start + 60 * second)).Contains instant) :
    BetweenFirsts hours zone gap instant := by
  obtain ⟨opens, closes, isOpening, isClosing, passesOpening, passesClosing, opened, openYet⟩ :=
    passed.exists_firsts contains
  obtain ⟨starts, stops⟩ := second_in_gap passed.whole.1 (passed.inGap contains)
  have bounds := opening_closing hours (zone.date instant)
  refine ⟨passed.inGap contains, zone.date instant, opens, closes, ⟨?_, ?_⟩,
    (passed.working instant contains).accepted, isOpening, isClosing,
    contains_mul.mpr ⟨opened, openYet⟩, ?_⟩
  · refine le_of_not_gt fun later => ?_
    have same : gap.start / second * second = gap.start := floor_eq_iff.mpr passed.whole.1
    have closed := (passesClosing (gap.start / second) same.ge (same.le.trans (starts.trans stops))
      ).mp (by unfold Zone.date at *; omega)
    unfold second at *
    omega
  · refine le_of_not_gt fun earlier => ?_
    have same : gap.stop / second * second = gap.stop := floor_eq_iff.mpr passed.whole.2
    have notOpened := mt (passesOpening (gap.stop / second) (by omega) same.le).mpr
      (by unfold Zone.date at *; omega)
    unfold second at *
    omega
  · have nonempty : start ≤ start + 60 * second - 1 ∧
        start + 60 * second - 1 < start + 60 * second := by
      unfold second
      omega
    have starting : (Interval.mk start (start + 60 * second)).Contains start :=
      ⟨le_rfl, nonempty.1.trans_lt nonempty.2⟩
    have ending : (Interval.mk start (start + 60 * second)).Contains (start + 60 * second - 1) :=
      nonempty
    have first := passed.after_opening contains starting isOpening passesOpening opened
    have last := passed.before_closing contains ending isClosing openYet
    obtain ⟨fromStart, toStop⟩ := passed.minute
    unfold Long Interval.clip
    dsimp only
    omega

end PassedMinute

theorem firstsBound_of_passesOnce {gaps : List (Interval Int)}
    (whole : ∀ gap ∈ gaps, AtWholeSecond gap.start ∧ AtWholeSecond gap.stop)
    (passes : ∀ gap ∈ gaps, ∀ date, hours.Accepts date → Meets zone gap date →
      PassesHoursOnce hours zone gap date) : FirstsBound hours zone gaps where
  working := by
    rintro gap isGap instant ⟨contains, date, opens, closes, isDate, accepts, isOpening, isClosing,
      between, -⟩
    exact inHours_of_passesOnce (whole gap isGap).1 contains accepts
      (passes gap isGap date accepts (.inl isDate)) isOpening isClosing between
  met gap isGap start minute working instant contains :=
    ⟨gap, isGap, PassedMinute.betweenFirsts
      ⟨whole gap isGap, minute, working, passes gap isGap⟩ contains⟩

/-- Where the clock of the zone passes the opening and the closing of each accepted date once in
every gap, the working day clips the gaps by the owner's clock. -/
theorem clipsByTheClock_of_passesOnce {gaps : List Free} (written : ∀ gap ∈ gaps, IsWritten gap)
    (passes : ∀ gap ∈ gaps.filterMap Free.interval, ∀ date, hours.Accepts date →
      Meets zone gap date → PassesHoursOnce hours zone gap date) :
    ClipsByTheClock hours zone gaps := by
  have whole : ∀ gap ∈ gaps.filterMap Free.interval,
      AtWholeSecond gap.start ∧ AtWholeSecond gap.stop := by
    intro gap isGap
    obtain ⟨free, isFree, isRead⟩ := List.mem_filterMap.mp isGap
    have spelled := spelled_of_isWritten (written free isFree) isRead
    exact ⟨spelled.1.1, spelled.2.1⟩
  have kept : ∀ instant, InGaps (within gaps hours.day zone) instant ↔
      ∃ gap ∈ gaps.filterMap Free.interval, BetweenFirsts hours zone gap instant :=
    fun _ => inGaps_within written
  have bound := firstsBound_of_passesOnce whole passes
  refine ⟨fun instant isKept => ?_, fun free isFree gap isRead start isMinute isWorking instant
    contains => (kept instant).mpr ?_⟩
  · obtain ⟨gap, isGap, between⟩ := (kept instant).mp isKept
    exact ⟨⟨gap, isGap, between.inside⟩, bound.working gap isGap instant between⟩
  · exact bound.met gap (List.mem_filterMap.mpr ⟨free, isFree, isRead⟩) start isMinute isWorking
      instant contains

end Kept

namespace Midnight

/-- A zone whose clocks go from midnight to one in the morning on a Friday. -/
def zone : Zone where
  offsetAt seconds := if seconds < 1776981600 then 7200 else 10800
  offsets := [7200, 10800]
  offset_mem seconds := by split <;> simp
  bounded seconds := by split <;> decide

/-- An owner whose Friday starts at midnight. -/
def hours : Hours where
  day := ⟨[5], "00:00", "18:00", []⟩
  default := (0, 1080)
  readable := by decide +kernel

def gap : Free := ⟨"2026-04-24T06:00:00Z", "2026-04-24T12:00:00Z", none, none, 360⟩

def interval : Interval Int := ⟨1777010400 * second, 1777032000 * second⟩

theorem isWritten_gap : IsWritten gap := ⟨interval, by decide +kernel, by decide +kernel⟩

theorem interval_gap : gap.interval = some interval := by decide +kernel

theorem inHours_gap (contains : interval.Contains instant) :
    InHours hours zone instant := by
  obtain ⟨starts, stops⟩ : 1777010400 * second ≤ instant ∧ instant < 1777032000 * second := contains
  have range : 1777010400 ≤ instant / second ∧ instant / second < 1777032000 := by
    unfold second at *
    omega
  have shown : zone.clock (instant / second) = instant / second + 10800 := by
    unfold Zone.clock zone
    dsimp only
    rw [if_neg (by omega)]
  have isFriday : zone.date instant = 20567 := by
    unfold Zone.date
    omega
  refine ⟨?_, ?_, ?_⟩
  · rw [isFriday]
    exact List.mem_singleton.mpr (by decide)
  · rw [isFriday, shown, show hours.opening 20567 = 1776988800 by decide +kernel]
    omega
  · rw [isFriday, shown, show hours.closing 20567 = 1777053600 by decide +kernel]
    omega

end Midnight

namespace Summer

/-- A zone that stays two hours ahead. -/
def zone : Zone where
  offsetAt _ := 7200
  offsets := [7200]
  offset_mem _ := List.mem_singleton_self _
  bounded _ := by decide

theorem passesOnce (gap : Interval Int) (wall : Int) : PassesOnce zone gap wall := by
  refine ⟨wall - 7200, ⟨?_, fun other shown => ?_⟩, fun seconds _ _ => ?_⟩
  · unfold Zone.clock zone
    dsimp only
    omega
  · unfold Zone.clock zone at shown
    dsimp only at shown
    omega
  · unfold Zone.clock zone
    dsimp only
    omega

theorem clipsByTheClock_summer : ClipsByTheClock Midnight.hours zone [Midnight.gap] :=
  clipsByTheClock_of_passesOnce (List.forall_mem_singleton.mpr Midnight.isWritten_gap)
    fun gap _ _ _ _ => ⟨passesOnce gap _, passesOnce gap _⟩

end Summer

end Twalk.Collector.FreeBusy
