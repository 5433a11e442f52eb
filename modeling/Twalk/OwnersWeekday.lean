/-
This file is about the weekday a proposed time is checked under. The collector spells a gap's start
in the owner's own time, the Gateway reads the offset off that text and counts the day of any instant
of the gap by it. The day is the owner's exactly when the offset of the gap's start, rounded to the
minute as it is spelled, puts the instant on the day that the instant's own offset does.
-/

import Twalk.CheckedTimes
import Twalk.InstantTexts
import Twalk.WorkingHours

namespace Twalk.Collector.FreeBusy

open HermesAnswer (weekdayOf offsetSeconds numberOf numberOf_padded not_sign_of_isDigit)
open Rfc3339 (length_padded isDigit_of_mem_padded)

/-! ### The seam -/

/-- The day a proposed time is checked under is the owner's: the offset of the gap's local start is
read, and the weekday it gives an instant is the zone's. -/
def OwnersWeekday (zone : Zone) (gap : Free) (seconds : Int) : Prop :=
  ∃ text offset, gap.startLocal = some text ∧ offsetSeconds text = some offset ∧
    weekdayOf (seconds + offset) = weekdayOfDate (zone.date (seconds * second))

def toMinute (offset : Int) : Int :=
  (if offset < 0 then -1 else 1) * (((offset.natAbs + 30) / 60 * 60 : Nat) : Int)

/-- The offset of a gap's start, as it is spelled, is less than a day and puts an instant on the day
the zone does. -/
structure SameDay (zone : Zone) (gap : Interval Int) (seconds : Int) : Prop where
  spelled : (toMinute (zone.offsetAt (gap.start / second))).natAbs < 86400
  day : (seconds + toMinute (zone.offsetAt (gap.start / second))) / 86400 =
    zone.clock seconds / 86400

instance (zone : Zone) (gap : Interval Int) (seconds : Int) :
    Decidable (SameDay zone gap seconds) :=
  decidable_of_iff ((toMinute (zone.offsetAt (gap.start / second))).natAbs < 86400 ∧
    (seconds + toMinute (zone.offsetAt (gap.start / second))) / 86400 =
      zone.clock seconds / 86400) ⟨fun ⟨spelled, day⟩ => ⟨spelled, day⟩,
        fun ⟨spelled, day⟩ => ⟨spelled, day⟩⟩

/-! ### Reading the offset -/

theorem length_dateTimeText (seconds : Int) : 10 < (dateTimeText seconds []).length := by
  have year : 4 ≤ (yearText (Rfc3339.dateOf (seconds / 86400)).year).length := by
    unfold yearText
    split
    · rw [length_padded]
    · rw [List.length_cons, List.length_append, List.length_replicate]
      omega
  unfold dateTimeText
  simp only [List.length_append, List.length_cons, length_padded, List.length_nil]
  omega

theorem dateTimeText_append (seconds : Int) (zone : List Char) :
    dateTimeText seconds zone = dateTimeText seconds [] ++ zone := by
  unfold dateTimeText
  simp only [List.append_assoc, List.cons_append, List.append_nil]

/-- The hours and minutes an offset is spelled with. -/
def digitsOf (minutes : Nat) : List Char :=
  Rfc3339.padded 2 (minutes / 60) ++ ':' :: Rfc3339.padded 2 (minutes % 60)

variable {minutes : Nat}

theorem of_mem_digitsOf {character : Char} (member : character ∈ digitsOf minutes) :
    character.isDigit = true ∨ character = ':' := by
  rcases List.mem_append.mp member with inHours | later
  · exact .inl (isDigit_of_mem_padded inHours)
  · rcases List.mem_cons.mp later with isColon | inMinutes
    · exact .inr isColon
    · exact .inl (isDigit_of_mem_padded inMinutes)

theorem not_sign_of_mem_digitsOf {character : Char} (member : character ∈ digitsOf minutes) :
    (character == '+' || character == '-') = false := by
  rcases of_mem_digitsOf member with isDigit | rfl
  · exact not_sign_of_isDigit isDigit
  · rfl

theorem getLast?_digitsOf (front : List Char) (sign : Char) (minutes : Nat) :
    ¬((front ++ sign :: digitsOf minutes).getLast? = some 'Z' ∨
      (front ++ sign :: digitsOf minutes).getLast? = some 'z') := by
  have nonempty : digitsOf minutes ≠ [] := by
    unfold digitsOf
    exact List.append_ne_nil_of_right_ne_nil _ (List.cons_ne_nil _ _)
  have ends : (front ++ sign :: digitsOf minutes).getLast? = (digitsOf minutes).getLast? := by
    rw [List.append_cons, List.getLast?_append_of_ne_nil _ nonempty]
  rw [ends]
  rintro (isZulu | isZulu) <;>
    rcases of_mem_digitsOf (List.mem_of_getLast? isZulu) with isDigit | isColon
  · exact absurd isDigit (by decide)
  · exact absurd isColon (by decide)
  · exact absurd isDigit (by decide)
  · exact absurd isColon (by decide)

theorem splitOnce_digitsOf (minutes : Nat) :
    Text.splitOnce ':' (String.ofList (digitsOf minutes)) =
      some (String.ofList (Rfc3339.padded 2 (minutes / 60)),
        String.ofList (Rfc3339.padded 2 (minutes % 60))) :=
  Text.splitOnce_append
    (fun member => absurd (isDigit_of_mem_padded member) (by decide)) _

theorem offsetSeconds_digitsOf {front : List Char} (long : 10 < front.length) {sign : Char}
    (isSign : sign = '+' ∨ sign = '-') (small : minutes / 60 < 100) :
    offsetSeconds (String.ofList (front ++ sign :: digitsOf minutes)) =
      if minutes / 60 < 24 then
        some ((if sign = '+' then 1 else -1) *
          (((minutes / 60 : Nat) : Int) * 3600 + ((minutes % 60 : Nat) : Int) * 60))
      else none := by
  have backwards : (front ++ sign :: digitsOf minutes).reverse =
      (digitsOf minutes).reverse ++ sign :: front.reverse := by
    rw [List.reverse_append, List.reverse_cons, List.append_assoc, List.singleton_append]
  have noSign : ∀ character ∈ (digitsOf minutes).reverse,
      (!(character == '+' || character == '-')) = true := by
    intro character member
    rw [not_sign_of_mem_digitsOf (List.mem_reverse.mp member)]
    rfl
  have stopsAtSign : (!(sign == '+' || sign == '-')) = false := by
    rcases isSign with rfl | rfl <;> rfl
  have wide : 10 < (String.ofList front.reverse).utf8ByteSize := by
    have least := Text.length_le_utf8ByteSize front.reverse
    rw [List.length_reverse] at least
    omega
  unfold offsetSeconds
  rw [String.toList_ofList, if_neg (getLast?_digitsOf front sign minutes)]
  dsimp only
  rw [backwards, List.dropWhile_append_of_pos noSign,
    List.takeWhile_append_of_pos noSign, List.dropWhile_cons_of_neg (by rw [stopsAtSign]; simp),
    List.takeWhile_cons_of_neg (by rw [stopsAtSign]; simp), List.append_nil, List.reverse_reverse]
  dsimp only
  rw [if_pos wide, splitOnce_digitsOf]
  simp only [Option.bind_eq_bind, Option.bind_some, String.toList_ofList]
  rw [numberOf_padded (by decide) small, numberOf_padded (by decide) (by omega)]
  simp only [Option.bind_some]
  by_cases inDay : minutes / 60 < 24
  · rw [if_pos inDay, if_pos (by omega)]
  · rw [if_neg inDay, if_neg (by omega)]

theorem offsetSeconds_localText (zone : Zone) (instant : Int) :
    offsetSeconds (zone.localText instant) =
      if (toMinute (zone.offsetAt (instant / second))).natAbs < 86400 then
        some (toMinute (zone.offsetAt (instant / second)))
      else none := by
  have bounded := zone.bounded (instant / second)
  unfold Zone.localText
  rw [dateTimeText_append]
  generalize zone.offsetAt (instant / second) = offset at bounded ⊢
  have isSign : ∀ negative : Prop, [Decidable negative] →
      (if negative then '-' else '+') = '+' ∨ (if negative then '-' else '+') = '-' := by
    intro negative _
    split <;> simp
  have notPlus : '-' ≠ '+' := by decide
  refine (offsetSeconds_digitsOf (length_dateTimeText _) (isSign (offset < 0)) (by omega)).trans ?_
  rcases lt_or_ge offset 0 with negative | positive
  · have value : toMinute offset = -(((offset.natAbs + 30) / 60 * 60 : Nat) : Int) := by
      unfold toMinute
      rw [if_pos negative, neg_one_mul]
    rw [if_pos negative, value]
    by_cases inDay : (offset.natAbs + 30) / 60 / 60 < 24
    · rw [if_pos inDay, if_neg notPlus, if_pos (show Int.natAbs (-_) < 86400 by omega)]
      congr 1
      omega
    · rw [if_neg inDay, if_neg (show ¬Int.natAbs (-_) < 86400 by omega)]
  · have value : toMinute offset = (((offset.natAbs + 30) / 60 * 60 : Nat) : Int) := by
      unfold toMinute
      rw [if_neg (not_lt.mpr positive), one_mul]
    rw [if_neg (not_lt.mpr positive), value]
    by_cases inDay : (offset.natAbs + 30) / 60 / 60 < 24
    · rw [if_pos inDay, if_pos rfl, if_pos (show Int.natAbs (Nat.cast _) < 86400 by omega)]
      congr 1
      omega
    · rw [if_neg inDay, if_neg (show ¬Int.natAbs (Nat.cast _) < 86400 by omega)]

/-! ### The gaps of a known zone -/

section Known

variable {zone : Zone}

variable {gap : Free}

theorem exists_stretch_of_offer {stretch : Interval Int}
    (isOffer : offer (some zone) stretch = some gap) : gap = asOffer (some zone) stretch := by
  rw [offer_eq] at isOffer
  exact (Option.some.inj (Option.ite_none_right_eq_some.mp isOffer).2).symm

theorem exists_stretch_of_within {gaps : List Free}
    (offered : ∀ gap ∈ gaps, ∃ stretch, gap = asOffer (some zone) stretch) {day : WorkingDay}
    (member : gap ∈ within gaps day zone) :
    ∃ stretch, gap = asOffer (some zone) stretch := by
  unfold within at member
  split at member
  · obtain ⟨whole, isWhole, inWhole⟩ := List.mem_flatMap.mp member
    split at inWhole
    · rw [List.mem_singleton.mp inWhole]
      exact offered whole isWhole
    · obtain ⟨date, -, isKept⟩ := List.mem_filterMap.mp inWhole
      unfold onDate at isKept
      dsimp only at isKept
      obtain ⟨-, isKept⟩ := Option.ite_none_right_eq_some.mp isKept
      split at isKept
      · exact ⟨_, exists_stretch_of_offer isKept⟩
      · cases isKept
  · exact offered gap member

theorem exists_stretch_of_freeBetween {zones : String → Option Zone} {busy : List Busy}
    {window : Window} {name : String} {workingDay : Option WorkingDay}
    (known : zones name = some zone)
    (member : gap ∈ freeBetween zones busy window (some name) workingDay) :
    ∃ stretch, gap = asOffer (some zone) stretch := by
  have isZone : (some name).bind zones = some zone := known
  unfold freeBetween at member
  rw [isZone] at member
  dsimp only at member
  split at member
  · cases member
  · rename_i intervals _
    have offered : ∀ gap ∈ (Interval.stretches window.start window.stop intervals).filterMap
        (offer (some zone)), ∃ stretch, gap = asOffer (some zone) stretch := by
      intro gap isGap
      obtain ⟨stretch, -, isOffer⟩ := List.mem_filterMap.mp isGap
      exact ⟨stretch, exists_stretch_of_offer isOffer⟩
    cases workingDay with
    | none => exact offered gap member
    | some day => exact exists_stretch_of_within offered member

theorem weekdayOf_eq (seconds : Int) : weekdayOf seconds = weekdayOfDate (seconds / 86400) := by
  unfold weekdayOf weekdayOfDate
  omega

theorem weekdayOfDate_eq_iff {first second : Int} (near : (first - second).natAbs < 7) :
    weekdayOfDate first = weekdayOfDate second ↔ first = second := by
  unfold weekdayOfDate
  omega

/-- The weekday of an instant is the owner's exactly when the offset that the gap's start is spelled
with puts the instant on the owner's day. -/
theorem ownersWeekday_iff {zones : String → Option Zone} {busy : List Busy} {window : Window}
    {name : String} {workingDay : Option WorkingDay} {gap : Free} {interval : Interval Int}
    (known : zones name = some zone)
    (member : gap ∈ freeBetween zones busy window (some name) workingDay)
    (isRead : gap.interval = some interval) (seconds : Int) :
    OwnersWeekday zone gap seconds ↔ SameDay zone interval seconds := by
  obtain ⟨stretch, rfl⟩ := exists_stretch_of_freeBetween known member
  have isFloored : interval.start / second = stretch.start / second := by
    have read : (asOffer (some zone) stretch).interval = _ := read_interval stretch
    rw [isRead] at read
    obtain ⟨-, same⟩ := Option.ite_none_right_eq_some.mp read.symm
    rw [← Option.some.inj same]
    unfold floored floor second
    dsimp only
    omega
  have spelled : (asOffer (some zone) stretch).startLocal = some (zone.localText stretch.start) :=
    rfl
  have date : zone.date (seconds * second) = zone.clock seconds / 86400 := by
    unfold Zone.date second
    rw [Int.mul_ediv_cancel _ (by decide)]
  have bounded := zone.bounded (stretch.start / second)
  have boundedToo := zone.bounded seconds
  have near : toMinute (zone.offsetAt (stretch.start / second)) - zone.offsetAt seconds < 172860 ∧
      -172860 < toMinute (zone.offsetAt (stretch.start / second)) - zone.offsetAt seconds := by
    unfold toMinute
    split <;> omega
  have apart : ((seconds + toMinute (zone.offsetAt (stretch.start / second))) / 86400 -
      zone.clock seconds / 86400).natAbs < 7 := by
    unfold Zone.clock
    omega
  have sameDay : SameDay zone interval seconds ↔
      (toMinute (zone.offsetAt (stretch.start / second))).natAbs < 86400 ∧
        (seconds + toMinute (zone.offsetAt (stretch.start / second))) / 86400 =
          zone.clock seconds / 86400 := by
    rw [← isFloored]
    exact ⟨fun same => ⟨same.spelled, same.day⟩, fun same => ⟨same.1, same.2⟩⟩
  rw [sameDay]
  constructor
  · rintro ⟨text, offset, isText, isOffset, isWeekday⟩
    rw [spelled] at isText
    rw [← Option.some.inj isText, offsetSeconds_localText] at isOffset
    obtain ⟨inDay, same⟩ := Option.ite_none_right_eq_some.mp isOffset
    rw [← Option.some.inj same, weekdayOf_eq, date, weekdayOfDate_eq_iff apart] at isWeekday
    exact ⟨inDay, isWeekday⟩
  · rintro ⟨inDay, day⟩
    refine ⟨_, _, spelled, (offsetSeconds_localText zone stretch.start).trans (if_pos inDay), ?_⟩
    rw [weekdayOf_eq, day, date]

end Known

namespace SummerTime

/-- A zone that is an hour ahead of Coordinated Universal Time in winter, and two in summer. -/
def zone : Zone where
  offsetAt seconds := if seconds < 1774746000 then 3600 else 7200
  offsets := [3600, 7200]
  offset_mem seconds := by split <;> simp
  bounded seconds := by split <;> decide

def zones (_ : String) : Option Zone := some zone

/-- From the Saturday before the clocks change to the Monday after. -/
def window : Window := ⟨1774699200 * second, 1774872000 * second⟩

def gap : Free :=
  ⟨"2026-03-28T12:00:00Z", "2026-03-30T12:00:00Z", some "2026-03-28T13:00:00+01:00",
    some "2026-03-30T14:00:00+02:00", 2880⟩

theorem mem_gap : gap ∈ freeBetween zones [] window (some "Europe/Paris") none := by
  decide +kernel

theorem interval_gap : gap.interval = some window := by decide +kernel

theorem ownersWeekday_gap : OwnersWeekday zone gap 1774823400 ↔ SameDay zone window 1774823400 :=
  ownersWeekday_iff rfl mem_gap interval_gap 1774823400

/-- Half past midnight on Monday is counted as Sunday. -/
theorem gap_not_ownersWeekday : window.Contains (1774823400 * second) ∧
    ¬OwnersWeekday zone gap 1774823400 := by
  refine ⟨by decide, ?_⟩
  rintro ⟨text, offset, isText, isOffset, isWeekday⟩
  cases isText
  have isHour : offsetSeconds "2026-03-28T13:00:00+01:00" = some 3600 := by decide +kernel
  rw [isHour] at isOffset
  cases isOffset
  revert isWeekday
  decide +kernel

end SummerTime

end Twalk.Collector.FreeBusy
