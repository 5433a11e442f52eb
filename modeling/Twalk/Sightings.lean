/-
This file is the extremes of what was seen of a contact. An instant's spelling is in the order of the
instants for as long as its year in UTC has no fifth digit, and a row that takes the earlier and
the later of two spellings is then the earliest and the latest of whatever was delivered. Order,
batches and redeliveries leave no trace in it, since a row is told by which instants were seen.
-/

import Mathlib.Data.String.Basic
import Twalk.Contacts

namespace Twalk.Contacts

/-! ### What the table is to hold -/

section Reading

variable (times : DateTimes) (owner : Owner) (registry : Registry)

def Sights (header : InboundHeader) (contact connection : String) (instant : Int) : Prop :=
  header.subject = contact ∧ owner.isOwner contact = false ∧ contact ≠ "" ∧
    ∃ network placed, Consent.Network.parse header.network = some network ∧
      registry.resolve header.connection network.asStr = .ok placed ∧ placed.id = connection ∧
        times.parse header.time = some instant

def Sighted (events : List Event) (contact connection : String) (instant : Int) : Prop :=
  ∃ header, some header ∈ events ∧ Sights times owner registry header contact connection instant

def millis (instant : Int) : Int := instant / 1000000

/-- The earliest and the latest of some instants, as they are stored. -/
structure IsRow (seen : Int → Prop) (row : String × String) : Prop where
  first : ∃ instant, seen instant ∧ row.1 = spelling instant ∧
    ∀ other, seen other → millis instant ≤ millis other
  last : ∃ instant, seen instant ∧ row.2 = spelling instant ∧
    ∀ other, seen other → millis other ≤ millis instant

def Holds (rows : Rows) (seen : String → String → Int → Prop) : Prop :=
  ∀ contact connection,
    (rows (contact, connection) = none ↔ ∀ instant, ¬seen contact connection instant) ∧
    ∀ row, rows (contact, connection) = some row → IsRow (seen contact connection) row

/-- The table is told by which events were delivered, however and how often. -/
def OrderFree (deliveries : List (List Event)) : Prop :=
  ∃ rows, project times owner registry deliveries = some rows ∧
    Holds rows (Sighted times owner registry deliveries.flatten)

end Reading

/-- The year of an instant in UTC has no fifth digit. -/
def InTime (instant : Int) : Prop := instant < Rfc3339.lastDay * 86400000000000

/-- No text names an earlier instant. -/
def AfterFirst (instant : Int) : Prop := (Rfc3339.firstDay - 2) * 86400000000000 ≤ instant

/-! ### Spellings are in the order of the instants -/

variable {instant : Int}

theorem year_of_afterFirst (after : AfterFirst instant) :
    -1 ≤ (dateOf instant).year ∧ ((dateOf instant).year ≤ 9999 ↔ InTime instant) := by
  unfold AfterFirst at after
  unfold InTime dateOf
  generalize isDay : instant / 86400000000000 = day
  have inTime : instant < Rfc3339.lastDay * 86400000000000 ↔ day < Rfc3339.lastDay := by omega
  have isAfter : Rfc3339.firstDay - 2 ≤ day := by omega
  rw [inTime]
  rcases lt_or_ge day Rfc3339.firstDay with before | fromFirst
  · have isLast : day = Rfc3339.firstDay - 1 ∨ day = Rfc3339.firstDay - 2 := by omega
    rcases isLast with rfl | rfl <;> decide
  · rcases lt_or_ge day Rfc3339.lastDay with early | late
    · have fourDigits := Rfc3339.year_dateOf ⟨fromFirst, early⟩
      omega
    · have fiveDigits := mt Rfc3339.year_dateOf_iff.mp (fun both => not_le.mpr both.2 late)
      have isFirst : Rfc3339.dateOf Rfc3339.firstDay = ⟨0, 1, 1⟩ := by decide
      have later := (Rfc3339.dayNumber_lt_iff (Rfc3339.valid_dateOf Rfc3339.firstDay)
        (Rfc3339.valid_dateOf day)).mp (by
          rw [Rfc3339.dayNumber_dateOf, Rfc3339.dayNumber_dateOf]
          unfold Rfc3339.firstDay Rfc3339.lastDay at *
          omega)
      rw [isFirst] at later
      unfold Rfc3339.Date.Before at later
      dsimp only at later
      omega

theorem toUtc_of_afterFirst (after : AfterFirst instant) :
    (InTime instant → toUtc instant = some instant) ∧ (¬InTime instant → toUtc instant = none) := by
  obtain ⟨early, late⟩ := year_of_afterFirst after
  unfold toUtc
  exact ⟨fun inTime => if_pos ⟨by omega, late.mpr inTime⟩,
    fun isLate => if_neg fun both => isLate (late.mp both.2)⟩

theorem paddedYear_of_nonneg {year : Int} (positive : 0 ≤ year) (small : year ≤ 9999) :
    paddedYear year = Rfc3339.padded 4 year.toNat := by
  have isSame : year.natAbs = year.toNat := by omega
  unfold paddedYear
  rw [if_neg (not_lt.mpr positive), isSame]
  exact @Rfc3339.zeros_toDigits 3 year.toNat (by omega)

theorem sign_lt_digit (digit : Nat) (small : digit < 10) :
    '-' < digit.digitChar ∧ ¬digit.digitChar < '-' ∧ digit.digitChar ≠ '-' := by
  have isValue := Nat.toNat_digitChar_of_lt_ten small
  refine ⟨?_, ?_, ?_⟩
  · rw [Char.lt_def, UInt32.lt_iff_toNat_lt]
    change '-'.toNat < digit.digitChar.toNat
    rw [isValue]
    exact Nat.lt_of_lt_of_le (by decide) (Nat.le_add_right 48 digit)
  · rw [Char.lt_def, UInt32.lt_iff_toNat_lt]
    change ¬digit.digitChar.toNat < '-'.toNat
    rw [isValue, not_lt]
    exact Nat.le_trans (by decide) (Nat.le_add_right 48 digit)
  · rintro isSign
    rw [isSign] at isValue
    have isCode : '-'.toNat = 45 := rfl
    omega

theorem paddedYear_append_lt_iff {year other : Int} (inRange : -1 ≤ year ∧ year ≤ 9999)
    (otherInRange : -1 ≤ other ∧ other ≤ 9999) (back otherBack : List Char) :
    paddedYear year ++ back < paddedYear other ++ otherBack ↔
      year < other ∨ year = other ∧ back < otherBack := by
  have before : paddedYear (-1) = ['-', '0', '0', '1'] := by decide
  have signs : ∀ year : Nat, Rfc3339.padded 4 year =
      (year / 10 ^ 3 % 10).digitChar :: Rfc3339.padded 3 year := fun year => rfl
  rcases eq_or_lt_of_le inRange.1 with rfl | fromZero <;>
    rcases eq_or_lt_of_le otherInRange.1 with rfl | otherFromZero
  · rw [before]
    simp only [List.cons_append, List.nil_append, List.cons_lt_cons_iff, lt_irrefl, true_and,
      false_or]
  · obtain ⟨first, -, -⟩ := sign_lt_digit _ (Nat.mod_lt (other.toNat / 10 ^ 3) (by decide))
    rw [before, paddedYear_of_nonneg (by omega) otherInRange.2, signs]
    simp only [List.cons_append]
    rw [List.cons_lt_cons_iff]
    exact iff_of_true (.inl first) (.inl otherFromZero)
  · obtain ⟨-, notLess, notSame⟩ := sign_lt_digit _ (Nat.mod_lt (year.toNat / 10 ^ 3) (by decide))
    rw [before, paddedYear_of_nonneg (by omega) inRange.2, signs]
    simp only [List.cons_append]
    rw [List.cons_lt_cons_iff]
    refine iff_of_false (not_or.mpr ⟨notLess, fun both => notSame both.1⟩) ?_
    omega
  · rw [paddedYear_of_nonneg (by omega) inRange.2, paddedYear_of_nonneg (by omega) otherInRange.2,
      Rfc3339.padded_append_lt_iff (by omega) (by omega)]
    have sameOrder : (year.toNat < other.toNat ↔ year < other) ∧
        (year.toNat = other.toNat ↔ year = other) := by omega
    rw [sameOrder.1, sameOrder.2]

theorem spelling_lt_iff {instant other : Int} (after : AfterFirst instant) (inTime : InTime instant)
    (otherAfter : AfterFirst other) (otherInTime : InTime other) :
    spelling instant < spelling other ↔ millis instant < millis other := by
  obtain ⟨early, late⟩ := year_of_afterFirst after
  obtain ⟨otherEarly, otherLate⟩ := year_of_afterFirst otherAfter
  have valid := Rfc3339.valid_dateOf (instant / 86400000000000)
  have otherValid := Rfc3339.valid_dateOf (other / 86400000000000)
  have days := Rfc3339.dayNumber_lt_iff valid otherValid
  have daysToo := Rfc3339.dayNumber_lt_iff otherValid valid
  rw [Rfc3339.dayNumber_dateOf, Rfc3339.dayNumber_dateOf] at days daysToo
  have bounds : ∀ date : Rfc3339.Date, date.Valid → date.month < 10 ^ 2 ∧ date.day < 10 ^ 2 := by
    rintro date ⟨-, lastMonth, -, lastDay⟩
    have short := Rfc3339.daysInMonth_le date.year date.month
    omega
  obtain ⟨monthFits, dayFits⟩ := bounds _ valid
  obtain ⟨otherMonthFits, otherDayFits⟩ := bounds _ otherValid
  rw [String.lt_iff_toList_lt]
  unfold spelling
  dsimp only
  rw [String.toList_ofList, String.toList_ofList,
    paddedYear_append_lt_iff ⟨early, late.mpr inTime⟩ ⟨otherEarly, otherLate.mpr otherInTime⟩]
  unfold dateOf at *
  generalize Rfc3339.dateOf (instant / 86400000000000) = date at *
  generalize Rfc3339.dateOf (other / 86400000000000) = otherDate at *
  simp only [List.cons_lt_cons_iff, lt_irrefl, false_or, true_and]
  rw [Rfc3339.padded_append_lt_iff monthFits otherMonthFits]
  simp only [List.cons_lt_cons_iff, lt_irrefl, false_or, true_and]
  rw [Rfc3339.padded_append_lt_iff dayFits otherDayFits]
  simp only [List.cons_lt_cons_iff, lt_irrefl, false_or, true_and]
  rw [Rfc3339.padded_append_lt_iff (by omega) (by omega)]
  simp only [List.cons_lt_cons_iff, lt_irrefl, false_or, true_and]
  rw [Rfc3339.padded_append_lt_iff (by omega) (by omega)]
  simp only [List.cons_lt_cons_iff, lt_irrefl, false_or, true_and]
  rw [Rfc3339.padded_append_lt_iff (by omega) (by omega)]
  simp only [List.cons_lt_cons_iff, lt_irrefl, false_or, true_and]
  rw [Rfc3339.padded_append_lt_iff (by omega) (by omega)]
  simp only [lt_irrefl, and_false, or_false]
  unfold Rfc3339.Date.Before at days daysToo
  unfold millis
  omega

/-! ### One event -/

section Reading

variable {times : DateTimes} {owner : Owner} {registry : Registry}

variable {contact connection : String} {header : InboundHeader}

theorem Sights.afterFirst (sights : Sights times owner registry header contact connection instant) :
    AfterFirst instant := by
  obtain ⟨-, -, -, network, placed, -, -, -, isTime⟩ := sights
  exact times.earliest isTime

theorem Sights.unique {contact connection other otherConnection : String}
    {instant otherInstant : Int}
    (sights : Sights times owner registry header contact connection instant)
    (sightsToo : Sights times owner registry header other otherConnection otherInstant) :
    contact = other ∧ connection = otherConnection ∧ instant = otherInstant := by
  obtain ⟨rfl, -, -, network, placed, isNetwork, isPlaced, rfl, isTime⟩ := sights
  obtain ⟨rfl, -, -, networkToo, placedToo, isNetworkToo, isPlacedToo, rfl, isTimeToo⟩ := sightsToo
  cases isNetwork.symm.trans isNetworkToo
  cases isPlaced.symm.trans isPlacedToo
  exact ⟨rfl, rfl, Option.some.inj (isTime.symm.trans isTimeToo)⟩

theorem sighting_of_sights (sights : Sights times owner registry header contact connection instant)
    :
    ∃ network, sighting times owner registry (some header) =
      (toUtc instant).map fun utc => some ⟨contact, connection, network, spelling utc⟩ := by
  obtain ⟨rfl, notOwner, nonempty, network, placed, isNetwork, isPlaced, rfl, isTime⟩ := sights
  refine ⟨network, ?_⟩
  unfold sighting Correspondent.read canonicalInstant
  dsimp only
  rw [if_neg (by rw [notOwner, Bool.false_or, beq_iff_eq]; exact nonempty), isNetwork]
  dsimp only
  rw [isPlaced]
  dsimp only
  rw [isTime]
  dsimp only
  rw [Option.map_map, Option.map_map]
  rfl

theorem sighting_of_not_sights (notSights : ∀ contact connection instant,
      ¬Sights times owner registry header contact connection instant) :
    sighting times owner registry (some header) = some none := by
  unfold sighting Correspondent.read canonicalInstant
  dsimp only
  by_cases refused : (owner.isOwner header.subject || header.subject == "") = true
  · rw [if_pos refused]
    rfl
  · rw [if_neg refused]
    rw [Bool.or_eq_true, not_or, Bool.not_eq_true, beq_iff_eq] at refused
    cases isNetwork : Consent.Network.parse header.network with
    | none => rfl
    | some network =>
      cases isPlaced : registry.resolve header.connection network.asStr with
      | error why =>
        dsimp only
        rw [isPlaced]
        rfl
      | ok placed =>
        cases isTime : times.parse header.time with
        | none =>
          dsimp only
          rw [isPlaced]
          rfl
        | some instant =>
          exact absurd ⟨rfl, refused.1, refused.2, network, placed, isNetwork, isPlaced, rfl, isTime⟩
            (notSights header.subject placed.id instant)

/-! ### One row -/

variable {rows : Rows}

theorem Holds.congr {seen others : String → String → Int → Prop} (holds : Holds rows seen)
    (same : ∀ contact connection instant,
      seen contact connection instant ↔ others contact connection instant) : Holds rows others := by
  have isSame : seen = others :=
    funext fun contact => funext fun connection => funext fun instant =>
      propext (same contact connection instant)
  rwa [← isSame]

theorem IsRow.observe {seen : Int → Prop} {row : String × String} (isRow : IsRow seen row)
    (spelled : ∀ instant, seen instant → AfterFirst instant ∧ InTime instant)
    (after : AfterFirst instant) (inTime : InTime instant) :
    IsRow (fun other => seen other ∨ other = instant)
      (if spelling instant < row.1 then spelling instant else row.1,
        if row.2 < spelling instant then spelling instant else row.2) := by
  obtain ⟨⟨earliest, isSeen, isFirst, first⟩, ⟨latest, isSeenToo, isLast, last⟩⟩ := isRow
  have order := spelling_lt_iff after inTime (spelled earliest isSeen).1 (spelled earliest isSeen).2
  have orderToo := spelling_lt_iff (spelled latest isSeenToo).1 (spelled latest isSeenToo).2 after
    inTime
  rw [isFirst, isLast]
  constructor
  · by_cases earlier : millis instant < millis earliest
    · rw [if_pos (order.mpr earlier)]
      refine ⟨instant, .inr rfl, rfl, ?_⟩
      rintro other (isSeen | rfl)
      · exact earlier.le.trans (first other isSeen)
      · exact le_rfl
    · rw [if_neg (mt order.mp earlier)]
      refine ⟨earliest, .inl isSeen, rfl, ?_⟩
      rintro other (isSeen | rfl)
      · exact first other isSeen
      · exact not_lt.mp earlier
  · by_cases later : millis latest < millis instant
    · rw [if_pos (orderToo.mpr later)]
      refine ⟨instant, .inr rfl, rfl, ?_⟩
      rintro other (isSeen | rfl)
      · exact (last other isSeen).trans later.le
      · exact le_rfl
    · rw [if_neg (mt orderToo.mp later)]
      refine ⟨latest, .inl isSeenToo, rfl, ?_⟩
      rintro other (isSeen | rfl)
      · exact last other isSeen
      · exact not_lt.mp later

theorem isRow_single (instant : Int) :
    IsRow (fun other => other = instant) (spelling instant, spelling instant) where
  first := ⟨instant, rfl, rfl, fun _ same => by rw [same]⟩
  last := ⟨instant, rfl, rfl, fun _ same => by rw [same]⟩

def Spelled (seen : String → String → Int → Prop) : Prop :=
  ∀ contact connection instant, seen contact connection instant →
    AfterFirst instant ∧ InTime instant

variable {seen : String → String → Int → Prop}

/-- One sighting more is kept. -/
theorem Holds.observe (holds : Holds rows seen) (spelled : Spelled seen) (network : Consent.Network)
    (after : AfterFirst instant) (inTime : InTime instant) :
    Holds (observeContact rows ⟨contact, connection, network, spelling instant⟩)
      fun other otherConnection otherInstant => seen other otherConnection otherInstant ∨
        (other = contact ∧ otherConnection = connection ∧ otherInstant = instant) := by
  intro other otherConnection
  unfold observeContact
  dsimp only
  by_cases isSame : (other, otherConnection) = (contact, connection)
  · rw [if_pos isSame]
    obtain ⟨rfl, rfl⟩ := Prod.mk.inj isSame
    obtain ⟨noRow, isRow⟩ := holds other otherConnection
    have members : (fun otherInstant => seen other otherConnection otherInstant ∨
        other = other ∧ otherConnection = otherConnection ∧ otherInstant = instant) =
        fun otherInstant => seen other otherConnection otherInstant ∨ otherInstant = instant := by
      simp only [true_and]
    rw [members]
    cases isKept : rows (other, otherConnection) with
    | none =>
      have nothing := noRow.mp isKept
      have single : (fun otherInstant => seen other otherConnection otherInstant ∨
          otherInstant = instant) = fun otherInstant => otherInstant = instant :=
        funext fun otherInstant => propext (or_iff_right (nothing otherInstant))
      refine ⟨⟨nofun, fun none => absurd (.inr ⟨rfl, rfl, rfl⟩) (none instant)⟩, fun row same => ?_⟩
      rw [single, ← Option.some.inj same]
      exact isRow_single instant
    | some row =>
      obtain ⟨first, last⟩ := row
      refine ⟨⟨nofun, fun none => absurd (.inr ⟨rfl, rfl, rfl⟩) (none instant)⟩, fun other same => ?_⟩
      rw [← Option.some.inj same]
      exact (isRow _ isKept).observe (spelled _ _) after inTime
  · rw [if_neg isSame]
    have members : ∀ otherInstant, (seen other otherConnection otherInstant ∨
        other = contact ∧ otherConnection = connection ∧ otherInstant = instant) ↔
        seen other otherConnection otherInstant := by
      refine fun otherInstant => or_iff_left ?_
      rintro ⟨rfl, rfl, -⟩
      exact isSame rfl
    simp only [members]
    exact holds other otherConnection

/-! ### One batch -/

/-- Every instant that a batch shows has a spelling. -/
def AllInTime (times : DateTimes) (owner : Owner) (registry : Registry) (events : List Event) :
    Prop :=
  ∀ contact connection instant, Sighted times owner registry events contact connection instant →
    InTime instant

theorem sighted_cons {event : Event} {rest : List Event} :
    Sighted times owner registry (event :: rest) contact connection instant ↔
      Sighted times owner registry [event] contact connection instant ∨
        Sighted times owner registry rest contact connection instant := by
  unfold Sighted
  simp only [List.mem_cons, List.not_mem_nil, or_false, or_and_right, exists_or]

theorem sighted_append {front back : List Event} :
    Sighted times owner registry (front ++ back) contact connection instant ↔
      Sighted times owner registry front contact connection instant ∨
        Sighted times owner registry back contact connection instant := by
  unfold Sighted
  simp only [List.mem_append, or_and_right, exists_or]

theorem spelled_or {seen others : String → String → Int → Prop} (spelled : Spelled seen)
    (spelledToo : Spelled others) :
    Spelled fun contact connection instant =>
      seen contact connection instant ∨ others contact connection instant := by
  rintro contact connection instant (isSeen | isOther)
  · exact spelled _ _ _ isSeen
  · exact spelledToo _ _ _ isOther

theorem spelled_sighted {events : List Event} (inTime : AllInTime times owner registry events) :
    Spelled (Sighted times owner registry events) := by
  intro contact connection instant isSighted
  obtain ⟨header, -, sights⟩ := id isSighted
  exact ⟨sights.afterFirst, inTime contact connection instant isSighted⟩

theorem exists_sighting (holds : Holds rows seen) (spelled : Spelled seen) {event : Event}
    (inTime : AllInTime times owner registry [event]) :
    ∃ result, sighting times owner registry event = some result ∧
      Holds (observeContacts rows result.toList) fun contact connection instant =>
        seen contact connection instant ∨
          Sighted times owner registry [event] contact connection instant := by
  cases event with
  | none =>
    refine ⟨none, rfl, holds.congr fun contact connection instant => (or_iff_left ?_).symm⟩
    rintro ⟨header, isEvent, -⟩
    cases List.mem_singleton.mp isEvent
  | some header =>
    by_cases shows : ∃ contact connection instant,
        Sights times owner registry header contact connection instant
    · obtain ⟨contact, connection, instant, sights⟩ := shows
      obtain ⟨network, isRead⟩ := sighting_of_sights sights
      have isInTime := inTime contact connection instant ⟨header, List.mem_cons_self, sights⟩
      rw [(toUtc_of_afterFirst sights.afterFirst).1 isInTime] at isRead
      refine ⟨_, isRead, (holds.observe spelled network sights.afterFirst isInTime).congr fun other otherConnection otherInstant => or_congr_right ?_⟩
      constructor
      · rintro ⟨rfl, rfl, rfl⟩
        exact ⟨header, List.mem_cons_self, sights⟩
      · rintro ⟨otherHeader, isEvent, sightsToo⟩
        cases List.mem_singleton.mp isEvent
        exact sightsToo.unique sights
    · have notSights : ∀ contact connection instant,
          ¬Sights times owner registry header contact connection instant :=
        fun contact connection instant sights => shows ⟨contact, connection, instant, sights⟩
      refine ⟨none, sighting_of_not_sights notSights,
        holds.congr fun contact connection instant => (or_iff_left ?_).symm⟩
      rintro ⟨otherHeader, isEvent, sights⟩
      cases List.mem_singleton.mp isEvent
      exact notSights contact connection instant sights

theorem exists_drain (holds : Holds rows seen) (spelled : Spelled seen) {batch : List Event}
    (inTime : AllInTime times owner registry batch) :
    ∃ kept, drain times owner registry rows batch = some kept ∧
      Holds kept fun contact connection instant => seen contact connection instant ∨
        Sighted times owner registry batch contact connection instant := by
  induction batch generalizing rows seen with
  | nil =>
    refine ⟨rows, rfl, holds.congr fun contact connection instant => (or_iff_left ?_).symm⟩
    rintro ⟨header, isEvent, -⟩
    cases isEvent
  | cons event rest inductionHypothesis =>
    have first : AllInTime times owner registry [event] := fun contact connection instant shown =>
      inTime contact connection instant (sighted_cons.mpr (.inl shown))
    have others : AllInTime times owner registry rest := fun contact connection instant shown =>
      inTime contact connection instant (sighted_cons.mpr (.inr shown))
    obtain ⟨result, isRead, holdsFirst⟩ := exists_sighting holds spelled first
    obtain ⟨kept, isKept, holdsRest⟩ := inductionHypothesis holdsFirst
      (spelled_or spelled (spelled_sighted first)) others
    obtain ⟨results, areRead, isObserved⟩ := Option.bind_eq_some_iff.mp isKept
    refine ⟨kept, ?_, holdsRest.congr fun contact connection instant => ?_⟩
    · refine Option.bind_eq_some_iff.mpr ⟨result :: results, ?_, ?_⟩
      · rw [List.mapM_cons, isRead, areRead]
        rfl
      · rw [← isObserved]
        cases result with
        | none => rfl
        | some correspondent => rfl
    · exact or_assoc.trans (or_congr_right sighted_cons.symm)

theorem drain_eq_none {batch : List Event}
    (isSighted : Sighted times owner registry batch contact connection instant)
    (late : ¬InTime instant) : drain times owner registry rows batch = none := by
  obtain ⟨header, member, sights⟩ := isSighted
  obtain ⟨network, isRead⟩ := sighting_of_sights sights
  rw [(toUtc_of_afterFirst sights.afterFirst).2 late] at isRead
  have notRead : batch.mapM (sighting times owner registry) = none := by
    obtain ⟨front, back, rfl⟩ := List.append_of_mem member
    rw [List.mapM_append, List.mapM_cons, isRead]
    cases front.mapM (sighting times owner registry) <;> rfl
  unfold drain
  rw [notRead]
  rfl

/-! ### Every delivery -/

variable {deliveries : List (List Event)}

theorem exists_project (holds : Holds rows seen) (spelled : Spelled seen)
    (inTime : AllInTime times owner registry deliveries.flatten) :
    ∃ kept, deliveries.foldlM (drain times owner registry) rows = some kept ∧
      Holds kept fun contact connection instant => seen contact connection instant ∨
        Sighted times owner registry deliveries.flatten contact connection instant := by
  induction deliveries generalizing rows seen with
  | nil =>
    refine ⟨rows, rfl, holds.congr fun contact connection instant => (or_iff_left ?_).symm⟩
    rintro ⟨header, isEvent, -⟩
    cases isEvent
  | cons batch rest inductionHypothesis =>
    rw [List.flatten_cons] at inTime ⊢
    have first : AllInTime times owner registry batch := fun contact connection instant shown =>
      inTime contact connection instant (sighted_append.mpr (.inl shown))
    have others : AllInTime times owner registry rest.flatten :=
      fun contact connection instant shown =>
        inTime contact connection instant (sighted_append.mpr (.inr shown))
    obtain ⟨between, isDrained, holdsFirst⟩ := exists_drain holds spelled first
    obtain ⟨kept, isKept, holdsRest⟩ := inductionHypothesis holdsFirst
      (spelled_or spelled (spelled_sighted first)) others
    refine ⟨kept, ?_, holdsRest.congr fun contact connection instant => ?_⟩
    · rw [List.foldlM_cons, isDrained]
      exact isKept
    · rw [or_assoc, sighted_append]

theorem foldlM_drain_eq_none
    (isSighted : Sighted times owner registry deliveries.flatten contact connection instant)
    (late : ¬InTime instant) : deliveries.foldlM (drain times owner registry) rows = none := by
  induction deliveries generalizing rows with
  | nil =>
    obtain ⟨header, isEvent, -⟩ := isSighted
    cases isEvent
  | cons batch rest inductionHypothesis =>
    rw [List.foldlM_cons]
    rw [List.flatten_cons, sighted_append] at isSighted
    rcases isSighted with inFirst | inRest
    · rw [drain_eq_none inFirst late]
      rfl
    · cases drain times owner registry rows batch with
      | none => rfl
      | some kept => exact inductionHypothesis inRest

theorem holds_empty : Holds Rows.empty fun _ _ _ => False :=
  fun _ _ => ⟨⟨fun _ _ => id, fun _ => rfl⟩, nofun⟩

end Reading

/-- The table is told by which events were delivered, exactly where no event that shows a contact
carries an instant of which the year in UTC has a fifth digit. -/
theorem orderFree_iff (times : DateTimes) (owner : Owner) (registry : Registry)
    (deliveries : List (List Event)) :
    OrderFree times owner registry deliveries ↔
      ∀ contact connection instant,
        Sighted times owner registry deliveries.flatten contact connection instant →
          InTime instant := by
  constructor
  · rintro ⟨rows, isProjected, -⟩ contact connection instant isSighted
    by_contra late
    unfold project at isProjected
    rw [foldlM_drain_eq_none isSighted late] at isProjected
    cases isProjected
  · intro inTime
    obtain ⟨rows, isProjected, holds⟩ := exists_project holds_empty (fun _ _ _ => False.elim) inTime
    exact ⟨rows, isProjected, holds.congr fun _ _ _ => or_iff_right id⟩

/-! ### A clock that is an hour behind -/

namespace LastSecond

theorem ahead_of_readOffset {characters : List Char} {ahead : Int} {rest : List Char}
    (isRead : Rfc3339.readOffset characters = some (ahead, rest)) : ahead < 86400 := by
  unfold Rfc3339.readOffset at isRead
  split at isRead
  · cases isRead
  · split at isRead
    · cases isRead
      decide
    · split at isRead
      · obtain ⟨⟨hours, afterHours⟩, -, isRead⟩ := Option.bind_eq_some_iff.mp isRead
        obtain ⟨afterColon, -, isRead⟩ := Option.bind_eq_some_iff.mp isRead
        obtain ⟨⟨minutes, afterMinutes⟩, -, isRead⟩ := Option.bind_eq_some_iff.mp isRead
        obtain ⟨⟨inDay, inHour⟩, same⟩ := Option.ite_none_right_eq_some.mp isRead
        cases same
        split <;> omega
      · cases isRead

theorem firstDay_le {date : Rfc3339.Date} (valid : date.Valid) (positive : 0 ≤ date.year) :
    Rfc3339.firstDay ≤ Rfc3339.dayNumber date := by
  refine le_of_not_gt fun before => ?_
  have isFirst : Rfc3339.firstDay = Rfc3339.dayNumber ⟨0, 1, 1⟩ := by decide
  rw [isFirst, Rfc3339.dayNumber_lt_iff valid (by decide)] at before
  obtain ⟨firstMonth, -, firstOfMonth, -⟩ := valid
  unfold Rfc3339.Date.Before at before
  dsimp only at before
  omega

def times : DateTimes where
  parse := Rfc3339.read
  earliest := by
    intro text instant isRead
    unfold Rfc3339.read at isRead
    obtain ⟨⟨year, rest⟩, -, isRead⟩ := Option.bind_eq_some_iff.mp isRead
    obtain ⟨rest, -, isRead⟩ := Option.bind_eq_some_iff.mp isRead
    obtain ⟨⟨month, rest⟩, -, isRead⟩ := Option.bind_eq_some_iff.mp isRead
    obtain ⟨rest, -, isRead⟩ := Option.bind_eq_some_iff.mp isRead
    obtain ⟨⟨day, rest⟩, -, isRead⟩ := Option.bind_eq_some_iff.mp isRead
    obtain ⟨rest, -, isRead⟩ := Option.bind_eq_some_iff.mp isRead
    obtain ⟨⟨hour, rest⟩, -, isRead⟩ := Option.bind_eq_some_iff.mp isRead
    obtain ⟨rest, -, isRead⟩ := Option.bind_eq_some_iff.mp isRead
    obtain ⟨⟨minute, rest⟩, -, isRead⟩ := Option.bind_eq_some_iff.mp isRead
    obtain ⟨rest, -, isRead⟩ := Option.bind_eq_some_iff.mp isRead
    obtain ⟨⟨second, rest⟩, -, isRead⟩ := Option.bind_eq_some_iff.mp isRead
    obtain ⟨⟨nanos, rest⟩, -, isRead⟩ := Option.bind_eq_some_iff.mp isRead
    obtain ⟨⟨ahead, rest⟩, isAhead, isRead⟩ := Option.bind_eq_some_iff.mp isRead
    obtain ⟨⟨valid, -⟩, same⟩ := Option.ite_none_right_eq_some.mp isRead
    have behind := ahead_of_readOffset isAhead
    have first := firstDay_le valid (Int.natCast_nonneg year)
    rw [← Option.some.inj same]
    omega

def owner : Owner := ⟨"@owner:example.org", ["@owner:example.org"], List.mem_singleton_self _⟩

def registry : Registry where
  connections := [⟨"mail", "email", "Mail", none, none⟩]
  kindsKnown := by decide
  idsValid := by decide
  idsDistinct := by decide

def header : InboundHeader :=
  ⟨"@contact:example.org", "email", some "mail", "9999-12-31T23:59:59-01:00"⟩

theorem sights : Sights times owner registry header "@contact:example.org" "mail"
    253402304399000000000 :=
  ⟨rfl, by decide, by decide, .email, ⟨"mail", "email", "Mail", none, none⟩, by decide, by decide,
    rfl, by decide⟩

/-- The last second of the year 9999 an hour behind UTC is in the year 10000 there. -/
theorem not_orderFree : ¬∀ deliveries, OrderFree times owner registry deliveries := by
  intro orderFree
  obtain ⟨rows, isProjected, -⟩ := orderFree [[some header]]
  have isSighted : Sighted times owner registry [[some header]].flatten "@contact:example.org"
      "mail" 253402304399000000000 := ⟨header, List.mem_cons_self, sights⟩
  unfold project at isProjected
  have late : ¬InTime 253402304399000000000 := by
    unfold InTime
    decide
  rw [foldlM_drain_eq_none isSighted late] at isProjected
  cases isProjected

end LastSecond

end Twalk.Contacts
