/-
This file follows the times a draft offers to what was read for them. Each instant is looked up in
the windows that were served for its message, the collector is asked once more for the free gaps of
the first window that covers it, and the instant has to lie in one of them. The day it falls on is
counted in the offset that gap is spelled in, where it is spelled in any, and a reply that names
weekdays has to name one of those days. Nothing is published of a draft that fails.
-/

import Twalk.HermesAnswered

namespace Twalk.HermesAnswer

open Consent Approval

/-! ### What the collector answers -/

/-- What of a collector's answer a check reads: its free gaps, where it lists them at all. -/
structure FreeBusy where
  free : Option (List Json)

/-- The governed reads: a connection, a window of it, and the delivery the read is made under. -/
abbrev Reads : Type := String → String × String → String → Except String FreeBusy

def offsetSeconds (localTime : String) : Option Int :=
  if localTime.toList.getLast? = some 'Z' ∨ localTime.toList.getLast? = some 'z' then some 0
  else
    let isSign := fun character : Char => character == '+' || character == '-'
    let backwards := localTime.toList.reverse
    match backwards.dropWhile fun character => !isSign character with
    | [] => none
    | sign :: earlier =>
      if 10 < (String.ofList earlier).utf8ByteSize then do
        let rest := (backwards.takeWhile fun character => !isSign character).reverse
        let (hours, minutes) ← Text.splitOnce ':' (String.ofList rest)
        let hours ← numberOf hours.toList
        let minutes ← numberOf minutes.toList
        if hours < 24 ∧ minutes < 60 then
          some ((if sign = '+' then 1 else -1) * (hours * 3600 + minutes * 60))
        else none
      else none

/-- The gap an item of an answer says, where both its ends are instants. -/
def gapOf (gap : Json) : Option Gap := do
  let member := fun name => (gap.get? name).bind Json.asStr
  let start ← (member "start").bind parseRfc3339Seconds
  let stop ← (member "end").bind parseRfc3339Seconds
  return ⟨start, stop, (member "start_local").bind offsetSeconds⟩

def Reads.freeGaps (reads : Reads) (connection : String) (window : String × String)
    (delivery : String) : Except String (Option (List Gap)) :=
  (reads connection window delivery).map fun answer => answer.free.map (List.filterMap gapOf)

def Answers.relaying (answers : Answers) (reads : Option Reads) : Answers :=
  { answers with freeGaps := reads.map Reads.freeGaps }

/-! ### What a checked time is -/

structure ServedFor (journals : Journals) (triggerEventId : String) (row : HermesRead) :
    Prop where
  recorded : row ∈ journals.hermesReads
  served : row.outcome = "served"
  named : ∃ delivery, row.delivery = some delivery ∧
    Text.contains (Text.toAsciiLowercase delivery) (Text.toAsciiLowercase triggerEventId) = true

def windowCovers (instant : Int) (window : String × String × String) : Bool :=
  match parseRfc3339Seconds window.2.1, parseRfc3339Seconds window.2.2 with
  | some first, some last => covers (first, last) instant
  | _, _ => false

structure LiesIn (journals : Journals) (triggerEventId : String) (instant : Int)
    (row : HermesRead) : Prop where
  servedFor : ServedFor journals triggerEventId row
  first : (journals.windowsReadFor triggerEventId).find? (windowCovers instant) =
    some (row.connection, row.windowFrom, row.windowTo)
  halfOpen : ∃ first last, parseRfc3339Seconds row.windowFrom = some first ∧
    parseRfc3339Seconds row.windowTo = some last ∧ first ≤ instant ∧ instant < last

section Checked

variable (journals : Journals) (reads : Reads)

/-- A text is an instant that was read for the message of a reference and that is free: it lies in
a window served for the message, and in a gap the collector answers for that window, which is the
first it lists that the instant lies in. -/
structure FoundFree (reference : Reference) (said : String) (instant : Int) (gap : Gap) :
    Prop where
  readable : parseRfc3339Seconds said = some instant
  free : ∃ row gaps, LiesIn journals reference.triggerEventId instant row ∧
    reads row.connection (row.windowFrom, row.windowTo) reference.token = .ok ⟨some gaps⟩ ∧
      (gaps.filterMap gapOf).find? (fun gap => covers (gap.start, gap.stop) instant) = some gap
  halfOpen : gap.start ≤ instant ∧ instant < gap.stop

def EachFree (answer : Answer) : Prop :=
  ∀ said ∈ answer.proposed, ∃ instant gap,
    FoundFree journals reads answer.reference said instant gap

/-- An answer that names weekdays names one that a time it offers falls on, in the offset of the
gap it is found in, as soon as one of those gaps has an offset. -/
def NamesADayItOffers (letters : Letters) (answer : Answer) : Prop :=
  weekdaysNamed letters answer.reply ≠ [] →
    (∃ said ∈ answer.proposed, ∃ instant gap,
      FoundFree journals reads answer.reference said instant gap ∧ gap.offsetSeconds ≠ none) →
    ∃ said ∈ answer.proposed, ∃ instant gap offset,
      FoundFree journals reads answer.reference said instant gap ∧
        gap.offsetSeconds = some offset ∧
          weekdayOf (instant + offset) ∈ weekdaysNamed letters answer.reply

def GapAnswered (answer : Answer) (gap : Gap) : Prop :=
  ∃ said ∈ answer.proposed, ∃ instant row gaps, parseRfc3339Seconds said = some instant ∧
    LiesIn journals answer.reference.triggerEventId instant row ∧
      reads row.connection (row.windowFrom, row.windowTo) answer.reference.token =
        .ok ⟨some gaps⟩ ∧ gap ∈ gaps.filterMap gapOf

/-- The same of a day in the offset of any gap, as soon as any of the gaps that are answered has
one. -/
def NamesADayOnceOneIsKnown (letters : Letters) (answer : Answer) : Prop :=
  weekdaysNamed letters answer.reply ≠ [] →
    (∃ gap, GapAnswered journals reads answer gap ∧ gap.offsetSeconds ≠ none) →
    ∃ said ∈ answer.proposed, ∃ instant gap offset, parseRfc3339Seconds said = some instant ∧
      GapAnswered journals reads answer gap ∧ gap.offsetSeconds = some offset ∧
        weekdayOf (instant + offset) ∈ weekdaysNamed letters answer.reply

end Checked

/-- No time is published unchecked, for a notion of what is checked: a suggestion that says its
times were checked is that of a draft that offers some, all of them checked against what the
Gateway relays, and of a draft that offers times that are not, nothing is published. -/
structure PublishesOnlyChecked (isChecked : Journals → Reads → Letters → Answer → Prop)
    (libraries : Libraries) (answers : Answers) (reads : Option Reads) (reception : Reception) :
    Prop where
  published : ∀ published,
    (receive libraries (answers.relaying reads) reception).published = some published →
      published.payload.textAt ["data", "times", "state"] = some "checked" →
        ∃ answer collector, readPush libraries (answers.relaying reads) reception =
            .ok (.answered (.drafted answer)) ∧ answer.proposed ≠ [] ∧
          reads = some collector ∧ EachFree answers.journals collector answer ∧
            isChecked answers.journals collector libraries.letters answer
  refused : ∀ answer, readPush libraries (answers.relaying reads) reception =
      .ok (.answered (.drafted answer)) → answer.proposed ≠ [] →
    (∀ collector, reads = some collector → reception.windows = none →
      EachFree answers.journals collector answer →
        ¬isChecked answers.journals collector libraries.letters answer) →
      ∃ refusal, receive libraries (answers.relaying reads) reception =
        ⟨answers.relaying reads, none, .error refusal⟩

/-! ### Where an instant was read -/

variable {window : String × String × String} {journals : Journals}

theorem servedFor_of_mem {triggerEventId : String}
    (member : window ∈ journals.windowsReadFor triggerEventId) :
    ∃ row, ServedFor journals triggerEventId row ∧
      window = (row.connection, row.windowFrom, row.windowTo) := by
  obtain ⟨row, kept, rfl⟩ := List.mem_map.mp member
  obtain ⟨recorded, isFor⟩ := List.mem_filter.mp kept
  obtain ⟨names, served⟩ := Bool.and_eq_true_iff.mp isFor
  obtain ⟨delivery, isDelivery, contains⟩ := (Option.any_eq_true _ _).mp names
  exact ⟨row, ⟨recorded, eq_of_beq served, delivery, isDelivery, contains⟩, rfl⟩

theorem halfOpen_of_covers {range : Int × Int} {instant : Int}
    (isCovered : covers range instant = true) : range.1 ≤ instant ∧ instant < range.2 := by
  unfold covers at isCovered
  obtain ⟨fromStart, beforeEnd⟩ := Bool.and_eq_true_iff.mp isCovered
  exact ⟨of_decide_eq_true fromStart, of_decide_eq_true beforeEnd⟩

theorem halfOpen_of_windowCovers {instant : Int} (isCovered : windowCovers instant window = true) :
    ∃ first last, parseRfc3339Seconds window.2.1 = some first ∧
      parseRfc3339Seconds window.2.2 = some last ∧ first ≤ instant ∧ instant < last := by
  unfold windowCovers at isCovered
  split at isCovered
  · rename_i first last isFirst isLast
    obtain ⟨fromStart, beforeEnd⟩ := halfOpen_of_covers isCovered
    exact ⟨first, last, isFirst, isLast, fromStart, beforeEnd⟩
  · cases isCovered

variable {place : Nat × String × Int} {said : String}

theorem of_placeInstant {windows : List (String × String × String)}
    (isPlaced : placeInstant windows said = .ok place) :
    place.2.1 = said ∧ parseRfc3339Seconds said = some place.2.2 ∧
      ∃ window, windows[place.1]? = some window ∧
        windows.find? (windowCovers place.2.2) = some window := by
  unfold placeInstant at isPlaced
  split at isPlaced
  · cases isPlaced
  · rename_i instant isInstant
    split at isPlaced
    · cases isPlaced
    · rename_i index isIndex
      cases isPlaced
      have covering : windows.findIdx? (windowCovers instant) = some index := isIndex
      obtain ⟨inRange, isCovered, earlier⟩ := List.findIdx?_eq_some_iff_getElem.mp covering
      refine ⟨rfl, isInstant, windows[index], List.getElem?_eq_getElem inRange, ?_⟩
      exact List.find?_eq_some_iff_getElem.mpr ⟨isCovered, index, inRange, rfl,
        fun before isBefore => by simpa using earlier before isBefore⟩

theorem of_checkInstant {gaps : List Gap} {day : Option Nat}
    (isChecked : checkInstant gaps place = .ok day) :
    ∃ gap, gaps.find? (fun gap => covers (gap.start, gap.stop) place.2.2) = some gap ∧
      day = gap.offsetSeconds.map fun offset => weekdayOf (place.2.2 + offset) := by
  unfold checkInstant at isChecked
  split at isChecked
  · cases isChecked
  · rename_i gap isGap
    cases isChecked
    exact ⟨gap, isGap, rfl⟩

theorem of_checkWindow {reads : Reads} {delivery : String} {placed : List (Nat × String × Int)}
    {window : (String × String × String) × Nat} {days : List Nat}
    (isChecked : checkWindow reads.freeGaps delivery placed window = .ok days)
    (member : place ∈ placed) (inside : place.1 = window.2) :
    ∃ gaps results, reads window.1.1 window.1.2 delivery = .ok ⟨some gaps⟩ ∧
      List.Forall₂ (fun place result => checkInstant (gaps.filterMap gapOf) place = .ok result)
        (placed.filter fun place => place.1 == window.2) results ∧
      days = results.filterMap id := by
  have offered : place ∈ placed.filter fun place => place.1 == window.2 :=
    List.mem_filter.mpr ⟨member, beq_iff_eq.mpr inside⟩
  unfold checkWindow at isChecked
  dsimp only at isChecked
  rw [if_neg fun empty => List.ne_nil_of_mem offered (List.isEmpty_iff.mp empty)] at isChecked
  unfold Reads.freeGaps at isChecked
  cases isAnswer : reads window.1.1 window.1.2 delivery with
  | error detail =>
    rw [isAnswer] at isChecked
    cases isChecked
  | ok answer =>
    rw [isAnswer] at isChecked
    obtain ⟨free⟩ := answer
    cases free with
    | none => cases isChecked
    | some gaps =>
      dsimp only [Except.map, Option.map_some] at isChecked
      split at isChecked
      · cases isChecked
      · rename_i results isResults
        cases isChecked
        exact ⟨gaps, results, rfl, forall₂_of_mapM_eq_ok isResults, rfl⟩

/-! ### What the check comes to -/

section Proofs

variable {libraries : Libraries} {answers : Answers} {reads : Reads} {answer : Answer}

theorem FoundFree.unique {reference : Reference} {instant other : Int} {gap otherGap : Gap}
    (found : FoundFree journals reads reference said instant gap)
    (foundAgain : FoundFree journals reads reference said other otherGap) :
    instant = other ∧ gap = otherGap := by
  cases Option.some.inj (found.readable.symm.trans foundAgain.readable)
  obtain ⟨row, gaps, liesIn, isAnswer, isGap⟩ := found.free
  obtain ⟨again, sameGaps, liesAgain, sameAnswer, sameGap⟩ := foundAgain.free
  obtain ⟨sameConnection, sameWindow⟩ :=
    Prod.mk.inj (Option.some.inj (liesIn.first.symm.trans liesAgain.first))
  rw [sameConnection, sameWindow, sameAnswer] at isAnswer
  cases Except.ok.inj isAnswer
  exact ⟨rfl, Option.some.inj (isGap.symm.trans sameGap)⟩

theorem foundFree_of_place {reference : Reference} {gaps : List Json} {gap : Gap}
    (isPlaced : placeInstant (journals.windowsReadFor reference.triggerEventId) said = .ok place)
    (isWindow : (journals.windowsReadFor reference.triggerEventId)[place.1]? = some window)
    (isAnswer : reads window.1 window.2 reference.token = .ok ⟨some gaps⟩)
    (isGap : (gaps.filterMap gapOf).find? (fun gap => covers (gap.start, gap.stop) place.2.2) =
      some gap) : FoundFree journals reads reference said place.2.2 gap := by
  obtain ⟨rfl, isInstant, other, isOther, isFirst⟩ := of_placeInstant isPlaced
  cases Option.some.inj (isWindow.symm.trans isOther)
  obtain ⟨row, servedFor, rfl⟩ := servedFor_of_mem (List.mem_of_find?_eq_some isFirst)
  have liesIn : LiesIn journals reference.triggerEventId place.2.2 row :=
    ⟨servedFor, isFirst, halfOpen_of_windowCovers (List.find?_some isFirst)⟩
  exact ⟨isInstant, ⟨row, gaps, liesIn, isAnswer, isGap⟩,
    halfOpen_of_covers (List.find?_some isGap :)⟩

section Windows

variable {journals : Journals} {placed : List (Nat × String × Int)} {days : List (List Nat)}
  (isPlaced : answer.proposed.mapM
    (placeInstant (journals.windowsReadFor answer.reference.triggerEventId)) = .ok placed)
  (isChecked : (journals.windowsReadFor answer.reference.triggerEventId).zipIdx.mapM
    (checkWindow reads.freeGaps answer.reference.token placed) = .ok days)

include isPlaced isChecked

/-- Once every window is checked each instant is found free, and the day it falls on is among
the days that are offered, where its gap tells. -/
theorem exists_foundFree (offered : said ∈ answer.proposed) :
    ∃ instant gap, FoundFree journals reads answer.reference said instant gap ∧
      ∀ offset, gap.offsetSeconds = some offset → weekdayOf (instant + offset) ∈ days.flatten := by
  obtain ⟨place, member, placing⟩ :=
    exists_result_of_forall₂ (forall₂_of_mapM_eq_ok isPlaced) offered
  obtain ⟨-, -, window, isWindow, -⟩ := of_placeInstant placing
  obtain ⟨daysThere, daysIn, checking⟩ := exists_result_of_forall₂
    (forall₂_of_mapM_eq_ok isChecked) (List.mk_mem_zipIdx_iff_getElem?.mpr isWindow)
  obtain ⟨gaps, results, isAnswer, paired, rfl⟩ := of_checkWindow checking member rfl
  obtain ⟨day, dayIn, checkingIt⟩ := exists_result_of_forall₂ paired
    (List.mem_filter.mpr ⟨member, beq_self_eq_true place.1⟩)
  obtain ⟨gap, isGap, rfl⟩ := of_checkInstant checkingIt
  refine ⟨place.2.2, gap, foundFree_of_place placing isWindow isAnswer isGap,
    fun offset isOffset => ?_⟩
  rw [isOffset] at dayIn
  exact List.mem_flatten.mpr ⟨_, daysIn, List.mem_filterMap.mpr ⟨_, dayIn, rfl⟩⟩

theorem exists_of_mem_days {day : Nat} (offered : day ∈ days.flatten) :
    ∃ said ∈ answer.proposed, ∃ instant gap offset,
      FoundFree journals reads answer.reference said instant gap ∧
        gap.offsetSeconds = some offset ∧ weekdayOf (instant + offset) = day := by
  obtain ⟨daysThere, daysIn, dayIn⟩ := List.mem_flatten.mp offered
  obtain ⟨⟨window, index⟩, inZip, checking⟩ :=
    exists_input_of_forall₂ (forall₂_of_mapM_eq_ok isChecked) daysIn
  have isWindow := List.mk_mem_zipIdx_iff_getElem?.mp inZip
  by_cases someInside : ∃ place ∈ placed, place.1 = index
  · obtain ⟨inside, member, isInside⟩ := someInside
    obtain ⟨gaps, results, isAnswer, paired, rfl⟩ := of_checkWindow checking member isInside
    obtain ⟨result, resultIn, isDay⟩ := List.mem_filterMap.mp dayIn
    obtain ⟨place, kept, checkingIt⟩ := exists_input_of_forall₂ paired resultIn
    obtain ⟨placeIn, isThere⟩ := List.mem_filter.mp kept
    obtain ⟨gap, isGap, rfl⟩ := of_checkInstant checkingIt
    obtain ⟨offset, isOffset, rfl⟩ := Option.map_eq_some_iff.mp isDay
    obtain ⟨said, saidIn, placing⟩ :=
      exists_input_of_forall₂ (forall₂_of_mapM_eq_ok isPlaced) placeIn
    have same : place.1 = index := eq_of_beq isThere
    rw [← same] at isWindow
    exact ⟨said, saidIn, place.2.2, gap, offset,
      foundFree_of_place placing isWindow isAnswer isGap, isOffset, rfl⟩
  · have nothing : (placed.filter fun place => place.1 == index) = [] :=
      List.filter_eq_nil_iff.mpr fun place member isThere =>
        someInside ⟨place, member, eq_of_beq isThere⟩
    unfold checkWindow at checking
    dsimp only at checking
    rw [nothing, List.isEmpty_nil, if_pos rfl] at checking
    cases checking
    exact absurd dayIn List.not_mem_nil

end Windows

theorem named_of_checkTheDaysItNames {reply : String} {offered : List Nat}
    (isChecked : checkTheDaysItNames libraries reply offered = .ok ())
    (names : weekdaysNamed libraries.letters reply ≠ []) (known : offered ≠ []) :
    ∃ day ∈ offered, day ∈ weekdaysNamed libraries.letters reply := by
  unfold checkTheDaysItNames at isChecked
  dsimp only at isChecked
  split at isChecked
  · rename_i passes
    rcases passes with noName | noDay | overlap
    · exact absurd (List.isEmpty_iff.mp noName) names
    · exact absurd (List.isEmpty_iff.mp noDay) known
    · obtain ⟨day, isOffered, isNamed⟩ := List.any_eq_true.mp overlap
      exact ⟨day, isOffered, List.contains_iff_mem.mp isNamed⟩
  · cases isChecked

theorem of_checkProposals {relayed : Option Reads} {failing : Option String}
    (offers : answer.proposed ≠ [])
    (isChecked : checkProposals libraries (answers.relaying relayed) failing answer = .ok ()) :
    ∃ collector, relayed = some collector ∧ failing = none ∧
      EachFree answers.journals collector answer ∧
        NamesADayItOffers answers.journals collector libraries.letters answer := by
  unfold checkProposals at isChecked
  rw [if_neg fun empty => offers (List.isEmpty_iff.mp empty)] at isChecked
  cases relayed with
  | none => cases isChecked
  | some collector =>
    cases failing with
    | some detail => cases isChecked
    | none =>
      obtain ⟨placed, isPlaced, isChecked⟩ := bind_eq_ok.mp isChecked
      obtain ⟨days, areDays, isChecked⟩ := bind_eq_ok.mp isChecked
      refine ⟨collector, rfl, rfl, fun said offered => ?_, fun names someKnown => ?_⟩
      · obtain ⟨instant, gap, found, -⟩ := exists_foundFree isPlaced areDays offered
        exact ⟨instant, gap, found⟩
      · obtain ⟨said, offered, instant, gap, found, hasOffset⟩ := someKnown
        obtain ⟨offset, isOffset⟩ := Option.ne_none_iff_exists'.mp hasOffset
        obtain ⟨other, otherGap, foundAgain, isDay⟩ := exists_foundFree isPlaced areDays offered
        obtain ⟨rfl, rfl⟩ := found.unique foundAgain
        obtain ⟨day, isOffered, isNamed⟩ := named_of_checkTheDaysItNames isChecked names
          (List.ne_nil_of_mem (isDay offset isOffset))
        obtain ⟨said, saidIn, instant, gap, offset, isFound, hasIt, rfl⟩ :=
          exists_of_mem_days isPlaced areDays isOffered
        exact ⟨said, saidIn, instant, gap, offset, isFound, hasIt, isNamed⟩

theorem checked_times_iff {trigger : TriggerEnvelope} {producedAt : Nat} :
    (envelope libraries answers answer trigger producedAt).textAt ["data", "times", "state"] =
      some "checked" ↔ answer.proposed ≠ [] := by
  have passed : "times" ∉ (answer.context trigger).map Prod.fst := by
    unfold Answer.context
    split <;> simp
  have reached : (envelope libraries answers answer trigger producedAt).textAt
      ["data", "times", "state"] =
        (Json.object (answer.times libraries.letters)).textAt ["times", "state"] := by
    have inContext := Json.get?_object_append_of_notMem passed (answer.times libraries.letters)
    simp [envelope, Json.textAt, Json.get?, Json.lookup] at inContext ⊢
    rw [inContext]
  rw [reached]
  unfold Answer.times
  split
  · rename_i offers
    simp [Json.textAt, Json.get?, Json.lookup, offers]
  · rename_i offers
    split <;> simp [Json.textAt, Json.get?, Json.lookup, not_not.mp offers]

theorem receive_of_unchecked {gateway : Answers} {reception : Reception}
    (isRead : readPush libraries gateway reception = .ok (.answered (.drafted answer)))
    (fails : checkProposals libraries gateway reception.windows answer ≠ .ok ()) :
    ∃ refusal, receive libraries gateway reception = ⟨gateway, none, .error refusal⟩ := by
  unfold receive
  rw [isRead]
  dsimp only
  unfold draft
  cases isChecked : checked libraries gateway reception answer with
  | error refusal => exact ⟨refusal, rfl⟩
  | ok trigger =>
    obtain ⟨_, _, passes⟩ := bind_eq_ok.mp isChecked
    obtain ⟨_, isPassed, _⟩ := bind_eq_ok.mp passes
    exact absurd isPassed fails

end Proofs

/-! ### A gap that says no local time -/

namespace OneAnswer

/-- A Monday at ten is offered, and Tuesday is named. -/
def monday : String := "2026-10-12T10:00:00Z"

def misnamed : Answer where
  reference := ghost
  reply := "Mardi ?"
  language := "fr"
  disclosure := "Rédigé avec mon assistant IA."
  summary := none
  proposed := [monday]

def listening : Libraries where
  hmacSha256 := libraries.hmacSha256
  fromSlice := libraries.fromSlice
  fromStr := fun _ => some (.object [("reference", .string
      "TWALK-REF:ghost:bbbbbbbbbbbbbbbbbbbbbbbbbbbbbbbbbbbbbbbbbbbbbbbbbbbbbbbbbbbbbbbb:1"),
    ("reply", .string "Mardi ?"), ("language", .string "fr"),
    ("proposed", .array [.string monday])])
  letters := libraries.letters

/-- The week of the offer was read. -/
def informed : Answers where
  approvals := answers.approvals
  journals := ⟨[⟨"calendar", "2026-10-12T00:00:00Z", "2026-10-19T00:00:00Z", some ghost.token,
    "served"⟩], []⟩
  secret := answers.secret
  hermesDomain := answers.hermesDomain
  suggestionTtl := answers.suggestionTtl
  freeGaps := none

def spelledOnce : List Json :=
  [.object [("start", .string "2026-10-12T09:00:00Z"), ("end", .string "2026-10-12T11:00:00Z")],
    .object [("start", .string "2026-10-13T09:00:00Z"), ("end", .string "2026-10-13T11:00:00Z"),
      ("start_local", .string "2026-10-13T11:00:00+02:00")]]

/-- A collector that spells the owner's own time of the second gap alone. -/
def collector : Reads := fun _ _ _ => .ok ⟨some spelledOnce⟩

theorem read_misnamed : readPush listening (informed.relaying (some collector)) reception =
    .ok (.answered (.drafted misnamed)) := by
  rfl

theorem accepted_misnamed :
    checked listening (informed.relaying (some collector)) reception misnamed = .ok trigger := by
  rfl

theorem gaps_spelledOnce : spelledOnce.filterMap gapOf =
    [⟨1791795600, 1791802800, none⟩, ⟨1791882000, 1791889200, some 7200⟩] := by
  rfl

theorem weekdaysNamed_misnamed : weekdaysNamed listening.letters misnamed.reply = [2] := by
  rfl

theorem instant_monday : parseRfc3339Seconds monday = some 1791799200 := by
  rfl

end OneAnswer

end Twalk.HermesAnswer
