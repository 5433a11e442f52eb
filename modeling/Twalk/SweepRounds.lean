/-
This file models how the collector sweeps the inbox for mail that a rule about age
matches: `Mailbox::sweep` of `collector/src/mails.rs`, with the query of `jmap.rs` and
the ages of `triage.rs`. A sweep asks for the oldest mails before the narrowest age any
rule names, one page of them, from the first on each time. So what it reads of an inbox
that holds more depends on that page being moved away: mail at its head that cannot be
read, or that no usable rule files elsewhere, keeps the sweep from the mail behind it for
as long as it stays.
-/

import Twalk.FilingRounds
import Twalk.Library.Rfc3339

namespace Twalk.Collector.Mails

open Jmap (Mail Call Server method items queriedIds queryPage)
open Triage (Mailbox Rules Rule olderThan)

/-! ### The age a sweep asks for -/

def ageOf (rule : Rule) : Option Nat :=
  match rule.matching with
  | .olderThanDays days => some days.toNat
  | _ => none

def oldestAgeWanted (triage : Rules) : Option Nat := (triage.rules.filterMap ageOf).min?

def instantBefore (now : Int) (days : Nat) : Int := now - days * 86400 * 1000000000

/-- The text of the instant that many days before another. One whose year has no four digits is not
written. -/
def daysBefore (now : Int) (days : Nat) : Option String :=
  if Rfc3339.Writable (instantBefore now days) then
    some (Rfc3339.write (instantBefore now days))
  else none

/-! ### A sweep -/

/-- How long a sweep waits for the next one, in nanoseconds. -/
def sweepEvery : Nat := 3600 * 1000000000

/-- What the server answers a request of one call. -/
def resultOf (answer : Except SideError Json) : Option Json :=
  (answer.bind fun response => method response 0).toOption

/-- The mails of the inbox that were received before an instant, as far as one page of the query
goes. -/
def readBefore (server : Server) (account inboxId before : String) : List Mail :=
  match resultOf (server.post [.emailReceivedBefore account inboxId before]) with
  | none => []
  | some query =>
    if (queriedIds query).isEmpty then []
    else
      match resultOf (server.post [.emailGet account (queriedIds query)]) with
      | none => []
      | some answer => (items answer "list").filterMap Mail.parse

/-- The inbox's mail that is old enough for a rule about age, and when the inbox was last swept: not
unless a rule is about age, and not before the wait is over. -/
def sweep (triage : Rules) (server : Server) (account inboxId : String) (now : Int)
    (sweptAt : Option Nat) (clock : Nat) : List Mail × Option Nat :=
  match oldestAgeWanted triage with
  | none => ([], sweptAt)
  | some days =>
    if sweptAt.any fun last => clock - last < sweepEvery then ([], sweptAt)
    else
      match daysBefore now days with
      | none => ([], some clock)
      | some before => (readBefore server account inboxId before, some clock)

/-! ### An inbox that is swept -/

/-- The mails of an inbox no new mail comes to: when the server received each, the Email object it
answers for each in some mailboxes, and whether that object can be read. -/
structure Inbox (locale : Triage.Locale) where
  account : Account
  inboxId : String
  triage : Rules
  reportTo : Option (String × String)
  sweptAt : Option Nat
  mails : List String
  received : String → Int
  readable : String → Bool
  email : String → List String → Json
  distinct : mails.Nodup
  covered : ∀ id, inboxId ∈ account.boxes id → id ∈ mails
  ordered : ∀ id, sortTexts (account.boxes id).dedup = account.boxes id
  reads : ∀ id boxes, sortTexts boxes.dedup = boxes →
    Mail.parse (email id boxes) =
      if readable id then some { account.content id with id := id, mailboxIds := boxes } else none
  instants : ∀ id, readable id = true →
    ∀ instant, locale.instant (account.content id).receivedAt = some instant →
      received id = instant

/-- A poll in which no new mail came: its instant, the reading of a clock that only goes forward,
and how the server orders the mails it received at one instant. -/
structure Hour where
  now : Int
  clock : Nat
  tie : String → Nat

theorem content_next {locale : Triage.Locale} {connection accountId : String} {account : Account}
    {round : Round} :
    (next locale connection accountId account round).content = account.content := by
  unfold next
  split
  · split <;> rfl
  · rfl

theorem mailbox_of_filing {locale : Triage.Locale} {triage : Rules} {mailboxes : List Mailbox}
    {mail : Mail} {now : Int} {filing : Triage.Filing}
    (decided : Triage.file locale triage mailboxes mail now = .ok (some filing)) :
    ∃ mailbox ∈ mailboxes, mailbox.id = filing.mailboxId := by
  unfold Triage.file at decided
  rcases Triage.fileBy_eq triage.rules with nothing | ⟨rule, -, answer⟩
  · rw [nothing] at decided
    exact nomatch decided
  · rw [answer] at decided
    cases resolved : Triage.resolve locale mailboxes triage rule.destination with
    | error why =>
      rw [resolved] at decided
      exact nomatch decided
    | ok mailbox =>
      rw [resolved] at decided
      have isFiling := Option.some.inj (Except.ok.inj decided)
      exact ⟨mailbox, (Triage.resolve_eq_ok resolved).2.1,
        congrArg Triage.Filing.mailboxId isFiling⟩

variable {id : String}

namespace Inbox

variable {locale : Triage.Locale} (connection accountId : String) (inbox : Inbox locale)
  (hour : Hour)

def byReceived : List String :=
  inbox.mails.insertionSort fun first second =>
    inbox.received first < inbox.received second ∨
      inbox.received first = inbox.received second ∧ hour.tie first ≤ hour.tie second

/-- The mails of a mailbox that were received before an instant, oldest first. -/
def listing (box : String) (before : Int) : List String :=
  (inbox.byReceived hour).filter fun id =>
    (inbox.account.boxes id).contains box && inbox.received id < before

def server : Server where
  session := .ok .null
  post
    | [.emailReceivedBefore _ box before] =>
      match Rfc3339.read before with
      | none => .error (.unreachable "the filter could not be read")
      | some instant =>
        .ok (Account.answer "Email/query" (.object [("ids",
          .array (((inbox.listing hour box instant).take queryPage).map Json.string))]))
    | [.emailGet _ ids] =>
      .ok (Account.answer "Email/get" (.object [("list",
        .array (ids.map fun id => inbox.email id (inbox.account.boxes id)))]))
    | _ => .error (.unreachable "nothing else is asked")

def swept : List Mail × Option Nat :=
  sweep inbox.triage (inbox.server hour) accountId inbox.inboxId hour.now inbox.sweptAt hour.clock

/-- The filing of a poll: what it swept, and a server that takes every move. -/
def round : Round where
  governed := ⟨inbox.triage, [], inbox.reportTo⟩
  read := (inbox.swept accountId hour).1.map Mail.id
  now := hour.now
  occurredAt := Rfc3339.write hour.now
  listed := true
  answered := true
  applied := true
  refuses _ := false

def movedIn : List String :=
  reportedMoved locale connection accountId inbox.account (inbox.round accountId hour)

def range : List String :=
  match oldestAgeWanted inbox.triage with
  | none => []
  | some days => inbox.listing hour inbox.inboxId (instantBefore hour.now days)

/-! ### What a sweep reads -/

variable {accountId : String} {inbox : Inbox locale} {hour : Hour}

theorem resultOf_answer {name : String} (notError : name ≠ "error") (result : Json) :
    resultOf (.ok (Account.answer name result)) = some result := by
  have found := method_answer name notError result
  unfold resultOf
  rw [Except.bind, found]
  rfl

theorem parse_email (id : String) :
    Mail.parse (inbox.email id (inbox.account.boxes id)) =
      if inbox.readable id then some (inbox.account.mail id) else none :=
  inbox.reads id _ (inbox.ordered id)

theorem filterMap_parse (ids : List String) :
    (ids.map fun id => inbox.email id (inbox.account.boxes id)).filterMap Mail.parse =
      (ids.filter inbox.readable).map inbox.account.mail := by
  induction ids with
  | nil => rfl
  | cons id rest inductionHypothesis =>
    rw [List.map_cons, List.filterMap_cons, parse_email, inductionHypothesis]
    cases read : inbox.readable id <;> simp [read]

theorem readBefore_server (box : String) {instant : Int} (writable : Rfc3339.Writable instant) :
    readBefore (inbox.server hour) accountId box (Rfc3339.write instant) =
      (((inbox.listing hour box instant).take queryPage).filter inbox.readable).map
        inbox.account.mail := by
  have queried : resultOf ((inbox.server hour).post
      [.emailReceivedBefore accountId box (Rfc3339.write instant)]) =
        some (.object [("ids",
          .array (((inbox.listing hour box instant).take queryPage).map Json.string))]) := by
    have posted : (inbox.server hour).post
        [.emailReceivedBefore accountId box (Rfc3339.write instant)] =
          match Rfc3339.read (Rfc3339.write instant) with
          | none => .error (.unreachable "the filter could not be read")
          | some instant =>
            .ok (Account.answer "Email/query" (.object [("ids",
              .array (((inbox.listing hour box instant).take queryPage).map Json.string))])) := rfl
    rw [posted, Rfc3339.read_write writable]
    exact resultOf_answer (by decide) _
  have got : ∀ ids, resultOf ((inbox.server hour).post [.emailGet accountId ids]) =
      some (.object [("list",
        .array (ids.map fun id => inbox.email id (inbox.account.boxes id)))]) := by
    intro ids
    exact resultOf_answer (by decide) _
  unfold readBefore
  rw [queried]
  generalize (inbox.listing hour box instant).take queryPage = ids
  have listed : queriedIds (.object [("ids", .array (ids.map Json.string))]) = ids := by
    simp [queriedIds, Jmap.texts, items, Json.get?, Json.lookup, Json.asArray, List.filterMap_map,
      Function.comp_def, Json.asStr]
  dsimp only
  rw [listed, got]
  cases ids with
  | nil => rfl
  | cons first rest =>
    rw [List.isEmpty_cons, if_neg (by decide)]
    generalize first :: rest = ids
    have objects : items (.object [("list",
        .array (ids.map fun id => inbox.email id (inbox.account.boxes id)))]) "list" =
          ids.map fun id => inbox.email id (inbox.account.boxes id) := by
      simp [items, Json.get?, Json.lookup, Json.asArray]
    dsimp only
    rw [objects]
    exact filterMap_parse ids

/-- The wait for the next sweep is over. -/
def Due (inbox : Inbox locale) (hour : Hour) : Prop :=
  ∀ last, inbox.sweptAt = some last → last + sweepEvery ≤ hour.clock

theorem swept_of_due (due : inbox.Due hour)
    (writable : ∀ days, oldestAgeWanted inbox.triage = some days →
      Rfc3339.Writable (instantBefore hour.now days)) :
    (inbox.swept accountId hour).1 =
      (((inbox.range hour).take queryPage).filter inbox.readable).map inbox.account.mail := by
  unfold swept sweep range
  cases wanted : oldestAgeWanted inbox.triage with
  | none => rfl
  | some days =>
    have isOpen : ¬ (inbox.sweptAt.any fun last => hour.clock - last < sweepEvery) = true := by
      rw [Option.any_eq_true]
      rintro ⟨last, isLast, isEarly⟩
      have waited := due last isLast
      have early : hour.clock - last < sweepEvery := by simpa using isEarly
      omega
    dsimp only
    rw [if_neg isOpen, daysBefore, if_pos (writable days wanted)]
    exact readBefore_server _ (writable days wanted)

theorem swept_cases :
    (inbox.swept accountId hour).1 = [] ∨
      (inbox.swept accountId hour).1 =
        (((inbox.range hour).take queryPage).filter inbox.readable).map inbox.account.mail := by
  unfold swept sweep range
  cases oldestAgeWanted inbox.triage with
  | none => exact .inl rfl
  | some days =>
    dsimp only
    split
    · exact .inl rfl
    · by_cases writable : Rfc3339.Writable (instantBefore hour.now days)
      · rw [daysBefore, if_pos writable]
        exact .inr (readBefore_server _ writable)
      · rw [daysBefore, if_neg writable]
        exact .inl rfl

theorem mem_range (inRange : id ∈ inbox.range hour) :
    inbox.inboxId ∈ inbox.account.boxes id := by
  unfold range at inRange
  cases wanted : oldestAgeWanted inbox.triage with
  | none =>
    rw [wanted] at inRange
    exact absurd inRange List.not_mem_nil
  | some days =>
    rw [wanted] at inRange
    have conditions := (List.mem_filter.mp inRange).2
    simpa using (Bool.and_eq_true_iff.mp conditions).1

theorem map_id_mail (ids : List String) : (ids.map inbox.account.mail).map Mail.id = ids := by
  rw [List.map_map]
  exact List.map_id ids

theorem read_round :
    (inbox.round accountId hour).read = [] ∨
      (inbox.round accountId hour).read =
        ((inbox.range hour).take queryPage).filter inbox.readable := by
  have either := @swept_cases _ accountId inbox hour
  rcases either with nothing | page
  · refine .inl ?_
    change (inbox.swept accountId hour).1.map Mail.id = []
    rw [nothing, List.map_nil]
  · refine .inr ?_
    change (inbox.swept accountId hour).1.map Mail.id = _
    rw [page, map_id_mail]


/-! ### What a poll leaves -/

theorem movedIn_eq :
    inbox.movedIn connection accountId hour =
      (inbox.account.taken (inbox.round accountId hour)
        (asks locale connection inbox.account (inbox.round accountId hour))).map Prod.fst :=
  reportedMoved_of_answered rfl rfl

theorem filing_of_moved (isMoved : id ∈ inbox.movedIn connection accountId hour) :
    id ∈ (inbox.round accountId hour).read ∧
      ∃ filing, Triage.file locale inbox.triage inbox.account.mailboxes (inbox.account.mail id)
          hour.now = .ok (some filing) ∧
        (next locale connection accountId inbox.account (inbox.round accountId hour)).boxes id =
          [filing.mailboxId] := by
  rw [movedIn_eq] at isMoved
  obtain ⟨move, isTaken, rfl⟩ := List.mem_map.mp isMoved
  have isMove := latest_mem (mem_taken_asks.mp isTaken).1
  rw [moves_planned] at isMove
  obtain ⟨filed, isFiled, rfl⟩ := List.mem_map.mp isMove
  rcases mem_filed_planned.mp isFiled with ⟨undo, isUndo, -⟩ | ⟨id, isRead, -, filing, decided, rfl⟩
  · exact absurd isUndo (by simp [undosOf, round])
  · refine ⟨isRead, filing, decided, ?_⟩
    rw [boxes_next rfl rfl]
    exact moved_of_taken isTaken

theorem mailbox_of_moved (isMoved : id ∈ inbox.movedIn connection accountId hour) :
    inbox.inboxId ∈ inbox.account.boxes id := by
  have isRead := (filing_of_moved connection isMoved).1
  have either := @read_round _ accountId inbox hour
  rcases either with nothing | page
  · rw [nothing] at isRead
    exact absurd isRead List.not_mem_nil
  · rw [page] at isRead
    exact mem_range (List.mem_of_mem_take (List.mem_filter.mp isRead).1)

theorem boxes_of_unmoved (unmoved : id ∉ inbox.movedIn connection accountId hour) :
    (next locale connection accountId inbox.account (inbox.round accountId hour)).boxes id =
      inbox.account.boxes id := by
  rw [movedIn_eq] at unmoved
  rw [boxes_next rfl rfl]
  unfold Account.moved
  split
  · rename_i move isMove
    have same : move.1 = id := eq_of_beq (latest_concerns isMove :)
    exact absurd (same ▸ List.mem_map_of_mem (latest_mem isMove)) unmoved
  · rfl

theorem moved_of_filed (isRead : id ∈ (inbox.round accountId hour).read) {filing : Triage.Filing}
    (decided : Triage.file locale inbox.triage inbox.account.mailboxes (inbox.account.mail id)
      hour.now = .ok (some filing)) : id ∈ inbox.movedIn connection accountId hour := by
  rw [movedIn_eq]
  refine List.mem_map.mpr ⟨(id, filing.mailboxId), mem_taken_asks.mpr ⟨?_, ?_⟩, rfl⟩
  · exact latest_moves_of_filed isRead (by simp [undosOf, round]) decided
  · obtain ⟨mailbox, isMailbox, same⟩ := mailbox_of_filing decided
    have isListed : (inbox.account.mailboxes.any fun mailbox =>
        mailbox.id == filing.mailboxId) = true :=
      List.any_eq_true.mpr ⟨mailbox, isMailbox, beq_iff_eq.mpr same⟩
    exact Bool.and_eq_true_iff.mpr ⟨rfl, isListed⟩

def after (connection accountId : String) (inbox : Inbox locale) (hour : Hour) : Inbox locale where
  account := next locale connection accountId inbox.account (inbox.round accountId hour)
  inboxId := inbox.inboxId
  triage := inbox.triage
  reportTo := inbox.reportTo
  sweptAt := (inbox.swept accountId hour).2
  mails := inbox.mails
  received := inbox.received
  readable := inbox.readable
  email := inbox.email
  distinct := inbox.distinct
  covered := by
    intro id isIn
    by_cases isMoved : id ∈ inbox.movedIn connection accountId hour
    · exact inbox.covered id (mailbox_of_moved connection isMoved)
    · rw [boxes_of_unmoved connection isMoved] at isIn
      exact inbox.covered id isIn
  ordered := by
    intro id
    by_cases isMoved : id ∈ inbox.movedIn connection accountId hour
    · obtain ⟨-, filing, -, only⟩ := filing_of_moved connection isMoved
      rw [only]
      rfl
    · rw [boxes_of_unmoved connection isMoved]
      exact inbox.ordered id
  reads := by
    rw [content_next]
    exact inbox.reads
  instants := by
    rw [content_next]
    exact inbox.instants

def Aged (inbox : Inbox locale) (hour : Hour) (id : String) : Prop :=
  inbox.readable id = true ∧ ∃ rule ∈ inbox.triage.rules, ∃ days,
    rule.matching = .olderThanDays days ∧
      olderThan locale (inbox.account.content id).receivedAt days hour.now = true

def FiledTo (inbox : Inbox locale) (hour : Hour) (id box : String) : Prop :=
  ∃ filing, Triage.file locale inbox.triage inbox.account.mailboxes (inbox.account.mail id)
    hour.now = .ok (some filing) ∧ filing.mailboxId = box

/-- A mail some rule about age matches, and a usable rule files. -/
def Wanted (inbox : Inbox locale) (hour : Hour) (id : String) : Prop :=
  inbox.Aged hour id ∧ ∃ box, inbox.FiledTo hour id box

/-- A poll whose sweep gets past the first page of what it asks for: it can write the instant it
asks about, and when a mail is wanted behind that page, one on it is filed elsewhere. -/
structure Passes (inbox : Inbox locale) (hour : Hour) : Prop where
  writable : ∀ days, oldestAgeWanted inbox.triage = some days →
    Rfc3339.Writable (instantBefore hour.now days)
  page : (∃ id ∈ (inbox.range hour).drop queryPage, inbox.Wanted hour id) →
    ∃ id ∈ (inbox.range hour).take queryPage, inbox.readable id = true ∧
      ∃ box, inbox.FiledTo hour id box ∧ box ≠ inbox.inboxId

theorem before_of_older {received now : Int} {narrowest days : Nat} (atMost : narrowest ≤ days)
    (older : (days * 86400 : Int) < (now - received).tdiv 1000000000) :
    received < instantBefore now narrowest := by
  unfold instantBefore
  have positive : 0 ≤ now - received := by
    by_contra negative
    have opposite : (now - received).tdiv 1000000000 = -((received - now).tdiv 1000000000) := by
      rw [← Int.neg_tdiv, neg_sub]
    rw [opposite, Int.tdiv_eq_ediv_of_nonneg (by omega)] at older
    omega
  rw [Int.tdiv_eq_ediv_of_nonneg positive] at older
  omega

theorem mem_range_of_aged (isIn : inbox.inboxId ∈ inbox.account.boxes id)
    (aged : inbox.Aged hour id) : id ∈ inbox.range hour := by
  obtain ⟨readable, rule, isRule, days, names, isOlder⟩ := aged
  have isAge : days.toNat ∈ inbox.triage.rules.filterMap ageOf :=
    List.mem_filterMap.mpr ⟨rule, isRule, by rw [ageOf, names]⟩
  cases wanted : oldestAgeWanted inbox.triage with
  | none =>
    rw [List.min?_eq_none_iff.mp wanted] at isAge
    exact absurd isAge List.not_mem_nil
  | some narrowest =>
    have atMost : narrowest ≤ days.toNat := (List.min?_eq_some_iff.mp wanted).2 _ isAge
    unfold olderThan at isOlder
    rw [Option.any_eq_true] at isOlder
    obtain ⟨instant, isInstant, older⟩ := isOlder
    have received : inbox.received id = instant := inbox.instants id readable instant isInstant
    have before : inbox.received id < instantBefore hour.now narrowest := by
      rw [received]
      exact before_of_older atMost (of_decide_eq_true older)
    unfold range
    rw [wanted]
    refine List.mem_filter.mpr ⟨?_, ?_⟩
    · exact (List.mem_insertionSort _).mpr (inbox.covered id isIn)
    · simpa using ⟨isIn, before⟩

/-! ### What a poll gets on with -/

theorem account_after_of_unread (unread : (inbox.round accountId hour).read = []) :
    (inbox.after connection accountId hour).account = inbox.account := by
  have nothing : (planned locale connection inbox.account (inbox.round accountId hour)).moves =
      [] := by
    have idle : ((inbox.triage.rules.isEmpty ||
        ((inbox.round accountId hour).read.map inbox.account.mail).isEmpty) &&
          (undosOf connection (inbox.round accountId hour).governed).isEmpty) = true := by
      rw [unread]
      simp [undosOf, round]
    rw [moves_planned, filed_planned_of_idle idle, List.map_nil]
  have unasked : (outcome locale connection accountId inbox.account
      (inbox.round accountId hour)).asked = none := by
    rw [(outcome_of_answered rfl rfl).1, if_pos nothing]
  change next locale connection accountId inbox.account (inbox.round accountId hour) = _
  unfold next
  rw [unasked]

theorem sweptAt_after :
    (inbox.after connection accountId hour).sweptAt = inbox.sweptAt ∨
      (inbox.after connection accountId hour).sweptAt = some hour.clock := by
  change (inbox.swept accountId hour).2 = _ ∨ (inbox.swept accountId hour).2 = _
  unfold swept sweep
  split
  · exact .inl rfl
  · split
    · exact .inl rfl
    · split
      · exact .inr rfl
      · exact .inr rfl

def held (inbox : Inbox locale) : Finset String :=
  inbox.mails.toFinset.filter fun id => inbox.inboxId ∈ inbox.account.boxes id

theorem held_after_subset : (inbox.after connection accountId hour).held ⊆ inbox.held := by
  intro id isHeld
  obtain ⟨isMail, isIn⟩ := Finset.mem_filter.mp isHeld
  refine Finset.mem_filter.mpr ⟨isMail, ?_⟩
  by_cases isMoved : id ∈ inbox.movedIn connection accountId hour
  · exact mailbox_of_moved connection isMoved
  · have same := boxes_of_unmoved connection isMoved
    exact same ▸ isIn

theorem read_of_due (due : inbox.Due hour)
    (writable : ∀ days, oldestAgeWanted inbox.triage = some days →
      Rfc3339.Writable (instantBefore hour.now days)) {mail : String} :
    mail ∈ (inbox.round accountId hour).read ↔
      mail ∈ (inbox.range hour).take queryPage ∧ inbox.readable mail = true := by
  have isRead : (inbox.round accountId hour).read = _ :=
    congrArg (List.map Mail.id) (swept_of_due due writable)
  rw [isRead, map_id_mail, List.mem_filter]

theorem moved_or_held_lt (due : inbox.Due hour) (passes : inbox.Passes hour)
    (isIn : inbox.inboxId ∈ inbox.account.boxes id) (wanted : inbox.Wanted hour id) :
    id ∈ inbox.movedIn connection accountId hour ∨
      (inbox.after connection accountId hour).held.card < inbox.held.card := by
  have inRange := mem_range_of_aged isIn wanted.1
  rw [← List.take_append_drop queryPage (inbox.range hour), List.mem_append] at inRange
  rcases inRange with onPage | behind
  · obtain ⟨⟨readable, -⟩, -, filing, decided, -⟩ := wanted
    exact .inl (moved_of_filed connection ((read_of_due due passes.writable).mpr
      ⟨onPage, readable⟩) decided)
  · refine .inr ?_
    obtain ⟨first, onPage, readable, box, ⟨filing, decided, isBox⟩, elsewhere⟩ :=
      passes.page ⟨id, behind, wanted⟩
    have isRead : first ∈ (inbox.round accountId hour).read :=
      (read_of_due due passes.writable).mpr ⟨onPage, readable⟩
    have isMoved := moved_of_filed connection isRead decided
    obtain ⟨-, other, decidedToo, only⟩ := filing_of_moved connection isMoved
    obtain rfl : other = filing := by
      rw [decided] at decidedToo
      exact (Option.some.inj (Except.ok.inj decidedToo)).symm
    have wasIn := mem_range (List.mem_of_mem_take onPage)
    refine Finset.card_lt_card (Finset.ssubset_iff_subset_ne.mpr
      ⟨held_after_subset connection, fun same => ?_⟩)
    have isHeld : first ∈ inbox.held :=
      Finset.mem_filter.mpr ⟨List.mem_toFinset.mpr (inbox.covered first wasIn), wasIn⟩
    rw [← same] at isHeld
    have stillIn : inbox.inboxId ∈ (next locale connection accountId inbox.account
      (inbox.round accountId hour)).boxes first := (Finset.mem_filter.mp isHeld).2
    rw [only, List.mem_singleton, isBox] at stillIn
    exact elsewhere stillIn.symm

end Inbox

/-! ### Hourly sweeps -/

/-- Sweeps an hour apart, the first of them the first since the collector started. Polls in between
file nothing. -/
structure Sweeping (locale : Triage.Locale) where
  start : Inbox locale
  hour : Nat → Hour
  fresh : start.sweptAt = none
  apart : ∀ index, (hour index).clock + sweepEvery ≤ (hour (index + 1)).clock

namespace Sweeping

variable {locale : Triage.Locale} (connection accountId : String) (sweeping : Sweeping locale)

def inbox : Nat → Inbox locale
  | 0 => sweeping.start
  | index + 1 => (inbox index).after connection accountId (sweeping.hour index)

/-- What so many sweeps owe. Each asks for a range that has every mail of the inbox that a rule
about age matches. A mail that one matches and a usable rule files, for as many sweeps as there are
mails in the inbox and one, is moved. -/
structure Reaches (count : Nat) : Prop where
  asked : ∀ index < count, ∀ id,
    (sweeping.inbox connection accountId index).inboxId ∈
        (sweeping.inbox connection accountId index).account.boxes id →
      (sweeping.inbox connection accountId index).Aged (sweeping.hour index) id →
        ∃ text before,
          (oldestAgeWanted (sweeping.inbox connection accountId index).triage).bind
              (daysBefore (sweeping.hour index).now) = some text ∧
            Rfc3339.read text = some before ∧
              (sweeping.inbox connection accountId index).received id < before
  moved : ∀ index id,
    index + (sweeping.inbox connection accountId index).held.card < count →
      (sweeping.inbox connection accountId index).inboxId ∈
          (sweeping.inbox connection accountId index).account.boxes id →
        (∀ later, index ≤ later → later < count →
          (sweeping.inbox connection accountId later).Wanted (sweeping.hour later) id) →
          ∃ later, index ≤ later ∧ later < count ∧
            id ∈ (sweeping.inbox connection accountId later).movedIn connection accountId
              (sweeping.hour later)

variable {connection accountId : String} {sweeping : Sweeping locale}

theorem due (index : Nat) :
    (sweeping.inbox connection accountId index).Due (sweeping.hour index) := by
  induction index with
  | zero =>
    intro last isLast
    exact nomatch sweeping.fresh.symm.trans isLast
  | succ index inductionHypothesis =>
    intro last isLast
    have atMost : last ≤ (sweeping.hour index).clock := by
      have either := @Inbox.sweptAt_after _ connection accountId
        (sweeping.inbox connection accountId index) (sweeping.hour index)
      rcases either with same | isSet
      · have before := inductionHypothesis last (same.symm.trans isLast)
        exact (Nat.le_add_right last sweepEvery).trans before
      · exact (Option.some.inj (isSet.symm.trans isLast)).ge
    exact (Nat.add_le_add_right atMost _).trans (sweeping.apart index)

variable {index : Nat}

section Progress

variable {count : Nat} (passes : ∀ index < count,
  (sweeping.inbox connection accountId index).Passes (sweeping.hour index))

include passes

theorem asked_of_passes (isBefore : index < count)
    (isIn : (sweeping.inbox connection accountId index).inboxId ∈
      (sweeping.inbox connection accountId index).account.boxes id)
    (aged : (sweeping.inbox connection accountId index).Aged (sweeping.hour index) id) :
    ∃ text before,
      (oldestAgeWanted (sweeping.inbox connection accountId index).triage).bind
          (daysBefore (sweeping.hour index).now) = some text ∧
        Rfc3339.read text = some before ∧
          (sweeping.inbox connection accountId index).received id < before := by
  have inRange := Inbox.mem_range_of_aged isIn aged
  have writable := (passes index isBefore).writable
  unfold Inbox.range at inRange
  cases wanted : oldestAgeWanted (sweeping.inbox connection accountId index).triage with
  | none =>
    rw [wanted] at inRange
    exact absurd inRange List.not_mem_nil
  | some days =>
    rw [wanted] at inRange
    have isWritable := writable days wanted
    refine ⟨_, _, ?_, Rfc3339.read_write isWritable, ?_⟩
    · rw [Option.bind_some, daysBefore, if_pos isWritable]
    · simpa using (Bool.and_eq_true_iff.mp (List.mem_filter.mp inRange).2).2

theorem moved_of_passes
    (enough : index + (sweeping.inbox connection accountId index).held.card < count)
    (isIn : (sweeping.inbox connection accountId index).inboxId ∈
      (sweeping.inbox connection accountId index).account.boxes id)
    (wanted : ∀ later, index ≤ later → later < count →
      (sweeping.inbox connection accountId later).Wanted (sweeping.hour later) id) :
    ∃ later, index ≤ later ∧ later < count ∧
      id ∈ (sweeping.inbox connection accountId later).movedIn connection accountId
        (sweeping.hour later) := by
  by_contra never
  have unmoved : ∀ more, index + more < count →
      id ∉ (sweeping.inbox connection accountId (index + more)).movedIn connection accountId
        (sweeping.hour (index + more)) := by
    intro more isBefore isMoved
    exact never ⟨index + more, Nat.le_add_right index more, isBefore, isMoved⟩
  -- what is left of the inbox, after so many sweeps more
  have fewer : ∀ more, index + more ≤ count →
      (sweeping.inbox connection accountId (index + more)).inboxId ∈
          (sweeping.inbox connection accountId (index + more)).account.boxes id ∧
        (sweeping.inbox connection accountId (index + more)).held.card + more ≤
          (sweeping.inbox connection accountId index).held.card := by
    intro more
    induction more with
    | zero => exact fun _ => ⟨isIn, le_rfl⟩
    | succ more inductionHypothesis =>
      intro isBefore
      have earlier : index + more < count := isBefore
      obtain ⟨stays, atMost⟩ := inductionHypothesis earlier.le
      have boxes := Inbox.boxes_of_unmoved connection (unmoved more earlier)
      refine ⟨boxes ▸ stays, ?_⟩
      rcases Inbox.moved_or_held_lt connection (due _) (passes _ earlier) stays
        (wanted _ (Nat.le_add_right index more) earlier) with isMoved | less
      · exact absurd isMoved (unmoved more earlier)
      · change ((sweeping.inbox connection accountId (index + more)).after connection accountId
          (sweeping.hour (index + more))).held.card + (more + 1) ≤ _
        omega
  have tooMany := (fewer ((sweeping.inbox connection accountId index).held.card + 1) enough).2
  omega

end Progress

/-- Sweeps reach every mail that a rule about age matches, when none of them is stopped by the first
page of what it asks for. -/
theorem reaches_of_passes (connection accountId : String) (sweeping : Sweeping locale) (count : Nat)
    (passes : ∀ index < count,
      (sweeping.inbox connection accountId index).Passes (sweeping.hour index)) :
    sweeping.Reaches connection accountId count where
  asked _ isBefore _ isIn aged := asked_of_passes passes isBefore isIn aged
  moved _ _ enough isIn wanted := moved_of_passes passes enough isIn wanted

/-! ### What stays -/

theorem triage_inbox (index : Nat) :
    (sweeping.inbox connection accountId index).triage = sweeping.start.triage := by
  induction index with
  | zero => rfl
  | succ index inductionHypothesis => exact inductionHypothesis

theorem mails_inbox (index : Nat) :
    (sweeping.inbox connection accountId index).mails = sweeping.start.mails := by
  induction index with
  | zero => rfl
  | succ index inductionHypothesis => exact inductionHypothesis

theorem passes_of_few (few : sweeping.start.mails.length ≤ queryPage)
    (writable : ∀ days, oldestAgeWanted sweeping.start.triage = some days →
      Rfc3339.Writable (instantBefore (sweeping.hour index).now days)) :
    (sweeping.inbox connection accountId index).Passes (sweeping.hour index) := by
  have short : ((sweeping.inbox connection accountId index).range (sweeping.hour index)).length ≤
      queryPage := by
    refine le_trans ?_ few
    unfold Inbox.range
    split
    · exact Nat.zero_le _
    · unfold Inbox.listing Inbox.byReceived
      refine (List.length_filter_le _ _).trans ?_
      rw [List.length_insertionSort, mails_inbox]
  refine ⟨?_, ?_⟩
  · rw [triage_inbox]
    exact writable
  · rintro ⟨id, behind, -⟩
    rw [List.drop_eq_nil_of_le short] at behind
    exact absurd behind List.not_mem_nil

/-- Two inboxes that differ in no more than when they were swept. -/
structure Alike (inbox other : Inbox locale) : Prop where
  account : inbox.account = other.account
  inboxId : inbox.inboxId = other.inboxId
  triage : inbox.triage = other.triage
  mails : inbox.mails = other.mails
  received : inbox.received = other.received
  readable : inbox.readable = other.readable

variable {inbox other : Inbox locale}

theorem Alike.range (alike : Alike inbox other) (hour : Hour) :
    inbox.range hour = other.range hour := by
  unfold Inbox.range Inbox.listing Inbox.byReceived
  rw [alike.account, alike.inboxId, alike.triage, alike.mails, alike.received]

theorem Alike.wanted (alike : Alike inbox other) {hour : Hour} (wanted : other.Wanted hour id) :
    inbox.Wanted hour id := by
  unfold Inbox.Wanted Inbox.Aged Inbox.FiledTo at *
  rw [alike.account, alike.triage, alike.readable]
  exact wanted

theorem alike_of_unread
    (unread : ∀ index, ∀ id ∈ (sweeping.start.range (sweeping.hour index)).take queryPage,
      sweeping.start.readable id = false) (index : Nat) :
    Alike (sweeping.inbox connection accountId index) sweeping.start ∧
      ((sweeping.inbox connection accountId index).round accountId (sweeping.hour index)).read =
        [] := by
  have nothing : ∀ index, Alike (sweeping.inbox connection accountId index) sweeping.start →
      ((sweeping.inbox connection accountId index).round accountId (sweeping.hour index)).read =
        [] := by
    intro index alike
    refine Inbox.read_round.elim (fun read => read) fun read => ?_
    rw [read, alike.range, alike.readable, List.filter_eq_nil_iff]
    intro id onPage
    rw [unread index id onPage]
    decide
  induction index with
  | zero => exact ⟨⟨rfl, rfl, rfl, rfl, rfl, rfl⟩, nothing 0 ⟨rfl, rfl, rfl, rfl, rfl, rfl⟩⟩
  | succ index inductionHypothesis =>
    obtain ⟨alike, read⟩ := inductionHypothesis
    have same := Inbox.account_after_of_unread connection read
    have alikeToo : Alike (sweeping.inbox connection accountId (index + 1)) sweeping.start :=
      ⟨same.trans alike.account, alike.inboxId, alike.triage, alike.mails, alike.received,
        alike.readable⟩
    exact ⟨alikeToo, nothing _ alikeToo⟩

end Sweeping

namespace Backlog

open Triage.Newsletters (asciiLocale)

/-- Lower case as ASCII has it, and the instants of Coordinated Universal Time. -/
def locale : Triage.Locale := { asciiLocale with instant := Rfc3339.read }

/-- The mail that waits behind so many that cannot be read. -/
def news (count : Nat) : Mail where
  id := "b"
  mailboxIds := []
  receivedAt := Rfc3339.write count
  sender := ⟨none, "news@example.org"⟩
  recipients := []
  cc := []
  subject := ""
  body := ""
  messageId := none
  inReplyTo := none
  references := []
  attachments := []
  autoSubmitted := none
  listId := none
  listUnsubscribe := none
  precedence := none
  hasItipPart := false

def email (count : Nat) (id : String) (boxes : List String) : Json :=
  if id = "b" then
    .object [("id", .string "b"), ("mailboxIds", .object (boxes.map fun box => (box, .bool true))),
      ("receivedAt", .string (Rfc3339.write count)),
      ("from", .array [.object [("email", .string "news@example.org")]])]
  else .null

theorem parse_email (count : Nat) (boxes : List String) (ordered : sortTexts boxes.dedup = boxes) :
    Mail.parse (email count "b" boxes) = some { news count with mailboxIds := boxes } := by
  have sender : Jmap.Correspondent.parse (.object [("email", .string "news@example.org")]) =
      some ⟨none, "news@example.org"⟩ := by decide
  have boxesRead : Jmap.keys (.object (boxes.map fun box => (box, .bool true))) = boxes := by
    simp [Jmap.keys, Function.comp_def, ordered]
  have headers : Mail.header (email count "b" boxes) "Auto-Submitted" = none ∧
      Mail.header (email count "b" boxes) "List-Id" = none ∧
        Mail.header (email count "b" boxes) "List-Unsubscribe" = none ∧
          Mail.header (email count "b" boxes) "Precedence" = none := ⟨rfl, rfl, rfl, rfl⟩
  obtain ⟨autoSubmitted, listId, listUnsubscribe, precedence⟩ := headers
  unfold Mail.parse
  rw [autoSubmitted, listId, listUnsubscribe, precedence]
  simp [email, news, Json.get?, Json.lookup, Json.asStr, items, Json.asArray, sender, boxesRead,
    Mail.people, Mail.valueOf, Mail.messageIds, Mail.itipPart, Jmap.texts]

def waiting (count : Nat) : List String :=
  (List.range count).map fun length => String.ofList (List.replicate length 'a')

variable {count : Nat}

theorem length_of_mem_waiting (waits : id ∈ waiting count) :
    id.length < count ∧ id ≠ "b" := by
  obtain ⟨length, isLength, rfl⟩ := List.mem_map.mp waits
  refine ⟨?_, fun same => ?_⟩
  · simpa using isLength
  · have characters := congrArg String.toList same
    rw [String.toList_ofList] at characters
    have isB : 'b' ∈ List.replicate length 'a' := by
      rw [characters]
      decide
    exact absurd (List.eq_of_mem_replicate isB) (by decide)

def mails (count : Nat) : List String := waiting count ++ ["b"]

def account (count : Nat) : Account where
  mailboxes := [⟨"m1", "INBOX", some "inbox"⟩, ⟨"m2", "Archive", none⟩]
  boxes id := if id ∈ mails count then ["m1"] else ["m2"]
  content _ := news count
  somewhere id := by split <;> simp
  distinct id := by split <;> simp
  listed id box member := by
    have isBox : box = "m1" ∨ box = "m2" := by
      split at member
      · exact .inl (List.mem_singleton.mp member)
      · exact .inr (List.mem_singleton.mp member)
    rcases isBox with rfl | rfl <;> simp

/-- A mail to be archived once it is thirty days old, behind so many older ones that cannot be
read. -/
def inbox (count : Nat) : Inbox locale where
  account := account count
  inboxId := "m1"
  triage := ⟨["Archive"], [⟨"age", .olderThanDays 30, "Archive"⟩]⟩
  reportTo := none
  sweptAt := none
  mails := mails count
  received id :=
    if id = "b" then (Rfc3339.read (Rfc3339.write count)).getD count else id.length
  readable id := id == "b"
  email := email count
  distinct := by
    refine List.nodup_append.mpr ⟨?_, List.nodup_singleton _, ?_⟩
    · refine (List.nodup_range).map fun first second same => ?_
      simpa using congrArg String.length same
    · intro id waits other isB same
      exact (length_of_mem_waiting waits).2 (same.trans (List.mem_singleton.mp isB))
  covered := by
    intro id isIn
    by_contra absent
    change "m1" ∈ (if id ∈ mails count then ["m1"] else ["m2"]) at isIn
    rw [if_neg absent] at isIn
    exact absurd isIn (by decide)
  ordered := by
    intro id
    change sortTexts (if id ∈ mails count then ["m1"] else ["m2"]).dedup = _
    unfold account
    dsimp only
    split <;> rfl
  reads := by
    intro id boxes ordered
    by_cases isB : id = "b"
    · rw [isB]
      exact parse_email count boxes ordered
    · have unread : (id == "b") = false := beq_false_of_ne isB
      rw [unread, email, if_neg isB]
      rfl
  instants := by
    intro id isB instant isInstant
    have isRead : Rfc3339.read (Rfc3339.write count) = some instant := isInstant
    rw [if_pos (eq_of_beq isB), isRead, Option.getD_some]

/-- The hours from forty days after the epoch on. -/
def hour (index : Nat) : Hour where
  now := (40 * 86400 + 3600 * index) * 1000000000
  clock := index * sweepEvery
  tie _ := 0

def sweeping (count : Nat) : Sweeping locale where
  start := inbox count
  hour := hour
  fresh := rfl
  apart index := (Nat.succ_mul index sweepEvery).ge

theorem read_write_count (few : count < 1000) :
    Rfc3339.read (Rfc3339.write count) = some (count : Int) := by
  refine Rfc3339.read_write ?_
  unfold Rfc3339.Writable Rfc3339.firstDay Rfc3339.lastDay
  omega

theorem received_news (few : count < 1000) :
    (inbox count).received "b" = count := by
  have isNews : (inbox count).received "b" =
      (Rfc3339.read (Rfc3339.write count)).getD count := by
    change (if "b" = "b" then _ else (("b" : String).length : Int)) = _
    exact if_pos rfl
  rw [isNews, read_write_count few, Option.getD_some]

theorem received_waiting (waits : id ∈ waiting count) :
    (inbox count).received id = id.length :=
  if_neg (length_of_mem_waiting waits).2

theorem received_lt (few : count < 1000) (isMail : id ∈ mails count) :
    (inbox count).received id < 1000 := by
  rcases List.mem_append.mp isMail with waits | isB
  · rw [received_waiting waits]
    have := (length_of_mem_waiting waits).1
    omega
  · rw [List.mem_singleton.mp isB, received_news few]
    omega

theorem byReceived_inbox (few : count < 1000) (index : Nat) :
    (inbox count).byReceived (hour index) = mails count := by
  refine List.Pairwise.insertionSort_eq
    (List.pairwise_append.mpr ⟨?_, List.pairwise_singleton _ _, ?_⟩)
  · refine List.pairwise_map.mpr (List.pairwise_lt_range.imp_of_mem ?_)
    intro first second isFirst isSecond less
    have isWaiting : ∀ length ∈ List.range count,
        (inbox count).received (String.ofList (List.replicate length 'a')) = length := by
      intro length isLength
      rw [received_waiting (List.mem_map_of_mem isLength)]
      simp
    rw [isWaiting first isFirst, isWaiting second isSecond]
    exact .inl (by exact_mod_cast less)
  · intro id waits other isB
    rw [List.mem_singleton.mp isB, received_news few, received_waiting waits]
    exact .inl (by exact_mod_cast (length_of_mem_waiting waits).1)

theorem range_inbox (few : count < 1000) (index : Nat) :
    (inbox count).range (hour index) = mails count := by
  have wanted : oldestAgeWanted (inbox count).triage = some 30 := rfl
  unfold Inbox.range
  rw [wanted]
  dsimp only
  unfold Inbox.listing
  rw [byReceived_inbox few, List.filter_eq_self]
  intro id isMail
  have isIn : "m1" ∈ (inbox count).account.boxes id := by
    change "m1" ∈ (if id ∈ mails count then ["m1"] else ["m2"])
    rw [if_pos isMail]
    exact List.mem_singleton.mpr rfl
  have early := received_lt few isMail
  have before : (inbox count).received id < instantBefore (hour index).now 30 := by
    unfold instantBefore hour
    dsimp only
    omega
  exact Bool.and_eq_true_iff.mpr ⟨List.contains_iff_mem.mpr isIn, decide_eq_true before⟩

theorem mem_mails (count : Nat) : "b" ∈ mails count :=
  List.mem_append_right _ (List.mem_singleton.mpr rfl)

theorem wanted_news (few : count < 1000) (index : Nat) :
    (inbox count).Wanted (hour index) "b" := by
  have isOlder : olderThan locale (news count).receivedAt 30 (hour index).now = true := by
    have instant : locale.instant (news count).receivedAt = some (count : Int) :=
      read_write_count few
    unfold olderThan
    rw [instant, Option.any_some]
    refine decide_eq_true ?_
    change ((30 : Nat) * 86400 : Int) <
      ((40 * 86400 + 3600 * (index : Int)) * 1000000000 - count).tdiv 1000000000
    rw [Int.tdiv_eq_ediv_of_nonneg (by omega)]
    omega
  refine ⟨⟨rfl, _, List.mem_singleton.mpr rfl, 30, rfl, isOlder⟩, "m2",
    ⟨"age", "m2", "Archive"⟩, ?_, rfl⟩
  have isMatched : Triage.isMatch locale (.olderThanDays 30) ((inbox count).account.mail "b")
    (hour index).now = true := isOlder
  have resolved : Triage.resolve locale (inbox count).account.mailboxes (inbox count).triage
    "Archive" = .ok ⟨"m2", "Archive", none⟩ := by rfl
  change (if Triage.isMatch locale (.olderThanDays 30) ((inbox count).account.mail "b")
      (hour index).now then
    Triage.applied ⟨"age", .olderThanDays 30, "Archive"⟩ (Triage.resolve locale
      (inbox count).account.mailboxes (inbox count).triage "Archive") else _) = _
  rw [if_pos isMatched, resolved]
  rfl

/-- Two hundred mails that cannot be read keep the sweeps from the mail behind them, however many
sweeps there are. -/
theorem not_reaches : ¬∃ count, 201 < count ∧ (sweeping 200).Reaches "mail" "u1" count := by
  rintro ⟨count, enough, reaches⟩
  have unread : ∀ index, ∀ id ∈ ((inbox 200).range (hour index)).take queryPage,
      (inbox 200).readable id = false := by
    intro index id onPage
    rw [range_inbox (by decide)] at onPage
    have isWaiting : id ∈ waiting 200 := by
      have page : (mails 200).take queryPage = waiting 200 :=
        List.take_left' (by simp [waiting, queryPage])
      exact page ▸ onPage
    exact beq_false_of_ne (length_of_mem_waiting isWaiting).2
  have few : 0 + ((sweeping 200).inbox "mail" "u1" 0).held.card < count := by
    have atMost : ((sweeping 200).inbox "mail" "u1" 0).held.card ≤ (mails 200).length :=
      (Finset.card_filter_le _ _).trans (List.toFinset_card_le _)
    have length : (mails 200).length = 201 := by simp [mails, waiting]
    omega
  have isIn : "m1" ∈ (inbox 200).account.boxes "b" := by
    change "m1" ∈ (if "b" ∈ mails 200 then ["m1"] else ["m2"])
    rw [if_pos (mem_mails 200)]
    exact List.mem_singleton.mpr rfl
  have stays := @Sweeping.alike_of_unread locale "mail" "u1" (sweeping 200) unread
  obtain ⟨later, -, -, isMoved⟩ := reaches.moved 0 "b" few isIn fun later _ _ =>
    (stays later).1.wanted (wanted_news (by decide) later)
  have isRead := (Inbox.filing_of_moved "mail" isMoved).1
  rw [(stays later).2] at isRead
  exact absurd isRead List.not_mem_nil

/-- Behind no more than a page of them it is archived. -/
theorem reaches_few : (sweeping 3).Reaches "mail" "u1" 10 := by
  refine Sweeping.reaches_of_passes "mail" "u1" (sweeping 3) 10 fun index isBefore => ?_
  refine Sweeping.passes_of_few (by decide) fun days isDays => ?_
  obtain rfl : 30 = days := Option.some.inj isDays
  unfold Rfc3339.Writable Rfc3339.firstDay Rfc3339.lastDay instantBefore sweeping hour
  dsimp only
  omega

end Backlog

end Twalk.Collector.Mails
