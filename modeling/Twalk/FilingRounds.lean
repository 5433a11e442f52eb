/-
This file sets the filing of a round against the mailbox it files in: an account whose
mails are each in some of its mailboxes, a server that answers what it took, and the
undo of what was reported. A round tells the truth, and what its rules moved can be put
back, exactly when the undos of one mail agree, each finds its mail where the move it
reverses left it, and the mails that a rule moves are in one mailbox each.
-/

import Twalk.Filing

namespace Twalk.Collector.Mails

open Jmap (Mail Call Server method methodResult keys)
open Triage (Mailbox Rules)

/-! ### The account -/

/-- The mails of an account and the mailboxes they are in: each is in one at least, and the account
has them all. -/
structure Account where
  mailboxes : List Mailbox
  boxes : String → List String
  content : String → Mail
  somewhere : ∀ id, boxes id ≠ []
  distinct : ∀ id, (boxes id).Nodup
  listed : ∀ id, ∀ box ∈ boxes id, ∃ mailbox ∈ mailboxes, mailbox.id = box

/-- What happens in one round of filing: what the Gateway asks for, the mails the round read, and how
the server answers. -/
structure Round where
  governed : Governed
  read : List String
  now : Int
  occurredAt : String
  listed : Bool
  answered : Bool
  applied : Bool
  refuses : String → Bool

namespace Account

variable (account : Account)

def mail (id : String) : Mail :=
  { account.content id with id := id, mailboxIds := account.boxes id }

def takes (round : Round) (move : String × String) : Bool :=
  !round.refuses move.1 && account.mailboxes.any fun mailbox => mailbox.id == move.2

def taken (round : Round) (update : List (String × String)) : List (String × String) :=
  update.filter (account.takes round)

def mailboxJson (mailbox : Mailbox) : Json :=
  .object [("id", .string mailbox.id), ("name", .string mailbox.name),
    ("role", (mailbox.role.map Json.string).getD .null)]

def answer (name : String) (result : Json) : Json :=
  .object [("methodResponses", .array [.array [.string name, result, .string "c0"]])]

def server (round : Round) : Server where
  session := .ok .null
  post
    | [.mailboxGet _] =>
      if round.listed then
        .ok (answer "Mailbox/get" (.object [("list", .array (account.mailboxes.map mailboxJson))]))
      else .error (.unreachable "the mailboxes could not be read")
    | [.emailMoves _ update] =>
      if round.answered then
        .ok (answer "Email/set" (.object [("updated",
          .object ((account.taken round update).map fun move => (move.1, .null)))]))
      else .error (.unreachable "the answer was lost")
    | _ => .error (.unreachable "nothing else is asked")

def moved (update : List (String × String)) (id : String) : List String :=
  match latest (fun move => move.1 == id) update with
  | some move => [move.2]
  | none => account.boxes id

def after (round : Round) (update : List (String × String)) : Account where
  mailboxes := account.mailboxes
  boxes := account.moved (account.taken round update)
  content := account.content
  somewhere := by
    intro id
    unfold moved
    split
    · simp
    · exact account.somewhere id
  distinct := by
    intro id
    unfold moved
    split
    · simp
    · exact account.distinct id
  listed := by
    intro id box member
    unfold moved at member
    split at member
    · rename_i move isMove
      obtain rfl := List.mem_singleton.mp member
      have isTaken := (List.mem_filter.mp (latest_mem isMove)).2
      unfold takes at isTaken
      obtain ⟨mailbox, isMailbox, same⟩ := List.any_eq_true.mp (Bool.and_eq_true_iff.mp isTaken).2
      exact ⟨mailbox, isMailbox, eq_of_beq same⟩
    · exact account.listed id box member

end Account

/-! ### A round -/

section Rounds

variable (locale : Triage.Locale) (connection accountId : String)

def outcome (account : Account) (round : Round) : Outcome :=
  file locale connection round.governed (account.server round) accountId
    (round.read.map account.mail) round.now round.occurredAt

def next (account : Account) (round : Round) : Account :=
  match (outcome locale connection accountId account round).asked with
  | some update => if round.answered || round.applied then account.after round update else account
  | none => account

def reportedMoved (account : Account) (round : Round) : List String :=
  match (outcome locale connection accountId account round).asked with
  | some update =>
    if round.answered then (account.taken round update).map Prod.fst else []
  | none => []

/-- A round in which the owner asks one move back, and the server takes it. -/
def undoRound (governed : Governed) (sequence : Int) (filed : Filed) : Round where
  governed := { governed with undos := [{
    sequence
    connection
    emailId := filed.emailId
    fromMailboxId := filed.fromMailboxId
    fromMailboxName := filed.fromMailboxName
    toMailboxId := filed.toMailboxId
    toMailboxName := filed.toMailboxName }] }
  read := []
  now := 0
  occurredAt := ""
  listed := true
  answered := true
  applied := true
  refuses := fun _ => false

def putBack (account : Account) (round : Round) (sequence : Int) (filed : Filed) : Account :=
  next locale connection accountId (next locale connection accountId account round)
    (undoRound connection round.governed sequence filed)

/-- What a round of filing owes: it reports what was done and nothing else, each move with where the
mail was and is; an undo is sent, or not said to be done; and a rule's move can be put back. -/
structure Truthful (account : Account) (round : Round) : Prop where
  done : ∀ id ∈ reportedMoved locale connection accountId account round,
    ∃ filed ∈ (outcome locale connection accountId account round).filed, filed.emailId = id
  told : ∀ url token, round.governed.reportTo = some (url, token) →
    (outcome locale connection accountId account round).filed ≠ [] →
      ∃ report, (outcome locale connection accountId account round).report = some report ∧
        report.moves.map MoveReport.moved =
          (outcome locale connection accountId account round).filed
  taken : ∀ filed ∈ (outcome locale connection accountId account round).filed,
    filed.emailId ∈ reportedMoved locale connection accountId account round
  places : ∀ filed ∈ (outcome locale connection accountId account round).filed,
    filed.fromMailboxId ∈ account.boxes filed.emailId ∧
      (next locale connection accountId account round).boxes filed.emailId = [filed.toMailboxId]
  undos : ∀ undo ∈ undosOf connection round.governed,
    ∀ update, (outcome locale connection accountId account round).asked = some update →
      (undo.emailId, undo.fromMailboxId) ∈ update ∨
        Filed.ofUndo undo ∉ (outcome locale connection accountId account round).filed
  restores : ∀ filed ∈ (outcome locale connection accountId account round).filed,
    filed.undoes = none → ∀ sequence box,
      box ∈ (putBack locale connection accountId account round sequence filed).boxes filed.emailId ↔
        box ∈ account.boxes filed.emailId

/-- The undos of a round agree with one another and with the mailbox, and the mails its rules move
are in one mailbox each. Only what the server takes counts. -/
structure Orderly (account : Account) (round : Round) : Prop where
  agree : ∀ undo ∈ undosOf connection round.governed, ∀ last,
    latest (fun other => other.emailId == undo.emailId) (undosOf connection round.governed) = some last →
      account.takes round (last.emailId, last.fromMailboxId) = true →
        undo.fromMailboxId = last.fromMailboxId
  found : ∀ undo ∈ undosOf connection round.governed, ∀ last,
    latest (fun other => other.emailId == undo.emailId) (undosOf connection round.governed) = some last →
      account.takes round (last.emailId, last.fromMailboxId) = true →
        undo.toMailboxId ∈ account.boxes undo.emailId
  alone : ∀ id ∈ round.read, id ∉ (undosOf connection round.governed).map PendingUndo.emailId →
    ∀ filing, Triage.file locale round.governed.triage account.mailboxes (account.mail id)
        round.now = .ok (some filing) →
      account.takes round (id, filing.mailboxId) = true → (account.boxes id).length = 1

end Rounds

/-! ### What the server answers -/

theorem readMailbox_mailboxJson (mailbox : Mailbox) :
    readMailbox (Account.mailboxJson mailbox) = some mailbox := by
  obtain ⟨id, name, role⟩ := mailbox
  cases role <;> simp [readMailbox, Account.mailboxJson, Json.get?, Json.lookup]

theorem method_answer (name : String) (notError : name ≠ "error") (result : Json) :
    method (Account.answer name result) 0 = .ok result := by
  simp [method, methodResult, Account.answer, Json.item?, notError]

theorem listedMailboxes_server {account : Account} {round : Round} (listed : round.listed = true)
    (accountId : String) :
    listedMailboxes ((account.server round).post [.mailboxGet accountId]) =
      some account.mailboxes := by
  have read : ∀ mailboxes : List Mailbox,
      (mailboxes.map Account.mailboxJson).mapM readMailbox = some mailboxes := by
    intro mailboxes
    induction mailboxes with
    | nil => rfl
    | cons mailbox rest inductionHypothesis =>
      simp [readMailbox_mailboxJson, inductionHypothesis]
  simp [listedMailboxes, Account.server, listed, method_answer, readMailboxes, read]

theorem mem_updatedIds_server {account : Account} {round : Round}
    (answered : round.answered = true) (accountId : String) (update : List (String × String))
    (id : String) :
    id ∈ updatedIds ((account.server round).post [.emailMoves accountId update]) ↔
      id ∈ (account.taken round update).map Prod.fst := by
  have same : updatedIds ((account.server round).post [.emailMoves accountId update]) =
      sortTexts ((account.taken round update).map Prod.fst).dedup := by
    simp [updatedIds, Account.server, answered, method_answer, keys, Function.comp_def]
  rw [same, (perm_sortTexts _).mem_iff, List.mem_dedup]

/-! ### What a round comes to -/

section Rounds

variable {locale : Triage.Locale} {connection accountId : String} {account : Account} {round : Round}

def planned (locale : Triage.Locale) (connection : String) (account : Account) (round : Round) : Plan :=
  planOf locale round.governed.triage (undosOf connection round.governed) account.mailboxes
    (round.read.map account.mail) round.now

def asks (locale : Triage.Locale) (connection : String) (account : Account) (round : Round) :
    List (String × String) :=
  updateOf (planned locale connection account round).moves

theorem filed_planned_of_idle
    (idle : ((round.governed.triage.rules.isEmpty || (round.read.map account.mail).isEmpty) &&
      (undosOf connection round.governed).isEmpty) = true) :
    (planned locale connection account round).filed = [] := by
  obtain ⟨nothing, noUndo⟩ := Bool.and_eq_true_iff.mp idle
  unfold planned
  rw [filed_planOf, List.isEmpty_iff.mp noUndo]
  rcases Bool.or_eq_true_iff.mp nothing with noRule | noMail
  · rw [List.map_nil, List.nil_append, List.filterMap_eq_nil_iff]
    intro mail _
    simp [filedBy, Triage.file, List.isEmpty_iff.mp noRule, Triage.fileBy]
  · rw [List.isEmpty_iff.mp noMail]
    rfl

theorem moves_planned :
    (planned locale connection account round).moves =
      (planned locale connection account round).filed.map Filed.move :=
  moves_planOf _

theorem outcome_of_answered (listed : round.listed = true) (answered : round.answered = true) :
    (outcome locale connection accountId account round).asked =
        (if (planned locale connection account round).moves = [] then none
          else some (asks locale connection account round)) ∧
      ∀ filed, filed ∈ (outcome locale connection accountId account round).filed ↔
        filed ∈ (planned locale connection account round).filed ∧
          filed.emailId ∈
            (account.taken round (asks locale connection account round)).map Prod.fst := by
  have sent : ∀ plan : Plan, plan.moves = plan.filed.map Filed.move →
      (send connection round.governed (account.server round) accountId plan
          round.occurredAt).asked =
          (if plan.moves = [] then none else some (updateOf plan.moves)) ∧
        ∀ filed, filed ∈ (send connection round.governed (account.server round) accountId plan
            round.occurredAt).filed ↔
          filed ∈ plan.filed ∧
            filed.emailId ∈ (account.taken round (updateOf plan.moves)).map Prod.fst := by
    intro plan agree
    unfold send
    by_cases none : plan.moves = []
    · have nothing : plan.filed = [] := List.map_eq_nil_iff.mp (agree.symm.trans none)
      simp [none, nothing]
    · rw [if_neg (by simpa using none), if_neg none]
      refine ⟨rfl, fun filed => ?_⟩
      rw [List.mem_filter, List.contains_iff_mem, mem_updatedIds_server answered]
  unfold outcome file
  by_cases idle : ((round.governed.triage.rules.isEmpty ||
      (round.read.map account.mail).isEmpty) && (undosOf connection round.governed).isEmpty) = true
  · have nothing : (planned locale connection account round).filed = [] :=
      filed_planned_of_idle idle
    have noMoves : (planned locale connection account round).moves = [] := by
      rw [moves_planned, nothing, List.map_nil]
    rw [if_pos idle, if_pos noMoves, nothing]
    exact ⟨rfl, fun filed => by simp⟩
  · rw [if_neg idle, listedMailboxes_server listed]
    exact sent _ moves_planned

theorem filed_outcome_of_unanswered (unanswered : round.listed = false ∨ round.answered = false) :
    (outcome locale connection accountId account round).filed = [] := by
  have lost : round.answered = false → ∀ plan : Plan,
      (send connection round.governed (account.server round) accountId plan
        round.occurredAt).filed = [] := by
    intro isLost plan
    unfold send
    split
    · rfl
    · simp [updatedIds, Account.server, isLost]
  unfold outcome file
  split
  · rfl
  · rcases unanswered with unlisted | isLost
    · simp [listedMailboxes, Account.server, unlisted]
    · cases listedMailboxes ((account.server round).post [.mailboxGet accountId]) with
      | none => rfl
      | some mailboxes => exact lost isLost _

variable {move : String × String}

theorem mem_taken_asks :
    move ∈ account.taken round (asks locale connection account round) ↔
      latest (fun one => one.1 == move.1) (planned locale connection account round).moves =
          some move ∧ account.takes round move = true := by
  unfold Account.taken asks
  rw [List.mem_filter, mem_updateOf]

theorem moved_of_taken (isTaken : move ∈ account.taken round (asks locale connection account round))
    :
    account.moved (account.taken round (asks locale connection account round)) move.1 =
      [move.2] := by
  have found : ∃ last, latest (fun one : String × String => one.1 == move.1)
      (account.taken round (asks locale connection account round)) = some last :=
    exists_latest isTaken (beq_self_eq_true move.1)
  obtain ⟨last, isLast⟩ := found
  have sameMail : last.1 = move.1 := eq_of_beq (latest_concerns isLast :)
  have lastAsked := (mem_taken_asks.mp (latest_mem isLast)).1
  rw [sameMail, (mem_taken_asks.mp isTaken).1] at lastAsked
  obtain rfl := Option.some.inj lastAsked
  unfold Account.moved
  rw [isLast]

theorem reportedMoved_of_answered (listed : round.listed = true)
    (answered : round.answered = true) :
    reportedMoved locale connection accountId account round =
      (account.taken round (asks locale connection account round)).map Prod.fst := by
  unfold reportedMoved
  rw [(outcome_of_answered listed answered).1]
  split
  · rename_i none
    split at none
    · cases none
    · rw [if_pos answered]
      obtain rfl := Option.some.inj none
      rfl
  · rename_i none
    split at none
    · rename_i noMoves
      simp [asks, noMoves, updateOf, sortTexts, Account.taken]
    · cases none

theorem boxes_next (listed : round.listed = true) (answered : round.answered = true)
    (id : String) :
    (next locale connection accountId account round).boxes id =
      account.moved (account.taken round (asks locale connection account round)) id := by
  unfold next
  rw [(outcome_of_answered listed answered).1]
  split
  · rename_i none
    split at none
    · cases none
    · rw [answered]
      obtain rfl := Option.some.inj none
      rfl
  · rename_i none
    split at none
    · rename_i noMoves
      simp [asks, noMoves, updateOf, sortTexts, Account.taken, Account.moved]
    · cases none

theorem mailboxes_next :
    (next locale connection accountId account round).mailboxes = account.mailboxes := by
  unfold next
  split
  · split <;> rfl
  · rfl

variable {filed : Filed}

theorem mem_filed_planned :
    filed ∈ (planned locale connection account round).filed ↔
      (∃ undo ∈ undosOf connection round.governed, Filed.ofUndo undo = filed) ∨
        ∃ id ∈ round.read,
          id ∉ (undosOf connection round.governed).map PendingUndo.emailId ∧
            ∃ filing, Triage.file locale round.governed.triage account.mailboxes
                (account.mail id) round.now = .ok (some filing) ∧
              Filed.ofFiling account.mailboxes (account.mail id) filing = filed := by
  unfold planned
  rw [filed_planOf, List.mem_append, List.mem_map, List.filterMap_map, List.mem_filterMap]
  refine or_congr Iff.rfl (exists_congr fun id => and_congr_right fun _ => ?_)
  exact filedBy_eq_some_iff

theorem latest_moves_of_undone {undo : PendingUndo}
    (asked : undo ∈ undosOf connection round.governed) :
    latest (fun move => move.1 == undo.emailId) (planned locale connection account round).moves =
      (latest (fun other => other.emailId == undo.emailId)
        (undosOf connection round.governed)).map fun last =>
          (last.emailId, last.fromMailboxId) := by
  have rules : latest (fun move : String × String => move.1 == undo.emailId)
      (((round.read.map account.mail).filterMap (filedBy locale round.governed.triage
        account.mailboxes ((undosOf connection round.governed).map PendingUndo.emailId)
        round.now)).map Filed.move) = none := by
    rw [latest_eq_none_iff]
    intro move isMove
    obtain ⟨filed, isFiled, rfl⟩ := List.mem_map.mp isMove
    obtain ⟨mail, _, isMail⟩ := List.mem_filterMap.mp isFiled
    obtain ⟨notUndone, filing, _, rfl⟩ := filedBy_eq_some_iff.mp isMail
    refine beq_false_of_ne fun same => notUndone ?_
    change mail.id = undo.emailId at same
    rw [same]
    exact List.mem_map_of_mem asked
  rw [moves_planned]
  unfold planned
  rw [filed_planOf, List.map_append, latest_append, rules, Option.none_or, List.map_map, latest_map]
  rfl

theorem latest_moves_of_filed {id : String} (isRead : id ∈ round.read)
    (notUndone : id ∉ (undosOf connection round.governed).map PendingUndo.emailId)
    {filing : Triage.Filing}
    (decided : Triage.file locale round.governed.triage account.mailboxes (account.mail id)
      round.now = .ok (some filing)) :
    latest (fun move => move.1 == id) (planned locale connection account round).moves =
      some (id, filing.mailboxId) := by
  have isMove : (id, filing.mailboxId) ∈ (planned locale connection account round).moves := by
    rw [moves_planned]
    exact List.mem_map.mpr ⟨_, mem_filed_planned.mpr
      (.inr ⟨id, isRead, notUndone, filing, decided, rfl⟩), rfl⟩
  refine latest_eq_of_unique isMove (beq_self_eq_true _) fun other isOther same => ?_
  rw [moves_planned] at isOther
  obtain ⟨filed, isFiled, rfl⟩ := List.mem_map.mp isOther
  have sameMail : filed.emailId = id := eq_of_beq same
  rcases mem_filed_planned.mp isFiled with ⟨undo, isUndo, rfl⟩ | ⟨read, _, _, by_, decidedBy, rfl⟩
  · exact absurd (sameMail ▸ List.mem_map_of_mem isUndo) notUndone
  · obtain rfl : read = id := sameMail
    obtain rfl : by_ = filing := by
      rw [decided] at decidedBy
      exact (Option.some.inj (Except.ok.inj decidedBy)).symm
    rfl

theorem origin_mem (account : Account) (id : String) :
    (origin account.mailboxes (account.mail id)).1 ∈ account.boxes id := by
  obtain ⟨first, rest, isBoxes⟩ := List.exists_cons_of_ne_nil (account.somewhere id)
  have isFirst : first ∈ account.boxes id := by
    rw [isBoxes]
    exact List.mem_cons_self
  obtain ⟨mailbox, isMailbox, same⟩ := account.listed id first isFirst
  have found : ∃ named, account.mailboxes.find? (fun mailbox => mailbox.id == first) =
      some named := by
    rw [← Option.isSome_iff_exists, List.find?_isSome]
    exact ⟨mailbox, isMailbox, by simpa using same⟩
  obtain ⟨named, isNamed⟩ := found
  have isId : named.id = first := eq_of_beq (List.find?_some isNamed :)
  have isOrigin : (origin account.mailboxes (account.mail id)).1 = named.id := by
    simp [origin, Account.mail, isBoxes, isNamed]
  rw [isOrigin, isId]
  exact isFirst

theorem boxes_putBack (sequence : Int)
    (isListed : ∃ mailbox ∈ account.mailboxes, mailbox.id = filed.fromMailboxId) :
    (putBack locale connection accountId account round sequence filed).boxes filed.emailId =
      [filed.fromMailboxId] := by
  let undo : PendingUndo := ⟨sequence, connection, filed.emailId, filed.fromMailboxId,
    filed.fromMailboxName, filed.toMailboxId, filed.toMailboxName⟩
  let later := undoRound connection round.governed sequence filed
  have only : undosOf connection later.governed = [undo] := by
    simp [undosOf, later, undoRound, undo]
  have asked : undo ∈ undosOf connection later.governed := by
    rw [only]
    exact List.mem_singleton.mpr rfl
  have isTaken : (filed.emailId, filed.fromMailboxId) ∈
      (next locale connection accountId account round).taken later
        (asks locale connection (next locale connection accountId account round) later) := by
    refine mem_taken_asks.mpr ⟨(latest_moves_of_undone asked).trans ?_, ?_⟩
    · rw [only]
      simp [latest, undo]
    · unfold Account.takes
      rw [mailboxes_next]
      simpa [later, undoRound] using isListed
  unfold putBack
  rw [boxes_next rfl rfl]
  exact moved_of_taken isTaken

theorem filed_of_outcome
    (isFiled : filed ∈ (outcome locale connection accountId account round).filed) :
    round.listed = true ∧ round.answered = true ∧
      filed ∈ (planned locale connection account round).filed ∧
        filed.emailId ∈
          (account.taken round (asks locale connection account round)).map Prod.fst := by
  by_cases listed : round.listed = true
  · by_cases answered : round.answered = true
    · exact ⟨listed, answered, ((outcome_of_answered listed answered).2 filed).mp isFiled⟩
    · rw [filed_outcome_of_unanswered (.inr (by simpa using answered))] at isFiled
      exact absurd isFiled List.not_mem_nil
  · rw [filed_outcome_of_unanswered (.inl (by simpa using listed))] at isFiled
    exact absurd isFiled List.not_mem_nil

theorem places_of_orderly (orderly : Orderly locale connection account round)
    (isPlanned : filed ∈ (planned locale connection account round).filed) (isMoved : filed.emailId ∈
      (account.taken round (asks locale connection account round)).map Prod.fst) :
    filed.fromMailboxId ∈ account.boxes filed.emailId ∧
      filed.move ∈ account.taken round (asks locale connection account round) := by
  obtain ⟨move, isTaken, sameMail⟩ := List.mem_map.mp isMoved
  obtain ⟨isLast, takes⟩ := mem_taken_asks.mp isTaken
  rw [sameMail] at isLast
  rcases mem_filed_planned.mp isPlanned with
    ⟨undo, isUndo, rfl⟩ | ⟨id, isRead, notUndone, filing, decided, rfl⟩
  · have lastMove : latest (fun move => move.1 == undo.emailId)
        (planned locale connection account round).moves = _ := latest_moves_of_undone isUndo
    have lastUndo := lastMove.symm.trans isLast
    obtain ⟨last, isLastUndo, rfl⟩ := Option.map_eq_some_iff.mp lastUndo
    refine ⟨orderly.found undo isUndo last isLastUndo takes, ?_⟩
    have isMove : (Filed.ofUndo undo).move = (last.emailId, last.fromMailboxId) :=
      Prod.ext sameMail.symm (orderly.agree undo isUndo last isLastUndo takes)
    rw [isMove]
    exact isTaken
  · refine ⟨origin_mem account id, ?_⟩
    have isRule := (latest_moves_of_filed isRead notUndone decided).symm.trans isLast
    obtain rfl := Option.some.inj isRule
    exact isTaken

theorem answered_of_reportedMoved {id : String}
    (isMoved : id ∈ reportedMoved locale connection accountId account round) :
    round.listed = true ∧ round.answered = true := by
  unfold reportedMoved at isMoved
  cases asked : (outcome locale connection accountId account round).asked with
  | none => simp [asked] at isMoved
  | some update =>
    have answered : round.answered = true := by
      by_contra isLost
      simp [asked, isLost] at isMoved
    refine ⟨?_, answered⟩
    by_contra unlisted
    unfold outcome file at asked
    split at asked
    · cases asked
    · simp [listedMailboxes, Account.server, unlisted] at asked

theorem filing_of_filed (isPlanned : filed ∈ (planned locale connection account round).filed)
    (isRule : filed.undoes = none) :
    ∃ id ∈ round.read, id ∉ (undosOf connection round.governed).map PendingUndo.emailId ∧
      ∃ filing, Triage.file locale round.governed.triage account.mailboxes (account.mail id)
          round.now = .ok (some filing) ∧
        Filed.ofFiling account.mailboxes (account.mail id) filing = filed := by
  rcases mem_filed_planned.mp isPlanned with ⟨undo, _, rfl⟩ | isFiling
  · cases isRule
  · exact isFiling

theorem eq_singleton_of_length {box : String} {boxes : List String} (member : box ∈ boxes)
    (alone : boxes.length = 1) : boxes = [box] := by
  obtain ⟨only, rfl⟩ := List.length_eq_one_iff.mp alone
  rw [List.mem_singleton.mp member]

theorem length_eq_one_of_all {boxes : List String} {only : String} (distinct : boxes.Nodup)
    (all : ∀ box, box ∈ [only] ↔ box ∈ boxes) : boxes.length = 1 := by
  have same : boxes.Perm [only] :=
    (List.perm_ext_iff_of_nodup distinct (List.nodup_singleton only)).mpr fun box => (all box).symm
  exact same.length_eq

theorem truthful_of_orderly
    (orderly : round.listed = true → round.answered = true →
      Orderly locale connection account round) :
    Truthful locale connection accountId account round where
  done := by
    intro id isMoved
    obtain ⟨listed, answered⟩ := answered_of_reportedMoved isMoved
    rw [reportedMoved_of_answered listed answered] at isMoved
    obtain ⟨move, isTaken, rfl⟩ := List.mem_map.mp isMoved
    have isMove := latest_mem (mem_taken_asks.mp isTaken).1
    rw [moves_planned] at isMove
    obtain ⟨filed, isFiled, rfl⟩ := List.mem_map.mp isMove
    exact ⟨filed, ((outcome_of_answered listed answered).2 filed).mpr
      ⟨isFiled, List.mem_map_of_mem isTaken⟩, rfl⟩
  told := by
    intro url token isReported someFiled
    have isReport : (outcome locale connection accountId account round).report =
        report connection round.governed
          (outcome locale connection accountId account round).filed round.occurredAt :=
      report_file ..
    rw [isReport]
    unfold report
    rw [isReported]
    dsimp only
    rw [if_neg (by simpa using someFiled)]
    refine ⟨_, rfl, ?_⟩
    rw [List.map_map]
    exact List.map_id _
  taken := by
    intro filed isFiled
    obtain ⟨listed, answered, _, isMoved⟩ := filed_of_outcome isFiled
    rw [reportedMoved_of_answered listed answered]
    exact isMoved
  places := by
    intro filed isFiled
    obtain ⟨listed, answered, isPlanned, isMoved⟩ := filed_of_outcome isFiled
    obtain ⟨wasThere, isTaken⟩ := places_of_orderly (orderly listed answered) isPlanned isMoved
    refine ⟨wasThere, ?_⟩
    rw [boxes_next listed answered]
    exact moved_of_taken isTaken
  undos := by
    intro undo _ update isAsked
    by_cases isFiled : Filed.ofUndo undo ∈ (outcome locale connection accountId account round).filed
    · obtain ⟨listed, answered, isPlanned, isMoved⟩ := filed_of_outcome isFiled
      have isTaken := (places_of_orderly (orderly listed answered) isPlanned isMoved).2
      rw [(outcome_of_answered listed answered).1] at isAsked
      split at isAsked
      · cases isAsked
      · obtain rfl := Option.some.inj isAsked
        exact .inl (List.mem_filter.mp isTaken).1
    · exact .inr isFiled
  restores := by
    intro filed isFiled isRule sequence box
    obtain ⟨listed, answered, isPlanned, isMoved⟩ := filed_of_outcome isFiled
    have isTaken := (places_of_orderly (orderly listed answered) isPlanned isMoved).2
    obtain ⟨id, isRead, notUndone, filing, decided, rfl⟩ := filing_of_filed isPlanned isRule
    have wasThere := origin_mem account id
    have alone := (orderly listed answered).alone id isRead notUndone filing decided
      (mem_taken_asks.mp isTaken).2
    have isOnly : account.boxes id = [(origin account.mailboxes (account.mail id)).1] :=
      eq_singleton_of_length wasThere alone
    rw [boxes_putBack sequence (account.listed id _ wasThere)]
    exact isOnly ▸ Iff.rfl

theorem orderly_of_truthful (truthful : Truthful locale connection accountId account round)
    (listed : round.listed = true) (answered : round.answered = true) :
    Orderly locale connection account round := by
  have lastTaken : ∀ undo ∈ undosOf connection round.governed, ∀ last,
      latest (fun other => other.emailId == undo.emailId)
          (undosOf connection round.governed) = some last →
        account.takes round (last.emailId, last.fromMailboxId) = true →
          (undo.emailId, last.fromMailboxId) ∈
            account.taken round (asks locale connection account round) := by
    intro undo isUndo last isLast takes
    have sameMail : last.emailId = undo.emailId := eq_of_beq (latest_concerns isLast :)
    rw [sameMail] at takes
    refine mem_taken_asks.mpr ⟨?_, takes⟩
    rw [latest_moves_of_undone isUndo, isLast, Option.map_some, sameMail]
  have isReported : ∀ undo ∈ undosOf connection round.governed, ∀ destination,
      (undo.emailId, destination) ∈
          account.taken round (asks locale connection account round) →
        Filed.ofUndo undo ∈ (outcome locale connection accountId account round).filed := by
    intro undo isUndo destination isTaken
    exact ((outcome_of_answered listed answered).2 _).mpr
      ⟨mem_filed_planned.mpr (.inl ⟨undo, isUndo, rfl⟩), List.mem_map_of_mem isTaken⟩
  refine ⟨?_, ?_, ?_⟩
  · intro undo isUndo last isLast takes
    have isTaken := lastTaken undo isUndo last isLast takes
    have isThere := (truthful.places _ (isReported undo isUndo _ isTaken)).2
    rw [boxes_next listed answered] at isThere
    exact (List.cons.inj (isThere.symm.trans (moved_of_taken isTaken))).1
  · intro undo isUndo last isLast takes
    exact (truthful.places _ (isReported undo isUndo _ (lastTaken undo isUndo last isLast takes))).1
  · intro id isRead notUndone filing decided takes
    have isTaken : (id, filing.mailboxId) ∈
        account.taken round (asks locale connection account round) :=
      mem_taken_asks.mpr ⟨latest_moves_of_filed isRead notUndone decided, takes⟩
    have isFiled : Filed.ofFiling account.mailboxes (account.mail id) filing ∈
        (outcome locale connection accountId account round).filed :=
      ((outcome_of_answered listed answered).2 _).mpr
        ⟨mem_filed_planned.mpr (.inr ⟨id, isRead, notUndone, filing, decided, rfl⟩),
          List.mem_map_of_mem isTaken⟩
    have restored := truthful.restores _ isFiled rfl 0
    rw [boxes_putBack 0 (account.listed id _ (origin_mem account id))] at restored
    exact length_eq_one_of_all (account.distinct id) restored

/-- A round of filing tells the truth and can be undone exactly when it is orderly, or nothing of it
is answered. -/
theorem truthful_iff :
    Truthful locale connection accountId account round ↔
      (round.listed = true → round.answered = true → Orderly locale connection account round) :=
  ⟨orderly_of_truthful, truthful_of_orderly⟩

end Rounds

namespace TwoMailboxes

open Triage.Newsletters (asciiLocale gateway newsletter)

def account : Account where
  mailboxes := ⟨"m4", "Projects", none⟩ :: Triage.Newsletters.mailboxes
  boxes id := if id = "e1" then ["m1", "m4"] else ["m1"]
  content _ := newsletter
  somewhere id := by split <;> simp
  distinct id := by split <;> simp
  listed id box member := by
    have isBox : box = "m1" ∨ box = "m4" := by
      split at member
      · simpa using member
      · exact .inl (by simpa using member)
    rcases isBox with rfl | rfl <;> simp [Triage.Newsletters.mailboxes]

def round : Round where
  governed := ⟨Triage.Rules.ofGateway gateway, [], some ("https://gateway", "token")⟩
  read := ["e1"]
  now := 0
  occurredAt := "2026-10-01T08:00:00Z"
  listed := true
  answered := true
  applied := true
  refuses _ := false

/-- Filing a mail of two mailboxes loses one of them for good. -/
theorem second_mailbox_is_lost : ¬ Truthful asciiLocale "mail" "u1" account round := by
  intro truthful
  have alone := (orderly_of_truthful truthful rfl rfl).alone "e1" (List.mem_singleton.mpr rfl)
    (by simp [undosOf, round]) ⟨"news", "m2", "Reading"⟩ (by decide) (by decide +kernel)
  exact absurd alone (by decide)

end TwoMailboxes

end Twalk.Collector.Mails
