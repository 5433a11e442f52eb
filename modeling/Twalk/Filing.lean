/-
This file models how the collector files the owner's mail where their rules ask,
and puts one back: `Mailbox::file` and `Mailbox::report` of `collector/src/mails.rs`.
The moves of a round go out in one `Email/set`, whose update holds one mailbox for
each mail; a move reported is one the server says it took. What a round reports is
the truth, and a rule's move can be undone, exactly when no mail is asked for in two
places, each undo finds its mail where the move it reverses left it, and the mails a
rule moves are in one mailbox each.
-/

import Twalk.Triage
import Twalk.Library.Ledger

namespace Twalk.Collector.Mails

open Jmap (Mail Call Server method keys)
open Triage (Mailbox Rules Unusable)

/-! ### What the Gateway asks for -/

/-- One undo the owner asked for: the mail goes back to the mailbox it came from. -/
structure PendingUndo where
  sequence : Int
  connection : String
  emailId : String
  fromMailboxId : String
  fromMailboxName : String
  toMailboxId : String
  toMailboxName : String
deriving DecidableEq, Repr

def undoRule : String := "undo"

/-- The owner's triage rules, the undos they asked for, and where to report what moved: the
Gateway's address and the token it takes. -/
structure Governed where
  triage : Rules
  undos : List PendingUndo
  reportTo : Option (String × String)
deriving DecidableEq, Repr

structure Filed where
  emailId : String
  ruleId : String
  fromMailboxId : String
  fromMailboxName : String
  toMailboxId : String
  toMailboxName : String
  undoes : Option Int
deriving DecidableEq, Repr

def origin (mailboxes : List Mailbox) (mail : Mail) : String × String :=
  let named := mail.mailboxIds.head?.bind fun id => mailboxes.find? fun mailbox => mailbox.id == id
  let inbox := mailboxes.find? fun mailbox => mailbox.role == some "inbox"
  ((named.or inbox).map fun mailbox => (mailbox.id, mailbox.name)).getD ("", "")

namespace Filed

/-- An undo: the mail goes back where the move it reverses took it from. -/
def ofUndo (undo : PendingUndo) : Filed where
  emailId := undo.emailId
  ruleId := undoRule
  fromMailboxId := undo.toMailboxId
  fromMailboxName := undo.toMailboxName
  toMailboxId := undo.fromMailboxId
  toMailboxName := undo.fromMailboxName
  undoes := some undo.sequence

def ofFiling (mailboxes : List Mailbox) (mail : Mail) (filing : Triage.Filing) : Filed where
  emailId := mail.id
  ruleId := filing.ruleId
  fromMailboxId := (origin mailboxes mail).1
  fromMailboxName := (origin mailboxes mail).2
  toMailboxId := filing.mailboxId
  toMailboxName := filing.mailboxName
  undoes := none

def move (filed : Filed) : String × String := (filed.emailId, filed.toMailboxId)

end Filed

/-! ### The moves of a round -/

/-- The moves a round has come to: what is asked for, what will be reported of it, and the rules that
matched and could not be applied. -/
structure Plan where
  moves : List (String × String)
  filed : List Filed
  unusable : List (String × Unusable)
deriving DecidableEq, Repr

def Plan.add (plan : Plan) (filed : Filed) : Plan :=
  { plan with moves := plan.moves ++ [filed.move], filed := plan.filed ++ [filed] }

section Rounds

variable (locale : Triage.Locale)

def Plan.mail (triage : Rules) (mailboxes : List Mailbox) (undone : List String) (now : Int)
    (plan : Plan) (mail : Mail) : Plan :=
  if mail.id ∈ undone then plan
  else
    match Triage.file locale triage mailboxes mail now with
    | .ok (some filing) => plan.add (.ofFiling mailboxes mail filing)
    | .ok none => plan
    | .error (rule, why) =>
      if plan.unusable.any fun held => held.1 == rule then plan
      else { plan with unusable := plan.unusable ++ [(rule, why)] }

def planOf (triage : Rules) (undos : List PendingUndo) (mailboxes : List Mailbox)
    (mails : List Mail) (now : Int) : Plan :=
  mails.foldl (Plan.mail locale triage mailboxes (undos.map PendingUndo.emailId) now)
    (undos.foldl (fun plan undo => plan.add (.ofUndo undo)) ⟨[], [], []⟩)

/-- The update of an `Email/set`: a map by the mail's id, so the last move of a mail is its only
one, and its mailboxes are that one mailbox. -/
def updateOf (moves : List (String × String)) : List (String × String) :=
  (sortTexts (moves.map Prod.fst).dedup).filterMap fun id =>
    latest (fun move => move.1 == id) moves

/-! ### Filing -/

/-- A mailbox off `Mailbox/get`, whose role may be absent or null. -/
def readMailbox (value : Json) : Option Mailbox := do
  let id ← (← value.get? "id").asStr
  let name ← (← value.get? "name").asStr
  match value.get? "role" with
  | none => some ⟨id, name, none⟩
  | some .null => some ⟨id, name, none⟩
  | some (.string role) => some ⟨id, name, some role⟩
  | some _ => none

def readMailboxes (result : Json) : Option (List Mailbox) := do
  (← (← result.get? "list").asArray).mapM readMailbox

structure MoveReport where
  connection : String
  moved : Filed
  occurredAt : String
deriving DecidableEq, Repr

structure Report where
  url : String
  token : String
  moves : List MoveReport
deriving DecidableEq, Repr

def trimEndSlashes (text : String) : String :=
  String.ofList ((text.toList.reverse.dropWhile fun c => c == '/').reverse)

def report (connection : String) (governed : Governed) (filed : List Filed) (now : String) :
    Option Report :=
  match governed.reportTo with
  | none => none
  | some (gatewayUrl, token) =>
    if filed.isEmpty then none
    else some ⟨trimEndSlashes gatewayUrl ++ "/api/internal/mail-moves", token,
      filed.map fun one => ⟨connection, one, now⟩⟩

/-- What filing came to: the update the server was asked for, what it moved, the rules that could
not be applied, and the report. -/
structure Outcome where
  asked : Option (List (String × String))
  filed : List Filed
  unusable : List (String × Unusable)
  report : Option Report
deriving DecidableEq, Repr

/-- The mails an `Email/set` says it updated. -/
def updatedIds (answer : Except SideError Json) : List String :=
  match answer with
  | .error _ => []
  | .ok response =>
    match method response 0 with
    | .error _ => []
    | .ok result => ((result.get? "updated").map keys).getD []

def listedMailboxes (answer : Except SideError Json) : Option (List Mailbox) :=
  match answer with
  | .error _ => none
  | .ok response =>
    match method response 0 with
    | .error _ => none
    | .ok result => readMailboxes result

def send (connection : String) (governed : Governed) (server : Server) (account : String)
    (plan : Plan) (occurredAt : String) : Outcome :=
  if plan.moves.isEmpty then ⟨none, [], plan.unusable, none⟩
  else
    let update := updateOf plan.moves
    let updated := updatedIds (server.post [.emailMoves account update])
    let filed := plan.filed.filter fun one => updated.contains one.emailId
    ⟨some update, filed, plan.unusable, report connection governed filed occurredAt⟩

def undosOf (connection : String) (governed : Governed) : List PendingUndo :=
  governed.undos.filter fun undo => undo.connection == connection

def file (connection : String) (governed : Governed) (server : Server) (account : String)
    (mails : List Mail) (now : Int) (occurredAt : String) : Outcome :=
  if (governed.triage.rules.isEmpty || mails.isEmpty) && (undosOf connection governed).isEmpty then
    ⟨none, [], [], none⟩
  else
    match listedMailboxes (server.post [.mailboxGet account]) with
    | none => ⟨none, [], [], none⟩
    | some mailboxes =>
      send connection governed server account
        (planOf locale governed.triage (undosOf connection governed) mailboxes mails now) occurredAt

end Rounds

/-! ### What is reported -/

theorem report_nil (connection : String) (governed : Governed) (occurredAt : String) :
    report connection governed [] occurredAt = none := by
  unfold report
  cases governed.reportTo <;> rfl

theorem report_send (connection : String) (governed : Governed) (server : Server)
    (account : String) (plan : Plan) (occurredAt : String) :
    (send connection governed server account plan occurredAt).report =
      report connection governed (send connection governed server account plan occurredAt).filed
        occurredAt := by
  unfold send
  split
  · exact (report_nil connection governed occurredAt).symm
  · rfl

theorem report_file (locale : Triage.Locale) (connection : String) (governed : Governed)
    (server : Server) (account : String) (mails : List Mail) (now : Int) (occurredAt : String) :
    (file locale connection governed server account mails now occurredAt).report =
      report connection governed
        (file locale connection governed server account mails now occurredAt).filed
        occurredAt := by
  unfold file
  split
  · exact (report_nil connection governed occurredAt).symm
  · cases listedMailboxes (server.post [.mailboxGet account]) with
    | none => exact (report_nil connection governed occurredAt).symm
    | some mailboxes => exact report_send ..

/-! ### The moves, in closed form -/

section Plans

variable {locale : Triage.Locale} {triage : Rules} {mailboxes : List Mailbox} {undos : List PendingUndo}
  {now : Int}

def filedBy (locale : Triage.Locale) (triage : Rules) (mailboxes : List Mailbox) (undone : List String)
    (now : Int) (mail : Mail) : Option Filed :=
  if mail.id ∈ undone then none
  else
    match Triage.file locale triage mailboxes mail now with
    | .ok (some filing) => some (.ofFiling mailboxes mail filing)
    | _ => none

theorem filedBy_eq_some_iff {undone : List String} {mail : Mail} {filed : Filed} :
    filedBy locale triage mailboxes undone now mail = some filed ↔
      mail.id ∉ undone ∧ ∃ filing,
        Triage.file locale triage mailboxes mail now = .ok (some filing) ∧
          Filed.ofFiling mailboxes mail filing = filed := by
  unfold filedBy
  by_cases isUndone : mail.id ∈ undone
  · simp [isUndone]
  · rw [if_neg isUndone]
    cases Triage.file locale triage mailboxes mail now with
    | error refusal => simp
    | ok filing => cases filing <;> simp [isUndone]

theorem filed_mail (undone : List String) (plan : Plan) (mail : Mail) :
    (plan.mail locale triage mailboxes undone now mail).filed =
      plan.filed ++ (filedBy locale triage mailboxes undone now mail).toList := by
  unfold Plan.mail filedBy
  split
  · simp
  · cases Triage.file locale triage mailboxes mail now with
    | ok filing => cases filing <;> simp [Plan.add]
    | error refusal =>
      obtain ⟨rule, why⟩ := refusal
      dsimp only
      split <;> simp

theorem moves_mail (undone : List String) {plan : Plan}
    (agree : plan.moves = plan.filed.map Filed.move) (mail : Mail) :
    (plan.mail locale triage mailboxes undone now mail).moves =
      (plan.mail locale triage mailboxes undone now mail).filed.map Filed.move := by
  unfold Plan.mail
  split
  · exact agree
  · cases Triage.file locale triage mailboxes mail now with
    | ok filing =>
      cases filing with
      | none => exact agree
      | some filing => simp [Plan.add, agree]
    | error refusal =>
      obtain ⟨rule, why⟩ := refusal
      dsimp only
      split <;> exact agree

theorem filed_planOf (mails : List Mail) :
    (planOf locale triage undos mailboxes mails now).filed =
      undos.map Filed.ofUndo ++
        mails.filterMap (filedBy locale triage mailboxes (undos.map PendingUndo.emailId) now) := by
  have undone : ∀ (undos : List PendingUndo) (plan : Plan),
      (undos.foldl (fun plan undo => plan.add (.ofUndo undo)) plan).filed =
        plan.filed ++ undos.map Filed.ofUndo := by
    intro undos
    induction undos with
    | nil => simp
    | cons undo rest inductionHypothesis =>
      intro plan
      rw [List.foldl_cons, inductionHypothesis]
      simp [Plan.add]
  have filed : ∀ (mails : List Mail) (plan : Plan),
      (mails.foldl (Plan.mail locale triage mailboxes (undos.map PendingUndo.emailId) now)
        plan).filed = plan.filed ++
          mails.filterMap (filedBy locale triage mailboxes (undos.map PendingUndo.emailId) now) := by
    intro mails
    induction mails with
    | nil => simp
    | cons mail rest inductionHypothesis =>
      intro plan
      rw [List.foldl_cons, inductionHypothesis, filed_mail, List.filterMap_cons]
      cases filedBy locale triage mailboxes (undos.map PendingUndo.emailId) now mail <;> simp
  unfold planOf
  rw [filed, undone]
  rfl

theorem moves_planOf (mails : List Mail) :
    (planOf locale triage undos mailboxes mails now).moves =
      (planOf locale triage undos mailboxes mails now).filed.map Filed.move := by
  have undone : ∀ (undos : List PendingUndo) (plan : Plan),
      plan.moves = plan.filed.map Filed.move →
        (undos.foldl (fun plan undo => plan.add (.ofUndo undo)) plan).moves =
          (undos.foldl (fun plan undo => plan.add (.ofUndo undo)) plan).filed.map Filed.move := by
    intro undos
    induction undos with
    | nil => exact fun plan agree => agree
    | cons undo rest inductionHypothesis =>
      exact fun plan agree => inductionHypothesis _ (by simp [Plan.add, agree])
  have filed : ∀ (mails : List Mail) (plan : Plan), plan.moves = plan.filed.map Filed.move →
      (mails.foldl (Plan.mail locale triage mailboxes (undos.map PendingUndo.emailId) now)
        plan).moves =
        (mails.foldl (Plan.mail locale triage mailboxes (undos.map PendingUndo.emailId) now)
          plan).filed.map Filed.move := by
    intro mails
    induction mails with
    | nil => exact fun plan agree => agree
    | cons mail rest inductionHypothesis =>
      exact fun plan agree => inductionHypothesis _ (moves_mail _ agree mail)
  exact filed mails _ (undone undos _ rfl)

end Plans

/-! ### The update, as a map -/

theorem mem_updateOf {moves : List (String × String)} {move : String × String} :
    move ∈ updateOf moves ↔ latest (fun one => one.1 == move.1) moves = some move := by
  unfold updateOf
  rw [List.mem_filterMap]
  constructor
  · rintro ⟨id, _, isLast⟩
    obtain rfl : move.1 = id := eq_of_beq (latest_concerns isLast :)
    exact isLast
  · intro isLast
    refine ⟨move.1, ?_, isLast⟩
    rw [(perm_sortTexts _).mem_iff, List.mem_dedup]
    exact List.mem_map_of_mem (latest_mem isLast)

end Twalk.Collector.Mails
