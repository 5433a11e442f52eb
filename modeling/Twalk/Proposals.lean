/-
This file models the owner's triage decisions in `companion-gateway/src/store.rs`:
the journal of triage sets, the rules the drafting agent proposed, and the two
functions that write them. `record_mail_triage_decision` and
`decide_rule_proposal` take the store's lock once for each statement and hold it
across none, so a call is also given as the stages it passes through, one
statement a step, between which the calls of others may stand.
-/

import Twalk.MailRules
import Twalk.Library.System

namespace Twalk.Proposals

open MailRules

/-! ### The tables -/

/-- `new_state` of `mail_triage_decision`. -/
inductive TriageState where
  | set
  | cleared
deriving DecidableEq, Repr

/-- A row of `mail_triage_decision`: a whole set, or the clearing of it. -/
structure TriageRow where
  newState : TriageState
  triage : Option Json
  occurredAt : String
  actor : String
  reason : Option String
  documented : newState = .set ↔ triage.isSome = true

/-- `state` of `mail_rule_proposal`. -/
inductive ProposalState where
  | proposed
  | approved
  | refused
deriving DecidableEq, Repr

structure ProposalRow where
  sequence : Nat
  rule : Json
  because : Option String
  proposedAt : String
  state : ProposalState
  decidedAt : Option String
  dated : state = .proposed ↔ decidedAt = none

/-- The two tables, each in the order of its sequences. -/
structure TriageStore where
  decisions : List TriageRow
  proposals : List ProposalRow

inductive Failure where
  | setRefused (rule : Option String) (why : Refusal)
  | ruleUnreadable
  | setUnreadable
  | decidedOnce
  | statement
deriving DecidableEq, Repr

/-- What an error says. A statement that fails says what the database says, which is not here. -/
def Failure.text : Failure → String
  | setRefused rule why =>
    "the triage set is not one this deployment will apply: " ++ why.code ++
      (rule.map fun id => " (rule " ++ id ++ ")").getD ""
  | ruleUnreadable => "the proposed rule cannot be read"
  | setUnreadable => "the recorded triage set cannot be read"
  | decidedOnce => "a proposal is decided once, and its rule never changes"
  | statement => ""

/-! ### The statements -/

def TriageRow.write (triage : Option Triage) (occurredAt actor : String)
    (reason : Option String) : TriageRow where
  newState := if triage.isSome then .set else .cleared
  triage := triage.map Triage.document
  occurredAt := occurredAt
  actor := actor
  reason := reason
  documented := by cases triage <;> simp

def TriageRow.approval (triage : Triage) (rule : Rule) (decidedAt actor : String) : TriageRow :=
  TriageRow.write (some (triage.adopt rule)) decidedAt actor
    (some "approved a rule the assistant proposed")

def TriageRow.read (row : TriageRow) : Except Failure Triage :=
  match row.newState, row.triage with
  | .set, some document =>
    match Triage.read document with
    | some triage => .ok triage
    | none => .error .setUnreadable
  | _, _ => .ok Triage.default

def inForce (decisions : List TriageRow) : Except Failure Triage :=
  match decisions.getLast? with
  | some row => row.read
  | none => .ok Triage.default

namespace TriageStore

def mailTriage (store : TriageStore) : Except Failure Triage := inForce store.decisions

def appendDecision (store : TriageStore) (row : TriageRow) : TriageStore :=
  { store with decisions := store.decisions ++ [row] }

def proposal (store : TriageStore) (sequence : Nat) : Option ProposalRow :=
  store.proposals.find? fun row => row.sequence == sequence

def stateOf (store : TriageStore) (sequence : Nat) : Option ProposalState :=
  (store.proposal sequence).map ProposalRow.state

def undecided (store : TriageStore) (sequence : Nat) : Option Json :=
  match store.proposal sequence with
  | some row => if row.state = .proposed then some row.rule else none
  | none => none

/-- The word a decision is recorded as. -/
def decidedAs (approve : Bool) : ProposalState := if approve then .approved else .refused

end TriageStore

/-- A proposal with the owner's decision on it. -/
def ProposalRow.decide (row : ProposalRow) (approve : Bool) (decidedAt : String) :
    ProposalRow :=
  { row with
    state := TriageStore.decidedAs approve
    decidedAt := some decidedAt
    dated := by cases approve <;> simp [TriageStore.decidedAs] }

namespace TriageStore

def withDecision (store : TriageStore) (sequence : Nat) (approve : Bool) (decidedAt : String) :
    TriageStore :=
  { store with
    proposals := store.proposals.map fun row =>
      if row.sequence = sequence then row.decide approve decidedAt else row }

def markProposal (store : TriageStore) (sequence : Nat) (approve : Bool) (decidedAt : String) :
    Except Failure TriageStore :=
  match store.proposal sequence with
  | none => .ok store
  | some row =>
    if row.state = .proposed then .ok (store.withDecision sequence approve decidedAt)
    else .error .decidedOnce

def nextSequence (store : TriageStore) : Nat :=
  (store.proposals.map ProposalRow.sequence).foldl max 0 + 1

def recordRuleProposal (store : TriageStore) (rule : Rule) (because : Option String)
    (proposedAt : String) : TriageStore :=
  { store with
    proposals := store.proposals ++ [{
      sequence := store.nextSequence
      rule := rule.document
      because := because
      proposedAt := proposedAt
      state := .proposed
      decidedAt := none
      dated := by simp }] }

/-! ### The functions -/

variable (lowercase : String → String)

def checked (triage : Option Triage) : Except Failure Unit :=
  match triage with
  | none => .ok ()
  | some triage =>
    match triage.check lowercase with
    | .ok () => .ok ()
    | .error (rule, why) => .error (.setRefused rule why)

def recordMailTriageDecision (store : TriageStore) (triage : Option Triage)
    (occurredAt actor : String) (reason : Option String) :
    TriageStore × Except Failure Triage :=
  match checked lowercase triage with
  | .error failure => (store, .error failure)
  | .ok () =>
    let store := store.appendDecision (TriageRow.write triage occurredAt actor reason)
    (store, store.mailTriage)

def markApproved (store : TriageStore) (recorded : Except Failure Triage) (sequence : Nat)
    (decidedAt : String) : TriageStore × Except Failure (Option Triage) :=
  match recorded with
  | .error failure => (store, .error failure)
  | .ok triage =>
    match store.markProposal sequence true decidedAt with
    | .error failure => (store, .error failure)
    | .ok store => (store, .ok (some triage))

/-- The owner's approval of a proposal that stands undecided. -/
def approveRule (store : TriageStore) (sequence : Nat) (document : Json)
    (decidedAt actor : String) : TriageStore × Except Failure (Option Triage) :=
  match Rule.read document, store.mailTriage with
  | none, _ => (store, .error .ruleUnreadable)
  | _, .error failure => (store, .error failure)
  | some rule, .ok triage =>
    let (store, recorded) := store.recordMailTriageDecision lowercase (some (triage.adopt rule))
      decidedAt actor (some "approved a rule the assistant proposed")
    store.markApproved recorded sequence decidedAt

/-- The owner's refusal of a proposal that stands undecided. -/
def refuseRule (store : TriageStore) (sequence : Nat) (decidedAt : String) :
    TriageStore × Except Failure (Option Triage) :=
  match store.markProposal sequence false decidedAt with
  | .error failure => (store, .error failure)
  | .ok store => (store, store.mailTriage.map some)

/-- The owner's decision on one proposal. -/
def decideRuleProposal (store : TriageStore) (sequence : Nat) (approve : Bool)
    (decidedAt actor : String) : TriageStore × Except Failure (Option Triage) :=
  match store.undecided sequence with
  | none => (store, .ok none)
  | some document =>
    if approve then store.approveRule lowercase sequence document decidedAt actor
    else store.refuseRule sequence decidedAt

end TriageStore

/-! ### Calls, statement by statement -/

/-- What a caller asks of the store. -/
inductive Request where
  | decide (sequence : Nat) (approve : Bool) (decidedAt actor : String)
  | record (triage : Option Triage) (occurredAt actor : String) (reason : Option String)

/-- How far a call has come. -/
inductive Stage where
  | begun
  | ruleRead (rule : Rule)
  | setRead (rule : Rule) (triage : Triage)
  | recorded
  | answered (triage : Triage)
  | refusing
  | refused
  | returned (answer : Except Failure (Option Triage))

/-- A call under way. What it has appended to the triage journal is kept beside it: the place
of the row, which no stage reads. -/
structure Call where
  request : Request
  stage : Stage
  written : Option Nat

namespace Call

def moveTo (call : Call) (stage : Stage) : Call := { call with stage := stage }

def fail (call : Call) (failure : Failure) : Call := call.moveTo (.returned (.error failure))

def append (store : TriageStore) (fails : Bool) (row : TriageRow) (call : Call) :
    TriageStore × Call :=
  if fails then (store, call.fail .statement)
  else (store.appendDecision row,
    { call with stage := .recorded, written := store.decisions.length })

/-- The statement of `record_mail_triage_decision` that follows the check. -/
def insertTriage (lowercase : String → String) (store : TriageStore) (fails : Bool)
    (triage : Option Triage) (occurredAt actor : String) (reason : Option String) (call : Call) :
    TriageStore × Call :=
  match TriageStore.checked lowercase triage with
  | .error failure => (store, call.fail failure)
  | .ok () => call.append store fails (TriageRow.write triage occurredAt actor reason)

/-- The first statement of `decide_rule_proposal`: the proposal, and the reading of its rule. -/
def readProposal (store : TriageStore) (sequence : Nat) (approve : Bool) (call : Call) : Call :=
  match store.undecided sequence with
  | none => call.moveTo (.returned (.ok none))
  | some document =>
    if approve then
      match Rule.read document with
      | none => call.fail .ruleUnreadable
      | some rule => call.moveTo (.ruleRead rule)
    else call.moveTo .refusing

def readSet (lowercase : String → String) (store : TriageStore) (rule : Rule) (call : Call) :
    Call :=
  match store.mailTriage with
  | .error failure => call.fail failure
  | .ok triage =>
    match TriageStore.checked lowercase (some (triage.adopt rule)) with
    | .error failure => call.fail failure
    | .ok () => call.moveTo (.setRead rule triage)

def readBack (store : TriageStore) (call : Call) : Call :=
  match store.mailTriage with
  | .error failure => call.fail failure
  | .ok triage =>
    match call.request with
    | .decide .. => call.moveTo (.answered triage)
    | .record .. => call.moveTo (.returned (.ok (some triage)))

def mark (store : TriageStore) (fails : Bool) (sequence : Nat) (approve : Bool)
    (decidedAt : String) (next : Stage) (call : Call) : TriageStore × Call :=
  if fails then (store, call.fail .statement)
  else match store.markProposal sequence approve decidedAt with
    | .error failure => (store, call.fail failure)
    | .ok store => (store, call.moveTo next)

def step (lowercase : String → String) (store : TriageStore) (fails : Bool) (call : Call) :
    TriageStore × Call :=
  match call.stage, call.request with
  | .begun, .record triage occurredAt actor reason =>
    call.insertTriage lowercase store fails triage occurredAt actor reason
  | .begun, .decide sequence approve _ _ =>
    (store, if fails then call.fail .statement else call.readProposal store sequence approve)
  | .ruleRead rule, _ =>
    (store, if fails then call.fail .statement else call.readSet lowercase store rule)
  | .setRead rule triage, .decide _ _ decidedAt actor =>
    call.append store fails (TriageRow.approval triage rule decidedAt actor)
  | .recorded, _ => (store, if fails then call.fail .statement else call.readBack store)
  | .answered triage, .decide sequence _ decidedAt _ =>
    call.mark store fails sequence true decidedAt (.returned (.ok (some triage)))
  | .refusing, .decide sequence _ decidedAt _ =>
    call.mark store fails sequence false decidedAt .refused
  | .refused, _ =>
    (store, if fails then call.fail .statement
      else call.moveTo (.returned (store.mailTriage.map some)))
  | _, _ => (store, call)

/-! ### What a call owes the journal -/

/-- Either a statement leaves the journal and the call's account of it alone, or it appends one
row and the call says where. -/
def Accounts (store : TriageStore) (call : Call) (reached : TriageStore × Call) : Prop :=
  (reached.1.decisions = store.decisions ∧ reached.2.written = call.written) ∨
    ∃ row, reached.1.decisions = store.decisions ++ [row] ∧
      reached.2.written = some store.decisions.length

theorem accounts_append (store : TriageStore) (fails : Bool) (row : TriageRow) (call : Call) :
    Accounts store call (call.append store fails row) := by
  cases fails with
  | true => exact Or.inl ⟨rfl, rfl⟩
  | false => exact Or.inr ⟨row, rfl, rfl⟩

theorem accounts_mark (store : TriageStore) (fails : Bool) (sequence : Nat) (approve : Bool)
    (decidedAt : String) (next : Stage) (call : Call) :
    Accounts store call (call.mark store fails sequence approve decidedAt next) := by
  unfold mark TriageStore.markProposal
  refine Or.inl ?_
  cases fails with
  | true => exact ⟨rfl, rfl⟩
  | false =>
    cases store.proposal sequence with
    | none => exact ⟨rfl, rfl⟩
    | some row =>
      by_cases proposed : row.state = .proposed
      · simp [proposed, TriageStore.withDecision, moveTo]
      · simp [proposed, fail, moveTo]

theorem written_readProposal (store : TriageStore) (sequence : Nat) (approve : Bool)
    (call : Call) : (call.readProposal store sequence approve).written = call.written := by
  unfold readProposal
  split
  · rfl
  · cases approve with
    | false => rfl
    | true => simp only [if_true]; split <;> rfl

theorem written_readSet (lowercase : String → String) (store : TriageStore) (rule : Rule)
    (call : Call) : (call.readSet lowercase store rule).written = call.written := by
  unfold readSet
  split
  · rfl
  · split <;> rfl

theorem written_readBack (store : TriageStore) (call : Call) :
    (call.readBack store).written = call.written := by
  unfold readBack
  split
  · rfl
  · split <;> rfl

theorem accounts_read (store : TriageStore) (fails : Bool) {call next : Call}
    (same : next.written = call.written) :
    Accounts store call (store, if fails then call.fail .statement else next) := by
  cases fails with
  | true => exact Or.inl ⟨rfl, rfl⟩
  | false => exact Or.inl ⟨rfl, same⟩

theorem accounts_step (lowercase : String → String) (store : TriageStore) (fails : Bool)
    (call : Call) : Accounts store call (call.step lowercase store fails) := by
  obtain ⟨request, stage, written⟩ := call
  cases stage with
  | begun =>
    cases request with
    | decide sequence approve decidedAt actor =>
      exact accounts_read store fails (written_readProposal ..)
    | record triage occurredAt actor reason =>
      show Accounts store _ (insertTriage lowercase store fails triage occurredAt actor reason _)
      unfold insertTriage
      cases TriageStore.checked lowercase triage with
      | error failure => exact Or.inl ⟨rfl, rfl⟩
      | ok checked => exact accounts_append ..
  | ruleRead rule => exact accounts_read store fails (written_readSet ..)
  | setRead rule triage =>
    cases request with
    | decide sequence approve decidedAt actor => exact accounts_append ..
    | record triage occurredAt actor reason => exact Or.inl ⟨rfl, rfl⟩
  | recorded => exact accounts_read store fails (written_readBack ..)
  | answered triage =>
    cases request with
    | decide sequence approve decidedAt actor => exact accounts_mark ..
    | record triage occurredAt actor reason => exact Or.inl ⟨rfl, rfl⟩
  | refusing =>
    cases request with
    | decide sequence approve decidedAt actor => exact accounts_mark ..
    | record triage occurredAt actor reason => exact Or.inl ⟨rfl, rfl⟩
  | refused => exact accounts_read store fails rfl
  | returned answer => exact Or.inl ⟨rfl, rfl⟩

/-! ### A call alone -/

/-- A number of statements of a call, with none of another's between them. -/
def alone (lowercase : String → String) : Nat → TriageStore → Call → TriageStore × Call
  | 0, store, call => (store, call)
  | count + 1, store, call =>
    let (after, next) := call.step lowercase store false
    alone lowercase count after next

/-- A call has come to the end its function comes to. -/
def Finishes (reached : TriageStore × Call)
    (result : TriageStore × Except Failure (Option Triage)) : Prop :=
  reached.1 = result.1 ∧ reached.2.stage = .returned result.2

theorem alone_returned (lowercase : String → String) (count : Nat) (store : TriageStore)
    (request : Request) (answer : Except Failure (Option Triage)) (written : Option Nat) :
    Finishes (alone lowercase count store ⟨request, .returned answer, written⟩)
      (store, answer) := by
  induction count with
  | zero => exact ⟨rfl, rfl⟩
  | succ count inductionHypothesis => exact inductionHypothesis

theorem alone_record (lowercase : String → String) (store : TriageStore)
    (triage : Option Triage) (occurredAt actor : String) (reason : Option String) :
    Finishes (alone lowercase 2 store ⟨.record triage occurredAt actor reason, .begun, none⟩)
      ((store.recordMailTriageDecision lowercase triage occurredAt actor reason).1,
        (store.recordMailTriageDecision lowercase triage occurredAt actor reason).2.map some) := by
  show Finishes (alone lowercase 1
    (insertTriage lowercase store false triage occurredAt actor reason _).1
    (insertTriage lowercase store false triage occurredAt actor reason _).2) _
  unfold insertTriage TriageStore.recordMailTriageDecision
  cases TriageStore.checked lowercase triage with
  | error failure => exact alone_returned lowercase 1 store _ (.error failure) none
  | ok checked =>
    let row := TriageRow.write triage occurredAt actor reason
    show Finishes (store.appendDecision row, readBack (store.appendDecision row) _)
      (store.appendDecision row, (store.appendDecision row).mailTriage.map some)
    unfold readBack
    cases (store.appendDecision row).mailTriage with
    | error failure => exact ⟨rfl, rfl⟩
    | ok triage => exact ⟨rfl, rfl⟩

theorem alone_answered (lowercase : String → String) (store : TriageStore) (sequence : Nat)
    (decidedAt actor : String) (triage : Triage) (written : Option Nat) :
    Finishes (alone lowercase 1 store
        ⟨.decide sequence true decidedAt actor, .answered triage, written⟩)
      (store.markApproved (.ok triage) sequence decidedAt) := by
  show Finishes (mark store false sequence true decidedAt (.returned (.ok (some triage))) _)
    (match store.markProposal sequence true decidedAt with
      | .error failure => (store, .error failure)
      | .ok store => (store, .ok (some triage)))
  unfold mark
  rw [if_neg Bool.false_ne_true]
  cases store.markProposal sequence true decidedAt with
  | error failure => exact ⟨rfl, rfl⟩
  | ok after => exact ⟨rfl, rfl⟩

theorem alone_setRead (lowercase : String → String) (store after : TriageStore)
    (sequence : Nat) (decidedAt actor : String) (rule : Rule) (triage : Triage)
    (appended : after = store.appendDecision (TriageRow.approval triage rule decidedAt actor)) :
    Finishes (alone lowercase 3 store
        ⟨.decide sequence true decidedAt actor, .setRead rule triage, none⟩)
      (after.markApproved after.mailTriage sequence decidedAt) := by
  show Finishes (alone lowercase 1
    (store.appendDecision (TriageRow.approval triage rule decidedAt actor))
    (readBack (store.appendDecision (TriageRow.approval triage rule decidedAt actor)) _)) _
  rw [← appended]
  unfold readBack
  cases after.mailTriage with
  | error failure =>
    exact alone_returned lowercase 1 after _ (.error failure) (some store.decisions.length)
  | ok answer => exact alone_answered lowercase after sequence decidedAt actor answer _

theorem alone_ruleRead (lowercase : String → String) (store : TriageStore) (sequence : Nat)
    (document : Json) (decidedAt actor : String) (rule : Rule)
    (read : Rule.read document = some rule) :
    Finishes (alone lowercase 4 store
        ⟨.decide sequence true decidedAt actor, .ruleRead rule, none⟩)
      (store.approveRule lowercase sequence document decidedAt actor) := by
  show Finishes (alone lowercase 3 store (readSet lowercase store rule _)) _
  unfold readSet TriageStore.approveRule
  rw [read]
  cases store.mailTriage with
  | error failure => exact alone_returned lowercase 3 store _ (.error failure) none
  | ok triage =>
    show Finishes (alone lowercase 3 store
      (match TriageStore.checked lowercase (some (triage.adopt rule)) with
        | .error failure => fail _ failure
        | .ok () => moveTo _ (.setRead rule triage)))
      (TriageStore.markApproved
        (store.recordMailTriageDecision lowercase (some (triage.adopt rule)) decidedAt actor
          (some "approved a rule the assistant proposed")).1
        (store.recordMailTriageDecision lowercase (some (triage.adopt rule)) decidedAt actor
          (some "approved a rule the assistant proposed")).2 sequence decidedAt)
    unfold TriageStore.recordMailTriageDecision
    cases TriageStore.checked lowercase (some (triage.adopt rule)) with
    | error failure => exact alone_returned lowercase 3 store _ (.error failure) none
    | ok checked => exact alone_setRead lowercase store _ sequence decidedAt actor rule triage rfl

theorem alone_refusing (lowercase : String → String) (store : TriageStore) (sequence : Nat)
    (decidedAt actor : String) :
    Finishes (alone lowercase 4 store
        ⟨.decide sequence false decidedAt actor, .refusing, none⟩)
      (store.refuseRule sequence decidedAt) := by
  show Finishes (alone lowercase 3
    (mark store false sequence false decidedAt .refused _).1
    (mark store false sequence false decidedAt .refused _).2) _
  unfold mark TriageStore.refuseRule
  rw [if_neg Bool.false_ne_true]
  cases store.markProposal sequence false decidedAt with
  | error failure => exact alone_returned lowercase 3 store _ (.error failure) none
  | ok after => exact alone_returned lowercase 2 after _ (after.mailTriage.map some) none

theorem alone_decide (lowercase : String → String) (store : TriageStore) (sequence : Nat)
    (approve : Bool) (decidedAt actor : String) :
    Finishes (alone lowercase 5 store
        ⟨.decide sequence approve decidedAt actor, .begun, none⟩)
      (store.decideRuleProposal lowercase sequence approve decidedAt actor) := by
  show Finishes (alone lowercase 4 store (readProposal store sequence approve _)) _
  unfold readProposal TriageStore.decideRuleProposal
  cases store.undecided sequence with
  | none => exact alone_returned lowercase 4 store _ (.ok none) none
  | some document =>
    cases approve with
    | false => exact alone_refusing lowercase store sequence decidedAt actor
    | true =>
      show Finishes (alone lowercase 4 store
        (match Rule.read document with
          | none => fail _ .ruleUnreadable
          | some rule => moveTo _ (.ruleRead rule)))
        (store.approveRule lowercase sequence document decidedAt actor)
      cases read : Rule.read document with
      | none =>
        unfold TriageStore.approveRule
        rw [read]
        exact alone_returned lowercase 4 store _ (.error .ruleUnreadable) none
      | some rule => exact alone_ruleRead lowercase store sequence document decidedAt actor rule read

end Call

/-! ### Calls side by side -/

structure Desk where
  store : TriageStore
  calls : List Call

namespace Desk

/-- What happens at the store: a rule is proposed, a call begins, or one of the calls takes its
next statement. -/
inductive DeskStep where
  | propose (rule : Rule) (because : Option String) (proposedAt : String)
  | call (request : Request)
  | advance (index : Nat) (fails : Bool)

def start (store : TriageStore) : Desk := ⟨store, []⟩

def step (lowercase : String → String) (desk : Desk) : DeskStep → Desk
  | .propose rule because proposedAt =>
    { desk with store := desk.store.recordRuleProposal rule because proposedAt }
  | .call request => { desk with calls := desk.calls ++ [⟨request, .begun, none⟩] }
  | .advance index fails =>
    match desk.calls[index]? with
    | none => desk
    | some call =>
      let (store, call) := call.step lowercase desk.store fails
      ⟨store, desk.calls.set index call⟩

end Desk

end Twalk.Proposals
