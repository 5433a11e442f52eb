/-
This file sets what the approval screen says of a suggestion beside what an attempt to approve it at
the same instant comes to. Both decide from the row of the approval and from the instant: the screen
by whether there is a row, and then by the expiry; the attempt by the expiry, and then by whether
the row is marked. The row comes before the publication, so a row without a reply on the bus is
where they part; without a row they part only where the attempt is not delivered what the screen
shows.
-/

import Twalk.ApprovalRuns
import Twalk.ListingReads

namespace Twalk.Shown

open Consent Store Approval

/-! ### A suggestion on the screen and an attempt to approve it -/

section Beside

variable (instant : String → Option Int) (suggestion : String) (approvals : Approvals)

structure Beside where
  entry : Entry
  failing : String → Option String
  call : Call
  listed : Listed
  ofSuggestion : entry.1.id = suggestion
  isListed : (showing approvals).settle ⟨instant, call.now, failing⟩ entry = .ok listed
  about : call.request.suggestionEventId = suggestion

variable {instant suggestion approvals}

def isExpired : Refusal → Bool
  | .expired _ _ => true
  | _ => false

def isAlreadyApproved : Refusal → Bool
  | .alreadyApproved _ => true
  | _ => false

def Beside.Refused (beside : Beside instant suggestion approvals) (way : Refusal → Bool) : Prop :=
  ∃ refusal, (approvals.approve instant beside.call).answer = some (.error refusal) ∧
    way refusal = true

/-- The screen tells what the attempt finds. -/
structure Beside.Agrees (beside : Beside instant suggestion approvals) : Prop where
  approved : beside.listed.standing = .approved →
    replies suggestion approvals.owner approvals ≠ []
  expired : beside.listed.standing = .expired ↔
    beside.Refused isExpired ∧ replies suggestion approvals.owner approvals = []
  approvable : beside.listed.standing = .approvable →
    ¬beside.Refused isExpired ∧ ¬beside.Refused isAlreadyApproved

def Stale (instant : String → Option Int) (expiresAt : Option String) (now : String) : Prop :=
  ∃ expires ∈ expiresAt, hasPassed instant expires now = true

/-- A document an approval can read: its values are the contract's, and its connection is one of the
registry's. -/
structure Acceptable (registry : Registry) (document : Approval.SuggestionDocument) : Prop where
  connection : ∃ network, Network.parse document.network = some network ∧
    ∃ connection, registry.resolve document.connection network.asStr = .ok connection
  consent : State.parse document.consent ≠ none
  format : Format.parse document.format ≠ none
  disclosure : ∀ sentence ∈ document.disclosure, isContractSentence sentence = true

/-- The attempt is made by whoever may approve, and the first document of the suggestion it is
delivered is one it can read and has passed its expiry. -/
def Beside.FindsStale (beside : Beside instant suggestion approvals) : Prop :=
  (∀ stated ∈ beside.call.request.approvedBy, stated = approvals.owner) ∧
    beside.call.reads.bus = none ∧
    ∃ upTo found, beside.call.reads.suggestion = .delivers upTo ∧
      (lookedUp approvals upTo).find? (fun entry => entry.1.id == suggestion) = some found ∧
      Acceptable approvals.connections found.1 ∧
      Stale instant found.1.expiresAt beside.call.now

/-- A row stands only beside a reply on the bus; and without one the document on the screen has
passed its expiry where the attempt finds one that has. -/
structure Beside.Told (beside : Beside instant suggestion approvals) : Prop where
  row : approvals.store.approval suggestion ≠ none →
    replies suggestion approvals.owner approvals ≠ []
  expiry : approvals.store.approval suggestion = none →
    (Stale instant beside.entry.1.expiresAt beside.call.now ↔ beside.FindsStale)

end Beside

/-! ### What a refusal of an attempt says -/

variable {expiresAt : Option String} {now : String}

variable {refusal : Refusal}

section Refusals

variable {instant : String → Option Int} {approvals : Approvals}

def Otherwise (refusal : Refusal) : Prop :=
  isExpired refusal = false ∧ isAlreadyApproved refusal = false

variable {failure : Option String}

theorem otherwise_of_attempted {asks : String → Refusal} (each : ∀ detail, Otherwise (asks detail))
    (refused : attempted failure asks = .error refusal) : Otherwise refusal := by
  cases failure with
  | none => cases refused
  | some detail =>
    cases refused
    exact each detail

theorem otherwise_of_checkApprover {approvedBy : Option String}
    (refused : approvals.checkApprover approvedBy = .error refusal) : Otherwise refusal := by
  unfold Approvals.checkApprover at refused
  split at refused
  · cases refused
  · split at refused
    · cases refused
    · cases refused
      exact ⟨rfl, rfl⟩

variable {read : BusRead}

theorem otherwise_of_scan {Value : Type} {bus : Bus} {window : Nat} {subject : String}
    {anchor : Option Nat} {accepts : Json → Option Value}
    (refused : bus.scan window read subject anchor accepts = .error refusal) :
    Otherwise refusal := by
  unfold Bus.scan at refused
  cases read with
  | fails detail =>
    cases refused
    exact ⟨rfl, rfl⟩
  | delivers upTo =>
    dsimp only at refused
    split at refused
    · cases refused
    · split at refused <;> cases refused

theorem otherwise_of_findSuggestion {id : String}
    (refused : approvals.findSuggestion read id = .error refusal) : Otherwise refusal := by
  obtain isScan | ⟨outcome, -, rest⟩ := bind_eq_error.mp refused
  · exact otherwise_of_scan isScan
  · cases outcome with
    | hit document sequence =>
      obtain ⟨why, rfl⟩ := unreadable_of_suggestionOf approvals rest
      exact ⟨rfl, rfl⟩
    | nothing exhaustive =>
      cases exhaustive <;>
      · cases rest
        exact ⟨rfl, rfl⟩

theorem otherwise_of_targetOf {document : TriggerDocument} {connection : String}
    (refused : targetOf document connection = .error refusal) :
    Otherwise refusal := by
  unfold targetOf at refused
  repeat' split at refused
  all_goals
    cases refused
    try exact ⟨rfl, rfl⟩

variable {suggestion : Suggestion}

theorem otherwise_of_findTrigger (refused : approvals.findTrigger read suggestion = .error refusal)
    : Otherwise refusal := by
  obtain isScan | ⟨outcome, -, rest⟩ := bind_eq_error.mp refused
  · exact otherwise_of_scan isScan
  · cases outcome with
    | hit document sequence =>
      obtain isConnection | ⟨connection, -, rest⟩ := bind_eq_error.mp rest
      · unfold connectionOf at isConnection
        split at isConnection
        · cases isConnection
        · cases isConnection
          exact ⟨rfl, rfl⟩
      · obtain isTarget | ⟨target, -, rest⟩ := bind_eq_error.mp rest
        · exact otherwise_of_targetOf isTarget
        · cases rest
    | nothing exhaustive =>
      cases exhaustive <;>
      · cases rest
        exact ⟨rfl, rfl⟩

theorem of_checkExpiry (refused : Approvals.checkExpiry instant expiresAt now = .error refusal) :
    Stale instant expiresAt now ∧ isAlreadyApproved refusal = false := by
  unfold Approvals.checkExpiry at refused
  split at refused
  · cases refused
  · split at refused
    · rename_i expires hasIt
      cases refused
      exact ⟨⟨_, rfl, hasIt⟩, rfl⟩
    · cases refused

theorem exists_checkExpiry_of_stale (stale : Stale instant expiresAt now) :
    ∃ refusal, Approvals.checkExpiry instant expiresAt now = .error refusal ∧
      isExpired refusal = true := by
  obtain ⟨expires, rfl, passed⟩ := stale
  exact ⟨.expired expires now, if_pos passed, rfl⟩

theorem otherwise_of_checkLabel {label : State}
    (refused : Approvals.checkLabel label = .error refusal) : Otherwise refusal := by
  unfold Approvals.checkLabel at refused
  split at refused
  · cases refused
  · cases refused
    exact ⟨rfl, rfl⟩

theorem otherwise_of_readConsent {contact : String}
    (refused : approvals.readConsent failure contact = .error refusal) : Otherwise refusal := by
  unfold Approvals.readConsent at refused
  split at refused
  · cases refused
  · exact otherwise_of_attempted (fun _ => ⟨rfl, rfl⟩) refused

theorem otherwise_of_consentNow {contact connection : String} {network : Network}
    (refused : approvals.consentNow contact connection network = .error refusal) :
    Otherwise refusal := by
  unfold Approvals.consentNow at refused
  split at refused <;> cases refused <;> exact ⟨rfl, rfl⟩

theorem otherwise_of_checkFits {body : String} {disclosure : Option String}
    (refused : Approvals.checkFits body disclosure = .error refusal) : Otherwise refusal := by
  unfold Approvals.checkFits at refused
  split at refused
  · cases refused
  · split at refused
    · cases refused
    · cases refused
      exact ⟨rfl, rfl⟩

theorem of_checkNotApproved {id : String} (refused : approvals.checkNotApproved id = .error refusal)
    :
    approvals.store.approval id ≠ none ∧ isExpired refusal = false := by
  unfold Approvals.checkNotApproved at refused
  split at refused
  · cases refused
  · rename_i row isRow
    split at refused
    · cases refused
      exact ⟨by rw [isRow]; exact Option.some_ne_none row, rfl⟩
    · cases refused

theorem otherwise_of_connectionCanSend {connection : String}
    (refused : approvals.connectionCanSend connection = .error refusal) : Otherwise refusal := by
  unfold Approvals.connectionCanSend at refused
  repeat' split at refused
  all_goals
    cases refused
    try exact ⟨rfl, rfl⟩

variable {document : Approval.SuggestionDocument}

theorem expiresAt_of_suggestionOf {sequence : Nat}
    (isSuggestion : approvals.suggestionOf document sequence = .ok suggestion) :
    suggestion.expiresAt = document.expiresAt := by
  obtain ⟨network, -, rest⟩ := bind_eq_ok.mp isSuggestion
  obtain ⟨label, -, rest⟩ := bind_eq_ok.mp rest
  obtain ⟨format, -, rest⟩ := bind_eq_ok.mp rest
  obtain ⟨connection, -, rest⟩ := bind_eq_ok.mp rest
  obtain ⟨disclosure, -, made⟩ := bind_eq_ok.mp rest
  cases made
  rfl

theorem readable_eq_ok_iff {Value : Type} {why : Unreadable} {found : Option Value}
    {value : Value} : readable why found = .ok value ↔ found = some value := by
  cases found with
  | none => exact ⟨nofun, nofun⟩
  | some other => exact ⟨fun same => congrArg some (Except.ok.inj same),
      fun same => congrArg Except.ok (Option.some.inj same)⟩

theorem acceptable_iff {sequence : Nat} :
    (∃ suggestion, approvals.suggestionOf document sequence = .ok suggestion) ↔
      Acceptable approvals.connections document := by
  constructor
  · rintro ⟨suggestion, isSuggestion⟩
    obtain ⟨network, isNetwork, rest⟩ := bind_eq_ok.mp isSuggestion
    obtain ⟨label, isLabel, rest⟩ := bind_eq_ok.mp rest
    obtain ⟨format, isFormat, rest⟩ := bind_eq_ok.mp rest
    obtain ⟨connection, isConnection, rest⟩ := bind_eq_ok.mp rest
    obtain ⟨disclosure, isDisclosure, -⟩ := bind_eq_ok.mp rest
    refine ⟨⟨network, readable_eq_ok_iff.mp isNetwork, ?_⟩, ?_, ?_, ?_⟩
    · unfold connectionOf at isConnection
      split at isConnection
      · rename_i known isKnown
        exact ⟨known, isKnown⟩
      · cases isConnection
    · rw [readable_eq_ok_iff.mp isLabel]
      exact Option.some_ne_none label
    · rw [readable_eq_ok_iff.mp isFormat]
      exact Option.some_ne_none format
    · intro sentence isSentence
      rw [show document.disclosure = some sentence from isSentence] at isDisclosure
      unfold contractSentence at isDisclosure
      dsimp only at isDisclosure
      split at isDisclosure
      · assumption
      · cases isDisclosure
  · rintro ⟨⟨network, isNetwork, connection, isConnection⟩, hasLabel, hasFormat, ofContract⟩
    obtain ⟨label, isLabel⟩ := Option.ne_none_iff_exists'.mp hasLabel
    obtain ⟨format, isFormat⟩ := Option.ne_none_iff_exists'.mp hasFormat
    have isDisclosed : contractSentence document.disclosure = .ok document.disclosure := by
      cases disclosed : document.disclosure with
      | none => rfl
      | some sentence => exact if_pos (ofContract sentence disclosed)
    have resolved : connectionOf approvals.connections document.connection network =
        .ok connection.id := by
      unfold connectionOf
      rw [isConnection]
    unfold Approvals.suggestionOf
    rw [readable_eq_ok_iff.mpr isNetwork, readable_eq_ok_iff.mpr isLabel,
      readable_eq_ok_iff.mpr isFormat, isDisclosed]
    show ∃ suggestion, (connectionOf approvals.connections document.connection network >>= _) =
      .ok suggestion
    rw [resolved]
    exact ⟨_, rfl⟩

end Refusals

/-! ### When an attempt is refused as too late -/

section Beside

variable {instant : String → Option Int} {suggestion : String} {approvals : Approvals}

theorem Beside.of_approvable (beside : Beside instant suggestion approvals)
    (refused : approvals.approvable instant beside.call.request beside.call.now
      beside.call.reads = .error refusal) :
    (isExpired refusal = true → beside.FindsStale) ∧
      (isAlreadyApproved refusal = true → approvals.store.approval suggestion ≠ none) := by
  have neither : Otherwise refusal → (isExpired refusal = true → beside.FindsStale) ∧
      (isAlreadyApproved refusal = true → approvals.store.approval suggestion ≠ none) := by
    rintro ⟨notExpired, notApproved⟩
    rw [notExpired, notApproved]
    exact ⟨nofun, nofun⟩
  obtain isPrepared | ⟨approved, prepared, rest⟩ := bind_eq_error.mp refused
  · obtain isApprover | ⟨_, approver, rest⟩ := bind_eq_error.mp isPrepared
    · exact neither (otherwise_of_checkApprover isApprover)
    obtain isBus | ⟨_, bus, rest⟩ := bind_eq_error.mp rest
    · exact neither (otherwise_of_attempted (fun _ => ⟨rfl, rfl⟩) isBus)
    obtain isFound | ⟨found, isFound, rest⟩ := bind_eq_error.mp rest
    · exact neither (otherwise_of_findSuggestion isFound)
    obtain isStale | ⟨_, -, rest⟩ := bind_eq_error.mp rest
    · obtain ⟨stale, notApproved⟩ := of_checkExpiry isStale
      obtain ⟨upTo, entry, isDelivered, isFirst, isSuggestion⟩ :=
        (findSuggestion_eq_ok_iff approvals).mp isFound
      rw [expiresAt_of_suggestionOf isSuggestion] at stale
      rw [beside.about] at isFirst
      refine ⟨fun _ => ⟨Approvals.checkApprover_eq_ok_iff.mp approver, ?_, upTo, entry,
        isDelivered, isFirst, acceptable_iff.mp ⟨found, isSuggestion⟩, stale⟩, ?_⟩
      · -- The bus could be reached.
        cases failing : beside.call.reads.bus with
        | none => rfl
        | some detail =>
          rw [failing] at bus
          cases bus
      · rw [notApproved]
        exact nofun
    obtain isLabel | ⟨_, -, rest⟩ := bind_eq_error.mp rest
    · exact neither (otherwise_of_checkLabel isLabel)
    obtain isTrigger | ⟨trigger, -, rest⟩ := bind_eq_error.mp rest
    · exact neither (otherwise_of_findTrigger isTrigger)
    obtain isRead | ⟨_, -, rest⟩ := bind_eq_error.mp rest
    · exact neither (otherwise_of_readConsent isRead)
    obtain isConsent | ⟨_, -, rest⟩ := bind_eq_error.mp rest
    · exact neither (otherwise_of_consentNow isConsent)
    obtain isSwitch | ⟨_, -, rest⟩ := bind_eq_error.mp rest
    · exact neither (otherwise_of_attempted (fun _ => ⟨rfl, rfl⟩) isSwitch)
    obtain isFits | ⟨_, -, rest⟩ := bind_eq_error.mp rest
    · exact neither (otherwise_of_checkFits isFits)
    cases rest
  · obtain isStore | ⟨_, -, rest⟩ := bind_eq_error.mp rest
    · exact neither (otherwise_of_attempted (fun _ => ⟨rfl, rfl⟩) isStore)
    obtain isApproved | ⟨_, -, rest⟩ := bind_eq_error.mp rest
    · obtain ⟨stands, notExpired⟩ := of_checkNotApproved isApproved
      have named := (Approvals.eventId_of_findSuggestion
        (Approvals.passed_of_prepared prepared).found).trans beside.about
      rw [named] at stands
      rw [notExpired]
      exact ⟨nofun, fun _ => stands⟩
    obtain isStatus | ⟨_, -, rest⟩ := bind_eq_error.mp rest
    · exact neither (otherwise_of_attempted (fun _ => ⟨rfl, rfl⟩) isStatus)
    obtain isConnection | ⟨_, -, rest⟩ := bind_eq_error.mp rest
    · exact neither (otherwise_of_connectionCanSend isConnection)
    cases rest

theorem Beside.FindsStale.exists_refusal {beside : Beside instant suggestion approvals}
    (finds : beside.FindsStale) :
    ∃ refusal, approvals.approvable instant beside.call.request beside.call.now
      beside.call.reads = .error refusal ∧ isExpired refusal = true := by
  obtain ⟨approver, bus, upTo, entry, isDelivered, isFirst, acceptable, stale⟩ := finds
  obtain ⟨found, isSuggestion⟩ := acceptable_iff.mpr acceptable
  rw [← expiresAt_of_suggestionOf isSuggestion] at stale
  obtain ⟨refusal, refused, expired⟩ := exists_checkExpiry_of_stale stale
  refine ⟨refusal, bind_eq_error.mpr (.inl ?_), expired⟩
  refine bind_eq_error.mpr (.inr ⟨(), Approvals.checkApprover_eq_ok_iff.mpr approver, ?_⟩)
  refine bind_eq_error.mpr (.inr ⟨(), by rw [bus]; rfl, ?_⟩)
  refine bind_eq_error.mpr (.inr ⟨found, ?_, bind_eq_error.mpr (.inl refused)⟩)
  rw [beside.about]
  exact (findSuggestion_eq_ok_iff approvals).mpr ⟨upTo, entry, isDelivered, isFirst, isSuggestion⟩

theorem otherwise_of_deliver {approved : Approved} {recording : Recording}
    (refused : (approvals.deliver approved now recording).answer = some (.error refusal)) :
    Otherwise refusal := by
  unfold Approvals.deliver at refused
  cases recording with
  | fails detail =>
    cases refused
    exact ⟨rfl, rfl⟩
  | succeeds publication =>
    cases recorded : approvals.store.recordApproval (approved.row now) with
    | none =>
      rw [recorded] at refused
      cases refused
      exact ⟨rfl, rfl⟩
    | some store =>
      rw [recorded] at refused
      cases publication with
      | stops => cases refused
      | refused detail =>
        cases refused
        exact ⟨rfl, rfl⟩
      | unacknowledged detail =>
        cases refused
        exact ⟨rfl, rfl⟩
      | acknowledged marking =>
        cases marking with
        | stops => cases refused
        | fails detail =>
          cases refused
          exact ⟨rfl, rfl⟩
        | completes publishedAt => cases refused

theorem Beside.refused_iff (beside : Beside instant suggestion approvals) {way : Refusal → Bool}
    (notOtherwise : ∀ refusal, Otherwise refusal → way refusal = false) :
    beside.Refused way ↔ ∃ refusal, approvals.approvable instant beside.call.request
      beside.call.now beside.call.reads = .error refusal ∧ way refusal = true := by
  constructor
  · rintro ⟨refusal, answered, isWay⟩
    cases asked : approvals.approvable instant beside.call.request beside.call.now
      beside.call.reads with
    | error other =>
      rw [Approvals.approve_of_refused asked] at answered
      cases answered
      exact ⟨refusal, rfl, isWay⟩
    | ok approved =>
      rw [Approvals.approve_of_approvable asked] at answered
      rw [notOtherwise refusal (otherwise_of_deliver answered)] at isWay
      cases isWay
  · rintro ⟨refusal, asked, isWay⟩
    refine ⟨refusal, ?_, isWay⟩
    rw [Approvals.approve_of_refused asked]

theorem Beside.refused_expired_iff (beside : Beside instant suggestion approvals) :
    beside.Refused isExpired ↔ beside.FindsStale := by
  rw [beside.refused_iff fun _ otherwise => otherwise.1]
  constructor
  · rintro ⟨refusal, asked, expired⟩
    exact (beside.of_approvable asked).1 expired
  · exact fun finds => finds.exists_refusal

theorem Beside.stands_of_refused (beside : Beside instant suggestion approvals)
    (refused : beside.Refused isAlreadyApproved) :
    approvals.store.approval suggestion ≠ none := by
  obtain ⟨refusal, asked, already⟩ :=
    (beside.refused_iff fun _ otherwise => otherwise.2).mp refused
  exact (beside.of_approvable asked).2 already

/-! ### What the screen says -/

theorem Beside.standing_eq (beside : Beside instant suggestion approvals) :
    beside.listed.standing = standing instant (approvals.store.approval suggestion)
      beside.entry.1.expiresAt beside.call.now := by
  obtain ⟨network, -, rest⟩ := bind_eq_ok.mp beside.isListed
  obtain ⟨label, -, rest⟩ := bind_eq_ok.mp rest
  obtain ⟨format, -, rest⟩ := bind_eq_ok.mp rest
  obtain ⟨_, -, made⟩ := bind_eq_ok.mp rest
  have sameRow := congrArg (fun id => standing instant (approvals.store.approval id)
    beside.entry.1.expiresAt beside.call.now) beside.ofSuggestion
  exact (congrArg Listed.standing (Except.ok.inj made)).symm.trans sameRow

theorem standing_of_row {approval : Option RecordedApproval} (stands : approval ≠ none)
    (expiresAt : Option String) (now : String) :
    standing instant approval expiresAt now = .approved :=
  if_pos (Option.isSome_iff_ne_none.mpr stands)

theorem standing_of_stale (stale : Stale instant expiresAt now) :
    standing instant none expiresAt now = .expired := by
  obtain ⟨expires, rfl, passed⟩ := stale
  exact if_pos passed

theorem standing_of_fresh (fresh : ¬Stale instant expiresAt now) :
    standing instant none expiresAt now = .approvable := by
  cases expiresAt with
  | none => rfl
  | some expires => exact if_neg fun passed => fresh ⟨expires, rfl, passed⟩

theorem Beside.agrees_iff_told (beside : Beside instant suggestion approvals)
    (unsent : approvals.store.approval suggestion = none →
      replies suggestion approvals.owner approvals = []) : beside.Agrees ↔ beside.Told := by
  cases stands : approvals.store.approval suggestion with
  | some row =>
    have hasRow : approvals.store.approval suggestion ≠ none := stands ▸ Option.some_ne_none row
    have isApproved : beside.listed.standing = .approved :=
      beside.standing_eq.trans (standing_of_row hasRow _ _)
    constructor
    · exact fun agrees => ⟨fun _ => agrees.approved isApproved, fun absent => absurd absent hasRow⟩
    · intro told
      refine ⟨fun _ => told.row hasRow, ⟨fun expired => ?_, fun ⟨_, noReply⟩ => ?_⟩, ?_⟩
      · rw [isApproved] at expired
        cases expired
      · exact absurd noReply (told.row hasRow)
      · intro approvable
        rw [isApproved] at approvable
        cases approvable
  | none =>
    have isStanding := beside.standing_eq
    rw [stands] at isStanding
    have notApproved : ¬beside.Refused isAlreadyApproved :=
      fun refused => beside.stands_of_refused refused stands
    have whetherStale : beside.listed.standing = .expired ↔
        Stale instant beside.entry.1.expiresAt beside.call.now := by
      by_cases stale : Stale instant beside.entry.1.expiresAt beside.call.now
      · exact iff_of_true (isStanding.trans (standing_of_stale stale)) stale
      · refine iff_of_false (fun expired => ?_) stale
        rw [isStanding, standing_of_fresh stale] at expired
        cases expired
    constructor
    · intro agrees
      refine ⟨fun hasRow => absurd stands hasRow, fun _ => ?_⟩
      rw [← whetherStale, agrees.expired, beside.refused_expired_iff]
      exact and_iff_left (unsent stands)
    · intro told
      have finds := told.expiry stands
      refine ⟨fun approved => ?_, ?_, fun approvable => ⟨fun refused => ?_, notApproved⟩⟩
      · by_cases stale : Stale instant beside.entry.1.expiresAt beside.call.now
        · rw [isStanding, standing_of_stale stale] at approved
          cases approved
        · rw [isStanding, standing_of_fresh stale] at approved
          cases approved
      · rw [whetherStale, beside.refused_expired_iff, finds]
        exact (and_iff_left (unsent stands)).symm
      · have expired := whetherStale.mpr (finds.mpr (beside.refused_expired_iff.mp refused))
        rw [expired] at approvable
        cases approvable

end Beside

/-! ### Over the attempts on a suggestion -/

section Runs

variable {suggestion owner : String} {instant : String → Option Int} {approvals : Approvals}

theorem approval_ne_none_iff {store : ApprovalStore} :
    store.approval suggestion ≠ none ↔
      ∃ row ∈ store.approvals, row.suggestionEventId = suggestion := by
  unfold ApprovalStore.approval
  rw [Ne, List.find?_eq_none, not_forall]
  constructor
  · rintro ⟨row, named⟩
    obtain ⟨member, isNamed⟩ := Classical.not_imp.mp named
    exact ⟨row, member, eq_of_beq (not_not.mp isNamed)⟩
  · rintro ⟨row, member, isNamed⟩
    exact ⟨row, fun absent => absent member (isNamed ▸ beq_self_eq_true row.suggestionEventId)⟩

/-- A reply is on the bus only beside a row. -/
def Recorded (suggestion owner : String) (approvals : Approvals) : Prop :=
  approvals.bus.stream.held (approvalId suggestion owner) ≠ none →
    approvals.store.approval suggestion ≠ none

theorem approval_publishReply (stands : approvals.store.approval suggestion ≠ none)
    (approved : Approved) (now : String) (publication : Publication) :
    (approvals.publishReply approved now publication).after.store.approval suggestion ≠ none := by
  cases publication with
  | stops => exact stands
  | refused detail => exact stands
  | unacknowledged detail => exact stands
  | acknowledged marking =>
    cases marking with
    | stops => exact stands
    | fails detail => exact stands
    | completes publishedAt =>
      obtain ⟨row, member, named⟩ := approval_ne_none_iff.mp stands
      refine approval_ne_none_iff.mpr ⟨_, List.mem_map_of_mem member, ?_⟩
      unfold ApprovalStore.markRow
      split <;> exact named

theorem approval_of_recordApproval (settled : Settled suggestion owner approvals)
    {approved : Approved} (approves : Approves suggestion owner approved) {store : ApprovalStore}
    (recorded : approvals.store.recordApproval (approved.row now) = some store) :
    store.approval suggestion ≠ none := by
  unfold ApprovalStore.recordApproval at recorded
  split at recorded
  · rename_i held
    cases recorded
    obtain ⟨row, member, same⟩ := List.any_eq_true.mp held
    exact approval_ne_none_iff.mpr ⟨row, member,
      (settled.rows row member).mpr ((eq_of_beq same).trans approves.eventId_eq)⟩
  · split at recorded
    · cases recorded
    · cases recorded
      exact approval_ne_none_iff.mpr ⟨approved.row now,
        List.mem_append_right _ List.mem_cons_self, approves.1⟩

theorem recorded_step (state : Approvals) (next : AttemptStep suggestion owner)
    (settled : Settled suggestion owner state) (recorded : Recorded suggestion owner state) :
    Recorded suggestion owner (attemptStep instant state next) := by
  cases next with
  | settings consent disclosureDecisions statusChanges connections => exact recorded
  | traffic messageId message other unrelated =>
    intro isHeld
    refine recorded fun notHeld => isHeld ?_
    exact MessageStream.held_publish_of_ne other.symm notHeld message
  | attempt call about =>
    show Recorded suggestion owner (state.approve instant call).after
    cases asked : state.approvable instant call.request call.now call.reads with
    | error refusal =>
      rw [Approvals.approve_of_refused asked]
      exact recorded
    | ok approved =>
      rw [Approvals.approve_of_approvable asked]
      have approves := settled.approves about (Approvals.prepared_of_approvable asked).1
      unfold Approvals.deliver
      cases call.recording with
      | fails detail => exact recorded
      | succeeds publication =>
        cases isRecorded : state.store.recordApproval (approved.row call.now) with
        | none => exact recorded
        | some store =>
          exact fun _ => approval_publishReply
            (approval_of_recordApproval settled approves isRecorded) approved call.now publication

theorem replies_of_unrecorded (settled : Settled suggestion owner approvals)
    (recorded : Recorded suggestion owner approvals)
    (absent : approvals.store.approval suggestion = none) :
    replies suggestion approvals.owner approvals = [] := by
  rw [settled.ofOwner]
  refine List.filter_eq_nil_iff.mpr fun message onBus isReply => ?_
  have named := settled.named message onBus (of_decide_eq_true isReply)
  have held := MessageStream.held_of_mem onBus
  rw [named] at held
  exact recorded (held ▸ Option.some_ne_none message) absent

/-- After any attempts on a suggestion that was never approved, the screen tells what the next one
would find exactly where a row stands beside a reply, or none does and both see the same expiry. -/
theorem tells_iff (instant : String → Option Int) (start : Unapproved suggestion owner)
    (steps : List (AttemptStep suggestion owner))
    (beside : Beside instant suggestion (run (attemptStep instant) start.approvals steps)) :
    beside.Agrees ↔ beside.Told := by
  have unrecorded : Recorded suggestion owner start.approvals :=
    fun isHeld => absurd start.notHeld isHeld
  have both : Settled suggestion owner (run (attemptStep instant) start.approvals steps) ∧
      Recorded suggestion owner (run (attemptStep instant) start.approvals steps) :=
    run_invariant (fun state => Settled suggestion owner state ∧ Recorded suggestion owner state)
      (fun state next both => ⟨settled_step state next both.1,
        recorded_step state next both.1 both.2⟩) ⟨settled_unapproved start, unrecorded⟩ steps
  exact beside.agrees_iff_told (replies_of_unrecorded both.1 both.2)

end Runs

/-! ### A reply the bus refused -/

namespace OneDraft

open Approval.OneDraft

/-- The draft that expires, as the screen reads it. -/
def entry : Entry :=
  (⟨suggestionId, "hermes://example.org/personas/assistant", "2026-10-02T11:00:00Z", "whatsapp",
    "granted", "assistant", triggerId, "fr.linagora.twalk.inbound.message.received.v1",
    "*Yes*, on Friday.", "text/markdown", some "Drafted with my AI assistant.", none, none,
    some "2026-10-02T13:00:00Z", none⟩, 2)

def refused : Approvals := run (attemptStep clock) unapproved.approvals [refusedByTheBus]

theorem exists_listed : ∃ listed,
    (showing refused).settle ⟨clock, (call none).now, fun _ => none⟩ entry = .ok listed := by
  refine Option.ne_none_iff_exists'.mp ?_ |>.imp fun listed isShown =>
    (showing refused).settle_of_shown isShown rfl
  exact ((showing refused).shown_ne_none_iff _).mpr ⟨by decide, by decide, by decide⟩

set_option maxRecDepth 10000 in
/-- The bus refused the reply, and the screen says the suggestion is approved. -/
theorem not_tells : ¬∀ (start : Unapproved suggestionId "@owner:example.org")
    (steps : List (AttemptStep suggestionId "@owner:example.org"))
    (beside : Beside clock suggestionId (run (attemptStep clock) start.approvals steps)),
    beside.Agrees := by
  intro tells
  obtain ⟨listed, isListed⟩ := exists_listed
  let beside : Beside clock suggestionId (run (attemptStep clock) unapproved.approvals
      [refusedByTheBus]) :=
    ⟨entry, fun _ => none, call none, listed, rfl, isListed, rfl⟩
  have recorded : (refused.store.approval suggestionId).isSome = true := by decide +kernel
  have noReply : (replies suggestionId "@owner:example.org" refused).isEmpty = true := by
    decide +kernel
  have agrees := tells unapproved [refusedByTheBus] beside
  have standsApproved := beside.standing_eq.trans
    (standing_of_row (Option.isSome_iff_ne_none.mp recorded) _ _)
  exact agrees.approved standsApproved (List.isEmpty_iff.mp noReply)

end OneDraft

end Twalk.Shown
