/-
This file compares what the runtime knows of a persona with what the Gateway does. The Gateway
holds a state for each connection and the runtime one for each network, and both go by the last
decision. A decision that revokes one of two connections of a kind is the last on the kind: the
runtime then holds the kind revoked while the Gateway holds the other connection granted.
-/

import Twalk.ActivationStart

namespace Twalk

open Consent Store

namespace Hermes

variable {kinds : String → String} {owner : Twalk.Owner}

/-- What a runtime knows that is told a whole journal. -/
def ofJournal (journal : List JournalRow) : Activation :=
  Activation.new.follow (journal.map JournalRow.envelope)

def GrantedOn (store : ConsentStore) (personaId connection : String) : Prop :=
  store.stateAt ⟨.persona, personaId⟩ connection = some .granted

/-- The runtime agrees with the Gateway about a persona: it is active exactly when some connection
is granted, and a network is listed exactly when some connection of the kind is. -/
def Agrees (kinds : String → String) (store : ConsentStore) (personaId : String) : Prop :=
  ((ofJournal store.journal).isActive personaId = true ↔
      ∃ connection, GrantedOn store personaId connection) ∧
    ∀ network, network ∈ (ofJournal store.journal).grantedNetworks personaId ↔
      ∃ connection, kinds connection = network ∧ GrantedOn store personaId connection

/-- A decision that is the last about a persona on a network and does not grant it leaves no
connection of the kind granted that it does not name. -/
def LeavesNoSibling (kinds : String → String) (journal : List JournalRow)
    (personaId network : String) : Prop :=
  ∀ before row after, journal = before ++ row :: after →
    row.isAbout personaId network = true →
    (∀ later ∈ after, later.isAbout personaId network = false) → row.state ≠ .granted →
      ∀ connection, kinds connection = network → connection ∉ row.connections →
        (latest (JournalRow.covers ⟨.persona, personaId⟩ connection) before).map
          JournalRow.state ≠ some .granted

/-! ### What both sides read -/

section Store

variable {store : ConsentStore} {personaId network connection : String}

theorem grantedOn_iff :
    GrantedOn store personaId connection ↔
      ∃ row, latest (JournalRow.covers ⟨.persona, personaId⟩ connection) store.journal = some row ∧
        row.state = .granted := by
  unfold GrantedOn
  rw [ConsentStore.stateAt_eq, Option.map_eq_some_iff]

theorem asStr_eq_grantedLabel {state : State} :
    state.asStr = grantedLabel ↔ state = .granted := by
  cases state <;> decide

theorem mem_grantedNetworks_ofJournal (sound : Sound kinds store)
    (ofItsKinds : ∀ row ∈ store.journal, row.OfItsKinds kinds) :
    network ∈ (ofJournal store.journal).grantedNetworks personaId ↔
      ∃ row, latest (JournalRow.isAbout personaId network) store.journal = some row ∧
        row.state = .granted := by
  rw [Activation.mem_grantedNetworks]
  unfold ofJournal Activation.follow
  rw [Activation.stateOf_foldl_apply, Activation.stateOf_new, Option.or_none,
    latest_decisions sound.rows ofItsKinds, Option.map_eq_some_iff]
  simp only [asStr_eq_grantedLabel]

theorem isAbout_of_covers (sound : Sound kinds store)
    (ofItsKinds : ∀ row ∈ store.journal, row.OfItsKinds kinds) {row : JournalRow}
    (member : row ∈ store.journal)
    (covers : row.covers ⟨.persona, personaId⟩ connection = true) :
    row.isAbout personaId (kinds connection) = true := by
  obtain ⟨isSubject, covered⟩ := JournalRow.covers_iff.mp covers
  obtain ⟨network, isKind⟩ := (sound.rows row member).ofNetworks connection covered
  exact isAbout_iff.mpr ⟨isSubject, network,
    (ofItsKinds row member network).mpr ⟨connection, covered, isKind⟩,
    Network.asStr_of_parse isKind⟩

theorem latest_covers_of_split (sound : Sound kinds store)
    (ofItsKinds : ∀ row ∈ store.journal, row.OfItsKinds kinds) {before after : List JournalRow}
    {row : JournalRow} (split : store.journal = before ++ row :: after)
    (silent : ∀ later ∈ after, later.isAbout personaId (kinds connection) = false)
    (unnamed : connection ∉ row.connections) :
    latest (JournalRow.covers ⟨.persona, personaId⟩ connection) store.journal =
      latest (JournalRow.covers ⟨.persona, personaId⟩ connection) before := by
  have quiet : latest (JournalRow.covers ⟨.persona, personaId⟩ connection) after = none := by
    refine latest_eq_none_iff.mpr fun later member => ?_
    by_contra covers
    have about := isAbout_of_covers sound ofItsKinds
      (split ▸ List.mem_append_right _ (List.mem_cons_of_mem _ member))
      (Bool.eq_true_of_not_eq_false covers)
    rw [silent later member] at about
    exact Bool.false_ne_true about
  have elsewhere : row.covers ⟨.persona, personaId⟩ connection = false := by
    by_contra covers
    exact unnamed (JournalRow.covers_iff.mp (Bool.eq_true_of_not_eq_false covers)).2
  rw [split, latest_append, latest_cons, quiet, elsewhere, Option.none_or]
  rfl

/-! ### A listed network -/

theorem exists_grantedOn_of_listed (sound : Sound kinds store)
    (ofItsKinds : ∀ row ∈ store.journal, row.OfItsKinds kinds)
    (listed : network ∈ (ofJournal store.journal).grantedNetworks personaId) :
    ∃ connection, kinds connection = network ∧ GrantedOn store personaId connection := by
  obtain ⟨row, last, granted⟩ := (mem_grantedNetworks_ofJournal sound ofItsKinds).mp listed
  obtain ⟨isSubject, named, isNamed, rfl⟩ := isAbout_iff.mp (latest_concerns last)
  obtain ⟨connection, covered, isKind⟩ := (ofItsKinds row (latest_mem last) named).mp isNamed
  have ofKind : kinds connection = named.asStr := (Network.asStr_of_parse isKind).symm
  refine ⟨connection, ofKind, grantedOn_iff.mpr ⟨row, ?_, granted⟩⟩
  refine latest_eq_of_implies last (JournalRow.covers_iff.mpr ⟨isSubject, covered⟩)
    fun other member covers => ?_
  rw [← ofKind]
  exact isAbout_of_covers sound ofItsKinds member covers

/-- Every connection that is granted has its network listed exactly when no decision that is the
last on a network leaves a sibling granted. -/
theorem listed_of_grantedOn_iff (sound : Sound kinds store)
    (ofItsKinds : ∀ row ∈ store.journal, row.OfItsKinds kinds) :
    (∀ connection, kinds connection = network → GrantedOn store personaId connection →
        network ∈ (ofJournal store.journal).grantedNetworks personaId) ↔
      LeavesNoSibling kinds store.journal personaId network := by
  constructor
  · intro listed before row after split about silent revokes connection ofKind unnamed granted
    have last : latest (JournalRow.isAbout personaId network) store.journal = some row := by
      rw [split, latest_append, latest_cons, latest_eq_none_iff.mpr silent, Option.none_or,
        if_pos about, Option.some_or]
    have isGranted : GrantedOn store personaId connection := by
      rw [← ofKind] at silent
      rw [grantedOn_iff, latest_covers_of_split sound ofItsKinds split silent unnamed]
      exact Option.map_eq_some_iff.mp granted
    obtain ⟨other, isLast, grants⟩ :=
      (mem_grantedNetworks_ofJournal sound ofItsKinds).mp (listed connection ofKind isGranted)
    rw [last] at isLast
    cases isLast
    exact revokes grants
  · intro leaves connection ofKind granted
    obtain ⟨covering, isLast, grants⟩ := grantedOn_iff.mp granted
    have aboutKind := isAbout_of_covers sound ofItsKinds (latest_mem isLast)
      (latest_concerns isLast)
    rw [ofKind] at aboutKind
    obtain ⟨row, last⟩ := exists_latest (latest_mem isLast) aboutKind
    refine (mem_grantedNetworks_ofJournal sound ofItsKinds).mpr ⟨row, last, ?_⟩
    by_contra revokes
    obtain ⟨before, after, split, silent⟩ := exists_split_of_latest last
    have unnamed : connection ∉ row.connections := by
      intro covered
      have isRow := latest_eq_of_implies last
        (JournalRow.covers_iff.mpr ⟨(isAbout_iff.mp (latest_concerns last)).1, covered⟩)
        fun other member covers => ofKind ▸ isAbout_of_covers sound ofItsKinds member covers
      rw [isLast] at isRow
      cases isRow
      exact revokes grants
    refine leaves before row after split (latest_concerns last) silent revokes connection ofKind
      unnamed ?_
    rw [← latest_covers_of_split sound ofItsKinds split (ofKind ▸ silent) unnamed, isLast,
      Option.map_some, grants]

end Store

/-! ### The result -/

/-- After any run of the Gateway a runtime that is told its journal lists a network for a persona
exactly when the last decision on the network grants, holds the persona active exactly when some
network is listed, and lists none without a connection of the kind that is granted. It agrees with
the Gateway about the persona if and only if no decision that is the last on a network leaves a
sibling granted. -/
theorem activation_by_network (steps : List (OutboxStep kinds))
    (parsed : ∀ next ∈ steps, next.IsParsed) (personaId : String) :
    let store := (run Outbox.step (Outbox.start owner) steps).store
    let activation := ofJournal store.journal
    (∀ network, network ∈ activation.grantedNetworks personaId ↔
      ∃ row, latest (JournalRow.isAbout personaId network) store.journal = some row ∧
        row.state = .granted) ∧
    (activation.isActive personaId = true ↔
      ∃ network, network ∈ activation.grantedNetworks personaId) ∧
    (∀ network ∈ activation.grantedNetworks personaId,
      ∃ connection, kinds connection = network ∧ GrantedOn store personaId connection) ∧
    (Agrees kinds store personaId ↔
      ∀ network, LeavesNoSibling kinds store.journal personaId network) := by
  intro store activation
  have sound : Sound kinds store := (Outbox.reachable owner steps).2
  have ofItsKinds : ∀ row ∈ store.journal, row.OfItsKinds kinds :=
    Outbox.ofItsKinds_run owner parsed
  have active : activation.isActive personaId = true ↔
      ∃ network, network ∈ activation.grantedNetworks personaId := by
    rw [Activation.isActive_iff]
    simp only [Activation.mem_grantedNetworks]
  have granted : ∀ network ∈ activation.grantedNetworks personaId,
      ∃ connection, kinds connection = network ∧ GrantedOn store personaId connection :=
    fun network listed => exists_grantedOn_of_listed sound ofItsKinds listed
  refine ⟨fun network => mem_grantedNetworks_ofJournal sound ofItsKinds, active, granted, ?_⟩
  constructor
  · rintro ⟨-, listed⟩ network
    exact (listed_of_grantedOn_iff sound ofItsKinds).mp fun connection ofKind isGranted =>
      (listed network).mpr ⟨connection, ofKind, isGranted⟩
  · intro leaves
    have listed : ∀ connection, GrantedOn store personaId connection →
        kinds connection ∈ activation.grantedNetworks personaId := fun connection isGranted =>
      (listed_of_grantedOn_iff sound ofItsKinds).mpr (leaves _) connection rfl isGranted
    refine ⟨active.trans ⟨?_, ?_⟩, fun network => ⟨granted network, ?_⟩⟩
    · rintro ⟨network, isListed⟩
      obtain ⟨connection, -, isGranted⟩ := granted network isListed
      exact ⟨connection, isGranted⟩
    · rintro ⟨connection, isGranted⟩
      exact ⟨_, listed connection isGranted⟩
    · rintro ⟨connection, rfl, isGranted⟩
      exact listed connection isGranted

/-! ### A persona that is granted and paused -/

namespace TwoAccounts

def grantedAtHome : List (OutboxStep fun _ => "whatsapp") :=
  [.configure registry keeps, record grantsHome "2026-10-01T12:00:00.000Z"]

def grantedAtWork : List (OutboxStep fun _ => "whatsapp") :=
  grantedAtHome ++ [record grantsWork "2026-10-01T12:00:01.000Z",
    record revokesHome "2026-10-01T12:00:02.000Z"]

set_option maxRecDepth 10000 in
theorem agrees_at_home :
    Agrees (fun _ => "whatsapp")
      (run Outbox.step (Outbox.start gatewayOwner) grantedAtHome).store "assistant" := by
  have parsed : ∀ next ∈ grantedAtHome, next.IsParsed := by
    intro next member
    rcases List.mem_pair.mp member with rfl | rfl
    · trivial
    · exact ⟨body "granted" "wa1", rfl⟩
  refine (activation_by_network grantedAtHome parsed "assistant").2.2.2.mpr ?_
  intro network before row after split _ _ _ connection _ _ granted
  have single : (run Outbox.step (Outbox.start gatewayOwner) grantedAtHome).store.journal.length =
      1 := by decide
  have first : before = [] := by
    rw [split, List.length_append, List.length_cons] at single
    exact List.length_eq_zero_iff.mp (by omega)
  rw [first] at granted
  cases granted

/-- The persona stays granted on one account and its revocation on the other pauses it. -/
theorem paused_while_granted_at_work :
    ¬ Agrees (fun _ => "whatsapp")
      (run Outbox.step (Outbox.start gatewayOwner) grantedAtWork).store "assistant" := by
  have found : (ofJournal (run Outbox.step (Outbox.start gatewayOwner)
      grantedAtWork).store.journal).isActive "assistant" = false ∧
      (run Outbox.step (Outbox.start gatewayOwner) grantedAtWork).store.stateAt
        ⟨.persona, "assistant"⟩ "wa2" = some .granted := by decide +kernel
  intro agrees
  have isActive := agrees.1.mpr ⟨"wa2", found.2⟩
  rw [found.1] at isActive
  cases isActive

end TwoAccounts

end Hermes

end Twalk
