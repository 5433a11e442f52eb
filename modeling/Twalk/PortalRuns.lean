/-
This file is about what the register does by itself. A read finds a conversation
moved exactly when a room that was replaced, and in which the Sensor stands, leads
to a room that was read and in which it does not; it invites the Sensor there
exactly when that room is under the crowd threshold. The decision is taken anew at
every read, while the journal keeps the first row of each successor and nothing
keeps the user's removals.
-/

import Mathlib.Logic.Relation
import Twalk.Library.System
import Twalk.Portals

namespace Twalk.Register

open Std

/-! ### What is read -/

theorem gather_observation (portals : Portals) (bridge : PortalBridge) (bot : Option String)
    {gathered : Gathered} (before : gathered.observation ≠ .moved) (event : Json) :
    (portals.gather bridge bot gathered event).observation ≠ .moved := by
  unfold Portals.gather Portals.gatherMember
  grind

theorem foldl_gather_observation (portals : Portals) (bridge : PortalBridge) (bot : Option String)
    {gathered : Gathered} (before : gathered.observation ≠ .moved) (state : List Json) :
    (state.foldl (portals.gather bridge bot) gathered).observation ≠ .moved := by
  induction state generalizing gathered with
  | nil => exact before
  | cons event rest inductionHypothesis =>
    exact inductionHypothesis (gather_observation portals bridge bot before event)

/-- A room as it was read: readable, and its Sensor stands where a membership puts it. -/
def Portal.AsRead (portal : Portal) : Prop :=
  portal.unreadable = none ∧ portal.observation ≠ .moved

variable {portal : Portal}

theorem portalOf_asRead {portals : Portals} {bridge : PortalBridge} {roomId : String}
    {state : List Json} (is : portals.portalOf bridge roomId state = some portal) :
    portal.AsRead := by
  unfold Portals.portalOf at is
  dsimp only at is
  split at is
  · obtain rfl := Option.some.inj is
    exact ⟨rfl, foldl_gather_observation portals bridge _ (by simp) state⟩
  · cases is

theorem reading_asRead {portals : Portals} {answers : Answers}
    (read : portal ∈ portals.reading answers) : portal.AsRead := by
  obtain ⟨bridge, -, member⟩ := List.mem_flatMap.mp read
  unfold Portals.readBridge at member
  split at member
  · obtain ⟨room, -, is⟩ := List.mem_filterMap.mp member
    split at is
    · exact portalOf_asRead is
    · cases is
  · cases member

theorem byRoom_sound {portals : List Portal} {roomId : String}
    (found : (byRoom portals)[roomId]? = some portal) :
    portal ∈ portals ∧ portal.roomId = roomId := by
  have grows (later : List Portal) (rooms : TreeMap String Portal)
      (found : (later.foldl (fun rooms portal => rooms.insert portal.roomId portal) rooms)[roomId]? =
        some portal) :
      (portal ∈ later ∧ portal.roomId = roomId) ∨ rooms[roomId]? = some portal := by
    induction later generalizing rooms with
    | nil => exact Or.inr found
    | cons first rest inductionHypothesis =>
      rcases inductionHypothesis (rooms.insert first.roomId first) found with
        ⟨member, own⟩ | before
      · exact Or.inl ⟨List.mem_cons_of_mem first member, own⟩
      · rw [TreeMap.getElem?_insert] at before
        split at before
        · rename_i same
          obtain rfl := Option.some.inj before
          exact Or.inl ⟨List.mem_cons_self, Std.compare_eq_iff_eq.mp same⟩
        · exact Or.inr before
  rcases grows portals ∅ found with is | nothing
  · exact is
  · rw [TreeMap.getElem?_emptyc] at nothing
    cases nothing

/-! ### Walking from a room to its successor -/

def Replaced (reading : List Portal) (old new : String) : Prop :=
  ∃ portal ∈ reading, portal.roomId = old ∧ portal.replacedBy = some new

variable {rooms : TreeMap String Portal}

theorem walk_alive (alive : portal.replacedBy = none) (hops : Nat) :
    walk rooms hops portal = (portal, portal.roomId) := by
  unfold walk
  rw [alive]

theorem walk_further {portal further : Portal} {next : String}
    (replaced : portal.replacedBy = some next) (found : rooms[next]? = some further) (hops : Nat) :
    walk rooms (hops + 1) portal = walk rooms hops further := by
  rw [walk, replaced]
  dsimp only
  rw [found]

theorem walk_dark {next : String} (replaced : portal.replacedBy = some next)
    (found : rooms[next]? = none) (hops : Nat) :
    walk rooms (hops + 1) portal = (portal, next) := by
  rw [walk, replaced]
  dsimp only
  rw [found]

section Reached

variable {reading : List Portal} {rooms : TreeMap String Portal}
  (sound : ∀ (roomId : String) (portal : Portal), rooms[roomId]? = some portal →
    portal ∈ reading ∧ portal.roomId = roomId)
include sound

theorem walk_reaches (hops : Nat) (read : portal ∈ reading) :
    Relation.ReflTransGen (Replaced reading) portal.roomId (walk rooms hops portal).2 := by
  induction hops generalizing portal with
  | zero =>
    unfold walk
    split <;> exact .refl
  | succ hops inductionHypothesis =>
    cases replaced : portal.replacedBy with
    | none =>
      rw [walk_alive replaced]
    | some next =>
      have leads : Replaced reading portal.roomId next := ⟨portal, read, rfl, replaced⟩
      cases found : rooms[next]? with
      | none =>
        rw [walk_dark replaced found]
        exact .single leads
      | some further =>
        obtain ⟨member, own⟩ := sound next further found
        rw [walk_further replaced found]
        exact .head (own.symm ▸ leads) (inductionHypothesis member)

theorem walk_leads (read : portal ∈ reading) (dead : portal.replacedBy.isSome = true) :
    Relation.TransGen (Replaced reading) portal.roomId (walk rooms maxHops portal).2 := by
  obtain ⟨next, replaced⟩ := Option.isSome_iff_exists.mp dead
  have leads : Replaced reading portal.roomId next := ⟨portal, read, rfl, replaced⟩
  cases found : rooms[next]? with
  | none =>
    rw [show maxHops = 31 + 1 from rfl, walk_dark replaced found]
    exact .single leads
  | some further =>
    obtain ⟨member, own⟩ := sound next further found
    rw [show maxHops = 31 + 1 from rfl, walk_further replaced found]
    exact .head' (own.symm ▸ leads) (walk_reaches sound 31 member)

end Reached

/-! ### Folding -/

/-- A room that is dead, in which the Sensor stands and whose chain of replacements ends at a
place. -/
def HandsOn (rooms : TreeMap String Portal) (portal : Portal) (successor : String) : Prop :=
  portal.replacedBy.isSome = true ∧ portal.observation.sensorIsInTheRoom = true ∧
    (walk rooms maxHops portal).2 = successor

/-- What the rows are after some of the rooms have been folded: a row of a room that was read tells
of it what was read, and is moved exactly when a room handed the Sensor on to it. -/
structure Folded (rooms : TreeMap String Portal) (done : List Portal)
    (folded : TreeMap String Portal) : Prop where
  read : ∀ (roomId : String) (read row : Portal), rooms[roomId]? = some read →
    folded[roomId]? = some row →
    row.members = read.members ∧ row.bridgeId = read.bridgeId ∧
      row.unreadable = none ∧
      row.observation.sensorIsInTheRoom = read.observation.sensorIsInTheRoom ∧
      (row.observation = .moved ↔ read.observation.sensorIsInTheRoom = false ∧
        ∃ portal ∈ done, HandsOn rooms portal roomId)
  waiting : ∀ roomId : String, folded[roomId]? = none →
    ∀ portal ∈ done, ¬HandsOn rooms portal roomId
  dark : ∀ (roomId : String) (row : Portal), rooms[roomId]? = none → folded[roomId]? = some row →
    row.unreadable.isSome = true
  origin : ∀ (roomId : String) (row : Portal), folded[roomId]? = some row →
    row.observation = .moved → row.movedFrom.isSome = true
  keyed : ∀ (roomId : String) (row : Portal), folded[roomId]? = some row → row.roomId = roomId

theorem folded_empty (rooms : TreeMap String Portal) : Folded rooms [] ∅ := by
  refine ⟨?_, ?_, ?_, ?_, ?_⟩
  · intro roomId read row _ found
    rw [TreeMap.getElem?_emptyc] at found
    cases found
  · intro roomId _ portal member
    cases member
  · intro roomId row _ found
    rw [TreeMap.getElem?_emptyc] at found
    cases found
  · intro roomId row found
    rw [TreeMap.getElem?_emptyc] at found
    cases found
  · intro roomId row found
    rw [TreeMap.getElem?_emptyc] at found
    cases found

/-! A row is moved once a room in which the Sensor stands is folded onto it and it is not. -/

theorem sensorIsInTheRoom_handed (came : Bool) (there : Observation) :
    (if came = true ∧ ¬there.sensorIsInTheRoom = true then .moved
      else there).sensorIsInTheRoom = there.sensorIsInTheRoom := by
  cases came <;> cases there <;> rfl

theorem handed_eq_moved_iff (came : Bool) (there : Observation) :
    (if came = true ∧ ¬there.sensorIsInTheRoom = true then .moved else there) =
        Observation.moved ↔
      there = .moved ∨ came = true ∧ there.sensorIsInTheRoom = false := by
  cases came <;> cases there <;> decide

section Fold

variable {rooms : TreeMap String Portal} {done : List Portal} {folded : TreeMap String Portal}
  {portal : Portal}

theorem handsOn_concat_alive (alive : portal.replacedBy = none) (roomId : String) :
    (∃ other ∈ done ++ [portal], HandsOn rooms other roomId) ↔
      ∃ other ∈ done, HandsOn rooms other roomId := by
  constructor
  · rintro ⟨other, member, handsOn⟩
    rcases List.mem_append.mp member with before | last
    · exact ⟨other, before, handsOn⟩
    · rw [List.mem_singleton.mp last] at handsOn
      exact absurd handsOn.1 (by simp [alive])
  · rintro ⟨other, member, handsOn⟩
    exact ⟨other, List.mem_append_left _ member, handsOn⟩

theorem folded_alive (before : Folded rooms done folded) (alive : portal.replacedBy = none)
    (own : rooms[portal.roomId]? = some portal) (asRead : portal.AsRead) :
    Folded rooms (done ++ [portal]) (foldAlive folded portal) := by
  refine ⟨?_, ?_, ?_, ?_, ?_⟩
  · intro roomId read row isRead found
    rw [handsOn_concat_alive alive]
    unfold foldAlive at found
    rw [TreeMap.getElem?_insert] at found
    split at found
    · rename_i same
      obtain rfl := Std.compare_eq_iff_eq.mp same
      obtain rfl := Option.some.inj (own.symm.trans isRead)
      obtain rfl := Option.some.inj found
      cases placed : folded[portal.roomId]? with
      | none =>
        refine ⟨rfl, rfl, asRead.1, rfl, fun moved => absurd moved asRead.2, ?_⟩
        rintro ⟨-, other, member, handsOn⟩
        exact absurd handsOn (before.waiting _ placed other member)
      | some row =>
        obtain ⟨-, -, -, stands, moved⟩ := before.read _ portal row own placed
        cases inRoom : portal.observation.sensorIsInTheRoom with
        | true => simp [inRoom, asRead.2]
        | false =>
          rw [inRoom] at stands moved
          simpa [inRoom, stands] using moved
    · exact before.read roomId read row isRead found
  · intro roomId nothing other member
    unfold foldAlive at nothing
    rw [TreeMap.getElem?_insert] at nothing
    split at nothing
    · cases nothing
    · intro handsOn
      obtain ⟨earlier, among, handsOn⟩ := (handsOn_concat_alive alive roomId).mp
        ⟨other, member, handsOn⟩
      exact before.waiting roomId nothing earlier among handsOn
  · intro roomId row unread found
    unfold foldAlive at found
    rw [TreeMap.getElem?_insert] at found
    split at found
    · rename_i same
      rw [← Std.compare_eq_iff_eq.mp same, own] at unread
      cases unread
    · exact before.dark roomId row unread found
  · intro roomId row found moved
    unfold foldAlive at found
    rw [TreeMap.getElem?_insert] at found
    split at found
    · obtain rfl := Option.some.inj found
      cases placed : folded[portal.roomId]? with
      | none =>
        rw [placed] at moved
        exact absurd moved asRead.2
      | some row =>
        rw [placed] at moved
        cases inRoom : portal.observation.sensorIsInTheRoom with
        | true => exact absurd moved (by simp [inRoom, asRead.2])
        | false =>
          have rowMoved : row.observation = .moved := by simpa [inRoom] using moved
          simp [before.origin _ row placed rowMoved]
    · exact before.origin roomId row found moved
  · intro roomId row found
    unfold foldAlive at found
    rw [TreeMap.getElem?_insert] at found
    split at found
    · rename_i same
      obtain rfl := Option.some.inj found
      rw [← Std.compare_eq_iff_eq.mp same]
      cases folded[portal.roomId]? <;> rfl
    · exact before.keyed roomId row found

theorem folded_dead (sound : ∀ (roomId : String) (read : Portal), rooms[roomId]? = some read →
      read.roomId = roomId ∧ read.AsRead)
    (before : Folded rooms done folded) (dead : portal.replacedBy.isSome = true)
    (botRooms : List String) :
    Folded rooms (done ++ [portal]) (foldDead rooms botRooms folded portal) := by
  have elsewhere (roomId : String) (apart : (walk rooms maxHops portal).2 ≠ roomId) :
      (∃ other ∈ done ++ [portal], HandsOn rooms other roomId) ↔
        ∃ other ∈ done, HandsOn rooms other roomId := by
    simp [HandsOn, apart]
  have here : (∃ other ∈ done ++ [portal], HandsOn rooms other (walk rooms maxHops portal).2) ↔
      (∃ other ∈ done, HandsOn rooms other (walk rooms maxHops portal).2) ∨
        portal.observation.sensorIsInTheRoom = true := by
    simp [HandsOn, dead, or_and_right, exists_or]
  unfold foldDead
  dsimp only
  generalize walk rooms maxHops portal = ending at elsewhere here
  refine ⟨?_, ?_, ?_, ?_, ?_⟩
  · intro roomId read row isRead found
    rw [TreeMap.getElem?_insert] at found
    split at found
    · rename_i same
      obtain rfl := Std.compare_eq_iff_eq.mp same
      rw [here]
      obtain rfl := Option.some.inj found
      obtain ⟨-, readable, unmoved⟩ := sound _ read isRead
      cases placed : folded[ending.2]? with
      | none =>
        have unhanded : ¬∃ other ∈ done, HandsOn rooms other ending.2 := by
          rintro ⟨other, member, handsOn⟩
          exact before.waiting _ placed other member handsOn
        simp only [Option.getD_none, isRead, Option.getD_some]
        refine ⟨trivial, trivial, readable, sensorIsInTheRoom_handed _ _, ?_⟩
        rw [handed_eq_moved_iff]
        simp only [unmoved, unhanded, false_or]
        exact and_comm
      | some row =>
        obtain ⟨members, bridgeId, readable, stands, moved⟩ :=
          before.read _ read row isRead placed
        simp only [Option.getD_some]
        refine ⟨members, bridgeId, readable,
          (sensorIsInTheRoom_handed _ _).trans stands, ?_⟩
        rw [handed_eq_moved_iff, moved, stands, and_or_left]
        exact or_congr_right and_comm
    · rename_i apart
      rw [elsewhere roomId fun same => apart (Std.compare_eq_iff_eq.mpr same)]
      exact before.read roomId read row isRead found
  · intro roomId nothing other member handsOn
    rw [TreeMap.getElem?_insert] at nothing
    split at nothing
    · cases nothing
    · rename_i apart
      obtain ⟨earlier, among, handsOn⟩ :=
        (elsewhere roomId fun same => apart (Std.compare_eq_iff_eq.mpr same)).mp ⟨other, member, handsOn⟩
      exact before.waiting roomId nothing earlier among handsOn
  · intro roomId row unread found
    rw [TreeMap.getElem?_insert] at found
    split at found
    · rename_i same
      obtain rfl := Std.compare_eq_iff_eq.mp same
      obtain rfl := Option.some.inj found
      cases placed : folded[ending.2]? with
      | none =>
        rw [unread]
        rfl
      | some row => exact before.dark _ row unread placed
    · exact before.dark roomId row unread found
  · intro roomId row found moved
    rw [TreeMap.getElem?_insert] at found
    split at found
    · obtain rfl := Option.some.inj found
      cases (folded[ending.2]?.getD (rooms[ending.2]?.getD
        (inTheDark ending.1 ending.2 botRooms))).movedFrom <;> rfl
    · exact before.origin roomId row found moved
  · intro roomId row found
    rw [TreeMap.getElem?_insert] at found
    split at found
    · rename_i same
      obtain rfl := Std.compare_eq_iff_eq.mp same
      obtain rfl := Option.some.inj found
      cases placed : folded[ending.2]? with
      | some row => exact before.keyed _ row placed
      | none =>
        cases isRead : rooms[ending.2]? with
        | some read => exact (sound _ read isRead).1
        | none => rfl
    · exact before.keyed roomId row found

end Fold

theorem folded_foldRooms {portals : List Portal} (asRead : ∀ portal ∈ portals, portal.AsRead)
    (botRooms : List String) :
    Folded (byRoom portals) ((byRoom portals).toList.map Prod.snd)
      (foldRooms portals botRooms) := by
  have sound : ∀ (roomId : String) (read : Portal), (byRoom portals)[roomId]? = some read →
      read.roomId = roomId ∧ read.AsRead := fun roomId read found =>
    ⟨(byRoom_sound found).2, asRead read (byRoom_sound found).1⟩
  have own : ∀ portal ∈ (byRoom portals).toList.map Prod.snd,
      (byRoom portals)[portal.roomId]? = some portal := by
    intro portal member
    obtain ⟨entry, among, rfl⟩ := List.mem_map.mp member
    have found := TreeMap.mem_toList_iff_getElem?_eq_some.mp among
    rw [(sound _ _ found).1]
    exact found
  unfold foldRooms
  generalize byRoom portals = rooms at sound own
  have steps (done later : List Portal) (folded : TreeMap String Portal)
      (before : Folded rooms done folded)
      (own : ∀ portal ∈ later, rooms[portal.roomId]? = some portal) :
      Folded rooms (done ++ later) (later.foldl (foldRoom rooms botRooms) folded) := by
    induction later generalizing done folded with
    | nil => simpa using before
    | cons first rest inductionHypothesis =>
      have isRead := own first List.mem_cons_self
      have after : Folded rooms (done ++ [first]) (foldRoom rooms botRooms folded first) := by
        unfold foldRoom
        cases dead : first.replacedBy with
        | none => exact folded_alive before dead isRead (sound _ _ isRead).2
        | some next => exact folded_dead sound before (by simp [dead]) botRooms
      have whole := inductionHypothesis (done ++ [first]) _ after fun portal member =>
        own portal (List.mem_cons_of_mem first member)
      simpa using whole
  exact steps [] _ ∅ (folded_empty rooms) own

/-! ### Deciding -/

def Portal.ToDecide (row : Portal) : Prop :=
  row.observation = .moved ∧ row.unreadable = none ∧ row.movedFrom.isSome = true

theorem invite_eq_invited_iff (portal : Portal) (response : Response) :
    invite portal response = .invited ↔
      portal.observation.sensorIsInTheRoom = false ∧ response = .done := by
  unfold invite
  cases portal.observation.sensorIsInTheRoom with
  | true => simp
  | false =>
    cases response with
    | done => simp
    | refused detail =>
      simp only [Bool.false_eq_true, if_false]
      split <;> simp
    | unreachable reason => simp

/-- The row a decision about a successor is journaled as. -/
def Tells (journal : TreeMap String PortalMove) (room : String) (members : Nat) : Prop :=
  ∃ move, journal[room]? = some move ∧ move.followed = true ∧ move.members = members

variable {room : String}

section Decide

variable (portals : Portals) (answers : Answers) (journal : TreeMap String PortalMove)

theorem mem_sent_decideMove (row : Portal) (sent : Sent) :
    (portals.decideMove answers journal row).sent = some sent ↔
      row.ToDecide ∧ row.members < portals.crowdThreshold ∧
        (portals.tokenOf row.bridgeId).isSome = true ∧
        sent = ⟨row.roomId, row.members, invite row (answers.invites row.roomId)⟩ := by
  unfold Portals.decideMove Portal.ToDecide
  by_cases moved : row.observation = .moved
  · cases unreadable : row.unreadable with
    | some why => simp [moved]
    | none =>
      cases movedFrom : row.movedFrom with
      | none => simp [moved]
      | some predecessor =>
        by_cases follow : row.members < portals.crowdThreshold
        · cases portals.tokenOf row.bridgeId with
          | none => simp [moved, follow]
          | some token =>
            simp only [moved, follow, ne_eq, not_true_eq_false, Option.isSome_none,
              Bool.false_eq_true, or_self, if_false, decide_true, if_true, Option.some.injEq,
              Option.isSome_some, true_and]
            exact eq_comm
        · simp [moved, follow]
  · simp [moved]

variable {row : Portal}

theorem journal_decideMove (toDecide : row.ToDecide) :
    ∃ move : PortalMove, move.successor = row.roomId ∧ move.members = row.members ∧
      move.followed = decide (row.members < portals.crowdThreshold) ∧
      (portals.decideMove answers journal row).journal =
        if portals.journals ∧ answers.journaled row.roomId then recordPortalMove journal move
        else journal := by
  obtain ⟨moved, readable, origin⟩ := toDecide
  obtain ⟨predecessor, movedFrom⟩ := Option.isSome_iff_exists.mp origin
  refine ⟨⟨row.roomId, predecessor, row.bridgeId, row.members, portals.crowdThreshold,
    row.members < portals.crowdThreshold, answers.decidedAt row.roomId⟩, rfl, rfl, rfl, ?_⟩
  unfold Portals.decideMove
  rw [if_neg (by simp [moved, readable]), movedFrom]
  dsimp only
  split
  · split <;> rfl
  · rfl

theorem journal_decideMove_other (settled : ¬row.ToDecide) :
    (portals.decideMove answers journal row).journal = journal := by
  unfold Portals.decideMove
  split
  · rfl
  · rename_i applies
    simp only [ne_eq, not_or, not_not, Bool.not_eq_true, Option.isSome_eq_false_iff,
      Option.isNone_iff_eq_none] at applies
    cases movedFrom : row.movedFrom with
    | none => rfl
    | some predecessor => exact absurd ⟨applies.1, applies.2, by simp [movedFrom]⟩ settled

theorem getElem?_decideMove_other (apart : row.roomId ≠ room) :
    (portals.decideMove answers journal row).journal[room]? = journal[room]? := by
  by_cases toDecide : row.ToDecide
  · obtain ⟨move, successor, -, -, is⟩ := journal_decideMove portals answers journal toDecide
    rw [is]
    split
    · unfold recordPortalMove
      rw [TreeMap.getElem?_insertIfNew, if_neg]
      rintro ⟨same, -⟩
      exact apart (successor ▸ Std.compare_eq_iff_eq.mp same)
    · rfl
  · rw [journal_decideMove_other portals answers journal toDecide]

theorem getElem?_decideMove_of_some (row : Portal) {move : PortalMove}
    (has : journal[room]? = some move) :
    (portals.decideMove answers journal row).journal[room]? = some move := by
  by_cases toDecide : row.ToDecide
  · obtain ⟨new, successor, -, -, is⟩ := journal_decideMove portals answers journal toDecide
    rw [is]
    split
    · unfold recordPortalMove
      rw [TreeMap.getElem?_insertIfNew, if_neg, has]
      rintro ⟨same, absent⟩
      rw [Std.compare_eq_iff_eq.mp same] at absent
      exact absent (TreeMap.mem_iff_isSome_getElem?.mpr (by simp [has]))
    · exact has
  · rw [journal_decideMove_other portals answers journal toDecide]
    exact has

/-- After a decision to follow, the journal tells of it when it had told of it before, or had
nothing about the successor and takes the row. -/
theorem tells_decideMove_iff (toDecide : row.ToDecide)
    (follow : row.members < portals.crowdThreshold) :
    Tells (portals.decideMove answers journal row).journal row.roomId row.members ↔
      Tells journal row.roomId row.members ∨
        journal[row.roomId]? = none ∧ portals.journals = true ∧
          answers.journaled row.roomId = true := by
  cases has : journal[row.roomId]? with
  | some move =>
    unfold Tells
    rw [getElem?_decideMove_of_some portals answers journal row has, has]
    simp
  | none =>
    obtain ⟨move, successor, members, followed, is⟩ :=
      journal_decideMove portals answers journal toDecide
    unfold Tells
    rw [is, has]
    split
    · rename_i takes
      unfold recordPortalMove
      have absent : row.roomId ∉ journal := by
        rw [TreeMap.mem_iff_isSome_getElem?, has]
        exact Bool.false_ne_true
      rw [TreeMap.getElem?_insertIfNew, successor, if_pos ⟨compare_self, absent⟩]
      simp [members, followed, follow, takes.1, takes.2]
    · rename_i refuses
      rw [has]
      simp only [reduceCtorEq, false_and, exists_false, false_or, true_and]
      exact (iff_of_false id refuses)

/-! ### Deciding about every row -/

theorem mem_sent_decideMoves (rows : List Portal) (sent : Sent) :
    sent ∈ (portals.decideMoves answers journal rows).2.2 ↔
      ∃ row ∈ rows, row.ToDecide ∧ row.members < portals.crowdThreshold ∧
        (portals.tokenOf row.bridgeId).isSome = true ∧
        sent = ⟨row.roomId, row.members, invite row (answers.invites row.roomId)⟩ := by
  induction rows generalizing journal with
  | nil => simp [Portals.decideMoves]
  | cons first rest inductionHypothesis =>
    unfold Portals.decideMoves
    dsimp only
    rw [List.mem_append, Option.mem_toList, mem_sent_decideMove, inductionHypothesis]
    simp

theorem getElem?_decideMoves_other {rows : List Portal} (others : ∀ row ∈ rows, row.roomId ≠ room) :
    (portals.decideMoves answers journal rows).2.1[room]? = journal[room]? := by
  induction rows generalizing journal with
  | nil => rfl
  | cons first rest inductionHypothesis =>
    unfold Portals.decideMoves
    dsimp only
    rw [inductionHypothesis _ fun row member => others row (List.mem_cons_of_mem first member),
      getElem?_decideMove_other portals answers journal (others first List.mem_cons_self)]

theorem getElem?_decideMoves_of_some (rows : List Portal) {move : PortalMove}
    (has : journal[room]? = some move) :
    (portals.decideMoves answers journal rows).2.1[room]? = some move := by
  induction rows generalizing journal with
  | nil => exact has
  | cons first rest inductionHypothesis =>
    unfold Portals.decideMoves
    dsimp only
    exact inductionHypothesis _ (getElem?_decideMove_of_some portals answers journal first has)

theorem tells_decideMoves_iff {rows : List Portal} (distinct : (rows.map Portal.roomId).Nodup)
    (member : row ∈ rows) (toDecide : row.ToDecide) (follow : row.members < portals.crowdThreshold)
    :
    Tells (portals.decideMoves answers journal rows).2.1 row.roomId row.members ↔
      Tells journal row.roomId row.members ∨
        journal[row.roomId]? = none ∧ portals.journals = true ∧
          answers.journaled row.roomId = true := by
  induction rows generalizing journal with
  | nil => cases member
  | cons first rest inductionHypothesis =>
    rw [List.map_cons, List.nodup_cons] at distinct
    unfold Portals.decideMoves
    dsimp only
    rcases List.mem_cons.mp member with rfl | later
    · have others : ∀ other ∈ rest, other.roomId ≠ row.roomId := fun other among same =>
        distinct.1 (same ▸ List.mem_map_of_mem among)
      rw [← tells_decideMove_iff portals answers journal toDecide follow]
      unfold Tells
      rw [getElem?_decideMoves_other portals answers _ others]
    · have apart : first.roomId ≠ row.roomId := fun same =>
        distinct.1 (same ▸ List.mem_map_of_mem later)
      rw [inductionHypothesis _ distinct.2 later]
      unfold Tells
      rw [getElem?_decideMove_other portals answers journal apart]

end Decide

/-! ### What a read does -/

/-- A read finds a conversation moved to a room under the crowd threshold: that room was read, the
Sensor does not stand in it, a room that was replaced and in which the Sensor stands leads to it,
and there is a credential to invite with. -/
def Follows (portals : Portals) (answers : Answers) (room : String) (read : Portal) : Prop :=
  (byRoom (portals.reading answers))[room]? = some read ∧
    read.observation.sensorIsInTheRoom = false ∧
    (∃ portal ∈ (byRoom (portals.reading answers)).toList.map Prod.snd,
      HandsOn (byRoom (portals.reading answers)) portal room) ∧
    read.members < portals.crowdThreshold ∧ (portals.tokenOf read.bridgeId).isSome = true

section Read

variable (portals : Portals) (answers : Answers) (journal : TreeMap String PortalMove)

theorem folded_reading :
    Folded (byRoom (portals.reading answers))
      ((byRoom (portals.reading answers)).toList.map Prod.snd)
      (foldRooms (portals.reading answers) (portals.botRooms answers)) :=
  folded_foldRooms (fun _ read => reading_asRead read) (portals.botRooms answers)

theorem nodup_foldTombstones :
    ((foldTombstones (portals.reading answers) (portals.botRooms answers)).map
      Portal.roomId).Nodup := by
  have folded := folded_reading portals answers
  unfold foldTombstones
  generalize foldRooms (portals.reading answers) (portals.botRooms answers) = rows at folded
  have own : ∀ entry ∈ rows.toList, (Portal.roomId ∘ Prod.snd) entry = entry.1 := fun entry member =>
    folded.keyed _ _ (TreeMap.mem_toList_iff_getElem?_eq_some.mp member)
  rw [List.map_map, List.map_congr_left own, List.nodup_iff_pairwise_ne, List.pairwise_map]
  exact TreeMap.distinct_keys_toList.imp fun apart same => apart (by rw [same]; simp)

theorem exists_row_iff (room : String) (members : Nat) :
    (∃ row ∈ foldTombstones (portals.reading answers) (portals.botRooms answers),
      row.roomId = room ∧ row.members = members ∧ row.ToDecide ∧
        row.members < portals.crowdThreshold ∧ (portals.tokenOf row.bridgeId).isSome = true) ↔
      ∃ read, Follows portals answers room read ∧ read.members = members := by
  have folded := folded_reading portals answers
  unfold foldTombstones Follows
  generalize foldRooms (portals.reading answers) (portals.botRooms answers) = rows at folded
  generalize byRoom (portals.reading answers) = rooms at folded
  constructor
  · rintro ⟨row, member, rfl, rfl, ⟨moved, readable, -⟩, follow, token⟩
    obtain ⟨⟨key, _⟩, among, rfl⟩ := List.mem_map.mp member
    have found := TreeMap.mem_toList_iff_getElem?_eq_some.mp among
    have own := folded.keyed _ _ found
    cases isRead : rooms[key]? with
    | none =>
      have unread := folded.dark _ _ isRead found
      rw [readable] at unread
      cases unread
    | some read =>
      obtain ⟨same, bridge, -, -, handed⟩ := folded.read _ read _ isRead found
      obtain ⟨absent, comes⟩ := handed.mp moved
      rw [own]
      exact ⟨read, ⟨isRead, absent, comes, same ▸ follow, bridge ▸ token⟩, same.symm⟩
  · rintro ⟨read, ⟨isRead, absent, ⟨portal, among, handsOn⟩, follow, token⟩, rfl⟩
    cases found : rows[room]? with
    | none => exact absurd handsOn (folded.waiting room found portal among)
    | some row =>
      obtain ⟨same, bridge, readable, -, handed⟩ := folded.read _ read row isRead found
      have moved := handed.mpr ⟨absent, portal, among, handsOn⟩
      refine ⟨row, List.mem_map.mpr ⟨(room, row),
        TreeMap.mem_toList_iff_getElem?_eq_some.mpr found, rfl⟩, folded.keyed _ _ found, same,
        ⟨moved, readable, folded.origin _ row found moved⟩, same ▸ follow, bridge ▸ token⟩

theorem exists_sent_iff (room : String) (members : Nat) :
    (∃ sent ∈ (portals.read answers journal).2.2, sent.room = room ∧ sent.members = members) ↔
      ∃ read, Follows portals answers room read ∧ read.members = members := by
  rw [← exists_row_iff]
  unfold Portals.read
  simp only [mem_sent_decideMoves]
  constructor
  · rintro ⟨sent, ⟨row, member, toDecide, follow, token, rfl⟩, rfl, rfl⟩
    exact ⟨row, member, rfl, rfl, toDecide, follow, token⟩
  · rintro ⟨row, member, rfl, rfl, toDecide, follow, token⟩
    exact ⟨_, ⟨row, member, toDecide, follow, token, rfl⟩, rfl, rfl⟩

theorem status_of_sent {sent : Sent} (member : sent ∈ (portals.read answers journal).2.2) :
    sent.status = .invited ↔ answers.invites sent.room = .done := by
  unfold Portals.read at member
  obtain ⟨row, -, ⟨moved, -⟩, -, -, rfl⟩ := (mem_sent_decideMoves ..).mp member
  rw [invite_eq_invited_iff]
  simp [moved, Observation.sensorIsInTheRoom]

theorem tells_read_iff {sent : Sent} (member : sent ∈ (portals.read answers journal).2.2) :
    Tells (portals.read answers journal).2.1 sent.room sent.members ↔
      Tells journal sent.room sent.members ∨
        journal[sent.room]? = none ∧ portals.journals = true ∧
          answers.journaled sent.room = true := by
  unfold Portals.read at member ⊢
  obtain ⟨row, among, toDecide, follow, -, rfl⟩ := (mem_sent_decideMoves ..).mp member
  exact tells_decideMoves_iff portals answers journal (nodup_foldTombstones portals answers) among
    toDecide follow

theorem Tells.read {members : Nat} (tells : Tells journal room members) :
    Tells (portals.read answers journal).2.1 room members := by
  obtain ⟨move, has, is⟩ := tells
  exact ⟨move, getElem?_decideMoves_of_some portals answers journal _ has, is⟩

theorem Follows.justified {portals : Portals} {answers : Answers} {read : Portal}
    (follows : Follows portals answers room read) :
    read ∈ portals.reading answers ∧ read.roomId = room ∧ read.members < portals.crowdThreshold ∧
      ∃ predecessor ∈ portals.reading answers,
        predecessor.observation.sensorIsInTheRoom = true ∧
        Relation.TransGen (Replaced (portals.reading answers)) predecessor.roomId room := by
  obtain ⟨isRead, -, ⟨portal, among, dead, stands, rfl⟩, follow, -⟩ := follows
  obtain ⟨entry, member, rfl⟩ := List.mem_map.mp among
  have found := byRoom_sound (TreeMap.mem_toList_iff_getElem?_eq_some.mp member)
  refine ⟨(byRoom_sound isRead).1, (byRoom_sound isRead).2, follow, entry.2, found.1, stands, ?_⟩
  exact walk_leads (fun roomId portal is => byRoom_sound is) found.1 dead

end Read

/-! ### Runs -/

/-- An invitation the register has sent, the read it was sent in, and whether the user had taken the
Sensor out of the room and not asked for it again. -/
structure Invitation where
  reading : List Portal
  sent : Sent
  against : Bool

/-- The journal, what the register has sent, and the rooms the user has taken the Sensor out of and
has not asked to observe since. -/
structure Watched where
  journal : TreeMap String PortalMove
  invitations : List Invitation
  left : List String

inductive RegisterStep where
  | read (answers : Answers)
  | setObservation (answers : Answers) (rooms : List String) (observed : Bool)
    (responses : Nat → Response)

namespace Watched

section Runs

variable (portals : Portals)

def start (journal : TreeMap String PortalMove) : Watched := ⟨journal, [], []⟩

def sends (watched : Watched) (answers : Answers) (journal : TreeMap String PortalMove)
    (sent : List Sent) : Watched where
  journal := journal
  invitations := watched.invitations ++
    sent.map fun one => ⟨portals.reading answers, one, decide (one.room ∈ watched.left)⟩
  left := watched.left

def asks (watched : Watched) (rooms : List String) (observed : Bool) : Watched :=
  if observed then { watched with left := watched.left.filter fun room => room ∉ rooms }
  else watched

def step (watched : Watched) : RegisterStep → Watched
  | .read answers =>
    let read := portals.read answers watched.journal
    watched.sends portals answers read.2.1 read.2.2
  | .setObservation answers rooms observed responses =>
    match portals.setObservation answers watched.journal rooms observed responses with
    | .error _ => watched
    | .ok requested =>
      let sends := (watched.asks rooms observed).sends portals answers requested.journal
        requested.sent
      { sends with
        left := sends.left ++
          (requested.outcomes.filter fun outcome => outcome.2 = .removed).map (·.1) }

/-- An invitation is justified: the room was read, its member count is under the crowd threshold and
a predecessor had the Sensor. -/
def Justified (invitation : Invitation) : Prop :=
  (∃ read ∈ invitation.reading, read.roomId = invitation.sent.room ∧
      read.members = invitation.sent.members) ∧
    invitation.sent.members < portals.crowdThreshold ∧
    ∃ predecessor ∈ invitation.reading, predecessor.observation.sensorIsInTheRoom = true ∧
      Relation.TransGen (Replaced invitation.reading) predecessor.roomId invitation.sent.room

/-- The user's choice is respected and the journal tells the truth: every invitation is justified,
and the Sensor is invited into no room the user took it out of, nor into any of which the journal
does not say that it was followed, with the count the invitation was decided on. -/
def Respected (watched : Watched) : Prop :=
  ∀ invitation ∈ watched.invitations, Justified portals invitation ∧
    (invitation.sent.status = .invited → invitation.against = false ∧
      Tells watched.journal invitation.sent.room invitation.sent.members)

/-- Where a read would follow a conversation into a room and the homeserver invites the Sensor
there, the user has not taken the Sensor out of that room, and the journal says that it was followed
with the room's count, or says nothing of it and takes the row. -/
def OrderlyRead (watched : Watched) (answers : Answers) : Prop :=
  ∀ read ∈ portals.reading answers, Follows portals answers read.roomId read →
    answers.invites read.roomId = .done →
    read.roomId ∉ watched.left ∧
      match watched.journal[read.roomId]? with
      | some move => move.followed = true ∧ move.members = read.members
      | none => portals.journals = true ∧ answers.journaled read.roomId = true

def Orderly (watched : Watched) : RegisterStep → Prop
  | .read answers => watched.OrderlyRead portals answers
  | .setObservation answers rooms observed _ =>
    rooms ≠ [] ∧ rooms.length ≤ Portals.maxRoomsPerRequest →
      (watched.asks rooms observed).OrderlyRead portals answers

theorem tells_or_takes_iff (journal : TreeMap String PortalMove) (room : String) (members : Nat)
    (takes : Prop) :
    (Tells journal room members ∨ journal[room]? = none ∧ takes) ↔
      match journal[room]? with
      | some move => move.followed = true ∧ move.members = members
      | none => takes := by
  unfold Tells
  cases journal[room]? <;> simp

theorem respected_sends_iff {watched : Watched} (respected : watched.Respected portals)
    (answers : Answers) :
    (watched.sends portals answers (portals.read answers watched.journal).2.1
        (portals.read answers watched.journal).2.2).Respected portals ↔
      watched.OrderlyRead portals answers := by
  constructor
  · intro after read _ follows done
    obtain ⟨sent, member, room, members⟩ :=
      (exists_sent_iff portals answers watched.journal read.roomId read.members).mpr
        ⟨read, follows, rfl⟩
    have invited := (status_of_sent portals answers watched.journal member).mpr (room ▸ done)
    obtain ⟨-, kept⟩ := after ⟨portals.reading answers, sent, decide (sent.room ∈ watched.left)⟩
      (List.mem_append_right _ (List.mem_map_of_mem member))
    obtain ⟨unbidden, tells⟩ := kept invited
    have before := (tells_read_iff portals answers watched.journal member).mp tells
    rw [room, members] at before
    exact ⟨room ▸ of_decide_eq_false unbidden, (tells_or_takes_iff _ _ _ _).mp before⟩
  · intro orderly invitation member
    rcases List.mem_append.mp member with old | new
    · obtain ⟨justified, kept⟩ := respected invitation old
      refine ⟨justified, fun invited => ?_⟩
      obtain ⟨unbidden, tells⟩ := kept invited
      exact ⟨unbidden, tells.read portals answers watched.journal⟩
    · obtain ⟨sent, isSent, rfl⟩ := List.mem_map.mp new
      obtain ⟨read, follows, members⟩ :=
        (exists_sent_iff portals answers watched.journal sent.room sent.members).mp
          ⟨sent, isSent, rfl, rfl⟩
      obtain ⟨isRead, own, under, predecessor⟩ := follows.justified
      refine ⟨⟨⟨read, isRead, own, members⟩, members ▸ under, predecessor⟩, fun invited => ?_⟩
      have done := (status_of_sent portals answers watched.journal isSent).mp invited
      obtain ⟨unbidden, takes⟩ := orderly read isRead (own.symm ▸ follows) (own.symm ▸ done)
      rw [own] at unbidden takes
      refine ⟨decide_eq_false unbidden, (tells_read_iff portals answers watched.journal isSent).mpr ?_⟩
      exact (tells_or_takes_iff _ _ _ _).mpr (members ▸ takes)

theorem setObservation_eq (answers : Answers) (journal : TreeMap String PortalMove)
    (rooms : List String) (observed : Bool) (responses : Nat → Response) :
    (∃ refusal, portals.setObservation answers journal rooms observed responses = .error refusal ∧
        ¬(rooms ≠ [] ∧ rooms.length ≤ Portals.maxRoomsPerRequest)) ∨
      ∃ requested, portals.setObservation answers journal rooms observed responses = .ok requested ∧
        (rooms ≠ [] ∧ rooms.length ≤ Portals.maxRoomsPerRequest) ∧
        requested.journal = (portals.read answers journal).2.1 ∧
        requested.sent = (portals.read answers journal).2.2 := by
  unfold Portals.setObservation
  split
  · rename_i empty
    exact Or.inl ⟨_, rfl, fun named => named.1 empty⟩
  · split
    · rename_i many
      exact Or.inl ⟨_, rfl, fun few => absurd few.2 (Nat.not_le.mpr many)⟩
    · rename_i named few
      exact Or.inr ⟨_, rfl, ⟨named, Nat.not_lt.mp few⟩, rfl, rfl⟩

theorem respected_step_iff (watched : Watched) (next : RegisterStep)
    (respected : watched.Respected portals) :
    (watched.step portals next).Respected portals ↔ watched.Orderly portals next := by
  cases next with
  | read answers => exact respected_sends_iff portals respected answers
  | setObservation answers rooms observed responses =>
    have asked : (watched.asks rooms observed).Respected portals := by
      unfold asks
      split
      · exact respected
      · exact respected
    have sameJournal : (watched.asks rooms observed).journal = watched.journal := by
      unfold asks
      split <;> rfl
    have reads := respected_sends_iff portals asked answers
    rw [sameJournal] at reads
    unfold step Orderly
    dsimp only
    rcases setObservation_eq portals answers watched.journal rooms observed responses with
      ⟨refusal, is, refused⟩ | ⟨requested, is, accepted, journal, sent⟩
    · rw [is]
      exact iff_of_true respected fun accepted => absurd accepted refused
    · rw [is]
      dsimp only
      rw [journal, sent]
      exact reads.trans ⟨fun orderly _ => orderly, fun orderly => orderly accepted⟩

/-! ### The result -/

/-- After every step of a run the user's choice is respected and the journal tells the truth,
exactly when every read of the run is orderly. -/
theorem respected_iff (journal : TreeMap String PortalMove) (steps : List RegisterStep) :
    (∀ front, front <+: steps →
        (run (step portals) (start journal) front).Respected portals) ↔
      Along (step portals) (Orderly portals) (start journal) steps :=
  invariant_along_iff (Respected portals) (respected_step_iff portals)
    (fun _ member => absurd member List.not_mem_nil) steps

end Runs

/-! ### A room the user leaves twice -/

namespace LeftTwice

def bridge : PortalBridge :=
  ⟨"mautrix-whatsapp", "whatsapp", some "as-token", some "@whatsappbot:example.org"⟩

def portals : Portals := ⟨"@sensor:example.org", some "@owner:example.org", [bridge], 20, true⟩

def marker : Json :=
  .object [("type", .string "m.bridge"),
    ("content", .object [("protocol", .object [("id", .string "whatsapp")])])]

def membership (who state : String) : Json :=
  .object [("type", .string "m.room.member"), ("state_key", .string who),
    ("content", .object [("membership", .string state)])]

def tombstone (successor : String) : Json :=
  .object [("type", .string "m.room.tombstone"),
    ("content", .object [("replacement_room", .string successor)])]

def answers (sensor : String) : Answers where
  rooms := fun _ => .ok
    [("!new:example.org", .ok [marker, membership "@alice:example.org" "join",
        membership "@sensor:example.org" sensor]),
      ("!old:example.org", .ok [marker, tombstone "!new:example.org",
        membership "@alice:example.org" "join", membership "@sensor:example.org" "join"])]
  journaled := fun _ => true
  decidedAt := fun _ => "2026-09-05T10:00:00.000Z"
  invites := fun _ => .done

/-- The register follows the conversation, the user takes the Sensor out of the new room, and the
register is read again. -/
def steps : List RegisterStep :=
  [.read (answers "leave"),
    .setObservation (answers "invite") ["!new:example.org"] false fun _ => .done,
    .read (answers "leave")]

/-- The Sensor is invited into a room the user took it out of, since the room that was replaced
still has it. -/
theorem removed_sensor_is_invited_again :
    ¬∀ (portals : Portals) (steps : List RegisterStep),
      (run (step portals) (start ∅) steps).Respected portals := by
  intro always
  have again : (run (step portals) (start ∅) steps).invitations.any (fun invitation =>
      invitation.sent.status == .invited && invitation.against) = true := by decide
  obtain ⟨invitation, member, is⟩ := List.any_eq_true.mp again
  obtain ⟨invited, against⟩ := Bool.and_eq_true _ _ ▸ is
  have bidden := ((always portals steps invitation member).2 (eq_of_beq invited)).1
  exact absurd (against.symm.trans bidden) (by decide)

end LeftTwice

end Watched

end Twalk.Register
