/-
This file is about what a conversation whose room was replaced looks like. The walk of a room's
tombstones ends for every graph, at most one hop past the limit. Where no chain of replacements is
longer than the limit it ends at the room that no replacement leaves, and the rows are those rooms,
each once: a room that was read as it was read, with the Sensor where it stands, or moved when it
stood in a room whose chain ends there.
-/

import Mathlib.Data.List.Nodup
import Mathlib.Logic.Relation
import Twalk.PortalRuns

namespace Twalk.Register

open Std

/-! ### The walk ends -/

/-- One pass of the walk: the room it is at and the replacements it has followed, and from there
either the next room or where it stops. -/
def walkOnce (rooms : TreeMap String Portal) (portal : Portal) (hops : Nat) :
    (Portal × Nat) ⊕ (Portal × String) :=
  match portal.replacedBy with
  | none => .inr (portal, portal.roomId)
  | some next =>
    if maxHops < hops + 1 then .inr (portal, portal.roomId)
    else
      match rooms[next]? with
      | some further => .inl (further, hops + 1)
      | none => .inr (portal, next)

inductive Stops (rooms : TreeMap String Portal) : Nat → Portal → Nat → Portal × String → Prop
  | now {portal : Portal} {hops : Nat} {ending : Portal × String}
    (ends : walkOnce rooms portal hops = .inr ending) : Stops rooms 1 portal hops ending
  | later {passes : Nat} {portal further : Portal} {hops more : Nat} {ending : Portal × String}
    (goesOn : walkOnce rooms portal hops = .inl (further, more))
    (stops : Stops rooms passes further more ending) :
    Stops rooms (passes + 1) portal hops ending

theorem stops_walk (rooms : TreeMap String Portal) {left hops : Nat} (is : hops + left = maxHops)
    (portal : Portal) :
    ∃ passes ≤ left + 1, Stops rooms passes portal hops (walk rooms left portal) := by
  induction left generalizing hops portal with
  | zero =>
    refine ⟨1, Nat.le_refl 1, .now ?_⟩
    unfold walkOnce walk
    cases portal.replacedBy with
    | none => rfl
    | some next => exact if_pos (by omega)
  | succ left inductionHypothesis =>
    have inside : ¬maxHops < hops + 1 := by omega
    cases replaced : portal.replacedBy with
    | none =>
      refine ⟨1, by omega, .now ?_⟩
      rw [walk_alive replaced]
      unfold walkOnce
      rw [replaced]
    | some next =>
      cases found : rooms[next]? with
      | none =>
        refine ⟨1, by omega, .now ?_⟩
        rw [walk_dark replaced found]
        unfold walkOnce
        rw [replaced]
        dsimp only
        rw [if_neg inside, found]
      | some further =>
        obtain ⟨passes, few, stops⟩ := @inductionHypothesis (hops + 1) (by omega) further
        refine ⟨passes + 1, by omega, .later ?_ (walk_further replaced found left ▸ stops)⟩
        unfold walkOnce
        rw [replaced]
        dsimp only
        rw [if_neg inside, found]

/-! ### Chains of replacements -/

inductive Chain (portals : List Portal) : Nat → String → String → Prop
  | here (room : String) : Chain portals 0 room room
  | on {length : Nat} {old next last : String} (replaced : Replaced portals old next)
    (rest : Chain portals length next last) : Chain portals (length + 1) old last

/-- No chain of replacements is longer than the walk follows, so none comes back to where it was. -/
def Short (portals : List Portal) : Prop :=
  ∀ length old last, Chain portals length old last → length ≤ maxHops

/-- A room that no replacement leaves: a room that was read and is alive, or one that was not read
and that some chain ends in. -/
def Final (portals : List Portal) (room : String) : Prop :=
  (∃ portal ∈ portals, portal.roomId = room ∧ portal.replacedBy = none) ∨
    (∀ portal ∈ portals, portal.roomId ≠ room) ∧ ∃ old, Replaced portals old room

theorem Final.not_replaced {portals : List Portal}
    (distinct : (portals.map Portal.roomId).Nodup) {room next : String}
    (final : Final portals room) : ¬Replaced portals room next := by
  rintro ⟨portal, member, own, replaced⟩
  rcases final with ⟨alive, isAlive, same, unreplaced⟩ | ⟨unread, _⟩
  · rw [List.inj_on_of_nodup_map distinct isAlive member (same.trans own.symm), replaced]
      at unreplaced
    cases unreplaced
  · exact unread portal member own

variable {portal : Portal}

theorem byRoom_complete {portals : List Portal} (distinct : (portals.map Portal.roomId).Nodup)
    (member : portal ∈ portals) :
    (byRoom portals)[portal.roomId]? = some portal := by
  have written := @read_foldl Portal (TreeMap String Portal) Portal
    (fun rooms => rooms[portal.roomId]?)
    (fun rooms other => rooms.insert other.roomId other)
    (fun other => other.roomId == portal.roomId) id
    (fun rooms other same => by
      rw [TreeMap.getElem?_insert, if_pos (Std.compare_eq_iff_eq.mpr (eq_of_beq same))]
      rfl)
    (fun rooms other apart => by
      rw [TreeMap.getElem?_insert, if_neg fun same => beq_eq_false_iff_ne.mp apart
        (Std.compare_eq_iff_eq.mp same)])
    portals ∅
  have unique : latest (fun other => other.roomId == portal.roomId) portals = some portal :=
    latest_eq_of_unique member (beq_self_eq_true portal.roomId) fun other isOther same =>
      List.inj_on_of_nodup_map distinct isOther member (eq_of_beq same)
  rw [unique] at written
  exact written

theorem final_walk {portals : List Portal} (distinct : (portals.map Portal.roomId).Nodup)
    (hops : Nat) (read : portal ∈ portals)
    (short : ∀ length last, Chain portals length portal.roomId last → length ≤ hops) :
    Final portals (walk (byRoom portals) hops portal).2 := by
  induction hops generalizing portal with
  | zero =>
    cases replaced : portal.replacedBy with
    | none =>
      rw [walk_alive replaced]
      exact .inl ⟨portal, read, rfl, replaced⟩
    | some next =>
      have step := short 1 next (.on ⟨portal, read, rfl, replaced⟩ (.here next))
      omega
  | succ hops inductionHypothesis =>
    cases replaced : portal.replacedBy with
    | none =>
      rw [walk_alive replaced]
      exact .inl ⟨portal, read, rfl, replaced⟩
    | some next =>
      have leads : Replaced portals portal.roomId next := ⟨portal, read, rfl, replaced⟩
      cases found : (byRoom portals)[next]? with
      | none =>
        rw [walk_dark replaced found]
        refine .inr ⟨fun other member own => ?_, portal.roomId, leads⟩
        rw [← show other.roomId = next from own, byRoom_complete distinct member] at found
        cases found
      | some further =>
        obtain ⟨member, own⟩ := byRoom_sound found
        rw [walk_further replaced found]
        refine inductionHypothesis member fun length last chain => ?_
        have longer := short (length + 1) last (.on leads (own ▸ chain))
        omega

theorem walk_eq_iff {portals : List Portal} (distinct : (portals.map Portal.roomId).Nodup)
    (short : Short portals) (read : portal ∈ portals) (dead : portal.replacedBy.isSome = true)
    {room : String} (final : Final portals room) :
    (walk (byRoom portals) maxHops portal).2 = room ↔
      Relation.TransGen (Replaced portals) portal.roomId room := by
  have leads := walk_leads (fun _ _ found => byRoom_sound found) read dead
  constructor
  · rintro rfl
    exact leads
  · intro leadsThere
    have unique : Relator.RightUnique (Replaced portals) := by
      rintro old new other ⟨first, isFirst, sameFirst, isNew⟩
        ⟨second, isSecond, sameSecond, isOther⟩
      have same := List.inj_on_of_nodup_map distinct isFirst isSecond
        (sameFirst.trans sameSecond.symm)
      rw [same, isOther] at isNew
      exact (Option.some.inj isNew).symm
    have ends : Final portals (walk (byRoom portals) maxHops portal).2 :=
      final_walk distinct maxHops read fun length last chain => short length _ last chain
    have stays : ∀ {first last : String}, Final portals first →
        Relation.ReflTransGen (Replaced portals) first last → first = last := by
      intro first last isFinal path
      rcases path.cases_head with same | ⟨next, replaced, _⟩
      · exact same
      · exact absurd replaced (isFinal.not_replaced distinct)
    rcases Relation.ReflTransGen.total_of_right_unique unique leads.to_reflTransGen
      leadsThere.to_reflTransGen with onwards | backwards
    · exact stays ends onwards
    · exact (stays final backwards).symm

/-! ### The rows -/

/-- Where a room stands whose own reading, if it was read, and whether the Sensor came from a room
that it replaced are known. -/
def carried (live : Option Observation) (handed : Bool) : Observation :=
  match live with
  | some observation =>
    if observation.sensorIsInTheRoom then observation else if handed then .moved else observation
  | none => if handed then .moved else .absent

theorem carried_or (live : Option Observation) (handed again : Bool) :
    carried live (handed || again) =
      if again = true ∧ ¬(carried live handed).sensorIsInTheRoom = true then .moved
      else carried live handed := by
  cases live with
  | none => cases handed <;> cases again <;> rfl
  | some observation => cases observation <;> cases handed <;> cases again <;> rfl

instance (rooms : TreeMap String Portal) (portal : Portal) (room : String) :
    Decidable (HandsOn rooms portal room) :=
  inferInstanceAs (Decidable (_ ∧ _ ∧ _))

def hands (rooms : TreeMap String Portal) (done : List Portal) (room : String) : Bool :=
  done.any fun portal => decide (HandsOn rooms portal room)

theorem hands_concat (rooms : TreeMap String Portal) (done : List Portal) (portal : Portal)
    (room : String) : hands rooms (done ++ [portal]) room =
      (hands rooms done room || decide (HandsOn rooms portal room)) := by
  simp only [hands, List.any_append, List.any_cons, List.any_nil, Bool.or_false]

/-- What the rows are after some of the rooms have been folded, in whatever order: one at the end
of each of their walks, which keeps what was read and stands where the Sensor is carried. -/
structure Merged (rooms : TreeMap String Portal) (done : List Portal)
    (folded : TreeMap String Portal) : Prop where
  landed : ∀ room, folded[room]?.isSome = true ↔
    ∃ portal ∈ done, (walk rooms maxHops portal).2 = room
  live : ∀ (room : String) (read row : Portal), rooms[room]? = some read →
    folded[room]? = some row →
    { row with movedFrom := read.movedFrom, observation := read.observation } = read ∧
      (read.movedFrom.isSome = true → row.movedFrom = read.movedFrom)
  stands : ∀ (room : String) (row : Portal), folded[room]? = some row →
    row.observation = carried (rooms[room]?.map Portal.observation) (hands rooms done room)

section Fold

variable {rooms : TreeMap String Portal} {done : List Portal} {folded : TreeMap String Portal}
  {portal : Portal}

theorem merged_empty (rooms : TreeMap String Portal) : Merged rooms [] ∅ := by
  refine ⟨fun room => ?_, fun room read row _ found => ?_, fun room row found => ?_⟩
  · rw [TreeMap.getElem?_emptyc]
    refine iff_of_false Bool.false_ne_true ?_
    rintro ⟨portal, member, _⟩
    cases member
  · rw [TreeMap.getElem?_emptyc] at found
    cases found
  · rw [TreeMap.getElem?_emptyc] at found
    cases found

theorem Merged.hands_eq_false (before : Merged rooms done folded) {room : String}
    (nothing : folded[room]? = none) : hands rooms done room = false := by
  unfold hands
  rw [List.any_eq_false]
  intro other member handsOn
  have landed := (before.landed room).mpr ⟨other, member, (of_decide_eq_true handsOn).2.2⟩
  rw [nothing] at landed
  cases landed

theorem landed_concat {row : Portal} (before : Merged rooms done folded) {room : String}
    (ends : (walk rooms maxHops portal).2 = room) (other : String) :
    (folded.insert room row)[other]?.isSome = true ↔
      ∃ earlier ∈ done ++ [portal], (walk rooms maxHops earlier).2 = other := by
  simp only [List.mem_append, List.mem_singleton, or_and_right, exists_or, exists_eq_left,
    ← before.landed, ends]
  rw [TreeMap.getElem?_insert]
  by_cases same : room = other
  · rw [if_pos (Std.compare_eq_iff_eq.mpr same)]
    exact ⟨fun _ => .inr same, fun _ => rfl⟩
  · rw [if_neg fun is => same (Std.compare_eq_iff_eq.mp is)]
    exact ⟨.inl, fun either => either.resolve_right same⟩

theorem merged_alive (before : Merged rooms done folded) (alive : portal.replacedBy = none)
    (own : rooms[portal.roomId]? = some portal) (asRead : portal.AsRead) :
    Merged rooms (done ++ [portal]) (foldAlive folded portal) := by
  have handed : ∀ room, hands rooms (done ++ [portal]) room = hands rooms done room := by
    intro room
    have alone : ¬HandsOn rooms portal room := by
      rintro ⟨dead, _⟩
      rw [alive] at dead
      cases dead
    rw [hands_concat, decide_eq_false alone, Bool.or_false]
  have here : (walk rooms maxHops portal).2 = portal.roomId := by rw [walk_alive alive]
  unfold foldAlive
  refine ⟨landed_concat before here, ?_, ?_⟩
  · intro room read row isRead found
    rw [TreeMap.getElem?_insert] at found
    split at found
    · rename_i same
      obtain rfl := Std.compare_eq_iff_eq.mp same
      obtain rfl := Option.some.inj (own.symm.trans isRead)
      obtain rfl := Option.some.inj found
      cases placed : folded[portal.roomId]? with
      | none => exact ⟨rfl, fun _ => rfl⟩
      | some fromTombstone =>
        obtain ⟨_, kept⟩ := before.live _ portal fromTombstone own placed
        refine ⟨by simp [← asRead.1], fun named => ?_⟩
        show fromTombstone.movedFrom.or portal.movedFrom = portal.movedFrom
        rw [kept named]
        cases portal.movedFrom <;> rfl
    · exact before.live room read row isRead found
  · intro room row found
    rw [handed]
    rw [TreeMap.getElem?_insert] at found
    split at found
    · rename_i same
      obtain rfl := Std.compare_eq_iff_eq.mp same
      obtain rfl := Option.some.inj found
      rw [own]
      cases placed : folded[portal.roomId]? with
      | none =>
        rw [before.hands_eq_false placed]
        dsimp only [Option.map_some, carried]
        cases portal.observation <;> rfl
      | some fromTombstone =>
        have stands := before.stands _ fromTombstone placed
        rw [own] at stands
        dsimp only [Option.map_some, carried] at stands ⊢
        rw [stands]
        cases portal.observation <;> rfl
    · exact before.stands room row found

theorem Merged.live_base (before : Merged rooms done folded) {room : String} {read : Portal}
    (isRead : rooms[room]? = some read) (dark : Portal) :
    { folded[room]?.getD (rooms[room]?.getD dark) with
        movedFrom := read.movedFrom, observation := read.observation } = read ∧
      (read.movedFrom.isSome = true →
        (folded[room]?.getD (rooms[room]?.getD dark)).movedFrom = read.movedFrom) := by
  cases placed : folded[room]? with
  | some row => exact before.live room read row isRead placed
  | none =>
    rw [isRead]
    exact ⟨rfl, fun _ => rfl⟩

theorem Merged.stands_base (before : Merged rooms done folded) {room : String} {dark : Portal}
    (absent : dark.observation = .absent) :
    (folded[room]?.getD (rooms[room]?.getD dark)).observation =
      carried (rooms[room]?.map Portal.observation) (hands rooms done room) := by
  cases placed : folded[room]? with
  | some row => exact before.stands room row placed
  | none =>
    rw [before.hands_eq_false placed]
    cases rooms[room]? with
    | none => exact absent
    | some read =>
      dsimp only [Option.getD_none, Option.getD_some, Option.map_some, carried]
      cases read.observation <;> rfl

theorem merged_dead (before : Merged rooms done folded) (dead : portal.replacedBy.isSome = true)
    (botRooms : List String) :
    Merged rooms (done ++ [portal]) (foldDead rooms botRooms folded portal) := by
  have elsewhere : ∀ room, (walk rooms maxHops portal).2 ≠ room →
      hands rooms (done ++ [portal]) room = hands rooms done room := by
    intro room apart
    rw [hands_concat, decide_eq_false fun handsOn => apart handsOn.2.2, Bool.or_false]
  have here : hands rooms (done ++ [portal]) (walk rooms maxHops portal).2 =
      (hands rooms done (walk rooms maxHops portal).2 ||
        portal.observation.sensorIsInTheRoom) := by
    rw [hands_concat]
    congr 1
    cases inRoom : portal.observation.sensorIsInTheRoom with
    | true => exact decide_eq_true ⟨dead, inRoom, rfl⟩
    | false =>
      exact decide_eq_false fun handsOn => Bool.false_ne_true (inRoom.symm.trans handsOn.2.1)
  unfold foldDead
  dsimp only
  refine ⟨landed_concat before rfl, ?_, ?_⟩
  · intro room read row isRead found
    rw [TreeMap.getElem?_insert] at found
    split at found
    · rename_i same
      obtain rfl := Std.compare_eq_iff_eq.mp same
      obtain rfl := Option.some.inj found
      obtain ⟨isLive, kept⟩ := before.live_base isRead
        (inTheDark (walk rooms maxHops portal).1 (walk rooms maxHops portal).2 botRooms)
      refine ⟨isLive, fun named => ?_⟩
      dsimp only
      rw [kept named]
      cases origin : read.movedFrom with
      | none =>
        rw [origin] at named
        cases named
      | some first => rfl
    · exact before.live room read row isRead found
  · intro room row found
    rw [TreeMap.getElem?_insert] at found
    split at found
    · rename_i same
      obtain rfl := Std.compare_eq_iff_eq.mp same
      obtain rfl := Option.some.inj found
      have dark : (inTheDark (walk rooms maxHops portal).1 (walk rooms maxHops portal).2
          botRooms).observation = .absent := rfl
      rw [here, carried_or, ← before.stands_base dark]
    · rename_i apart
      rw [elsewhere room fun same => apart (Std.compare_eq_iff_eq.mpr same)]
      exact before.stands room row found

end Fold

theorem merged_foldRooms {portals : List Portal} (asRead : ∀ portal ∈ portals, portal.AsRead)
    (botRooms : List String) :
    Merged (byRoom portals) ((byRoom portals).toList.map Prod.snd)
      (foldRooms portals botRooms) := by
  have own : ∀ portal ∈ (byRoom portals).toList.map Prod.snd,
      (byRoom portals)[portal.roomId]? = some portal ∧ portal.AsRead := by
    intro portal member
    obtain ⟨entry, among, rfl⟩ := List.mem_map.mp member
    have found := TreeMap.mem_toList_iff_getElem?_eq_some.mp among
    obtain ⟨isRead, named⟩ := byRoom_sound found
    exact ⟨named.symm ▸ found, asRead _ isRead⟩
  unfold foldRooms
  generalize byRoom portals = rooms at own
  have steps (done later : List Portal) (folded : TreeMap String Portal)
      (before : Merged rooms done folded)
      (own : ∀ portal ∈ later, rooms[portal.roomId]? = some portal ∧ portal.AsRead) :
      Merged rooms (done ++ later) (later.foldl (foldRoom rooms botRooms) folded) := by
    induction later generalizing done folded with
    | nil =>
      rw [List.append_nil]
      exact before
    | cons first rest inductionHypothesis =>
      obtain ⟨isRead, readable⟩ := own first List.mem_cons_self
      have after : Merged rooms (done ++ [first]) (foldRoom rooms botRooms folded first) := by
        unfold foldRoom
        cases dead : first.replacedBy with
        | none => exact merged_alive before dead isRead readable
        | some next => exact merged_dead before (by rw [dead]; rfl) botRooms
      have whole := inductionHypothesis (done ++ [first]) _ after fun portal member =>
        own portal (List.mem_cons_of_mem first member)
      rw [List.append_assoc] at whole
      exact whole
  exact steps [] _ ∅ (merged_empty rooms) own

/-- Every conversation is one row: the room its replacements end at, as it was read, with the Sensor
where it stands now, or moved where it stood in a room whose replacements end there. -/
structure FoldedOnce (portals : List Portal) (rows : List Portal) : Prop where
  once : (rows.map Portal.roomId).Nodup
  finals : ∀ room, room ∈ rows.map Portal.roomId ↔ Final portals room
  replaced : ∀ old next, Replaced portals old next → old ∉ rows.map Portal.roomId
  live : ∀ row ∈ rows, ∀ portal ∈ portals, portal.roomId = row.roomId →
    { row with movedFrom := portal.movedFrom, observation := portal.observation } = portal ∧
      (portal.movedFrom.isSome = true → row.movedFrom = portal.movedFrom) ∧
      (portal.observation.sensorIsInTheRoom = true → row.observation = portal.observation)
  moved : ∀ row ∈ rows,
    (∀ portal ∈ portals, portal.roomId = row.roomId →
      portal.observation.sensorIsInTheRoom = false) →
    (∃ left ∈ portals, left.observation.sensorIsInTheRoom = true ∧
      Relation.TransGen (Replaced portals) left.roomId row.roomId) → row.observation = .moved
  absent : ∀ row ∈ rows,
    (∀ portal ∈ portals, portal.roomId = row.roomId →
      portal.observation.sensorIsInTheRoom = false) →
    (¬∃ left ∈ portals, left.observation.sensorIsInTheRoom = true ∧
      Relation.TransGen (Replaced portals) left.roomId row.roomId) → row.observation = .absent

section Result

variable {portals : List Portal}

theorem mem_toList_byRoom_iff (distinct : (portals.map Portal.roomId).Nodup) :
    portal ∈ (byRoom portals).toList.map Prod.snd ↔ portal ∈ portals := by
  constructor
  · intro member
    obtain ⟨entry, among, rfl⟩ := List.mem_map.mp member
    exact (byRoom_sound (TreeMap.mem_toList_iff_getElem?_eq_some.mp among)).1
  · intro member
    exact List.mem_map.mpr ⟨(portal.roomId, portal),
      TreeMap.mem_toList_iff_getElem?_eq_some.mpr (byRoom_complete distinct member), rfl⟩

theorem mem_foldTombstones_iff {botRooms : List String} {row : Portal} :
    row ∈ foldTombstones portals botRooms ↔
      ∃ room : String, (foldRooms portals botRooms)[room]? = some row := by
  unfold foldTombstones
  simp only [List.mem_map, Prod.exists, TreeMap.mem_toList_iff_getElem?_eq_some]
  exact ⟨fun ⟨room, _, found, same⟩ => ⟨room, same ▸ found⟩,
    fun ⟨room, found⟩ => ⟨room, row, found, rfl⟩⟩

theorem hands_iff (distinct : (portals.map Portal.roomId).Nodup) (short : Short portals)
    {room : String} (final : Final portals room) :
    hands (byRoom portals) ((byRoom portals).toList.map Prod.snd) room = true ↔
      ∃ left ∈ portals, left.observation.sensorIsInTheRoom = true ∧
        Relation.TransGen (Replaced portals) left.roomId room := by
  unfold hands
  simp only [List.any_eq_true, decide_eq_true_eq, mem_toList_byRoom_iff distinct]
  refine exists_congr fun left => and_congr_right fun read => ?_
  constructor
  · rintro ⟨dead, inRoom, ends⟩
    exact ⟨inRoom, (walk_eq_iff distinct short read dead final).mp ends⟩
  · rintro ⟨inRoom, leads⟩
    obtain ⟨next, ⟨portal, isPortal, same, replaced⟩, _⟩ := Relation.TransGen.head'_iff.mp leads
    obtain rfl := List.inj_on_of_nodup_map distinct isPortal read same
    have dead : portal.replacedBy.isSome = true := by
      rw [replaced]
      rfl
    exact ⟨dead, inRoom, (walk_eq_iff distinct short read dead final).mpr leads⟩

theorem mem_rows_iff (distinct : (portals.map Portal.roomId).Nodup)
    (asRead : ∀ portal ∈ portals, portal.AsRead) (short : Short portals) (botRooms : List String)
    (room : String) :
    room ∈ (foldTombstones portals botRooms).map Portal.roomId ↔ Final portals room := by
  have merged := merged_foldRooms asRead botRooms
  have keyed := (folded_foldRooms asRead botRooms).keyed
  have isRow : room ∈ (foldTombstones portals botRooms).map Portal.roomId ↔
      (foldRooms portals botRooms)[room]?.isSome = true := by
    rw [List.mem_map, Option.isSome_iff_exists]
    constructor
    · rintro ⟨row, member, rfl⟩
      obtain ⟨place, found⟩ := mem_foldTombstones_iff.mp member
      exact ⟨row, keyed place row found ▸ found⟩
    · rintro ⟨row, found⟩
      exact ⟨row, mem_foldTombstones_iff.mpr ⟨room, found⟩, keyed room row found⟩
  rw [isRow, merged.landed]
  constructor
  · rintro ⟨portal, member, rfl⟩
    exact final_walk distinct maxHops ((mem_toList_byRoom_iff distinct).mp member)
      fun length last chain => short length _ last chain
  · intro final
    rcases id final with ⟨portal, read, rfl, alive⟩ | ⟨_, old, portal, read, rfl, replaced⟩
    · exact ⟨portal, (mem_toList_byRoom_iff distinct).mpr read, by rw [walk_alive alive]⟩
    · have dead : portal.replacedBy.isSome = true := by
        rw [replaced]
        rfl
      exact ⟨portal, (mem_toList_byRoom_iff distinct).mpr read,
        (walk_eq_iff distinct short read dead final).mpr (.single ⟨portal, read, rfl, replaced⟩)⟩

/-- A replaced conversation is one row, wherever its rooms' ids sort; and the walk that finds it
stops for every graph, cycles included. -/
theorem foldedOnce (distinct : (portals.map Portal.roomId).Nodup)
    (asRead : ∀ portal ∈ portals, portal.AsRead) (short : Short portals) (botRooms : List String) :
    FoldedOnce portals (foldTombstones portals botRooms) ∧
      ∀ (graph : List Portal) (portal : Portal), ∃ passes ≤ maxHops + 1,
        Stops (byRoom graph) passes portal 0 (walk (byRoom graph) maxHops portal) := by
  have merged := merged_foldRooms asRead botRooms
  have keyed := (folded_foldRooms asRead botRooms).keyed
  have finals := mem_rows_iff distinct asRead short botRooms
  have found : ∀ {row}, row ∈ foldTombstones portals botRooms →
      (foldRooms portals botRooms)[row.roomId]? = some row := by
    intro row member
    obtain ⟨place, found⟩ := mem_foldTombstones_iff.mp member
    exact keyed place row found ▸ found
  -- Where the Sensor is not in a row's own room, the row stands where it was carried.
  have carries : ∀ row ∈ foldTombstones portals botRooms,
      (∀ portal ∈ portals, portal.roomId = row.roomId →
        portal.observation.sensorIsInTheRoom = false) →
      row.observation = if hands (byRoom portals) ((byRoom portals).toList.map Prod.snd)
        row.roomId then .moved else .absent := by
    intro row member outside
    rw [merged.stands row.roomId row (found member)]
    cases isRead : (byRoom portals)[row.roomId]? with
    | none => rfl
    | some portal =>
      obtain ⟨read, named⟩ := byRoom_sound isRead
      have there := outside portal read named
      have unmoved := (asRead portal read).2
      dsimp only [Option.map_some, carried]
      generalize portal.observation = place at there unmoved ⊢
      cases place with
      | observing => cases there
      | invited => cases there
      | moved => exact absurd rfl unmoved
      | absent => rfl
  refine ⟨⟨?_, finals, fun old next replaced isRow => ?_, fun row member portal read same => ?_,
    fun row member outside came => ?_, fun row member outside stayed => ?_⟩,
    fun graph portal => stops_walk (byRoom graph) (Nat.zero_add maxHops) portal⟩
  · have own : ∀ entry ∈ (foldRooms portals botRooms).toList,
        (Portal.roomId ∘ Prod.snd) entry = entry.1 := fun entry member =>
      keyed _ _ (TreeMap.mem_toList_iff_getElem?_eq_some.mp member)
    unfold foldTombstones
    rw [List.map_map, List.map_congr_left own, List.nodup_iff_pairwise_ne, List.pairwise_map]
    exact TreeMap.distinct_keys_toList.imp fun apart same => apart (by rw [same]; simp)
  · exact ((finals old).mp isRow).not_replaced distinct replaced
  · have isRead : (byRoom portals)[row.roomId]? = some portal :=
      same ▸ byRoom_complete distinct read
    obtain ⟨live, named⟩ := merged.live row.roomId portal row isRead (found member)
    refine ⟨live, named, fun inRoom => ?_⟩
    rw [merged.stands row.roomId row (found member), isRead]
    dsimp only [Option.map_some, carried]
    rw [if_pos inRoom]
  · have final := (finals row.roomId).mp (List.mem_map_of_mem member)
    rw [carries row member outside, if_pos ((hands_iff distinct short final).mpr came)]
  · have final := (finals row.roomId).mp (List.mem_map_of_mem member)
    rw [carries row member outside,
      if_neg fun handed => stayed ((hands_iff distinct short final).mp handed)]

end Result

/-! ### A conversation that was replaced twice -/

namespace TwiceReplaced

def room (roomId : String) (observation : Observation) (replacedBy : Option String) : Portal where
  roomId
  bridgeId := "whatsapp"
  network := "whatsapp"
  name := some "Maria"
  networkConversationId := none
  members := 2
  observation
  owner := none
  movedFrom := none
  unreadable := none
  replacedBy

/-- A chain whose rooms sort against its direction, and one that ends in the dark. -/
def portals : List Portal :=
  [room "!c:x" .observing (some "!a:x"), room "!a:x" .absent (some "!b:x"),
    room "!b:x" .absent none, room "!d:x" .invited (some "!dark:x")]

def left (roomId : String) : Nat :=
  if roomId = "!c:x" then 2 else if roomId = "!a:x" ∨ roomId = "!d:x" then 1 else 0

theorem short_portals : Short portals := by
  have falls : ∀ old next, Replaced portals old next → left next + 1 = left old := by
    rintro old next ⟨portal, member, rfl, replaced⟩
    simp only [portals, List.mem_cons, List.not_mem_nil, or_false] at member
    rcases member with rfl | rfl | rfl | rfl
    · exact Option.some.inj replaced ▸ by decide
    · exact Option.some.inj replaced ▸ by decide
    · cases replaced
    · exact Option.some.inj replaced ▸ by decide
  have few : ∀ length old last, Chain portals length old last → length + left last = left old := by
    intro length old last chain
    induction chain with
    | here room => exact Nat.zero_add _
    | on replaced rest inductionHypothesis =>
      have fell := falls _ _ replaced
      omega
  intro length old last chain
  have bound : left old ≤ 2 := by
    unfold left
    split <;> (try split) <;> decide
  have exactly := few length old last chain
  have limit : maxHops = 32 := rfl
  omega

theorem foldedOnce_portals : FoldedOnce portals (foldTombstones portals []) ∧
    ∀ (graph : List Portal) (portal : Portal), ∃ passes ≤ maxHops + 1,
      Stops (byRoom graph) passes portal 0 (walk (byRoom graph) maxHops portal) :=
  foldedOnce (by decide)
    (by
      intro portal member
      simp only [portals, List.mem_cons, List.not_mem_nil, or_false] at member
      rcases member with rfl | rfl | rfl | rfl <;> exact ⟨rfl, by decide⟩)
    short_portals []

end TwiceReplaced

end Twalk.Register
