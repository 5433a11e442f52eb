/-
This file is about what a registry that was accepted tells apart: `from_config` of
`companion-gateway/src/connections.rs`. A connection that names a bridge is to be of the bridge's
network, and two of one kind are to name two bots, since the Sensor knows a portal by its bot. An
entry is named after any bridge of its id, though, and several may ride the only bridge of their
kind.
-/

import Twalk.ConnectionsConfig
import Twalk.Library.Fallible

namespace Twalk.Registry

/-! ### What the entries name -/

def namedBy (entry : String) : Option (String × String) :=
  let id := Text.trim (((Text.splitOnce '=' entry).map Prod.fst).getD entry)
  let kind := (((Text.splitOnce '=' entry).map Prod.snd).map fun rest =>
    Text.trim (((Text.splitOnce '=' rest).map Prod.fst).getD rest)).filter fun kind => kind != ""
  kind.map fun kind => (id, kind)

def entriesNamed (declared : Option String) : List (String × String) :=
  match (declared.map Text.trim).filter fun value => value != "" with
  | none => []
  | some declared =>
    (((Text.split ',' declared).map Text.trim).filter fun entry => entry != "").filterMap namedBy

def botFound (bridges : List Carrier) (entry : String × String) : Option String :=
  (bridgeOf bridges entry.1 entry.2).bind Carrier.botUserId

def Carried (bridges : List Carrier) (kind : String) : Prop :=
  ∃ bridge ∈ bridges, bridge.network = kind

/-- The entries of a declaration fit their bridges: one that has the id of a bridge is of the
network of a bridge of that id, and two of one kind do not find one bot. -/
structure FitsItsBridges (declared : Option String) (bridges : List Carrier) : Prop where
  ofItsNetwork : ∀ entry ∈ entriesNamed declared,
    (∃ bridge ∈ bridges, bridge.bridgeId = entry.1) →
      ∃ bridge ∈ bridges, bridge.bridgeId = entry.1 ∧ bridge.network = entry.2
  ofItsOwnBot : ∀ entry ∈ entriesNamed declared, ∀ other ∈ entriesNamed declared,
    entry ≠ other → entry.2 = other.2 → Carried bridges entry.2 →
      botFound bridges entry ≠ botFound bridges other

structure ToldApart (registry : Registry) (bridges : List Carrier) : Prop where
  idsValid : ∀ connection ∈ registry.connections, idIsValid connection.id = true
  idsDistinct : (registry.connections.map Connection.id).Nodup
  ofItsNetwork : ∀ connection ∈ registry.connections, ∀ bridgeId,
    connection.bridgeId = some bridgeId →
      ∃ bridge ∈ bridges, bridge.bridgeId = bridgeId ∧ bridge.network = connection.kind
  ofItsOwnBot : ∀ connection ∈ registry.connections, ∀ other ∈ registry.connections,
    connection ≠ other → connection.kind = other.kind → Carried bridges connection.kind →
      ∃ bot otherBot, connection.bridgeBot = some bot ∧ other.bridgeBot = some otherBot ∧
        bot ≠ otherBot

/-! ### One entry -/

structure DeclaredAs (bridges : List Carrier) (named : String × String) (connection : Connection) :
    Prop where
  id : connection.id = named.1
  kind : connection.kind = named.2
  bridgeId : connection.bridgeId = (bridgeOf bridges named.1 named.2).map Carrier.bridgeId
  bridgeBot : connection.bridgeBot = botFound bridges named

variable {bridges : List Carrier} {connection : Connection}

theorem declaredAs_of_parseEntry {entry : String}
    (parsed : parseEntry bridges entry = .ok connection) :
    ∃ named, namedBy entry = some named ∧ DeclaredAs bridges named connection := by
  unfold parseEntry at parsed
  dsimp only at parsed
  unfold namedBy
  dsimp only
  generalize (((Text.splitOnce '=' entry).map Prod.snd).map fun rest =>
    Text.trim (((Text.splitOnce '=' rest).map Prod.fst).getD rest)).filter
      (fun kind => kind != "") = kind at parsed ⊢
  cases kind with
  | none => exact absurd parsed nofun
  | some kind =>
    rw [← Except.ok.inj parsed]
    exact ⟨_, rfl, rfl, rfl, rfl, rfl⟩

theorem of_bridgeOf {id kind : String} {bridge : Carrier}
    (found : bridgeOf bridges id kind = some bridge) :
    bridge ∈ bridges ∧ (bridge.bridgeId = id ∨ bridge.network = kind) := by
  unfold bridgeOf at found
  rcases Option.or_eq_some_iff.mp found with byId | ⟨-, byKind⟩
  · exact ⟨List.mem_of_find?_eq_some byId, .inl (eq_of_beq (List.find?_some byId :))⟩
  · split at byKind
    · rename_i only single
      cases byKind
      have member : bridge ∈ bridges.filter fun other => other.network == kind := by
        rw [single]
        exact List.mem_singleton_self bridge
      obtain ⟨isBridge, ofKind⟩ := List.mem_filter.mp member
      exact ⟨isBridge, .inr (eq_of_beq ofKind)⟩
    · cases byKind

theorem exists_bridgeOf_of_id {id kind : String} (named : ∃ bridge ∈ bridges, bridge.bridgeId = id)
    :
    ∃ bridge, bridgeOf bridges id kind = some bridge ∧ bridge.bridgeId = id := by
  unfold bridgeOf
  cases found : bridges.find? fun bridge => bridge.bridgeId == id with
  | none =>
    obtain ⟨bridge, member, same⟩ := named
    have other := List.find?_eq_none.mp found bridge member
    simp [same] at other
  | some bridge => exact ⟨bridge, rfl, eq_of_beq (List.find?_some found :)⟩

/-! ### What was accepted -/

variable {declared : Option String} {homeserverName : String}

theorem checked_of_fromConfig {registry : Registry}
    (accepted : fromConfig declared bridges homeserverName = .ok registry) :
    configured declared bridges homeserverName = .ok registry.connections ∧
      (∀ connection ∈ registry.connections,
        unnamed bridges registry.connections connection = none) ∧
      ∀ connection ∈ registry.connections,
        unrecognisable registry.connections connection = none := by
  unfold fromConfig at accepted
  split at accepted
  · cases accepted
  · rename_i connections isConfigured
    split at accepted
    · cases accepted
    · split at accepted
      · cases accepted
      · split at accepted
        · cases accepted
        · rename_i noneLeft
          cases accepted
          obtain ⟨named, recognisable⟩ := Option.or_eq_none_iff.mp noneLeft
          exact ⟨isConfigured, List.findSome?_eq_none_iff.mp named,
            List.findSome?_eq_none_iff.mp recognisable⟩

variable {connections : List Connection}

theorem countOfKind_of_ne {connection other : Connection} (member : connection ∈ connections)
    (otherMember : other ∈ connections) (differ : connection ≠ other)
    (sameKind : connection.kind = other.kind) :
    1 < countOfKind connections connection.kind := by
  unfold countOfKind
  have inKind : connection ∈ connections.filter fun each => each.kind == connection.kind :=
    List.mem_filter.mpr ⟨member, beq_self_eq_true _⟩
  have otherInKind : other ∈ connections.filter fun each => each.kind == connection.kind :=
    List.mem_filter.mpr ⟨otherMember, by rw [sameKind]; exact beq_self_eq_true _⟩
  generalize connections.filter (fun each => each.kind == connection.kind) = several at *
  match several with
  | [] => cases inKind
  | [only] =>
    rw [List.mem_singleton] at inKind otherInKind
    exact absurd (inKind.trans otherInKind.symm) differ
  | _ :: _ :: _ => simp

theorem exists_bot_of_checked (several : 1 < countOfKind connections connection.kind)
    (carried : Carried bridges connection.kind)
    (isNamed : unnamed bridges connections connection = none)
    (isRecognisable : unrecognisable connections connection = none) :
    ∃ bot, connection.bridgeBot = some bot := by
  obtain ⟨bridge, member, ofKind⟩ := carried
  have anyBridge : (bridges.any fun bridge => bridge.network == connection.kind) = true :=
    List.any_eq_true.mpr ⟨bridge, member, by rw [ofKind]; exact beq_self_eq_true _⟩
  unfold unnamed at isNamed
  unfold unrecognisable at isRecognisable
  rw [decide_eq_true several] at isNamed isRecognisable
  rw [anyBridge] at isNamed
  cases rides : connection.bridgeId with
  | none => simp [rides] at isNamed
  | some bridgeId =>
    cases named : connection.bridgeBot with
    | none => simp [rides, named] at isRecognisable
    | some bot => exact ⟨bot, rfl⟩

/-! ### What is derived -/

/-- The connections that are derived are each of the network of the bridge that carries it, and of
no network is there a second. -/
structure Derived (bridges : List Carrier) (connections : List Connection) : Prop where
  carried : ∀ connection ∈ connections, ∃ bridge ∈ bridges,
    connection.bridgeId = some bridge.bridgeId ∧ bridge.network = connection.kind
  kindsDistinct : (connections.map Connection.kind).Nodup

theorem derived_derivedFromBridges (bridges : List Carrier) :
    Derived bridges (derivedFromBridges bridges) := by
  unfold derivedFromBridges
  have each : ∀ (rest : List Carrier) (connections : List Connection), rest ⊆ bridges →
      Derived bridges connections →
      Derived bridges (rest.foldl (fun connections bridge =>
        if connections.any fun known => known.kind == bridge.network then connections
        else connections ++
          [carriedBy bridge.network bridge.network bridge.bridgeId (some bridge)])
        connections) := by
    intro rest
    induction rest with
    | nil => exact fun _ _ derived => derived
    | cons bridge others inductionHypothesis =>
      intro connections subset derived
      rw [List.foldl_cons]
      refine inductionHypothesis _ (fun other member => subset (List.mem_cons_of_mem _ member)) ?_
      by_cases known : (connections.any fun known => known.kind == bridge.network) = true
      · rw [if_pos known]
        exact derived
      · rw [if_neg known]
        refine ⟨fun connection member => ?_, ?_⟩
        · rcases List.mem_append.mp member with before | added
          · exact derived.carried connection before
          · cases List.mem_singleton.mp added
            exact ⟨bridge, subset List.mem_cons_self, rfl, rfl⟩
        · rw [List.map_append, List.map_singleton, ← List.concat_eq_append]
          refine List.Nodup.concat (fun again => ?_) derived.kindsDistinct
          obtain ⟨other, member, same⟩ := List.mem_map.mp again
          exact known (List.any_eq_true.mpr ⟨other, member, by
            rw [same]
            exact beq_self_eq_true _⟩)
  exact each bridges [] (List.Subset.refl bridges) ⟨nofun, List.nodup_nil⟩

/-! ### Where the connections come from -/

/-- The connections of a configuration before the native one: each is an entry's, in order, or they
are derived where nothing is declared. -/
inductive From (declared : Option String) (bridges : List Carrier) (connections : List Connection) :
    Prop where
  | derived (nothing : entriesNamed declared = []) (isDerived : Derived bridges connections)
  | declared
    (each : List.Forall₂ (DeclaredAs bridges) (entriesNamed declared) connections)

theorem declaredAs_of_entries {entries : List String}
    (parsed : List.Forall₂ (fun entry connection => parseEntry bridges entry = .ok connection)
      entries connections) :
    List.Forall₂ (DeclaredAs bridges) (entries.filterMap namedBy) connections := by
  induction parsed with
  | nil => exact List.Forall₂.nil
  | cons head _ inductionHypothesis =>
    obtain ⟨named, isNamed, declaredAs⟩ := declaredAs_of_parseEntry head
    rw [List.filterMap_cons_some isNamed]
    exact List.Forall₂.cons declaredAs inductionHypothesis

theorem exists_from_of_configured
    (isConfigured : configured declared bridges homeserverName = .ok connections) :
    ∃ front, From declared bridges front ∧ (connections = front ∨
      connections = front ++ [carriedBy "matrix" "matrix" homeserverName none] ∧
        ∀ connection ∈ front, connection.kind ≠ "matrix") := by
  have withNative : ∀ front, (if (front.any fun connection => connection.kind == "matrix") = true
      then Except.ok front
      else Except.ok (front ++ [carriedBy "matrix" "matrix" homeserverName none])) =
        (.ok connections : Except ConfigRefusal (List Connection)) →
      connections = front ∨
        connections = front ++ [carriedBy "matrix" "matrix" homeserverName none] ∧
          ∀ connection ∈ front, connection.kind ≠ "matrix" := by
    intro front isWhole
    split at isWhole
    · cases isWhole
      exact .inl rfl
    · rename_i noMatrix
      cases isWhole
      refine .inr ⟨rfl, fun connection member same => noMatrix ?_⟩
      exact List.any_eq_true.mpr ⟨connection, member, by rw [same]; rfl⟩
  unfold configured at isConfigured
  cases stated : (declared.map Text.trim).filter fun value => value != "" with
  | none =>
    rw [stated] at isConfigured
    refine ⟨derivedFromBridges bridges, .derived ?_ (derived_derivedFromBridges bridges),
      withNative _ isConfigured⟩
    unfold entriesNamed
    rw [stated]
  | some text =>
    rw [stated] at isConfigured
    obtain ⟨front, isFront, isConfigured⟩ := bind_eq_ok.mp isConfigured
    have parsed := declaredAs_of_entries (forall₂_of_mapM_eq_ok isFront)
    refine ⟨front, .declared ?_, withNative front isConfigured⟩
    unfold entriesNamed
    rw [stated]
    exact parsed

/-! ### What is told apart -/

/-- The registry that is accepted tells its connections apart exactly when the entries of the
declaration fit their bridges. -/
theorem toldApart_iff {declared : Option String} {bridges : List Carrier} {homeserverName : String}
    {registry : Registry} (accepted : fromConfig declared bridges homeserverName = .ok registry) :
    ToldApart registry bridges ↔ FitsItsBridges declared bridges := by
  obtain ⟨isConfigured, allNamed, allRecognisable⟩ := checked_of_fromConfig accepted
  obtain ⟨front, isFrom, whole⟩ := exists_from_of_configured isConfigured
  have inFront : ∀ connection ∈ front, connection ∈ registry.connections := by
    intro connection member
    rcases whole with same | ⟨same, -⟩
    · rw [same]
      exact member
    · rw [same]
      exact List.mem_append_left _ member
  have frontOrNative : ∀ connection ∈ registry.connections, connection ∈ front ∨
      connection = carriedBy "matrix" "matrix" homeserverName none ∧
        ∀ other ∈ front, other.kind ≠ "matrix" := by
    intro connection member
    rcases whole with same | ⟨same, noMatrix⟩
    · rw [same] at member
      exact .inl member
    · rw [same] at member
      rcases List.mem_append.mp member with before | added
      · exact .inl before
      · exact .inr ⟨List.mem_singleton.mp added, noMatrix⟩
  constructor
  · intro toldApart
    cases isFrom with
    | derived nothing isDerived =>
      refine ⟨?_, ?_⟩
      · rw [nothing]
        exact nofun
      · rw [nothing]
        exact nofun
    | declared each =>
      refine ⟨fun entry member named => ?_,
        fun entry member other otherMember differ sameKind carried => ?_⟩
      · obtain ⟨connection, isConnection, as⟩ := exists_result_of_forall₂ each member
        obtain ⟨bridge, found, sameId⟩ := @exists_bridgeOf_of_id bridges entry.1 entry.2 named
        have rides := as.bridgeId
        rw [found, Option.map_some, sameId] at rides
        have ofKind := toldApart.ofItsNetwork connection (inFront connection isConnection) _ rides
        rwa [as.kind] at ofKind
      · obtain ⟨connection, isConnection, as⟩ := exists_result_of_forall₂ each member
        obtain ⟨second, isSecond, asOther⟩ := exists_result_of_forall₂ each otherMember
        have apart : connection ≠ second := by
          rintro rfl
          exact differ (Prod.ext (as.id.symm.trans asOther.id) sameKind)
        have kinds : connection.kind = second.kind := by rw [as.kind, asOther.kind, sameKind]
        rw [← as.kind] at carried
        obtain ⟨bot, otherBot, isBot, isOtherBot, botsDiffer⟩ := toldApart.ofItsOwnBot connection
          (inFront connection isConnection) second (inFront second isSecond) apart kinds carried
        rw [← as.bridgeBot, ← asOther.bridgeBot, isBot, isOtherBot]
        exact fun same => botsDiffer (Option.some.inj same)
  · intro fits
    refine ⟨registry.idsValid, registry.idsDistinct, ?_, ?_⟩
    · intro connection member bridgeId rides
      rcases frontOrNative connection member with before | ⟨rfl, -⟩
      · cases isFrom with
        | derived nothing isDerived =>
          obtain ⟨bridge, isBridge, carries, ofKind⟩ := isDerived.carried connection before
          rw [carries] at rides
          exact ⟨bridge, isBridge, Option.some.inj rides, ofKind⟩
        | declared each =>
          obtain ⟨entry, isEntry, as⟩ := exists_input_of_forall₂ each before
          rw [as.bridgeId] at rides
          obtain ⟨bridge, found, rfl⟩ := Option.map_eq_some_iff.mp rides
          obtain ⟨isBridge, byId | ofKind⟩ := of_bridgeOf found
          · rw [byId, as.kind]
            exact fits.ofItsNetwork entry isEntry ⟨bridge, isBridge, byId⟩
          · exact ⟨bridge, isBridge, rfl, ofKind.trans as.kind.symm⟩
      · cases rides
    · intro connection member other otherMember differ sameKind carried
      have several := countOfKind_of_ne member otherMember differ sameKind
      obtain ⟨bot, isBot⟩ := exists_bot_of_checked several carried (allNamed connection member)
        (allRecognisable connection member)
      obtain ⟨otherBot, isOtherBot⟩ := exists_bot_of_checked (sameKind ▸ several)
        (sameKind ▸ carried) (allNamed other otherMember) (allRecognisable other otherMember)
      refine ⟨bot, otherBot, isBot, isOtherBot, ?_⟩
      rcases frontOrNative connection member with before | ⟨rfl, -⟩
      · rcases frontOrNative other otherMember with otherBefore | ⟨rfl, -⟩
        · cases isFrom with
          | derived nothing isDerived =>
            exact absurd (List.inj_on_of_nodup_map isDerived.kindsDistinct before otherBefore
              sameKind) differ
          | declared each =>
            obtain ⟨entry, isEntry, as⟩ := exists_input_of_forall₂ each before
            obtain ⟨second, isSecond, asOther⟩ := exists_input_of_forall₂ each otherBefore
            have apart : entry ≠ second := by
              rintro rfl
              refine differ (List.inj_on_of_nodup_map registry.idsDistinct member otherMember ?_)
              rw [as.id, asOther.id]
            rw [as.kind] at carried
            have unlike := fits.ofItsOwnBot entry isEntry second isSecond apart
              (by rw [← as.kind, ← asOther.kind, sameKind]) carried
            rw [← as.bridgeBot, ← asOther.bridgeBot, isBot, isOtherBot] at unlike
            exact fun same => unlike (congrArg some same)
        · cases isOtherBot
      · cases isBot

/-! ### Two accounts on one bridge -/

theorem configured_of_entries {homeserverName text : String} {entries : List String}
    (trimmed : Text.trim text = text) (stated : text ≠ "") (isSplit : Text.split ',' text = entries)
    (parsed : ((entries.map Text.trim).filter fun entry => entry != "").mapM
      (parseEntry bridges) = .ok connections)
    (noMatrix : (connections.any fun connection => connection.kind == "matrix") = false) :
    configured (some text) bridges homeserverName =
      .ok (connections ++ [carriedBy "matrix" "matrix" homeserverName none]) := by
  have isStated : ((some text).map Text.trim).filter (fun value => value != "") = some text := by
    rw [Option.map_some, trimmed, Option.filter_some, if_pos (bne_iff_ne.mpr stated)]
  have isParsed : parseDeclared text bridges = .ok connections := by
    unfold parseDeclared
    rw [isSplit, parsed]
  unfold configured
  rw [isStated]
  refine bind_eq_ok.mpr ⟨connections, isParsed, ?_⟩
  dsimp only
  rw [if_neg (by rw [noMatrix]; exact Bool.false_ne_true)]
  rfl

theorem exists_fromConfig
    (isConfigured : configured declared bridges homeserverName = .ok connections)
    (fits : connections.findSome? unfit = none)
    (distinct : repeatedAfter [] (connections.map Connection.id) = none)
    (told : (connections.findSome? (unnamed bridges connections)).or
      (connections.findSome? (unrecognisable connections)) = none) :
    ∃ registry, fromConfig declared bridges homeserverName = .ok registry ∧
      registry.connections = connections := by
  unfold fromConfig
  rw [isConfigured]
  dsimp only
  split
  · rename_i refused
    rw [fits] at refused
    cases refused
  · split
    · rename_i refused
      rw [distinct] at refused
      cases refused
    · rw [told]
      exact ⟨_, rfl, rfl⟩

def onlyBridge : List Carrier :=
  [⟨"mautrix-whatsapp", "whatsapp", some "@whatsappbot:example.org"⟩]

def twoBridges : List Carrier :=
  [⟨"home", "whatsapp", some "@whatsappbot:example.org"⟩,
    ⟨"work", "whatsapp", some "@workbot:example.org"⟩]

def twoAccounts : String := "home=whatsapp,work=whatsapp"

theorem exists_twoAccounts {home work : Connection}
    (isHome : parseEntry bridges "home=whatsapp" = .ok home)
    (isWork : parseEntry bridges "work=whatsapp" = .ok work)
    (noMatrix : ([home, work].any fun connection => connection.kind == "matrix") = false)
    (fits : ([home, work] ++ [carriedBy "matrix" "matrix" "example.org" none]).findSome? unfit =
      none) (distinct : repeatedAfter [] (([home, work] ++
      [carriedBy "matrix" "matrix" "example.org" none]).map Connection.id) = none)
    (told : (([home, work] ++ [carriedBy "matrix" "matrix" "example.org" none]).findSome?
        (unnamed bridges ([home, work] ++
          [carriedBy "matrix" "matrix" "example.org" none]))).or
      (([home, work] ++ [carriedBy "matrix" "matrix" "example.org" none]).findSome?
        (unrecognisable ([home, work] ++
          [carriedBy "matrix" "matrix" "example.org" none]))) = none) :
    ∃ registry, fromConfig (some twoAccounts) bridges "example.org" = .ok registry ∧
      registry.connections = [home, work] ++ [carriedBy "matrix" "matrix" "example.org" none] := by
  have isSplit : Text.split ',' twoAccounts = ["home=whatsapp", "work=whatsapp"] := rfl
  refine exists_fromConfig (configured_of_entries rfl (by decide) isSplit ?_ noMatrix) fits distinct
    told
  have kept : ((["home=whatsapp", "work=whatsapp"].map Text.trim).filter fun entry => entry != "") =
      ["home=whatsapp", "work=whatsapp"] := rfl
  rw [kept, List.mapM_cons, isHome, List.mapM_cons, isWork]
  rfl

theorem toldApart_of_twoBridges : ∃ registry,
    fromConfig (some twoAccounts) twoBridges "example.org" = .ok registry ∧
      ToldApart registry twoBridges := by
  obtain ⟨registry, accepted, -⟩ := @exists_twoAccounts twoBridges _ _ rfl rfl rfl rfl rfl rfl
  refine ⟨registry, accepted, (toldApart_iff accepted).mpr ⟨?_, ?_⟩⟩
  · show ∀ entry ∈ [("home", "whatsapp"), ("work", "whatsapp")], _
    decide
  · show ∀ entry ∈ [("home", "whatsapp"), ("work", "whatsapp")],
      ∀ other ∈ [("home", "whatsapp"), ("work", "whatsapp")], _
    have bots : ∀ entry ∈ [("home", "whatsapp"), ("work", "whatsapp")],
        ∀ other ∈ [("home", "whatsapp"), ("work", "whatsapp")], entry ≠ other →
          botFound twoBridges entry ≠ botFound twoBridges other := by
      decide
    exact fun entry member other otherMember differ _ _ =>
      bots entry member other otherMember differ

/-- Two accounts that ride the only bridge of their kind are accepted and share its bot. -/
theorem accepted_on_one_bot : ¬∀ declared bridges homeserverName registry,
    fromConfig declared bridges homeserverName = .ok registry → ToldApart registry bridges := by
  intro always
  obtain ⟨registry, accepted, same⟩ :=
    @exists_twoAccounts onlyBridge _ _ rfl rfl rfl rfl rfl rfl
  have told := always _ _ _ _ accepted
  have carried : Carried onlyBridge "whatsapp" := ⟨_, List.mem_cons_self, rfl⟩
  obtain ⟨bot, otherBot, isBot, isOther, differ⟩ := told.ofItsOwnBot
    ⟨"home", "whatsapp", "home", some "mautrix-whatsapp", some "@whatsappbot:example.org"⟩
    (by rw [same]; exact List.mem_cons_self)
    ⟨"work", "whatsapp", "work", some "mautrix-whatsapp", some "@whatsappbot:example.org"⟩
    (by rw [same]; exact List.mem_cons_of_mem _ List.mem_cons_self) (by decide) rfl carried
  exact differ (Option.some.inj (isBot.symm.trans isOther))

end Twalk.Registry
