/-
This file is about the tokens of the session store over whole runs. The store never
says which token it issued last; it keeps one row for each device and compares
digests. Here every reply goes into a history, and the tokens that a run has issued
are read from it: a device token and a refresh token are accepted exactly while they
are the last ones issued to a device that was not revoked, and before their expiry.
Moments are stored as signed integers, so this is about clocks that stay, with the
lifetimes added, within the range the store can compare.
-/

import Twalk.Sessions
import Twalk.Library.System

namespace Twalk.Sessions

/-! ### Runs -/

inductive Step where
  | signIn (token : OpenIdToken) (deviceName : Option String) (userinfo : Except Refusal String)
      (now : UInt64) (minted : Minted)
  | authenticate (deviceToken : String) (now : UInt64)
  | refresh (refreshToken : String) (now : UInt64) (deviceToken nextRefreshToken : String)
  | revoke (deviceId : String) (now : UInt64)

inductive Reply where
  | signedIn (outcome : Except SignInRefusal Issued)
  | authenticated (device : Option Device)
  | refreshed (issued : Option Issued)
  | revoked (changed : Bool)

def Step.now : Step → UInt64
  | signIn _ _ _ now _ | authenticate _ now | refresh _ now _ _ | revoke _ now => now

def Step.minted : Step → List String
  | signIn _ _ _ _ minted => [minted.deviceToken, minted.refreshToken]
  | refresh _ _ deviceToken nextRefreshToken => [deviceToken, nextRefreshToken]
  | authenticate _ _ | revoke _ _ => []

def Step.presented : Step → List String
  | authenticate deviceToken _ => [deviceToken]
  | refresh refreshToken _ _ _ => [refreshToken]
  | signIn _ _ _ _ _ | revoke _ _ => []

def answer (config : Config) (store : Store) : Step → Store × Reply
  | .signIn token deviceName userinfo now minted =>
    (signIn config store token deviceName userinfo now minted).map id .signedIn
  | .authenticate deviceToken now => (authenticate store deviceToken now).map id .authenticated
  | .refresh refreshToken now deviceToken nextRefreshToken =>
    (refresh config store refreshToken now deviceToken nextRefreshToken).map id .refreshed
  | .revoke deviceId now => (revoke store deviceId now).map id .revoked

/-- The store, and what was asked of it and answered so far. -/
structure Desk where
  store : Store
  history : List (Step × Reply)

def Desk.opened : Desk where
  store := .empty
  history := []

def Desk.step (config : Config) (desk : Desk) (next : Step) : Desk where
  store := (answer config desk.store next).1
  history := desk.history ++ [(next, (answer config desk.store next).2)]

def after (config : Config) (steps : List Step) : Desk := run (Desk.step config) .opened steps

/-! ### What the history tells -/

/-- A pair of tokens, and the moment it was issued. -/
structure Issuance where
  issued : Issued
  now : UInt64
deriving DecidableEq

def Issuance.of : Step × Reply → Option Issuance
  | (.signIn _ _ _ now _, .signedIn (.ok issued)) => some ⟨issued, now⟩
  | (.refresh _ now _ _, .refreshed (some issued)) => some ⟨issued, now⟩
  | _ => none

def issuances (history : List (Step × Reply)) : List Issuance := history.filterMap Issuance.of

def lastIssued (history : List (Step × Reply)) (deviceId : String) : Option Issuance :=
  ((issuances history).filter (·.issued.device.id == deviceId)).getLast?

def revokes (deviceId : String) : Step × Reply → Bool
  | (.revoke revoked _, .revoked true) => revoked == deviceId
  | _ => false

def isRevoked (history : List (Step × Reply)) (deviceId : String) : Bool :=
  history.any (revokes deviceId)

/-- The device token was the last one issued to a device that is not revoked, and the clock is
before its expiry. -/
def HoldsDeviceToken (config : Config) (history : List (Step × Reply)) (deviceId token : String)
    (now : UInt64) : Prop :=
  ∃ issuance, lastIssued history deviceId = some issuance ∧
    issuance.issued.deviceToken = token ∧ isRevoked history deviceId = false ∧
    now.toNat < issuance.now.toNat + config.deviceTokenTtlSeconds.toNat

def HoldsRefreshToken (config : Config) (history : List (Step × Reply)) (deviceId token : String)
    (now : UInt64) : Prop :=
  ∃ issuance, lastIssued history deviceId = some issuance ∧
    issuance.issued.refreshToken = token ∧ isRevoked history deviceId = false ∧
    now.toNat < issuance.now.toNat + config.refreshTokenTtlSeconds.toNat

def Reply.admits : Reply → Option String
  | authenticated (some device) => some device.id
  | refreshed (some issued) => some issued.device.id
  | _ => none

def acceptedRefresh : Step × Reply → Option String
  | (.refresh refreshToken _ _ _, .refreshed (some _)) => some refreshToken
  | _ => none

def acceptedSignIn : Step × Reply → Option (String × UInt64)
  | (.signIn token _ _ now _, .signedIn (.ok _)) => some (token.accessToken, now)
  | _ => none

structure SessionsHold (config : Config) (steps : List Step) : Prop where
  authenticates : ∀ front token now, front ++ [.authenticate token now] <+: steps → ∀ deviceId,
    (authenticate (after config front).store token now).2.map Device.id = some deviceId ↔
      HoldsDeviceToken config (after config front).history deviceId token now
  refreshes : ∀ front token now deviceToken nextRefreshToken,
    front ++ [.refresh token now deviceToken nextRefreshToken] <+: steps → ∀ deviceId,
      (refresh config (after config front).store token now deviceToken nextRefreshToken).2.map
          (·.device.id) = some deviceId ↔
        HoldsRefreshToken config (after config front).history deviceId token now
  once : ((after config steps).history.filterMap acceptedRefresh).Nodup
  revoked : ∀ front next, front ++ [next] <+: steps → ∀ deviceId,
    isRevoked (after config front).history deviceId = true →
      (answer config (after config front).store next).2.admits ≠ some deviceId
  replayed : steps.Pairwise (fun earlier later => earlier.now ≤ later.now) →
    ((after config steps).history.filterMap acceptedSignIn).Pairwise fun earlier later =>
      earlier.1 = later.1 →
        earlier.2.toNat + replayLedgerRetentionSeconds.toNat < later.2.toNat
  refused : ∀ store token deviceName userinfo now minted refusal,
    (signIn config store token deviceName userinfo now minted).2 = .error refusal →
      (signIn config store token deviceName userinfo now minted).1.devices = store.devices

/-! ### What is assumed of the random source, the digest and the clock -/

def Fresh (steps : List Step) : Prop := (steps.flatMap Step.minted).Nodup

def DigestsApart (steps : List Step) : Prop :=
  ∀ first ∈ steps.flatMap fun step => step.presented ++ step.minted,
    ∀ second ∈ steps.flatMap fun step => step.presented ++ step.minted,
      digest first = digest second → first = second

/-- The clock and the expiries reckoned from it stay in the range of the store's moments. -/
def InRange (config : Config) (steps : List Step) : Prop :=
  ∀ step ∈ steps, step.now.toNat + config.deviceTokenTtlSeconds.toNat < 2 ^ 63 ∧
    step.now.toNat + config.refreshTokenTtlSeconds.toNat < 2 ^ 63

instance (steps : List Step) : Decidable (Fresh steps) :=
  inferInstanceAs (Decidable (List.Nodup _))

instance (steps : List Step) : Decidable (DigestsApart steps) :=
  inferInstanceAs (Decidable (∀ first ∈ steps.flatMap fun step => step.presented ++ step.minted,
    ∀ second ∈ steps.flatMap fun step => step.presented ++ step.minted,
      digest first = digest second → first = second))

instance (config : Config) (steps : List Step) : Decidable (InRange config steps) :=
  inferInstanceAs (Decidable (∀ step ∈ steps,
    step.now.toNat + config.deviceTokenTtlSeconds.toNat < 2 ^ 63 ∧
      step.now.toNat + config.refreshTokenTtlSeconds.toNat < 2 ^ 63))

/-! ### Moments -/

theorem toInt_seconds {moment : UInt64} (small : moment.toNat < 2 ^ 63) :
    (seconds moment).toInt = moment.toNat := by
  have bits : (seconds moment).toInt = moment.toBitVec.toInt := rfl
  have value : moment.toBitVec.toNat = moment.toNat := rfl
  rw [bits, BitVec.toInt_eq_toNat_of_lt (by omega), value]

theorem seconds_lt_iff {first second : UInt64} (small : first.toNat < 2 ^ 63)
    (smallToo : second.toNat < 2 ^ 63) :
    seconds first < seconds second ↔ first.toNat < second.toNat := by
  rw [Int64.lt_iff_toInt_lt, toInt_seconds small, toInt_seconds smallToo, Int.ofNat_lt]

theorem seconds_lt_add_iff {now issued lifetime : UInt64} (small : now.toNat < 2 ^ 63)
    (smallToo : issued.toNat + lifetime.toNat < 2 ^ 63) :
    seconds now < seconds (issued + lifetime) ↔
      now.toNat < issued.toNat + lifetime.toNat := by
  have sum : (issued + lifetime).toNat = issued.toNat + lifetime.toNat := by
    rw [UInt64.toNat_add, Nat.mod_eq_of_lt (by omega)]
  rw [seconds_lt_iff small (by rw [sum]; exact smallToo), sum]

theorem toNat_saturatingSub (minuend subtrahend : UInt64) :
    (saturatingSub minuend subtrahend).toNat = minuend.toNat - subtrahend.toNat := by
  rw [saturatingSub]
  split
  · rename_i less
    have less := UInt64.lt_iff_toNat_lt.mp less
    rw [Nat.sub_eq_zero_of_le (Nat.le_of_lt less)]
    rfl
  · rename_i notLess
    rw [UInt64.toNat_sub_of_le _ _ (UInt64.not_lt.mp notLess)]

/-! ### The history, one entry longer -/

theorem after_concat (config : Config) (front : List Step) (next : Step) :
    after config (front ++ [next]) = (after config front).step config next :=
  run_append (Desk.step config) .opened front [next]

theorem steps_after (config : Config) (steps : List Step) :
    (after config steps).history.map Prod.fst = steps := by
  induction steps using List.reverseRecOn with
  | nil => rfl
  | append_singleton front next inductionHypothesis =>
    rw [after_concat, Desk.step, List.map_append, inductionHypothesis]
    rfl

section

variable {issuance : Issuance}

section

variable (history : List (Step × Reply)) (entry : Step × Reply) (deviceId : String)

theorem lastIssued_concat_none (quiet : Issuance.of entry = none) :
    lastIssued (history ++ [entry]) deviceId = lastIssued history deviceId := by
  simp [lastIssued, issuances, quiet]

theorem lastIssued_concat_self (new : Issuance.of entry = some issuance) :
    lastIssued (history ++ [entry]) issuance.issued.device.id = some issuance := by
  simp [lastIssued, issuances, new]

theorem lastIssued_concat_other (new : Issuance.of entry = some issuance)
    (other : issuance.issued.device.id ≠ deviceId) :
    lastIssued (history ++ [entry]) deviceId = lastIssued history deviceId := by
  simp [lastIssued, issuances, new, other]

theorem isRevoked_concat :
    isRevoked (history ++ [entry]) deviceId =
      (isRevoked history deviceId || revokes deviceId entry) := by
  simp [isRevoked]

end

variable {deviceId : String} {history : List (Step × Reply)}

theorem mem_of_lastIssued (last : lastIssued history deviceId = some issuance) :
    issuance ∈ issuances history ∧ issuance.issued.device.id = deviceId := by
  have member := List.mem_of_getLast? last
  rw [List.mem_filter] at member
  exact ⟨member.1, by simpa using member.2⟩

/-! ### What the operations do to the store -/

theorem devices_rememberToken (store : Store) (accessToken : String) (now : UInt64) :
    (rememberToken store accessToken now).1.devices = store.devices := by
  rw [rememberToken]
  split <;> rfl

variable {config : Config} {now : UInt64} {store : Store} {userinfo : Except Refusal String}
  {deviceName : Option String}

theorem signIn_of_refused {token : OpenIdToken} {minted : Minted} {refusal : SignInRefusal}
    (refused : (signIn config store token deviceName userinfo now minted).2 = .error refusal) :
    (signIn config store token deviceName userinfo now minted).1.devices = store.devices := by
  have remembered := devices_rememberToken store token.accessToken now
  rw [signIn] at refused ⊢
  cases resolved : resolve config.serverName token userinfo with
  | error unresolved => rfl
  | ok subject =>
    rw [resolved] at refused
    dsimp only at refused ⊢
    split
    · rfl
    · rename_i isOwner
      rw [if_neg isOwner] at refused
      cases outcome : rememberToken store token.accessToken now with
      | mk kept result =>
        rw [outcome] at refused remembered
        cases result with
        | error again => exact remembered
        | ok accepted =>
          dsimp only [issue] at refused ⊢
          split
          · rename_i fits
            rw [if_pos fits] at refused
            cases refused
          · exact remembered

structure SignedIn (config : Config) (store : Store) (token : OpenIdToken)
    (deviceName : Option String) (now : UInt64) (minted : Minted) (issued : Issued)
    (later : Store) : Prop where
  remembered : (rememberToken store token.accessToken now).2 = .ok ()
  ledger : later.openidTokensAccepted =
    (rememberToken store token.accessToken now).1.openidTokensAccepted
  devices : later.devices = store.devices ++ [mintedRow config deviceName now minted]
  unknown : ∀ other ∈ store.devices, other.id ≠ minted.deviceId
  device : issued.device.id = minted.deviceId
  deviceToken : issued.deviceToken = minted.deviceToken
  refreshToken : issued.refreshToken = minted.refreshToken

theorem signIn_of_ok {token : OpenIdToken} {minted : Minted} {issued : Issued}
    (accepted : (signIn config store token deviceName userinfo now minted).2 = .ok issued) :
    SignedIn config store token deviceName now minted issued
      (signIn config store token deviceName userinfo now minted).1 := by
  have sameDevices := devices_rememberToken store token.accessToken now
  rw [signIn] at accepted ⊢
  cases resolved : resolve config.serverName token userinfo with
  | error unresolved =>
    rw [resolved] at accepted
    cases accepted
  | ok subject =>
    rw [resolved] at accepted
    dsimp only at accepted ⊢
    split
    · rename_i stranger
      rw [if_pos stranger] at accepted
      cases accepted
    · rename_i isOwner
      rw [if_neg isOwner] at accepted
      cases outcome : rememberToken store token.accessToken now with
      | mk kept result =>
        rw [outcome] at accepted sameDevices
        cases result with
        | error again => cases accepted
        | ok first =>
          dsimp only [issue] at accepted sameDevices ⊢
          split
          · rename_i fits
            rw [if_pos fits] at accepted
            cases accepted
            refine
              { remembered := by rw [outcome]
                ledger := by rw [outcome]
                devices := by rw [sameDevices]
                unknown := ?_
                device := rfl
                deviceToken := rfl
                refreshToken := rfl }
            intro other member same
            have besides := List.all_eq_true.mp fits other (sameDevices.symm ▸ member)
            simp [DeviceRow.besides, mintedRow, same] at besides
          · rename_i clash
            rw [if_neg clash] at accepted
            cases accepted

/-! ### The rows and the history -/

structure Shows (config : Config) (issuance : Issuance) (gone : Bool) (row : DeviceRow) : Prop where
  revoked : row.revokedUnixSeconds.isSome = gone
  device : row.deviceTokenSha256 =
    if gone then none else some (digest issuance.issued.deviceToken)
  deviceExpires : row.deviceTokenExpiresUnixSeconds =
    seconds (issuance.now + config.deviceTokenTtlSeconds)
  refresh : row.refreshTokenSha256 =
    if gone then none else some (digest issuance.issued.refreshToken)
  refreshExpires : row.refreshTokenExpiresUnixSeconds =
    seconds (issuance.now + config.refreshTokenTtlSeconds)

structure Linked (config : Config) (history : List (Step × Reply)) (devices : List DeviceRow) :
    Prop where
  shown : ∀ row ∈ devices, ∃ issuance, lastIssued history row.id = some issuance ∧
    Shows config issuance (isRevoked history row.id) row
  kept : ∀ deviceId issuance, lastIssued history deviceId = some issuance →
    ∃ row ∈ devices, row.id = deviceId
  known : ∀ deviceId, isRevoked history deviceId = true → ∃ row ∈ devices, row.id = deviceId

theorem linked_opened (config : Config) : Linked config [] [] where
  shown := by simp
  kept := by simp [lastIssued, issuances]
  known := by simp [isRevoked]

variable {row : DeviceRow}

section

variable {config : Config} {history : List (Step × Reply)} {devices : List DeviceRow}
  {entry : Step × Reply}

theorem Linked.stays (linked : Linked config history devices)
    (quiet : Issuance.of entry = none) (unrevoking : ∀ deviceId, revokes deviceId entry = false)
    (change : DeviceRow → DeviceRow) (sameId : ∀ row, (change row).id = row.id)
    (same : ∀ issuance gone row, Shows config issuance gone row →
      Shows config issuance gone (change row)) :
    Linked config (history ++ [entry]) (devices.map change) := by
  have stays : ∀ deviceId, (∃ row ∈ devices, row.id = deviceId) →
      ∃ row ∈ devices.map change, row.id = deviceId := by
    rintro deviceId ⟨row, member, rfl⟩
    exact ⟨change row, List.mem_map_of_mem member, sameId row⟩
  refine { shown := ?_, kept := ?_, known := ?_ }
  · intro row member
    obtain ⟨former, isFormer, rfl⟩ := List.mem_map.mp member
    obtain ⟨issuance, last, shows⟩ := linked.shown former isFormer
    refine ⟨issuance, ?_, ?_⟩
    · rw [lastIssued_concat_none history entry _ quiet, sameId, last]
    · rw [isRevoked_concat, unrevoking, Bool.or_false, sameId]
      exact same issuance _ former shows
  · intro deviceId issuance last
    rw [lastIssued_concat_none history entry _ quiet] at last
    exact stays deviceId (linked.kept deviceId issuance last)
  · intro deviceId gone
    rw [isRevoked_concat, unrevoking, Bool.or_false] at gone
    exact stays deviceId (linked.known deviceId gone)

theorem Linked.unchanged (linked : Linked config history devices) (entry : Step × Reply)
    (quiet : Issuance.of entry = none) (unrevoking : ∀ deviceId, revokes deviceId entry = false) :
    Linked config (history ++ [entry]) devices := by
  have same := linked.stays quiet unrevoking id (fun _ => rfl) (fun _ _ _ shows => shows)
  rwa [List.map_id] at same

theorem Linked.issues (linked : Linked config history devices)
    (new : Issuance.of entry = some issuance)
    (unrevoking : ∀ deviceId, revokes deviceId entry = false)
    (isDevice : row.id = issuance.issued.device.id) (unknown : ∀ other ∈ devices, other.id ≠ row.id)
    (shows : Shows config issuance false row) :
    Linked config (history ++ [entry]) (devices ++ [row]) := by
  refine { shown := ?_, kept := ?_, known := ?_ }
  · intro other member
    obtain member | isNew := List.mem_append.mp member
    · obtain ⟨former, last, showsToo⟩ := linked.shown other member
      refine ⟨former, ?_, ?_⟩
      · rw [lastIssued_concat_other history entry _ new fun same =>
          unknown other member (same.symm.trans isDevice.symm), last]
      · rw [isRevoked_concat, unrevoking, Bool.or_false]
        exact showsToo
    · obtain rfl := List.mem_singleton.mp isNew
      have notGone : isRevoked history other.id = false := by
        by_contra gone
        obtain ⟨former, member, same⟩ := linked.known other.id (Bool.not_eq_false _ ▸ gone)
        exact unknown former member same
      refine ⟨issuance, ?_, ?_⟩
      · rw [isDevice, lastIssued_concat_self history entry new]
      · rw [isRevoked_concat, unrevoking, notGone]
        exact shows
  · intro deviceId last isLast
    by_cases same : issuance.issued.device.id = deviceId
    · exact ⟨row, by simp, isDevice.trans same⟩
    · rw [lastIssued_concat_other history entry _ new same] at isLast
      obtain ⟨former, member, isFormer⟩ := linked.kept deviceId last isLast
      exact ⟨former, List.mem_append_left _ member, isFormer⟩
  · intro deviceId gone
    rw [isRevoked_concat, unrevoking, Bool.or_false] at gone
    obtain ⟨former, member, isFormer⟩ := linked.known deviceId gone
    exact ⟨former, List.mem_append_left _ member, isFormer⟩

theorem Linked.rotates (linked : Linked config history devices)
    (new : Issuance.of entry = some issuance)
    (unrevoking : ∀ deviceId, revokes deviceId entry = false) {row rotated : DeviceRow}
    (member : row ∈ devices) (live : isRevoked history row.id = false)
    (isDevice : issuance.issued.device.id = row.id) (sameId : rotated.id = row.id)
    (shows : Shows config issuance false rotated) :
    Linked config (history ++ [entry])
      (devices.map fun other => if other.id = row.id then rotated else other) := by
  have stays : ∀ deviceId, (∃ former ∈ devices, former.id = deviceId) →
      ∃ later ∈ devices.map fun other => if other.id = row.id then rotated else other,
        later.id = deviceId := by
    rintro deviceId ⟨former, isFormer, rfl⟩
    refine ⟨_, List.mem_map_of_mem isFormer, ?_⟩
    by_cases same : former.id = row.id
    · rw [if_pos same, sameId, same]
    · rw [if_neg same]
  refine { shown := ?_, kept := ?_, known := ?_ }
  · intro later isLater
    obtain ⟨former, isFormer, rfl⟩ := List.mem_map.mp isLater
    by_cases same : former.id = row.id
    · rw [if_pos same]
      refine ⟨issuance, ?_, ?_⟩
      · rw [sameId, ← isDevice, lastIssued_concat_self history entry new]
      · rw [isRevoked_concat, unrevoking, sameId, live]
        exact shows
    · rw [if_neg same]
      obtain ⟨last, isLast, showsToo⟩ := linked.shown former isFormer
      refine ⟨last, ?_, ?_⟩
      · rw [lastIssued_concat_other history entry _ new fun alike =>
          same (alike.symm.trans isDevice), isLast]
      · rw [isRevoked_concat, unrevoking, Bool.or_false]
        exact showsToo
  · intro deviceId last isLast
    by_cases same : issuance.issued.device.id = deviceId
    · exact stays deviceId ⟨row, member, isDevice.symm.trans same⟩
    · rw [lastIssued_concat_other history entry _ new same] at isLast
      exact stays deviceId (linked.kept deviceId last isLast)
  · intro deviceId gone
    rw [isRevoked_concat, unrevoking, Bool.or_false] at gone
    exact stays deviceId (linked.known deviceId gone)

theorem Linked.revokes (linked : Linked config history devices) (deviceId : String)
    (now : UInt64) :
    Linked config
      (history ++ [(.revoke deviceId now, .revoked
        (devices.any fun row => row.id == deviceId && row.revokedUnixSeconds.isNone))])
      (devices.map fun row =>
        if row.id == deviceId && row.revokedUnixSeconds.isNone then row.revoke now else row) := by
  have sameId : ∀ row : DeviceRow,
      (if row.id == deviceId && row.revokedUnixSeconds.isNone then row.revoke now else row).id =
        row.id := by
    intro row
    split <;> rfl
  have stays : ∀ other, (∃ former ∈ devices, former.id = other) →
      ∃ later ∈ devices.map fun row =>
        if row.id == deviceId && row.revokedUnixSeconds.isNone then row.revoke now else row,
        later.id = other := by
    rintro other ⟨former, isFormer, rfl⟩
    exact ⟨_, List.mem_map_of_mem isFormer, sameId former⟩
  have revoking : ∀ other, Sessions.revokes other (.revoke deviceId now, .revoked
      (devices.any fun row => row.id == deviceId && row.revokedUnixSeconds.isNone)) = true →
        deviceId = other ∧ ∃ row ∈ devices, row.id = other := by
    intro other
    cases found : devices.any fun row => row.id == deviceId && row.revokedUnixSeconds.isNone with
    | false => exact fun none => by cases none
    | true =>
      intro same
      obtain rfl := eq_of_beq same
      obtain ⟨row, member, matched⟩ := List.any_eq_true.mp found
      exact ⟨rfl, row, member, eq_of_beq (Bool.and_eq_true_iff.mp matched).1⟩
  refine { shown := ?_, kept := ?_, known := ?_ }
  · intro later isLater
    obtain ⟨former, isFormer, rfl⟩ := List.mem_map.mp isLater
    obtain ⟨issuance, last, shows⟩ := linked.shown former isFormer
    refine ⟨issuance, ?_, ?_⟩
    · rw [lastIssued_concat_none history _ _ rfl, sameId, last]
    · rw [isRevoked_concat, sameId]
      by_cases matched : (former.id == deviceId && former.revokedUnixSeconds.isNone) = true
      · have found : (devices.any fun row =>
            row.id == deviceId && row.revokedUnixSeconds.isNone) = true :=
          List.any_eq_true.mpr ⟨former, isFormer, matched⟩
        rw [if_pos matched, found]
        have isIt := (Bool.and_eq_true_iff.mp matched).1
        have gone : Sessions.revokes former.id (.revoke deviceId now, .revoked true) = true :=
          beq_iff_eq.mpr (eq_of_beq isIt).symm
        rw [gone, Bool.or_true]
        exact
          { revoked := rfl
            device := rfl
            deviceExpires := shows.deviceExpires
            refresh := rfl
            refreshExpires := shows.refreshExpires }
      · rw [if_neg matched]
        suffices same : (isRevoked history former.id || Sessions.revokes former.id
            (.revoke deviceId now, .revoked (devices.any fun row =>
              row.id == deviceId && row.revokedUnixSeconds.isNone))) =
            isRevoked history former.id by
          rw [same]
          exact shows
        cases gone : isRevoked history former.id with
        | true => rfl
        | false =>
          rw [Bool.false_or, ← Bool.not_eq_true]
          intro revoked
          obtain ⟨rfl, _⟩ := revoking former.id revoked
          have unset := shows.revoked
          rw [gone] at unset
          simp [Option.isSome_eq_false_iff.mp unset] at matched
  · intro other issuance last
    rw [lastIssued_concat_none history _ _ rfl] at last
    exact stays other (linked.kept other issuance last)
  · intro other gone
    rw [isRevoked_concat, Bool.or_eq_true] at gone
    obtain gone | gone := gone
    · exact stays other (linked.known other gone)
    · exact stays other (revoking other gone).2

end

/-! ### The store over a run -/

theorem shows_mintedRow (config : Config) (deviceName : Option String) (now : UInt64)
    (minted : Minted) {issued : Issued} (device : issued.deviceToken = minted.deviceToken)
    (refresh : issued.refreshToken = minted.refreshToken) :
    Shows config ⟨issued, now⟩ false (mintedRow config deviceName now minted) where
  revoked := rfl
  device := by simp [mintedRow, device]
  deviceExpires := rfl
  refresh := by simp [mintedRow, refresh]
  refreshExpires := rfl

theorem live_of_shows {gone : Bool} (shows : Shows config issuance gone row)
    (live : row.revokedUnixSeconds.isNone = true) :
    gone = false := by
  rw [← shows.revoked, Option.isSome_eq_false_iff]
  exact live

theorem refresh_cases (config : Config) (store : Store) (refreshToken : String) (now : UInt64)
    (deviceToken nextRefreshToken : String) :
    refresh config store refreshToken now deviceToken nextRefreshToken = (store, none) ∨
      ∃ row ∈ store.devices, row.refreshes refreshToken now = true ∧
        refresh config store refreshToken now deviceToken nextRefreshToken =
          ({ store with
              devices := store.devices.map fun other =>
                if other.id = row.id then row.rotate config now deviceToken nextRefreshToken
                else other },
            some
              { device := deviceFromRow (row.rotate config now deviceToken nextRefreshToken)
                deviceToken := deviceToken
                deviceTokenTtlSeconds := config.deviceTokenTtlSeconds
                refreshToken := nextRefreshToken
                refreshTokenTtlSeconds := config.refreshTokenTtlSeconds }) := by
  rw [refresh]
  cases found : store.devices.find? (·.refreshes refreshToken now) with
  | none => exact .inl rfl
  | some row =>
    dsimp only
    split
    · have matched := List.find?_some found
      exact .inr ⟨row, List.mem_of_find?_eq_some found, matched, rfl⟩
    · exact .inl rfl

theorem linked_after (config : Config) (steps : List Step) :
    Linked config (after config steps).history (after config steps).store.devices := by
  induction steps using List.reverseRecOn with
  | nil => exact linked_opened config
  | append_singleton front next linked =>
    rw [after_concat, Desk.step]
    cases next with
    | signIn token deviceName userinfo now minted =>
      cases outcome :
        (signIn config (after config front).store token deviceName userinfo now minted).2 with
      | error refusal =>
        simp only [answer, Prod.map, id, outcome, signIn_of_refused outcome]
        exact linked.unchanged _ rfl fun _ => rfl
      | ok issued =>
        have signed := signIn_of_ok outcome
        have new : Issuance.of (.signIn token deviceName userinfo now minted,
            .signedIn (.ok issued)) = some ⟨issued, now⟩ := rfl
        simp only [answer, Prod.map, id, outcome, signed.devices]
        exact linked.issues new (fun _ => rfl) signed.device.symm signed.unknown
          (shows_mintedRow config deviceName now minted signed.deviceToken signed.refreshToken)
    | authenticate deviceToken now =>
      rw [answer, authenticate]
      cases found : (after config front).store.devices.find? (·.authenticates deviceToken now) with
      | none => exact linked.unchanged _ rfl fun _ => rfl
      | some row =>
        refine linked.stays rfl (fun _ => rfl) _ (fun other => ?_) (fun _ _ other shows => ?_)
        · split <;> rfl
        · split
          · exact ⟨shows.revoked, shows.device, shows.deviceExpires, shows.refresh,
              shows.refreshExpires⟩
          · exact shows
    | refresh refreshToken now deviceToken nextRefreshToken =>
      rw [answer]
      obtain refused | ⟨row, member, matched, rotated⟩ := refresh_cases config
        (after config front).store refreshToken now deviceToken nextRefreshToken
      · rw [refused]
        exact linked.unchanged _ rfl fun _ => rfl
      · obtain ⟨issuance, _, shows⟩ := linked.shown row member
        rw [DeviceRow.refreshes, Bool.and_eq_true, Bool.and_eq_true] at matched
        have live := live_of_shows shows matched.1.2
        rw [live] at shows
        rw [rotated]
        exact linked.rotates rfl (fun _ => rfl) member live rfl rfl
          { revoked := shows.revoked
            device := rfl
            deviceExpires := rfl
            refresh := rfl
            refreshExpires := rfl }
    | revoke deviceId now => exact linked.revokes deviceId now

/-! ### The tokens of a run -/

def Honest (entry : Step × Reply) : Prop :=
  ∀ issuance, Issuance.of entry = some issuance →
    entry.1.minted = [issuance.issued.deviceToken, issuance.issued.refreshToken] ∧
      issuance.now = entry.1.now

theorem honest_answer (config : Config) (store : Store) (next : Step) :
    Honest (next, (answer config store next).2) := by
  intro issuance issues
  cases next with
  | signIn token deviceName userinfo now minted =>
    cases outcome : (signIn config store token deviceName userinfo now minted).2 with
    | error refusal =>
      simp only [answer, Prod.map, outcome] at issues
      cases issues
    | ok issued =>
      have signed := signIn_of_ok outcome
      simp only [answer, Prod.map, outcome] at issues
      obtain rfl := Option.some.inj issues
      exact ⟨by rw [signed.deviceToken, signed.refreshToken]; rfl, rfl⟩
  | authenticate deviceToken now => cases issues
  | refresh refreshToken now deviceToken nextRefreshToken =>
    obtain refused | ⟨row, _, _, rotated⟩ :=
      refresh_cases config store refreshToken now deviceToken nextRefreshToken
    · simp only [answer, refused] at issues
      cases issues
    · simp only [answer, rotated] at issues
      obtain rfl := Option.some.inj issues
      exact ⟨rfl, rfl⟩
  | revoke deviceId now => cases issues

theorem honest_after (config : Config) (steps : List Step) :
    ∀ entry ∈ (after config steps).history, Honest entry := by
  induction steps using List.reverseRecOn with
  | nil => exact fun _ member => by cases member
  | append_singleton front next inductionHypothesis =>
    intro entry member
    rw [after_concat, Desk.step] at member
    obtain member | isNew := List.mem_append.mp member
    · exact inductionHypothesis entry member
    · obtain rfl := List.mem_singleton.mp isNew
      exact honest_answer config _ next

variable {steps : List Step}

theorem exists_step_of_issuance (issued : issuance ∈ issuances (after config steps).history) :
    ∃ step ∈ steps, step.minted = [issuance.issued.deviceToken, issuance.issued.refreshToken] ∧
      issuance.now = step.now := by
  obtain ⟨entry, member, issues⟩ := List.mem_filterMap.mp issued
  obtain ⟨minted, moment⟩ := honest_after config steps entry member issuance issues
  refine ⟨entry.1, ?_, minted, moment⟩
  rw [← steps_after config steps]
  exact List.mem_map_of_mem member

theorem issued_sublist (history : List (Step × Reply)) (honest : ∀ entry ∈ history, Honest entry) :
    List.Sublist
      ((issuances history).flatMap
        fun issuance => [issuance.issued.deviceToken, issuance.issued.refreshToken])
      ((history.map Prod.fst).flatMap Step.minted) := by
  induction history with
  | nil => exact List.Sublist.refl _
  | cons entry rest inductionHypothesis =>
    have later := inductionHypothesis fun other member => honest other (List.mem_cons_of_mem _ member)
    rw [issuances, List.map_cons, List.flatMap_cons]
    cases issues : Issuance.of entry with
    | none =>
      rw [List.filterMap_cons_none issues]
      exact later.trans (List.sublist_append_right _ _)
    | some issuance =>
      rw [List.filterMap_cons_some issues, List.flatMap_cons,
        (honest entry List.mem_cons_self issuance issues).1]
      exact later.append_left _

theorem eq_of_mem_of_nodup_flatMap {Item Element : Type} {parts : Item → List Element}
    {items : List Item} (nodup : (items.flatMap parts).Nodup) {first second : Item}
    (isItem : first ∈ items) (isItemToo : second ∈ items) {element : Element}
    (within : element ∈ parts first) (withinToo : element ∈ parts second) : first = second := by
  induction items with
  | nil => cases isItem
  | cons head rest inductionHypothesis =>
    rw [List.flatMap_cons, List.nodup_append] at nodup
    obtain ⟨_, later, apart⟩ := nodup
    have shared : ∀ item ∈ rest, element ∈ parts item → element ∈ rest.flatMap parts :=
      fun item member inside => List.mem_flatMap.mpr ⟨item, member, inside⟩
    obtain rfl | isRest := List.mem_cons.mp isItem
    · obtain rfl | isRestToo := List.mem_cons.mp isItemToo
      · rfl
      · exact absurd rfl (apart element within element (shared second isRestToo withinToo))
    · obtain rfl | isRestToo := List.mem_cons.mp isItemToo
      · exact absurd rfl (apart element withinToo element (shared first isRest within))
      · exact inductionHypothesis later isRest isRestToo

theorem eq_of_token_mem (fresh : Fresh steps) {first second : Issuance}
    (issued : first ∈ issuances (after config steps).history)
    (issuedToo : second ∈ issuances (after config steps).history) {token : String}
    (within : token ∈ [first.issued.deviceToken, first.issued.refreshToken])
    (withinToo : token ∈ [second.issued.deviceToken, second.issued.refreshToken]) :
    first = second := by
  have among := issued_sublist _ (honest_after config steps)
  rw [steps_after] at among
  exact eq_of_mem_of_nodup_flatMap (among.nodup fresh) issued issuedToo within withinToo

/-! ### Parts of a run -/

theorem Fresh.front {front back : List Step} (fresh : Fresh (front ++ back)) : Fresh front := by
  rw [Fresh, List.flatMap_append] at fresh
  exact fresh.of_append_left

theorem DigestsApart.front {front back : List Step} (apart : DigestsApart (front ++ back)) :
    DigestsApart front := by
  intro first isFirst second isSecond same
  rw [DigestsApart, List.flatMap_append] at apart
  exact apart first (List.mem_append_left _ isFirst) second (List.mem_append_left _ isSecond) same

theorem InRange.front {front back : List Step} (inRange : InRange config (front ++ back)) :
    InRange config front :=
  fun step member => inRange step (List.mem_append_left _ member)

variable {front : List Step} {next : Step}

theorem token_eq_of_digest_eq (apart : DigestsApart (front ++ [next]))
    (issued : issuance ∈ issuances (after config front).history) {token presented : String}
    (within : token ∈ [issuance.issued.deviceToken, issuance.issued.refreshToken])
    (presents : presented ∈ next.presented ++ next.minted) (same : digest token = digest presented)
    : token = presented := by
  obtain ⟨step, member, minted, _⟩ := exists_step_of_issuance issued
  refine apart token ?_ presented ?_ same
  · refine List.mem_flatMap.mpr ⟨step, List.mem_append_left _ member, ?_⟩
    exact List.mem_append_right _ (minted ▸ within)
  · exact List.mem_flatMap.mpr ⟨next, by simp, presents⟩

theorem expiry_iff (inRange : InRange config (front ++ [next]))
    (issued : issuance ∈ issuances (after config front).history) :
    (seconds next.now < seconds (issuance.now + config.deviceTokenTtlSeconds) ↔
        next.now.toNat < issuance.now.toNat + config.deviceTokenTtlSeconds.toNat) ∧
      (seconds next.now < seconds (issuance.now + config.refreshTokenTtlSeconds) ↔
        next.now.toNat < issuance.now.toNat + config.refreshTokenTtlSeconds.toNat) := by
  obtain ⟨step, member, _, moment⟩ := exists_step_of_issuance issued
  have present := inRange next (by simp)
  have issuing := inRange step (List.mem_append_left _ member)
  rw [← moment] at issuing
  exact ⟨seconds_lt_add_iff (by omega) issuing.1, seconds_lt_add_iff (by omega) issuing.2⟩

/-! ### Which tokens are accepted -/

section

variable {config : Config} {front : List Step}

theorem holds_of_authenticates {token : String}
    (apart : DigestsApart (front ++ [.authenticate token now]))
    (inRange : InRange config (front ++ [.authenticate token now]))
    (member : row ∈ (after config front).store.devices)
    (authentic : row.authenticates token now = true) :
    HoldsDeviceToken config (after config front).history row.id token now := by
  obtain ⟨issuance, last, shows⟩ := (linked_after config front).shown row member
  rw [DeviceRow.authenticates, Bool.and_eq_true, Bool.and_eq_true, beq_iff_eq,
    decide_eq_true_eq, shows.deviceExpires] at authentic
  obtain ⟨⟨held, unset⟩, early⟩ := authentic
  have live := live_of_shows shows unset
  rw [shows.device, live] at held
  have issued := (mem_of_lastIssued last).1
  exact ⟨issuance, last,
    token_eq_of_digest_eq apart issued (by simp) (by simp [Step.presented])
      (Option.some.inj held), live, (expiry_iff inRange issued).1.mp early⟩

theorem authenticates_of_holds {token deviceId : String}
    (inRange : InRange config (front ++ [.authenticate token now]))
    (holds : HoldsDeviceToken config (after config front).history deviceId token now) :
    ∃ row ∈ (after config front).store.devices, row.authenticates token now = true := by
  obtain ⟨issuance, last, rfl, live, early⟩ := holds
  obtain ⟨row, member, rfl⟩ := (linked_after config front).kept deviceId issuance last
  obtain ⟨shown, lastToo, shows⟩ := (linked_after config front).shown row member
  rw [last] at lastToo
  obtain rfl := Option.some.inj lastToo
  refine ⟨row, member, ?_⟩
  have early : seconds now < seconds (issuance.now + config.deviceTokenTtlSeconds) :=
    (expiry_iff inRange (mem_of_lastIssued last).1).1.mpr early
  have unset := shows.revoked
  rw [live, Option.isSome_eq_false_iff] at unset
  simp [DeviceRow.authenticates, shows.device, live, shows.deviceExpires, unset, early]

theorem authenticate_iff {token : String} (fresh : Fresh (front ++ [.authenticate token now]))
    (apart : DigestsApart (front ++ [.authenticate token now]))
    (inRange : InRange config (front ++ [.authenticate token now])) (deviceId : String) :
    (authenticate (after config front).store token now).2.map Device.id = some deviceId ↔
      HoldsDeviceToken config (after config front).history deviceId token now := by
  rw [authenticate]
  constructor
  · intro accepted
    cases found : (after config front).store.devices.find? (·.authenticates token now) with
    | none =>
      rw [found] at accepted
      cases accepted
    | some row =>
      rw [found] at accepted
      obtain rfl := Option.some.inj accepted
      have authentic := List.find?_some found
      exact holds_of_authenticates apart inRange (List.mem_of_find?_eq_some found) authentic
  · intro holds
    obtain ⟨witness, isWitness, authentic⟩ := authenticates_of_holds inRange holds
    cases found : (after config front).store.devices.find? (·.authenticates token now) with
    | none => exact absurd authentic (List.find?_eq_none.mp found witness isWitness)
    | some row =>
      have authentic := List.find?_some found
      obtain ⟨other, lastOther, tokenOther, _⟩ := holds_of_authenticates apart inRange
        (List.mem_of_find?_eq_some found) authentic
      obtain ⟨issuance, last, tokenHere, _⟩ := holds
      have within : token ∈ [other.issued.deviceToken, other.issued.refreshToken] := by
        simp [tokenOther]
      have withinToo : token ∈ [issuance.issued.deviceToken, issuance.issued.refreshToken] := by
        simp [tokenHere]
      obtain rfl := eq_of_token_mem fresh.front (mem_of_lastIssued lastOther).1
        (mem_of_lastIssued last).1 within withinToo
      rw [← (mem_of_lastIssued last).2, (mem_of_lastIssued lastOther).2]
      rfl

variable {token deviceToken nextRefreshToken : String}

theorem holds_of_refreshes
    (apart : DigestsApart (front ++ [.refresh token now deviceToken nextRefreshToken]))
    (inRange : InRange config (front ++ [.refresh token now deviceToken nextRefreshToken]))
    (member : row ∈ (after config front).store.devices) (accepts : row.refreshes token now = true) :
    HoldsRefreshToken config (after config front).history row.id token now := by
  obtain ⟨issuance, last, shows⟩ := (linked_after config front).shown row member
  rw [DeviceRow.refreshes, Bool.and_eq_true, Bool.and_eq_true, beq_iff_eq,
    decide_eq_true_eq, shows.refreshExpires] at accepts
  obtain ⟨⟨held, unset⟩, early⟩ := accepts
  have live := live_of_shows shows unset
  rw [shows.refresh, live] at held
  have issued := (mem_of_lastIssued last).1
  exact ⟨issuance, last,
    token_eq_of_digest_eq apart issued (by simp) (by simp [Step.presented])
      (Option.some.inj held), live, (expiry_iff inRange issued).2.mp early⟩

theorem refreshes_of_holds {token deviceToken nextRefreshToken deviceId : String}
    (inRange : InRange config (front ++ [.refresh token now deviceToken nextRefreshToken]))
    (holds : HoldsRefreshToken config (after config front).history deviceId token now) :
    ∃ row ∈ (after config front).store.devices, row.refreshes token now = true := by
  obtain ⟨issuance, last, rfl, live, early⟩ := holds
  obtain ⟨row, member, rfl⟩ := (linked_after config front).kept deviceId issuance last
  obtain ⟨shown, lastToo, shows⟩ := (linked_after config front).shown row member
  rw [last] at lastToo
  obtain rfl := Option.some.inj lastToo
  refine ⟨row, member, ?_⟩
  have early : seconds now < seconds (issuance.now + config.refreshTokenTtlSeconds) :=
    (expiry_iff inRange (mem_of_lastIssued last).1).2.mpr early
  have unset := shows.revoked
  rw [live, Option.isSome_eq_false_iff] at unset
  simp [DeviceRow.refreshes, shows.refresh, live, shows.refreshExpires, unset, early]

theorem rotated_besides (fresh : Fresh (front ++ [.refresh token now deviceToken nextRefreshToken]))
    (apart : DigestsApart (front ++ [.refresh token now deviceToken nextRefreshToken]))
    {row other : DeviceRow} (member : other ∈ (after config front).store.devices)
    (differ : row.id ≠ other.id) :
    (row.rotate config now deviceToken nextRefreshToken).besides other = true := by
  obtain ⟨issuance, last, shows⟩ := (linked_after config front).shown other member
  have issued := (mem_of_lastIssued last).1
  -- No token of an earlier issuance is one of those minted now.
  have unminted : ∀ earlier ∈ [issuance.issued.deviceToken, issuance.issued.refreshToken],
      ∀ minted ∈ [deviceToken, nextRefreshToken], digest minted ≠ digest earlier := by
    intro earlier within minted isMinted same
    obtain ⟨step, isStep, mints, _⟩ := exists_step_of_issuance issued
    have alike := token_eq_of_digest_eq apart issued within
      (List.mem_append_right _ isMinted) same.symm
    rw [Fresh, List.flatMap_append, List.nodup_append] at fresh
    refine fresh.2.2 earlier (List.mem_flatMap.mpr ⟨step, isStep, mints ▸ within⟩) minted ?_ alike
    simpa [Step.minted] using isMinted
  have first := unminted issuance.issued.deviceToken (by simp) deviceToken (by simp)
  have second := unminted issuance.issued.refreshToken (by simp) nextRefreshToken (by simp)
  cases gone : isRevoked (after config front).history other.id with
  | true => simp [DeviceRow.besides, DeviceRow.rotate, shows.device, shows.refresh, gone, differ]
  | false =>
    simp [DeviceRow.besides, DeviceRow.rotate, shows.device, shows.refresh, gone, differ, first,
      second]

theorem refresh_iff (fresh : Fresh (front ++ [.refresh token now deviceToken nextRefreshToken]))
    (apart : DigestsApart (front ++ [.refresh token now deviceToken nextRefreshToken]))
    (inRange : InRange config (front ++ [.refresh token now deviceToken nextRefreshToken]))
    (deviceId : String) :
    (refresh config (after config front).store token now deviceToken nextRefreshToken).2.map
        (·.device.id) = some deviceId ↔
      HoldsRefreshToken config (after config front).history deviceId token now := by
  rw [refresh]
  cases found : (after config front).store.devices.find? (·.refreshes token now) with
  | none =>
    refine ⟨(fun nothing => by cases nothing), fun holds => ?_⟩
    obtain ⟨witness, isWitness, accepts⟩ := refreshes_of_holds inRange holds
    exact absurd accepts (List.find?_eq_none.mp found witness isWitness)
  | some row =>
    have accepts := List.find?_some found
    have member := List.mem_of_find?_eq_some found
    have holdsRow := holds_of_refreshes apart inRange member accepts
    have fits : ((after config front).store.devices.all fun other => other.id == row.id ||
        (row.rotate config now deviceToken nextRefreshToken).besides other) = true := by
      rw [List.all_eq_true]
      intro other isOther
      by_cases same : other.id = row.id
      · simp [same]
      · rw [rotated_besides fresh apart isOther (Ne.symm same), Bool.or_true]
    dsimp only
    rw [if_pos fits]
    constructor
    · intro accepted
      obtain rfl := Option.some.inj accepted
      exact holdsRow
    · intro holds
      obtain ⟨other, lastOther, tokenOther, _⟩ := holdsRow
      obtain ⟨issuance, last, tokenHere, _⟩ := holds
      have within : token ∈ [other.issued.deviceToken, other.issued.refreshToken] := by
        simp [tokenOther]
      have withinToo : token ∈ [issuance.issued.deviceToken, issuance.issued.refreshToken] := by
        simp [tokenHere]
      obtain rfl := eq_of_token_mem fresh.front (mem_of_lastIssued lastOther).1
        (mem_of_lastIssued last).1 within withinToo
      rw [← (mem_of_lastIssued last).2, (mem_of_lastIssued lastOther).2]
      rfl

end

/-! ### At most once -/

/-- A refresh token that was accepted was issued, is accepted no second time, and is no longer the
last one of any device. -/
structure Spent (config : Config) (steps : List Step) : Prop where
  issued : ∀ token ∈ (after config steps).history.filterMap acceptedRefresh,
    ∃ issuance ∈ issuances (after config steps).history, issuance.issued.refreshToken = token
  rotated : ∀ token ∈ (after config steps).history.filterMap acceptedRefresh,
    ∀ deviceId issuance, lastIssued (after config steps).history deviceId = some issuance →
      issuance.issued.refreshToken ≠ token
  once : ((after config steps).history.filterMap acceptedRefresh).Nodup

theorem ne_of_minted (fresh : Fresh (front ++ [next]))
    (issued : issuance ∈ issuances (after config front).history) {minted : String}
    (isMinted : minted ∈ next.minted) : issuance.issued.refreshToken ≠ minted := by
  obtain ⟨step, member, mints, _⟩ := exists_step_of_issuance issued
  rw [Fresh, List.flatMap_append, List.nodup_append] at fresh
  refine fresh.2.2 _ (List.mem_flatMap.mpr ⟨step, member, ?_⟩) minted (by simpa using isMinted)
  rw [mints]
  exact List.mem_cons_of_mem _ List.mem_cons_self

theorem lastIssued_cases {entry : Step × Reply}
    (last : lastIssued (history ++ [entry]) deviceId = some issuance) :
    (Issuance.of entry = some issuance ∧ issuance.issued.device.id = deviceId) ∨
      (lastIssued history deviceId = some issuance ∧
        ∀ new, Issuance.of entry = some new → new.issued.device.id ≠ deviceId) := by
  cases new : Issuance.of entry with
  | none =>
    rw [lastIssued_concat_none history entry _ new] at last
    exact .inr ⟨last, fun _ isNew => by cases isNew⟩
  | some issued =>
    by_cases same : issued.issued.device.id = deviceId
    · rw [← same, lastIssued_concat_self history entry new] at last
      obtain rfl := Option.some.inj last
      exact .inl ⟨rfl, same⟩
    · rw [lastIssued_concat_other history entry _ new same] at last
      refine .inr ⟨last, fun other isOther => ?_⟩
      obtain rfl := Option.some.inj isOther
      exact same

theorem holds_of_acceptedRefresh (fresh : Fresh (front ++ [next]))
    (apart : DigestsApart (front ++ [next])) (inRange : InRange config (front ++ [next]))
    {token : String}
    (accepted : acceptedRefresh (next, (answer config (after config front).store next).2) =
      some token) :
    ∃ deviceId issuance new, lastIssued (after config front).history deviceId = some issuance ∧
      issuance.issued.refreshToken = token ∧
      Issuance.of (next, (answer config (after config front).store next).2) = some new ∧
      new.issued.device.id = deviceId := by
  cases next with
  | signIn | authenticate | revoke => cases accepted
  | refresh refreshToken now deviceToken nextRefreshToken =>
    have iff := refresh_iff fresh apart inRange
    simp only [answer, Prod.map] at accepted ⊢
    cases outcome : (refresh config (after config front).store refreshToken now deviceToken
        nextRefreshToken).2 with
    | none =>
      rw [outcome] at accepted
      cases accepted
    | some issued =>
      rw [outcome] at accepted iff
      obtain rfl := Option.some.inj accepted
      obtain ⟨issuance, last, isToken, _⟩ := (iff issued.device.id).mp rfl
      exact ⟨issued.device.id, issuance, ⟨issued, now⟩, last, isToken, rfl, rfl⟩

theorem history_concat (config : Config) (front : List Step) (next : Step) :
    (after config (front ++ [next])).history = (after config front).history ++
      [(next, (answer config (after config front).store next).2)] := by
  rw [after_concat, Desk.step]

theorem spent_after (fresh : Fresh steps) (apart : DigestsApart steps)
    (inRange : InRange config steps) : Spent config steps := by
  induction steps using List.reverseRecOn with
  | nil => exact ⟨by simp [after, Desk.opened], by simp [after, Desk.opened], List.nodup_nil⟩
  | append_singleton front next inductionHypothesis =>
    have before := inductionHypothesis fresh.front apart.front inRange.front
    have honest := honest_answer config (after config front).store next
    have still : ∀ token ∈ (after config front).history.filterMap acceptedRefresh,
        ∀ deviceId issuance,
          lastIssued (after config (front ++ [next])).history deviceId = some issuance →
            issuance.issued.refreshToken ≠ token := by
      intro token accepted deviceId issuance last
      rw [history_concat] at last
      obtain ⟨new, _⟩ | ⟨formerly, _⟩ := lastIssued_cases last
      · obtain ⟨earlier, issued, rfl⟩ := before.issued token accepted
        refine Ne.symm (ne_of_minted fresh issued ?_)
        rw [(honest issuance new).1]
        exact List.mem_cons_of_mem _ List.mem_cons_self
      · exact before.rotated token accepted deviceId issuance formerly
    have more : ∀ token, (∃ issuance ∈ issuances (after config front).history,
          issuance.issued.refreshToken = token) →
        ∃ issuance ∈ issuances (after config (front ++ [next])).history,
          issuance.issued.refreshToken = token := by
      rintro token ⟨issuance, member, isToken⟩
      refine ⟨issuance, ?_, isToken⟩
      rw [history_concat, issuances, List.filterMap_append]
      exact List.mem_append_left _ member
    cases accepted : acceptedRefresh (next, (answer config (after config front).store next).2) with
    | none =>
      have same : (after config (front ++ [next])).history.filterMap acceptedRefresh =
          (after config front).history.filterMap acceptedRefresh := by
        rw [history_concat, List.filterMap_append, List.filterMap_cons_none accepted,
          List.filterMap_nil, List.append_nil]
      exact
        { issued := by rw [same]; exact fun token member => more token (before.issued token member)
          rotated := by rw [same]; exact still
          once := by rw [same]; exact before.once }
    | some token =>
      obtain ⟨deviceId, issuance, new, last, isToken, isNew, isDevice⟩ :=
        holds_of_acceptedRefresh fresh apart inRange accepted
      have issued := (mem_of_lastIssued last).1
      have grown : (after config (front ++ [next])).history.filterMap acceptedRefresh =
          (after config front).history.filterMap acceptedRefresh ++ [token] := by
        rw [history_concat, List.filterMap_append, List.filterMap_cons_some accepted,
          List.filterMap_nil]
      have replaced : ∀ other later,
          lastIssued (after config (front ++ [next])).history other = some later →
            later.issued.refreshToken ≠ token := by
        intro other later isLast
        rw [history_concat] at isLast
        obtain ⟨isLater, _⟩ | ⟨formerly, elsewhere⟩ := lastIssued_cases isLast
        · rw [← isToken]
          refine Ne.symm (ne_of_minted fresh issued ?_)
          rw [(honest later isLater).1]
          exact List.mem_cons_of_mem _ List.mem_cons_self
        · -- Only this device was issued the token, and something else was issued to it just now.
          intro sameToken
          have within : token ∈ [later.issued.deviceToken, later.issued.refreshToken] := by
            simp [sameToken]
          have withinToo : token ∈ [issuance.issued.deviceToken, issuance.issued.refreshToken] := by
            simp [isToken]
          obtain rfl := eq_of_token_mem fresh.front (mem_of_lastIssued formerly).1 issued within
            withinToo
          refine elsewhere new isNew ?_
          rw [isDevice, ← (mem_of_lastIssued last).2, (mem_of_lastIssued formerly).2]
      refine { issued := ?_, rotated := ?_, once := ?_ }
      · rw [grown]
        intro other member
        obtain member | isIt := List.mem_append.mp member
        · exact more other (before.issued other member)
        · obtain rfl := List.mem_singleton.mp isIt
          exact more other ⟨issuance, issued, isToken⟩
      · rw [grown]
        intro other member
        obtain member | isIt := List.mem_append.mp member
        · exact still other member
        · obtain rfl := List.mem_singleton.mp isIt
          exact replaced
      · rw [grown]
        refine List.nodup_append.mpr ⟨before.once, by simp, ?_⟩
        intro earlier member other isIt
        obtain rfl := List.mem_singleton.mp isIt
        rintro rfl
        exact before.rotated earlier member deviceId issuance last isToken

/-! ### The ledger of OpenID tokens -/

variable {accepted : String × Int64}

theorem mem_rememberToken {accessToken : String} (member : accepted ∈ store.openidTokensAccepted) :
    accepted ∈ (rememberToken store accessToken now).1.openidTokensAccepted ∨
      accepted.2 < seconds (saturatingSub now replayLedgerRetentionSeconds) := by
  by_cases old : accepted.2 < seconds (saturatingSub now replayLedgerRetentionSeconds)
  · exact .inr old
  · refine .inl ?_
    have kept : accepted ∈ store.openidTokensAccepted.filter fun accepted =>
        !decide (accepted.2 < seconds (saturatingSub now replayLedgerRetentionSeconds)) :=
      List.mem_filter.mpr ⟨member, by simp [old]⟩
    rw [rememberToken]
    split
    · exact kept
    · exact List.mem_append_left _ kept

theorem rememberToken_of_ok {accessToken : String}
    (accepted : (rememberToken store accessToken now).2 = .ok ()) :
    (digest accessToken, seconds now) ∈
        (rememberToken store accessToken now).1.openidTokensAccepted ∧
      ∀ moment, (digest accessToken, moment) ∈ store.openidTokensAccepted →
        moment < seconds (saturatingSub now replayLedgerRetentionSeconds) := by
  rw [rememberToken] at accepted ⊢
  split
  · rename_i told
    rw [if_pos told] at accepted
    cases accepted
  · rename_i untold
    refine ⟨by simp, fun moment member => ?_⟩
    by_contra notOld
    refine untold (List.any_eq_true.mpr ⟨(digest accessToken, moment), ?_, by simp⟩)
    exact List.mem_filter.mpr ⟨member, by simp [notOld]⟩

theorem ledger_signIn (config : Config) (store : Store) (token : OpenIdToken)
    (deviceName : Option String) (userinfo : Except Refusal String) (now : UInt64)
    (minted : Minted) :
    (signIn config store token deviceName userinfo now minted).1.openidTokensAccepted =
        store.openidTokensAccepted ∨
      (signIn config store token deviceName userinfo now minted).1.openidTokensAccepted =
        (rememberToken store token.accessToken now).1.openidTokensAccepted := by
  rw [signIn]
  cases resolve config.serverName token userinfo with
  | error refusal => exact .inl rfl
  | ok subject =>
    dsimp only
    split
    · exact .inl rfl
    · refine .inr ?_
      cases rememberToken store token.accessToken now with
      | mk remembered outcome =>
        cases outcome with
        | error again => rfl
        | ok first =>
          dsimp only [issue]
          split <;> rfl

theorem mem_ledger_answer (member : accepted ∈ store.openidTokensAccepted) (next : Step) :
    accepted ∈ (answer config store next).1.openidTokensAccepted ∨
      accepted.2 < seconds (saturatingSub next.now replayLedgerRetentionSeconds) := by
  cases next with
  | signIn token deviceName userinfo now minted =>
    obtain same | same := ledger_signIn config store token deviceName userinfo now minted
    · exact .inl (same ▸ member)
    · rw [answer, Prod.map, id, same]
      exact mem_rememberToken member
  | authenticate deviceToken now =>
    refine .inl ?_
    rw [answer, authenticate]
    split <;> exact member
  | refresh refreshToken now deviceToken nextRefreshToken =>
    refine .inl ?_
    rw [answer]
    obtain refused | ⟨row, _, _, rotated⟩ :=
      refresh_cases config store refreshToken now deviceToken nextRefreshToken
    · rw [refused]
      exact member
    · rw [rotated]
      exact member
  | revoke deviceId now => exact .inl member

def Remembered (config : Config) (steps : List Step) : Prop :=
  ∀ accepted ∈ (after config steps).history.filterMap acceptedSignIn,
    (∃ step ∈ steps, accepted.2 = step.now) ∧
      ((digest accepted.1, seconds accepted.2) ∈
          (after config steps).store.openidTokensAccepted ∨
        ∃ step ∈ steps, accepted.2.toNat + replayLedgerRetentionSeconds.toNat < step.now.toNat)

theorem old_iff {moment now : UInt64} (small : moment.toNat < 2 ^ 63) (smallToo : now.toNat < 2 ^ 63) :
    seconds moment < seconds (saturatingSub now replayLedgerRetentionSeconds) ↔
      moment.toNat + replayLedgerRetentionSeconds.toNat < now.toNat := by
  rw [seconds_lt_iff small (by rw [toNat_saturatingSub]; omega), toNat_saturatingSub]
  omega

theorem moment_lt (inRange : InRange config steps) {step : Step} (member : step ∈ steps) :
    step.now.toNat < 2 ^ 63 := by
  have bound := (inRange step member).1
  omega

theorem acceptedSignIn_answer {accepted : String × UInt64}
    (isAccepted : acceptedSignIn (next, (answer config store next).2) = some accepted) :
    accepted.2 = next.now ∧
      (digest accepted.1, seconds accepted.2) ∈
          (answer config store next).1.openidTokensAccepted ∧
        ∀ moment, (digest accepted.1, moment) ∈ store.openidTokensAccepted →
          moment < seconds (saturatingSub next.now replayLedgerRetentionSeconds) := by
  cases next with
  | authenticate | refresh | revoke => cases isAccepted
  | signIn token deviceName userinfo now minted =>
    simp only [answer, Prod.map] at isAccepted
    cases outcome : (signIn config store token deviceName userinfo now minted).2 with
    | error refusal =>
      rw [outcome] at isAccepted
      cases isAccepted
    | ok issued =>
      rw [outcome] at isAccepted
      obtain rfl := Option.some.inj isAccepted
      have signed := signIn_of_ok outcome
      obtain ⟨inside, old⟩ := rememberToken_of_ok signed.remembered
      refine ⟨rfl, ?_, old⟩
      rw [answer, Prod.map, id, signed.ledger]
      exact inside

theorem remembered_after (inRange : InRange config steps) :
    Remembered config steps := by
  induction steps using List.reverseRecOn with
  | nil =>
    intro accepted member
    simp [after, Desk.opened] at member
  | append_singleton front next inductionHypothesis =>
    have before := inductionHypothesis inRange.front
    have later : ∀ step ∈ front, step ∈ front ++ [next] :=
      fun step member => List.mem_append_left _ member
    intro accepted member
    rw [history_concat, List.filterMap_append] at member
    obtain member | isNew := List.mem_append.mp member
    · obtain ⟨⟨step, isStep, moment⟩, held | ⟨since, isSince, old⟩⟩ := before accepted member
      · refine ⟨⟨step, later step isStep, moment⟩, ?_⟩
        rw [after_concat]
        refine (mem_ledger_answer held next).imp_right fun old => ⟨next, by simp, ?_⟩
        rw [moment] at old ⊢
        exact (old_iff (moment_lt inRange (later step isStep))
          (moment_lt inRange (by simp))).mp old
      · exact ⟨⟨step, later step isStep, moment⟩, .inr ⟨since, later since isSince, old⟩⟩
    · have isAccepted : acceptedSignIn
          (next, (answer config (after config front).store next).2) = some accepted := by
        simpa using isNew
      obtain ⟨moment, held, _⟩ := acceptedSignIn_answer isAccepted
      refine ⟨⟨next, by simp, moment⟩, .inl ?_⟩
      rw [after_concat]
      exact held

theorem replayed_after (inRange : InRange config steps)
    (forward : steps.Pairwise fun earlier later => earlier.now ≤ later.now) :
    ((after config steps).history.filterMap acceptedSignIn).Pairwise fun earlier later =>
      earlier.1 = later.1 →
        earlier.2.toNat + replayLedgerRetentionSeconds.toNat < later.2.toNat := by
  induction steps using List.reverseRecOn with
  | nil => exact .nil
  | append_singleton front next inductionHypothesis =>
    obtain ⟨forwardFront, _, forwardNext⟩ := List.pairwise_append.mp forward
    have before := inductionHypothesis inRange.front forwardFront
    have remembered := remembered_after inRange.front
    rw [history_concat, List.filterMap_append]
    refine List.pairwise_append.mpr ⟨before, ?_, ?_⟩
    · cases isNew : acceptedSignIn (next, (answer config (after config front).store next).2) <;>
        simp [isNew]
    · intro earlier member accepted isNew sameToken
      have isAccepted : acceptedSignIn
          (next, (answer config (after config front).store next).2) = some accepted := by
        simpa using isNew
      obtain ⟨moment, _, unheld⟩ := acceptedSignIn_answer isAccepted
      obtain ⟨⟨step, isStep, isMoment⟩, held | ⟨since, isSince, old⟩⟩ := remembered earlier member
      · have old := unheld _ (sameToken ▸ held)
        rw [moment]
        rw [isMoment] at old ⊢
        exact (old_iff (moment_lt inRange (List.mem_append_left _ isStep))
          (moment_lt inRange (by simp))).mp old
      · have forwardSince := UInt64.le_iff_toNat_le.mp (forwardNext since isSince next (by simp))
        rw [moment]
        omega

/-! ### Whole runs -/

theorem admits_ne_of_revoked (fresh : Fresh (front ++ [next]))
    (apart : DigestsApart (front ++ [next])) (inRange : InRange config (front ++ [next]))
    (gone : isRevoked (after config front).history deviceId = true) :
    (answer config (after config front).store next).2.admits ≠ some deviceId := by
  intro admitted
  cases next with
  | signIn | revoke => cases admitted
  | authenticate deviceToken now =>
    have accepted : (authenticate (after config front).store deviceToken now).2.map Device.id =
        some deviceId := by
      simp only [answer, Prod.map] at admitted
      cases outcome : (authenticate (after config front).store deviceToken now).2 <;>
        rw [outcome] at admitted <;> exact admitted
    obtain ⟨_, _, _, live, _⟩ := (authenticate_iff fresh apart inRange deviceId).mp accepted
    rw [gone] at live
    cases live
  | refresh refreshToken now deviceToken nextRefreshToken =>
    have accepted : (refresh config (after config front).store refreshToken now deviceToken
        nextRefreshToken).2.map (·.device.id) = some deviceId := by
      simp only [answer, Prod.map] at admitted
      cases outcome : (refresh config (after config front).store refreshToken now deviceToken
          nextRefreshToken).2 <;>
        rw [outcome] at admitted <;> exact admitted
    obtain ⟨_, _, _, live, _⟩ := (refresh_iff fresh apart inRange deviceId).mp accepted
    rw [gone] at live
    cases live

/-- The tokens of every run whose clock stays in range are what they have to be, given that minted
tokens do not repeat and the digest tells tokens apart. -/
theorem sessions_hold (config : Config) (steps : List Step) (fresh : Fresh steps)
    (apart : DigestsApart steps) (inRange : InRange config steps) :
    SessionsHold config steps where
  authenticates := by
    rintro front token now ⟨rest, rfl⟩ deviceId
    exact authenticate_iff fresh.front apart.front inRange.front deviceId
  refreshes := by
    rintro front token now deviceToken nextRefreshToken ⟨rest, rfl⟩ deviceId
    exact refresh_iff fresh.front apart.front inRange.front deviceId
  once := (spent_after fresh apart inRange).once
  revoked := by
    rintro front next ⟨rest, rfl⟩ deviceId gone
    exact admits_ne_of_revoked fresh.front apart.front inRange.front gone
  replayed := replayed_after inRange
  refused := by
    intro store token deviceName userinfo now minted refusal refused
    exact signIn_of_refused refused

end

/-! ### Two clocks -/

namespace SignedInOnce

def config : Config where
  owner := "@owner:example.org"
  serverName := "example.org"
  deviceTokenTtlSeconds := 900
  refreshTokenTtlSeconds := 2592000

def signsIn (now : UInt64) : Step :=
  .signIn { accessToken := "openid", matrixServerName := none } (some "Pixel 8")
    (.ok "@owner:example.org") now
    { deviceId := "pixel", deviceToken := "first", refreshToken := "second" }

def visit : List Step :=
  [signsIn 1000, .authenticate "first" 1001, .refresh "second" 1002 "third" "fourth",
    .authenticate "third" 1003, .revoke "pixel" 1004, .authenticate "third" 1005]

set_option maxRecDepth 10000 in
theorem sessions_hold_visit : SessionsHold config visit :=
  sessions_hold config visit (by decide) (by decide +kernel) (by decide +kernel)

def lastMoment : UInt64 := 9223372036854775807

def endOfTime : List Step := [signsIn lastMoment, .authenticate "first" lastMoment]

set_option maxRecDepth 10000 in
/-- With a clock at the end of the store's moments a token is expired when it is issued. -/
theorem expired_when_issued :
    ¬∀ (config : Config) (steps : List Step), Fresh steps → DigestsApart steps →
      SessionsHold config steps := by
  intro always
  have holds := always config endOfTime (by decide) (by decide +kernel)
  have issued : lastIssued (after config [signsIn lastMoment]).history "pixel" = some
      { issued :=
          { device :=
              { id := "pixel"
                name := "Pixel 8"
                createdUnixSeconds := lastMoment
                lastSeenUnixSeconds := lastMoment
                revokedUnixSeconds := none }
            deviceToken := "first"
            deviceTokenTtlSeconds := 900
            refreshToken := "second"
            refreshTokenTtlSeconds := 2592000 }
        now := lastMoment } := by decide
  have live : isRevoked (after config [signsIn lastMoment]).history "pixel" = false := by
    decide
  have accepted := (holds.authenticates [signsIn lastMoment] "first" lastMoment
    (List.prefix_refl _) "pixel").mpr ⟨_, issued, rfl, live, by decide⟩
  have refused : (authenticate (after config [signsIn lastMoment]).store "first" lastMoment).2 =
      none := by decide +kernel
  rw [refused] at accepted
  cases accepted

end SignedInOnce

end Twalk.Sessions
