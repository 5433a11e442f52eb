/-
This file is what the clerk's session keeps over every run of `Twalk.GatewaySession`. A refresh
returns with the newest refresh token in the file, or says that its write failed, and no token
the Gateway has rotated away is presented again, exactly in the runs where every answer that
carries a rotated token can be used to its end and no refresh begins once a write has failed.
That a device token is used only after its refresh token is in the file holds in every run.
-/

import Twalk.GatewaySession

namespace Twalk.Clerk.Gateway

variable {Caller : Type}

/-! ### What a session keeps -/

def Holds (gateway : Gateway Caller) (token : String) : Prop :=
  ∃ contents, gateway.file = .ok contents ∧ SessionFile.read contents = some token

def Kept (gateway : Gateway Caller) : Prop :=
  ∀ newest, gateway.issued.getLast? = some newest → gateway.Holds newest.refresh

def Backed (gateway : Gateway Caller) (token : String) : Prop :=
  ∀ issuance ∈ gateway.issued, issuance.device = some token → issuance.refresh ∈ gateway.written

/-- The session survives: a refresh that has returned left the newest refresh token in the file,
or its error is the file write's own; no refresh presents a token that was rotated away; and every
device token that was used is backed by the file. -/
structure Survives (gateway : Gateway Caller) : Prop where
  kept : ∀ how, gateway.returned = some how →
    gateway.Kept ∨ ∃ why, how = ⟨some (alreadyRotated why), some why⟩
  unrotated : ∀ caller presented purpose, gateway.tasks caller = .refreshing presented purpose →
    presented ∉ gateway.rotatedAway
  backed : ∀ token ∈ gateway.used, gateway.Backed token

/-- An answer from which a refresh reads all it needs. -/
def Usable (sent : Sent) : Prop :=
  ∃ answer document stops device lifetime, sent = .answered answer ∧
    answer.body = .text (some document) stops ∧ 200 ≤ answer.status ∧ answer.status < 300 ∧
    answer.cookie deviceCookie = some device ∧ expiresIn document = some lifetime ∧ 0 < lifetime

/-- A call has the lock and no device token that is worth sending. -/
def Begins (gateway : Gateway Caller) (caller : Caller) (now : Int) : Prop :=
  gateway.holder = none ∧ ((∃ direct, gateway.tasks caller = .waiting (.session direct)) ∨
    (∃ again, gateway.tasks caller = .waiting (.token again)) ∧ gateway.fresh now = none)

/-- A refresh begins only while the newest refresh token is in the file, and an answer that carries
a rotated token can be used. -/
def Careful (gateway : Gateway Caller) : Happening Caller → Prop
  | .enters caller now _ => gateway.Begins caller now → gateway.Kept
  | .refreshed caller sent _ _ _ =>
    (∃ presented purpose, gateway.tasks caller = .refreshing presented purpose) →
      (issuance sent).isSome → Usable sent
  | _ => True

def Minted (gateway : Gateway Caller) : Happening Caller → Prop
  | .refreshed caller sent _ _ _ =>
    ∀ presented purpose, gateway.tasks caller = .refreshing presented purpose →
      ∀ issued, issuance sent = some issued →
        isToken issued.refresh = true ∧ issued.refresh ≠ presented ∧
        issued.refresh ∉ gateway.rotatedAway ∧
        ∀ other ∈ gateway.issued, issued.device.isSome → other.device ≠ issued.device
  | _ => True

/-! ### The invariant -/

def Known (gateway : Gateway Caller) (token : String) : Prop :=
  (∃ issuance ∈ gateway.issued, issuance.device = some token) ∧ gateway.Backed token

/-- What the file, the records and the device tokens keep. A token the file still holds after it
lost the newest one has been rotated away. -/
structure Sound (gateway : Gateway Caller) : Prop where
  lost : ¬ gateway.Kept → ∀ token, gateway.Holds token → token ∈ gateway.rotatedAway
  newest : ∀ newest, gateway.issued.getLast? = some newest →
    newest.refresh ∉ gateway.rotatedAway
  unissued : gateway.issued = [] → gateway.rotatedAway = []
  device : ∀ held, gateway.device = some held → gateway.Known held.token
  used : ∀ token ∈ gateway.used, gateway.Known token

/-- What every step of a careful run keeps: a refresh that is under way holds the lock, and has
presented what the file holds. -/
structure Steady (gateway : Gateway Caller) : Prop extends Sound gateway where
  returned : ∀ how, gateway.returned = some how →
    gateway.Kept ∨ ∃ why, how = ⟨some (alreadyRotated why), some why⟩
  held : ∀ caller presented purpose, gateway.tasks caller = .refreshing presented purpose →
    gateway.holder = some caller ∧ gateway.Holds presented ∧
      presented ∉ gateway.rotatedAway ∧ gateway.Kept

variable {gateway : Gateway Caller}

theorem Steady.survives (steady : Steady gateway) :
    Survives gateway where
  kept := steady.returned
  unrotated caller presented purpose isTask := (steady.held caller presented purpose isTask).2.2.1
  backed token isUsed := (steady.used token isUsed).2

theorem steady_initial (file : Except String String) :
    Steady (initial file : Gateway Caller) where
  lost lost := absurd (fun _ isNewest => nomatch isNewest) lost
  newest _ isNewest := nomatch isNewest
  unissued _ := rfl
  device _ isDevice := nomatch isDevice
  used _ isUsed := nomatch isUsed
  returned _ isReturned := nomatch isReturned
  held _ _ _ isTask := nomatch isTask

theorem Holds.unique {first second : String} (holds : gateway.Holds first)
    (other : gateway.Holds second) : first = second := by
  obtain ⟨contents, isContents, isFirst⟩ := holds
  obtain ⟨_, isSame, isSecond⟩ := other
  rw [isContents] at isSame
  cases isSame
  exact Option.some.inj (isFirst.symm.trans isSecond)

theorem Steady.cleared (steady : Steady gateway) :
    Steady { gateway with returned := none } :=
  { steady with returned := fun _ isReturned => nomatch isReturned }

variable {token : String}

theorem Sound.notMem_rotatedAway (sound : Sound gateway) (kept : gateway.Kept)
    (holds : gateway.Holds token) :
    token ∉ gateway.rotatedAway := by
  cases isLast : gateway.issued.getLast? with
  | none =>
    rw [sound.unissued (List.getLast?_eq_none_iff.mp isLast)]
    exact List.not_mem_nil
  | some newest =>
    rw [holds.unique (kept newest isLast)]
    exact sound.newest newest isLast

theorem holds_of_read {path : String} {unreadable : Option String}
    (isRead : gateway.read path unreadable = .ok token) :
    gateway.Holds token := by
  unfold Gateway.read at isRead
  split at isRead
  · cases isRead
  · rename_i contents isContents
    split at isRead
    · rename_i isToken
      cases isRead
      unfold Gateway.contents at isContents
      split at isContents
      · cases isContents
      · exact ⟨contents, isContents, isToken⟩
    · cases isRead

/-! ### The answer to a refresh -/

variable {now : Int}

variable {sent : Sent}

section Answers

variable {gateway : Gateway Caller}

theorem device_of_fresh {held : DeviceToken} (isFresh : gateway.fresh now = some held) :
    gateway.device = some held :=
  (Option.filter_eq_some_iff.mp isFresh).1

theorem usable_of_issuedBy {issued : Issued} (isOk : issuedBy sent = .ok issued) :
    Usable sent ∧ issuance sent = some ⟨some issued.device, issued.rotated⟩ := by
  unfold issuedBy at isOk
  split at isOk
  · cases isOk
  · rename_i answer
    split at isOk
    · cases isOk
    · rename_i document stops isBody
      split at isOk
      · cases isOk
      · split at isOk
        · cases isOk
        · rename_i isSuccess
          split at isOk
          · cases isOk
          · cases isOk
          · rename_i device rotated isDevice isRotated
            split at isOk
            · cases isOk
            · rename_i lifetime isLifetime
              split at isOk
              · cases isOk
              · rename_i isPositive
                cases isOk
                obtain ⟨document, rfl, isLifetime⟩ := Option.bind_eq_some_iff.mp isLifetime
                have isSuccess := not_not.mp isSuccess
                refine ⟨⟨answer, document, stops, device, lifetime, rfl, isBody, isSuccess.1,
                  isSuccess.2, isDevice, isLifetime, Int.not_le.mp isPositive⟩, ?_⟩
                show (answer.cookie refreshCookie).map _ = _
                rw [isRotated, isDevice]
                rfl

theorem exists_issuedBy (usable : Usable sent) {issued : Issuance}
    (isIssuance : issuance sent = some issued) : ∃ read, issuedBy sent = .ok read := by
  obtain ⟨answer, document, stops, device, lifetime, rfl, isBody, atLeast, below, isDevice,
    isLifetime, isPositive⟩ := usable
  obtain ⟨rotated, isRotated, -⟩ := Option.map_eq_some_iff.mp isIssuance
  have authentic : answer.status ≠ 401 := by omega
  refine ⟨⟨device, rotated, lifetime⟩, ?_⟩
  unfold issuedBy
  simp only [isBody, isDevice, isRotated, Option.bind_some, isLifetime]
  rw [if_neg authentic, if_neg (not_not.mpr ⟨atLeast, below⟩), if_neg (Int.not_le.mpr isPositive)]

theorem Known.rotates (known : gateway.Known token) {issued : Issuance}
    (isIssuance : issuance sent = some issued)
    (minted : ∀ other ∈ gateway.issued, issued.device.isSome → other.device ≠ issued.device)
    (presented : String) : (gateway.rotates presented sent).Known token := by
  obtain ⟨⟨issuance, isIssued, isDevice⟩, backed⟩ := known
  unfold Gateway.rotates
  rw [isIssuance]
  refine ⟨⟨issuance, List.mem_append_left _ isIssued, isDevice⟩, fun other isOther sameDevice => ?_⟩
  rcases List.mem_append.mp isOther with isOther | isNew
  · exact backed other isOther sameDevice
  · rw [List.mem_singleton.mp isNew] at sameDevice
    exact absurd (isDevice.trans sameDevice.symm) (minted issuance isIssued (by rw [sameDevice]; rfl))

theorem Known.mono {later : Gateway Caller} (known : gateway.Known token)
    (issued : later.issued = gateway.issued) (written : gateway.written ⊆ later.written) :
    later.Known token := by
  obtain ⟨isIssued, backed⟩ := known
  refine ⟨issued ▸ isIssued, fun issuance isOther sameDevice => ?_⟩
  exact written (backed issuance (issued ▸ isOther) sameDevice)

section Refreshed

variable (steady : Steady gateway) {caller : Caller} {presented : String} {purpose : Purpose}
  (isTask : gateway.tasks caller = .refreshing presented purpose)

include steady isTask

theorem Steady.alone (other : Caller) (token : String) (otherPurpose : Purpose)
    (isOther : gateway.tasks other = .refreshing token otherPurpose) : other = caller := by
  have isHolder := (steady.held other token otherPurpose isOther).1
  rw [(steady.held caller presented purpose isTask).1] at isHolder
  exact (Option.some.inj isHolder).symm

variable {sent : Sent} {issued : Issuance} (isIssuance : issuance sent = some issued)
  (fresh : issued.refresh ≠ presented) (unseen : issued.refresh ∉ gateway.rotatedAway)
  (minted : ∀ other ∈ gateway.issued, issued.device.isSome → other.device ≠ issued.device)

include isIssuance fresh unseen minted

theorem Steady.rotates : Sound (gateway.rotates presented sent) := by
  have known := fun token (known : gateway.Known token) =>
    known.rotates isIssuance minted presented
  have isRotated : gateway.rotates presented sent = { gateway with
      issued := gateway.issued ++ [issued]
      rotatedAway := presented :: gateway.rotatedAway } := by
    unfold Gateway.rotates
    rw [isIssuance]
  rw [isRotated] at known ⊢
  obtain ⟨-, holds, -, -⟩ := steady.held caller presented purpose isTask
  refine ⟨fun _ token isToken => ?_, fun newest isNewest => ?_, fun isNil => ?_,
    fun held isDevice => ?_, fun token isUsed => ?_⟩
  · have same : token = presented := Holds.unique isToken holds
    rw [same]
    exact List.mem_cons_self
  · rw [List.getLast?_concat] at isNewest
    cases isNewest
    exact fun isMember => (List.mem_cons.mp isMember).elim fresh unseen
  · exact absurd isNil (by simp)
  · exact known _ (steady.device held isDevice)
  · exact known _ (steady.used token isUsed)

theorem Steady.keeps {read : Issued} (isRead : issued = ⟨some read.device, read.rotated⟩)
    (isOne : isToken read.rotated = true) (now : Int) (unreadable : Option String) :
    Sound ((gateway.rotates presented sent).keeps read now unreadable) ∧
      ((gateway.rotates presented sent).keeps read now unreadable).Kept ∧
      ((gateway.rotates presented sent).keeps read now unreadable).Known read.device := by
  have sound := steady.rotates isTask isIssuance fresh unseen minted
  have known : ∀ token, (gateway.rotates presented sent).Known token →
      ((gateway.rotates presented sent).keeps read now unreadable).Known token :=
    fun _ known => known.mono rfl (List.subset_cons_self _ _)
  have isLast : (gateway.rotates presented sent).issued = gateway.issued ++ [issued] := by
    unfold Gateway.rotates
    rw [isIssuance]
  have kept : ((gateway.rotates presented sent).keeps read now unreadable).Kept := by
    intro newest isNewest
    have isNewest : (gateway.rotates presented sent).issued.getLast? = some newest := isNewest
    rw [isLast, List.getLast?_concat] at isNewest
    cases isNewest
    rw [isRead]
    exact ⟨_, rfl, read_written isOne _⟩
  have issuedKnown : ((gateway.rotates presented sent).keeps read now unreadable).Known
      read.device := by
    have isIssued : ((gateway.rotates presented sent).keeps read now unreadable).issued =
        gateway.issued ++ [issued] := isLast
    refine ⟨⟨issued, isIssued ▸ by simp, by rw [isRead]⟩, fun other isOther sameDevice => ?_⟩
    rw [isIssued] at isOther
    rcases List.mem_append.mp isOther with isOther | isNew
    · exact absurd (sameDevice.trans (by rw [isRead]))
        (minted other isOther (by rw [isRead]; rfl))
    · rw [List.mem_singleton.mp isNew, isRead]
      exact List.mem_cons_self
  refine ⟨⟨fun lost => absurd kept lost, sound.newest, sound.unissued, fun held isDevice => ?_,
    fun token isUsed => known token (sound.used token isUsed)⟩, kept, issuedKnown⟩
  cases isDevice
  exact issuedKnown

end Refreshed

theorem tasks_rotates (presented : String) (sent : Sent) :
    (gateway.rotates presented sent).tasks = gateway.tasks := by
  unfold Gateway.rotates
  split <;> rfl

end Answers

section Steps

variable [DecidableEq Caller] {path : String} {gateway : Gateway Caller}

/-! ### Calls that go on -/

variable {task : Task}

theorem refreshing_update {caller other : Caller} {presented : String} {purpose : Purpose}
    (rests : ∀ presented purpose, task ≠ .refreshing presented purpose)
    (isTask : Function.update gateway.tasks caller task other = .refreshing presented purpose) :
    other ≠ caller ∧ gateway.tasks other = .refreshing presented purpose := by
  by_cases same : other = caller
  · rw [same, Function.update_self] at isTask
    exact absurd isTask (rests presented purpose)
  · rw [Function.update_of_ne same] at isTask
    exact ⟨same, isTask⟩

theorem Steady.become (steady : Steady gateway) (caller : Caller)
    (rests : ∀ presented purpose, task ≠ .refreshing presented purpose) :
    Steady (gateway.become caller task) := by
  refine { steady with held := fun other presented purpose isTask => ?_ }
  exact steady.held other presented purpose (refreshing_update rests isTask).2

theorem Steady.uses (steady : Steady gateway) (caller : Caller) (known : gateway.Known token)
    (again : Bool) : Steady (gateway.uses caller token again) := by
  have goesOn : Steady (gateway.become caller (.requesting token again)) :=
    steady.become caller fun _ _ => Task.noConfusion
  refine { goesOn with used := fun other isUsed => ?_ }
  rcases List.mem_cons.mp isUsed with rfl | isUsed
  · exact known
  · exact steady.used other isUsed

theorem Sound.returns (sound : Sound gateway) (caller : Caller) {how : Return}
    (rests : ∀ presented purpose, task ≠ .refreshing presented purpose)
    (alone : ∀ other presented purpose, gateway.tasks other = .refreshing presented purpose →
      other = caller) (told : gateway.Kept ∨ ∃ why, how = ⟨some (alreadyRotated why), some why⟩) :
    Steady (gateway.returns caller task how) := by
  refine { sound with
    returned := fun other isReturned => ?_
    held := fun other presented purpose isTask => ?_ }
  · cases isReturned
    exact told
  · obtain ⟨differ, isOther⟩ := refreshing_update rests isTask
    exact absurd (alone other presented purpose isOther) differ

/-! ### A refresh begins -/

theorem Steady.begins (steady : Steady gateway) (free : gateway.holder = none)
    (unreturned : gateway.returned = none) (kept : gateway.Kept) (caller : Caller)
    (purpose : Purpose) (unreadable : Option String) :
    Steady (gateway.begins path caller purpose unreadable) := by
  have nobody : ∀ other presented purpose,
      gateway.tasks other ≠ .refreshing presented purpose := by
    intro other presented purpose isTask
    have isHolder := (steady.held other presented purpose isTask).1
    rw [free] at isHolder
    cases isHolder
  have emptied : Sound { gateway with device := none } :=
    { steady with device := fun _ isDevice => nomatch isDevice }
  unfold Gateway.begins
  cases isRead : gateway.read path unreadable with
  | error error =>
    exact emptied.returns caller (fun _ _ => Task.noConfusion)
      (fun other presented purpose isTask => absurd isTask (nobody other presented purpose))
      (.inl kept)
  | ok token =>
    have holds := holds_of_read isRead
    refine { emptied with
      returned := fun how isReturned => ?_
      held := fun other presented purpose isTask => ?_ }
    · exact nomatch unreturned.symm.trans isReturned
    · by_cases same : other = caller
      · subst same
        have isToken : Task.refreshing token _ = .refreshing presented purpose :=
          (Function.update_self ..).symm.trans isTask
        cases isToken
        exact ⟨rfl, holds, steady.notMem_rotatedAway kept holds, kept⟩
      · have isOther : gateway.tasks other = .refreshing presented purpose :=
          (Function.update_of_ne same ..).symm.trans isTask
        exact absurd isOther (nobody other presented purpose)

theorem Sound.lost_begins (sound : Sound gateway) (lost : ¬ gateway.Kept) (path : String)
    (caller : Caller) (purpose : Purpose) (unreadable : Option String) :
    ¬ Survives (gateway.begins path caller purpose unreadable) := by
  intro survives
  unfold Gateway.begins at survives
  cases isRead : gateway.read path unreadable with
  | error error =>
    rw [isRead] at survives
    rcases survives.kept _ rfl with kept | ⟨why, isOwn⟩
    · exact lost kept
    · cases isOwn
  | ok token =>
    rw [isRead] at survives
    exact survives.unrotated caller token purpose (Function.update_self ..)
      (sound.lost lost token (holds_of_read isRead))

variable {caller : Caller}

theorem enters_of_begins (path : String) (begun : gateway.Begins caller now)
    (unreadable : Option String) :
    ∃ purpose, gateway.enters path caller now unreadable =
      gateway.begins path caller purpose unreadable := by
  obtain ⟨free, ⟨direct, isTask⟩ | ⟨⟨again, isTask⟩, stale⟩⟩ := begun
  · exact ⟨_, by unfold Gateway.enters; rw [free, isTask]⟩
  · exact ⟨_, by unfold Gateway.enters; rw [free, isTask, stale]⟩

theorem Steady.enters (steady : Steady gateway) (unreturned : gateway.returned = none)
    (careful : gateway.Begins caller now → gateway.Kept) (unreadable : Option String) :
    Steady (gateway.enters path caller now unreadable) := by
  unfold Gateway.enters
  split
  · rename_i again free isTask
    split
    · rename_i held isFresh
      exact steady.uses caller (steady.device held (device_of_fresh isFresh)) again
    · rename_i stale
      exact steady.begins free unreturned (careful ⟨free, .inr ⟨⟨again, isTask⟩, stale⟩⟩) caller _
        unreadable
  · rename_i direct free isTask
    exact steady.begins free unreturned (careful ⟨free, .inl ⟨direct, isTask⟩⟩) caller _ unreadable
  · exact steady

/-! ### A refresh returns -/

theorem Sound.proceeds (sound : Sound gateway) (kept : gateway.Kept)
    (alone : ∀ other presented purpose, gateway.tasks other = .refreshing presented purpose →
      other = caller) (known : gateway.Known token) (purpose : Purpose) :
    Steady (gateway.proceeds caller token purpose) := by
  have rests : ∀ {task : Task}, (∀ presented purpose, task ≠ .refreshing presented purpose) →
      Steady (gateway.returns caller task ⟨none, none⟩) :=
    fun rests => sound.returns caller rests alone (.inl kept)
  cases purpose with
  | token again => exact (rests fun _ _ => Task.noConfusion).uses caller known again
  | session direct =>
    cases direct with
    | true => exact rests fun _ _ => Task.noConfusion
    | false => exact rests fun _ _ => Task.noConfusion

variable {unreadable unwritten : Option String}

theorem Steady.refreshed (steady : Steady gateway)
    (minted : gateway.Minted (.refreshed caller sent now unreadable unwritten))
    (careful : gateway.Careful (.refreshed caller sent now unreadable unwritten)) :
    Steady (gateway.refreshed caller sent now unreadable unwritten) := by
  unfold Gateway.refreshed
  split
  · rename_i presented purpose isTask
    have alone := steady.alone isTask
    obtain ⟨-, -, -, kept⟩ := steady.held caller presented purpose isTask
    have rotatedAlone : ∀ other token purpose,
        (gateway.rotates presented sent).tasks other = .refreshing token purpose →
        other = caller := by
      rw [tasks_rotates]
      exact alone
    cases isIssuance : issuance sent with
    | none =>
      have unrotated : gateway.rotates presented sent = gateway := by
        unfold Gateway.rotates
        rw [isIssuance]
      cases isRead : issuedBy sent with
      | error error =>
        dsimp only
        rw [unrotated]
        exact steady.returns caller (fun _ _ => Task.noConfusion) alone (.inl kept)
      | ok read => exact nomatch (usable_of_issuedBy isRead).2.symm.trans isIssuance
    | some issued =>
      obtain ⟨isOne, fresh, unseen, apart⟩ := minted presented purpose isTask issued isIssuance
      have usable := careful ⟨presented, purpose, isTask⟩ (by rw [isIssuance]; rfl)
      obtain ⟨read, isRead⟩ := exists_issuedBy usable isIssuance
      have isIssued : issued = ⟨some read.device, read.rotated⟩ :=
        Option.some.inj (isIssuance.symm.trans (usable_of_issuedBy isRead).2)
      rw [isRead]
      cases unwritten with
      | some why =>
        exact (steady.rotates isTask isIssuance fresh unseen apart).returns caller
          (fun _ _ => Task.noConfusion) rotatedAlone (.inr ⟨why, rfl⟩)
      | none =>
        have isOne : isToken read.rotated = true := by rw [isIssued] at isOne; exact isOne
        obtain ⟨sound, keptNow, known⟩ :=
          steady.keeps isTask isIssuance fresh unseen apart isIssued isOne now unreadable
        exact sound.proceeds keptNow rotatedAlone known purpose
  · exact steady

theorem Steady.lost_refreshed (steady : Steady gateway)
    (minted : gateway.Minted (.refreshed caller sent now unreadable unwritten))
    (careless : ¬ gateway.Careful (.refreshed caller sent now unreadable unwritten)) :
    ¬ Survives (gateway.refreshed caller sent now unreadable unwritten) := by
  intro survives
  refine careless fun ⟨presented, purpose, isTask⟩ rotates => ?_
  obtain ⟨issued, isIssuance⟩ := Option.isSome_iff_exists.mp rotates
  obtain ⟨-, fresh, -, -⟩ := minted presented purpose isTask issued isIssuance
  cases isRead : issuedBy sent with
  | ok read => exact (usable_of_issuedBy isRead).1
  | error error =>
    unfold Gateway.refreshed at survives
    rw [isTask, isRead] at survives
    rcases survives.kept _ rfl with kept | ⟨why, isOwn⟩
    · obtain ⟨-, holds, -, -⟩ := steady.held caller presented purpose isTask
      have isNewest : ((gateway.rotates presented sent).returns caller .idle
          ⟨some error, none⟩).issued.getLast? = some issued := by
        unfold Gateway.returns Gateway.become Gateway.rotates
        rw [isIssuance]
        exact List.getLast?_concat ..
      have stillHolds : ((gateway.rotates presented sent).returns caller .idle
          ⟨some error, none⟩).Holds presented := by
        unfold Gateway.returns Gateway.become Gateway.rotates
        rw [isIssuance]
        exact holds
      exact absurd ((kept issued isNewest).unique stillHolds) fresh
    · cases isOwn

/-! ### Every run -/

theorem Steady.answered (steady : Steady gateway) (caller : Caller) (status : Option Nat) :
    Steady (gateway.answered caller status) := by
  unfold Gateway.answered
  split
  · split
    · exact steady.become caller fun _ _ => Task.noConfusion
    · exact steady.become caller fun _ _ => Task.noConfusion
  · exact steady

variable {happening : Happening Caller}

theorem Steady.step (steady : Steady gateway) (minted : gateway.Minted happening)
    (careful : gateway.Careful happening) :
    Steady (gateway.step path happening) := by
  unfold Gateway.step
  cases happening with
  | calls caller =>
    dsimp only
    split
    · exact steady.cleared.become caller fun _ _ => Task.noConfusion
    · exact steady.cleared
  | refreshes caller =>
    dsimp only
    split
    · exact steady.cleared.become caller fun _ _ => Task.noConfusion
    · exact steady.cleared
  | enters caller now unreadable => exact steady.cleared.enters rfl careful unreadable
  | refreshed caller sent now unreadable unwritten =>
    exact steady.cleared.refreshed minted careful
  | answered caller status => exact steady.cleared.answered caller status

theorem survives_step_iff (steady : Steady gateway) (minted : gateway.Minted happening) :
    Survives (gateway.step path happening) ↔ gateway.Careful happening := by
  refine ⟨fun survives => ?_, fun careful => (steady.step minted careful).survives⟩
  by_contra careless
  cases happening with
  | enters caller now unreadable =>
    obtain ⟨begun, lost⟩ := Classical.not_imp.mp careless
    have begun : Gateway.Begins { gateway with returned := none } caller now := begun
    obtain ⟨purpose, isBegun⟩ := enters_of_begins path begun unreadable
    refine steady.cleared.lost_begins lost path caller purpose unreadable ?_
    rw [← isBegun]
    exact survives
  | refreshed caller sent now unreadable unwritten =>
    exact steady.cleared.lost_refreshed minted careless survives
  | _ => exact careless trivial

end Steps

/-- The clerk's session survives every refresh the Gateway granted exactly in the runs where every
answer that carries a rotated token can be used to its end, and no refresh begins once the write
of a token has failed. What is written into the session file reads back, whatever it held, and
its other lines stay as they are exactly when none of them ends in a carriage return. -/
theorem survives_iff_careful [DecidableEq Caller] (path : String) (file : Except String String)
    {happenings : List (Happening Caller)}
    (minted : Along (step path) Minted (initial file) happenings) :
    ((∀ front, front <+: happenings → Survives (run (step path) (initial file) front)) ↔
        Along (step path) Careful (initial file) happenings) ∧
      ∀ existing token, isToken token = true →
        SessionFile.read (SessionFile.written existing token) = some token ∧
        (otherLines (SessionFile.written existing token) = otherLines (existing.getD "") ↔
          ∀ line ∈ otherLines (existing.getD ""), line.toList.getLast? ≠ some '\r') := by
  refine ⟨?_, fun existing token isOne =>
    ⟨read_written isOne existing, otherLines_written_iff isOne existing⟩⟩
  exact property_along_iff Steady Survives (fun _ steady => steady.survives)
    (fun _ _ steady minted => survives_step_iff steady minted)
    (fun _ _ steady minted careful => steady.step minted careful) (steady_initial file) minted

/-! ### An answer that breaks off -/

def provisioned : Except String String := .ok (SessionFile.written none "a1")

def issues (device refresh : String) (body : Body) : Sent :=
  .answered ⟨200, ["twalk_device=" ++ device ++ "; Path=/; HttpOnly",
    "twalk_refresh=" ++ refresh ++ "; Path=/api/session; HttpOnly"], body⟩

/-- The connection goes after the headers of the answer arrived. -/
def breaksOff : List (Happening Bool) := [
  .refreshes true, .enters true 0 none,
  .refreshed true (issues "d1" "a2" (.unread "connection reset")) 0 none none]

/-- The Gateway has rotated the refresh token, and the file holds the one that is dead. -/
theorem session_lost : ¬ Survives (run (step "session.env") (initial provisioned) breaksOff) := by
  intro survives
  have isIssued : (run (step "session.env") (initial provisioned) breaksOff).issued =
      [⟨some "d1", "a2"⟩] := rfl
  have isFile : (run (step "session.env") (initial provisioned) breaksOff).file =
      provisioned := rfl
  rcases survives.kept ⟨some (.unreachable ("reading the Companion Gateway's answer: " ++
      "connection reset")), none⟩ rfl with kept | ⟨why, isOwn⟩
  · have newest := kept ⟨some "d1", "a2"⟩ (by rw [isIssued]; rfl)
    have old : (run (step "session.env") (initial provisioned) breaksOff).Holds "a1" :=
      ⟨_, isFile, read_written (by decide) none⟩
    exact absurd (newest.unique old) (by decide)
  · cases isOwn

def succeeds : List (Happening Bool) := [
  .calls false, .enters false 0 none,
  .refreshed false (issues "d1" "a2" (.text (some (.object [("expires_in", .number 900)])) "")) 0
    none none,
  .answered false (some 201)]

/-- A refresh that reaches its end is survived. -/
theorem session_kept : Survives (run (step "session.env") (initial provisioned) succeeds) := by
  have minted : Along (step "session.env") Minted (initial provisioned) succeeds := by
    refine ⟨trivial, trivial, ?_, trivial, trivial⟩
    intro presented purpose isTask issued isIssuance
    cases isTask
    cases isIssuance
    exact ⟨by decide, by decide, List.not_mem_nil, fun _ isOther => absurd isOther List.not_mem_nil⟩
  have careful : Along (step "session.env") Careful (initial provisioned) succeeds := by
    refine ⟨trivial, ?_, ?_, trivial, trivial⟩
    · exact fun _ _ isNewest => nomatch isNewest
    · exact fun _ _ => ⟨_, _, _, "d1", 900, rfl, rfl, by decide, by decide, rfl, rfl, by decide⟩
  exact ((survives_iff_careful "session.env" provisioned minted).1.mpr careful) succeeds
    List.prefix_rfl

end Twalk.Clerk.Gateway
