/-
This file is what the collector's grant keeps over every run of `Twalk.CollectorGrant`. The file
holds the newest refresh token whenever no renewal is between its answer and its write, each
renewal presents that one, and no renewal panics, exactly in the runs where every answer that
carries a new refresh token can be read as a token response, its write is made, and the lifetime it
gives the access token fits the clock. That an access token is used only after its refresh token is
in the file holds in every run.
-/

import Twalk.CollectorGrant
import Twalk.Library.System

namespace Twalk.Oidc

/-! ### What the grant keeps -/

def World.Holds (world : World) (token : String) : Prop :=
  ∃ grant, world.file = some grant ∧ grant.refreshToken = token

def World.Kept (world : World) : Prop :=
  ∀ newest, world.issued.getLast? = some newest → world.Holds newest

/-- No renewal is between its answer and its write. -/
def World.AtRest (world : World) : Prop :=
  ∀ process, world.process = some process →
    ∀ grant response, process.phase ≠ .writing grant response

/-- The grant survives every rotation: the file holds the newest refresh token unless it is being
written, a renewal presents the newest, an access token is backed by the file before it is used,
and no renewal panicked. -/
structure World.Survives (world : World) : Prop where
  kept : world.AtRest → world.Kept
  newest : ∀ process presented, world.process = some process →
    process.phase = .asking presented → world.issued.getLast? = some presented
  held : ∀ process access, world.process = some process → process.access = some access →
    world.Holds access.issuedWith
  backed : ∀ token ∈ world.used, token ∈ world.filed
  calm : world.panicked = false

/-- An answer that issues another refresh token than the newest can be read. -/
def Readable (world : World) (reply : Reply) : Prop :=
  ∀ token, issuedBy reply = some token → world.issued.getLast? ≠ some token →
    ∃ response, verdictOf reply = .tokens response

/-- Nothing stops the process while a new refresh token is only in its memory, every answer that
carries one can be read, its write is made, and its lifetime fits the clock. -/
def Careful (world : World) (happening : Happening) : Prop :=
  ∀ process, world.process = some process →
    match happening, process.phase with
    | .replied reply _, .asking _ => Readable world reply
    | .stops, .writing grant _ => world.Holds grant.refreshToken
    | .wrote moved now, .writing grant response =>
      (moved = false → world.Holds grant.refreshToken) ∧
        (moved = true → now + response.expiresIn.getD defaultLifetime ≤ lastSecond)
    | _, _ => True

/-! ### The answer -/

theorem asStr_of_optionalText {member : Option Json} {value : Option String}
    (isText : optionalText member = some value) : member.bind Json.asStr = value := by
  unfold optionalText at isText
  split at isText
  · cases isText
    rfl
  · cases isText
    rfl
  · cases isText
    rfl
  · cases isText

variable {response : TokenResponse}

theorem optionalText_of_readTokens {body : Json} (isRead : readTokens body = some response) :
    optionalText (memberOf body "refresh_token" 1) = some response.refreshToken := by
  obtain ⟨_, -, isRead⟩ := Option.bind_eq_some_iff.mp isRead
  obtain ⟨_, -, isRead⟩ := Option.bind_eq_some_iff.mp isRead
  obtain ⟨refreshToken, isToken, isRead⟩ := Option.bind_eq_some_iff.mp isRead
  obtain ⟨_, -, isRead⟩ := Option.bind_eq_some_iff.mp isRead
  cases isRead
  exact isToken

theorem issuedBy_of_tokens {reply : Reply} (isTokens : verdictOf reply = .tokens response) :
    issuedBy reply = response.refreshToken.filter (· ≠ "") := by
  unfold verdictOf at isTokens
  split at isTokens
  · cases isTokens
  · cases isTokens
  · rename_i status body
    split_ifs at isTokens with refused success
    · unfold refusalOf at isTokens
      dsimp only at isTokens
      split_ifs at isTokens
    · split at isTokens
      · rename_i read isRead
        cases isTokens
        rw [← asStr_of_optionalText (optionalText_of_readTokens isRead)]
        exact if_pos success
      · cases isTokens

theorem getLast?_issued (issued : List String) (token : Option String) :
    (issued ++ token.toList).getLast? = token.or issued.getLast? := by
  cases token with
  | none => simp
  | some token => simp

/-! ### What every step keeps -/

structure World.Sound (world : World) : Prop extends World.Survives world where
  granted : ∀ process, world.process = some process → process.grant = world.file
  filed : ∀ token, world.Holds token → token ∈ world.filed
  shared : ∀ process access, world.process = some process → process.shared = some access →
    access.issuedWith ∈ world.filed
  writing : ∀ process grant response, world.process = some process →
    process.phase = .writing grant response → world.issued.getLast? = some grant.refreshToken
  known : world.issued.getLast? = none → world.file = none

theorem sound_start (file : Option Grant) : (World.start file).Sound where
  kept _ newest isNewest := by
    cases file with
    | none => cases isNewest
    | some grant =>
      cases isNewest
      exact ⟨grant, rfl, rfl⟩
  newest _ _ isProcess := nomatch isProcess
  held _ _ isProcess := nomatch isProcess
  backed _ isUsed := nomatch isUsed
  calm := rfl
  granted _ isProcess := nomatch isProcess
  filed token := by
    rintro ⟨grant, isFile, rfl⟩
    cases isFile
    exact List.mem_singleton_self _
  shared _ _ isProcess := nomatch isProcess
  writing _ _ _ isProcess := nomatch isProcess
  known none := by
    cases file with
    | none => rfl
    | some grant => cases none

section Steps

variable {world : World} {process : Process}

theorem World.Sound.holds_presented (sound : world.Sound) (isProcess : world.process = some process)
    {presented : String} (asking : process.phase = .asking presented) :
    world.Holds presented := by
  refine sound.kept ?_ presented (sound.newest process presented isProcess asking)
  rintro other isOther grant response writing
  rw [isProcess] at isOther
  cases isOther
  rw [asking] at writing
  cases writing

theorem World.Sound.ended (sound : world.Sound) (kept : world.Kept) :
    ({ world with process := none } : World).Sound where
  kept _ := kept
  newest _ _ isProcess := nomatch isProcess
  held _ _ isProcess := nomatch isProcess
  backed := sound.backed
  calm := sound.calm
  granted _ isProcess := nomatch isProcess
  filed := sound.filed
  shared _ _ isProcess := nomatch isProcess
  writing _ _ _ isProcess := nomatch isProcess
  known := sound.known

theorem World.Sound.use (sound : world.Sound) {access : Option Held}
    (backed : ∀ held, access = some held → held.issuedWith ∈ world.filed) :
    (world.use access).Sound :=
  { sound with
    kept := sound.kept
    held := sound.held
    filed := sound.filed
    backed := by
      intro token isUsed
      rcases List.mem_append.mp isUsed with old | isNew
      · exact sound.backed token old
      · cases access with
        | none => cases isNew
        | some held =>
          rw [List.mem_singleton.mp isNew]
          exact backed held rfl }

theorem getLast?_of_not_tokens {reply : Reply} (readable : Readable world reply)
    (noTokens : ∀ response, verdictOf reply ≠ .tokens response) :
    (world.issued ++ (issuedBy reply).toList).getLast? = world.issued.getLast? := by
  rw [getLast?_issued]
  cases isIssued : issuedBy reply with
  | none => rfl
  | some token =>
    by_contra changed
    obtain ⟨response, isTokens⟩ := readable token isIssued fun same => changed same.symm
    exact noTokens response isTokens

theorem World.Sound.unrenewed (sound : world.Sound) (isProcess : world.process = some process)
    {presented : String} (asking : process.phase = .asking presented) {issued : List String}
    (same : issued.getLast? = world.issued.getLast?) {access : Option Held}
    (kept : ∀ held, access = some held → process.access = some held) :
    ({ world with
      process := some { process with phase := .idle, access := access }
      issued := issued } : World).Sound where
  kept _ newest isNewest := by
    rw [same, sound.newest process presented isProcess asking] at isNewest
    cases isNewest
    exact sound.holds_presented isProcess asking
  newest other _ isOther isAsking := by
    cases isOther
    cases isAsking
  held other held isOther isHeld := by
    cases isOther
    exact sound.held process held isProcess (kept held isHeld)
  backed := sound.backed
  calm := sound.calm
  granted other isOther := by
    cases isOther
    exact sound.granted process isProcess
  filed := sound.filed
  shared other held isOther isShared := by
    cases isOther
    exact sound.shared process held isProcess isShared
  writing other _ _ isOther isWriting := by
    cases isOther
    cases isWriting
  known none := sound.known (same.symm.trans none)

theorem World.Sound.replied (sound : world.Sound) (isProcess : world.process = some process)
    {presented : String} (asking : process.phase = .asking presented) {grant : Grant}
    (isGrant : process.grant = some grant) {reply : Reply} (now : String)
    (readable : Readable world reply) :
    ({ world with
      process := some (process.replied grant reply now)
      issued := world.issued ++ (issuedBy reply).toList } : World).Sound := by
  unfold Process.replied
  cases verdict : verdictOf reply with
  | tokens response =>
    obtain ⟨filed, isFile, isPresented⟩ := sound.holds_presented isProcess asking
    have sameGrant : filed = grant := by
      have isSame := sound.granted process isProcess
      rw [isGrant, isFile] at isSame
      exact (Option.some.inj isSame).symm
    exact {
      kept := fun atRest => absurd rfl (atRest _ rfl _ _)
      newest := by
        rintro other _ isOther isAsking
        cases isOther
        cases isAsking
      held := by
        rintro other held isOther isHeld
        cases isOther
        exact sound.held process held isProcess isHeld
      backed := sound.backed
      calm := sound.calm
      granted := by
        rintro other isOther
        cases isOther
        exact sound.granted process isProcess
      filed := sound.filed
      shared := by
        rintro other held isOther isShared
        cases isOther
        exact sound.shared process held isProcess isShared
      writing := by
        rintro other rotatedGrant _ isOther isWriting
        cases isOther
        cases isWriting
        rw [getLast?_issued, issuedBy_of_tokens verdict]
        show _ = some ((response.refreshToken.filter (· ≠ "")).getD grant.refreshToken)
        cases response.refreshToken.filter (· ≠ "") with
        | some token => rfl
        | none =>
          rw [Option.none_or, sound.newest process presented isProcess asking, ← isPresented,
            sameGrant]
          rfl
      known := fun none => by
        rw [getLast?_issued, Option.or_eq_none_iff] at none
        exact sound.known none.2 }
  | reconnectRequired detail =>
    exact sound.unrenewed isProcess asking
      (getLast?_of_not_tokens readable fun response => by rw [verdict]; exact nofun) nofun
  | pendingOperator detail =>
    exact sound.unrenewed isProcess asking
      (getLast?_of_not_tokens readable fun response => by rw [verdict]; exact nofun) nofun
  | unreachable =>
    exact sound.unrenewed isProcess asking
      (getLast?_of_not_tokens readable fun response => by rw [verdict]; exact nofun)
      fun _ isHeld => isHeld

theorem World.Sound.written (sound : world.Sound) (isProcess : world.process = some process)
    {grant : Grant} (writing : process.phase = .writing grant response) (now : Int) :
    ({ world with
      file := some grant
      filed := world.filed ++ [grant.refreshToken]
      process := some (process.renewed grant response now) } : World).Sound where
  kept _ newest isNewest := by
    rw [sound.writing process grant response isProcess writing] at isNewest
    exact ⟨grant, rfl, Option.some.inj isNewest⟩
  newest other _ isOther isAsking := by
    cases isOther
    cases isAsking
  held other held isOther isHeld := by
    cases isOther
    cases isHeld
    exact ⟨grant, rfl, rfl⟩
  backed token isUsed := List.mem_append_left _ (sound.backed token isUsed)
  calm := sound.calm
  granted other isOther := by
    cases isOther
    rfl
  filed token := by
    rintro ⟨held, isFile, rfl⟩
    cases isFile
    exact List.mem_append_right _ (List.mem_singleton_self _)
  shared other held isOther isShared := by
    cases isOther
    exact List.mem_append_left _ (sound.shared process held isProcess isShared)
  writing other _ _ isOther isWriting := by
    cases isOther
    cases isWriting
  known none := by
    rw [sound.writing process grant response isProcess writing] at none
    cases none

theorem World.Sound.kept_of_phase (sound : world.Sound) (isProcess : world.process = some process)
    (notWriting : ∀ grant response, process.phase ≠ .writing grant response) : world.Kept := by
  refine sound.kept ?_
  rintro other isOther
  rw [isProcess] at isOther
  cases isOther
  exact notWriting

theorem World.Sound.asks (sound : world.Sound) (isProcess : world.process = some process)
    (idle : process.phase = .idle) {grant : Grant} (isGrant : process.grant = some grant) :
    ({ world with
      process := some { process with phase := .asking grant.refreshToken } } : World).Sound := by
  have kept : world.Kept := sound.kept_of_phase isProcess (by simp [idle])
  have isFile : world.file = some grant := (sound.granted process isProcess).symm.trans isGrant
  exact {
    kept := fun _ => kept
    newest := by
      rintro other presented isOther isAsking
      cases isOther
      cases isAsking
      cases isLast : world.issued.getLast? with
      | none =>
        rw [sound.known isLast] at isFile
        cases isFile
      | some newest =>
        obtain ⟨held, isHeld, rfl⟩ := kept newest isLast
        rw [isFile] at isHeld
        cases isHeld
        rfl
    held := by
      rintro other held isOther isHeld
      cases isOther
      exact sound.held process held isProcess isHeld
    backed := sound.backed
    calm := sound.calm
    granted := by
      rintro other isOther
      cases isOther
      exact sound.granted process isProcess
    filed := sound.filed
    shared := by
      rintro other held isOther isShared
      cases isOther
      exact sound.shared process held isProcess isShared
    writing := by
      rintro other _ _ isOther isWriting
      cases isOther
      cases isWriting
    known := sound.known }

theorem World.Sound.shares (sound : world.Sound) (isProcess : world.process = some process)
    (idle : process.phase = .idle) :
    ({ world with process := some { process with shared := process.access } } : World).Sound where
  kept _ := sound.kept_of_phase isProcess (by simp [idle])
  newest other _ isOther isAsking := by
    cases isOther
    exact sound.newest process _ isProcess isAsking
  held other held isOther isHeld := by
    cases isOther
    exact sound.held process held isProcess isHeld
  backed := sound.backed
  calm := sound.calm
  granted other isOther := by
    cases isOther
    exact sound.granted process isProcess
  filed := sound.filed
  shared other held isOther isShared := by
    cases isOther
    exact sound.filed _ (sound.held process held isProcess isShared)
  writing other _ _ isOther isWriting := by
    cases isOther
    rw [idle] at isWriting
    cases isWriting
  known := sound.known

theorem World.Sound.starts (sound : world.Sound) (none : world.process = none) :
    ({ world with
      process := some {
        grant := world.file
        access := Option.none
        shared := Option.none
        phase := .idle } } : World).Sound where
  kept _ := sound.kept fun process isProcess => by
    rw [none] at isProcess
    cases isProcess
  newest _ _ isProcess isAsking := by
    cases isProcess
    cases isAsking
  held _ _ isProcess isHeld := by
    cases isProcess
    cases isHeld
  backed := sound.backed
  calm := sound.calm
  granted _ isProcess := by
    cases isProcess
    rfl
  filed := sound.filed
  shared _ _ isProcess isShared := by
    cases isProcess
    cases isShared
  writing _ _ _ isProcess isWriting := by
    cases isProcess
    cases isWriting
  known := sound.known

/-! ### Every step of a careful run -/

theorem step_of_process (isProcess : world.process = some process) (happening : Happening) :
    step world happening = world.act process happening := by
  unfold step
  rw [isProcess]

theorem World.Sound.step_of_none (sound : world.Sound) (none : world.process = none)
    (happening : Happening) : (step world happening).Sound := by
  unfold step
  rw [none]
  cases happening with
  | starts => exact sound.starts none
  | _ => exact sound

theorem World.Sound.step (sound : world.Sound) {happening : Happening}
    (careful : Careful world happening) : (step world happening).Sound := by
  rcases isProcess : world.process with _ | process
  · exact sound.step_of_none isProcess happening
  · rw [step_of_process isProcess]
    have careful := careful process isProcess
    cases happening with
    | starts => exact sound
    | stops =>
      refine sound.ended ?_
      cases isPhase : process.phase with
      | idle => exact sound.kept_of_phase isProcess (by simp [isPhase])
      | asking presented => exact sound.kept_of_phase isProcess (by simp [isPhase])
      | writing grant response =>
        rw [isPhase] at careful
        intro newest isNewest
        rw [sound.writing process grant response isProcess isPhase] at isNewest
        cases isNewest
        exact careful
    | renews =>
      rw [World.act]
      split
      · rename_i grant idle isGrant
        exact sound.asks isProcess idle isGrant
      · exact sound
    | replied reply now =>
      rw [World.act]
      split
      · rename_i presented grant asking isGrant
        rw [asking] at careful
        exact sound.replied isProcess asking isGrant now careful
      · exact sound
    | wrote moved now =>
      rw [World.act]
      split
      · rename_i grant response writing
        rw [writing] at careful
        obtain ⟨unmoved, fits⟩ := careful
        split_ifs with isMoved isFit
        · exact sound.written isProcess writing now
        · exact absurd (fits isMoved) isFit
        · refine sound.ended fun newest isNewest => ?_
          rw [sound.writing process grant response isProcess writing] at isNewest
          cases isNewest
          exact unmoved (Bool.eq_false_iff.mpr isMoved)
      · exact sound
    | shares =>
      rw [World.act]
      split
      · rename_i idle
        exact sound.shares isProcess idle
      · exact sound
    | uses =>
      rw [World.act]
      split
      · exact sound.use fun held isHeld => sound.filed _ (sound.held process held isProcess isHeld)
      · exact sound
    | usesShared => exact sound.use fun held isHeld => sound.shared process held isProcess isHeld

theorem World.Sound.holds_of_ended (sound : world.Sound) (isProcess : world.process = some process)
    {grant : Grant} (writing : process.phase = .writing grant response)
    (survives : ({ world with process := none } : World).Survives) :
    world.Holds grant.refreshToken :=
  survives.kept (fun _ isProcess => nomatch isProcess) grant.refreshToken
    (sound.writing process grant response isProcess writing)

theorem World.Sound.readable_of_survives (sound : world.Sound)
    (isProcess : world.process = some process) {presented : String}
    (asking : process.phase = .asking presented) {grant : Grant} {reply : Reply} {now : String}
    (survives : ({ world with
      process := some (process.replied grant reply now)
      issued := world.issued ++ (issuedBy reply).toList } : World).Survives) :
    Readable world reply := by
  intro token isIssued changed
  by_contra unread
  have idle : (process.replied grant reply now).phase = .idle := by
    unfold Process.replied
    cases verdict : verdictOf reply with
    | tokens response => exact absurd ⟨response, verdict⟩ unread
    | reconnectRequired detail => rfl
    | pendingOperator detail => rfl
    | unreachable => rfl
  obtain ⟨held, isFile, isToken⟩ := survives.kept (fun other isOther grant response writing => by
    cases isOther
    rw [idle] at writing
    cases writing) token (by
      show (world.issued ++ (issuedBy reply).toList).getLast? = some token
      rw [getLast?_issued, isIssued, Option.some_or])
  obtain ⟨filed, isFiled, isPresented⟩ := sound.holds_presented isProcess asking
  have same : held = filed := Option.some.inj (isFile.symm.trans isFiled)
  rw [sound.newest process presented isProcess asking, ← isPresented, ← isToken, same] at changed
  exact changed rfl

theorem World.Sound.careful_of_survives (sound : world.Sound) {happening : Happening}
    (survives : (Oidc.step world happening).Survives) : Careful world happening := by
  intro process isProcess
  rw [step_of_process isProcess] at survives
  split
  · rename_i reply now presented asking
    have isGrant := sound.granted process isProcess
    obtain ⟨grant, isFile, -⟩ := sound.holds_presented isProcess asking
    rw [isFile] at isGrant
    rw [World.act, asking, isGrant] at survives
    exact sound.readable_of_survives isProcess asking survives
  · rename_i grant response writing
    exact sound.holds_of_ended isProcess writing survives
  · rename_i moved now grant response writing
    rw [World.act, writing] at survives
    refine ⟨fun unmoved => ?_, fun isMoved => ?_⟩
    · cases unmoved
      exact sound.holds_of_ended isProcess writing survives
    · cases isMoved
      by_contra tooLong
      dsimp only at survives
      rw [if_pos rfl, if_neg tooLong] at survives
      exact absurd survives.calm (by simp)
  · trivial

end Steps

/-- The grant survives everything that a run passes through exactly when each of its steps is
careful. -/
theorem grant_survives_iff (file : Option Grant) (happenings : List Happening) :
    (∀ reached, reached <+: happenings → (run step (World.start file) reached).Survives) ↔
      Along step Careful (World.start file) happenings :=
  property_along_iff World.Sound World.Survives (fun _ sound => sound.toSurvives)
    (fun _ _ sound _ => ⟨sound.careful_of_survives, fun careful => (sound.step careful).toSurvives⟩)
    (fun _ _ sound _ careful => sound.step careful) (sound_start file)
    (along_true step (World.start file) happenings)

/-! ### Two answers that the grant does not survive -/

def firstGrant : Grant := ⟨"https://sso.example.com", "twalk", "first", "2026-09-24T10:00:00Z"⟩

def answering (members : List (String × Json)) : Happening :=
  .replied (.answered ⟨200, "200 OK"⟩ (some (.object members))) "2026-09-24T11:00:00Z"

def withoutAccess : List Happening :=
  [.starts, .renews, answering [("refresh_token", .string "second")]]

def withoutEnd : List Happening :=
  [.starts, .renews, answering [("access_token", .string "access"),
    ("expires_in", .number 0xffffffffffffffff)], .wrote true 1790000000]

/-- The first loses the rotated refresh token, and the second makes the renewal panic. -/
theorem not_survives_answers :
    ¬ (run step (World.start (some firstGrant)) withoutAccess).Survives ∧
      ¬ (run step (World.start (some firstGrant)) withoutEnd).Survives := by
  refine ⟨fun survives => ?_, fun survives => ?_⟩
  · have atRest : (run step (World.start (some firstGrant)) withoutAccess).AtRest := by
      rintro process isProcess grant response writing
      cases isProcess
      cases writing
    obtain ⟨grant, isFile, same⟩ := survives.kept atRest "second" rfl
    cases isFile
    exact absurd same (by decide)
  · exact absurd survives.calm (by decide)

end Twalk.Oidc
