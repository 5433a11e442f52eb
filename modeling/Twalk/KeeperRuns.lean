/-
This file is about what the session keepers of `Twalk.SessionKeeper` keep over every run. In one
tab one refresh is in flight and every call that waits for a repair waits for that one. The rest is
kept as long as nothing overtakes: a pair reaches the jar while no other refresh or question is
under way, a token is rotated or lapses while no replay relies on it, and what is lost is lost in
time. A tab then says that its session is over only when it is, a call is let through unrepaired
only when no session was to be had, and a session that is shown with its end is renewed before.
-/

import Twalk.SessionKeeper

namespace Twalk.Keeper

/-! ### The promise -/

namespace Browser

variable (browser : Browser)

def Refreshes (tab : Nat) : Prop :=
  ∃ exchange flight, browser.exchanges exchange = some flight ∧ flight.isRefresh ∧
    flight.tab = tab

def Replays : Prop :=
  ∃ id call, browser.calls id = some call ∧
    (call.stage = .repaired ∨ ∃ token, call.stage = .replaying ⟨token, none⟩)

end Browser

/-- One refresh of a tab is in flight at most, and it is the one that every call of the tab that
waits for a repair has joined. -/
structure Joined (browser : Browser) : Prop where
  single : ∀ first second flight other, browser.exchanges first = some flight →
    browser.exchanges second = some other → flight.isRefresh → other.isRefresh →
      flight.tab = other.tab → first = second
  joins : ∀ id call, browser.calls id = some call → call.stage = .waiting →
    browser.Refreshes call.tab

structure Kept (browser : Browser) : Prop where
  joined : Joined browser
  truthful : ∀ tab, (browser.tabs tab).session.isOver = true → browser.honoured = false
  repaired : ∀ id call toBeHad overtaken, browser.calls id = some call →
    call.stage = .denied toBeHad overtaken → toBeHad = false ∧ overtaken = false
  renewed : ∀ tab lifetime, (browser.tabs tab).session = .live (some lifetime) →
    1 < lifetime.expiresIn → browser.Refreshes tab ∨ ((browser.tabs tab).timer = true ∧
      ∃ due, (browser.tabs tab).dueAt = some due ∧ due < lifetime.expiresAt)

/-- A pair reaches the jar while no other refresh and no keeper's question is under way, no other
tab says that its session is over, and every replay has been let in. A refresh is granted, and a
device token lapses or is dropped, while no call that was repaired relies on the token. Neither the
refresh that a tab boots with is lost, nor one that would be retried after the session that is shown
has ended, nor a replay while the Gateway honours the pair in the jar. -/
def Undisturbed (browser : Browser) : Happening → Prop
  | .arrives exchange => ∀ flight, browser.exchanges exchange = some flight →
      flight.granted = some true →
        (∀ other another, browser.exchanges other = some another → another.isRefresh →
          other = exchange) ∧
        (∀ tab, (browser.tabs tab).start ≠ .refused ∧
          ∀ request, (browser.tabs tab).start ≠ .asking request) ∧
        (∀ tab, tab ≠ flight.tab → (browser.tabs tab).session.isOver = false) ∧
        ∀ id call request, browser.calls id = some call → call.stage = .replaying request →
          request.reply = some .admitted
  | .handled exchange _ => ∀ tab presented,
      browser.exchanges exchange = some ⟨tab, .refreshToken presented, none⟩ →
        browser.gateway.accepts presented = true → ¬browser.Replays
  | .lapses pair =>
      (∀ flight, browser.exchanges pair = some flight → flight.granted ≠ some true) ∧
        ∀ id call, browser.calls id = some call →
          (call.stage = .repaired → browser.jar.deviceToken ≠ some pair) ∧
            call.stage ≠ .replaying ⟨some pair, none⟩
  | .dropsDeviceToken => ∀ id call, browser.calls id = some call → call.stage ≠ .repaired
  | .fails exchange => ∀ flight, browser.exchanges exchange = some flight → flight.isRefresh →
      (browser.tabs flight.tab).start ≠ .waiting ∧
        ∀ lifetime, (browser.tabs flight.tab).session = .live (some lifetime) →
          1 < lifetime.expiresIn → browser.now + retryAfter < lifetime.expiresAt
  | .callFails id => ∀ call request, browser.calls id = some call →
      call.stage = .replaying request → browser.honoured = false
  | _ => True

/-! ### The Gateway -/

namespace Gateway

variable {gateway : Gateway} {token : Option Nat} {pair issued : Nat}

theorem accepts_iff : gateway.accepts token = true ↔
    ∃ device ∈ gateway.devices, some device.pair = token ∧ device.refreshToken = true := by
  unfold accepts
  simp

theorem authenticates_iff : gateway.authenticates token = true ↔
    ∃ device ∈ gateway.devices, some device.pair = token ∧ device.deviceToken = true := by
  unfold authenticates
  simp

theorem accepts_none : gateway.accepts none = false := by
  rw [← Bool.not_eq_true, accepts_iff]
  rintro ⟨device, -, isNone, -⟩
  cases isNone

theorem accepts_of_refresh (other : token ≠ some issued)
    (accepted : (gateway.refresh pair issued).accepts token = true) :
    gateway.accepts token = true := by
  obtain ⟨device, member, rfl, live⟩ := accepts_iff.mp accepted
  obtain ⟨before, beforeMember, isDevice⟩ := List.mem_map.mp member
  split at isDevice
  · cases isDevice
    exact absurd rfl other
  · cases isDevice
    exact accepts_iff.mpr ⟨_, beforeMember, rfl, live⟩

theorem authenticates_refresh (other : token ≠ some pair)
    (authentic : gateway.authenticates token = true) :
    (gateway.refresh pair issued).authenticates token = true := by
  obtain ⟨device, member, rfl, live⟩ := authenticates_iff.mp authentic
  have stays : device ∈ (gateway.refresh pair issued).devices := by
    refine List.mem_map.mpr ⟨device, member, if_neg ?_⟩
    rintro ⟨isPair, -⟩
    exact other (congrArg some isPair)
  exact authenticates_iff.mpr ⟨device, stays, rfl, live⟩

theorem accepts_of_issue (other : token ≠ some issued)
    (accepted : (gateway.issue issued).accepts token = true) : gateway.accepts token = true := by
  obtain ⟨device, member, rfl, live⟩ := accepts_iff.mp accepted
  rcases List.mem_append.mp member with before | new
  · exact accepts_iff.mpr ⟨device, before, rfl, live⟩
  · cases List.mem_singleton.mp new
    exact absurd rfl other

theorem authenticates_issue (authentic : gateway.authenticates token = true) :
    (gateway.issue issued).authenticates token = true := by
  obtain ⟨device, member, isToken, live⟩ := authenticates_iff.mp authentic
  exact authenticates_iff.mpr ⟨device, List.mem_append_left _ member, isToken, live⟩

theorem accepts_lapse : (gateway.lapse pair).accepts token = gateway.accepts token := by
  unfold accepts lapse
  rw [List.any_map]
  congr 1
  funext device
  simp only [Function.comp_apply]
  split <;> rfl

theorem authenticates_lapse (other : token ≠ some pair) :
    (gateway.lapse pair).authenticates token = gateway.authenticates token := by
  unfold authenticates lapse
  rw [List.any_map]
  congr 1
  funext device
  simp only [Function.comp_apply]
  split
  · rename_i isPair
    have differs : (some device.pair == token) = false := by
      rw [isPair]
      exact beq_false_of_ne fun same => other same.symm
    rw [differs, Bool.false_and, Bool.false_and]
  · rfl

theorem accepts_of_expire (accepted : (gateway.expire pair).accepts token = true) :
    gateway.accepts token = true ∧ token ≠ some pair := by
  obtain ⟨device, member, rfl, live⟩ := accepts_iff.mp accepted
  obtain ⟨before, beforeMember, isDevice⟩ := List.mem_map.mp member
  split at isDevice
  · cases isDevice
    cases live
  · rename_i other
    cases isDevice
    exact ⟨accepts_iff.mpr ⟨_, beforeMember, rfl, live⟩,
      fun same => other (Option.some.inj same)⟩

theorem authenticates_expire :
    (gateway.expire pair).authenticates token = gateway.authenticates token := by
  unfold authenticates expire
  rw [List.any_map]
  congr 1
  funext device
  simp only [Function.comp_apply]
  split <;> rfl

end Gateway

/-! ### How the requests under way hang together -/

def Browser.Circulates (browser : Browser) (pair : Nat) : Prop :=
  browser.jar.deviceToken = some pair ∨ browser.jar.refreshToken = some pair ∨
    pair ∈ browser.gateway.rotatedAway ∨ ∃ exchange tab granted,
      browser.exchanges exchange = some ⟨tab, .refreshToken (some pair), granted⟩

structure Wired (browser : Browser) : Prop where
  unasked : ∀ exchange, browser.asked ≤ exchange → browser.exchanges exchange = none
  circulating : ∀ pair, browser.Circulates pair →
    pair < browser.asked ∧ browser.exchanges pair = none
  devices : ∀ device ∈ browser.gateway.devices, device.pair < browser.asked ∧
    ∀ flight, browser.exchanges device.pair = some flight → flight.granted = some true
  flying : ∀ exchange flight, browser.exchanges exchange = some flight → flight.isRefresh →
    (browser.tabs flight.tab).inFlight = some exchange
  flown : ∀ tab exchange, (browser.tabs tab).inFlight = some exchange →
    ∃ flight, browser.exchanges exchange = some flight ∧ flight.isRefresh ∧ flight.tab = tab
  calls : ∀ id call, browser.calls id = some call → call.stage = .waiting →
    (browser.tabs call.tab).inFlight ≠ none
  starts : ∀ tab, (browser.tabs tab).start = .waiting → (browser.tabs tab).inFlight ≠ none

variable {jar : Jar}

variable {presented : Option Nat}

variable {pair : Nat}

variable {tab : Nat}

variable {stage : Stage}

variable {flight : Exchange}

variable {exchange : Nat}

variable {credential : Credential}

variable {gateway : Gateway}

section Wired

variable {browser : Browser}

theorem Wired.refreshes (wired : Wired browser) (flies : (browser.tabs tab).inFlight ≠ none) :
    browser.Refreshes tab := by
  obtain ⟨exchange, isExchange⟩ := Option.ne_none_iff_exists'.mp flies
  obtain ⟨flight, isFlight, isRefresh, isTab⟩ := wired.flown tab exchange isExchange
  exact ⟨exchange, flight, isFlight, isRefresh, isTab⟩

theorem Wired.joined (wired : Wired browser) : Joined browser where
  single := by
    intro first second flight other isFirst isSecond isRefresh isRefreshToo sameTab
    have flies := wired.flying first flight isFirst isRefresh
    have fliesToo := wired.flying second other isSecond isRefreshToo
    rw [sameTab] at flies
    exact Option.some.inj (flies.symm.trans fliesToo)
  joins := fun id call isCall waits => wired.refreshes (wired.calls id call isCall waits)

theorem wired_before (before : Before) : Wired before.browser where
  unasked _ _ := rfl
  circulating := by
    rintro pair (inJar | inJar | rotated | ⟨_, _, _, isExchange⟩)
    · exact ⟨before.deviceTokenIssued pair inJar, rfl⟩
    · exact ⟨before.refreshTokenIssued pair inJar, rfl⟩
    · exact ⟨before.rotatedIssued pair rotated, rfl⟩
    · cases isExchange
  devices device member := ⟨before.devicesIssued device member, fun _ isExchange => by
    cases isExchange⟩
  flying _ _ isExchange := by cases isExchange
  flown _ _ flies := by cases flies
  calls _ _ isCall := by cases isCall
  starts _ waits := by cases waits

/-! ### What an operation leaves as it was -/

theorem tabs_put_self (tab : Nat) (now : Tab) : (browser.put tab now).tabs tab = now := by
  unfold Browser.put
  exact Function.update_self ..

theorem tabs_put_of_ne {tab other : Nat} (isOther : other ≠ tab) (now : Tab) :
    (browser.put tab now).tabs other = browser.tabs other := by
  unfold Browser.put
  exact Function.update_of_ne isOther ..

theorem exchanges_close_self (exchange : Nat) :
    (browser.close exchange).exchanges exchange = none := by
  unfold Browser.close
  exact Function.update_self ..

theorem exchanges_close_of_ne {exchange other : Nat} (isOther : other ≠ exchange) :
    (browser.close exchange).exchanges other = browser.exchanges other := by
  unfold Browser.close
  exact Function.update_of_ne isOther ..

theorem of_exchanges_close {exchange other : Nat}
    (isFlight : (browser.close exchange).exchanges other = some flight) :
    other ≠ exchange ∧ browser.exchanges other = some flight := by
  by_cases same : other = exchange
  · rw [same, exchanges_close_self] at isFlight
    cases isFlight
  · exact ⟨same, (exchanges_close_of_ne same).symm.trans isFlight⟩

theorem exchanges_answer_self (exchange : Nat) (answered : Exchange) (gateway : Gateway) :
    (browser.answer exchange answered gateway).exchanges exchange = some answered := by
  unfold Browser.answer
  exact Function.update_self ..

theorem exchanges_answer_of_ne {exchange other : Nat} (isOther : other ≠ exchange)
    (answered : Exchange) (gateway : Gateway) :
    (browser.answer exchange answered gateway).exchanges other = browser.exchanges other := by
  unfold Browser.answer
  exact Function.update_of_ne isOther ..

theorem of_calls_become {id other : Nat} {call : Call}
    (isCall : (browser.become id stage).calls other = some call) :
    (∃ was, browser.calls id = some was ∧ other = id ∧ call = { was with stage := stage }) ∨
      browser.calls other = some call := by
  by_cases same : other = id
  · subst same
    have here : (browser.become other stage).calls other =
        (browser.calls other).map fun call => { call with stage := stage } :=
      Function.update_self other _ browser.calls
    obtain ⟨was, isWas, rfl⟩ := Option.map_eq_some_iff.mp (here.symm.trans isCall)
    exact .inl ⟨was, isWas, rfl, rfl⟩
  · exact .inr ((Function.update_of_ne same _ browser.calls).symm.trans isCall)

theorem of_calls_settle {tab id : Nat} {call : Call}
    (isCall : (browser.settle tab stage).calls id = some call) :
    (∃ was, browser.calls id = some was ∧ call = { was with stage := stage } ∧ was.tab = tab) ∨
      (browser.calls id = some call ∧ ¬ (call.tab = tab ∧ call.stage = .waiting)) := by
  obtain ⟨was, isWas, isCall⟩ := Option.map_eq_some_iff.mp isCall
  split at isCall
  · rename_i waits
    exact .inl ⟨was, isWas, isCall.symm, waits.1⟩
  · rename_i goesOn
    subst isCall
    exact .inr ⟨isWas, goesOn⟩

theorem inFlight_refreshSession (browser : Browser) (tab : Nat) :
    ((browser.refreshSession tab).tabs tab).inFlight ≠ none := by
  unfold Browser.refreshSession
  split
  · rename_i flies
    rw [flies]
    exact nofun
  · rw [tabs_put_self]
    exact nofun

theorem calls_refreshSession (browser : Browser) (tab : Nat) :
    (browser.refreshSession tab).calls = browser.calls := by
  unfold Browser.refreshSession
  split <;> rfl

/-! ### Each operation hangs together -/

theorem Wired.put (wired : Wired browser) {now : Tab}
    (sameFlight : now.inFlight = (browser.tabs tab).inFlight)
    (waits : now.start = .waiting → (browser.tabs tab).inFlight ≠ none) :
    Wired (browser.put tab now) := by
  have inFlight : ∀ other,
      ((browser.put tab now).tabs other).inFlight = (browser.tabs other).inFlight := by
    intro other
    by_cases same : other = tab
    · rw [same, tabs_put_self, sameFlight]
    · rw [tabs_put_of_ne same]
  refine ⟨wired.unasked, wired.circulating, wired.devices, ?_, ?_, ?_, ?_⟩
  · intro exchange flight isFlight isRefresh
    rw [inFlight]
    exact wired.flying exchange flight isFlight isRefresh
  · intro other exchange flies
    rw [inFlight] at flies
    exact wired.flown other exchange flies
  · intro id call isCall isWaiting
    rw [inFlight]
    exact wired.calls id call isCall isWaiting
  · intro other isWaiting
    rw [inFlight]
    by_cases same : other = tab
    · rw [same, tabs_put_self] at isWaiting
      rw [same]
      exact waits isWaiting
    · rw [tabs_put_of_ne same] at isWaiting
      exact wired.starts other isWaiting

theorem Wired.become (wired : Wired browser) {id : Nat}
    (waits : stage = .waiting → ∀ call, browser.calls id = some call →
      (browser.tabs call.tab).inFlight ≠ none) : Wired (browser.become id stage) := by
  refine ⟨wired.unasked, wired.circulating, wired.devices, wired.flying, wired.flown, ?_,
    wired.starts⟩
  intro other call isCall isWaiting
  rcases of_calls_become isCall with ⟨was, isWas, -, rfl⟩ | isCall
  · exact waits isWaiting was isWas
  · exact wired.calls other call isCall isWaiting

theorem Wired.circulating_ask (wired : Wired browser) {tab pair : Nat}
    (presents : ∀ pair, credential = .refreshToken (some pair) →
      browser.jar.refreshToken = some pair)
    (circulates : (browser.ask tab credential).Circulates pair) :
    pair < browser.asked ∧ browser.exchanges pair = none := by
  rcases circulates with inJar | inJar | rotated | ⟨exchange, other, granted, isFlight⟩
  · exact wired.circulating pair (.inl inJar)
  · exact wired.circulating pair (.inr (.inl inJar))
  · exact wired.circulating pair (.inr (.inr (.inl rotated)))
  · by_cases same : exchange = browser.asked
    · rw [same] at isFlight
      have here : some (⟨tab, credential, none⟩ : Exchange) =
          some ⟨other, .refreshToken (some pair), granted⟩ :=
        (Function.update_self browser.asked _ browser.exchanges).symm.trans isFlight
      exact wired.circulating pair
        (.inr (.inl (presents pair (Exchange.mk.inj (Option.some.inj here)).2.1)))
    · have there := (Function.update_of_ne same _ browser.exchanges).symm.trans isFlight
      exact wired.circulating pair (.inr (.inr (.inr ⟨exchange, other, granted, there⟩)))

theorem Wired.ask_devices (wired : Wired browser) :
    ∀ device ∈ browser.gateway.devices, device.pair < (browser.ask tab credential).asked ∧
      ∀ flight, (browser.ask tab credential).exchanges device.pair = some flight →
        flight.granted = some true := by
  intro device member
  obtain ⟨below, isGranted⟩ := wired.devices device member
  refine ⟨Nat.lt_succ_of_lt below, fun flight isFlight => isGranted flight ?_⟩
  exact (Function.update_of_ne (Nat.ne_of_lt below) _ browser.exchanges).symm.trans isFlight

theorem Wired.ask_unasked (wired : Wired browser)
    (unasked : (browser.ask tab credential).asked ≤ exchange) :
    (browser.ask tab credential).exchanges exchange = none := by
  have above : browser.asked < exchange := unasked
  exact (Function.update_of_ne (Nat.ne_of_gt above) _ browser.exchanges).trans
    (wired.unasked exchange (Nat.le_of_lt above))

theorem Wired.ask_circulating (wired : Wired browser)
    (presents : ∀ pair, credential = .refreshToken (some pair) →
      browser.jar.refreshToken = some pair) :
    ∀ pair, (browser.ask tab credential).Circulates pair →
      pair < (browser.ask tab credential).asked ∧
        (browser.ask tab credential).exchanges pair = none := by
  intro pair circulates
  obtain ⟨below, unused⟩ := wired.circulating_ask presents circulates
  exact ⟨Nat.lt_succ_of_lt below,
    (Function.update_of_ne (Nat.ne_of_lt below) _ browser.exchanges).trans unused⟩

theorem of_exchanges_ask {tab exchange : Nat}
    (isFlight : (browser.ask tab credential).exchanges exchange = some flight) :
    (exchange = browser.asked ∧ flight = ⟨tab, credential, none⟩) ∨
      browser.exchanges exchange = some flight := by
  by_cases same : exchange = browser.asked
  · subst same
    exact .inl ⟨rfl, (Option.some.inj
      ((Function.update_self browser.asked _ browser.exchanges).symm.trans isFlight)).symm⟩
  · exact .inr ((Function.update_of_ne same _ browser.exchanges).symm.trans isFlight)

theorem Wired.exchanges_ask (wired : Wired browser) {tab exchange : Nat}
    (isFlight : browser.exchanges exchange = some flight) :
    (browser.ask tab credential).exchanges exchange = some flight := by
  have used : exchange ≠ browser.asked := by
    rintro rfl
    rw [wired.unasked browser.asked (Nat.le_refl _)] at isFlight
    cases isFlight
  exact (Function.update_of_ne used _ browser.exchanges).trans isFlight

theorem Wired.signsIn (wired : Wired browser) (tab : Nat) :
    Wired (browser.ask tab .openIdToken) where
  unasked _ := wired.ask_unasked
  circulating := wired.ask_circulating nofun
  devices := wired.ask_devices
  flying := by
    intro exchange flight isFlight isRefresh
    rcases of_exchanges_ask isFlight with ⟨-, rfl⟩ | before
    · obtain ⟨presented, isPresented⟩ := isRefresh
      cases isPresented
    · exact wired.flying exchange flight before isRefresh
  flown := by
    intro other exchange flies
    obtain ⟨flight, isFlight, rest⟩ := wired.flown other exchange flies
    exact ⟨flight, wired.exchanges_ask isFlight, rest⟩
  calls := wired.calls
  starts := wired.starts

theorem Wired.refreshSession (wired : Wired browser) (tab : Nat) :
    Wired (browser.refreshSession tab) := by
  unfold Browser.refreshSession
  split
  · exact wired
  · rename_i idle
    have inFlight : ∀ other, (browser.tabs other).inFlight ≠ none →
        (((browser.ask tab (.refreshToken browser.jar.refreshToken)).put tab
          { browser.tabs tab with inFlight := some browser.asked }).tabs other).inFlight =
            (browser.tabs other).inFlight := by
      intro other flies
      have isOther : other ≠ tab := by
        rintro rfl
        exact flies idle
      rw [tabs_put_of_ne isOther]
      rfl
    refine ⟨fun _ => wired.ask_unasked, ?_, wired.ask_devices, ?_, ?_, ?_, ?_⟩
    · exact wired.ask_circulating fun pair isPair => (Credential.refreshToken.inj isPair)
    · intro exchange flight isFlight isRefresh
      rcases of_exchanges_ask isFlight with ⟨rfl, rfl⟩ | before
      · rw [tabs_put_self]
      · have flies := wired.flying exchange flight before isRefresh
        rw [inFlight _ (by rw [flies]; exact nofun)]
        exact flies
    · intro other exchange flies
      by_cases same : other = tab
      · rw [same, tabs_put_self] at flies
        cases flies
        exact ⟨_, Function.update_self browser.asked _ browser.exchanges, ⟨_, rfl⟩, same.symm⟩
      · rw [tabs_put_of_ne same] at flies
        obtain ⟨flight, isFlight, rest⟩ := wired.flown other exchange flies
        exact ⟨flight, wired.exchanges_ask isFlight, rest⟩
    · intro id call isCall isWaiting
      have flies := wired.calls id call isCall isWaiting
      rw [inFlight _ flies]
      exact flies
    · intro other isWaiting
      by_cases same : other = tab
      · rw [same, tabs_put_self]
        exact nofun
      · rw [tabs_put_of_ne same] at isWaiting ⊢
        exact wired.starts other isWaiting

theorem Wired.lt_asked (wired : Wired browser) (isFlight : browser.exchanges exchange = some flight)
    : exchange < browser.asked := by
  by_contra above
  rw [wired.unasked exchange (Nat.le_of_not_lt above)] at isFlight
  cases isFlight

theorem Wired.ne_of_circulates (wired : Wired browser) {pair exchange : Nat}
    (circulates : browser.Circulates pair) (isFlight : browser.exchanges exchange = some flight) :
    pair ≠ exchange := by
  rintro rfl
  rw [(wired.circulating pair circulates).2] at isFlight
  cases isFlight

theorem Wired.answer (wired : Wired browser) {exchange tab : Nat}
    (isFlight : browser.exchanges exchange = some ⟨tab, credential, none⟩) (granted : Bool)
    (rotated : ∀ pair ∈ gateway.rotatedAway, browser.Circulates pair)
    (devices : ∀ device ∈ gateway.devices,
      (∃ was ∈ browser.gateway.devices, was.pair = device.pair) ∨
        (device.pair = exchange ∧ granted = true)) :
    Wired (browser.answer exchange ⟨tab, credential, some granted⟩ gateway) := by
  refine ⟨?_, ?_, ?_, ?_, ?_, wired.calls, wired.starts⟩
  · intro other above
    have differs : other ≠ exchange := fun same =>
      Nat.not_le_of_lt (wired.lt_asked isFlight) (same ▸ above)
    rw [exchanges_answer_of_ne differs]
    exact wired.unasked other above
  · intro pair circulates
    have circulated : browser.Circulates pair := by
      rcases circulates with inJar | inJar | isRotated | ⟨other, otherTab, reply, isOther⟩
      · exact .inl inJar
      · exact .inr (.inl inJar)
      · exact rotated pair isRotated
      · by_cases same : other = exchange
        · rw [same, exchanges_answer_self] at isOther
          cases isOther
          exact .inr (.inr (.inr ⟨exchange, tab, none, isFlight⟩))
        · rw [exchanges_answer_of_ne same] at isOther
          exact .inr (.inr (.inr ⟨other, otherTab, reply, isOther⟩))
    rw [exchanges_answer_of_ne (wired.ne_of_circulates circulated isFlight)]
    exact wired.circulating pair circulated
  · intro device member
    rcases devices device member with ⟨was, wasMember, samePair⟩ | ⟨isNew, isGranted⟩
    · obtain ⟨below, beenGranted⟩ := wired.devices was wasMember
      rw [← samePair]
      refine ⟨below, fun flight isOther => ?_⟩
      by_cases same : was.pair = exchange
      · have unanswered := beenGranted _ (same ▸ isFlight)
        cases unanswered
      · rw [exchanges_answer_of_ne same] at isOther
        exact beenGranted flight isOther
    · rw [isNew]
      refine ⟨wired.lt_asked isFlight, fun flight isOther => ?_⟩
      rw [exchanges_answer_self] at isOther
      cases isOther
      rw [isGranted]
  · intro other flight isOther isRefresh
    by_cases same : other = exchange
    · rw [same, exchanges_answer_self] at isOther
      cases isOther
      rw [same]
      exact wired.flying exchange ⟨tab, credential, none⟩ isFlight isRefresh
    · rw [exchanges_answer_of_ne same] at isOther
      exact wired.flying other flight isOther isRefresh
  · intro waiting other flies
    obtain ⟨flight, isOther, isRefresh, isTab⟩ := wired.flown waiting other flies
    by_cases same : other = exchange
    · rw [same] at isOther ⊢
      cases Option.some.inj (isFlight.symm.trans isOther)
      exact ⟨_, exchanges_answer_self .., isRefresh, isTab⟩
    · exact ⟨flight, (exchanges_answer_of_ne same ..).trans isOther, isRefresh, isTab⟩

theorem Wired.handled (wired : Wired browser) (exchange : Nat) (ofTheOwner : Bool) :
    Wired (browser.handled exchange ofTheOwner) := by
  unfold Browser.handled
  split
  · rename_i tab presented isFlight
    split
    · rename_i pair isPair
      obtain ⟨rfl, -⟩ := Option.filter_eq_some_iff.mp isPair
      refine wired.answer isFlight true ?_ ?_
      · intro other isRotated
        rcases List.mem_cons.mp isRotated with rfl | before
        · exact .inr (.inr (.inr ⟨exchange, tab, none, isFlight⟩))
        · exact .inr (.inr (.inl before))
      · intro device member
        obtain ⟨was, wasMember, isDevice⟩ := List.mem_map.mp member
        split at isDevice
        · exact .inr ⟨isDevice ▸ rfl, rfl⟩
        · exact .inl ⟨was, wasMember, isDevice ▸ rfl⟩
    · exact wired.answer isFlight false (fun pair before => .inr (.inr (.inl before)))
        fun device member => .inl ⟨device, member, rfl⟩
  · rename_i tab isFlight
    refine wired.answer isFlight ofTheOwner ?_ ?_
    · intro pair isRotated
      cases ofTheOwner <;> exact .inr (.inr (.inl isRotated))
    · intro device member
      cases ofTheOwner with
      | false => exact .inl ⟨device, member, rfl⟩
      | true =>
        rcases List.mem_append.mp member with before | new
        · exact .inl ⟨device, before, rfl⟩
        · rw [List.mem_singleton.mp new]
          exact .inr ⟨rfl, rfl⟩
  · exact wired

theorem circulates_of_close {exchange pair : Nat}
    (circulates : (browser.close exchange).Circulates pair) : browser.Circulates pair := by
  rcases circulates with inJar | inJar | rotated | ⟨other, tab, granted, isOther⟩
  · exact .inl inJar
  · exact .inr (.inl inJar)
  · exact .inr (.inr (.inl rotated))
  · exact .inr (.inr (.inr ⟨other, tab, granted, (of_exchanges_close isOther).2⟩))

theorem Wired.close_unasked (wired : Wired browser) (exchange : Nat) {other : Nat}
    (above : browser.asked ≤ other) : (browser.close exchange).exchanges other = none := by
  by_cases same : other = exchange
  · rw [same, exchanges_close_self]
  · rw [exchanges_close_of_ne same]
    exact wired.unasked other above

theorem Wired.close_circulating (wired : Wired browser) (exchange : Nat)
    (circulates : (browser.close exchange).Circulates pair) :
    pair < browser.asked ∧ (browser.close exchange).exchanges pair = none := by
  obtain ⟨below, unused⟩ := wired.circulating pair (circulates_of_close circulates)
  refine ⟨below, ?_⟩
  by_cases same : pair = exchange
  · rw [same, exchanges_close_self]
  · rw [exchanges_close_of_ne same, unused]

theorem Wired.closeSignIn (wired : Wired browser) {exchange tab : Nat} {granted : Option Bool}
    (isFlight : browser.exchanges exchange = some ⟨tab, .openIdToken, granted⟩) :
    Wired (browser.close exchange) where
  unasked _ := wired.close_unasked exchange
  circulating _ := wired.close_circulating exchange
  devices device member := ⟨(wired.devices device member).1, fun flight isOther =>
    (wired.devices device member).2 flight (of_exchanges_close isOther).2⟩
  flying other flight isOther := wired.flying other flight (of_exchanges_close isOther).2
  flown := by
    intro waiting other flies
    obtain ⟨flight, isOther, isRefresh, isTab⟩ := wired.flown waiting other flies
    have differs : other ≠ exchange := by
      rintro rfl
      rw [isFlight] at isOther
      cases isOther
      obtain ⟨presented, isPresented⟩ := isRefresh
      cases isPresented
    exact ⟨flight, (exchanges_close_of_ne differs).trans isOther, isRefresh, isTab⟩
  calls := wired.calls
  starts := wired.starts

theorem lands_start_ne (tab : Tab) {start : Start} (goesOn : start ≠ .waiting) :
    (tab.lands start).start ≠ .waiting := by
  unfold Tab.lands
  dsimp only
  split
  · exact goesOn
  · assumption

theorem Wired.lands (wired : Wired browser) {exchange tab : Nat} {granted : Option Bool}
    (isFlight : browser.exchanges exchange = some ⟨tab, .refreshToken presented, granted⟩)
    (now : Tab) (start : Start) (started : start ≠ .waiting) (stage : Stage)
    (goesOn : stage ≠ .waiting) :
    Wired (((browser.close exchange).put tab (now.lands start)).settle tab stage) := by
  have flew : (browser.tabs tab).inFlight = some exchange :=
    wired.flying exchange _ isFlight ⟨presented, rfl⟩
  refine ⟨fun _ => wired.close_unasked exchange, fun _ => wired.close_circulating exchange,
    ?_, ?_, ?_, ?_, ?_⟩
  · exact fun device member => ⟨(wired.devices device member).1, fun other isOther =>
      (wired.devices device member).2 other (of_exchanges_close isOther).2⟩
  · intro other another isOther isRefreshToo
    obtain ⟨differs, isOther⟩ := of_exchanges_close isOther
    have flies := wired.flying other another isOther isRefreshToo
    have otherTab : another.tab ≠ tab := by
      intro same
      rw [same, flew] at flies
      exact differs (Option.some.inj flies).symm
    exact (congrArg Tab.inFlight (tabs_put_of_ne otherTab _)).trans flies
  · intro waiting other flies
    by_cases same : waiting = tab
    · rw [same] at flies
      have rests := (congrArg Tab.inFlight (tabs_put_self tab (now.lands start))).symm.trans flies
      cases rests
    · have flies := (congrArg Tab.inFlight (tabs_put_of_ne same _)).symm.trans flies
      obtain ⟨another, isOther, isRefreshToo, isWaiting⟩ := wired.flown waiting other flies
      have differs : other ≠ exchange := by
        rintro rfl
        rw [isFlight] at isOther
        cases isOther
        exact same isWaiting.symm
      exact ⟨another, (exchanges_close_of_ne differs).trans isOther, isRefreshToo, isWaiting⟩
  · intro id call isCall isWaiting
    rcases of_calls_settle isCall with ⟨was, -, rfl, -⟩ | ⟨before, remains⟩
    · exact absurd isWaiting goesOn
    · have otherTab : call.tab ≠ tab := fun same => remains ⟨same, isWaiting⟩
      intro rests
      exact wired.calls id call before isWaiting
        ((congrArg Tab.inFlight (tabs_put_of_ne otherTab _)).symm.trans rests)
  · intro other isWaiting rests
    by_cases same : other = tab
    · rw [same] at isWaiting
      exact lands_start_ne now started
        ((congrArg Tab.start (tabs_put_self tab _)).symm.trans isWaiting)
    · exact wired.starts other
        ((congrArg Tab.start (tabs_put_of_ne same _)).symm.trans isWaiting)
        ((congrArg Tab.inFlight (tabs_put_of_ne same _)).symm.trans rests)

theorem Wired.keep (wired : Wired browser) (isOver : browser.exchanges exchange = none)
    (asked : exchange < browser.asked) :
    Wired (browser.keep exchange) where
  unasked := wired.unasked
  circulating := by
    rintro pair (inJar | inJar | rotated | isPresented)
    · cases inJar
      exact ⟨asked, isOver⟩
    · cases inJar
      exact ⟨asked, isOver⟩
    · exact wired.circulating pair (.inr (.inr (.inl rotated)))
    · exact wired.circulating pair (.inr (.inr (.inr isPresented)))
  devices := wired.devices
  flying := wired.flying
  flown := wired.flown
  calls := wired.calls
  starts := wired.starts

theorem Wired.arrives (wired : Wired browser) (expiresIn exchange : Nat) :
    Wired (browser.arrives expiresIn exchange) := by
  unfold Browser.arrives
  split
  · rename_i tab presented isFlight
    exact (wired.lands isFlight _ .done nofun .repaired nofun).keep
      (exchanges_close_self exchange) (wired.lt_asked isFlight)
  · rename_i tab presented isFlight
    exact wired.lands isFlight _ .refused nofun (.denied browser.honoured false) nofun
  · rename_i tab isFlight
    have kept := (wired.closeSignIn isFlight).keep (exchanges_close_self exchange)
      (wired.lt_asked isFlight)
    exact kept.put rfl (wired.starts tab)
  · rename_i isFlight
    exact wired.closeSignIn isFlight
  · exact wired

theorem Wired.fails (wired : Wired browser) (exchange : Nat) :
    Wired (browser.fails exchange) := by
  unfold Browser.fails
  split
  · rename_i presented granted isFlight
    exact wired.lands isFlight _ .refused nofun (.denied false false) nofun
  · rename_i granted isFlight
    exact wired.closeSignIn isFlight
  · exact wired

theorem Wired.withdraws (wired : Wired browser)
    (rotated : gateway.rotatedAway = browser.gateway.rotatedAway)
    (devices : ∀ device ∈ gateway.devices, ∃ was ∈ browser.gateway.devices, was.pair = device.pair)
    :
    Wired { browser with gateway := gateway } where
  unasked := wired.unasked
  circulating := by
    rintro pair (inJar | inJar | isRotated | isPresented)
    · exact wired.circulating pair (.inl inJar)
    · exact wired.circulating pair (.inr (.inl inJar))
    · exact wired.circulating pair (.inr (.inr (.inl (rotated ▸ isRotated))))
    · exact wired.circulating pair (.inr (.inr (.inr isPresented)))
  devices := by
    intro device member
    obtain ⟨was, wasMember, samePair⟩ := devices device member
    rw [← samePair]
    exact wired.devices was wasMember
  flying := wired.flying
  flown := wired.flown
  calls := wired.calls
  starts := wired.starts

theorem exists_of_lapse {device : Device} (member : device ∈ (gateway.lapse pair).devices) :
    ∃ was ∈ gateway.devices, was.pair = device.pair := by
  obtain ⟨was, wasMember, isDevice⟩ := List.mem_map.mp member
  split at isDevice <;> exact ⟨was, wasMember, isDevice ▸ rfl⟩

theorem exists_of_expire {device : Device} (member : device ∈ (gateway.expire pair).devices) :
    ∃ was ∈ gateway.devices, was.pair = device.pair := by
  obtain ⟨was, wasMember, isDevice⟩ := List.mem_map.mp member
  split at isDevice <;> exact ⟨was, wasMember, isDevice ▸ rfl⟩

theorem Wired.drops (wired : Wired browser)
    (deviceToken : ∀ pair, jar.deviceToken = some pair → browser.jar.deviceToken = some pair)
    (refreshToken : ∀ pair, jar.refreshToken = some pair → browser.jar.refreshToken = some pair) :
    Wired { browser with jar := jar } where
  unasked := wired.unasked
  circulating := by
    rintro pair (inJar | inJar | rotated | isPresented)
    · exact wired.circulating pair (.inl (deviceToken pair inJar))
    · exact wired.circulating pair (.inr (.inl (refreshToken pair inJar)))
    · exact wired.circulating pair (.inr (.inr (.inl rotated)))
    · exact wired.circulating pair (.inr (.inr (.inr isPresented)))
  devices := wired.devices
  flying := wired.flying
  flown := wired.flown
  calls := wired.calls
  starts := wired.starts

theorem Wired.step (wired : Wired browser) (expiresIn : Nat) (happening : Happening) :
    Wired (step expiresIn browser happening) := by
  have requests : ∀ {id : Nat} (stage : Stage), stage ≠ .waiting →
      Wired (browser.become id stage) :=
    fun stage goesOn => wired.become fun isWaiting => absurd isWaiting goesOn
  have starts : ∀ {tab : Nat} {now : Tab}, now.inFlight = (browser.tabs tab).inFlight →
      now.start ≠ .waiting → Wired (browser.put tab now) :=
    fun same goesOn => wired.put same fun isWaiting => absurd isWaiting goesOn
  cases happening with
  | passes elapsed => exact ⟨wired.unasked, wired.circulating, wired.devices, wired.flying,
      wired.flown, wired.calls, wired.starts⟩
  | boots tab =>
    dsimp only [Keeper.step, Browser.boots]
    split
    · exact (wired.refreshSession tab).put rfl fun _ => inFlight_refreshSession browser tab
    · exact wired
  | fires tab =>
    dsimp only [Keeper.step, Browser.fires]
    split
    · exact (wired.refreshSession tab).put rfl fun _ => inFlight_refreshSession browser tab
    · exact wired
  | wakes tab =>
    dsimp only [Keeper.step, Browser.wakes]
    split
    · exact wired.refreshSession tab
    · exact wired
  | makes id tab =>
    dsimp only [Keeper.step, Browser.makes]
    split
    · refine ⟨wired.unasked, wired.circulating, wired.devices, wired.flying, wired.flown, ?_,
        wired.starts⟩
      intro other call isCall isWaiting
      by_cases same : other = id
      · rw [same] at isCall
        cases (Function.update_self id _ browser.calls).symm.trans isCall
        cases isWaiting
      · exact wired.calls other call
          ((Function.update_of_ne same _ browser.calls).symm.trans isCall) isWaiting
    · exact wired
  | signsIn tab => exact wired.signsIn tab
  | repairs id =>
    dsimp only [Keeper.step, Browser.repairs]
    split
    · rename_i tab isCall
      refine (wired.refreshSession tab).become fun _ call isCalled => ?_
      rw [calls_refreshSession, isCall] at isCalled
      cases isCalled
      exact inFlight_refreshSession browser tab
    · exact wired
  | replays id =>
    dsimp only [Keeper.step, Browser.replays]
    split
    · exact requests _ nofun
    · exact wired
  | asks tab =>
    dsimp only [Keeper.step, Browser.asks]
    split
    · exact starts rfl nofun
    · exact wired
  | handled exchange ofTheOwner => exact wired.handled exchange ofTheOwner
  | arrives exchange => exact wired.arrives expiresIn exchange
  | fails exchange => exact wired.fails exchange
  | questionHandled tab =>
    dsimp only [Keeper.step, Browser.questionHandled]
    split
    · exact starts rfl nofun
    · exact wired
  | questionArrives tab =>
    dsimp only [Keeper.step, Browser.questionArrives]
    split
    · exact starts rfl nofun
    · exact starts rfl nofun
    · exact wired
  | questionFails tab =>
    dsimp only [Keeper.step, Browser.questionFails]
    split
    · exact starts rfl nofun
    · exact wired
  | callHandled id =>
    dsimp only [Keeper.step, Browser.callHandled]
    split
    · exact requests _ nofun
    · exact requests _ nofun
    · exact wired
  | callArrives id =>
    dsimp only [Keeper.step, Browser.callArrives]
    split
    · split
      · exact requests _ nofun
      · exact requests _ nofun
    · exact requests _ nofun
    · exact requests _ nofun
    · exact requests _ nofun
    · exact wired
  | callFails id =>
    dsimp only [Keeper.step, Browser.callFails]
    split
    · exact requests _ nofun
    · exact requests _ nofun
    · exact wired
  | lapses pair => exact wired.withdraws rfl fun device => exists_of_lapse
  | expires pair => exact wired.withdraws rfl fun device => exists_of_expire
  | revoked pair =>
    refine wired.withdraws rfl fun device member => ?_
    obtain ⟨lapsed, lapsedMember, samePair⟩ := exists_of_expire member
    obtain ⟨was, wasMember, samePairToo⟩ := exists_of_lapse lapsedMember
    exact ⟨was, wasMember, samePairToo.trans samePair⟩
  | dropsDeviceToken => exact wired.drops nofun fun _ inJar => inJar
  | dropsRefreshToken => exact wired.drops (fun _ inJar => inJar) nofun

end Wired

/-! ### What tabs and calls can tell -/

namespace Gateway

variable (gateway : Gateway) (jar : Jar)

/-- A device token that a replay can carry: it was not rotated away and, as long as the pair in the
jar is honoured, it is that pair's and in its lifetime. -/
structure Good (token : Option Nat) : Prop where
  current : ∀ pair, token = some pair → pair ∉ gateway.rotatedAway
  usable : gateway.accepts jar.refreshToken = true →
    gateway.authenticates token = true ∧ jar.refreshToken = token

def Bears : Stage → Prop
  | .repaired => gateway.Good jar jar.deviceToken
  | .replaying ⟨token, none⟩ => gateway.Good jar token
  | .replaying ⟨_, some (.refused rotatedAway)⟩ =>
    rotatedAway = false ∧ gateway.accepts jar.refreshToken = false
  | .denied toBeHad overtaken => toBeHad = false ∧ overtaken = false
  | _ => True

/-- What holds of a tab: the session it says is over is, its keeper asks who is signed in once
there is no session to be had, and the session it shows is renewed in time. -/
structure Tells (tab : Tab) : Prop where
  ended : tab.session.isOver = true → gateway.accepts jar.refreshToken = false
  vain : tab.start = .refused ∨ (∃ request, tab.start = .asking request) →
    gateway.accepts jar.refreshToken = false
  renewed : ∀ lifetime, tab.session = .live (some lifetime) → 1 < lifetime.expiresIn →
    tab.inFlight ≠ none ∨ (tab.timer = true ∧
      ∃ due, tab.dueAt = some due ∧ due < lifetime.expiresAt)

variable {gateway jar} {later : Gateway} {held : Jar}

theorem Tells.mono {tab : Tab}
    (less : later.accepts held.refreshToken = true → gateway.accepts jar.refreshToken = true)
    (tells : gateway.Tells jar tab) : later.Tells held tab where
  ended isOver := Bool.eq_false_iff.mpr fun honoured =>
    Bool.eq_false_iff.mp (tells.ended isOver) (less honoured)
  vain asks := Bool.eq_false_iff.mpr fun honoured =>
    Bool.eq_false_iff.mp (tells.vain asks) (less honoured)
  renewed := tells.renewed

theorem Bears.mono
    (less : later.accepts held.refreshToken = true → gateway.accepts jar.refreshToken = true)
    (repaired : stage = .repaired → later.Good held held.deviceToken)
    (replayed : ∀ token, stage = .replaying ⟨token, none⟩ → later.Good held token)
    (bears : gateway.Bears jar stage) : later.Bears held stage := by
  cases stage with
  | repaired => exact repaired rfl
  | replaying request =>
    obtain ⟨token, reply⟩ := request
    cases reply with
    | none => exact replayed token rfl
    | some reply =>
      cases reply with
      | admitted => trivial
      | refused rotatedAway => exact ⟨bears.1, Bool.eq_false_iff.mpr fun honoured =>
          Bool.eq_false_iff.mp bears.2 (less honoured)⟩
  | denied toBeHad overtaken => exact bears
  | sent _ | unauthenticated | waiting | answered => trivial

end Gateway

structure Faithful (browser : Browser) : Prop where
  tabs : ∀ tab, browser.gateway.Tells browser.jar (browser.tabs tab)
  calls : ∀ id call, browser.calls id = some call →
    browser.gateway.Bears browser.jar call.stage
  carried : ∀ exchange tab presented granted,
    browser.exchanges exchange = some ⟨tab, .refreshToken presented, granted⟩ →
      browser.jar.refreshToken = presented ∨ browser.jar.refreshToken = none
  refused : ∀ exchange tab presented,
    browser.exchanges exchange = some ⟨tab, .refreshToken presented, some false⟩ →
      browser.gateway.accepts presented = false
  usable : ∀ exchange flight, browser.exchanges exchange = some flight →
    flight.granted = some true → browser.gateway.accepts (some exchange) = true →
      browser.gateway.authenticates (some exchange) = true

section Faithful

variable {browser : Browser}

theorem faithful_before (before : Before) : Faithful before.browser where
  tabs _ := ⟨nofun, by rintro (isRefused | ⟨_, isAsking⟩) <;> contradiction, nofun⟩
  calls _ _ isCall := by cases isCall
  carried _ _ _ _ isFlight := by cases isFlight
  refused _ _ _ isFlight := by cases isFlight
  usable _ _ isFlight := by cases isFlight

theorem Faithful.not_honoured (faithful : Faithful browser) {exchange tab : Nat}
    (isFlight : browser.exchanges exchange = some ⟨tab, .refreshToken presented, some false⟩) :
    browser.honoured = false := by
  unfold Browser.honoured
  rcases faithful.carried _ _ _ _ isFlight with same | dropped
  · rw [same, faithful.refused _ _ _ isFlight]
  · rw [dropped, Gateway.accepts_none]

/-! ### Each operation keeps it -/

theorem Faithful.put (faithful : Faithful browser) {now : Tab}
    (tells : browser.gateway.Tells browser.jar now) : Faithful (browser.put tab now) where
  tabs := by
    intro other
    by_cases same : other = tab
    · rw [same, tabs_put_self]
      exact tells
    · rw [tabs_put_of_ne same]
      exact faithful.tabs other
  calls := faithful.calls
  carried := faithful.carried
  refused := faithful.refused
  usable := faithful.usable

theorem Faithful.become (faithful : Faithful browser) {id : Nat}
    (bears : browser.gateway.Bears browser.jar stage) : Faithful (browser.become id stage) where
  tabs := faithful.tabs
  calls := by
    intro other call isCall
    rcases of_calls_become isCall with ⟨was, -, -, rfl⟩ | isCall
    · exact bears
    · exact faithful.calls other call isCall
  carried := faithful.carried
  refused := faithful.refused
  usable := faithful.usable

theorem Faithful.settle (faithful : Faithful browser) (tab : Nat)
    (bears : browser.gateway.Bears browser.jar stage) : Faithful (browser.settle tab stage) where
  tabs := faithful.tabs
  calls := by
    intro id call isCall
    rcases of_calls_settle isCall with ⟨was, -, rfl, -⟩ | ⟨isCall, -⟩
    · exact bears
    · exact faithful.calls id call isCall
  carried := faithful.carried
  refused := faithful.refused
  usable := faithful.usable

theorem Faithful.close (faithful : Faithful browser) (exchange : Nat) :
    Faithful (browser.close exchange) where
  tabs := faithful.tabs
  calls := faithful.calls
  carried _ _ _ _ isFlight := faithful.carried _ _ _ _ (of_exchanges_close isFlight).2
  refused _ _ _ isFlight := faithful.refused _ _ _ (of_exchanges_close isFlight).2
  usable _ _ isFlight := faithful.usable _ _ (of_exchanges_close isFlight).2

theorem Faithful.ask (faithful : Faithful browser) (tab : Nat)
    (presents : ∀ presented, credential = .refreshToken presented →
      browser.jar.refreshToken = presented) : Faithful (browser.ask tab credential) where
  tabs := faithful.tabs
  calls := faithful.calls
  carried := by
    intro exchange other presented granted isFlight
    rcases of_exchanges_ask isFlight with ⟨-, isNew⟩ | isFlight
    · exact .inl (presents presented (Exchange.mk.inj isNew).2.1.symm)
    · exact faithful.carried _ _ _ _ isFlight
  refused := by
    intro exchange other presented isFlight
    rcases of_exchanges_ask isFlight with ⟨-, isNew⟩ | isFlight
    · cases isNew
    · exact faithful.refused _ _ _ isFlight
  usable := by
    intro exchange flight isFlight isGranted
    rcases of_exchanges_ask isFlight with ⟨-, rfl⟩ | isFlight
    · cases isGranted
    · exact faithful.usable _ _ isFlight isGranted

theorem Faithful.refreshSession (faithful : Faithful browser) (tab : Nat) :
    Faithful (browser.refreshSession tab) := by
  unfold Browser.refreshSession
  split
  · exact faithful
  · have tells := faithful.tabs tab
    exact (faithful.ask tab fun presented isPresented => Credential.refreshToken.inj isPresented).put
      ⟨tells.ended, tells.vain, fun _ _ _ => .inl nofun⟩

theorem Faithful.answer (faithful : Faithful browser) (wired : Wired browser) {exchange tab : Nat}
    (isFlight : browser.exchanges exchange = some ⟨tab, credential, none⟩) (granted : Bool)
    (accepts : ∀ token, token ≠ some exchange → gateway.accepts token = true →
      browser.gateway.accepts token = true)
    (authenticates : ∀ other flight, other ≠ exchange → browser.exchanges other = some flight →
      browser.gateway.authenticates (some other) = true →
        gateway.authenticates (some other) = true)
    (refuses : granted = false → ∀ presented, credential = .refreshToken presented →
      gateway.accepts presented = false)
    (issues : granted = true → gateway.authenticates (some exchange) = true)
    (bears : ∀ id call, browser.calls id = some call → gateway.Bears browser.jar call.stage) :
    Faithful (browser.answer exchange ⟨tab, credential, some granted⟩ gateway) := by
  have known : ∀ token : Option Nat, (∀ pair, token = some pair → browser.Circulates pair) →
      gateway.accepts token = true → browser.gateway.accepts token = true := by
    intro token circulates
    refine accepts token fun isNew => ?_
    exact wired.ne_of_circulates (circulates exchange isNew) isFlight rfl
  have less : gateway.accepts browser.jar.refreshToken = true → browser.honoured = true :=
    known browser.jar.refreshToken fun pair inJar => .inr (.inl inJar)
  refine ⟨fun other => (faithful.tabs other).mono less, bears, ?_, ?_, ?_⟩
  · intro other otherTab presented reply isOther
    by_cases same : other = exchange
    · rw [same, exchanges_answer_self] at isOther
      cases isOther
      exact faithful.carried _ _ _ _ isFlight
    · rw [exchanges_answer_of_ne same] at isOther
      exact faithful.carried _ _ _ _ isOther
  · intro other otherTab presented isOther
    by_cases same : other = exchange
    · rw [same, exchanges_answer_self] at isOther
      cases isOther
      exact refuses rfl presented rfl
    · rw [exchanges_answer_of_ne same] at isOther
      refine Bool.eq_false_iff.mpr fun accepted => ?_
      refine Bool.eq_false_iff.mp (faithful.refused _ _ _ isOther) (known presented ?_ accepted)
      rintro pair rfl
      exact .inr (.inr (.inr ⟨other, otherTab, some false, isOther⟩))
  · intro other flight isOther isGranted accepted
    by_cases same : other = exchange
    · rw [same, exchanges_answer_self] at isOther
      cases isOther
      rw [same]
      exact issues (Option.some.inj isGranted)
    · rw [exchanges_answer_of_ne same] at isOther
      refine authenticates other flight same isOther ?_
      exact faithful.usable other flight isOther isGranted
        (accepts (some other) (fun isNew => same (Option.some.inj isNew)) accepted)

theorem filter_accepts_eq_none
    (isNone : (presented.filter fun pair => gateway.accepts (some pair)) = none) :
    gateway.accepts presented = false := by
  cases presented with
  | none => exact Gateway.accepts_none
  | some pair => exact Bool.eq_false_iff.mpr (Option.filter_eq_none_iff.mp isNone pair rfl)

theorem Faithful.handled (faithful : Faithful browser) (wired : Wired browser) {ofTheOwner : Bool}
    (undisturbed : Undisturbed browser (.handled exchange ofTheOwner)) :
    Faithful (browser.handled exchange ofTheOwner) := by
  unfold Browser.handled
  split
  · rename_i tab presented isFlight
    split
    · rename_i pair isPair
      obtain ⟨rfl, accepted⟩ := Option.filter_eq_some_iff.mp isPair
      have idle := undisturbed tab (some pair) isFlight accepted
      have circulates : browser.Circulates pair :=
        .inr (.inr (.inr ⟨exchange, tab, none, isFlight⟩))
      refine faithful.answer wired isFlight true ?_ ?_ nofun ?_ ?_
      · exact fun token other => Gateway.accepts_of_refresh other
      · intro other flight _ isOther authentic
        refine Gateway.authenticates_refresh ?_ authentic
        intro same
        exact wired.ne_of_circulates circulates isOther (Option.some.inj same).symm
      · intro _
        obtain ⟨device, member, isPair, live⟩ := Gateway.accepts_iff.mp accepted
        refine Gateway.authenticates_iff.mpr ⟨⟨exchange, true, true⟩, ?_, rfl, rfl⟩
        exact List.mem_map.mpr ⟨device, member, if_pos ⟨Option.some.inj isPair, live⟩⟩
      · intro id call isCall
        refine (faithful.calls id call isCall).mono ?_ ?_ ?_
        · refine Gateway.accepts_of_refresh fun isNew => ?_
          exact wired.ne_of_circulates (.inr (.inl isNew)) isFlight rfl
        · exact fun isRepaired => absurd ⟨id, call, isCall, .inl isRepaired⟩ idle
        · exact fun token isReplayed =>
            absurd ⟨id, call, isCall, .inr ⟨token, isReplayed⟩⟩ idle
    · rename_i isNone
      exact faithful.answer wired isFlight false (fun _ _ accepted => accepted)
        (fun _ _ _ _ authentic => authentic)
        (fun _ presented isPresented => by
          cases isPresented
          exact filter_accepts_eq_none isNone)
        nofun faithful.calls
  · rename_i tab isFlight
    cases ofTheOwner with
    | false =>
      exact faithful.answer wired isFlight false (fun _ _ accepted => accepted)
        (fun _ _ _ _ authentic => authentic) nofun nofun faithful.calls
    | true =>
      have good : ∀ token, browser.gateway.Good browser.jar token →
          (browser.gateway.issue exchange).Good browser.jar token := by
        refine fun token good => ⟨good.current, fun honoured => ?_⟩
        obtain ⟨authentic, same⟩ := good.usable
          (Gateway.accepts_of_issue (fun isNew =>
            wired.ne_of_circulates (.inr (.inl isNew)) isFlight rfl) honoured)
        exact ⟨Gateway.authenticates_issue authentic, same⟩
      refine faithful.answer wired isFlight true
        (fun token other => Gateway.accepts_of_issue other)
        (fun _ _ _ _ => Gateway.authenticates_issue) nofun ?_ ?_
      · intro _
        exact Gateway.authenticates_iff.mpr ⟨⟨exchange, true, true⟩,
          List.mem_append_right _ (List.mem_singleton_self _), rfl, rfl⟩
      · intro id call isCall
        have bears := faithful.calls id call isCall
        refine bears.mono ?_ ?_ ?_
        · refine Gateway.accepts_of_issue fun isNew => ?_
          exact wired.ne_of_circulates (.inr (.inl isNew)) isFlight rfl
        · intro isRepaired
          rw [isRepaired] at bears
          exact good _ bears
        · intro token isReplayed
          rw [isReplayed] at bears
          exact good token bears
  · exact faithful

theorem refreshAfter_lt {expiresIn : Nat} (lives : 1 < expiresIn) :
    refreshAfter expiresIn < expiresIn * 1000 := by
  unfold refreshAfter
  split <;> omega

theorem renewed_issued {tab : Tab} (now expiresIn : Nat) (lifetime : Lifetime)
    (isLive : (tab.issued now expiresIn).session = .live (some lifetime))
    (lives : 1 < lifetime.expiresIn) :
    (tab.issued now expiresIn).timer = true ∧
      ∃ due, (tab.issued now expiresIn).dueAt = some due ∧ due < lifetime.expiresAt := by
  cases isLive
  exact ⟨rfl, now + refreshAfter expiresIn, rfl,
    Nat.add_lt_add_left (refreshAfter_lt lives) now⟩

theorem tells_issued {tab : Tab} (now expiresIn : Nat)
    (asksNot : tab.start ≠ .refused ∧ ∀ request, tab.start ≠ .asking request) :
    gateway.Tells jar (tab.issued now expiresIn) where
  ended := nofun
  vain := by
    rintro (isRefused | ⟨request, isAsking⟩)
    · exact absurd isRefused asksNot.1
    · exact absurd isAsking (asksNot.2 request)
  renewed lifetime isLive lives := .inr (renewed_issued now expiresIn lifetime isLive lives)

theorem afterUnauthenticated_ne_live (session : SessionStatus) (lifetime : Option Lifetime) :
    session.afterUnauthenticated ≠ .live lifetime := by
  cases session <;> exact nofun

theorem tells_unauthenticated (tab : Tab) (lost : gateway.accepts jar.refreshToken = false) :
    gateway.Tells jar tab.noteUnauthenticated where
  ended _ := lost
  vain _ := lost
  renewed _ isLive _ := absurd isLive (afterUnauthenticated_ne_live tab.session _)

theorem Gateway.Tells.lands {tab : Tab} (tells : gateway.Tells jar tab) {start : Start}
    (vain : start = .refused ∨ (∃ request, start = .asking request) →
      gateway.accepts jar.refreshToken = false)
    (renewed : ∀ lifetime, tab.session = .live (some lifetime) → 1 < lifetime.expiresIn →
      tab.timer = true ∧ ∃ due, tab.dueAt = some due ∧ due < lifetime.expiresAt) :
    gateway.Tells jar (tab.lands start) where
  ended := tells.ended
  vain := by
    unfold Tab.lands
    dsimp only
    split
    · exact vain
    · exact tells.vain
  renewed lifetime isLive lives := .inr (renewed lifetime isLive lives)

theorem Faithful.takes (faithful : Faithful browser) (wired : Wired browser)
    (isFlight : browser.exchanges exchange = some flight) (isGranted : flight.granted = some true)
    (undisturbed : Undisturbed browser (.arrives exchange)) {now : Tab}
    (tells : browser.gateway.Tells ⟨some exchange, some exchange⟩ now) :
    Faithful (((browser.close exchange).keep exchange).put flight.tab now) ∧
      browser.gateway.Good ⟨some exchange, some exchange⟩ (some exchange) := by
  obtain ⟨alone, asksNot, othersLive, letIn⟩ := undisturbed flight isFlight isGranted
  have good : browser.gateway.Good ⟨some exchange, some exchange⟩ (some exchange) := by
    refine ⟨?_, fun honoured => ⟨faithful.usable exchange flight isFlight isGranted honoured, rfl⟩⟩
    rintro pair isPair rotated
    cases isPair
    exact wired.ne_of_circulates (.inr (.inr (.inl rotated))) isFlight rfl
  refine ⟨⟨?_, ?_, ?_, ?_, ?_⟩, good⟩
  · intro tab
    by_cases same : tab = flight.tab
    · rw [same, tabs_put_self]
      exact tells
    · rw [tabs_put_of_ne same]
      refine ⟨fun isOver => ?_, ?_, (faithful.tabs tab).renewed⟩
      · exact absurd isOver (Bool.eq_false_iff.mp (othersLive tab same))
      · rintro (isRefused | ⟨request, isAsking⟩)
        · exact absurd isRefused (asksNot tab).1
        · exact absurd isAsking ((asksNot tab).2 request)
  · intro id call isCall
    have bears := faithful.calls id call isCall
    cases isStage : call.stage with
    | repaired => exact good
    | replaying request =>
      have admitted := letIn id call request isCall isStage
      obtain ⟨token, reply⟩ := request
      cases admitted
      trivial
    | denied toBeHad overtaken =>
      rw [isStage] at bears
      exact bears
    | sent _ | unauthenticated | waiting | answered => trivial
  · intro other tab presented granted isOther
    obtain ⟨differs, isOther⟩ := of_exchanges_close isOther
    exact absurd (alone other _ isOther ⟨presented, rfl⟩) differs
  · exact fun other tab presented isOther =>
      faithful.refused _ _ _ (of_exchanges_close isOther).2
  · exact fun other another isOther =>
      faithful.usable _ _ (of_exchanges_close isOther).2

theorem Faithful.arrives (faithful : Faithful browser) (wired : Wired browser) (expiresIn : Nat)
    (undisturbed : Undisturbed browser (.arrives exchange)) :
    Faithful (browser.arrives expiresIn exchange) := by
  unfold Browser.arrives
  split
  · rename_i tab presented isFlight
    have asksNot := (undisturbed _ isFlight rfl).2.1 tab
    have issued : browser.gateway.Tells ⟨some exchange, some exchange⟩
        ((browser.tabs tab).issued browser.now expiresIn) :=
      tells_issued browser.now expiresIn asksNot
    have done : browser.gateway.Tells ⟨some exchange, some exchange⟩
        (((browser.tabs tab).issued browser.now expiresIn).lands .done) :=
      issued.lands (by rintro (isDone | ⟨_, isDone⟩) <;> cases isDone)
        (renewed_issued browser.now expiresIn)
    obtain ⟨taken, good⟩ := faithful.takes wired isFlight rfl undisturbed done
    exact taken.settle tab good
  · rename_i tab presented isFlight
    have lost := faithful.not_honoured isFlight
    have isOver : browser.gateway.Tells browser.jar
        ((browser.tabs tab).clearSchedule.noteUnauthenticated.lands .refused) :=
      (tells_unauthenticated _ lost).lands (fun _ => lost) fun _ isLive _ =>
        absurd isLive (afterUnauthenticated_ne_live _ _)
    exact ((faithful.close exchange).put isOver).settle tab ⟨lost, rfl⟩
  · rename_i tab isFlight
    have asksNot := (undisturbed _ isFlight rfl).2.1 tab
    exact (faithful.takes wired isFlight rfl undisturbed
      (tells_issued browser.now expiresIn asksNot)).1
  · exact faithful.close exchange
  · exact faithful

theorem Faithful.fails (faithful : Faithful browser)
    (undisturbed : Undisturbed browser (.fails exchange)) :
    Faithful (browser.fails exchange) := by
  unfold Browser.fails
  split
  · rename_i tab presented granted isFlight
    obtain ⟨booted, inTime⟩ := undisturbed _ isFlight ⟨presented, rfl⟩
    have tells := faithful.tabs tab
    have retried : browser.gateway.Tells browser.jar
        (((browser.tabs tab).schedule browser.now retryAfter).lands .refused) := by
      refine ⟨tells.ended, ?_, fun lifetime isLive lives =>
        .inr ⟨rfl, _, rfl, inTime lifetime isLive lives⟩⟩
      have goesOn : (((browser.tabs tab).schedule browser.now retryAfter).lands .refused).start =
          (browser.tabs tab).start := if_neg booted
      rw [goesOn]
      exact tells.vain
    exact ((faithful.close exchange).put retried).settle tab ⟨rfl, rfl⟩
  · exact faithful.close _
  · exact faithful

theorem Faithful.withdraws (faithful : Faithful browser) (gateway : Gateway) (jar : Jar)
    (jarLess : jar.refreshToken = browser.jar.refreshToken ∨ jar.refreshToken = none)
    (gatewayLess : ∀ token, gateway.accepts token = true → browser.gateway.accepts token = true)
    (usable : ∀ exchange flight, browser.exchanges exchange = some flight →
      flight.granted = some true → browser.gateway.authenticates (some exchange) = true →
        gateway.accepts (some exchange) = true → gateway.authenticates (some exchange) = true)
    (good : ∀ id call token, browser.calls id = some call →
      (call.stage = .repaired ∧ token = jar.deviceToken ∧
          browser.gateway.Good browser.jar browser.jar.deviceToken ∨
        call.stage = .replaying ⟨token, none⟩ ∧ browser.gateway.Good browser.jar token) →
        gateway.Good jar token) :
    Faithful { browser with
      jar := jar
      gateway := gateway } := by
  have less : gateway.accepts jar.refreshToken = true →
      browser.gateway.accepts browser.jar.refreshToken = true := by
    intro honoured
    rcases jarLess with same | dropped
    · exact same ▸ gatewayLess _ honoured
    · rw [dropped, Gateway.accepts_none] at honoured
      cases honoured
  refine ⟨fun tab => (faithful.tabs tab).mono less, ?_, ?_, ?_, ?_⟩
  · intro id call isCall
    have bears := faithful.calls id call isCall
    refine bears.mono less ?_ ?_
    · intro isRepaired
      rw [isRepaired] at bears
      exact good id call _ isCall (.inl ⟨isRepaired, rfl, bears⟩)
    · intro token isReplayed
      rw [isReplayed] at bears
      exact good id call token isCall (.inr ⟨isReplayed, bears⟩)
  · intro exchange tab presented granted isFlight
    rcases jarLess with same | dropped
    · exact same ▸ faithful.carried _ _ _ _ isFlight
    · exact .inr dropped
  · exact fun exchange tab presented isFlight => Bool.eq_false_iff.mpr fun accepted =>
      Bool.eq_false_iff.mp (faithful.refused _ _ _ isFlight) (gatewayLess _ accepted)
  · exact fun exchange flight isFlight isGranted accepted =>
      usable exchange flight isFlight isGranted
        (faithful.usable _ _ isFlight isGranted (gatewayLess _ accepted)) accepted

end Faithful

/-! ### One happening more -/

/-- What holds of a browser in every undisturbed run. -/
structure Sound (browser : Browser) : Prop where
  wired : Wired browser
  faithful : Faithful browser

section Sound

variable {browser : Browser}

theorem Sound.kept (sound : Sound browser) : Kept browser where
  joined := sound.wired.joined
  truthful tab := (sound.faithful.tabs tab).ended
  repaired := by
    intro id call toBeHad overtaken isCall isDenied
    have bears := sound.faithful.calls id call isCall
    rw [isDenied] at bears
    exact bears
  renewed tab lifetime isLive lives :=
    ((sound.faithful.tabs tab).renewed lifetime isLive lives).imp_left sound.wired.refreshes

theorem Faithful.lapses (faithful : Faithful browser)
    (undisturbed : Undisturbed browser (.lapses pair)) :
    Faithful { browser with gateway := browser.gateway.lapse pair } := by
  obtain ⟨unissued, unused⟩ := undisturbed
  refine faithful.withdraws _ browser.jar (.inl rfl) ?_ ?_ ?_
  · exact fun token accepted => Gateway.accepts_lapse.symm.trans accepted
  · intro exchange flight isFlight isGranted authentic _
    have other : some exchange ≠ some pair := by
      rintro isPair
      cases isPair
      exact unissued flight isFlight isGranted
    exact (Gateway.authenticates_lapse other).trans authentic
  · intro id call token isCall either
    have stays : token ≠ some pair → browser.gateway.Good browser.jar token →
        (browser.gateway.lapse pair).Good browser.jar token := by
      refine fun other good => ⟨good.current, fun honoured => ?_⟩
      obtain ⟨authentic, same⟩ := good.usable (Gateway.accepts_lapse.symm.trans honoured)
      exact ⟨(Gateway.authenticates_lapse other).trans authentic, same⟩
    obtain ⟨fromJar, notSent⟩ := unused id call isCall
    rcases either with ⟨isRepaired, rfl, good⟩ | ⟨isReplayed, good⟩
    · exact stays (fromJar isRepaired) good
    · exact stays (fun isPair => notSent (isPair ▸ isReplayed)) good

theorem Faithful.expires (faithful : Faithful browser) (pair : Nat) :
    Faithful { browser with gateway := browser.gateway.expire pair } := by
  refine faithful.withdraws _ browser.jar (.inl rfl)
    (fun token accepted => (Gateway.accepts_of_expire accepted).1) ?_ ?_
  · exact fun exchange flight _ _ authentic _ => Gateway.authenticates_expire.trans authentic
  · intro id call token _ either
    have good : browser.gateway.Good browser.jar token := by
      rcases either with ⟨-, rfl, good⟩ | ⟨-, good⟩ <;> exact good
    refine ⟨good.current, fun honoured => ?_⟩
    obtain ⟨authentic, same⟩ := good.usable (Gateway.accepts_of_expire honoured).1
    exact ⟨Gateway.authenticates_expire.trans authentic, same⟩

theorem Gateway.accepts_of_revoke {token : Option Nat}
    (accepted : (gateway.revoke pair).accepts token = true) :
    gateway.accepts token = true ∧ token ≠ some pair := by
  obtain ⟨lapsed, other⟩ := Gateway.accepts_of_expire accepted
  exact ⟨Gateway.accepts_lapse.symm.trans lapsed, other⟩

theorem Gateway.authenticates_revoke {token : Option Nat} (other : token ≠ some pair) :
    (gateway.revoke pair).authenticates token = gateway.authenticates token :=
  Gateway.authenticates_expire.trans (Gateway.authenticates_lapse other)

theorem Faithful.revoked (faithful : Faithful browser) (pair : Nat) :
    Faithful { browser with gateway := browser.gateway.revoke pair } := by
  refine faithful.withdraws _ browser.jar (.inl rfl)
    (fun token accepted => (Gateway.accepts_of_revoke accepted).1) ?_ ?_
  · exact fun exchange flight _ _ authentic accepted =>
      (Gateway.authenticates_revoke (Gateway.accepts_of_revoke accepted).2).trans authentic
  · intro id call token _ either
    have good : browser.gateway.Good browser.jar token := by
      rcases either with ⟨-, rfl, good⟩ | ⟨-, good⟩ <;> exact good
    refine ⟨good.current, fun honoured => ?_⟩
    obtain ⟨accepted, other⟩ := Gateway.accepts_of_revoke honoured
    obtain ⟨authentic, same⟩ := good.usable accepted
    exact ⟨(Gateway.authenticates_revoke (same ▸ other)).trans authentic, same⟩

theorem bears_handled {request : Request} (bears : gateway.Bears jar (.replaying request)) :
    gateway.Bears jar (.replaying (request.handled gateway)) := by
  obtain ⟨token, reply⟩ := request
  cases reply with
  | some reply => exact bears
  | none =>
    cases authentic : gateway.authenticates token with
    | true =>
      have admitted : (⟨token, none⟩ : Request).handled gateway = ⟨token, some .admitted⟩ := by
        simp [Request.handled, authentic]
      rw [admitted]
      trivial
    | false =>
      have refused : (⟨token, none⟩ : Request).handled gateway =
          ⟨token, some (.refused (token.any gateway.rotatedAway.contains))⟩ := by
        simp [Request.handled, authentic]
      rw [refused]
      refine ⟨?_, Bool.eq_false_iff.mpr fun honoured => ?_⟩
      · cases token with
        | none => rfl
        | some pair =>
          refine Bool.eq_false_iff.mpr fun rotated => ?_
          exact bears.current pair rfl (List.contains_iff_mem.mp rotated)
      · exact Bool.eq_false_iff.mp authentic (bears.usable honoured).1

theorem Sound.step (sound : Sound browser) (expiresIn : Nat) {happening : Happening}
    (undisturbed : Undisturbed browser happening) : Sound (step expiresIn browser happening) := by
  obtain ⟨wired, faithful⟩ := sound
  refine ⟨wired.step expiresIn happening, ?_⟩
  cases happening with
  | passes elapsed => exact ⟨faithful.tabs, faithful.calls, faithful.carried, faithful.refused,
      faithful.usable⟩
  | boots tab =>
    dsimp only [Keeper.step, Browser.boots]
    split
    · have refreshing := faithful.refreshSession tab
      have tells := refreshing.tabs tab
      refine refreshing.put ⟨tells.ended, ?_, tells.renewed⟩
      rintro (isRefused | ⟨_, isAsking⟩) <;> contradiction
    · exact faithful
  | fires tab =>
    dsimp only [Keeper.step, Browser.fires]
    split
    · have refreshing := faithful.refreshSession tab
      have tells := refreshing.tabs tab
      exact refreshing.put ⟨tells.ended, tells.vain, fun _ _ _ =>
        .inl (inFlight_refreshSession browser tab)⟩
    · exact faithful
  | wakes tab =>
    dsimp only [Keeper.step, Browser.wakes]
    split
    · exact faithful.refreshSession tab
    · exact faithful
  | makes id tab =>
    dsimp only [Keeper.step, Browser.makes]
    split
    · refine ⟨faithful.tabs, ?_, faithful.carried, faithful.refused, faithful.usable⟩
      intro other call isCall
      by_cases same : other = id
      · rw [same] at isCall
        cases (Function.update_self id _ browser.calls).symm.trans isCall
        trivial
      · exact faithful.calls other call
          ((Function.update_of_ne same _ browser.calls).symm.trans isCall)
    · exact faithful
  | signsIn tab => exact faithful.ask tab nofun
  | repairs id =>
    dsimp only [Keeper.step, Browser.repairs]
    split
    · exact (faithful.refreshSession _).become trivial
    · exact faithful
  | replays id =>
    dsimp only [Keeper.step, Browser.replays]
    split
    · rename_i isCall
      have bears := faithful.calls id _ isCall
      exact faithful.become bears
    · exact faithful
  | asks tab =>
    dsimp only [Keeper.step, Browser.asks]
    split
    · rename_i isRefused
      have tells := faithful.tabs tab
      exact faithful.put ⟨tells.ended, fun _ => tells.vain (.inl isRefused), tells.renewed⟩
    · exact faithful
  | handled exchange ofTheOwner => exact faithful.handled wired undisturbed
  | arrives exchange => exact faithful.arrives wired expiresIn undisturbed
  | fails exchange => exact faithful.fails undisturbed
  | questionHandled tab =>
    dsimp only [Keeper.step, Browser.questionHandled]
    split
    · rename_i request isAsking
      have tells := faithful.tabs tab
      exact faithful.put ⟨tells.ended, fun _ => tells.vain (.inr ⟨request, isAsking⟩),
        tells.renewed⟩
    · exact faithful
  | questionArrives tab =>
    dsimp only [Keeper.step, Browser.questionArrives]
    split
    · exact faithful.put ⟨nofun, by rintro (isDone | ⟨_, isDone⟩) <;> contradiction, nofun⟩
    · rename_i isAsking
      have lost := (faithful.tabs tab).vain (.inr ⟨_, isAsking⟩)
      have tells := tells_unauthenticated (browser.tabs tab) lost
      exact faithful.put ⟨tells.ended, fun _ => lost, tells.renewed⟩
    · exact faithful
  | questionFails tab =>
    dsimp only [Keeper.step, Browser.questionFails]
    split
    · have tells := faithful.tabs tab
      exact faithful.put ⟨tells.ended, by rintro (isDone | ⟨_, isDone⟩) <;> contradiction,
        tells.renewed⟩
    · exact faithful
  | callHandled id =>
    dsimp only [Keeper.step, Browser.callHandled]
    split
    · exact faithful.become trivial
    · rename_i isCall
      exact faithful.become (bears_handled (faithful.calls id _ isCall))
    · exact faithful
  | callArrives id =>
    dsimp only [Keeper.step, Browser.callArrives]
    split
    · rename_i tab _ _ isCall
      split
      · rename_i isSignedOut
        have lost := (faithful.tabs tab).ended (by rw [isSignedOut]; rfl)
        exact faithful.become ⟨lost, rfl⟩
      · exact faithful.become trivial
    · rename_i isCall
      have bears := faithful.calls id _ isCall
      exact faithful.become ⟨bears.2, bears.1⟩
    · exact faithful.become trivial
    · exact faithful.become trivial
    · exact faithful
  | callFails id =>
    dsimp only [Keeper.step, Browser.callFails]
    split
    · exact faithful.become trivial
    · rename_i request isCall
      exact faithful.become ⟨undisturbed _ request isCall rfl, rfl⟩
    · exact faithful
  | lapses pair => exact faithful.lapses undisturbed
  | expires pair => exact faithful.expires pair
  | revoked pair => exact faithful.revoked pair
  | dropsDeviceToken =>
    refine faithful.withdraws browser.gateway _ (.inl rfl) (fun _ accepted => accepted)
      (fun _ _ _ _ authentic _ => authentic) ?_
    rintro id call token isCall (⟨isRepaired, -⟩ | ⟨-, good⟩)
    · exact absurd isRepaired (undisturbed id call isCall)
    · exact ⟨good.current, good.usable⟩
  | dropsRefreshToken =>
    refine faithful.withdraws browser.gateway _ (.inr rfl) (fun _ accepted => accepted)
      (fun _ _ _ _ authentic _ => authentic) ?_
    rintro id call token isCall either
    have good : browser.gateway.Good browser.jar token := by
      rcases either with ⟨-, rfl, good⟩ | ⟨-, good⟩ <;> exact good
    refine ⟨good.current, fun honoured => ?_⟩
    exact absurd honoured (Bool.eq_false_iff.mp Gateway.accepts_none)

end Sound

/-! ### Every run -/

/-- The session keepers keep their promise in every run that nothing disturbs. -/
theorem kept_of_undisturbed (before : Before) (expiresIn : Nat) (happenings : List Happening)
    (undisturbed : Along (step expiresIn) Undisturbed before.browser happenings)
    (front : List Happening) (isPrefix : front <+: happenings) :
    Kept (run (step expiresIn) before.browser front) := by
  obtain ⟨back, rfl⟩ := isPrefix
  have sound : Sound (run (step expiresIn) before.browser front) :=
    run_invariant_along Sound (fun _ _ sound now => sound.step expiresIn now)
      ⟨wired_before before, faithful_before before⟩ (along_append.mp undisturbed).1
  exact sound.kept

/-! ### Two tabs of one browser -/

namespace TwoTabs

/-- A browser that holds the pair of a session. -/
def signedIn : Before where
  now := 0
  jar := ⟨some 0, some 0⟩
  gateway := ⟨[⟨0, true, true⟩], []⟩
  issued := 1
  devicesIssued _ member := by
    cases List.mem_singleton.mp member
    exact Nat.zero_lt_one
  rotatedIssued := nofun
  deviceTokenIssued pair inJar := by
    cases inJar
    exact Nat.zero_lt_one
  refreshTokenIssued pair inJar := by
    cases inJar
    exact Nat.zero_lt_one

def oneBoots : List Happening := [.boots 0, .handled 1 false, .arrives 1]

theorem tabs_oneBoots (isOther : tab ≠ 0) :
    (run (step 900) signedIn.browser [.boots 0, .handled 1 false]).tabs tab = .opened := by
  have booting : (signedIn.browser.boots 0).tabs tab = .opened :=
    (tabs_put_of_ne isOther _).trans (tabs_put_of_ne isOther _)
  exact booting

theorem exchanges_oneBoots (isOther : exchange ≠ 1) :
    (run (step 900) signedIn.browser [.boots 0, .handled 1 false]).exchanges exchange = none :=
  (exchanges_answer_of_ne isOther ..).trans (Function.update_of_ne isOther ..)

theorem undisturbed_oneBoots :
    Along (step 900) Undisturbed signedIn.browser oneBoots := by
  refine ⟨trivial, ?_, ?_, trivial⟩
  · rintro tab presented - - ⟨id, call, isCall, -⟩
    cases isCall
  · rintro flight isFlight -
    cases isFlight
    refine ⟨?_, ?_, ?_, nofun⟩
    · intro other another isOther _
      by_contra differs
      cases (exchanges_oneBoots differs).symm.trans isOther
    · intro tab
      by_cases same : tab = 0
      · rw [same]
        exact ⟨nofun, nofun⟩
      · have shut := congrArg Tab.start (tabs_oneBoots same)
        refine ⟨fun isRefused => ?_, fun request isAsking => ?_⟩
        · cases shut.symm.trans isRefused
        · cases shut.symm.trans isAsking
    · exact fun tab isOther => congrArg (fun tab => tab.session.isOver) (tabs_oneBoots isOther)

theorem kept_oneBoots : Kept (run (step 900) signedIn.browser oneBoots) :=
  kept_of_undisturbed signedIn 900 oneBoots undisturbed_oneBoots oneBoots List.prefix_rfl

/-- Two tabs boot, and present the same refresh token. -/
def bothBoot : List Happening :=
  [.boots 0, .boots 1, .handled 1 false, .handled 2 false, .arrives 1, .arrives 2]

/-- The tab whose refresh comes second says that nobody is signed in, and the jar holds the pair
that the first was granted. -/
theorem not_kept_bothBoot : ¬∀ before expiresIn happenings,
    Kept (run (step expiresIn) (Before.browser before) happenings) := by
  intro always
  have lost := (always signedIn 900 bothBoot).truthful 1 rfl
  have honoured : (run (step 900) signedIn.browser bothBoot).honoured = true := rfl
  rw [honoured] at lost
  cases lost

end TwoTabs

end Twalk.Keeper
