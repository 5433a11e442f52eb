/-
This file is `electTab` of the Companion, and the browser it runs in. A tab asks for the Web Lock
once without waiting, which answers at once whether another tab has it, and then queues a claim.
The tab whose claim is granted is active. A waiting tab posts a take-over message to the others;
the holder lets its client go, announces `elsewhere`, lets the lock go and queues again.
The Web Lock is exclusive, is granted in the order of the requests and is let go of when its tab
dies. A message reaches every other tab that is open when it is posted, once, at any later time.
-/

import Mathlib.Data.List.Count
import Mathlib.Logic.Function.Basic
import Twalk.Library.System

namespace Twalk.Tabs

/-! ### A tab -/

inductive TabRole
  | active
  | elsewhere
  | electing
  deriving DecidableEq

inductive TakeOverOutcome
  | active
  | unanswered
  deriving DecidableEq

/-- How a promise settles. It is fulfilled when the tab has announced `active` so many times. -/
inductive Settlement
  | fulfilled (outcome : TakeOverOutcome) (activations : Nat)
  | rejected
  deriving DecidableEq

/-- A promise that `takeOver` returned: how often the tab had been active, whether the deadline
has passed, and how the promise settled. -/
structure TakeOver where
  since : Nat
  due : Bool
  settlement : Option Settlement
  deriving DecidableEq

/-- Only the first settlement of a promise counts. -/
def TakeOver.resolve (takeOver : TakeOver) (settlement : Settlement) : TakeOver :=
  { takeOver with settlement := takeOver.settlement.or (some settlement) }

/-- The request with `ifAvailable`: out, granted, answered with `null`, or ended. -/
inductive Probe
  | asked
  | granted
  | refused
  | ended
  deriving DecidableEq

/-- A tab that runs `electTab`. Beside the variables of its closure it has the claims its
timeouts will make, the calls of `onYield` that have not come back, the messages on their way to it
and the promises it returned. It counts the times it became active, and the calls of `onYield`
since the last time. -/
structure Tab where
  alive : Bool
  stopped : Bool
  release : Bool
  asking : Option Nat
  probe : Probe
  role : TabRole
  scheduled : Nat
  yielding : Nat
  mail : Nat
  promises : List TakeOver
  activations : Nat
  yields : Nat

/-- A tab that has called `electTab`: its first request is out. -/
def Tab.opened : Tab where
  alive := true
  stopped := false
  release := false
  asking := none
  probe := .asked
  role := .electing
  scheduled := 0
  yielding := 0
  mail := 0
  promises := []
  activations := 0
  yields := 0

def Tab.settle (tab : Tab) (outcome : TakeOverOutcome) : Tab :=
  match tab.asking with
  | none => tab
  | some index => { tab with
      asking := none
      promises := tab.promises.modify index
        (TakeOver.resolve · (.fulfilled outcome tab.activations)) }

def Tab.announce (tab : Tab) : TabRole → Tab
  | .active => { ({ tab with activations := tab.activations + 1 } : Tab).settle .active with
      role := .active
      yields := 0 }
  | role => { tab with role := role }

/-- The deadline of a take-over passes, where one was set. It settles the take-over if that one is
still the one in flight. -/
def Tab.deadline (tab : Tab) (index : Nat) : Tab :=
  if tab.promises[index]?.all fun takeOver => takeOver.settlement = some .rejected then tab else
    let passed : Tab :=
      { tab with promises := tab.promises.modify index ({ · with due := true }) }
    if tab.asking = some index then passed.settle .unanswered else passed

/-- The channel is open: the tab runs, and nobody has stopped the election. -/
def Tab.listens (tab : Tab) : Bool :=
  tab.alive && !tab.stopped

/-! ### The browser -/

/-- How far the request that has the lock has come. The callback of a claim waits for its promise
from when it announced `active`, and the browser lets go of the lock after it returned. -/
inductive Grant
  | probe
  | claim
  | held
  | returned
  deriving DecidableEq

structure Browser where
  tabs : Nat → Tab
  lock : Option (Nat × Grant)
  queue : List Nat

namespace Browser

def put (browser : Browser) (tab : Nat) (now : Tab) : Browser :=
  { browser with tabs := Function.update browser.tabs tab now }

def claim (browser : Browser) (tab : Nat) : Browser :=
  if (browser.tabs tab).stopped then browser else
    { browser with queue := browser.queue ++ [tab] }

/-- Resolves the promise that the callback holding the lock waits for, if there is one. The
callback then forgets the closure and returns. -/
def letGo (browser : Browser) (tab : Nat) : Browser :=
  if (browser.tabs tab).release then
    { browser.put tab { browser.tabs tab with release := false } with
      lock := if browser.lock = some (tab, .held) then some (tab, .returned) else browser.lock }
  else browser

/-- The browser answers the request with `ifAvailable` at once. -/
def answer (browser : Browser) (tab : Nat) : Browser :=
  if (browser.tabs tab).probe = .asked then
    if browser.lock = none ∧ browser.queue = [] then
      { browser.put tab { browser.tabs tab with probe := .granted } with
        lock := some (tab, .probe) }
    else browser.put tab { browser.tabs tab with probe := .refused }
  else browser

def probed (browser : Browser) (tab : Nat) : Browser :=
  match (browser.tabs tab).probe with
  | .granted => { browser.put tab { browser.tabs tab with probe := .ended } with
      lock := none }.claim tab
  | .refused => (browser.put tab
      (({ browser.tabs tab with probe := .ended } : Tab).announce .elsewhere)).claim tab
  | _ => browser

def grant (browser : Browser) : Browser :=
  match browser.lock, browser.queue with
  | none, tab :: rest => { browser with lock := some (tab, .claim), queue := rest }
  | _, _ => browser

def granted (browser : Browser) (tab : Nat) : Browser :=
  if browser.lock = some (tab, .claim) then
    if (browser.tabs tab).stopped then { browser with lock := some (tab, .returned) } else
      { browser.put tab { (browser.tabs tab).announce .active with release := true } with
        lock := some (tab, .held) }
  else browser

def free (browser : Browser) : Browser :=
  match browser.lock with
  | some (_, .returned) => { browser with lock := none }
  | _ => browser

def claimAgain (browser : Browser) (tab : Nat) : Browser :=
  if (browser.tabs tab).scheduled = 0 then browser else
    (browser.put tab { browser.tabs tab with
      scheduled := (browser.tabs tab).scheduled - 1 }).claim tab

def post (browser : Browser) (sender : Nat) : Browser :=
  { browser with tabs := fun tab =>
      if tab ≠ sender ∧ (browser.tabs tab).listens then
        { browser.tabs tab with mail := (browser.tabs tab).mail + 1 }
      else browser.tabs tab }

/-- Asks the holder to let go. A closed channel throws, and then no deadline is set. -/
def takeOver (browser : Browser) (tab : Nat) : Browser :=
  let asker := browser.tabs tab
  if asker.stopped then
    browser.put tab { asker with
      asking := some asker.promises.length
      promises := asker.promises ++ [⟨asker.activations, false, some .rejected⟩] }
  else
    (browser.put tab { asker with
      asking := some asker.promises.length
      promises := asker.promises ++ [⟨asker.activations, false, none⟩] }).post tab

/-- A take-over message is heard: a tab that has no lock to let go of ignores it, and any other
calls `onYield`. -/
def hear (browser : Browser) (tab : Nat) : Browser :=
  let hearer := browser.tabs tab
  if hearer.listens ∧ 0 < hearer.mail then
    let heard : Tab := { hearer with mail := hearer.mail - 1 }
    browser.put tab (if hearer.release then
      { heard with yielding := hearer.yielding + 1, yields := hearer.yields + 1 } else heard)
  else browser

/-- `onYield` comes back: the tab announces it, lets go of the lock and queues up again. -/
def yielded (browser : Browser) (tab : Nat) : Browser :=
  if (browser.tabs tab).yielding = 0 then browser else
    let gone := (browser.put tab (({ browser.tabs tab with
      yielding := (browser.tabs tab).yielding - 1 } : Tab).announce .elsewhere)).letGo tab
    gone.put tab { gone.tabs tab with scheduled := (gone.tabs tab).scheduled + 1 }

def stop (browser : Browser) (tab : Nat) : Browser :=
  (browser.put tab (({ browser.tabs tab with stopped := true } : Tab).settle .unanswered)).letGo tab

def die (browser : Browser) (tab : Nat) : Browser :=
  { browser.put tab { browser.tabs tab with alive := false } with
    lock := browser.lock.filter (·.1 ≠ tab)
    queue := browser.queue.filter (· ≠ tab) }

end Browser

/-! ### What can happen -/

inductive Happening
  | opens (tab : Nat)
  | answered (tab : Nat)
  | probed (tab : Nat)
  | grants
  | granted (tab : Nat)
  | frees
  | claims (tab : Nat)
  | takesOver (tab : Nat)
  | hears (tab : Nat)
  | yielded (tab : Nat)
  | deadline (tab : Nat) (promise : Nat)
  | stops (tab : Nat)
  | dies (tab : Nat)

def Browser.act (browser : Browser) (tab : Nat) (does : Browser → Nat → Browser) : Browser :=
  if (browser.tabs tab).alive then does browser tab else browser

/-- What a happening does. What cannot happen changes nothing. -/
def step (browser : Browser) : Happening → Browser
  | .opens tab => if (browser.tabs tab).alive then browser else browser.put tab .opened
  | .answered tab => browser.act tab Browser.answer
  | .probed tab => browser.act tab Browser.probed
  | .grants => browser.grant
  | .granted tab => browser.act tab Browser.granted
  | .frees => browser.free
  | .claims tab => browser.act tab Browser.claimAgain
  | .takesOver tab => browser.act tab Browser.takeOver
  | .hears tab => browser.act tab Browser.hear
  | .yielded tab => browser.act tab Browser.yielded
  | .deadline tab promise => browser.act tab fun browser tab =>
      browser.put tab ((browser.tabs tab).deadline promise)
  | .stops tab => browser.act tab Browser.stop
  | .dies tab => browser.act tab Browser.die

def shut : Browser where
  tabs _ := { Tab.opened with alive := false }
  lock := none
  queue := []

end Twalk.Tabs
