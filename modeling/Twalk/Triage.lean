/-
This file models the pure half of `collector/src/triage.rs`: which rule a mail
matches, and which mailbox that rule files into. The set of rules is the Gateway's,
which checks a destination by its name; the collector resolves the name to a
mailbox and checks the mailbox's role. A set the Gateway accepted is filed only
into mailboxes that pass both checks, since the two compare names trimmed alike.
-/

import Twalk.Jmap
import Twalk.MailRules

namespace Twalk.Collector.Triage

open Jmap (Mail)

/-! ### The set, as the collector reads it -/

/-- A mailbox as `Mailbox/get` answers it. -/
structure Mailbox where
  id : String
  name : String
  role : Option String
deriving DecidableEq, Repr

/-- What a rule looks at. -/
inductive Match where
  | sender (pattern : String)
  | subject (fragment : String)
  | listId (wanted : String)
  | olderThanDays (days : UInt32)
deriving DecidableEq, Repr

structure Rule where
  id : String
  matching : Match
  destination : String
deriving DecidableEq, Repr

/-- The whole set, as the Gateway serves it. -/
structure Rules where
  destinations : List String
  rules : List Rule
deriving DecidableEq, Repr

/-- A match of the Gateway's, as the collector reads it off the same document. -/
def Match.ofGateway : MailRules.Match → Match
  | .sender value => sender value
  | .subject value => subject value
  | .listId value => listId value
  | .olderThanDays days => olderThanDays days

def Rule.ofGateway (rule : MailRules.Rule) : Rule :=
  ⟨rule.id, .ofGateway rule.matching, rule.destination⟩

def Rules.ofGateway (triage : MailRules.Triage) : Rules :=
  ⟨triage.destinations, triage.rules.map Rule.ofGateway⟩

/-- Why a rule could not be applied. -/
inductive Unusable where
  | noSuchMailbox | destinationIsDestructive | destinationNotAllowed
deriving DecidableEq, Repr

def Unusable.asStr : Unusable → String
  | noSuchMailbox => "no_such_mailbox"
  | destinationIsDestructive => "destination_is_destructive"
  | destinationNotAllowed => "destination_not_allowed"

structure Filing where
  ruleId : String
  mailboxId : String
  mailboxName : String
deriving DecidableEq, Repr

/-- The roles a mail may never be filed into. -/
def destructiveRoles : List String := ["trash", "junk"]

/-! ### Filing one mail -/

/-- What triage takes from the language and its date library: lower case, which leaves a word of
lower-case ASCII letters as it is, and the instant of an RFC 3339 text in nanoseconds. -/
structure Locale where
  lowercase : String → String
  instant : String → Option Int
  lowercase_of_isLower : ∀ text : String, text.toList.all Char.isLower = true →
    lowercase text = text

section Filing

variable (locale : Locale)

def hasDestructiveRole (mailbox : Mailbox) : Bool :=
  mailbox.role.any fun role => destructiveRoles.contains (locale.lowercase role)

def resolve (mailboxes : List Mailbox) (triage : Rules) (destination : String) :
    Except Unusable Mailbox :=
  if triage.destinations.any fun allowed => Text.trim allowed == Text.trim destination then
    match mailboxes.find? fun mailbox => Text.trim mailbox.name == Text.trim destination with
    | none => .error .noSuchMailbox
    | some mailbox =>
      if hasDestructiveRole locale mailbox then .error .destinationIsDestructive else .ok mailbox
  else .error .destinationNotAllowed

/-- What precedes and what follows the first `@` of an address. -/
def splitAddress (address : List Char) : Option (List Char × List Char) :=
  match address.span (· != '@') with
  | (_, []) => none
  | (front, _ :: back) => some (front, back)

/-- `*@domain` or `local@*`, or the address itself. -/
def senderMatches (pattern address : String) : Bool :=
  let pattern := (locale.lowercase (Text.trim pattern)).toList
  let address := (locale.lowercase (Text.trim address)).toList
  if ['*', '@'].isPrefixOf pattern then
    (splitAddress address.reverse).any fun held => held.1.reverse == pattern.drop 2
  else if ['@', '*'].isSuffixOf pattern then
    (splitAddress address).any fun held => held.1 == pattern.dropLast.dropLast
  else pattern == address

/-- An instant that cannot be read is not old. -/
def olderThan (receivedAt : String) (days : UInt32) (now : Int) : Bool :=
  (locale.instant receivedAt).any fun received =>
    days.toNat * 86400 < (now - received).tdiv 1000000000

def isMatch (matching : Match) (mail : Mail) (now : Int) : Bool :=
  match matching with
  | .sender pattern => senderMatches locale pattern mail.sender.email
  | .subject fragment =>
    Text.contains (locale.lowercase mail.subject) (locale.lowercase (Text.trim fragment))
  | .listId wanted => mail.listId.any fun held =>
    Text.contains (locale.lowercase held) (locale.lowercase (Text.trim wanted))
  | .olderThanDays days => olderThan locale mail.receivedAt days now

/-- A rule that matched, once its destination was resolved. -/
def applied (rule : Rule) : Except Unusable Mailbox → Except (String × Unusable) (Option Filing)
  | .ok mailbox => .ok (some ⟨rule.id, mailbox.id, mailbox.name⟩)
  | .error why => .error (rule.id, why)

def fileBy (triage : Rules) (mailboxes : List Mailbox) (mail : Mail) (now : Int) :
    List Rule → Except (String × Unusable) (Option Filing)
  | [] => .ok none
  | rule :: rest =>
    if isMatch locale rule.matching mail now then
      applied rule (resolve locale mailboxes triage rule.destination)
    else fileBy triage mailboxes mail now rest

def file (triage : Rules) (mailboxes : List Mailbox) (mail : Mail) (now : Int) :
    Except (String × Unusable) (Option Filing) :=
  fileBy locale triage mailboxes mail now triage.rules

/-! ### The rule that decides -/

def Decides (rules : List Rule) (mail : Mail) (now : Int) (rule : Rule) : Prop :=
  ∃ front back, rules = front ++ rule :: back ∧
    (∀ earlier ∈ front, isMatch locale earlier.matching mail now = false) ∧
    isMatch locale rule.matching mail now = true

variable {locale} {triage : Rules} {mailboxes : List Mailbox} {mail : Mail} {now : Int}

theorem fileBy_eq (rules : List Rule) :
    fileBy locale triage mailboxes mail now rules = .ok none ∨
      ∃ rule, Decides locale rules mail now rule ∧
        fileBy locale triage mailboxes mail now rules =
          applied rule (resolve locale mailboxes triage rule.destination) := by
  induction rules with
  | nil => exact .inl rfl
  | cons rule rest inductionHypothesis =>
    by_cases isMatched : isMatch locale rule.matching mail now = true
    · refine .inr ⟨rule, ⟨[], rest, rfl, fun _ absurdly => absurd absurdly List.not_mem_nil,
        isMatched⟩, ?_⟩
      rw [fileBy, if_pos isMatched]
    · rw [fileBy, if_neg isMatched]
      refine inductionHypothesis.imp_right ?_
      rintro ⟨decided, ⟨front, back, rfl, misses, found⟩, answer⟩
      refine ⟨decided, ⟨rule :: front, back, rfl, ?_, found⟩, answer⟩
      exact List.forall_mem_cons.mpr ⟨by simpa using isMatched, misses⟩

theorem Decides.mem {rules : List Rule} {rule : Rule} (decides : Decides locale rules mail now rule) :
    rule ∈ rules := by
  obtain ⟨front, back, rfl, -, -⟩ := decides
  exact List.mem_append_right _ List.mem_cons_self

theorem resolve_eq_ok {destination : String} {mailbox : Mailbox}
    (resolved : resolve locale mailboxes triage destination = .ok mailbox) :
    (triage.destinations.any fun allowed => Text.trim allowed == Text.trim destination) = true ∧
      mailbox ∈ mailboxes ∧ Text.trim mailbox.name = Text.trim destination ∧
      hasDestructiveRole locale mailbox = false := by
  unfold resolve at resolved
  split at resolved
  · rename_i allowed
    cases found : mailboxes.find? fun mailbox => Text.trim mailbox.name == Text.trim destination with
    | none => rw [found] at resolved; exact absurd resolved (by simp)
    | some first =>
      rw [found] at resolved
      dsimp only at resolved
      split at resolved
      · exact absurd resolved (by simp)
      · rename_i harmless
        obtain rfl : first = mailbox := Except.ok.inj resolved
        exact ⟨allowed, List.mem_of_find?_eq_some found, eq_of_beq (List.find?_some found :),
          by simpa using harmless⟩
  · exact absurd resolved (by simp)

theorem resolve_of_allowed {destination : String}
    (allowed : (triage.destinations.any fun one => Text.trim one == Text.trim destination) = true) :
    resolve locale mailboxes triage destination ≠ .error .destinationNotAllowed := by
  unfold resolve
  rw [if_pos allowed]
  cases mailboxes.find? fun mailbox => Text.trim mailbox.name == Text.trim destination with
  | none => simp
  | some mailbox =>
    dsimp only
    split <;> simp

theorem role_ne_of_harmless {mailbox : Mailbox}
    (harmless : hasDestructiveRole locale mailbox = false) {word : String}
    (isDestructive : word ∈ destructiveRoles) (isLower : word.toList.all Char.isLower = true) :
    mailbox.role ≠ some word := by
  intro isRole
  unfold hasDestructiveRole at harmless
  rw [isRole, Option.any_some, locale.lowercase_of_isLower word isLower] at harmless
  exact absurd isDestructive (by simpa using harmless)

theorem isDestructive_congr {lowercase : String → String} {first second : String}
    (same : Text.trim first = Text.trim second) :
    MailRules.isDestructive lowercase first = MailRules.isDestructive lowercase second := by
  unfold MailRules.isDestructive
  rw [same]

end Filing

/-! ### A set the Gateway accepted -/

namespace Newsletters

def asciiLocale : Locale where
  lowercase := Text.toAsciiLowercase
  instant _ := none
  lowercase_of_isLower _ := Text.toAsciiLowercase_of_isLower

/-- Newsletters go to a mailbox of the owner's. -/
def gateway : MailRules.Triage where
  destinations := [" Reading ", "Archive"]
  rules := [⟨"age", .olderThanDays 30, "Archive"⟩, ⟨"news", .listId "news.example.org", "Reading"⟩]

def mailboxes : List Mailbox :=
  [⟨"m1", "INBOX", some "inbox"⟩, ⟨"m2", "Reading", none⟩, ⟨"m3", "Trash", some "trash"⟩]

def newsletter : Mail where
  id := "e1"
  mailboxIds := ["m1"]
  receivedAt := "2026-10-01T08:00:00Z"
  sender := ⟨none, "news@example.org"⟩
  recipients := [⟨none, "me@example.org"⟩]
  cc := []
  subject := "October"
  body := ""
  messageId := none
  inReplyTo := none
  references := []
  attachments := []
  autoSubmitted := none
  listId := some "<News.example.org>"
  listUnsubscribe := none
  precedence := none
  hasItipPart := false

example : file asciiLocale (Rules.ofGateway gateway) mailboxes newsletter 0 =
    .ok (some ⟨"news", "m2", "Reading"⟩) := by decide

end Newsletters

end Twalk.Collector.Triage
