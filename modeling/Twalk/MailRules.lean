/-
This file models `companion-gateway/src/mail_rules.rs`: the owner's triage set,
the mailboxes rules may file into with the rules themselves, and the check a set
passes before it is written. A checked set names only declared mailboxes, none
of them the trash, and each rule once. It also models the documents the store
keeps sets and rules in: a document written from a set reads back as that set.
-/

import Twalk.Library.Json
import Twalk.Library.Text
import Mathlib.Data.List.Nodup

namespace Twalk.MailRules

/-! ### Rules -/

/-- The longest a destination name or a match value may be. -/
def maxLen : Nat := 200

/-- How many rules one deployment may hold. -/
def maxRules : Nat := 200

/-- What a rule looks at: one field of a mail's envelope. -/
inductive Match where
  | sender (value : String)
  | subject (value : String)
  | listId (value : String)
  | olderThanDays (days : UInt32)
deriving DecidableEq, Repr

inductive Refusal where
  | destinationNotAllowed
  | destinationIsDestructive
  | destinationIsEmpty
  | destinationTooLong
  | matchIsEmpty
  | matchTooLong
  | matchOutOfRange
  | tooManyRules
  | duplicateRuleId
  | ruleIdIsEmpty
  | ruleIdTooLong
deriving DecidableEq, Repr

def Refusal.code : Refusal → String
  | destinationNotAllowed => "destination_not_allowed"
  | destinationIsDestructive => "destination_is_destructive"
  | destinationIsEmpty => "destination_is_empty"
  | destinationTooLong => "destination_too_long"
  | matchIsEmpty => "match_is_empty"
  | matchTooLong => "match_too_long"
  | matchOutOfRange => "match_out_of_range"
  | tooManyRules => "too_many_rules"
  | duplicateRuleId => "duplicate_rule_id"
  | ruleIdIsEmpty => "rule_id_is_empty"
  | ruleIdTooLong => "rule_id_too_long"

def checkText (text : String) : Except Refusal Unit :=
  if Text.trim text = "" then .error .matchIsEmpty
  else if maxLen < Text.count text then .error .matchTooLong
  else .ok ()

def Match.check : Match → Except Refusal Unit
  | sender value => checkText value
  | subject value => checkText value
  | listId value => checkText value
  | olderThanDays days =>
    if days = 0 ∨ 3650 < days then .error .matchOutOfRange else .ok ()

structure Rule where
  id : String
  matching : Match
  destination : String
deriving DecidableEq, Repr

/-! ### Destinations -/

/-- The mailbox names no allowlist may hold, lower-cased. -/
def destructive : List String :=
  ["trash", "junk", "bin", "deleted", "deleted items", "deleted messages", "spam", "junk email",
    "corbeille", "pourriel", "indésirables", "éléments supprimés", "papierkorb", "gelöscht",
    "gelöschte elemente", "junk-e-mail", "papelera", "correo no deseado", "elementos eliminados",
    "cestino", "posta indesiderata", "posta eliminata"]

def lastSegment (name : String) : String :=
  String.ofList (name.toList.reverse.takeWhile (· ≠ '/')).reverse

/-- Whether a name can never be a destination. Names are compared as `lowercase` gives them. -/
def isDestructive (lowercase : String → String) (name : String) : Bool :=
  let name := lowercase (Text.trim name)
  let last := Text.trim (lastSegment name)
  destructive.contains name || destructive.contains last

def checkDestination (lowercase : String → String) (name : String) : Except Refusal Unit :=
  if Text.trim name = "" then .error .destinationIsEmpty
  else if maxLen < Text.count name then .error .destinationTooLong
  else if isDestructive lowercase name then .error .destinationIsDestructive
  else .ok ()

/-! ### The set -/

structure Triage where
  destinations : List String
  rules : List Rule
deriving DecidableEq, Repr

namespace Triage

/-- The set every deployment starts with, which triages nothing. -/
def default : Triage := ⟨[], []⟩

/-- Whether a rule may file into this mailbox. -/
def allows (triage : Triage) (destination : String) : Bool :=
  triage.destinations.any fun allowed => Text.trim allowed == Text.trim destination

abbrev Checked := Except (Option String × Refusal) Unit

def named (about : Option String) : Except Refusal Unit → Checked
  | .ok () => .ok ()
  | .error why => .error (about, why)

def refuseIf (condition : Prop) [Decidable condition] (about : Option String)
    (why : Refusal) : Checked :=
  if condition then .error (about, why) else .ok ()

variable (lowercase : String → String)

def checkDestinations : List String → Checked
  | [] => .ok ()
  | destination :: rest => do
    named none (checkDestination lowercase destination)
    checkDestinations rest

def checkRule (triage : Triage) (seen : List String) (rule : Rule) : Checked := do
  refuseIf (Text.trim rule.id = "") none .ruleIdIsEmpty
  refuseIf (maxLen < Text.count rule.id) (some rule.id) .ruleIdTooLong
  refuseIf (rule.id ∈ seen) (some rule.id) .duplicateRuleId
  named (some rule.id) rule.matching.check
  named (some rule.id) (checkDestination lowercase rule.destination)
  refuseIf (triage.allows rule.destination = false) (some rule.id) .destinationNotAllowed

def checkRules (triage : Triage) (seen : List String) : List Rule → Checked
  | [] => .ok ()
  | rule :: rest => do
    triage.checkRule lowercase seen rule
    triage.checkRules (rule.id :: seen) rest

/-- Checks the whole set at once: a rule is valid against this allowlist and not in the
abstract. -/
def check (triage : Triage) : Checked := do
  checkDestinations lowercase triage.destinations
  refuseIf (maxRules < triage.rules.length) none .tooManyRules
  triage.checkRules lowercase [] triage.rules

/-- What approving a proposed rule makes of a set: the rules of other ids, then the new one. -/
def adopt (triage : Triage) (rule : Rule) : Triage :=
  { triage with rules := (triage.rules.filter fun held => held.id != rule.id) ++ [rule] }

end Triage

/-! ### What a check says -/

/-- A rule that may stand in a set. -/
structure Rule.Admitted (lowercase : String → String) (triage : Triage) (rule : Rule) : Prop where
  identified : Text.trim rule.id ≠ ""
  short : Text.count rule.id ≤ maxLen
  matchChecked : rule.matching.check = .ok ()
  destinationChecked : checkDestination lowercase rule.destination = .ok ()
  declared : triage.allows rule.destination = true

/-- A set this deployment will apply. -/
structure Triage.Admitted (lowercase : String → String) (triage : Triage) : Prop where
  destinations : ∀ destination ∈ triage.destinations,
    checkDestination lowercase destination = .ok ()
  few : triage.rules.length ≤ maxRules
  rules : ∀ rule ∈ triage.rules, rule.Admitted lowercase triage
  distinct : (triage.rules.map Rule.id).Nodup

namespace Triage

variable {lowercase : String → String}

theorem bind_ok_iff {first : Checked} {rest : Unit → Checked} :
    (first >>= rest) = .ok () ↔ first = .ok () ∧ rest () = .ok () := by
  cases first with
  | error refusal => exact ⟨fun same => ⟨same, by cases same⟩, fun both => both.1⟩
  | ok value => exact ⟨fun same => ⟨rfl, same⟩, fun both => both.2⟩

theorem named_eq_ok_iff {about : Option String} {checked : Except Refusal Unit} :
    named about checked = .ok () ↔ checked = .ok () := by
  cases checked <;> simp [named]

theorem refuseIf_eq_ok_iff {condition : Prop} [Decidable condition] {about : Option String}
    {why : Refusal} : refuseIf condition about why = .ok () ↔ ¬condition := by
  by_cases holds : condition <;> simp [refuseIf, holds]

theorem checkDestinations_eq_ok_iff {destinations : List String} :
    checkDestinations lowercase destinations = .ok () ↔
      ∀ destination ∈ destinations, checkDestination lowercase destination = .ok () := by
  induction destinations with
  | nil => simp [checkDestinations]
  | cons destination rest inductionHypothesis =>
    rw [checkDestinations, bind_ok_iff, named_eq_ok_iff, inductionHypothesis,
      List.forall_mem_cons]

variable {triage : Triage}

theorem checkRule_eq_ok_iff {seen : List String} {rule : Rule} :
    triage.checkRule lowercase seen rule = .ok () ↔
      rule.Admitted lowercase triage ∧ rule.id ∉ seen := by
  unfold checkRule
  simp only [bind_ok_iff, named_eq_ok_iff, refuseIf_eq_ok_iff]
  constructor
  · rintro ⟨identified, short, fresh, matched, filed, declared⟩
    exact ⟨⟨identified, Nat.not_lt.mp short, matched, filed, by simpa using declared⟩, fresh⟩
  · rintro ⟨admitted, fresh⟩
    exact ⟨admitted.identified, Nat.not_lt.mpr admitted.short, fresh, admitted.matchChecked,
      admitted.destinationChecked, by simp [admitted.declared]⟩

theorem checkRules_eq_ok_iff {seen : List String} {rules : List Rule} :
    triage.checkRules lowercase seen rules = .ok () ↔
      (∀ rule ∈ rules, rule.Admitted lowercase triage ∧ rule.id ∉ seen) ∧
        (rules.map Rule.id).Nodup := by
  induction rules generalizing seen with
  | nil => simp [checkRules]
  | cons rule rest inductionHypothesis =>
    rw [checkRules, bind_ok_iff, checkRule_eq_ok_iff, inductionHypothesis, List.map_cons,
      List.nodup_cons, List.forall_mem_cons]
    constructor
    · rintro ⟨head, tail, distinct⟩
      refine ⟨⟨head, fun other member => ⟨(tail other member).1, fun was => ?_⟩⟩, ?_, distinct⟩
      · exact (tail other member).2 (List.mem_cons_of_mem _ was)
      · intro twice
        obtain ⟨other, member, same⟩ := List.mem_map.mp twice
        exact (tail other member).2 (same ▸ List.mem_cons_self)
    · rintro ⟨⟨head, tail⟩, fresh, distinct⟩
      refine ⟨head, fun other member => ⟨(tail other member).1, fun was => ?_⟩, distinct⟩
      rcases List.mem_cons.mp was with same | earlier
      · exact fresh (List.mem_map.mpr ⟨other, member, same⟩)
      · exact (tail other member).2 earlier

theorem check_eq_ok_iff (triage : Triage) :
    triage.check lowercase = .ok () ↔ triage.Admitted lowercase := by
  unfold check
  simp only [bind_ok_iff, refuseIf_eq_ok_iff, checkDestinations_eq_ok_iff, checkRules_eq_ok_iff]
  constructor
  · rintro ⟨destinations, few, rules, distinct⟩
    exact ⟨destinations, Nat.not_lt.mp few, fun rule member => (rules rule member).1, distinct⟩
  · intro admitted
    exact ⟨admitted.destinations, Nat.not_lt.mpr admitted.few,
      fun rule member => ⟨admitted.rules rule member, List.not_mem_nil⟩, admitted.distinct⟩

theorem admitted_default : default.Admitted lowercase where
  destinations := fun _ member => absurd member List.not_mem_nil
  few := Nat.zero_le _
  rules := fun _ member => absurd member List.not_mem_nil
  distinct := List.nodup_nil

end Triage

/-! ### Documents -/

def Match.field : Match → String
  | sender _ => "sender"
  | subject _ => "subject"
  | listId _ => "list_id"
  | olderThanDays _ => "older_than_days"

def Match.value : Match → Json
  | sender value => .string value
  | subject value => .string value
  | listId value => .string value
  | olderThanDays days => .number days.toNat

/-- A number of days, where it fits the field. -/
def readDays (document : Json) : Option UInt32 :=
  document.asNat.bind fun days =>
    if days < UInt32.size then some (UInt32.ofNat days) else none

def Match.read (field : String) (value : Json) : Option Match :=
  if field = "sender" then value.asStr.map Match.sender
  else if field = "subject" then value.asStr.map Match.subject
  else if field = "list_id" then value.asStr.map Match.listId
  else if field = "older_than_days" then (readDays value).map Match.olderThanDays
  else none

theorem Match.read_value (found : Match) : Match.read found.field found.value = some found := by
  cases found with
  | sender value => rfl
  | subject value => rfl
  | listId value => rfl
  | olderThanDays days =>
    have fits : days.toNat < UInt32.size := days.toNat_lt
    simp [Match.read, Match.field, Match.value, readDays, fits]

def Rule.document (rule : Rule) : Json :=
  .object [("id", .string rule.id), ("field", .string rule.matching.field),
    ("value", rule.matching.value), ("destination", .string rule.destination)]

def Rule.read (document : Json) : Option Rule := do
  let id ← (← document.get? "id").asStr
  let field ← (← document.get? "field").asStr
  let found ← Match.read field (← document.get? "value")
  let destination ← (← document.get? "destination").asStr
  return ⟨id, found, destination⟩

theorem Rule.read_document (rule : Rule) : Rule.read rule.document = some rule := by
  simp [Rule.read, Rule.document, Json.get?, Json.lookup, Match.read_value]

def Triage.document (triage : Triage) : Json :=
  .object [("destinations", .array (triage.destinations.map Json.string)),
    ("rules", .array (triage.rules.map Rule.document))]

def Triage.readMembers (destinations rules : Json) : Option Triage := do
  let destinations ← (← destinations.asArray).mapM Json.asStr
  let rules ← (← rules.asArray).mapM Rule.read
  return ⟨destinations, rules⟩

/-- Reads a set, whose members stand by name or in order. -/
def Triage.read (document : Json) : Option Triage :=
  match document with
  | .array [destinations, rules] => Triage.readMembers destinations rules
  | .array _ => none
  | _ => do Triage.readMembers (← document.get? "destinations") (← document.get? "rules")

theorem mapM_map_of_left_inverse {Value : Type} (write : Value → Json)
    (read : Json → Option Value) (inverse : ∀ value, read (write value) = some value)
    (values : List Value) : (values.map write).mapM read = some values := by
  induction values with
  | nil => rfl
  | cons value rest inductionHypothesis =>
    rw [List.map_cons, List.mapM_cons, inverse, inductionHypothesis]
    rfl

theorem Triage.read_document (triage : Triage) : Triage.read triage.document = some triage := by
  have destinations := mapM_map_of_left_inverse Json.string Json.asStr (fun _ => rfl)
    triage.destinations
  have rules := mapM_map_of_left_inverse Rule.document Rule.read Rule.read_document triage.rules
  simp [Triage.read, Triage.document, Triage.readMembers, Json.get?, Json.lookup, destinations,
    rules]

end Twalk.MailRules
