/-
This file models the request half of `companion-gateway/src/approval.rs`: the
content of a reply, who wrote it, and the request that approves one suggestion.
A request holds what its parser has checked: it names one suggestion by a
contract event id, an edited body is not empty and leaves room for the line the
disclosure is appended on, and only a text of its own can be claimed by the owner.
-/

import Twalk.Library.Fallible
import Twalk.Library.Json
import Twalk.Library.Text

namespace Twalk.Approval

/-! ### Content -/

/-- The contract's cap on `final.body`. -/
def contractMaxBody : Nat := 65536

/-- The contract's cap on `data.disclosure`. -/
def maxDisclosure : Nat := 200

def maxBody : Nat := contractMaxBody - 1 - maxDisclosure

inductive Format where
  | plain | markdown | html
deriving DecidableEq, Repr

namespace Format

def asStr : Format → String
  | plain => "text/plain"
  | markdown => "text/markdown"
  | html => "text/html"

def parse (value : String) : Option Format :=
  [plain, markdown, html].find? fun format => format.asStr == value

@[simp] theorem parse_asStr (format : Format) : parse format.asStr = some format := by
  cases format <;> decide

end Format

structure Content where
  body : String
  format : Format
deriving DecidableEq, Repr

/-- Who wrote the text going out, as the gesture that sends it declares. -/
inductive WrittenBy where
  | persona | owner
deriving DecidableEq, Repr

namespace WrittenBy

def asStr : WrittenBy → String
  | persona => "persona"
  | owner => "owner"

def parse (value : String) : Option WrittenBy :=
  [persona, owner].find? fun writer => writer.asStr == value

end WrittenBy

/-! ### The request -/

def isEventId (value : String) : Bool :=
  value.utf8ByteSize == 64 &&
    value.toList.all fun character =>
      character.isDigit || (0x61 ≤ character.toNat && character.toNat ≤ 0x66)

/-- What is wrong with a request. A value that is refused is kept as it was given. -/
inductive Invalid where
  | notAnObject
  | batch
  | unknownMember (member : String)
  | missingSuggestion
  | suggestionNotAnEventId (value : String)
  | approvedByNotAString
  | finalNotAnObject
  | missingFinalBody
  | emptyFinalBody
  | finalBodyTooLong (length : Nat)
  | unknownFormat (value : Json)
  | unknownWrittenBy (value : Json)

def Invalid.code : Invalid → String
  | batch => "approval_is_not_a_batch"
  | unknownFormat _ => "unknown_value"
  | unknownWrittenBy _ => "unknown_value"
  | _ => "malformed_request"

/-- The `final` member: what is sent in place of the draft, and who wrote it. -/
structure Final where
  content : Content
  writtenBy : WrittenBy
  nonempty : content.body ≠ ""
  bounded : Text.count content.body ≤ maxBody

structure Request where
  suggestionEventId : String
  approvedBy : Option String
  edited : Option Content
  writtenBy : WrittenBy
  named : isEventId suggestionEventId = true
  nonempty : ∀ content ∈ edited, content.body ≠ ""
  bounded : ∀ content ∈ edited, Text.count content.body ≤ maxBody
  claimed : edited = none → writtenBy = .persona

/-! ### Parsing -/

/-- The first member an object must not have. -/
def unknownMember (known : List String) (members : List (String × Json)) : Option String :=
  (members.find? fun member => !known.contains member.1).map Prod.fst

def parseWrittenBy : Option Json → Except Invalid WrittenBy
  | none => .ok .persona
  | some .null => .ok .persona
  | some value =>
    match value.asStr.bind WrittenBy.parse with
    | some writer => .ok writer
    | none => .error (.unknownWrittenBy value)

def parseFormat : Option Json → Except Invalid Format
  | none => .ok .plain
  | some value =>
    match value.asStr.bind Format.parse with
    | some format => .ok format
    | none => .error (.unknownFormat value)

def parseContent (value : Json) : Except Invalid Final :=
  match value with
  | .object members => do
    match unknownMember ["body", "format", "written_by"] members with
    | some member => .error (.unknownMember s!"final.{member}")
    | none =>
      let writtenBy ← parseWrittenBy (value.get? "written_by")
      match (value.get? "body").bind Json.asStr with
      | none => .error .missingFinalBody
      | some body =>
        if nonempty : body = "" then .error .emptyFinalBody
        else if bounded : Text.count body ≤ maxBody then do
          let format ← parseFormat (value.get? "format")
          return ⟨⟨body, format⟩, writtenBy, nonempty, bounded⟩
        else .error (.finalBodyTooLong (Text.count body))
  | _ => .error .finalNotAnObject

def parseSuggestionEventId : Option Json → Except Invalid { id : String // isEventId id = true }
  | none => .error .missingSuggestion
  | some (.array _) => .error .batch
  | some value =>
    match value.asStr with
    | none => .error .missingSuggestion
    | some id => if named : isEventId id = true then .ok ⟨id, named⟩
      else .error (.suggestionNotAnEventId id)

def parseApprovedBy : Option Json → Except Invalid (Option String)
  | none => .ok none
  | some .null => .ok none
  | some (.string value) => .ok (some value)
  | some _ => .error .approvedByNotAString

def parseFinal : Option Json → Except Invalid (Option Final)
  | none => .ok none
  | some .null => .ok none
  | some value => (parseContent value).map some

def Request.of (suggestion : { id : String // isEventId id = true })
    (approvedBy : Option String) : Option Final → Request
  | none => ⟨suggestion.1, approvedBy, none, .persona, suggestion.2, by simp, by simp,
      fun _ => rfl⟩
  | some final => ⟨suggestion.1, approvedBy, some final.content, final.writtenBy, suggestion.2,
      by simpa using final.nonempty, by simpa using final.bounded,
      fun impossible => absurd impossible (Option.some_ne_none _)⟩

def Request.parse (body : Json) : Except Invalid Request :=
  match body with
  | .array _ => .error .batch
  | .object members => do
    match unknownMember ["suggestion_event_id", "approved_by", "final"] members with
    | some member => .error (.unknownMember member)
    | none =>
      let suggestion ← parseSuggestionEventId (body.get? "suggestion_event_id")
      let approvedBy ← parseApprovedBy (body.get? "approved_by")
      let final ← parseFinal (body.get? "final")
      return Request.of suggestion approvedBy final
  | _ => .error .notAnObject

/-! ### What a parsed request says -/

theorem count_eq_zero_iff {text : String} : Text.count text = 0 ↔ text = "" := by
  unfold Text.count
  rw [List.length_eq_zero_iff]
  exact ⟨fun none => String.toList_inj.mp (none.trans rfl), fun empty => by rw [empty]; rfl⟩

theorem Request.edited_bounds (request : Request) {content : Content}
    (edited : request.edited = some content) :
    1 ≤ Text.count content.body ∧ Text.count content.body ≤ maxBody := by
  refine ⟨Nat.one_le_iff_ne_zero.mpr fun none => ?_, request.bounded content edited⟩
  exact request.nonempty content edited (count_eq_zero_iff.mp none)

end Twalk.Approval
