/-
This file models the two writers of an approval and what the Gateway reads of them: the clerk's
`approve` of `clerk/src/gateway.rs` and the Companion's of `companion/src/lib/approvals/api.ts`.
Whatever the id and the text are, the request that is read is the gesture that was made, or the
refusal names what is wrong with it.
-/

import Twalk.ApprovalRequest

namespace Twalk.Approval

/-! ### What is sent -/

/-- The body the clerk sends: on Buzz a text is one the owner wrote. -/
def clerkApproval (suggestionId : String) (editedBody : Option String) : Json :=
  .object (("suggestion_event_id", .string suggestionId) :: (editedBody.map fun text =>
    ("final", Json.object [("body", .string text), ("written_by", .string "owner")])).toList)

/-- The body the Companion sends, with who wrote the text as the gesture tells. -/
def companionApproval (id : String) (edited : Option String) (writtenBy : WrittenBy) : Json :=
  .object (("suggestion_event_id", .string id) :: (edited.map fun text =>
    ("final", Json.object [("body", .string text), ("format", .string "text/plain"),
      ("written_by", .string writtenBy.asStr)])).toList)

/-- What the Gateway reads of an approval is the gesture that was made. -/
structure ReadsGesture (id : String) (edited : Option String) (writtenBy : WrittenBy)
    (answer : Except Invalid Request) : Prop where
  taken : ∀ request, answer = .ok request ↔
    (isEventId id = true ∧ ∀ text ∈ edited, text ≠ "" ∧ Text.count text ≤ maxBody) ∧
      request.suggestionEventId = id ∧ request.approvedBy = none ∧
        request.edited = edited.map (⟨·, .plain⟩) ∧
          request.writtenBy = if edited.isSome then writtenBy else .persona
  refused : ∀ invalid, answer = .error invalid ↔
    (isEventId id = false ∧ invalid = .suggestionNotAnEventId id) ∨
      isEventId id = true ∧ ∃ text ∈ edited,
        (text = "" ∧ invalid = .emptyFinalBody) ∨
          (maxBody < Text.count text ∧ invalid = .finalBodyTooLong (Text.count text))

/-! ### What is read -/

/-- What is read of a text in plain format: its two refusals, and its writer. -/
def plainFinal (text : String) (writtenBy : WrittenBy) : Except Invalid Final :=
  if nonempty : text = "" then .error .emptyFinalBody
  else if bounded : Text.count text ≤ maxBody then
    .ok ⟨⟨text, .plain⟩, writtenBy, nonempty, bounded⟩
  else .error (.finalBodyTooLong (Text.count text))

theorem parseWrittenBy_asStr (writtenBy : WrittenBy) :
    parseWrittenBy (some (.string writtenBy.asStr)) = .ok writtenBy := by
  cases writtenBy <;> rfl

/-- The clerk leaves the format out, which is the plain one. -/
theorem parseContent_clerk (text : String) :
    parseContent (.object [("body", .string text), ("written_by", .string "owner")]) =
      plainFinal text .owner :=
  rfl

theorem parseContent_companion (text : String) (writtenBy : WrittenBy) :
    parseContent (.object [("body", .string text), ("format", .string "text/plain"),
      ("written_by", .string writtenBy.asStr)]) = plainFinal text writtenBy := by
  unfold parseContent
  dsimp only
  rw [show unknownMember ["body", "format", "written_by"] [("body", .string text),
    ("format", .string "text/plain"), ("written_by", .string writtenBy.asStr)] = none from rfl]
  dsimp only
  rw [show (Json.object [("body", .string text), ("format", .string "text/plain"),
      ("written_by", .string writtenBy.asStr)]).get? "written_by" =
    some (.string writtenBy.asStr) from rfl, parseWrittenBy_asStr]
  rfl

theorem plainFinal_eq_ok_iff {text : String} {writtenBy : WrittenBy} {final : Final} :
    plainFinal text writtenBy = .ok final ↔
      final.content = ⟨text, .plain⟩ ∧ final.writtenBy = writtenBy := by
  obtain ⟨content, writer, nonempty, bounded⟩ := final
  unfold plainFinal
  constructor
  · intro taken
    split_ifs at taken with empty short
    cases taken
    exact ⟨rfl, rfl⟩
  · rintro ⟨isText, isWriter⟩
    dsimp only at isText isWriter
    subst isText isWriter
    rw [dif_neg nonempty, dif_pos bounded]

theorem plainFinal_eq_error_iff {text : String} {writtenBy : WrittenBy} {invalid : Invalid} :
    plainFinal text writtenBy = .error invalid ↔ (text = "" ∧ invalid = .emptyFinalBody) ∨
      (maxBody < Text.count text ∧ invalid = .finalBodyTooLong (Text.count text)) := by
  unfold plainFinal
  by_cases empty : text = ""
  · have isShort : ¬maxBody < Text.count "" := Nat.not_lt_zero _
    rw [dif_pos empty]
    simp [empty, isShort, eq_comm]
  · rw [dif_neg empty]
    by_cases bounded : Text.count text ≤ maxBody
    · simp [empty, bounded, Nat.not_lt.mpr bounded]
    · simp [empty, bounded, Nat.not_le.mp bounded, eq_comm]

theorem of_eq_iff {suggestion : { id : String // isEventId id = true }} {approvedBy : Option String}
    {final : Option Final} {request : Request} :
    Request.of suggestion approvedBy final = request ↔
      request.suggestionEventId = suggestion.1 ∧ request.approvedBy = approvedBy ∧
        request.edited = final.map Final.content ∧
          request.writtenBy = (final.map Final.writtenBy).getD .persona := by
  obtain ⟨id, approver, edited, writer, named, nonempty, bounded, claimed⟩ := request
  cases final <;> simp [Request.of, eq_comm]

theorem parse_approval (id : String) (edited : Option String) (final : String → Json) :
    Request.parse (.object (("suggestion_event_id", .string id) ::
      (edited.map fun text => ("final", final text)).toList)) =
      (parseSuggestionEventId (some (.string id))).bind fun suggestion =>
        (parseFinal (edited.map final)).map (Request.of suggestion none) := by
  cases edited <;> rfl

/-- A gesture is read as itself whatever body carries its text, where the text is read whole. -/
theorem readsGesture_of_final {final : String → Json} {writtenBy : WrittenBy}
    (parsed : ∀ text, parseFinal (some (final text)) = (plainFinal text writtenBy).map some)
    (id : String) (edited : Option String) :
    ReadsGesture id edited writtenBy (Request.parse (.object (("suggestion_event_id", .string id) ::
      (edited.map fun text => ("final", final text)).toList))) := by
  rw [parse_approval]
  by_cases named : isEventId id = true
  · rw [show parseSuggestionEventId (some (.string id)) = .ok ⟨id, named⟩ from dif_pos named]
    cases edited with
    | none =>
      refine ⟨fun request => ?_, fun invalid => ?_⟩
      · show Except.ok _ = Except.ok request ↔ _
        simp [of_eq_iff, named]
      · show Except.ok _ = Except.error invalid ↔ _
        simp [named]
    | some text =>
      show ReadsGesture id (some text) writtenBy ((parseFinal (some (final text))).map _)
      rw [parsed text]
      cases read : plainFinal text writtenBy with
      | ok written =>
        obtain ⟨isText, isWriter⟩ := plainFinal_eq_ok_iff.mp read
        have nonempty : text ≠ "" := fun empty => written.nonempty (by rw [isText]; exact empty)
        have bounded : Text.count text ≤ maxBody := by
          have bound := written.bounded
          rwa [isText] at bound
        refine ⟨fun request => ?_, fun invalid => ?_⟩
        · show Except.ok _ = Except.ok request ↔ _
          simp [of_eq_iff, named, nonempty, bounded, isText, isWriter]
        · show Except.ok _ = Except.error invalid ↔ _
          simp [named, nonempty, Nat.not_lt.mpr bounded]
      | error refusal =>
        have refused := plainFinal_eq_error_iff.mp read
        refine ⟨fun request => ?_, fun invalid => ?_⟩
        · show Except.error _ = Except.ok request ↔ _
          refine ⟨nofun, fun taken => ?_⟩
          obtain ⟨nonempty, bounded⟩ := taken.1.2 text rfl
          rcases refused with ⟨empty, -⟩ | ⟨long, -⟩
          · exact absurd empty nonempty
          · exact absurd bounded (Nat.not_le.mpr long)
        · show Except.error refusal = Except.error invalid ↔ _
          rw [show (Except.error refusal : Except Invalid Request) = .error invalid ↔
            plainFinal text writtenBy = .error invalid by rw [read]; simp, plainFinal_eq_error_iff]
          simp [named]
  · rw [show parseSuggestionEventId (some (.string id)) = .error (.suggestionNotAnEventId id) from
      dif_neg named]
    refine ⟨fun request => ?_, fun invalid => ?_⟩
    · show Except.error _ = Except.ok request ↔ _
      simp [named]
    · show Except.error _ = Except.error invalid ↔ _
      simp [named, eq_comm]

/-- What the clerk and the Companion send is read as the gesture that was made. -/
theorem gestures_read (id : String) (edited : Option String) :
    ReadsGesture id edited .owner (Request.parse (clerkApproval id edited)) ∧ ∀ writtenBy,
      ReadsGesture id edited writtenBy (Request.parse (companionApproval id edited writtenBy)) := by
  refine ⟨?_, fun writtenBy => ?_⟩
  · refine readsGesture_of_final (fun text => ?_) id edited
    exact congrArg (Except.map some) (parseContent_clerk text)
  · refine readsGesture_of_final (fun text => ?_) id edited
    exact congrArg (Except.map some) (parseContent_companion text writtenBy)

end Twalk.Approval
