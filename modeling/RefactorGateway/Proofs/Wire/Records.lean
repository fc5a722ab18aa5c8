import RefactorGateway.Proofs.Wire.RoundTrip
import RefactorGateway.Tool.Basic
/-!
# The records of the gateway

All records that are exchanged with the bridge or with a caller of a tool keep their value on the
way through a text: parsing the text and reading the record gives the value that was written.

## Main Definitions

* `WireRecord`: the record types of the gateway
* `WireRecord.Value`, `WireRecord.shape`: the values of each and how they are written

## Main Statements

* `WireRecord.faithful`: each of them reads back what it writes
* `WireRecord.decode_read_text`: the round trip through a text

## Design Notes

No record nests brackets deeper than three: an object, a list in it, and the objects of the list.
So a bound of two on what is inside serves them all.
-/

namespace RefactorGateway

open Wire

namespace Bridge

/-! ### Entities -/

theorem FileChange.faithful : FileChange.shape.Faithful 0 :=
  ⟨by decide, by simp [FileChange.shape, Fields.Faithful]⟩

theorem ProjectInfo.faithful : ProjectInfo.shape.Faithful 0 :=
  ⟨by decide, by simp [ProjectInfo.shape, Fields.Faithful]⟩

theorem UsageInfo.faithful : UsageInfo.shape.Faithful 0 :=
  ⟨by decide, by simp [UsageInfo.shape, Fields.Faithful]⟩

theorem ParameterInfo.faithful : ParameterInfo.shape.Faithful 0 :=
  ⟨by decide, by simp [ParameterInfo.shape, Fields.Faithful]⟩

theorem Envelope.faithful : Envelope.shape.Faithful 0 :=
  ⟨by decide, by simp [Envelope.shape, Fields.Faithful]⟩

/-- A list of faithful records is a faithful field. -/
theorem faithful_records {ρ : Type} {s : Shape ρ} (faithful : s.Faithful 0) :
    (Codec.list s.codec).Faithful 2 :=
  Codec.faithful_list (Shape.faithful_codec faithful)

/-! ### Messages -/

@[simp] theorem faithful_successField : successField.Faithful 2 :=
  Field.faithful_defaulted Codec.faithful_flag

@[simp] theorem faithful_changesField : changesField.Faithful 2 :=
  Field.faithful_required (faithful_records FileChange.faithful)

theorem Endpoint.nodup_response (e : Endpoint) : e.response.fields.names.Nodup := by
  cases e <;> decide

theorem Endpoint.faithful_response (e : Endpoint) : e.response.Faithful 2 := by
  have projects := faithful_records ProjectInfo.faithful
  have usages := faithful_records UsageInfo.faithful
  have names : (Codec.list Codec.text).Faithful 2 := Codec.faithful_list Codec.faithful_text
  refine ⟨e.nodup_response, ?_⟩
  cases e with
  | health => simp [response, HealthResponse.shape, Fields.Faithful]
  | projects => simp [response, ProjectListResponse.shape, Fields.Faithful, projects]
  | rename => simp [response, RenameResponse.shape, Fields.Faithful]
  | move => simp [response, MoveResponse.shape, Fields.Faithful]
  | extractMethod => simp [response, ExtractMethodResponse.shape, Fields.Faithful, names]
  | extractVariable => simp [response, ExtractVariableResponse.shape, Fields.Faithful]
  | inline => simp [response, InlineResponse.shape, Fields.Faithful]
  | changeSignature => simp [response, ChangeSignatureResponse.shape, Fields.Faithful]
  | safeDelete => simp [response, SafeDeleteResponse.shape, Fields.Faithful, usages]
  | findUsages => simp [response, FindUsagesResponse.shape, Fields.Faithful, usages]

theorem Endpoint.nodup_request {e : Endpoint} {s : Shape e.Request}
    (posted : e.request? = some s) : s.fields.names.Nodup := by
  cases e <;> cases posted <;> decide

theorem Endpoint.faithful_request {e : Endpoint} {s : Shape e.Request}
    (posted : e.request? = some s) : s.Faithful 2 := by
  have parameters := faithful_records ParameterInfo.faithful
  refine ⟨nodup_request posted, ?_⟩
  cases e with
  | health => cases posted
  | projects => cases posted
  | rename =>
    cases posted
    simp [RenameRequest.shape, Fields.Faithful]
  | move =>
    cases posted
    simp [MoveRequest.shape, Fields.Faithful]
  | extractMethod =>
    cases posted
    simp [ExtractMethodRequest.shape, Fields.Faithful]
  | extractVariable =>
    cases posted
    simp [ExtractVariableRequest.shape, Fields.Faithful]
  | inline =>
    cases posted
    simp [InlineRequest.shape, Fields.Faithful]
  | changeSignature =>
    cases posted
    simp [ChangeSignatureRequest.shape, Fields.Faithful, parameters]
  | safeDelete =>
    cases posted
    simp [SafeDeleteRequest.shape, Fields.Faithful]
  | findUsages =>
    cases posted
    simp [FindUsagesRequest.shape, Fields.Faithful]

end Bridge

open Bridge

theorem Tool.nodup_shape (t : Tool) : t.shape.fields.names.Nodup := by
  cases t <;> decide

theorem Tool.faithful_shape (t : Tool) : t.shape.Faithful 2 := by
  have parameters := faithful_records ParameterInfo.faithful
  refine ⟨t.nodup_shape, ?_⟩
  cases t with
  | listProjects => trivial
  | bridgeStatus => trivial
  | renameSymbol => simp [shape, RenameArguments.shape, Fields.Faithful]
  | moveElement => simp [shape, MoveArguments.shape, Fields.Faithful]
  | extractMethod => simp [shape, ExtractMethodArguments.shape, Fields.Faithful]
  | extractVariable => simp [shape, ExtractVariableArguments.shape, Fields.Faithful]
  | inlineElement => simp [shape, InlineArguments.shape, Fields.Faithful]
  | changeSignature => simp [shape, ChangeSignatureArguments.shape, Fields.Faithful, parameters]
  | safeDelete => simp [shape, SafeDeleteArguments.shape, Fields.Faithful]
  | findUsages => simp [shape, FindUsagesArguments.shape, Fields.Faithful]

/-! ### All records -/

/-- The record types that the gateway writes and reads. -/
inductive WireRecord
  | fileChange
  | projectInfo
  | usageInfo
  | parameterInfo
  | envelope
  | response (e : Endpoint)
  /-- A request of an operation that has one. -/
  | request (e : Endpoint) (posted : e.request?.isSome)
  | arguments (t : Tool)

namespace WireRecord

/-- The values of a record type. -/
def Value : WireRecord → Type
  | .fileChange => FileChange
  | .projectInfo => ProjectInfo
  | .usageInfo => UsageInfo
  | .parameterInfo => ParameterInfo
  | .envelope => Envelope
  | .response e => e.Response
  | .request e _ => e.Request
  | .arguments t => t.Arguments

/-- How the values of a record type are written. -/
def shape : (w : WireRecord) → Shape w.Value
  | .fileChange => FileChange.shape
  | .projectInfo => ProjectInfo.shape
  | .usageInfo => UsageInfo.shape
  | .parameterInfo => ParameterInfo.shape
  | .envelope => Envelope.shape
  | .response e => e.response
  | .request e posted => e.request?.get posted
  | .arguments t => t.shape

/-- Every record type of the gateway reads back what it writes. -/
theorem faithful (w : WireRecord) : ∃ levels, levels < Json.nestingLimit ∧
    w.shape.Faithful levels := by
  cases w with
  | fileChange => exact ⟨0, by decide, FileChange.faithful⟩
  | projectInfo => exact ⟨0, by decide, ProjectInfo.faithful⟩
  | usageInfo => exact ⟨0, by decide, UsageInfo.faithful⟩
  | parameterInfo => exact ⟨0, by decide, ParameterInfo.faithful⟩
  | envelope => exact ⟨0, by decide, Envelope.faithful⟩
  | response e => exact ⟨2, by decide, Endpoint.faithful_response e⟩
  | request e posted =>
    exact ⟨2, by decide, Endpoint.faithful_request (Option.some_get posted).symm⟩
  | arguments t => exact ⟨2, by decide, Tool.faithful_shape t⟩

theorem exists_read_text (w : WireRecord) (v : w.Value) :
    ∃ j, Json.read (w.shape.text v) = .ok j ∧ w.shape.decode j = .ok v := by
  obtain ⟨levels, within, faithful⟩ := w.faithful
  exact ⟨(w.shape.encode v).value, Shape.read_text faithful within v,
    Shape.decode_encode faithful v⟩

/-- **The round trip through a text.**  For every record type and every value of it, parsing the
text of the value succeeds and reading the record gives exactly that value.  So no two values share
a text: a member that is missing, one that is null and one that is empty stay apart as far as their
values do. -/
theorem decode_read_text (w : WireRecord) (v : w.Value) :
    (∃ j, Json.read (w.shape.text v) = .ok j ∧ w.shape.decode j = .ok v) ∧
      ∀ v' : w.Value, w.shape.text v' = w.shape.text v → v' = v := by
  refine ⟨exists_read_text w v, fun v' same => ?_⟩
  obtain ⟨j, read, back⟩ := exists_read_text w v
  obtain ⟨j', read', back'⟩ := exists_read_text w v'
  rw [same, read] at read'
  cases read'
  rw [back] at back'
  cases back'
  rfl

end WireRecord

end RefactorGateway
