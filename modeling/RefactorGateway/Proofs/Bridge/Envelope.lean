import RefactorGateway.Proofs.Bridge.Classification
import RefactorGateway.Proofs.Json.Accepted
import RefactorGateway.Proofs.Json.Members
import RefactorGateway.Proofs.Wire.RoundTrip
import RefactorGateway.Proofs.Wire.Reading
/-!
# What the bridge says of a failure

A failure is explained by an object with a message and perhaps details.  It is read in two places,
next to a status of success and next to any other, and both come to the same.

## Main Definitions

* `Stands`: a text stands for a document
* `ReportsFailure`: an object explains a failure, among whatever else it says
* `Words`, `FlagFits`: what an object says under a name, and that its `success` member fits

## Main Statements

* `read_of_stands`: a text that stands for a document is read as that document
* `Envelope.decodeMembers_eq_ok_iff`: what is read of an object as the words of a rejection
* `ReportsFailure.conclude`: what a reply with an explanation comes to

## Design Notes

`ReportsFailure` is said of the members by their names.  The order of the members and all members of
other names are left open by that, and nothing else is.
-/

namespace RefactorGateway.Bridge

open Http (Reply)
open Json
open Wire (Shape Fields Field Codec)

/-- A text stands for a document: it is the compact text of the document and some JSON, or it is
read as the document however it is spelled. -/
def Stands (text : String) (d : Document) : Prop :=
  (text = d.text ∧ ∃ d', Document.read text = .ok d') ∨ Document.read text = .ok d

/-- An object explains a failure: no name stands in it twice, the message is there, the details are
there, or are missing or null if there are none, and success is not spoken of or is this. -/
structure ReportsFailure (members : List (String × Document)) (success : Option Bool)
    (message : String) (details : Option String) : Prop where
  distinct : (members.map (·.1)).Nodup
  success : Members.get? "success" members = success.map .bool
  message : Members.get? "error" members = some (.string message)
  details : Members.get? "details" members = details.map .string ∨
    details = none ∧ Members.get? "details" members = some .null

theorem read_of_stands {text : String} {d : Document} (stands : Stands text d) :
    Document.read text = .ok d := by
  rcases stands with ⟨rfl, d', accepted⟩ | read
  · -- what is accepted of a compact text is the document that it is the text of
    obtain ⟨-, rfl⟩ := Document.read_text_eq_ok_iff.1 accepted
    exact accepted
  · exact read

/-- A body that stands for an object has what the members of the object stand for. -/
theorem hasObject_of_stands {reply : Reply} {members : List (String × Document)}
    (stands : Stands (bodyText reply) (.object members)) :
    HasObject reply (Members.sorted (Document.memberValues members)) := by
  rw [HasObject, Json.read, read_of_stands stands]
  rfl

/-! ### Reading an explanation -/

/-- An object has these words under a name: a text, or none if the member is missing or null. -/
def Words (name : String) (members : List (String × Json)) (words : Option String) : Prop :=
  Members.get? name members = words.map .string ∨
    words = none ∧ Members.get? name members = some .null

/-- The `success` member of an object is missing or is a truth value. -/
def FlagFits (members : List (String × Json)) : Prop :=
  Members.get? "success" members = none ∨ ∃ b, Members.get? "success" members = some (.bool b)

theorem gather_words_iff {name : String} {members : List (String × Json)} {words : Option String} :
    (Field.nullable name Codec.text).gather members = .ok words ↔ Words name members words := by
  rw [Field.gather_nullable_iff, Words]
  cases Members.get? name members with
  | none => cases words <;> simp
  | some j =>
    simp only [Codec.decode_option_iff, Codec.decode_text_iff]
    cases words <;> cases j <;> simp

/-- An envelope is read of an object just if each of its three members fits.  Whatever else the
object has is let through. -/
theorem Envelope.decodeMembers_eq_ok_iff {members : List (String × Json)}
    (distinct : (members.map (·.1)).Nodup) {envelope : Envelope} :
    Envelope.shape.decodeMembers members = .ok envelope ↔
      (Members.get? "success" members).getD (.bool false) = .bool envelope.success ∧
        Words "error" members envelope.error ∧ Words "details" members envelope.details := by
  rw [Shape.decodeMembers_iff_of_lenient rfl distinct, ← gather_words_iff, ← gather_words_iff,
    ← Field.gather_flag_iff]
  constructor
  · intro gathered
    obtain ⟨flag, gathered⟩ := Fields.gather_cons_iff.1 gathered
    obtain ⟨error, gathered⟩ := Fields.gather_cons_iff.1 gathered
    exact ⟨flag, error, (Fields.gather_cons_iff.1 gathered).1⟩
  · rintro ⟨flag, error, details⟩
    exact Fields.gather_cons_iff.2 ⟨flag, Fields.gather_cons_iff.2 ⟨error,
      Fields.gather_cons_iff.2 ⟨details, rfl⟩⟩⟩

/-! ### Replies with an explanation -/

namespace ReportsFailure

variable {members : List (String × Document)} {success : Option Bool} {message : String}
  {details : Option String} {reply : Reply}

/-- What the members of an explanation stand for. -/
def values (members : List (String × Document)) : List (String × Json) :=
  Members.sorted (Document.memberValues members)

theorem get?_values (reports : ReportsFailure members success message details) (name : String) :
    Members.get? name (values members) = (Members.get? name members).map Document.value := by
  have distinct : ((Document.memberValues members).map (·.1)).Nodup := by
    rw [Document.names_memberValues]
    exact reports.distinct
  rw [values, Members.get?_sorted distinct, Document.get?_memberValues]

/-- The explanation is read as it is meant. -/
theorem decodeMembers_values (reports : ReportsFailure members success message details) :
    Envelope.shape.decodeMembers (values members) =
      .ok ⟨success.getD false, some message, details⟩ := by
  have distinct : ((values members).map (·.1)).Nodup := (Members.ordered_sorted _).nodup
  refine (Envelope.decodeMembers_eq_ok_iff distinct).2 ⟨?_, .inl ?_, ?_⟩
  · rw [reports.get?_values, reports.success]
    cases success <;> rfl
  · rw [reports.get?_values, reports.message]
    rfl
  · rw [Words, reports.get?_values]
    rcases reports.details with given | ⟨none, null⟩
    · rw [given, Option.map_map]
      exact .inl rfl
    · rw [null]
      exact .inr ⟨none, rfl⟩

/-- An object that explains a failure and denies success comes to that failure. -/
theorem denial_values (reports : ReportsFailure members success message details) :
    denial (values members) = .application message details := by
  unfold denial
  rw [reports.decodeMembers_values]
  rfl

/-- Next to a status that is no success, an explanation comes to the failure as well. -/
theorem rejection_eq (reports : ReportsFailure members success message details) {text : String}
    (stands : Stands text (.object members)) (status : Nat) :
    rejection status text = .application message details := by
  have read := read_of_stands stands
  have object : Json.read text = .ok (.object (values members)) := by
    rw [Json.read, read]
    rfl
  unfold rejection
  simp only [Json.not_allBlank_of_read read, Bool.false_eq_true, if_false, object,
    reports.decodeMembers_values, Option.getD_some]

/-- A reply that explains a failure, next to any status but one of success or with a denial of
success, comes to the failure. -/
theorem conclude (reports : ReportsFailure members success message details)
    (stands : Stands (bodyText reply) (.object members))
    (denied : success = some false ∨ ¬ Http.isSuccess reply.status = true) (e : Endpoint) :
    e.conclude reply = .error (.application message details) := by
  by_cases status : Http.isSuccess reply.status = true
  · have object : HasObject reply (values members) := hasObject_of_stands stands
    have denies : Denies (values members) := by
      rw [Denies, reports.get?_values, reports.success,
        denied.resolve_right (not_not_intro status)]
      rfl
    rw [conclude_of_denied status object denies, reports.denial_values]
  · rw [conclude_of_not_success status, reports.rejection_eq stands]

end ReportsFailure

end RefactorGateway.Bridge
