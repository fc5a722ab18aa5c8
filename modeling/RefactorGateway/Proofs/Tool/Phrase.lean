import RefactorGateway.Proofs.Text.Beginning
import RefactorGateway.Proofs.Tool.Outcome
import RefactorGateway.Proofs.Wire.Records
/-!
# How reports begin

A report is all that a caller gets to see of a call that was answered, also if the call failed.  Its
first words tell a failure from a preview and from a refactoring that was carried out, and no name,
symbol or message can make a report begin like one of another kind.

## Main Definitions

* `Phrase`: the words by which reports are told apart
* `Opens`: a text begins with a phrase, or with something that no phrase agrees with
* `Tool.preview?`: whether a tool is to show what it would do, for the tools that can
* `Tool.Deletes`: a response says that the element is gone
* `Tool.phrase?`: the phrase of a report, said of the arguments and the response

## Main Statements

* `Opens.startsWith_iff`: a text begins with one phrase at most
* `Tool.opens_report`, `opens_failure`: what the phrase of a report is
* `Tool.preview_sent`: what the bridge is told of a preview
* `Tool.report_tells`: what a report says by its phrase

## Design Notes

The texts that come from elsewhere stand behind words of the report, so what they are does not
matter.  That a report agrees with no phrase is a fact about these words too, and `Apart` keeps it
for whatever follows.
-/

namespace RefactorGateway

open Bridge Http Report
open Text (Apart startsWith_append_of_startsWith startsWith_or_startsWith)

/-! ### Phrases -/

/-- What a report is told by. -/
inductive Phrase
  /-- The bridge was out of reach, or rejected the operation. -/
  | failed
  /-- The refactoring was not carried out, and this is what it would do. -/
  | previewed
  /-- The refactoring was carried out. -/
  | done
  deriving DecidableEq

/-- The words of a phrase. -/
def Phrase.words : Phrase → String
  | .failed => "Error: "
  | .previewed => "Preview: "
  | .done => "Successfully "

/-- The phrase of a refactoring that is only shown, or that is carried out. -/
def Phrase.ofPreview (preview : Bool) : Phrase := if preview then .previewed else .done

/-- A text begins with a phrase, or with something that agrees with none. -/
def Opens : Option Phrase → String → Prop
  | some phrase, text => text.startsWith phrase.words = true
  | none, text => Apart "Error: " text ∧ Apart "Preview: " text ∧ Apart "Successfully " text

instance : (phrase : Option Phrase) → (text : String) → Decidable (Opens phrase text)
  | some phrase, text => inferInstanceAs (Decidable (text.startsWith phrase.words = true))
  | none, text => inferInstanceAs (Decidable (Apart _ text ∧ Apart _ text ∧ Apart _ text))

theorem Phrase.apart {phrase phrase' : Phrase} (other : phrase ≠ phrase') :
    Apart phrase.words phrase'.words := by
  cases phrase <;> cases phrase' <;> first | exact absurd rfl other | decide +kernel

/-- What stands behind a text does not change how it begins. -/
theorem Opens.append {phrase : Option Phrase} {first : String} (opens : Opens phrase first)
    (rest : String) : Opens phrase (first ++ rest) := by
  cases phrase with
  | some phrase => exact startsWith_append_of_startsWith opens rest
  | none =>
    obtain ⟨no_failure, no_preview, no_success⟩ := opens
    exact ⟨no_failure.append rest, no_preview.append rest, no_success.append rest⟩

/-- A text begins with its phrase and with no other. -/
theorem Opens.startsWith_iff {phrase : Option Phrase} {text : String} (opens : Opens phrase text)
    (p : Phrase) : text.startsWith p.words = true ↔ phrase = some p := by
  cases phrase with
  | none =>
    obtain ⟨no_failure, no_preview, no_success⟩ := opens
    have no_phrase : text.startsWith p.words = false := by
      cases p with
      | failed => exact no_failure.1
      | previewed => exact no_preview.1
      | done => exact no_success.1
    rw [no_phrase]
    exact ⟨nofun, nofun⟩
  | some phrase =>
    constructor
    · intro begins
      by_cases same : p = phrase
      · rw [same]
      · obtain ⟨no_start, no_continuation⟩ := Phrase.apart same
        rcases startsWith_or_startsWith begins opens with one | one
        · rw [no_start] at one
          cases one
        · rw [no_continuation] at one
          cases one
    · intro same
      rw [← Option.some.inj same]
      exact opens

/-- A report begins as its first line does. -/
theorem Opens.joinLines {phrase : Option Phrase} {first : String} (opens : Opens phrase first)
    (rest : List String) : Opens phrase (Report.joinLines (first :: rest)) := by
  unfold Report.joinLines
  cases rest with
  | nil =>
    rw [String.intercalate_singleton]
    exact opens
  | cons second rest =>
    rw [String.intercalate_cons_cons]
    exact (opens.append _).append _

/-- A report whose first line depends on whether the refactoring is only shown. -/
theorem opens_ofPreview {shown done : String} (preview : Bool) (rest : List String)
    (opens_shown : Opens (some .previewed) shown) (opens_done : Opens (some .done) done) :
    Opens (some (.ofPreview preview))
      (Report.joinLines ((if preview then shown else done) :: rest)) := by
  cases preview with
  | true => exact opens_shown.joinLines rest
  | false => exact opens_done.joinLines rest

theorem opens_failure (failure : Failure) : Opens (some .failed) (Report.failure failure) := by
  have first : Opens (some .failed) "Error: " := by decide +kernel
  exact ((first.append _).append _).append _

/-! ### Reports of tools -/

namespace Tool

/-- Whether a tool is to show what it would do, for the tools that can. -/
def preview? : (t : Tool) → t.Arguments → Option Bool
  | .renameSymbol, (a : RenameArguments) => some a.preview
  | .moveElement, (a : MoveArguments) => some a.preview
  | .extractMethod, (a : ExtractMethodArguments) => some a.preview
  | .extractVariable, (a : ExtractVariableArguments) => some a.preview
  | .inlineElement, (a : InlineArguments) => some a.preview
  | .changeSignature, (a : ChangeSignatureArguments) => some a.preview
  | .listProjects, _ | .bridgeStatus, _ | .safeDelete, _ | .findUsages, _ => none

/-- A response says that the element that was to be deleted is gone. -/
def deletes : (t : Tool) → t.endpoint.Response → Bool
  | .safeDelete, (r : SafeDeleteResponse) => r.deleted
  | _, _ => false

/-- The phrase of the report of a response. -/
def phrase? (t : Tool) (a : t.Arguments) (r : t.endpoint.Response) : Option Phrase :=
  match t.preview? a with
  | some preview => some (.ofPreview preview)
  | none => if t.deletes r then some .done else none

/-- The report of a response begins with the phrase that the arguments and the response say. -/
theorem opens_report (t : Tool) (a : t.Arguments) (r : t.endpoint.Response) :
    Opens (t.phrase? a r) (t.report a r) := by
  cases t with
  | listProjects =>
    show Opens none (Report.projects r)
    unfold Report.projects
    split
    · decide +kernel
    · have first : Opens none "Open projects in PyCharm:" := by decide +kernel
      exact first.joinLines _
  | bridgeStatus =>
    have first : Opens none "PyCharm bridge is " := by decide +kernel
    exact (((((first.append _).append _).append _).append _).append _).append _
  | renameSymbol =>
    have shown : Opens (some .previewed) "Preview: Renaming to " := by decide +kernel
    have done : Opens (some .done) "Successfully renamed to " := by decide +kernel
    exact opens_ofPreview _ _ ((shown.append _).append _) ((done.append _).append _)
  | moveElement =>
    have shown : Opens (some .previewed) "Preview: Moving to " := by decide +kernel
    have done : Opens (some .done) "Successfully moved to " := by decide +kernel
    exact opens_ofPreview _ _ ((shown.append _).append _) ((done.append _).append _)
  | extractMethod =>
    have shown : Opens (some .previewed) "Preview: Would extract method " := by decide +kernel
    have done : Opens (some .done) "Successfully extracted method " := by decide +kernel
    exact opens_ofPreview _ _ ((shown.append _).append _) ((done.append _).append _)
  | extractVariable =>
    have shown : Opens (some .previewed) "Preview: Would extract variable " := by decide +kernel
    have done : Opens (some .done) "Successfully extracted variable " := by decide +kernel
    exact opens_ofPreview _ _ ((shown.append _).append _) ((done.append _).append _)
  | inlineElement =>
    have shown : Opens (some .previewed) "Preview: Inlining would affect:" := by decide +kernel
    have done : Opens (some .done) "Successfully inlined:" := by decide +kernel
    exact opens_ofPreview _ _ shown done
  | changeSignature =>
    have shown : Opens (some .previewed) "Preview: Signature change would affect:" := by
      decide +kernel
    have done : Opens (some .done) "Successfully changed signature:" := by decide +kernel
    exact opens_ofPreview _ _ shown done
  | safeDelete =>
    obtain ⟨success, deleted, usagesFound, usages⟩ : SafeDeleteResponse := r
    cases deleted with
    | true =>
      show Opens (some .done) "Successfully deleted element (no usages found)."
      decide +kernel
    | false =>
      have first : Opens none "Cannot delete: " := by decide +kernel
      exact ((first.append _).append _).joinLines _
  | findUsages =>
    have first : Opens none "Usages of '" := by decide +kernel
    exact ((((first.append _).append _).append _).append _).joinLines _

/-- What the bridge is told of a preview is in the request. -/
theorem get?_preview_written (t : Tool) (a : t.Arguments) {s : Wire.Shape t.endpoint.Request}
    (posted : t.endpoint.request? = some s) :
    Json.Members.get? "preview" (s.written (t.request a)) = (t.preview? a).map Json.bool := by
  cases t with
  | listProjects => cases posted
  | bridgeStatus => cases posted
  | renameSymbol | moveElement | extractMethod | extractVariable | inlineElement
  | changeSignature | safeDelete | findUsages =>
    cases posted
    rfl

/-- What a tool is to show is what the bridge is told, and the bridge is told nothing of it by the
other tools. -/
theorem preview_sent (t : Tool) (a : t.Arguments) (takes : t.takesArguments = true) :
    ∃ members, Json.read (t.endpoint.body (t.request a)) = .ok (.object members) ∧
      Json.Members.get? "preview" members = (t.preview? a).map Json.bool := by
  have posted : ∃ s, t.endpoint.request? = some s := by
    cases t with
    | listProjects => cases takes
    | bridgeStatus => cases takes
    | _ => exact ⟨_, rfl⟩
  obtain ⟨s, posted⟩ := posted
  have faithful := Endpoint.faithful_request posted
  have within : 2 < Json.nestingLimit := by decide
  refine ⟨Json.Members.sorted (s.written (t.request a)), ?_, ?_⟩
  · unfold Endpoint.body
    rw [posted]
    exact (Wire.Shape.read_text faithful within _).trans
      (congrArg Except.ok (Wire.Shape.value_encode s _))
  · rw [Wire.Shape.get?_sorted_written faithful.distinct]
    exact t.get?_preview_written a posted

theorem phrase?_ne_failed (t : Tool) (a : t.Arguments) (r : t.endpoint.Response) :
    t.phrase? a r ≠ some .failed := by
  unfold phrase? Phrase.ofPreview
  split
  · split <;> decide
  · split <;> decide

theorem phrase?_eq_previewed_iff {t : Tool} {a : t.Arguments} {r : t.endpoint.Response} :
    t.phrase? a r = some .previewed ↔ t.preview? a = some true := by
  unfold phrase?
  split
  · next preview shows =>
    rw [shows]
    cases preview <;> decide
  · next shows_none =>
    rw [shows_none]
    split <;> decide

/-- Only the tool that has no preview deletes. -/
theorem preview?_of_deletes {t : Tool} {r : t.endpoint.Response} (deleted : t.deletes r = true)
    (a : t.Arguments) : t.preview? a = none := by
  cases t with
  | safeDelete => rfl
  | listProjects | bridgeStatus | renameSymbol | moveElement | extractMethod | extractVariable
  | inlineElement | changeSignature | findUsages => cases deleted

theorem phrase?_eq_done_iff {t : Tool} {a : t.Arguments} {r : t.endpoint.Response} :
    t.phrase? a r = some .done ↔ t.preview? a = some false ∨ t.deletes r = true := by
  unfold phrase?
  split
  · next preview shows =>
    have not_deleted : ¬ t.deletes r = true := by
      intro deleted
      rw [preview?_of_deletes deleted a] at shows
      cases shows
    rw [shows, or_iff_left not_deleted]
    cases preview <;> decide
  · next shows_none =>
    rw [shows_none, or_iff_right nofun]
    cases t.deletes r <;> decide

/-- What the report of a result begins with. -/
theorem render_opens (t : Tool) (a : t.Arguments) {result : Except Failure t.endpoint.Response}
    (fits : CallClass.of result ≠ .decode) :
    ∃ text, (t.render a result).1 = .ok text ∧
      (text.startsWith Phrase.failed.words = true ↔
        CallClass.of result = .connectivity ∨ CallClass.of result = .application) ∧
      (text.startsWith Phrase.previewed.words = true ↔
        CallClass.of result = .accepted ∧ t.preview? a = some true) ∧
      (text.startsWith Phrase.done.words = true ↔
        ∃ response, result = .ok response ∧
          (t.preview? a = some false ∨ t.deletes response = true)) := by
  cases result with
  | ok response =>
    have opens := t.opens_report a response
    refine ⟨t.report a response, rfl, ?_, ?_, ?_⟩
    · rw [opens.startsWith_iff]
      refine iff_of_false (t.phrase?_ne_failed a response) ?_
      rintro (same | same) <;> cases same
    · rw [opens.startsWith_iff, phrase?_eq_previewed_iff]
      exact (and_iff_right rfl).symm
    · rw [opens.startsWith_iff, phrase?_eq_done_iff]
      constructor
      · exact fun success => ⟨response, rfl, success⟩
      · rintro ⟨response', same, success⟩
        obtain rfl := Except.ok.inj same
        exact success
  | error failure =>
    obtain ⟨kind, message, details⟩ := failure
    have opens := opens_failure ⟨kind, message, details⟩
    have failed : CallClass.of (.error ⟨kind, message, details⟩ : Except _ t.endpoint.Response) =
        .connectivity ∨
          CallClass.of (.error ⟨kind, message, details⟩ : Except _ t.endpoint.Response) =
            .application := by
      cases kind with
      | connectivity => exact .inl rfl
      | application => exact .inr rfl
      | decode => exact absurd rfl fits
    refine ⟨Report.failure ⟨kind, message, details⟩, ?_, ?_, ?_, ?_⟩
    · cases kind with
      | connectivity => rfl
      | application => rfl
      | decode => exact absurd rfl fits
    · rw [opens.startsWith_iff]
      exact iff_of_true rfl failed
    · rw [opens.startsWith_iff]
      refine iff_of_false nofun ?_
      rintro ⟨accepted, -⟩
      rw [accepted] at failed
      rcases failed with same | same <;> cases same
    · rw [opens.startsWith_iff]
      refine iff_of_false nofun ?_
      rintro ⟨response, same, -⟩
      cases same

/-- **What the beginning of a report says.**  Whatever the tool, the arguments, the configuration
and what becomes of the request, if the call of the bridge does not end with a reply that does not
fit, there is a report.  It begins as an error just if the bridge was out of reach or rejected the
operation; as a preview just if there was a response and a preview was asked for; and as a success
just if there was a response and either the tool has previews and none was asked for, or the
response says that the element is deleted.  The report is what the caller of the tool is answered.
And the bridge is told of the preview what the tool goes by. -/
theorem report_tells (t : Tool) (a : t.Arguments) (config : Config) (x : Exchange) :
    (¬ EndsIn config t.endpoint x .decode → ∃ text, (t.run config a x).result = .ok text ∧
        (text.startsWith "Error: " = true ↔
          EndsIn config t.endpoint x .connectivity ∨ EndsIn config t.endpoint x .application) ∧
        (text.startsWith "Preview: " = true ↔
          EndsIn config t.endpoint x .accepted ∧ t.preview? a = some true) ∧
        (text.startsWith "Successfully " = true ↔
          ∃ response, Returns config t.endpoint x response ∧
            (t.preview? a = some false ∨ t.deletes response = true)) ∧
        ∀ call : ToolCall, t.name = call.name → t.accept call.arguments = .ok a →
          ((Server.mk config).callTool call x).result = .ok (textContent text)) ∧
      (t.takesArguments = true →
        ∃ members, Json.read (t.endpoint.body (t.request a)) = .ok (.object members) ∧
          Json.Members.get? "preview" members = (t.preview? a).map Json.bool) := by
  refine ⟨fun fits => ?_, t.preview_sent a⟩
  have ends (k : CallClass) : EndsIn config t.endpoint x k ↔
      CallClass.of ((Client.new config).call t.endpoint (t.request a) x).result = k :=
    (class_eq_iff (c := Client.new config) k).symm
  have returns (response : t.endpoint.Response) :
      ((Client.new config).call t.endpoint (t.request a) x).result = .ok response ↔
        Returns config t.endpoint x response :=
    ⟨returns_of_result (c := Client.new config), result_call_of_returns (c := Client.new config)⟩
  obtain ⟨text, rendered, failed, previewed, done⟩ :=
    t.render_opens a fun same => fits ((ends .decode).2 same)
  have reported : (t.run config a x).result = .ok text := by rw [result_run, rendered]
  refine ⟨text, reported, ?_, ?_, ?_, fun call named accepted => ?_⟩
  · rw [ends, ends]
    exact failed
  · rw [ends]
    exact previewed
  · exact done.trans <| exists_congr fun response => and_congr_left' (returns response)
  · rw [callTool_of_accept named accepted, reported]
    rfl

end Tool

end RefactorGateway
