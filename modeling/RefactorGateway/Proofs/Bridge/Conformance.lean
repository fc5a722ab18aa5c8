import RefactorGateway.Proofs.Bridge.Classification
import RefactorGateway.Proofs.Text.Lossy
import RefactorGateway.Proofs.Wire.Grammar
import RefactorGateway.Proofs.Wire.Records
/-!
# Which replies conform

For each operation this module declares the members of the object with which the bridge answers it.
A call returns a response just if the object of the reply conforms to these declarations, and then
it returns the response that the object carries.  Every other object that does not deny success is
reported as one that does not fit.

## Main Definitions

* `FileChange.entries`, `ProjectInfo.entries`, `UsageInfo.entries`: the members of entities
* `Endpoint.entries`: the members of the object that answers an operation

## Main Statements

* `Endpoint.declares`: responses are read as they are declared
* `call_returns_conforming`: what a call returns for an object

## Design Notes

The declarations repeat what is written down in the shapes of the records.  They are what a reader
of the bridge would be told, so they stand in one place and name no codec; a change of a shape that
is not followed here fails in `Endpoint.declares`.
-/

namespace RefactorGateway.Bridge

open Http Wire
open Wire.Kind (readBy_text readBy_flag readBy_count readBy_list readBy_orNull)

/-! ### Entities -/

/-- The members of a file change. -/
def FileChange.entries : List (Entry FileChange) :=
  [.required "file" .text file,
    .required "line" .count line,
    .required "oldText" .text oldText,
    .required "newText" .text newText]

/-- The members of a project. -/
def ProjectInfo.entries : List (Entry ProjectInfo) :=
  [.required "name" .text name,
    .required "path" .text path,
    .required "isOpen" .flag isOpen,
    .defaulted "isDefault" .flag false isDefault]

/-- The members of a usage. -/
def UsageInfo.entries : List (Entry UsageInfo) :=
  [.required "file" .text file,
    .required "line" .count line,
    .required "column" .count column,
    .required "text" .text text,
    .defaulted "isWriteAccess" .flag false isWriteAccess]

theorem FileChange.declares : Declares entries shape where
  strict := rfl
  distinct := by decide
  lists := .cons readBy_text <| .cons readBy_count <| .cons readBy_text <| .cons readBy_text .nil

theorem ProjectInfo.declares : Declares entries shape where
  strict := rfl
  distinct := by decide
  lists := .cons readBy_text <| .cons readBy_text <| .cons readBy_flag <| .cons readBy_flag .nil

theorem UsageInfo.declares : Declares entries shape where
  strict := rfl
  distinct := by decide
  lists :=
    .cons readBy_text <| .cons readBy_count <| .cons readBy_count <| .cons readBy_text <|
    .cons readBy_flag .nil

/-! ### Responses -/

/-- The member that tells success from failure. -/
def successEntry {ρ : Type} (part : ρ → Bool) : Entry ρ := .defaulted "success" .flag true part

/-- The edits of a refactoring. -/
def changesEntry {ρ : Type} (part : ρ → List FileChange) : Entry ρ :=
  .required "changes" (.list (.record FileChange.entries)) part

/-- The members of the object that answers an operation. -/
def Endpoint.entries : (e : Endpoint) → List (Entry e.Response)
  | .health =>
    [successEntry HealthResponse.success,
      .defaulted "status" .text "ok" HealthResponse.status,
      .required "version" .text HealthResponse.version,
      .required "projectsOpen" .count HealthResponse.projectsOpen]
  | .projects =>
    [successEntry ProjectListResponse.success,
      .required "projects" (.list (.record ProjectInfo.entries)) ProjectListResponse.projects]
  | .rename =>
    [successEntry RenameResponse.success,
      changesEntry RenameResponse.changes,
      .required "filesModified" .count RenameResponse.filesModified,
      .required "usagesUpdated" .count RenameResponse.usagesUpdated]
  | .move =>
    [successEntry MoveResponse.success,
      changesEntry MoveResponse.changes,
      .required "filesModified" .count MoveResponse.filesModified,
      .required "importsUpdated" .count MoveResponse.importsUpdated]
  | .extractMethod =>
    [successEntry ExtractMethodResponse.success,
      .required "file" .text ExtractMethodResponse.file,
      .required "methodLine" .count ExtractMethodResponse.methodLine,
      .required "parameters" (.list .text) ExtractMethodResponse.parameters,
      .optional "returnType" .text ExtractMethodResponse.returnType]
  | .extractVariable =>
    [successEntry ExtractVariableResponse.success,
      .required "file" .text ExtractVariableResponse.file,
      .required "variableLine" .count ExtractVariableResponse.variableLine,
      .required "occurrencesReplaced" .count ExtractVariableResponse.occurrencesReplaced]
  | .inline =>
    [successEntry InlineResponse.success,
      changesEntry InlineResponse.changes,
      .required "usagesInlined" .count InlineResponse.usagesInlined]
  | .changeSignature =>
    [successEntry ChangeSignatureResponse.success,
      changesEntry ChangeSignatureResponse.changes,
      .required "callSitesUpdated" .count ChangeSignatureResponse.callSitesUpdated]
  | .safeDelete =>
    [successEntry SafeDeleteResponse.success,
      .required "deleted" .flag SafeDeleteResponse.deleted,
      .defaulted "usagesFound" .count 0 SafeDeleteResponse.usagesFound,
      .optional "usages" (.list (.record UsageInfo.entries)) SafeDeleteResponse.usages]
  | .findUsages =>
    [successEntry FindUsagesResponse.success,
      .required "symbol" .text FindUsagesResponse.symbol,
      .required "usages" (.list (.record UsageInfo.entries)) FindUsagesResponse.usages,
      .required "totalCount" .count FindUsagesResponse.totalCount]

/-- Responses are read as they are declared. -/
theorem Endpoint.declares (e : Endpoint) : Declares e.entries e.response where
  strict := by cases e <;> rfl
  distinct := e.nodup_response
  lists := by
    have changes := readBy_list FileChange.declares.readBy
    have projects := readBy_list ProjectInfo.declares.readBy
    have usages := readBy_list UsageInfo.declares.readBy
    cases e with
    | health =>
      exact .cons readBy_flag <| .cons readBy_text <| .cons readBy_text <|
        .cons readBy_count .nil
    | projects => exact .cons readBy_flag <| .cons projects .nil
    | rename | move =>
      exact .cons readBy_flag <| .cons changes <| .cons readBy_count <| .cons readBy_count .nil
    | extractMethod =>
      exact .cons readBy_flag <| .cons readBy_text <| .cons readBy_count <|
        .cons (readBy_list readBy_text) <| .cons (readBy_orNull readBy_text) .nil
    | extractVariable =>
      exact .cons readBy_flag <| .cons readBy_text <| .cons readBy_count <|
        .cons readBy_count .nil
    | inline | changeSignature =>
      exact .cons readBy_flag <| .cons changes <| .cons readBy_count .nil
    | safeDelete =>
      exact .cons readBy_flag <| .cons readBy_flag <| .cons readBy_count <|
        .cons (readBy_orNull usages) .nil
    | findUsages =>
      exact .cons readBy_flag <| .cons readBy_text <| .cons usages <| .cons readBy_count .nil

/-! ### Calls -/

variable {e : Endpoint} {reply : Reply} {members : List (String × Json)}

theorem conclude_eq_ok_iff (success : isSuccess reply.status) (object : HasObject reply members)
    (accepted : ¬ Denies members) {response : e.Response} :
    e.conclude reply = .ok response ↔
      Conforms e.entries members ∧ Carries e.entries members response := by
  rw [conclude_of_object success object accepted, ← e.declares.decodeMembers_iff, Shape.decode]
  cases e.response.decodeMembers members <;> simp [Except.mapError]

/-- An object that does not conform is reported as one that does not fit. -/
theorem conclude_of_not_conforms (success : isSuccess reply.status)
    (object : HasObject reply members) (accepted : ¬ Denies members)
    (misfit : ¬ Conforms e.entries members) :
    ∃ problem, e.conclude reply = .error (.decode e.path problem) := by
  have refused : ∀ response, e.response.decodeMembers members ≠ .ok response :=
    fun response decoded => misfit (e.declares.decodeMembers_iff.1 decoded).1
  rw [conclude_of_object success object accepted, Shape.decode]
  cases decoded : e.response.decodeMembers members with
  | error mismatch => exact ⟨mismatch.message, rfl⟩
  | ok response => exact absurd decoded (refused response)

/-- **Replies that conform.**  Let a request be sent to an operation, and let the reply have a
status of success and an object as its body that does not deny success.  The call returns a response
just if the object conforms to the declarations of the operation: it has no member that is not
declared, it lacks none without a default, and each member is of its declared type, where null is
only taken for the return type of an extracted method and for the usages of a deletion.  What the
call returns is then the response that the object carries: each part is what its member says, a list
item by item and in order, and is the default only if there is no member.  If the object does not
conform, the call reports that it does not fit.  And a number is of the type of counts just if it is
spelled by the digits of a number of 32 bits and by nothing else. -/
theorem call_returns_conforming (c : Client) (e : Endpoint) (r : e.Request) (reply : Reply)
    (members : List (String × Json)) (usable : c.config.Usable e)
    (success : isSuccess reply.status) (object : HasObject reply members)
    (accepted : ¬ Denies members) :
    ((∃ response, (c.call e r (.answered reply)).result = .ok response) ↔
        Conforms e.entries members) ∧
      (∀ response, (c.call e r (.answered reply)).result = .ok response ↔
        Conforms e.entries members ∧ Carries e.entries members response) ∧
      (¬ Conforms e.entries members →
        ∃ problem, (c.call e r (.answered reply)).result = .error (.decode e.path problem)) ∧
      ∀ n : Json.Numeral, Kind.count.Fits (Json.Document.numeral n).value ↔
        n.negative = false ∧ n.fraction = [] ∧ n.exponent = none ∧ n.whole ≤ 4294967295 := by
  have returned : ∀ response, (c.call e r (.answered reply)).result = .ok response ↔
      Conforms e.entries members ∧ Carries e.entries members response := by
    rw [result_call_of_usable usable, receive_answered]
    exact fun response => conclude_eq_ok_iff success object accepted
  refine ⟨⟨?_, ?_⟩, returned, ?_, Kind.count_fits_numeral_iff⟩
  · rintro ⟨response, result⟩
    exact ((returned response).1 result).1
  · intro conforms
    obtain ⟨response, decoded⟩ := e.declares.exists_decodeMembers conforms
    exact ⟨response, (returned response).2 (e.declares.decodeMembers_iff.1 decoded)⟩
  · rw [result_call_of_usable usable, receive_answered]
    exact conclude_of_not_conforms success object accepted

/-- A reply to a deletion, with a usage in the form of a list that leaves out its last item. -/
theorem deletion_returned :
    let client := Client.new ⟨Config.defaultBaseUrl, none, Config.defaultTimeout⟩
    let request : SafeDeleteRequest := ⟨"/work", "app.py", 3, 5, true⟩
    let document : Json.Document := .object
      [("usagesFound", .ofNat 1), ("deleted", .bool false), ("usages", .array
        [.array [.string "b.py", .ofNat 7, .ofNat 4294967295, .string "f()"]])]
    let members : List (String × Json) :=
      [("deleted", .bool false), ("usages", .array
        [.array [.string "b.py", .number (.integer 7), .number (.integer 4294967295),
          .string "f()"]]), ("usagesFound", .number (.integer 1))]
    let reply : Reply := ⟨200, Text.toBytes document.text⟩
    let response : SafeDeleteResponse :=
      ⟨true, false, 1, some [⟨"b.py", 7, 4294967295, "f()", false⟩]⟩
    client.config.Usable .safeDelete ∧ HasObject reply members ∧ ¬ Denies members ∧
      Conforms Endpoint.safeDelete.entries members ∧
      (client.call .safeDelete request (.answered reply)).result = .ok response := by
  intro client request document members reply response
  have usable : client.config.Usable .safeDelete := by decide +kernel
  have one : (Json.Numeral.ofNat 1).isFinite = true := Codec.isFinite_ofNat (by decide)
  have line : (Json.Numeral.ofNat 7).isFinite = true := Codec.isFinite_ofNat (by decide)
  have column : (Json.Numeral.ofNat 4294967295).isFinite = true :=
    Codec.isFinite_ofNat (by decide)
  have readable : document.Readable (0 + 1 + 1 + 1) := by
    simp [document, Json.Document.ofNat, one, line, column]
  have object : HasObject reply members := by
    rw [HasObject, bodyText, Text.ofBytes_toBytes, Json.read_text (readable.mono (by decide))]
    rfl
  have accepted : ¬ Denies members := by simp [Denies, members]
  have conforms : Conforms Endpoint.safeDelete.entries members := by
    refine ⟨?_, ?_, ?_⟩
    · simp [Endpoint.entries, members, successEntry, Entry.required, Entry.defaulted,
        Entry.optional]
    · simp [Endpoint.entries, members, successEntry, Entry.required, Entry.defaulted,
        Entry.optional, Kind.flag, Kind.list, Kind.record, Kind.orNull, Kind.text,
        ConformsInOrder, UsageInfo.entries]
    · simp [Endpoint.entries, members, successEntry, Entry.required, Entry.defaulted,
        Entry.optional]
  have carries : Carries Endpoint.safeDelete.entries members response := by
    simp [Carries, Endpoint.entries, members, response, successEntry, Entry.Says, Entry.required,
      Entry.defaulted, Entry.optional, Kind.flag, Kind.count, Kind.list, Kind.record, Kind.orNull,
      Kind.text, CarriesInOrder, UsageInfo.entries]
  obtain ⟨-, returned, -, -⟩ := call_returns_conforming client .safeDelete request reply members
    usable rfl object accepted
  exact ⟨usable, object, accepted, conforms, (returned response).2 ⟨conforms, carries⟩⟩

end RefactorGateway.Bridge
