import RefactorGateway.Proofs.Bridge.Classification
import RefactorGateway.Proofs.Text.Lossy
import RefactorGateway.Proofs.Wire.Reading
import RefactorGateway.Proofs.Wire.Records
/-!
# Which responses calls return

A call of the bridge returns exactly the responses that report success.  Each of them is returned
for the text that it is written as, and a response that denies success is not returned for any body.

## Main Definitions

* `Endpoint.succeeds`: a response reports success
* `writtenReply`: the reply whose body is the text of a response

## Main Statements

* `Endpoint.success_of_decode`: what is read of a response as its success
* `denial_of_silent`: an object that denies success without a word
* `call_returns_exactly_successes`: the responses that calls return

## Design Notes

The flag is read twice: by the test for a denial and by the reader of the response.  Both look at
the same member, and the reader takes a missing one for true.  So it is enough to know what that
member is, and the proofs do not depend on the other fields of a response.
-/

namespace RefactorGateway.Bridge

open Wire Http
open Json (Members.get? Members.sorted)

/-! ### The flag of a response -/

/-- Whether a response reports success. -/
def Endpoint.succeeds : (e : Endpoint) → e.Response → Bool
  | .health, r => HealthResponse.success r
  | .projects, r => ProjectListResponse.success r
  | .rename, r => RenameResponse.success r
  | .move, r => MoveResponse.success r
  | .extractMethod, r => ExtractMethodResponse.success r
  | .extractVariable, r => ExtractVariableResponse.success r
  | .inline, r => InlineResponse.success r
  | .changeSignature, r => ChangeSignatureResponse.success r
  | .safeDelete, r => SafeDeleteResponse.success r
  | .findUsages, r => FindUsagesResponse.success r

variable {e : Endpoint} {members : List (String × Json)} {response : e.Response}

/-- The flag that is read of an object is its member, or true if there is none. -/
theorem Endpoint.success_of_decode (decoded : e.response.decode (.object members) = .ok response) :
    (Members.get? "success" members).getD (.bool true) = .bool (e.succeeds response) := by
  have gathered := (Shape.decodeMembers_eq_ok_iff.1 decoded).2
  -- the flag is the first field of each response
  cases e <;> exact Field.gather_flag_iff.1 (Fields.gather_cons_iff.1 gathered).1

/-- The flag is always written. -/
theorem Endpoint.get?_success_written (e : Endpoint) (response : e.Response) :
    Members.get? "success" (Members.sorted (e.response.written response)) =
      some (.bool (e.succeeds response)) := by
  rw [Shape.get?_sorted_written e.nodup_response]
  cases e <;> rfl

/-- No response has the members with which a rejection explains itself. -/
theorem Endpoint.get?_written_of_envelope (e : Endpoint) (response : e.Response) {name : String}
    (explains : name = "error" ∨ name = "details") :
    Members.get? name (Members.sorted (e.response.written response)) = none := by
  have other : name ∉ e.response.fields.names := by
    rcases explains with rfl | rfl <;> cases e <;> decide
  rw [Shape.get?_sorted_written e.nodup_response]
  exact Fields.get?_written_of_not_mem other

/-! ### Denials -/

/-- What is read of an object as the words of a rejection. -/
theorem Envelope.gather_of_decodeMembers {envelope : Envelope}
    (decoded : Envelope.shape.decodeMembers members = .ok envelope) :
    (Wire.Field.nullable "error" Codec.text).gather members = .ok envelope.error ∧
      (Wire.Field.nullable "details" Codec.text).gather members = .ok envelope.details := by
  have gathered := (Shape.decodeMembers_eq_ok_iff.1 decoded).2
  obtain ⟨-, gathered⟩ := Fields.gather_cons_iff.1 gathered
  obtain ⟨error, gathered⟩ := Fields.gather_cons_iff.1 gathered
  exact ⟨error, (Fields.gather_cons_iff.1 gathered).1⟩

theorem gather_nullable_of_missing {name : String} {words : Option String}
    (missing : Members.get? name members = none)
    (gathered : (Wire.Field.nullable name Codec.text).gather members = .ok words) :
    words = none := by
  rcases Field.gather_nullable_iff.1 gathered with ⟨j, found, -⟩ | ⟨-, none⟩
  · rw [missing] at found
    cases found
  · exact none

/-- An object that denies success without a word is a rejection of which nothing is known. -/
theorem denial_of_silent (no_error : Members.get? "error" members = none)
    (no_details : Members.get? "details" members = none) :
    denial members = ⟨.application, "Unknown error", none⟩ := by
  unfold denial
  cases decoded : Envelope.shape.decodeMembers members with
  | error mismatch => rfl
  | ok envelope =>
    obtain ⟨error, details⟩ := Envelope.gather_of_decodeMembers decoded
    simp only [gather_nullable_of_missing no_error error,
      gather_nullable_of_missing no_details details]
    rfl

/-! ### Replies that hold a response -/

/-- The reply whose body is the text of a response. -/
def writtenReply (e : Endpoint) (status : Nat) (response : e.Response) : Reply :=
  ⟨status, Text.toBytes (e.response.text response)⟩

theorem hasObject_writtenReply (e : Endpoint) (status : Nat) (response : e.Response) :
    HasObject (writtenReply e status response)
      (Members.sorted (e.response.written response)) := by
  rw [HasObject, bodyText, writtenReply, Text.ofBytes_toBytes,
    Shape.read_text e.faithful_response (by decide), Shape.value_encode]

theorem denies_written_iff :
    Denies (Members.sorted (e.response.written response)) ↔ e.succeeds response = false := by
  rw [Denies, e.get?_success_written]
  simp

theorem conclude_writtenReply_of_succeeds {status : Nat} (success : isSuccess status = true)
    (succeeds : e.succeeds response = true) :
    e.conclude (writtenReply e status response) = .ok response := by
  have accepted : ¬ Denies (Members.sorted (e.response.written response)) := by
    rw [denies_written_iff, succeeds]
    nofun
  have decoded : e.response.decode (.object (Members.sorted (e.response.written response))) =
      .ok response :=
    Shape.decodeMembers_written e.faithful_response response
  rw [conclude_of_object success (hasObject_writtenReply e status response) accepted, decoded]
  rfl

theorem conclude_writtenReply_of_fails {status : Nat} (success : isSuccess status = true)
    (fails : e.succeeds response = false) :
    e.conclude (writtenReply e status response) = .error ⟨.application, "Unknown error", none⟩ := by
  rw [conclude_of_denied success (hasObject_writtenReply e status response)
    (denies_written_iff.2 fails)]
  exact congrArg _ (denial_of_silent (e.get?_written_of_envelope response (.inl rfl))
    (e.get?_written_of_envelope response (.inr rfl)))

/-! ### Calls -/

/-- What a call returns reports success, whatever it was read of. -/
theorem succeeds_of_returns {config : Config} {x : Exchange}
    (returns : Returns config e x response) : e.succeeds response = true := by
  obtain ⟨-, reply, members, -, -, -, accepted, decoded⟩ := returns
  have flag := Endpoint.success_of_decode decoded
  cases found : Members.get? "success" members with
  | none =>
    rw [found] at flag
    exact (Json.bool.inj flag).symm
  | some value =>
    -- a flag that was read as false would have been found to be a denial
    rw [found] at flag
    cases succeeds : e.succeeds response with
    | true => rfl
    | false =>
      rw [succeeds] at flag
      exact absurd (found.trans (congrArg some flag)) accepted

/-- **Which responses calls return.**  Let a request be sent to an operation.  For a reply of any
status of success whose body is the text of a response, the call returns that response if it reports
success, and else fails as an application error of which nothing is known.  And whatever becomes of
a request, be it sent or not, all that the call may return reports success.  So the responses that
a call can return are those that report success. -/
theorem call_returns_exactly_successes (c : Client) (e : Endpoint) (r : e.Request) :
    (c.config.Usable e → ∀ status response, isSuccess status = true →
      (e.succeeds response = true →
        (c.call e r (.answered (writtenReply e status response))).result = .ok response) ∧
      (e.succeeds response = false →
        (c.call e r (.answered (writtenReply e status response))).result =
          .error ⟨.application, "Unknown error", none⟩)) ∧
      (∀ x response, (c.call e r x).result = .ok response → e.succeeds response = true) ∧
      (c.config.Usable e → ∀ response,
        (∃ reply, (c.call e r (.answered reply)).result = .ok response) ↔
          e.succeeds response = true) := by
  have returned : ∀ x response, (c.call e r x).result = .ok response →
      e.succeeds response = true :=
    fun x response result => succeeds_of_returns (returns_of_result result)
  have concludes : c.config.Usable e → ∀ reply,
      (c.call e r (.answered reply)).result = e.conclude reply := fun usable reply => by
    rw [result_call_of_usable usable, receive_answered]
  refine ⟨fun usable status response success => ?_, returned, fun usable response => ?_⟩
  · rw [concludes usable]
    exact ⟨conclude_writtenReply_of_succeeds success, conclude_writtenReply_of_fails success⟩
  · refine ⟨fun ⟨reply, result⟩ => returned _ response result, fun succeeds => ?_⟩
    refine ⟨writtenReply e 200 response, ?_⟩
    rw [concludes usable]
    exact conclude_writtenReply_of_succeeds rfl succeeds

/-- A reply to a rename, with texts that have to be escaped and characters of more than one byte. -/
theorem rename_returned :
    let client := Client.new ⟨Config.defaultBaseUrl, none, Config.defaultTimeout⟩
    let request : RenameRequest := ⟨"/work", "app.py", 3, 5, "naïve", true, false, false⟩
    let response (success : Bool) : RenameResponse := ⟨success, [⟨"b\"ä.py", 4, "π", "τ"⟩], 1, 1⟩
    let result (success : Bool) := (client.call .rename request
      (.answered (writtenReply .rename 201 (response success)))).result
    client.config.Usable .rename ∧ result true = .ok (response true) ∧
      result false = .error ⟨.application, "Unknown error", none⟩ := by
  intro client request response result
  have usable : client.config.Usable .rename := by decide +kernel
  obtain ⟨written, -⟩ := call_returns_exactly_successes client .rename request
  have created := fun success => written usable 201 (response success) rfl
  exact ⟨usable, (created true).1 rfl, (created false).2 rfl⟩

end RefactorGateway.Bridge
