import RefactorGateway.Proofs.Bridge.Envelope
import RefactorGateway.Proofs.Text.Lossy
import RefactorGateway.Proofs.Tool.Outcome
/-!
# How failures are reported

All tools report a failure in the same words: the message of the bridge and, on a line of its own,
its details, whichever way they have come; and if the bridge is out of reach, always the same text.

## Main Statements

* `Tool.result_run_of_error`: what is reported of a failure
* `Tool.failure_text`: the report of every explained failure, and of every loss of the bridge
-/

namespace RefactorGateway.Tool

open Bridge Http
open Json (Document)

/-- A failure that is routine is reported, and the report is the same for all tools. -/
theorem result_run_of_error {t : Tool} {a : t.Arguments} {config : Config} {x : Exchange}
    {failure : Failure} (routine : failure.isDecode = false)
    (failed : ((Client.new config).call t.endpoint (t.request a) x).result = .error failure) :
    (t.run config a x).result = .ok (Report.failure failure) := by
  rw [result_run, failed]
  unfold render
  simp only [routine]
  rfl

/-- **What is reported of failures.**  Let a reply explain a failure with a message and perhaps
details, be it next to a denial of success or to a status that is no success; let the body be any
text of such an object, with members of any other names in it and in any order.  Then a tool that
can send its request reports the message and, on a line of its own, the details or nothing.  And
whatever the tool, its arguments and the configuration, if the bridge is out of reach, the report is
always the same. -/
theorem failure_text (t : Tool) (a : t.Arguments) (config : Config) :
    (∀ (members : List (String × Document)) (success : Option Bool) (message : String)
        (details : Option String) (reply : Reply), config.Usable t.endpoint →
        ReportsFailure members success message details →
        Stands (bodyText reply) (.object members) →
        success = some false ∨ ¬ isSuccess reply.status = true →
        (t.run config a (.answered reply)).result =
          .ok ("Error: " ++ message ++ "\n" ++ details.getD "")) ∧
      ∀ x, EndsIn config t.endpoint x .connectivity → (t.run config a x).result =
        .ok ("Error: Cannot connect to PyCharm\n"
          ++ "Is PyCharm running with the Refactoring Bridge plugin installed?") := by
  constructor
  · intro members success message details reply usable reports stands denied
    have failed : ((Client.new config).call t.endpoint (t.request a) (.answered reply)).result =
        .error (.application message details) := by
      rw [result_call_of_usable (c := Client.new config) usable, receive_answered,
        reports.conclude stands denied]
    rw [result_run_of_error rfl failed]
    rfl
  · intro x ends
    have failed : ((Client.new config).call t.endpoint (t.request a) x).result =
        .error .connectivity :=
      result_call_of_endsIn_connectivity (c := Client.new config) ends
    have text : Report.failure .connectivity = "Error: Cannot connect to PyCharm\n"
        ++ "Is PyCharm running with the Refactoring Bridge plugin installed?" := by
      decide +kernel
    rw [result_run_of_error rfl failed, text]

/-- A rename that the bridge does not carry out, and explains with a member of its own. -/
theorem rename_failure_text :
    let config : Config := ⟨Config.defaultBaseUrl, none, Config.defaultTimeout⟩
    let a : RenameArguments := ⟨"/demo", "a.py", 3, 5, "b\"c", true, false, false⟩
    let members : List (String × Document) :=
      [("code", .ofNat 7), ("details", .null), ("success", .bool false),
        ("error", .string "No symbol \"x\"\n")]
    let reply : Reply := ⟨200, Text.toBytes (Document.object members).text⟩
    config.Usable .rename ∧ ReportsFailure members (some false) "No symbol \"x\"\n" none ∧
      Stands (bodyText reply) (.object members) ∧
      (run .renameSymbol config a (.answered reply)).result =
        .ok "Error: No symbol \"x\"\n\n" := by
  intro config a members reply
  have usable : config.Usable .rename := by decide +kernel
  have reports : ReportsFailure members (some false) "No symbol \"x\"\n" none :=
    ⟨by decide, rfl, rfl, .inr ⟨rfl, rfl⟩⟩
  have readable : (Document.object members).Readable Json.nestingLimit := by
    refine (Document.readable_object 126 members).2 fun m mem => ?_
    have finite : (Json.Numeral.ofNat 7).isFinite = true := Wire.Codec.isFinite_ofNat (by decide)
    simp only [members, List.mem_cons, List.not_mem_nil, or_false] at mem
    rcases mem with rfl | rfl | rfl | rfl
    · exact (Document.readable_numeral 126 _).2 finite
    · exact Document.readable_null 126
    · exact Document.readable_bool 126 false
    · exact Document.readable_string 126 _
  have body : bodyText reply = (Document.object members).text := Text.ofBytes_toBytes _
  have stands : Stands (bodyText reply) (.object members) :=
    .inl ⟨body, _, body ▸ Document.read_text readable⟩
  have text : "Error: " ++ "No symbol \"x\"\n" ++ "\n" ++ (none : Option String).getD "" =
      "Error: No symbol \"x\"\n\n" := by decide +kernel
  refine ⟨usable, reports, stands, ?_⟩
  rw [← text]
  exact (failure_text .renameSymbol a config).1 members (some false) _ none reply usable reports
    stands (.inl rfl)

end RefactorGateway.Tool
