import RefactorGateway.Proofs.Bridge.Classification
import RefactorGateway.Proofs.Tool.Acceptance
import RefactorGateway.Server
/-!
# What a tool call leads to

A tool call is an error of the caller, or it is one call of the bridge.  The caller is told of an
unknown name or of unusable arguments before anything is sent; a reply that does not fit is an error
of its own; and everything else is a report.

## Main Definitions

* `ServerOutcome.FailsWith`: an outcome is an error with a code
* `textContent`: an answer of one block of text
* `toolCallParameters`: the parameters by which a caller asks for a tool call

## Main Statements

* `callTool_of_unknown`, `callTool_of_refuses`, `callTool_of_accept`: the outcome of a tool call in
  each of the three cases
* `Tool.render_of_decode`, `Tool.render_of_not_decode`: which results of the bridge are no reports
* `answer_toolCall_contract`: the outcome of every tool call

## Design Notes

What is handed to the network is `Server.sending?`, at most one request.  What a server sees of it
depends on the exchange, so `answer_toolCall_contract` says both.
-/

namespace RefactorGateway

open Bridge Http
open Json (Document)

/-- The outcome is an error with a code. -/
def ServerOutcome.FailsWith (o : ServerOutcome) (code : Int) : Prop :=
  ∃ error, o.result = .error error ∧ error.code = code

/-- An answer that consists of one block of text. -/
def textContent (report : String) : Document :=
  .object
    [("content", .array [.object [("type", .string "text"), ("text", .string report)]]),
     ("isError", .bool false)]

/-- The parameters of a request for a tool call.  The arguments may be left out. -/
def toolCallParameters (name : String) (arguments : Option (List (String × Json))) : Json :=
  match arguments with
  | some members => .object [("arguments", .object members), ("name", .string name)]
  | none => .object [("name", .string name)]

theorem ServerOutcome.failsWith_iff_of_error {o : ServerOutcome} {error : RpcError}
    (failed : o.result = .error error) (code : Int) : o.FailsWith code ↔ error.code = code := by
  constructor
  · rintro ⟨other, result, rfl⟩
    rw [failed] at result
    rw [Except.error.inj result]
  · exact fun same => ⟨error, failed, same⟩

theorem ServerOutcome.not_failsWith_of_ok {o : ServerOutcome} {answer : Document}
    (answered : o.result = .ok answer) (code : Int) : ¬ o.FailsWith code := by
  rintro ⟨error, result, -⟩
  rw [answered] at result
  cases result

/-! ### Reports and failures -/

theorem Tool.result_run (t : Tool) (config : Config) (a : t.Arguments) (x : Exchange) :
    (t.run config a x).result =
      (t.render a ((Client.new config).call t.endpoint (t.request a) x).result).1 :=
  rfl

theorem Tool.requests_run (t : Tool) (config : Config) (a : t.Arguments) (x : Exchange) :
    (t.run config a x).requests =
      ((Client.new config).call t.endpoint (t.request a) x).requests :=
  rfl

/-- A reply that does not fit is no report. -/
theorem Tool.render_of_decode (t : Tool) (a : t.Arguments) (path problem : String) :
    (t.render a (.error (.decode path problem))).1 = .error (.failed (.decode path problem)) :=
  rfl

/-- All other results are reports. -/
theorem Tool.render_of_not_decode (t : Tool) (a : t.Arguments)
    {result : Except Failure t.endpoint.Response} (other : CallClass.of result ≠ .decode) :
    ∃ report, (t.render a result).1 = .ok report := by
  cases result with
  | ok response => exact ⟨_, rfl⟩
  | error failure =>
    obtain ⟨kind, message, details⟩ := failure
    cases kind with
    | connectivity => exact ⟨_, rfl⟩
    | application => exact ⟨_, rfl⟩
    | decode => exact absurd rfl other

theorem Refusal.error_decode (path problem : String) :
    (Refusal.failed (.decode path problem)).error =
      ⟨-32603, "Unexpected response from " ++ path ++ ": " ++ problem,
        some (.object [("kind", .string "decode")])⟩ :=
  rfl

/-! ### Tool calls -/

variable {config : Config} {call : ToolCall} {t : Tool} {x : Exchange}

theorem callTool_of_unknown (unknown : ∀ t : Tool, t.name ≠ call.name) :
    (Server.mk config).callTool call x = ⟨[], .error ⟨-32601, "tools/call", none⟩, []⟩ := by
  have not_found := Tool.ofName?_eq_none_iff.2 unknown
  simp only [Server.callTool, ToolCall.answer, not_found]
  rfl

theorem callTool_of_refuses (named : t.name = call.name) (refuses : t.Refuses call.arguments) :
    ∃ message, (Server.mk config).callTool call x = ⟨[], .error ⟨-32602, message, none⟩, []⟩ := by
  have found := Tool.ofName?_eq_some_iff.2 named
  obtain ⟨refusal, refused, code, data⟩ := Tool.accept_of_refuses refuses
  refine ⟨refusal.message, ?_⟩
  simp only [Server.callTool, ToolCall.answer, found, refused, ToolOutcome.refused]
  show (⟨[], .error refusal.error, []⟩ : ServerOutcome) = _
  rw [Refusal.error, code, data]

theorem callTool_of_accept {a : t.Arguments} (named : t.name = call.name)
    (accepted : t.accept call.arguments = .ok a) :
    (Server.mk config).callTool call x =
      ⟨(t.run config a x).requests,
        ((t.run config a x).result.map Server.content).mapError Refusal.error,
        (t.run config a x).log⟩ := by
  have found := Tool.ofName?_eq_some_iff.2 named
  simp only [Server.callTool, ToolCall.answer, found, accepted]

theorem sending?_of_unknown (unknown : ∀ t : Tool, t.name ≠ call.name) :
    call.sending? config = none := by
  simp only [ToolCall.sending?, Tool.ofName?_eq_none_iff.2 unknown]

theorem sending?_of_refuses (named : t.name = call.name) (refuses : t.Refuses call.arguments) :
    call.sending? config = none := by
  obtain ⟨refusal, refused, -⟩ := Tool.accept_of_refuses refuses
  simp only [ToolCall.sending?, Tool.ofName?_eq_some_iff.2 named, refused]

theorem sending?_of_accept {a : t.Arguments} (named : t.name = call.name)
    (accepted : t.accept call.arguments = .ok a) :
    call.sending? config = (Client.new config).sending? t.endpoint (t.request a) := by
  simp only [ToolCall.sending?, Tool.ofName?_eq_some_iff.2 named, accepted]

/-- A reply that does not fit is an error of the server that names the path. -/
theorem result_callTool_of_decode {a : t.Arguments} (named : t.name = call.name)
    (accepted : t.accept call.arguments = .ok a) (ends : EndsIn config t.endpoint x .decode) :
    ∃ detail, ((Server.mk config).callTool call x).result =
      .error ⟨-32603, "Unexpected response from " ++ t.endpoint.path ++ ": " ++ detail,
        some (.object [("kind", .string "decode")])⟩ := by
  have failed : ∃ detail, ((Client.new config).call t.endpoint (t.request a) x).result =
      .error (.decode t.endpoint.path detail) :=
    result_call_of_endsIn_decode ends
  obtain ⟨detail, result⟩ := failed
  refine ⟨detail, ?_⟩
  rw [callTool_of_accept named accepted, Tool.result_run, result, Tool.render_of_decode]
  show Except.error (Refusal.error _) = _
  rw [Refusal.error_decode]

/-- Every other outcome of the call of the bridge is reported. -/
theorem result_callTool_of_not_decode {a : t.Arguments} (named : t.name = call.name)
    (accepted : t.accept call.arguments = .ok a) (other : ¬ EndsIn config t.endpoint x .decode) :
    ∃ report, ((Server.mk config).callTool call x).result = .ok (textContent report) := by
  have not_decode :
      CallClass.of ((Client.new config).call t.endpoint (t.request a) x).result ≠ .decode :=
    fun same => other ((class_eq_iff (c := Client.new config) .decode).1 same)
  obtain ⟨report, rendered⟩ := Tool.render_of_not_decode t a not_decode
  refine ⟨report, ?_⟩
  rw [callTool_of_accept named accepted, Tool.result_run, rendered]
  rfl

/-! ### The contract -/

theorem toolCall?_toolCallParameters (name : String)
    (arguments : Option (List (String × Json))) :
    Server.toolCall? (toolCallParameters name arguments) = some ⟨name, arguments.getD []⟩ := by
  cases arguments <;> rfl

theorem answer_toolCallParameters (s : Server) (name : String)
    (arguments : Option (List (String × Json))) (x : Exchange) :
    s.answer "tools/call" (toolCallParameters name arguments) x =
      s.callTool ⟨name, arguments.getD []⟩ x := by
  simp [Server.answer, toolCall?_toolCallParameters]

theorem sending?_toolCallParameters (s : Server) (name : String)
    (arguments : Option (List (String × Json))) :
    s.sending? "tools/call" (toolCallParameters name arguments) =
      ToolCall.sending? ⟨name, arguments.getD []⟩ s.config := by
  simp [Server.sending?, toolCall?_toolCallParameters]

/-- Every tool call is of one of three kinds. -/
theorem unknown_or_refuses_or_accepts (call : ToolCall) :
    (∀ t : Tool, t.name ≠ call.name) ∨
      (∃ t : Tool, t.name = call.name ∧ t.Refuses call.arguments) ∨
      ∃ (t : Tool) (a : t.Arguments), t.name = call.name ∧ ¬ t.Refuses call.arguments ∧
        t.accept call.arguments = .ok a := by
  by_cases unknown : ∀ t : Tool, t.name ≠ call.name
  · exact .inl unknown
  · obtain ⟨t, named⟩ := Classical.not_forall.1 unknown
    have named := Classical.not_not.1 named
    by_cases refuses : t.Refuses call.arguments
    · exact .inr (.inl ⟨t, named, refuses⟩)
    · obtain ⟨a, accepted⟩ := Tool.accept_of_not_refuses refuses
      exact .inr (.inr ⟨t, a, named, refuses, accepted⟩)

theorem failsWith_iff_of_unknown (unknown : ∀ t : Tool, t.name ≠ call.name) (code : Int) :
    ((Server.mk config).callTool call x).FailsWith code ↔ -32601 = code := by
  have result : ((Server.mk config).callTool call x).result =
      .error ⟨-32601, "tools/call", none⟩ := by
    rw [callTool_of_unknown unknown]
  exact ServerOutcome.failsWith_iff_of_error result code

theorem failsWith_iff_of_refuses (named : t.name = call.name) (refuses : t.Refuses call.arguments)
    (code : Int) : ((Server.mk config).callTool call x).FailsWith code ↔ -32602 = code := by
  obtain ⟨message, outcome⟩ := callTool_of_refuses named refuses
  have result : ((Server.mk config).callTool call x).result = .error ⟨-32602, message, none⟩ := by
    rw [outcome]
  exact ServerOutcome.failsWith_iff_of_error result code

theorem failsWith_iff_of_accept {a : t.Arguments} (named : t.name = call.name)
    (accepted : t.accept call.arguments = .ok a) (code : Int) :
    ((Server.mk config).callTool call x).FailsWith code ↔
      -32603 = code ∧ EndsIn config t.endpoint x .decode := by
  -- only a reply that does not fit is no report
  by_cases ends : EndsIn config t.endpoint x .decode
  · obtain ⟨detail, result⟩ := result_callTool_of_decode named accepted ends
    rw [ServerOutcome.failsWith_iff_of_error result]
    exact (and_iff_left ends).symm
  · obtain ⟨report, result⟩ := result_callTool_of_not_decode named accepted ends
    exact iff_of_false (ServerOutcome.not_failsWith_of_ok result code) fun both => ends both.2

/-- A tool is known by its name, so what is said of one tool of a name holds of each. -/
theorem exists_named_iff {p : Tool → Prop} (named : t.name = call.name) :
    (∃ t : Tool, t.name = call.name ∧ p t) ↔ p t := by
  constructor
  · rintro ⟨t', named', holds⟩
    rwa [Tool.name_injective (named.trans named'.symm)]
  · exact fun holds => ⟨t, named, holds⟩

/-- The name is at fault just if no tool has it. -/
theorem failsWith_unknown_iff :
    ((Server.mk config).callTool call x).FailsWith (-32601) ↔ ∀ t : Tool, t.name ≠ call.name := by
  rcases unknown_or_refuses_or_accepts call with unknown | ⟨t, named, refuses⟩ |
    ⟨t, a, named, -, accepted⟩
  · rw [failsWith_iff_of_unknown unknown]
    exact iff_of_true rfl unknown
  · rw [failsWith_iff_of_refuses named refuses]
    exact iff_of_false (by decide) fun unknown => unknown t named
  · rw [failsWith_iff_of_accept named accepted]
    exact iff_of_false (fun both => absurd both.1 (by decide)) fun unknown => unknown t named

/-- The arguments are at fault just if the tool of the name refuses them. -/
theorem failsWith_refused_iff :
    ((Server.mk config).callTool call x).FailsWith (-32602) ↔
      ∃ t : Tool, t.name = call.name ∧ t.Refuses call.arguments := by
  rcases unknown_or_refuses_or_accepts call with unknown | ⟨t, named, refuses⟩ |
    ⟨t, a, named, acceptable, accepted⟩
  · rw [failsWith_iff_of_unknown unknown]
    exact iff_of_false (by decide) fun ⟨t, named, _⟩ => unknown t named
  · rw [failsWith_iff_of_refuses named refuses]
    exact iff_of_true rfl ⟨t, named, refuses⟩
  · rw [failsWith_iff_of_accept named accepted, exists_named_iff named]
    exact iff_of_false (fun both => absurd both.1 (by decide)) acceptable

/-- The reply is at fault just if the call of the bridge ends so. -/
theorem failsWith_decode_iff :
    ((Server.mk config).callTool call x).FailsWith (-32603) ↔
      ∃ t : Tool, t.name = call.name ∧ ¬ t.Refuses call.arguments ∧
        EndsIn config t.endpoint x .decode := by
  rcases unknown_or_refuses_or_accepts call with unknown | ⟨t, named, refuses⟩ |
    ⟨t, a, named, acceptable, accepted⟩
  · rw [failsWith_iff_of_unknown unknown]
    exact iff_of_false (by decide) fun ⟨t, named, _⟩ => unknown t named
  · rw [failsWith_iff_of_refuses named refuses, exists_named_iff named]
    exact iff_of_false (by decide) fun both => both.1 refuses
  · rw [failsWith_iff_of_accept named accepted, exists_named_iff named, and_iff_right rfl,
      and_iff_right acceptable]

/-- There are no other errors. -/
theorem code_of_result_error {error : RpcError}
    (failed : ((Server.mk config).callTool call x).result = .error error) :
    error.code = -32601 ∨ error.code = -32602 ∨ error.code = -32603 := by
  have fails : ((Server.mk config).callTool call x).FailsWith error.code := ⟨error, failed, rfl⟩
  rcases unknown_or_refuses_or_accepts call with unknown | ⟨t, named, refuses⟩ |
    ⟨t, a, named, -, accepted⟩
  · exact .inl ((failsWith_iff_of_unknown unknown _).1 fails).symm
  · exact .inr (.inl ((failsWith_iff_of_refuses named refuses _).1 fails).symm)
  · exact .inr (.inr ((failsWith_iff_of_accept named accepted _).1 fails).1.symm)

/-- What is the caller's fault is found before anything is done. -/
theorem untouched_of_caller_fault
    (fault : (∀ t : Tool, t.name ≠ call.name) ∨
      ∃ t : Tool, t.name = call.name ∧ t.Refuses call.arguments) :
    call.sending? config = none ∧ ((Server.mk config).callTool call x).requests = [] ∧
      ((Server.mk config).callTool call x).log = [] := by
  rcases fault with unknown | ⟨t, named, refuses⟩
  · refine ⟨sending?_of_unknown unknown, ?_⟩
    rw [callTool_of_unknown unknown]
    exact ⟨rfl, rfl⟩
  · refine ⟨sending?_of_refuses named refuses, ?_⟩
    obtain ⟨message, outcome⟩ := callTool_of_refuses named refuses
    rw [outcome]
    exact ⟨rfl, rfl⟩

/-- A call that is not at fault sends one request, if there is a URL to send it to. -/
theorem requests_of_accept {a : t.Arguments} (named : t.name = call.name)
    (accepted : t.accept call.arguments = .ok a) :
    ((call.sending? config).isSome ↔ config.Usable t.endpoint) ∧
      ((Server.mk config).callTool call x).requests =
        if x.reachesServer then ((call.sending? config).map (·.2)).toList else [] := by
  rw [sending?_of_accept named accepted, callTool_of_accept named accepted, Tool.requests_run,
    requests_call]
  exact ⟨sending?_isSome_iff, rfl⟩

/-- A tool without arguments is called in the same way whatever it is passed. -/
theorem callTool_of_not_takesArguments {name : String} (named : t.name = name)
    (idle : ¬ t.takesArguments = true) (members members' : List (String × Json)) :
    (Server.mk config).callTool ⟨name, members⟩ x = (Server.mk config).callTool ⟨name, members'⟩ x ∧
      ToolCall.sending? ⟨name, members⟩ config = ToolCall.sending? ⟨name, members'⟩ config := by
  have found := Tool.ofName?_eq_some_iff.2 named
  have same := Tool.accept_eq_of_not_takesArguments idle members members'
  simp only [Server.callTool, ToolCall.answer, ToolCall.sending?, found, same, and_self]

/-- **What a tool call leads to.**  Whatever the configuration, the name, the arguments and what
becomes of a request, the call fails with -32601 just if no tool has the name, with -32602 just if
the tool of the name takes arguments and these cannot be read as its own or name a line or a column
of zero, and with -32603 just if neither is so and the call of the bridge ends in class `decode`; it
fails with no other code.  In the first two cases nothing is sent and no client is opened.  In all
others one request is sent if the URL is usable, and none if it is not; a reply that does not fit is
reported with the path of the operation, and all else is an answer of one block of text.  The two
tools without arguments do not look at what they are passed. -/
theorem answer_toolCall_contract (config : Config) (name : String)
    (arguments : Option (List (String × Json))) (x : Exchange) :
    let server : Server := ⟨config⟩
    let members := arguments.getD []
    let params := toolCallParameters name arguments
    let outcome := server.answer "tools/call" params x
    (outcome.FailsWith (-32601) ↔ ∀ t : Tool, t.name ≠ name) ∧
      (outcome.FailsWith (-32602) ↔ ∃ t : Tool, t.name = name ∧ t.Refuses members) ∧
      (outcome.FailsWith (-32603) ↔
        ∃ t : Tool, t.name = name ∧ ¬ t.Refuses members ∧ EndsIn config t.endpoint x .decode) ∧
      (∀ error, outcome.result = .error error →
        error.code = -32601 ∨ error.code = -32602 ∨ error.code = -32603) ∧
      (outcome.FailsWith (-32601) ∨ outcome.FailsWith (-32602) →
        server.sending? "tools/call" params = none ∧ outcome.requests = [] ∧ outcome.log = []) ∧
      (∀ t : Tool, t.name = name → ¬ t.Refuses members →
        ((server.sending? "tools/call" params).isSome ↔ config.Usable t.endpoint) ∧
          outcome.requests =
            (if x.reachesServer then ((server.sending? "tools/call" params).map (·.2)).toList
              else []) ∧
          (EndsIn config t.endpoint x .decode → ∃ detail, outcome.result =
            .error ⟨-32603, "Unexpected response from " ++ t.endpoint.path ++ ": " ++ detail,
              some (.object [("kind", .string "decode")])⟩) ∧
          (¬ EndsIn config t.endpoint x .decode →
            ∃ report, outcome.result = .ok (textContent report))) ∧
      ∀ t : Tool, t = .listProjects ∨ t = .bridgeStatus → t.name = name → ∀ other,
        server.answer "tools/call" (toolCallParameters name other) x = outcome ∧
          server.sending? "tools/call" (toolCallParameters name other) =
            server.sending? "tools/call" params := by
  simp only [answer_toolCallParameters, sending?_toolCallParameters]
  refine ⟨failsWith_unknown_iff, failsWith_refused_iff, failsWith_decode_iff,
    fun error failed => code_of_result_error failed, fun fails => ?_,
    fun t named acceptable => ?_, fun t idle named other => ?_⟩
  · rw [failsWith_unknown_iff, failsWith_refused_iff] at fails
    exact untouched_of_caller_fault fails
  · obtain ⟨a, accepted⟩ := Tool.accept_of_not_refuses acceptable
    obtain ⟨sending, requests⟩ :
        _ ∧ ((Server.mk config).callTool ⟨name, arguments.getD []⟩ x).requests = _ :=
      requests_of_accept named accepted
    exact ⟨sending, requests, result_callTool_of_decode named accepted,
      result_callTool_of_not_decode named accepted⟩
  · have takes_none : ¬ t.takesArguments = true := by
      rcases idle with rfl | rfl <;> decide
    exact callTool_of_not_takesArguments named takes_none _ _

end RefactorGateway
