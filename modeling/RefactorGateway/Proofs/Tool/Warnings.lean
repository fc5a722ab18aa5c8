import RefactorGateway.Proofs.Bridge.Token
import RefactorGateway.Proofs.Json.RoundTrip
import RefactorGateway.Proofs.Text.Lossy
import RefactorGateway.Proofs.Tool.Transports
/-!
# Warnings of a tool call

A tool call that fails leaves a warning in the log, and one that succeeds leaves none.  There is one
exception: where the bridge denies success under a status that reports it, the caller is told of the
failure and the log is not.

## Main Definitions

* `warnings`: the warnings of a log
* `Denial`: a reply reports success by its status and denies it in its body
* `Warned`: a call ends in a failure, and not by such a denial

## Main Statements

* `Client.warnings_receive`, `Client.warnings_call_new`: the warnings of a client
* `Tool.warnings_run`: the warnings of a tool are those of its client and those of its report
* `Tool.exists_warnings_run`, `Tool.warnings_run_of_not_warned`: the warnings of a tool
* `callTool_warns_iff`: when a tool call warns
* `denied_projects_not_warned`: a failure that leaves no warning

## Design Notes

Both the client and the tool that reports can warn, and what is shown is the list of their warnings
and not only whether there is one.  So it also follows that no failure is warned of twice: the
client warns of nothing under a status of success, and the tool of nothing but what came under one.
-/

namespace RefactorGateway

open Bridge Http
open Json (Document)

/-! ### Logs -/

namespace Bridge

/-- The warnings of a log. -/
def warnings (log : List LogEntry) : List LogEntry := log.filter fun entry => entry.level = .warn

@[simp] theorem warnings_append (log more : List LogEntry) :
    warnings (log ++ more) = warnings log ++ warnings more :=
  List.filter_append ..

theorem mem_warnings_iff {log : List LogEntry} {entry : LogEntry} :
    entry ∈ warnings log ↔ entry ∈ log ∧ entry.level = .warn := by
  simp [warnings]

theorem warnings_eq_nil_iff {log : List LogEntry} :
    warnings log = [] ↔ ∀ entry ∈ log, entry.level ≠ .warn := by
  simp [warnings]

/-- A token that can be sent is no reason for a warning. -/
theorem warnings_openingLog {config : Config} (sendable : Sendable config.authToken) :
    warnings (openingLog config) = [] := by
  have nothing : (config.authToken.any fun t => (bearer? t).isNone) = false := by
    cases token : config.authToken with
    | none => rfl
    | some text => rw [Option.any_some, bearer?_of_headerValid (sendable text token)]; rfl
  rw [openingLog, nothing]
  rfl

/-! ### Clients -/

/-- A reply reports success by its status and denies it in its body. -/
def Denial (x : Exchange) : Prop :=
  ∃ reply members, x = .answered reply ∧ isSuccess reply.status ∧ HasObject reply members ∧
    Denies members

/-- A call of an operation ends in a failure, and not by a denial under a status of success. -/
def Warned (config : Config) (e : Endpoint) (x : Exchange) : Prop :=
  EndsIn config e x .connectivity ∨ EndsIn config e x .decode ∨
    EndsIn config e x .application ∧ ¬ Denial x

namespace Client

/-- A client warns of what is not a complete reply under a status of success. -/
theorem warnings_receive (e : Endpoint) (x : Exchange) :
    warnings (receive e x).2 =
      match x with
      | .refused cause | .unanswered cause => [.unreachable e.method e.path cause]
      | .cutShort cause => [.bodyUnread e.method e.path cause]
      | .answered reply =>
        if isSuccess reply.status then []
        else [.rejected e.method e.path (rejection reply.status (bodyText reply))] := by
  cases x with
  | refused cause => rfl
  | unanswered cause => rfl
  | cutShort cause => rfl
  | answered reply =>
    unfold receive
    simp only
    split <;> rfl

/-- A client that opens for a call only warns of what comes of its request, or that none is sent. -/
theorem warnings_call_new {config : Config} (sendable : Sendable config.authToken) (e : Endpoint)
    (r : e.Request) (x : Exchange) :
    warnings ((Client.new config).call e r x).log =
      if config.Usable e then warnings (receive e x).2
      else [.unreachable e.method e.path unusableUrl] := by
  have opening : warnings (Client.new config).acquire.2 = [] := warnings_openingLog sendable
  have sends : ((Client.new config).sending? e r).isSome ↔ config.Usable e := sending?_isSome_iff
  unfold call
  cases sent : (Client.new config).sending? e r with
  | none =>
    have unusable : ¬ config.Usable e := by rw [← sends, sent]; nofun
    simp only [warnings_append, opening, List.nil_append, if_neg unusable]
    rfl
  | some sending =>
    have usable : config.Usable e := by rw [← sends, sent]; rfl
    simp only [warnings_append, opening, List.nil_append, if_pos usable]

end Client

end Bridge

/-! ### Tools -/

namespace Tool

theorem warnings_announcement (t : Tool) (a : t.Arguments) : warnings (t.announcement a) = [] := by
  cases t <;> rfl

/-- A tool that reports warns of a response that does not fit. -/
theorem warnings_render_of_decode (t : Tool) (a : t.Arguments) (path problem : String) :
    warnings (t.render a (.error (.decode path problem))).2 =
      [.mismatched t.operation (.decode path problem)] :=
  rfl

theorem warnings_render_of_not_decode (t : Tool) (a : t.Arguments)
    {result : Except Failure t.endpoint.Response} (other : CallClass.of result ≠ .decode) :
    warnings (t.render a result).2 = [] := by
  cases result with
  | ok response => rfl
  | error failure =>
    obtain ⟨kind, message, details⟩ := failure
    cases kind with
    | connectivity => rfl
    | application => rfl
    | decode => exact absurd rfl other

section Run

variable {config : Config} {t : Tool} {a : t.Arguments} {x : Exchange}

/-- The warnings of a tool are those of its client and those of its report. -/
theorem warnings_run (sendable : Sendable config.authToken) :
    warnings (t.run config a x).log =
      (if config.Usable t.endpoint then warnings (Client.receive t.endpoint x).2
        else [.unreachable t.endpoint.method t.endpoint.path Client.unusableUrl]) ++
        warnings (t.render a ((Client.new config).call t.endpoint (t.request a) x).result).2 := by
  have closing : warnings [.closed config.baseUrl] = [] := rfl
  rw [log_run, warnings_append, warnings_append, warnings_append, warnings_announcement, closing,
    Client.warnings_call_new sendable, List.nil_append, List.append_nil]

theorem warnings_report_of_endsIn {k : CallClass} (ends : EndsIn config t.endpoint x k)
    (other : k ≠ .decode) :
    warnings (t.render a ((Client.new config).call t.endpoint (t.request a) x).result).2 = [] := by
  have ended : EndsIn (Client.new config).config t.endpoint x k := ends
  apply warnings_render_of_not_decode
  rwa [class_of_endsIn ended]

/-- A call without a complete reply is warned of. -/
theorem warnings_run_of_connectivity (sendable : Sendable config.authToken)
    (ends : EndsIn config t.endpoint x .connectivity) :
    ∃ entry, warnings (t.run config a x).log = [entry] := by
  rw [warnings_run sendable, warnings_report_of_endsIn ends nofun, List.append_nil]
  by_cases usable : config.Usable t.endpoint
  · rw [if_pos usable, Client.warnings_receive]
    cases x with
    | refused cause => exact ⟨_, rfl⟩
    | unanswered cause => exact ⟨_, rfl⟩
    | cutShort cause => exact ⟨_, rfl⟩
    | answered reply => exact (ends.resolve_left (not_not_intro usable)).elim
  · rw [if_neg usable]
    exact ⟨_, rfl⟩

/-- Under a status of success the client has nothing to warn of. -/
theorem warnings_run_of_success (sendable : Sendable config.authToken)
    (usable : config.Usable t.endpoint) {reply : Reply} (success : isSuccess reply.status) :
    warnings (t.run config a (.answered reply)).log =
      warnings (t.render a
        ((Client.new config).call t.endpoint (t.request a) (.answered reply)).result).2 := by
  rw [warnings_run sendable, if_pos usable, Client.warnings_receive]
  simp only [if_pos success, List.nil_append]

/-- A response that does not fit is warned of. -/
theorem warnings_run_of_decode (sendable : Sendable config.authToken)
    (ends : EndsIn config t.endpoint x .decode) :
    ∃ entry, warnings (t.run config a x).log = [entry] := by
  have failed : ∃ problem, ((Client.new config).call t.endpoint (t.request a) x).result =
      .error (.decode t.endpoint.path problem) :=
    result_call_of_endsIn_decode ends
  obtain ⟨problem, result⟩ := failed
  obtain ⟨usable, reply, rfl, success, -⟩ := ends
  rw [warnings_run_of_success sendable usable success, result, warnings_render_of_decode]
  exact ⟨_, rfl⟩

/-- A rejection is warned of, unless it is a denial under a status of success. -/
theorem warnings_run_of_application (sendable : Sendable config.authToken)
    (ends : EndsIn config t.endpoint x .application) (rejected : ¬ Denial x) :
    ∃ entry, warnings (t.run config a x).log = [entry] := by
  rw [warnings_run sendable, warnings_report_of_endsIn ends nofun, List.append_nil]
  obtain ⟨usable, reply, rfl, other | ⟨success, members, object, denied⟩⟩ := ends
  · rw [if_pos usable, Client.warnings_receive]
    simp only [if_neg other]
    exact ⟨_, rfl⟩
  · exact absurd ⟨reply, members, rfl, success, object, denied⟩ rejected

/-- A denial under a status of success is not warned of. -/
theorem warnings_run_of_denial (sendable : Sendable config.authToken)
    (usable : config.Usable t.endpoint) (denial : Denial x) :
    warnings (t.run config a x).log = [] := by
  obtain ⟨reply, members, rfl, success, object, denied⟩ := denial
  have ends : EndsIn config t.endpoint (.answered reply) .application :=
    ⟨usable, reply, rfl, .inr ⟨success, members, object, denied⟩⟩
  rw [warnings_run_of_success sendable usable success, warnings_report_of_endsIn ends nofun]

/-- A call that succeeds is not warned of. -/
theorem warnings_run_of_accepted (sendable : Sendable config.authToken)
    (ends : EndsIn config t.endpoint x .accepted) : warnings (t.run config a x).log = [] := by
  have report : warnings (t.render a _).2 = [] := warnings_report_of_endsIn ends nofun
  obtain ⟨response, usable, reply, members, rfl, success, -⟩ := ends
  rw [warnings_run_of_success sendable usable success, report]

theorem exists_warnings_run (sendable : Sendable config.authToken)
    (warned : Warned config t.endpoint x) :
    ∃ entry, warnings (t.run config a x).log = [entry] := by
  rcases warned with ends | ends | ⟨ends, rejected⟩
  · exact warnings_run_of_connectivity sendable ends
  · exact warnings_run_of_decode sendable ends
  · exact warnings_run_of_application sendable ends rejected

theorem warnings_run_of_not_warned (sendable : Sendable config.authToken)
    (silent : ¬ Warned config t.endpoint x) : warnings (t.run config a x).log = [] := by
  obtain ⟨k, ends⟩ := exists_endsIn config t.endpoint x
  cases k with
  | connectivity => exact absurd (.inl ends) silent
  | decode => exact absurd (.inr (.inl ends)) silent
  | application =>
    have denial : Denial x :=
      Classical.byContradiction fun rejected => silent (.inr (.inr ⟨ends, rejected⟩))
    exact warnings_run_of_denial sendable ends.1 denial
  | accepted => exact warnings_run_of_accepted sendable ends

end Run

end Tool

/-! ### Tool calls -/

theorem log_callTool_of_not_refuses (config : Config) {call : ToolCall} {t : Tool} (x : Exchange)
    (named : t.name = call.name) (acceptable : ¬ t.Refuses call.arguments) :
    ∃ a, ((Server.mk config).callTool call x).log = (t.run config a x).log := by
  obtain ⟨a, accepted⟩ := Tool.accept_of_not_refuses acceptable
  exact ⟨a, congrArg ServerOutcome.log (callTool_of_accept named accepted)⟩

/-- **When a tool call warns.**  Let a tool be called that does not refuse its arguments, with a
token that can be sent or with none.  Whatever the rest of the configuration is and whatever becomes
of the request: there is a warning in the log just if no complete reply comes, or if the reply does
not fit, or if the bridge rejects the operation in another way than by a denial under a status of
success.  There is never more than one, and a call that succeeds leaves none. -/
theorem callTool_warns_iff {config : Config} {call : ToolCall} {t : Tool} (x : Exchange)
    (named : t.name = call.name) (acceptable : ¬ t.Refuses call.arguments)
    (sendable : Sendable config.authToken) :
    let log := ((Server.mk config).callTool call x).log
    ((∃ entry ∈ log, entry.level = .warn) ↔ Warned config t.endpoint x) ∧
      (warnings log).length ≤ 1 ∧
      (EndsIn config t.endpoint x .accepted → ∀ entry ∈ log, entry.level ≠ .warn) := by
  obtain ⟨a, run⟩ := log_callTool_of_not_refuses config x named acceptable
  rw [run]
  refine ⟨?_, ?_, fun ends => ?_⟩
  · by_cases warned : Warned config t.endpoint x
    · obtain ⟨entry, only⟩ := Tool.exists_warnings_run (a := a) sendable warned
      have mem : entry ∈ warnings (t.run config a x).log := only ▸ List.mem_singleton_self entry
      exact iff_of_true ⟨entry, mem_warnings_iff.1 mem⟩ warned
    · have none := warnings_eq_nil_iff.1 (Tool.warnings_run_of_not_warned (a := a) sendable warned)
      exact iff_of_false (fun ⟨entry, mem, warns⟩ => none entry mem warns) warned
  · by_cases warned : Warned config t.endpoint x
    · obtain ⟨entry, only⟩ := Tool.exists_warnings_run (a := a) sendable warned
      rw [only]
      exact Nat.le_refl 1
    · rw [Tool.warnings_run_of_not_warned sendable warned]
      exact Nat.zero_le 1
  · exact warnings_eq_nil_iff.1 (Tool.warnings_run_of_accepted sendable ends)

/-- A rejection of a listing of projects, by a status that is no success. -/
theorem unavailable_projects_warned :
    let config : Config := ⟨Config.defaultBaseUrl, some "s3cret", Config.defaultTimeout⟩
    let call : ToolCall := ⟨"pycharm_list_projects", []⟩
    let x : Exchange := .answered ⟨503, []⟩
    Tool.listProjects.name = call.name ∧ ¬ Tool.listProjects.Refuses call.arguments ∧
      Sendable config.authToken ∧
      ∃ entry ∈ ((Server.mk config).callTool call x).log, entry.level = .warn := by
  intro config call x
  have usable : config.Usable .projects := by decide +kernel
  have acceptable : ¬ Tool.listProjects.Refuses call.arguments := fun refuses => nomatch refuses.1
  have sendable : Sendable config.authToken := by
    rintro text ⟨⟩
    exact (isHeaderValue_iff _).1 (by decide +kernel)
  have other : ¬ isSuccess 503 := by decide
  have ends : EndsIn config .projects x .application := ⟨usable, _, rfl, .inl other⟩
  have rejected : ¬ Denial x := by
    rintro ⟨reply, members, same, success, -⟩
    rw [← Exchange.answered.inj same] at success
    exact other success
  exact ⟨rfl, acceptable, sendable,
    (callTool_warns_iff (t := .listProjects) x rfl acceptable sendable).1.2
      (.inr (.inr ⟨ends, rejected⟩))⟩

/-- A denial of a listing of projects, under a status of success.  The call of the bridge ends as a
failure that is classified, and the log has no warning. -/
theorem denied_projects_not_warned :
    let config : Config := ⟨Config.defaultBaseUrl, none, Config.defaultTimeout⟩
    let call : ToolCall := ⟨"pycharm_list_projects", []⟩
    let body := "\x7b\"success\":false,\"error\":\"Project not open\"\x7d"
    let x : Exchange := .answered ⟨200, Text.toBytes body⟩
    Tool.listProjects.name = call.name ∧ ¬ Tool.listProjects.Refuses call.arguments ∧
      Sendable config.authToken ∧ EndsIn config Tool.listProjects.endpoint x .application ∧
      ¬ ∃ entry ∈ ((Server.mk config).callTool call x).log, entry.level = .warn := by
  intro config call body x
  have usable : config.Usable .projects := by decide +kernel
  have acceptable : ¬ Tool.listProjects.Refuses call.arguments := fun refuses => nomatch refuses.1
  have sendable : Sendable config.authToken := nofun
  have spelled : body = (Document.object
      [("success", .bool false), ("error", .string "Project not open")]).text := by
    decide +kernel
  have readable : (Document.object
      [("success", .bool false), ("error", .string "Project not open")]).Readable (0 + 1) := by
    simp
  have object : HasObject ⟨200, Text.toBytes body⟩
      [("error", .string "Project not open"), ("success", .bool false)] := by
    rw [HasObject, bodyText, Text.ofBytes_toBytes, spelled,
      Json.read_text (readable.mono (by decide))]
    rfl
  have denied : Denies [("error", .string "Project not open"), ("success", .bool false)] := by
    simp [Denies]
  have success : isSuccess 200 = true := by decide
  have denial : Denial x := ⟨⟨200, Text.toBytes body⟩, _, rfl, success, object, denied⟩
  have ends : EndsIn config Tool.listProjects.endpoint x .application :=
    ⟨usable, ⟨200, Text.toBytes body⟩, rfl, .inr ⟨success, _, object, denied⟩⟩
  obtain ⟨a, run⟩ := log_callTool_of_not_refuses (t := .listProjects) config x rfl acceptable
  have silent : warnings (Tool.listProjects.run config a x).log = [] :=
    Tool.warnings_run_of_denial sendable usable denial
  refine ⟨rfl, acceptable, sendable, ends, ?_⟩
  rw [run]
  rintro ⟨entry, mem, warns⟩
  exact warnings_eq_nil_iff.1 silent entry mem warns

end RefactorGateway
