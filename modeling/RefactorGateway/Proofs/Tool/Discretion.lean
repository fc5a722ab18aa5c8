import RefactorGateway.Proofs.Bridge.Token
import RefactorGateway.Proofs.Tool.Transports
/-!
# Tools keep the token to themselves

A tool hands the token to its client and does not look at it.  What it reports and what it logs
comes of its arguments and of the reply; so the token can be seen in the authorization header of a
request and nowhere else.

## Main Definitions

* `ServerOutcome.observation`: what is to be seen of a request of a caller

## Main Statements

* `Tool.run_identifying`: what a token changes of the work of a tool
* `observation_callTool`: what a token changes of a tool call
* `token_kept`: what a token changes of runs of a client and of runs of tool calls
-/

namespace RefactorGateway

open Bridge Http
open Json (Document)

/-- What is to be seen of a request of a caller. -/
def ServerOutcome.observation (outcome : ServerOutcome) :
    Observation (Except RpcError Document) :=
  ⟨outcome.requests, outcome.result, outcome.log⟩

variable (config : Config) (token : Option String)

/-- What a token changes of the work of a tool is what it changes of the call of the bridge. -/
theorem Tool.run_identifying (t : Tool) (a : t.Arguments) (x : Exchange) :
    let outcome := t.run (config.identifying token) a x
    let nameless := t.run (config.identifying none) a x
    outcome.requests = nameless.requests.map (Http.Request.bearing token) ∧
      outcome.result = nameless.result ∧ outcome.log = warnedOf token nameless.log := by
  obtain ⟨requests, result, log⟩ :=
    Client.call_new_identifying config token t.endpoint (t.request a) x
  refine ⟨?_, ?_, ?_⟩
  · rw [requests_run, requests_run, requests]
  · rw [result_run, result_run, result]
  · rw [log_run, log_run, result, log, warnedOf_append, warnedOf_append, warnedOf_append,
      warnedOf_of_transports_eq_nil (t.transports_announcement a), warnedOf_closed,
      warnedOf_of_transports_eq_nil (t.transports_render a _)]
    rfl

/-- What a token changes of a tool call. -/
theorem observation_callTool (call : ToolCall) (x : Exchange) :
    ((Server.mk (config.identifying token)).callTool call x).observation =
      ((Server.mk (config.identifying none)).callTool call x).observation.bearing token := by
  unfold ServerOutcome.observation Observation.bearing Server.callTool ToolCall.answer
  -- a call that is refused never comes to see the configuration
  have silent : warnedOf token [] = [] := warnedOf_of_transports_eq_nil transports_nil token
  cases Tool.ofName? call.name with
  | none => exact congrArg (Observation.mk [] _) silent.symm
  | some t =>
    simp only
    cases t.accept call.arguments with
    | error refusal => exact congrArg (Observation.mk [] _) silent.symm
    | ok a =>
      obtain ⟨requests, result, log⟩ := t.run_identifying config token a x
      simp only [requests, result, log]

/-- What identifies the caller in the request of a tool call. -/
theorem authorization_callTool {call : ToolCall} {x : Exchange} {request : Http.Request}
    (sent : request ∈ ((Server.mk config).callTool call x).requests) :
    request.authorization = config.authorization := by
  unfold Server.callTool ToolCall.answer at sent
  cases named : Tool.ofName? call.name with
  | none =>
    rw [named] at sent
    cases sent
  | some t =>
    simp only [named] at sent
    cases accepted : t.accept call.arguments with
    | error refusal =>
      rw [accepted] at sent
      cases sent
    | ok a =>
      simp only [accepted, t.requests_run] at sent
      exact Client.authorization_call config (Client.serves_new config) sent

/-- **The token is kept.**  Let a configuration have this token or that or none.  Whatever a client
is asked to do, and whatever tools are called, and whatever becomes of the requests: with tokens
that can stand in a header, and without one, all results, reports, errors and logs are the same, and
the requests are the same but for the authorization header.  If the base URL carries no credentials,
this is the scheme and the token on all requests, or is on none.  If it carries credentials, these
are on all requests and the token is on none.  With a token that cannot stand in a header, all is as
without a token, but for a warning before each message that a transport was opened, of which the
token is no part.  So no authorization header that is sent has a control character in it but
tabs. -/
theorem token_kept :
    (∀ operations : List Operation, Discreet config.credentials? fun token =>
        ((Client.new (config.identifying token)).run operations).2.map Effect.observation) ∧
      (∀ calls : List (ToolCall × Exchange), Discreet config.credentials? fun token =>
        calls.map fun call =>
          ((Server.mk (config.identifying token)).callTool call.1 call.2).observation) ∧
      LogEntry.tokenUnusable.level = .warn ∧
      ∀ token, ¬ HeaderValid token →
        ¬ token.toList <:+: LogEntry.tokenUnusable.text.toList := by
  refine ⟨Client.discreet_run config, fun calls => ?_, ?_, ?_⟩
  · apply discreet_of_bearing
    · intro token
      rw [List.map_map]
      apply List.map_congr_left
      intro call _
      exact observation_callTool config token call.1 call.2
    · refine List.forall_mem_map.2 fun call _ request sent => ?_
      rw [authorization_callTool (config.identifying none) sent]
      exact Option.or_none
  · rfl
  · intro token invalid
    exact headerValid_warning.not_infix invalid

/-- Credentials in the base URL take the place of a token that could be sent: the bridge is told the
user and the password, and not the token. -/
theorem credentials_sent_for_token :
    let config : Config :=
      ⟨"http://user:pw@127.0.0.1:9876", some "s3cret", Config.defaultTimeout⟩
    let status : Call := ⟨.health, (), .answered ⟨503, []⟩⟩
    let sent := requestsSeen ((Client.new config).run [.make status]).2
    HeaderValid "s3cret" ∧
      sent = [⟨.get, "/health", "application/json", some "Basic dXNlcjpwdw==", ""⟩] ∧
      ¬ ((∀ request ∈ sent, request.authorization = some "Bearer s3cret") ∨
        ∀ request ∈ sent, request.authorization = none) := by
  intro config status sent
  have seen : sent = [⟨.get, "/health", "application/json", some "Basic dXNlcjpwdw==", ""⟩] := by
    decide +kernel
  refine ⟨(isHeaderValue_iff _).1 (by decide +kernel), seen, ?_⟩
  rw [seen]
  decide

end RefactorGateway
