import RefactorGateway.Proofs.Bridge.Destination
/-!
# A client in use

A client makes calls and is closed in between.  Whatever it went through, a call sends the request
that a new client would send, and the result depends on the operation and on what became of this
request alone.

## Main Definitions

* `Call`, `Operation`: what is asked of a client
* `Client.perform`, `Client.run`: what it does for one operation, and for a list of them
* `Config.request?`: the request of a call, said of the configuration and the call
* `Client.Serves`: what a client keeps of what it went through

## Main Statements

* `Client.Serves.perform`: every operation leaves a client that serves the same configuration
* `Client.Serves.effect_perform`: what an operation leaves to see does not depend on the client
* `Client.Serves.seen_run`: the same for a run
* `run_one_request_per_call`: the requests and the results of a run

## Design Notes

The only thing that a client remembers is its transport, and `Serves` says that this is always the
one that the configuration makes.  So what is seen of a run can be said operation by operation, by a
function of the configuration that knows no client (`Operation.seen`).
-/

namespace RefactorGateway.Bridge

open Http (Exchange Url)

/-! ### Operations -/

/-- A call that is asked of a client, with what becomes of its request. -/
structure Call where
  endpoint : Endpoint
  request : endpoint.Request
  exchange : Exchange

/-- What is asked of a client. -/
inductive Operation
  | make (call : Call)
  | close

/-- The call of an operation, if it is one. -/
def Operation.call? : Operation → Option Call
  | .make call => some call
  | .close => none

/-- The calls among operations, in their order. -/
def calls (operations : List Operation) : List Call := operations.filterMap Operation.call?

/-- A result, with the operation of the bridge that it is a result of. -/
structure CallResult where
  endpoint : Endpoint
  result : Except Failure endpoint.Response

/-- What an operation leaves to see. -/
structure Effect where
  /-- The requests that a server has seen. -/
  requests : List Http.Request
  /-- The result of a call. -/
  result : Option CallResult
  log : List LogEntry

namespace Client

/-- Do what is asked. -/
def perform (c : Client) : Operation → Client × Effect
  | .make call =>
    let outcome := c.call call.endpoint call.request call.exchange
    (outcome.client, ⟨outcome.requests, some ⟨call.endpoint, outcome.result⟩, outcome.log⟩)
  | .close => (c.close.1, ⟨[], none, c.close.2⟩)

/-- Do all that is asked, in this order: the client that is left, and what each operation leaves to
see. -/
def run (c : Client) : List Operation → Client × List Effect
  | [] => (c, [])
  | operation :: rest =>
    let next := c.perform operation
    let last := next.1.run rest
    (last.1, next.2 :: last.2)

theorem run_cons (c : Client) (operation : Operation) (rest : List Operation) :
    c.run (operation :: rest) =
      (((c.perform operation).1.run rest).1,
        (c.perform operation).2 :: ((c.perform operation).1.run rest).2) :=
  rfl

end Client

/-- The requests that a server has seen. -/
def requestsSeen (effects : List Effect) : List Http.Request := effects.flatMap Effect.requests

/-- The results of calls. -/
def resultsSeen (effects : List Effect) : List CallResult := effects.filterMap Effect.result

/-! ### What the configuration says -/

/-- The request of a call: a server may only be sent what the configuration and the call say.  If
the base URL carries credentials, these are sent and the token is not. -/
def Config.request? (config : Config) (call : Call) : Option Http.Request :=
  (Url.read (config.endpoint call.endpoint.path)).map fun url =>
    { method := call.endpoint.method
      target := url.target
      contentType := "application/json"
      authorization := config.authorization
      body := call.endpoint.body call.request }

/-- The result of a call whose request was handed to the network. -/
def Call.received (call : Call) : CallResult :=
  ⟨call.endpoint, (Client.receive call.endpoint call.exchange).1⟩

/-- What is to be seen of an operation: the requests that a server sees, and the result. -/
def Operation.seen (config : Config) : Operation → List Http.Request × Option CallResult
  | .make call =>
    (if call.exchange.reachesServer then (config.request? call).toList else [],
      some call.received)
  | .close => ([], none)

theorem Config.request?_isSome_iff {config : Config} {call : Call} :
    (config.request? call).isSome ↔ config.Usable call.endpoint := by
  rw [request?, Option.isSome_map, Usable]

/-! ### One operation -/

namespace Client

/-- A client has a configuration, and its transport is the one that this makes. -/
structure Serves (c : Client) (config : Config) : Prop where
  config_eq : c.config = config
  transport_eq : ∀ transport, c.transport = some transport → transport = .ofConfig config

theorem serves_new (config : Config) : (new config).Serves config := ⟨rfl, nofun⟩

variable {c : Client} {config : Config}

/-- A transport that is kept and one that is made anew are the same. -/
theorem Serves.acquire_eq (serves : c.Serves config) : c.acquire.1 = .ofConfig config := by
  unfold acquire
  cases held : c.transport with
  | some transport => exact serves.transport_eq transport held
  | none => exact congrArg Transport.ofConfig serves.config_eq

theorem client_call (c : Client) (e : Endpoint) (r : e.Request) (x : Exchange) :
    (c.call e r x).client = ⟨c.config, some c.acquire.1⟩ := by
  unfold call
  cases c.sending? e r <;> rfl

theorem close_eq (c : Client) : c.close.1 = ⟨c.config, none⟩ := by
  obtain ⟨config, transport⟩ := c
  cases transport <;> rfl

/-- Every operation leaves a client that serves the same configuration. -/
theorem Serves.perform (serves : c.Serves config) (operation : Operation) :
    (c.perform operation).1.Serves config := by
  cases operation with
  | make call =>
    rw [Client.perform, client_call, serves.acquire_eq]
    exact ⟨serves.config_eq, fun transport held => (Option.some.inj held).symm⟩
  | close =>
    rw [Client.perform, close_eq]
    exact ⟨serves.config_eq, nofun⟩

/-- What a call hands to the network is the request that the configuration says. -/
theorem Serves.sending?_eq (serves : c.Serves config) (call : Call) :
    (c.sending? call.endpoint call.request).map (·.2) = config.request? call := by
  rw [sending?, serves.acquire_eq, serves.config_eq, Option.map_map, Config.request?]
  refine Option.map_congr fun url found => ?_
  rw [← authorization_requestFor call.request found]
  rfl

/-- What an operation leaves to see does not depend on what the client went through. -/
theorem Serves.effect_perform (serves : c.Serves config) (usable : ∀ e, config.Usable e)
    (operation : Operation) :
    ((c.perform operation).2.requests, (c.perform operation).2.result) = operation.seen config := by
  cases operation with
  | make call =>
    have requests : (c.call call.endpoint call.request call.exchange).requests =
        if call.exchange.reachesServer then (config.request? call).toList else [] := by
      rw [requests_call, serves.sending?_eq]
    have result : (c.call call.endpoint call.request call.exchange).result =
        (receive call.endpoint call.exchange).1 :=
      result_call_of_usable (serves.config_eq ▸ usable call.endpoint)
    simp only [Client.perform, Operation.seen, requests, result, Call.received]
  | close => rfl

/-! ### Runs -/

theorem Serves.run (serves : c.Serves config) (operations : List Operation) :
    (c.run operations).1.Serves config := by
  induction operations generalizing c with
  | nil => exact serves
  | cons operation rest ih => exact ih (serves.perform operation)

/-- What a run leaves to see is what its operations leave to see, each on its own. -/
theorem Serves.seen_run (serves : c.Serves config) (usable : ∀ e, config.Usable e)
    (operations : List Operation) :
    (c.run operations).2.map (fun effect => (effect.requests, effect.result)) =
      operations.map (Operation.seen config) := by
  induction operations generalizing c with
  | nil => rfl
  | cons operation rest ih =>
    rw [run_cons, List.map_cons, List.map_cons, serves.effect_perform usable,
      ih (serves.perform operation)]

end Client

section Run

variable {config : Config} {operations : List Operation}

theorem requestsSeen_eq (effects : List Effect) :
    requestsSeen effects =
      (effects.map fun effect => (effect.requests, effect.result)).flatMap Prod.fst := by
  rw [requestsSeen, List.flatMap_map]

theorem resultsSeen_eq (effects : List Effect) :
    resultsSeen effects =
      (effects.map fun effect => (effect.requests, effect.result)).filterMap Prod.snd := by
  rw [resultsSeen, List.filterMap_map]
  rfl

/-- The requests that are to be seen of operations are those of the calls that reach a server. -/
theorem requests_seen (usable : ∀ e, config.Usable e) (operations : List Operation) :
    ((operations.map (Operation.seen config)).flatMap Prod.fst).map some =
      ((calls operations).filter fun call => call.exchange.reachesServer).map config.request? := by
  induction operations with
  | nil => rfl
  | cons operation rest ih =>
    cases operation with
    | close => exact ih
    | make call =>
      obtain ⟨request, sent⟩ := Option.isSome_iff_exists.1
        (Config.request?_isSome_iff.2 (usable call.endpoint))
      have first : calls (.make call :: rest) = call :: calls rest := rfl
      rw [List.map_cons, List.flatMap_cons, List.map_append, ih, first, Operation.seen]
      cases reaches : call.exchange.reachesServer with
      | true => simp [reaches, sent]
      | false => simp [reaches]

/-- The results that are to be seen of operations are those of the calls. -/
theorem results_seen (config : Config) (operations : List Operation) :
    (operations.map (Operation.seen config)).filterMap Prod.snd =
      (calls operations).map Call.received := by
  induction operations with
  | nil => rfl
  | cons operation rest ih =>
    cases operation with
    | close => exact ih
    | make call => exact congrArg (call.received :: ·) ih

theorem requestsSeen_run (usable : ∀ e, config.Usable e) (operations : List Operation) :
    (requestsSeen ((Client.new config).run operations).2).map some =
      ((calls operations).filter fun call => call.exchange.reachesServer).map config.request? := by
  rw [requestsSeen_eq, (Client.serves_new config).seen_run usable, requests_seen usable]

theorem resultsSeen_run (usable : ∀ e, config.Usable e) (operations : List Operation) :
    resultsSeen ((Client.new config).run operations).2 = (calls operations).map Call.received := by
  rw [resultsSeen_eq, (Client.serves_new config).seen_run usable, results_seen]

/-- **One request for each call, and no memory.**  Let the URL of a configuration be usable, and let
a new client do what it is asked.  Whatever it did before, a call hands one request to the network:
the one that the configuration and the call say.  The requests that a server sees are those of the
calls that reach it, one each and in their order, and so one for every call if all do.  The results
are those of the calls in their order, each decided by the operation and by what became of the
request.  So a run with the same calls has the same requests and the same results, wherever the
client is closed in between. -/
theorem run_one_request_per_call (config : Config) (usable : ∀ e, config.Usable e)
    (operations : List Operation) :
    let effects := ((Client.new config).run operations).2
    (∀ before call after, operations = before ++ .make call :: after →
      ∃ url request, config.request? call = some request ∧
        ((Client.new config).run before).1.sending? call.endpoint call.request =
          some (url, request)) ∧
      (requestsSeen effects).map some =
        ((calls operations).filter fun call => call.exchange.reachesServer).map config.request? ∧
      ((∀ call ∈ calls operations, call.exchange.reachesServer = true) →
        (requestsSeen effects).map some = (calls operations).map config.request?) ∧
      resultsSeen effects = (calls operations).map Call.received ∧
      ∀ others, calls others = calls operations →
        requestsSeen ((Client.new config).run others).2 = requestsSeen effects ∧
          resultsSeen ((Client.new config).run others).2 = resultsSeen effects := by
  have requests := requestsSeen_run usable operations
  have results := resultsSeen_run usable operations
  refine ⟨fun before call after _ => ?_, requests, fun reaches => ?_, results,
    fun others same => ⟨?_, ?_⟩⟩
  · have serves := (Client.serves_new config).run before
    have usable_here : ((Client.new config).run before).1.config.Usable call.endpoint := by
      rw [serves.config_eq]
      exact usable call.endpoint
    obtain ⟨⟨url, request⟩, sending⟩ := Option.isSome_iff_exists.1
      (sending?_isSome_iff (r := call.request).2 usable_here)
    refine ⟨url, request, ?_, sending⟩
    rw [← serves.sending?_eq, sending]
    rfl
  · rw [requests, List.filter_eq_self.2 reaches]
  · have requests' := requestsSeen_run usable others
    rw [same, ← requests] at requests'
    exact (List.map_inj_right fun _ _ => Option.some.inj).1 requests'
  · rw [resultsSeen_run usable, same, results]

/-- A client that asks for the state of the bridge in vain, is closed, and asks for the projects. -/
theorem run_reopened :
    let config : Config := ⟨Config.defaultBaseUrl, some "s3cret", Config.defaultTimeout⟩
    let health : Call := ⟨.health, (), .unanswered "operation timed out"⟩
    let projects : Call := ⟨.projects, (), .answered ⟨503, []⟩⟩
    let effects := ((Client.new config).run [.make health, .close, .make projects]).2
    (∀ e, config.Usable e) ∧
      requestsSeen effects =
        [⟨.get, "/health", "application/json", some "Bearer s3cret", ""⟩,
         ⟨.get, "/projects", "application/json", some "Bearer s3cret", ""⟩] ∧
      resultsSeen effects =
        [⟨.health, .error .connectivity⟩, ⟨.projects, .error (.ofStatus 503)⟩] := by
  intro config health projects effects
  have usable : ∀ e, config.Usable e := by
    intro e
    cases e <;> decide +kernel
  obtain ⟨-, -, requests, results, -⟩ :=
    run_one_request_per_call config usable [.make health, .close, .make projects]
  have reach : ∀ call ∈ calls [.make health, .close, .make projects],
      call.exchange.reachesServer = true := by
    simp [calls, Operation.call?, health, projects, Http.Exchange.reachesServer]
  have said : [health, projects].map config.request? =
      [some ⟨.get, "/health", "application/json", some "Bearer s3cret", ""⟩,
       some ⟨.get, "/projects", "application/json", some "Bearer s3cret", ""⟩] := by
    decide +kernel
  refine ⟨usable, ?_, results⟩
  exact (List.map_inj_right fun _ _ => Option.some.inj).1 ((requests reach).trans said)

end Run

end RefactorGateway.Bridge
