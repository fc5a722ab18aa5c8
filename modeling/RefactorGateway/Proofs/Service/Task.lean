import RefactorGateway.Proofs.Tool.Transports
/-!
# A tool call in steps

A tool call is routed, opens its client, hands its request to the network, takes what comes back,
closes the client and is answered.  Between any two of these steps others may do theirs, and the
call may be given up, which drops its client.

## Main Definitions

* `Stage`: how far a tool call has come
* `Task`: a tool call under way
* `Task.advance`, `Task.cancel`: the next step, and what is done instead if the call is given up
* `Task.holds`: a task has opened its client and not closed it
* `Task.Trace`: what a task is and has logged in each stage

## Main Statements

* `Task.countP_advance`, `Task.countP_cancel`: a step says that it opens or closes just if it does
* `Task.Trace.advance`, `Task.Trace.cancel`: each step goes on as the call of the tool does alone
* `Task.Trace.transports`: what a task has said of transports
* `Task.advance_progress`: a task that goes on comes to its answer

## Design Notes

The steps are cut where the call waits, and also between opening, sending and closing, where it
does not: what holds of all interleavings of the finer steps holds of those of the coarser ones.
A client is dropped by closing it, also after the call has closed it itself.  In `Trace` the client
of a stage is given by the configuration, and the result by `Client.call` and `Server.callTool`;
so the steps are tied to the definitions that run.
-/

namespace RefactorGateway

open Bridge Http
open Json (Document)

/-- How far a tool call has come, with what the steps that are left need. -/
inductive Stage
  /-- Nothing has been done yet. -/
  | arrived
  /-- The tool has accepted its arguments, and there is a client. -/
  | routed (t : Tool) (a : t.Arguments) (client : Client)
  /-- The client is open. -/
  | opened (t : Tool) (a : t.Arguments) (client : Client)
  /-- The request is handed to the network. -/
  | sent (t : Tool) (a : t.Arguments) (client : Client) (request : Http.Request)
  /-- The result of the call of the bridge is there. -/
  | concluded (t : Tool) (a : t.Arguments) (client : Client)
      (result : Except Failure t.endpoint.Response)
  /-- The client has been closed. -/
  | released (t : Tool) (a : t.Arguments) (client : Client)
      (result : Except Failure t.endpoint.Response)
  /-- The caller has an answer. -/
  | answered (result : Except RpcError Document)
  /-- The call was given up. -/
  | cancelled

/-- The client of a call. -/
def Stage.client? : Stage → Option Client
  | .routed _ _ client | .opened _ _ client | .sent _ _ client _ | .concluded _ _ client _
  | .released _ _ client _ => some client
  | .arrived | .answered _ | .cancelled => none

/-- A tool call under way. -/
structure Task where
  call : ToolCall
  stage : Stage
  /-- What became of the request, as soon as it is known. -/
  exchange : Option Exchange
  /-- The requests that a server has seen. -/
  requests : List Http.Request

namespace Task

/-- A tool call that has just come. -/
def new (call : ToolCall) : Task := ⟨call, .arrived, none, []⟩

/-- The call is neither answered nor given up. -/
def inFlight (task : Task) : Bool :=
  match task.stage with
  | .answered _ | .cancelled => false
  | _ => true

/-- The call has opened its client and has not closed it. -/
def holds (task : Task) : Bool := task.stage.client?.any Client.isOpen

/-- The next step of a call, and what it logs.  What becomes of the request only matters to the step
that takes it. -/
def advance (s : Server) (x : Exchange) (task : Task) : Task × List LogEntry :=
  match task.stage with
  | .arrived =>
    match Tool.ofName? task.call.name with
    | none => ({ task with stage := .answered (.error Refusal.unknownTool.error) }, [])
    | some t =>
      match t.accept task.call.arguments with
      | .error refusal => ({ task with stage := .answered (.error refusal.error) }, [])
      | .ok a => ({ task with stage := .routed t a (Client.new s.config) }, t.announcement a)
  | .routed t a client =>
    let (transport, opening) := client.acquire
    ({ task with stage := .opened t a ⟨client.config, some transport⟩ }, opening)
  | .opened t a client =>
    match client.sending? t.endpoint (t.request a) with
    | none =>
      ({ task with stage := .concluded t a client (.error .connectivity) },
        [.unreachable t.endpoint.method t.endpoint.path Client.unusableUrl])
    | some (_, request) => ({ task with stage := .sent t a client request }, [])
  | .sent t a client request =>
    let (result, log) := Client.receive t.endpoint x
    (⟨task.call, .concluded t a client result, some x,
      if x.reachesServer then [request] else []⟩, log)
  | .concluded t a client result =>
    let (closed, closing) := client.close
    ({ task with stage := .released t a closed result }, closing)
  | .released t a client result =>
    let (report, rendering) := t.render a result
    let (_, dropping) := client.close
    ({ task with stage := .answered ((report.map Server.content).mapError Refusal.error) },
      rendering ++ dropping)
  | .answered _ | .cancelled => (task, [])

/-- Give a call up, which drops its client. -/
def cancel (task : Task) : Task × List LogEntry :=
  if task.inFlight then
    ({ task with stage := .cancelled },
      match task.stage.client? with
      | some client => client.close.2
      | none => [])
  else (task, [])

/-! ### Opening and closing -/

/-- A step opens as often as it says, and closes as often as it says. -/
theorem countP_advance (s : Server) (x : Exchange) (task : Task) :
    (task.advance s x).2.countP LogEntry.opens + task.holds.toNat =
      (task.advance s x).2.countP LogEntry.closes + (task.advance s x).1.holds.toNat := by
  obtain ⟨call, stage, exchange, requests⟩ := task
  cases stage with
  | arrived =>
    simp only [advance]
    split
    · rfl
    · next t _ =>
      split
      · rfl
      · next a _ =>
        obtain ⟨opens, closes⟩ := countP_of_transports_eq_nil (t.transports_announcement a)
        rw [opens, closes]
        rfl
  | routed t a client =>
    obtain ⟨opens, closes⟩ := client.countP_acquire
    simp only [advance, holds, Stage.client?, Option.any_some]
    rw [opens, closes]
    rfl
  | opened t a client =>
    simp only [advance]
    split
    · obtain ⟨opens, closes⟩ := countP_of_transports_eq_nil
        (transports_unreachable t.endpoint.method t.endpoint.path Client.unusableUrl)
      rw [opens, closes]
      rfl
    · rfl
  | sent t a client request =>
    obtain ⟨opens, closes⟩ :=
      countP_of_transports_eq_nil (Client.transports_receive t.endpoint x)
    simp only [advance, opens, closes]
    rfl
  | concluded t a client result =>
    obtain ⟨opens, closes⟩ := client.countP_close
    simp only [advance, holds, Stage.client?, Option.any_some, opens, closes, Client.isOpen_close]
    exact Nat.add_comm 0 _
  | released t a client result =>
    obtain ⟨opens, closes⟩ := client.countP_close
    obtain ⟨no_opening, no_closing⟩ :=
      countP_of_transports_eq_nil (t.transports_render a result)
    simp only [advance, holds, Stage.client?, Option.any_some, Option.any_none,
      List.countP_append, opens, closes, no_opening, no_closing]
    rfl
  | answered result => rfl
  | cancelled => rfl

/-- A call that is given up closes what it has opened, and says so. -/
theorem countP_cancel (task : Task) :
    task.cancel.2.countP LogEntry.opens + task.holds.toNat =
      task.cancel.2.countP LogEntry.closes + task.cancel.1.holds.toNat := by
  obtain ⟨call, stage, exchange, requests⟩ := task
  unfold cancel
  split
  · -- nothing is held any more, so the closing has to make up for what was held
    show _ = _ + 0
    unfold holds
    cases stage.client? with
    | none => rfl
    | some client =>
      obtain ⟨opens, closes⟩ := client.countP_close
      simp only [Option.any_some, opens, closes]
      exact Nat.add_comm 0 _
  · rfl

/-! ### What a task has done in each stage -/

end Task

/-- A call is one of a tool that accepts its arguments. -/
def ToolCall.Leads (call : ToolCall) (t : Tool) (a : t.Arguments) : Prop :=
  Tool.ofName? call.name = some t ∧ t.accept call.arguments = .ok a

theorem ToolCall.Leads.not_rejected {call : ToolCall} {t : Tool} {a : t.Arguments}
    (leads : call.Leads t a) : ¬ call.Rejected := by
  obtain ⟨found, accepted⟩ := leads
  have named := Tool.ofName?_eq_some_iff.1 found
  rintro (unknown | ⟨t', named', refuses⟩)
  · exact unknown t named
  · obtain rfl := Tool.name_injective (named.trans named'.symm)
    obtain ⟨refusal, refused, -⟩ := Tool.accept_of_refuses refuses
    rw [accepted] at refused
    cases refused

namespace Task

/-- What became of a request, if it is known, is this. -/
def Meets (known : Option Exchange) (x : Exchange) : Prop := ∀ y, known = some y → y = x

/-- An open client of a configuration. -/
def ready (config : Config) : Client := ⟨config, some (.ofConfig config)⟩

/-- What a task is in each stage, and what it has logged. -/
inductive Trace (s : Server) : Task → List LogEntry → Prop
  | arrived (call : ToolCall) : Trace s (new call) []
  | routed {call : ToolCall} {t : Tool} {a : t.Arguments} (leads : call.Leads t a) :
    Trace s ⟨call, .routed t a (Client.new s.config), none, []⟩ (t.announcement a)
  | opened {call : ToolCall} {t : Tool} {a : t.Arguments} (leads : call.Leads t a) :
    Trace s ⟨call, .opened t a (ready s.config), none, []⟩
      (t.announcement a ++ openingLog s.config)
  | sent {call : ToolCall} {t : Tool} {a : t.Arguments} (leads : call.Leads t a) {url : Url}
    {request : Http.Request}
    (sending : (Client.new s.config).sending? t.endpoint (t.request a) = some (url, request)) :
    Trace s ⟨call, .sent t a (ready s.config) request, none, []⟩
      (t.announcement a ++ openingLog s.config)
  | concluded {call : ToolCall} {t : Tool} {a : t.Arguments} (leads : call.Leads t a)
    {known : Option Exchange} {requests : List Http.Request}
    {result : Except Failure t.endpoint.Response} {log : List LogEntry}
    (alone : ∀ x, Meets known x → (Client.new s.config).call t.endpoint (t.request a) x =
      ⟨ready s.config, requests, result, log⟩) :
    Trace s ⟨call, .concluded t a (ready s.config) result, known, requests⟩
      (t.announcement a ++ log)
  | released {call : ToolCall} {t : Tool} {a : t.Arguments} (leads : call.Leads t a)
    {known : Option Exchange} {requests : List Http.Request}
    {result : Except Failure t.endpoint.Response} {log : List LogEntry}
    (alone : ∀ x, Meets known x → (Client.new s.config).call t.endpoint (t.request a) x =
      ⟨ready s.config, requests, result, log⟩) :
    Trace s ⟨call, .released t a (Client.new s.config) result, known, requests⟩
      (t.announcement a ++ log ++ [.closed s.config.baseUrl])
  | answered {call : ToolCall} {known : Option Exchange} {requests : List Http.Request}
    {result : Except RpcError Document} {log : List LogEntry}
    (alone : ∀ x, Meets known x → s.callTool call x = ⟨requests, result, log⟩) :
    Trace s ⟨call, .answered result, known, requests⟩ log
  | cancelled {call : ToolCall} {known : Option Exchange} {requests : List Http.Request}
    {log : List LogEntry}
    (released : transports log = [] ∨ ¬ call.Rejected ∧
      transports log = [.opened s.config.baseUrl, .closed s.config.baseUrl]) :
    Trace s ⟨call, .cancelled, known, requests⟩ log

variable {s : Server} {task : Task} {log : List LogEntry}

/-- Each step of a task goes on as the call of the tool does alone. -/
theorem Trace.advance (trace : Trace s task log) (x : Exchange) :
    Trace s (task.advance s x).1 (log ++ (task.advance s x).2) := by
  cases trace with
  | arrived call =>
    unfold Task.advance new
    simp only
    cases found : Tool.ofName? call.name with
    | none =>
      refine .answered fun y _ => ?_
      simp only [Server.callTool, ToolCall.answer, found]
      rfl
    | some t =>
      simp only
      cases accepted : t.accept call.arguments with
      | error refusal =>
        refine .answered fun y _ => ?_
        simp only [Server.callTool, ToolCall.answer, found, accepted]
        rfl
      | ok a => exact .routed ⟨found, accepted⟩
  | routed leads => exact .opened leads
  | @opened call t a leads =>
    unfold Task.advance
    simp only
    have same : (ready s.config).sending? t.endpoint (t.request a) =
        (Client.new s.config).sending? t.endpoint (t.request a) := rfl
    rw [same]
    cases sending : (Client.new s.config).sending? t.endpoint (t.request a) with
    | none =>
      rw [List.append_assoc]
      refine .concluded leads fun y _ => ?_
      simp only [Client.call, sending]
      rfl
    | some sent =>
      rw [List.append_nil]
      exact .sent leads sending
  | @sent call t a leads url request sending =>
    unfold Task.advance
    simp only
    rw [List.append_assoc]
    refine .concluded leads fun y met => ?_
    obtain rfl := met x rfl
    simp only [Client.call, sending]
    rfl
  | concluded leads alone => exact .released leads alone
  | @released call t a leads known requests result log alone =>
    unfold Task.advance
    simp only
    refine .answered fun y met => ?_
    -- the client that is dropped has been closed before, so the drop logs nothing more
    have closing : (ready s.config).close.2 = [.closed s.config.baseUrl] := rfl
    have dropping : (Client.new s.config).close.2 = [] := rfl
    simp only [Server.callTool, ToolCall.answer, leads.1, leads.2, Tool.run, alone y met, closing,
      dropping, List.append_nil, List.append_assoc]
  | answered alone =>
    rw [Task.advance, List.append_nil]
    exact .answered alone
  | cancelled released =>
    rw [Task.advance, List.append_nil]
    exact .cancelled released

theorem exists_meets (known : Option Exchange) : ∃ x, Meets known x := by
  cases known with
  | none => exact ⟨.refused "", nofun⟩
  | some x => exact ⟨x, fun y same => (Option.some.inj same).symm⟩

/-- The call of the bridge opens the client and leaves it open. -/
theorem transports_of_alone {t : Tool} {a : t.Arguments} {known : Option Exchange}
    {outcome : CallOutcome t.endpoint.Response}
    (alone : ∀ x, Meets known x →
      (Client.new s.config).call t.endpoint (t.request a) x = outcome) :
    transports outcome.log = [.opened s.config.baseUrl] := by
  obtain ⟨x, met⟩ := exists_meets known
  rw [← alone x met, Client.transports_call]
  rfl

/-- What a task has said of transports: nothing, or that it has opened one, or that it has opened
and closed one. -/
theorem Trace.transports (trace : Trace s task log) :
    (task.holds = true → ¬ task.call.Rejected ∧
        transports log = [.opened s.config.baseUrl]) ∧
      (task.holds = false → transports log = [] ∨ ¬ task.call.Rejected ∧
        transports log = [.opened s.config.baseUrl, .closed s.config.baseUrl]) := by
  cases trace with
  | arrived call => exact ⟨nofun, fun _ => .inl rfl⟩
  | @routed call t a leads => exact ⟨nofun, fun _ => .inl (t.transports_announcement a)⟩
  | @opened call t a leads | @sent call t a leads =>
    refine ⟨fun _ => ⟨leads.not_rejected, ?_⟩, nofun⟩
    rw [transports_append, Tool.transports_announcement, transports_openingLog]
    rfl
  | @concluded call t a leads _ _ _ _ alone =>
    refine ⟨fun _ => ⟨leads.not_rejected, ?_⟩, nofun⟩
    rw [transports_append, Tool.transports_announcement, transports_of_alone alone]
    rfl
  | @released call t a leads _ _ _ _ alone =>
    refine ⟨nofun, fun _ => .inr ⟨leads.not_rejected, ?_⟩⟩
    rw [transports_append, transports_append, Tool.transports_announcement,
      transports_of_alone alone, transports_closed]
    rfl
  | @answered call known _ _ _ alone =>
    refine ⟨nofun, fun _ => ?_⟩
    obtain ⟨x, met⟩ := exists_meets known
    have said := transports_callTool s call x
    rw [alone x met] at said
    exact (Classical.em call.Rejected).imp said.1 fun accepted => ⟨accepted, said.2 accepted⟩
  | cancelled released => exact ⟨nofun, fun _ => released⟩

theorem Trace.config_eq (trace : Trace s task log) {client : Client}
    (mine : task.stage.client? = some client) : client.config = s.config := by
  cases trace with
  | arrived _ | answered _ | cancelled _ => cases mine
  | routed _ | opened _ | sent _ _ | concluded _ _ | released _ _ =>
    cases mine
    rfl

/-- A task that is given up says that it closes what it holds. -/
theorem Trace.transports_cancel (trace : Trace s task log) :
    Bridge.transports task.cancel.2 =
      if task.holds then [.closed s.config.baseUrl] else [] := by
  unfold Task.cancel holds
  split
  · cases mine : task.stage.client? with
    | none => rfl
    | some client =>
      simp only [Option.any_some]
      rw [Client.transports_close, trace.config_eq mine]
  · next landed =>
    -- who has an answer or was given up has no client
    have no_client : task.stage.client? = none := by
      unfold inFlight at landed
      split at landed
      · next _ answered => rw [answered]; rfl
      · next cancelled => rw [cancelled]; rfl
      · exact absurd rfl landed
    rw [no_client]
    rfl

/-- A task that is given up has closed what it has opened. -/
theorem Trace.cancel (trace : Trace s task log) :
    Trace s task.cancel.1 (log ++ task.cancel.2) := by
  have dropping := trace.transports_cancel
  have said := trace.transports
  unfold Task.cancel at dropping ⊢
  split
  · next flying =>
    refine .cancelled ?_
    rw [if_pos flying] at dropping
    rw [transports_append, dropping]
    cases holding : task.holds with
    | false =>
      rw [if_neg Bool.false_ne_true, List.append_nil]
      exact said.2 holding
    | true =>
      obtain ⟨accepted, opened⟩ := said.1 holding
      rw [opened]
      exact .inr ⟨accepted, rfl⟩
  · rw [List.append_nil]
    exact trace

/-- How many steps a call has before it at most. -/
def stepsLeft (task : Task) : Nat :=
  match task.stage with
  | .arrived => 6
  | .routed .. => 5
  | .opened .. => 4
  | .sent .. => 3
  | .concluded .. => 2
  | .released .. => 1
  | .answered _ | .cancelled => 0

/-- A call that goes on comes closer to its answer, or has it. -/
theorem advance_progress (s : Server) (x : Exchange) (flying : task.inFlight = true) :
    (∃ result, (task.advance s x).1.stage = .answered result) ∨
      (task.advance s x).1.inFlight = true ∧ (task.advance s x).1.stepsLeft < task.stepsLeft := by
  obtain ⟨call, stage, exchange, requests⟩ := task
  cases stage with
  | arrived =>
    unfold advance
    simp only
    split
    · exact .inl ⟨_, rfl⟩
    · split
      · exact .inl ⟨_, rfl⟩
      · exact .inr ⟨rfl, Nat.lt_succ_self 5⟩
  | routed t a client => exact .inr ⟨rfl, Nat.lt_succ_self 4⟩
  | opened t a client =>
    unfold advance
    simp only
    split
    · -- what is not sent is not waited for
      exact .inr ⟨rfl, Nat.lt_of_lt_of_le (Nat.lt_succ_self 2) (Nat.le_succ 3)⟩
    · exact .inr ⟨rfl, Nat.lt_succ_self 3⟩
  | sent t a client request => exact .inr ⟨rfl, Nat.lt_succ_self 2⟩
  | concluded t a client result => exact .inr ⟨rfl, Nat.lt_succ_self 1⟩
  | released t a client result => exact .inl ⟨_, rfl⟩
  | answered result => cases flying
  | cancelled => cases flying

end Task

end RefactorGateway
