import RefactorGateway.Proofs.Bridge.Session
import RefactorGateway.Proofs.Bridge.Transports
import RefactorGateway.Proofs.Tool.Outcome
/-!
# Transports of a tool call

A tool that is called opens a client and closes it before it reports.  What it says before and after
that does not speak of transports, whatever the arguments and the reply are.

## Main Definitions

* `ToolCall.Rejected`: a call is refused before anything is done

## Main Statements

* `Tool.transports_announcement`, `Tool.transports_render`: what a tool says for itself
* `Tool.log_run`: the log of a tool in its parts
* `transports_callTool`: what the log of a tool call says of transports
-/

namespace RefactorGateway

open Bridge Http

namespace Tool

/-- No tool speaks of transports when it announces its work. -/
@[simp] theorem transports_announcement (t : Tool) (a : t.Arguments) :
    transports (t.announcement a) = [] := by
  apply transports_of_aside
  intro entry mem
  cases t with
  | renameSymbol =>
    have first : Aside "Renaming symbol at " := by decide +kernel
    rw [List.mem_singleton.1 mem]
    exact (((first.append _).append _).append _).append _
  | moveElement =>
    have first : Aside "Moving element at " := by decide +kernel
    rw [List.mem_singleton.1 mem]
    exact (((first.append _).append _).append _).append _
  | safeDelete =>
    have first : Aside "Safe-deleting element at " := by decide +kernel
    rw [List.mem_singleton.1 mem]
    exact first.append _
  | listProjects | bridgeStatus | extractMethod | extractVariable | inlineElement
  | changeSignature | findUsages => exact absurd mem List.not_mem_nil

/-- No tool speaks of transports when it reports. -/
@[simp] theorem transports_render (t : Tool) (a : t.Arguments)
    (result : Except Failure t.endpoint.Response) : transports (t.render a result).2 = [] := by
  have operation : Aside t.operation := by cases t <;> decide +kernel
  cases result with
  | ok response => rfl
  | error failure =>
    unfold Tool.render
    simp only
    split
    · apply transports_of_aside
      intro entry mem
      rw [List.mem_singleton.1 mem]
      exact (operation.append _).append _
    · rfl

/-- The log of a tool, with its client closed before it reports. -/
theorem log_run (t : Tool) (config : Config) (a : t.Arguments) (x : Exchange) :
    (t.run config a x).log =
      t.announcement a ++ ((Client.new config).call t.endpoint (t.request a) x).log ++
        [.closed config.baseUrl] ++
        (t.render a ((Client.new config).call t.endpoint (t.request a) x).result).2 := by
  unfold Tool.run
  simp only [Client.client_call]
  rfl

end Tool

/-- A call is refused before anything is done. -/
def ToolCall.Rejected (call : ToolCall) : Prop :=
  (∀ t : Tool, t.name ≠ call.name) ∨
    ∃ t : Tool, t.name = call.name ∧ t.Refuses call.arguments

/-- A tool call that is not refused opens a client and closes it, and one that is refused does
neither. -/
theorem transports_callTool (s : Server) (call : ToolCall) (x : Exchange) :
    (call.Rejected → transports (s.callTool call x).log = []) ∧
      (¬ call.Rejected → transports (s.callTool call x).log =
        [.opened s.config.baseUrl, .closed s.config.baseUrl]) := by
  constructor
  · intro rejected
    have untouched : _ ∧ _ ∧ (s.callTool call x).log = [] := untouched_of_caller_fault rejected
    rw [untouched.2.2]
    rfl
  · intro accepted
    rcases unknown_or_refuses_or_accepts call with unknown | refuses | ⟨t, a, named, -, accepts⟩
    · exact absurd (.inl unknown) accepted
    · exact absurd (.inr refuses) accepted
    · rw [callTool_of_accept named accepts]
      simp only [Tool.log_run, transports_append, Tool.transports_announcement,
        Client.transports_call, transports_closed, Tool.transports_render]
      rfl

end RefactorGateway
