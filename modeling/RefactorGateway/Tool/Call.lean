import RefactorGateway.Bridge.Client
import RefactorGateway.Tool.Basic
/-!
# Tool calls

A caller names a tool and passes arguments. The call is refused, or it makes one call of the bridge
and answers with a report.

## Main Definitions

- `Refusal`: why a tool call gives no report
- `Tool.run`: the work of a tool on arguments that were read
- `ToolCall.answer`: a whole tool call

## Design Notes

Every tool call has a client of its own, which it closes before it answers; so no call can see
another. Failures to reach the bridge and rejections are routine and are reported as text. A
response that does not fit means that the two sides do not speak the same language, and is an error
of the call.
-/

namespace RefactorGateway

open Bridge Wire

/-- Why a tool call gives no report. -/
inductive Refusal
  /-- There is no tool of that name. -/
  | unknownTool
  /-- The arguments are not those of the tool. -/
  | invalidArguments (mismatch : Mismatch)
  /-- A line or a column is zero, as if places were counted from there. -/
  | zeroPosition (position : Tool.Position)
  /-- The call of the bridge failed. -/
  | failed (failure : Failure)

namespace Refusal

/-- The error code of a refusal. -/
def code : Refusal → Int
  | .unknownTool => -32601
  | .invalidArguments _ | .zeroPosition _ => -32602
  | .failed _ => -32603

/-- The wording of a refusal. -/
def message : Refusal → String
  | .unknownTool => "tools/call"
  | .invalidArguments mismatch => mismatch.message
  | .zeroPosition p =>
    "Positions are 1-indexed, got line " ++ toString p.line.toNat ++ ", column "
      ++ toString p.column.toNat
  | .failed failure => failure.summary

/-- What goes with a refusal: for a failed call, its kind. -/
def data : Refusal → Option Json.Document
  | .failed failure => some (.object [("kind", .string failure.kind.name)])
  | _ => none

end Refusal

/-- What a tool call leaves behind. -/
structure ToolOutcome where
  /-- The requests that the bridge has seen. -/
  requests : List Http.Request
  /-- The report, or why there is none. -/
  result : Except Refusal String
  log : List LogEntry

namespace Tool

/-- The report of a result. Only a response that does not fit is no report, and it is logged. -/
def render (t : Tool) (a : t.Arguments) :
    Except Failure t.endpoint.Response → Except Refusal String × List LogEntry
  | .ok response => (.ok (t.report a response), [])
  | .error failure =>
    if failure.isDecode then (.error (.failed failure), [.mismatched t.operation failure])
    else (.ok (Report.failure failure), [])

/-- Run a tool on arguments: one call of the bridge by a client of its own. -/
def run (t : Tool) (config : Config) (a : t.Arguments) (exchange : Http.Exchange) : ToolOutcome :=
  let outcome := (Client.new config).call t.endpoint (t.request a) exchange
  let (_, closing) := outcome.client.close
  let (result, rendering) := t.render a outcome.result
  { requests := outcome.requests, result
    log := t.announcement a ++ outcome.log ++ closing ++ rendering }

/-- The first place with a line or a column of zero. -/
def zeroPosition? (ps : List Position) : Option Position :=
  ps.find? fun p => p.line == 0 || p.column == 0

/-- Read and check the arguments of a tool. -/
def accept (t : Tool) (members : List (String × Json)) : Except Refusal t.Arguments :=
  match t.readArguments members with
  | .error mismatch => .error (.invalidArguments mismatch)
  | .ok a =>
    match zeroPosition? (t.positions a) with
    | some p => .error (.zeroPosition p)
    | none => .ok a

end Tool

/-- A call of a tool by its name, with the members of the object of arguments. -/
structure ToolCall where
  name : String
  arguments : List (String × Json)

/-- The request of a tool call, if it comes to one. -/
def ToolCall.sending? (call : ToolCall) (config : Config) : Option (Http.Url × Http.Request) :=
  match Tool.ofName? call.name with
  | none => none
  | some tool =>
    match tool.accept call.arguments with
    | .error _ => none
    | .ok a => (Client.new config).sending? tool.endpoint (tool.request a)

/-- An outcome without any effect. -/
def ToolOutcome.refused (refusal : Refusal) : ToolOutcome := ⟨[], .error refusal, []⟩

/-- Answer a tool call, given what becomes of a request that it sends. -/
def ToolCall.answer (call : ToolCall) (config : Config) (exchange : Http.Exchange) : ToolOutcome :=
  match Tool.ofName? call.name with
  | none => .refused .unknownTool
  | some tool =>
    match tool.accept call.arguments with
    | .error refusal => .refused refusal
    | .ok a => tool.run config a exchange

end RefactorGateway
