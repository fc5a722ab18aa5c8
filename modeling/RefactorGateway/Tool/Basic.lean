import RefactorGateway.Bridge.Endpoint
import RefactorGateway.Bridge.LogEntry
import RefactorGateway.Report.Refactoring
import RefactorGateway.Report.Status
import RefactorGateway.Report.Usages
import RefactorGateway.Tool.Arguments
/-!
# Tools

The ten tools that a caller is offered. Each stands for one operation of the bridge: it has
arguments of its own, turns them into a request, and turns the response into a report.

## Main Definitions

- `Tool`: the tools
- `Tool.name`, `Tool.ofName?`: the names by which they are called
- `Tool.Arguments`, `Tool.shape`, `Tool.readArguments`: what they are passed
- `Tool.endpoint`, `Tool.request`: what they ask of the bridge
- `Tool.report`: what they answer
-/

namespace RefactorGateway

open Bridge Wire

/-- The tools. -/
inductive Tool
  | listProjects
  | bridgeStatus
  | renameSymbol
  | moveElement
  | extractMethod
  | extractVariable
  | inlineElement
  | changeSignature
  | safeDelete
  | findUsages
  deriving DecidableEq

namespace Tool

/-- All tools, in the order in which they are listed. -/
def all : List Tool :=
  [.listProjects, .bridgeStatus, .renameSymbol, .moveElement, .extractMethod, .extractVariable,
   .inlineElement, .changeSignature, .safeDelete, .findUsages]

theorem mem_all (t : Tool) : t ∈ all := by cases t <;> decide

/-- The name of the operation behind a tool, as it is logged. -/
def operation : Tool → String
  | .listProjects => "list_projects"
  | .bridgeStatus => "bridge_status"
  | .renameSymbol => "rename_symbol"
  | .moveElement => "move_element"
  | .extractMethod => "extract_method"
  | .extractVariable => "extract_variable"
  | .inlineElement => "inline_element"
  | .changeSignature => "change_signature"
  | .safeDelete => "safe_delete"
  | .findUsages => "find_usages"

/-- The name by which a tool is called. -/
def name (t : Tool) : String := "pycharm_" ++ t.operation

/-- The tool with a name. -/
def ofName? (name : String) : Option Tool := all.find? fun t => t.name == name

/-- The operation of the bridge that a tool stands for. -/
def endpoint : Tool → Endpoint
  | .listProjects => .projects
  | .bridgeStatus => .health
  | .renameSymbol => .rename
  | .moveElement => .move
  | .extractMethod => .extractMethod
  | .extractVariable => .extractVariable
  | .inlineElement => .inline
  | .changeSignature => .changeSignature
  | .safeDelete => .safeDelete
  | .findUsages => .findUsages

/-- What a tool is passed. -/
def Arguments : Tool → Type
  | .listProjects | .bridgeStatus => NoArguments
  | .renameSymbol => RenameArguments
  | .moveElement => MoveArguments
  | .extractMethod => ExtractMethodArguments
  | .extractVariable => ExtractVariableArguments
  | .inlineElement => InlineArguments
  | .changeSignature => ChangeSignatureArguments
  | .safeDelete => SafeDeleteArguments
  | .findUsages => FindUsagesArguments

/-- How the arguments of a tool are written. -/
def shape : (t : Tool) → Shape t.Arguments
  | .listProjects => NoArguments.shape "ListProjectsParam"
  | .bridgeStatus => NoArguments.shape "BridgeStatusParam"
  | .renameSymbol => RenameArguments.shape
  | .moveElement => MoveArguments.shape
  | .extractMethod => ExtractMethodArguments.shape
  | .extractVariable => ExtractVariableArguments.shape
  | .inlineElement => InlineArguments.shape
  | .changeSignature => ChangeSignatureArguments.shape
  | .safeDelete => SafeDeleteArguments.shape
  | .findUsages => FindUsagesArguments.shape

/-- Whether a tool looks at what it is passed. -/
def takesArguments : Tool → Bool
  | .listProjects | .bridgeStatus => false
  | _ => true

/-- Read the arguments of a tool from the members of an object. A tool without arguments ignores
them. -/
def readArguments (t : Tool) (members : List (String × Json)) : Except Mismatch t.Arguments :=
  t.shape.decodeMembers (if t.takesArguments then members else [])

/-- The places that arguments name. -/
def positions : (t : Tool) → t.Arguments → List Position
  | .listProjects, _ | .bridgeStatus, _ => []
  | .renameSymbol, a => RenameArguments.positions a
  | .moveElement, a => MoveArguments.positions a
  | .extractMethod, a => ExtractMethodArguments.positions a
  | .extractVariable, a => ExtractVariableArguments.positions a
  | .inlineElement, a => InlineArguments.positions a
  | .changeSignature, a => ChangeSignatureArguments.positions a
  | .safeDelete, a => SafeDeleteArguments.positions a
  | .findUsages, a => FindUsagesArguments.positions a

/-- The request that arguments become. -/
def request : (t : Tool) → t.Arguments → t.endpoint.Request
  | .listProjects, _ | .bridgeStatus, _ => ()
  | .renameSymbol, a => RenameArguments.request a
  | .moveElement, a => MoveArguments.request a
  | .extractMethod, a => ExtractMethodArguments.request a
  | .extractVariable, a => ExtractVariableArguments.request a
  | .inlineElement, a => InlineArguments.request a
  | .changeSignature, a => ChangeSignatureArguments.request a
  | .safeDelete, a => SafeDeleteArguments.request a
  | .findUsages, a => FindUsagesArguments.request a

/-- The report of a response. -/
def report : (t : Tool) → t.Arguments → t.endpoint.Response → String
  | .listProjects, _, r => Report.projects r
  | .bridgeStatus, _, r => Report.health r
  | .renameSymbol, a, r => Report.rename r (RenameArguments.newName a) (RenameArguments.preview a)
  | .moveElement, a, r => Report.move r (MoveArguments.targetFile a) (MoveArguments.preview a)
  | .extractMethod, a, r =>
    Report.extractMethod r (ExtractMethodArguments.methodName a)
      (ExtractMethodArguments.preview a)
  | .extractVariable, a, r =>
    Report.extractVariable r (ExtractVariableArguments.variableName a)
      (ExtractVariableArguments.preview a)
  | .inlineElement, a, r => Report.inline r (InlineArguments.preview a)
  | .changeSignature, a, r => Report.changeSignature r (ChangeSignatureArguments.preview a)
  | .safeDelete, _, r => Report.safeDelete r
  | .findUsages, _, r => Report.findUsages r

/-- What is logged before a tool does its work: those that rename, move or delete announce it. -/
def announcement : (t : Tool) → t.Arguments → List LogEntry
  | .renameSymbol, (a : RenameArguments) => [.renaming a.filePath a.line a.column a.newName]
  | .moveElement, (a : MoveArguments) => [.moving a.filePath a.line a.column a.targetFile]
  | .safeDelete, (a : SafeDeleteArguments) => [.deleting a.filePath a.line a.column]
  | _, _ => []

end Tool

end RefactorGateway
