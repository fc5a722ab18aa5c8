import RefactorGateway.CommandLine
import RefactorGateway.Tool.Call
import RefactorGateway.Tool.Catalog
/-!
# The server

The server of the tools: what it says about itself, and how it answers the messages of a caller.

## Main Definitions

- `Server`: a server with its configuration
- `Server.info`: what a server says about itself
- `Server.sending?`: the request to the bridge that a request of a caller leads to
- `Server.answer`: the answer to a request of a caller

## Design Notes

The server keeps nothing but its configuration, so the answer to a request depends on that request
and on what becomes of the one call of the bridge that it may make.
-/

namespace RefactorGateway

open Bridge
open Json (Document)

/-- A server of the tools. -/
structure Server where
  config : Config
  deriving DecidableEq

/-- An error in place of an answer. -/
structure RpcError where
  code : Int
  message : String
  data : Option Document

/-- The error of a tool call that gives no report. -/
def Refusal.error (r : Refusal) : RpcError := ⟨r.code, r.message, r.data⟩

/-- What a request leaves behind. -/
structure ServerOutcome where
  /-- The requests that the bridge has seen. -/
  requests : List Http.Request
  result : Except RpcError Document
  log : List LogEntry

/-- An outcome that has nothing to do with the bridge. -/
def ServerOutcome.immediate (result : Except RpcError Document) : ServerOutcome := ⟨[], result, []⟩

namespace Server

/-- The version of the protocol that the server speaks. -/
def protocolVersion : String := "2025-03-26"

/-- What the server tells its callers about the tools as a whole. -/
def instructions : String :=
  "This MCP server performs semantic refactorings (rename, move, extract, inline, change "
    ++ "signature, safe delete, find usages) in a running PyCharm instance through the "
    ++ "Refactoring Bridge plugin. Call pycharm_list_projects first to get the project path. "
    ++ "All line and column numbers are 1-indexed. "
    ++ "Use preview=true to see the effect of a refactoring without applying it."

/-- The name and the version of the server. -/
def identity : Document :=
  .object
    [("name", .string CommandLine.programName), ("version", .string CommandLine.programVersion)]

/-- What the server says about itself to a caller with whom it speaks a version of the protocol. -/
def info (version : String) : Document :=
  .object
    [("protocolVersion", .string version),
     ("capabilities", .object [("tools", .object [])]),
     ("serverInfo", identity),
     ("instructions", .string instructions)]

/-- The version that both sides speak: the older one, since versions are dates. -/
def agreedVersion (requested : String) : String :=
  if requested < protocolVersion then requested else protocolVersion

/-- A report as the content of an answer. -/
def content (report : String) : Document :=
  .object
    [("content", .array [.object [("type", .string "text"), ("text", .string report)]]),
     ("isError", .bool false)]

/-- Answer a tool call. -/
def callTool (s : Server) (call : ToolCall) (exchange : Http.Exchange) : ServerOutcome :=
  let outcome := call.answer s.config exchange
  { requests := outcome.requests
    result := (outcome.result.map content).mapError Refusal.error
    log := outcome.log }

/-- A member of parameters that may be missing. -/
def parameter? (name : String) : Json → Option Json
  | .object members => Json.Members.get? name members
  | _ => none

/-- The tool call that parameters describe: a name and, if they are given, arguments. -/
def toolCall? (params : Json) : Option ToolCall :=
  match parameter? "name" params, parameter? "arguments" params with
  | some (.string name), some (.object members) => some ⟨name, members⟩
  | some (.string name), some .null | some (.string name), none => some ⟨name, []⟩
  | _, _ => none

/-- The error of a request whose parameters are not those of its method. -/
def badParameters : RpcError := ⟨-32602, "invalid params", none⟩

/-- What the answer to a request for a list of resources, templates or prompts calls the list. The
server has none of them. -/
def emptyList? (method : String) : Option String :=
  if method = "resources/list" then some "resources"
  else if method = "resources/templates/list" then some "resourceTemplates"
  else if method = "prompts/list" then some "prompts"
  else none

/-- The error of a request for a method that the server does not have. -/
def unknownMethod (method : String) : RpcError := ⟨-32601, method, none⟩

/-- Begin the conversation: both sides agree on a version of the protocol. -/
def greet (params : Json) : ServerOutcome :=
  match parameter? "protocolVersion" params with
  | some (.string requested) => .immediate (.ok (info (agreedVersion requested)))
  | _ => .immediate (.error badParameters)

/-- The request to the bridge that a request of a caller leads to, if it does. -/
def sending? (s : Server) (method : String) (params : Json) : Option (Http.Url × Http.Request) :=
  if method = "tools/call" then (toolCall? params).bind fun call => call.sending? s.config
  else none

/-- Answer a request of a conversation. A caller that begins it again is told the version that the
server speaks. -/
def answer (s : Server) (method : String) (params : Json) (exchange : Http.Exchange) :
    ServerOutcome :=
  if method = "initialize" then
    match parameter? "protocolVersion" params with
    | some (.string _) => .immediate (.ok (info protocolVersion))
    | _ => .immediate (.error badParameters)
  else if method = "ping" then .immediate (.ok (.object []))
  else if method = "tools/list" then .immediate (.ok Tool.catalogue)
  else if method = "tools/call" then
    match toolCall? params with
    | some call => s.callTool call exchange
    | none => .immediate (.error badParameters)
  else
    match emptyList? method with
    | some name => .immediate (.ok (.object [(name, .array [])]))
    | none => .immediate (.error (unknownMethod method))

end Server

end RefactorGateway
