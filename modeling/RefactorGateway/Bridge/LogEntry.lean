import RefactorGateway.Bridge.Failure
import RefactorGateway.Http.Exchange
import RefactorGateway.Http.Status
/-!
# The log

What is logged while the bridge is called. An entry names what happened; its level and its text
follow from that.

## Main Definitions

- `LogEntry`: the events that are logged
- `LogEntry.level`, `LogEntry.text`: how an event is logged

## Design Notes

No entry has a place for a token, so none can be logged.
-/

namespace RefactorGateway.Bridge

/-- How important an entry is. -/
inductive LogLevel
  | debug
  | info
  | warn
  deriving DecidableEq

/-- The name of a level. -/
def LogLevel.name : LogLevel → String
  | .debug => "DEBUG"
  | .info => "INFO"
  | .warn => "WARN"

/-- What is logged. -/
inductive LogEntry
  /-- A client has made itself ready to send. -/
  | opened (baseUrl : String)
  /-- A client has let go of what it needs to send. -/
  | closed (baseUrl : String)
  /-- The token cannot stand in a header. -/
  | tokenUnusable
  /-- A request has met no answer. -/
  | unreachable (method : Http.Method) (path cause : String)
  /-- An answer has broken off. -/
  | bodyUnread (method : Http.Method) (path cause : String)
  /-- An answer is complete. -/
  | replied (method : Http.Method) (path : String) (status bytes : Nat)
  /-- An answer reports no success. -/
  | rejected (method : Http.Method) (path : String) (failure : Failure)
  /-- The answer to an operation was not the expected one. -/
  | mismatched (operation : String) (failure : Failure)
  /-- A rename begins. -/
  | renaming (file : String) (line column : UInt32) (newName : String)
  /-- A move begins. -/
  | moving (file : String) (line column : UInt32) (targetFile : String)
  /-- A deletion begins. -/
  | deleting (file : String) (line column : UInt32)
  deriving DecidableEq

namespace LogEntry

/-- How important an event is: failures warn, and what changes files is announced. -/
def level : LogEntry → LogLevel
  | .opened _ | .closed _ | .replied .. => .debug
  | .renaming .. | .moving .. | .deleting .. => .info
  | .tokenUnusable | .unreachable .. | .bodyUnread .. | .rejected .. | .mismatched .. => .warn

/-- A place in a file, for the log. -/
def place (file : String) (line column : UInt32) : String :=
  file ++ ":" ++ toString line.toNat ++ ":" ++ toString column.toNat

/-- The wording of an event. -/
def text : LogEntry → String
  | .opened baseUrl => "Opened bridge transport for " ++ baseUrl
  | .closed baseUrl => "Closed bridge transport for " ++ baseUrl
  | .tokenUnusable => "Bridge auth token is not a valid header value, sending none"
  | .unreachable method path cause =>
    method.name ++ " " ++ path ++ " failed to reach the bridge: " ++ cause
  | .bodyUnread method path cause =>
    method.name ++ " " ++ path ++ " failed while reading the response body: " ++ cause
  | .replied method path status bytes =>
    method.name ++ " " ++ path ++ " -> " ++ Http.statusText status ++ " (" ++ toString bytes
      ++ " bytes)"
  | .rejected method path failure =>
    method.name ++ " " ++ path ++ " rejected: " ++ failure.summary
  | .mismatched operation failure =>
    operation ++ ": bridge response did not match the expected schema: " ++ failure.summary
  | .renaming file line column newName =>
    "Renaming symbol at " ++ place file line column ++ " to '" ++ newName ++ "'"
  | .moving file line column targetFile =>
    "Moving element at " ++ place file line column ++ " to '" ++ targetFile ++ "'"
  | .deleting file line column => "Safe-deleting element at " ++ place file line column

end LogEntry

end RefactorGateway.Bridge
