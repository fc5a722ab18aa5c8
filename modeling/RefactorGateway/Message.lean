import RefactorGateway.Json.Reader
import RefactorGateway.Server
/-!
# Messages between caller and server

Requests, notifications and answers as lines of text.

## Main Definitions

- `Message.read`: the message in a line
- `Message.sending?`: the request to the bridge that a message leads to
- `Message.greeting?`: the line that answers the first message
- `Message.reply`: the line that answers a later message
-/

namespace RefactorGateway

open Json (Document)

/-- A message of a caller. -/
structure Message where
  /-- What the answer is marked with. A message without it is not answered. -/
  id : Option Document
  method : String
  params : Json

namespace Message

/-- A member of the object that a line holds. -/
def member? (name : String) (members : List (String × Document)) : Option Document :=
  Json.Members.get? name members

/-- The message in a line, if there is one. -/
def read (line : String) : Option Message :=
  match Document.read line with
  | .ok (.object members) =>
    match member? "method" members with
    | some (.string method) =>
      let params := ((member? "params" members).getD .null).value
      some ⟨member? "id" members, method, params⟩
    | _ => none
  | _ => none

/-- The request to the bridge that a message leads to, if it does. -/
def sending? (m : Message) (s : Server) : Option (Http.Url × Http.Request) :=
  if m.id.isSome then s.sending? m.method m.params else none

/-- An error as it is written. -/
def errorDocument (e : RpcError) : Document :=
  .object <|
    [("code", .ofInt e.code), ("message", .string e.message)]
    ++ (match e.data with
      | some data => [("data", data)]
      | none => [])

/-- The line that tells how an answer comes out. -/
def line (id : Document) (result : Except RpcError Document) : String :=
  let body := match result with
    | .ok result => ("result", result)
    | .error e => ("error", errorDocument e)
  Document.text (.object [("jsonrpc", .string "2.0"), ("id", id), body])

/-- The line that answers the message with which a conversation begins. -/
def greeting? (m : Message) : Option String :=
  if m.method = "initialize" then
    m.id.map fun id => line id (Server.greet m.params).result
  else none

/-- The line that answers a message, given what becomes of a request that it leads to, and what is
logged. -/
def reply (m : Message) (s : Server) (exchange : Http.Exchange) :
    Option String × List Bridge.LogEntry :=
  match m.id with
  | none => (none, [])
  | some id =>
    let outcome := s.answer m.method m.params exchange
    (some (line id outcome.result), outcome.log)

end Message

end RefactorGateway
