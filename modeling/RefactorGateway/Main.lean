import RefactorGateway.Http.Framing
import RefactorGateway.Message
import Std.Async.TCP
import Std.Async.DNS
import Std.Async.Timer
/-!
# The program

The server on the standard streams: a message on each line of input, an answer on each line of
output, and the log on the error stream.
-/

namespace RefactorGateway.Program

open Std.Async Std.Net
open Bridge (LogEntry LogLevel)

/-- The addresses of a host. -/
def addresses (host : Http.Host) (port : UInt16) : Async (Array SocketAddress) := do
  match host with
  | .v4 n =>
    let byte := fun (k : Nat) => UInt8.ofNat (n >>> k)
    return #[.v4 ⟨.ofParts (byte 24) (byte 16) (byte 8) (byte 0), port⟩]
  | .v6 pieces =>
    let piece := fun (k : Nat) => UInt16.ofNat (pieces.getD k 0)
    return #[.v6 ⟨.ofParts (piece 0) (piece 1) (piece 2) (piece 3) (piece 4) (piece 5) (piece 6)
      (piece 7), port⟩]
  | .name text =>
    let found ← DNS.getAddrInfo text ""
    return found.map fun
      | .v4 a => .v4 ⟨a, port⟩
      | .v6 a => .v6 ⟨a, port⟩

/-- A connection to the first address that accepts one. -/
def connect : List SocketAddress → Async TCP.Socket.Client
  | [] => throw (IO.userError "no address accepts a connection")
  | address :: rest => do
    let socket ← TCP.Socket.Client.mk
    try
      socket.connect address
      return socket
    catch _ =>
      connect rest

/-- All bytes until the other side closes the connection. -/
partial def receiveAll (socket : TCP.Socket.Client) (seen : ByteArray) : Async ByteArray := do
  match ← socket.recv? 65536 with
  | some bytes => receiveAll socket (seen ++ bytes)
  | none => return seen

/-- Send a request over a connection and read the reply to it. -/
def converse (url : Http.Url) (request : Http.Request) (socket : TCP.Socket.Client) :
    Async Http.Exchange := do
  try
    socket.send ⟨(request.bytes url).toArray⟩
    let bytes ← receiveAll socket ByteArray.empty
    return .ofBytes bytes.toList
  catch e =>
    return .unanswered (toString e)

/-- Send a request and wait for the reply. -/
def exchange (url : Http.Url) (request : Http.Request) : Async Http.Exchange := do
  if url.secure then return .refused "encrypted connections are not supported"
  try
    let socket ← connect (← addresses url.host (UInt16.ofNat url.port)).toList
    converse url request socket
  catch e =>
    return .refused (toString e)

/-- Send a request and wait for the reply no longer than a number of milliseconds. -/
def exchangeWithin (timeout : Nat) (url : Http.Url) (request : Http.Request) :
    IO Http.Exchange := do
  let late : Async Http.Exchange := do
    sleep (.ofNat timeout)
    return .unanswered "operation timed out"
  have : Inhabited Http.Exchange := ⟨.refused ""⟩
  (Async.race (exchange url request) late).block

/-- Write an entry to the error stream, unless it is for debugging only. -/
def report (entry : LogEntry) : IO Unit := do
  if entry.level != LogLevel.debug then
    IO.eprintln (entry.level.name ++ " " ++ Text.spelledOut entry.text)

/-- Write a line to the output stream. -/
def send (line : String) : IO Unit := do
  let stdout ← IO.getStdout
  stdout.putStrLn line
  stdout.flush

/-- Answer one message. -/
def handle (server : Server) (message : Message) : IO Unit := do
  let outcome ← match message.sending? server with
    | some (url, request) => exchangeWithin server.config.timeout url request
    | none => pure (Http.Exchange.refused "")
  let (reply, log) := message.reply server outcome
  log.forM report
  reply.forM send

/-- Answer messages until the input ends. -/
partial def serve (server : Server) : IO Unit := do
  let line ← (← IO.getStdin).getLine
  if line.isEmpty then return
  if let some message := Message.read line then handle server message
  serve server

/-- Run the server; the first message has to begin the conversation. -/
def start (server : Server) : IO UInt32 := do
  IO.eprintln ("INFO " ++ Text.spelledOut (CommandLine.startText server.config))
  let line ← (← IO.getStdin).getLine
  match (Message.read line).bind Message.greeting? with
  | some greeting =>
    send greeting
    serve server
    return 0
  | none => return 1

end RefactorGateway.Program

/-- Run the command that the arguments ask for. -/
def main (arguments : List String) : IO UInt32 := do
  let url ← IO.getEnv RefactorGateway.Bridge.Config.urlVariable
  let token ← IO.getEnv RefactorGateway.Bridge.Config.tokenVariable
  let env : RefactorGateway.Bridge.Environment := fun name =>
    if name = RefactorGateway.Bridge.Config.urlVariable then url
    else if name = RefactorGateway.Bridge.Config.tokenVariable then token
    else none
  match RefactorGateway.CommandLine.parse arguments with
  | .error e =>
    IO.eprint e.text
    return 2
  | .ok .help =>
    IO.print RefactorGateway.CommandLine.helpText
    return 0
  | .ok .version =>
    IO.print RefactorGateway.CommandLine.versionText
    return 0
  | .ok (.serve settings) => RefactorGateway.Program.start ⟨settings.config env⟩
