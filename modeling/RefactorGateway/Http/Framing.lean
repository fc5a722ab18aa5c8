import RefactorGateway.Http.Exchange
import RefactorGateway.Http.Url
import RefactorGateway.Text.Lossy
/-!
# Requests and replies as bytes

How a request is written to a connection, and what becomes of it when the connection has delivered
its last byte.

## Main Definitions

- `Request.bytes`: a request as it is written
- `Host.text`: a host as a request names it
- `Exchange.ofBytes`: what a connection has delivered

## Design Notes

Every request asks for the connection to be closed behind the reply, so a reply is complete when its
announced length, its last chunk or the end of the connection is reached.
-/

namespace RefactorGateway.Http

/-! ### Writing -/

/-- A host as it stands in a URL. -/
def Host.text : Host → String
  | .name text => text
  | .v4 n =>
    ".".intercalate ([n >>> 24, (n >>> 16) % 256, (n >>> 8) % 256, n % 256].map toString)
  | .v6 pieces =>
    "[" ++ ":".intercalate (pieces.map fun p => String.ofList (Nat.toDigits 16 p)) ++ "]"

/-- A line of a head. -/
def headerLine (name value : String) : String := name ++ ": " ++ value ++ "\r\n"

/-- A request as it is written to a connection. -/
def Request.bytes (r : Request) (url : Url) : List UInt8 :=
  Text.toBytes <|
    r.method.name ++ " " ++ r.target ++ " HTTP/1.1\r\n"
      ++ headerLine "host" (url.host.text ++ ":" ++ toString url.port)
      ++ headerLine "content-type" r.contentType
      ++ (match r.authorization with
        | some value => headerLine "authorization" value
        | none => "")
      ++ (match r.method with
        | .post => headerLine "content-length" (toString r.body.utf8ByteSize)
        | .get => "")
      ++ headerLine "accept" "*/*"
      ++ headerLine "connection" "close"
      ++ "\r\n" ++ r.body

/-! ### Reading -/

/-- A byte as a character of a head. -/
def byteChar (b : UInt8) : Char := Char.ofNat b.toNat

/-- The first line and what follows its end, or nothing if no line ends. -/
def takeLine : List UInt8 → Option (String × List UInt8)
  | [] => none
  | 13 :: 10 :: rest => some ("", rest)
  | b :: rest => (takeLine rest).map fun p => (String.ofList [byteChar b] ++ p.1, p.2)

/-- A header with its name in lower case. -/
def readHeader (line : String) : String × String :=
  let chars := line.toList
  let name := chars.takeWhile (· ≠ ':')
  let value := (chars.drop (name.length + 1)).dropWhile (· = ' ')
  (String.ofList (name.map Char.toLower), String.ofList value)

/-- The headers up to the empty line, at most `steps` of them. -/
def takeHeaders : Nat → List UInt8 → Option (List (String × String) × List UInt8)
  | 0, _ => none
  | steps + 1, bytes =>
    match takeLine bytes with
    | none => none
    | some (line, rest) =>
      if line.isEmpty then some ([], rest)
      else (takeHeaders steps rest).map fun p => (readHeader line :: p.1, p.2)

/-- The status in the first line of a reply. -/
def readStatus (line : String) : Option Nat :=
  match line.toList.splitOn ' ' with
  | version :: status :: _ =>
    if (String.ofList version).startsWith "HTTP/1." then (String.ofList status).toNat? else none
  | _ => none

/-- The body of chunks, at most `steps` of them, each after its size. -/
def takeChunks : Nat → List UInt8 → Option (List UInt8)
  | 0, _ => none
  | steps + 1, bytes => do
    let (line, rest) ← takeLine bytes
    let digits := line.toList.takeWhile fun c => (Url.hexValue? c).isSome
    let size ← if digits.isEmpty then none else Url.digitsIn 16 digits
    if size = 0 then some []
    else if rest.length < size + 2 then none
    else
      let more ← takeChunks steps (rest.drop (size + 2))
      return rest.take size ++ more

/-- The value of a header. -/
def header? (name : String) (headers : List (String × String)) : Option String :=
  (headers.find? fun h => h.1 == name).map (·.2)

/-- The body behind a head, if it is complete. -/
def takeBody (status : Nat) (headers : List (String × String)) (rest : List UInt8) :
    Option (List UInt8) :=
  if status = 204 ∨ status = 304 then some []
  else if (header? "transfer-encoding" headers).map String.toLower = some "chunked" then
    takeChunks (rest.length + 1) rest
  else
    match (header? "content-length" headers).bind String.toNat? with
    | some n => if n ≤ rest.length then some (rest.take n) else none
    | none => some rest

/-- What a closed connection has delivered. Interim replies are skipped, at most `steps` of them. -/
def readReply : Nat → List UInt8 → Exchange
  | 0, _ => .unanswered "too many interim replies"
  | steps + 1, bytes =>
    match takeLine bytes with
    | none => .unanswered "connection closed before a reply was complete"
    | some (line, rest) =>
      match readStatus line, takeHeaders (rest.length + 1) rest with
      | some status, some (headers, rest) =>
        if status < 200 then readReply steps rest
        else
          match takeBody status headers rest with
          | some body => .answered ⟨status, body⟩
          | none => .cutShort "connection closed before the body was complete"
      | _, _ => .unanswered "connection closed before a reply was complete"

/-- What becomes of a request to whose connection these bytes have come back. -/
def Exchange.ofBytes (bytes : List UInt8) : Exchange := readReply 16 bytes

end RefactorGateway.Http
