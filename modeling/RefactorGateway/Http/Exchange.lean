/-!
# Requests and what becomes of them

One HTTP exchange as the client sees it: the request that it hands to the network, and what comes
back.

## Main Definitions

- `Request`: what is sent
- `Reply`: a status and the bytes of a body
- `Exchange`: what becomes of a request that is handed to the network
- `isHeaderValue`: which texts can stand in a header
-/

namespace RefactorGateway.Http

/-- The methods that are used. -/
inductive Method
  | get
  | post
  deriving DecidableEq

/-- The name of a method. -/
def Method.name : Method → String
  | .get => "GET"
  | .post => "POST"

/-- A request as a server sees it. -/
structure Request where
  method : Method
  /-- The path and the query. -/
  target : String
  contentType : String
  authorization : Option String
  body : String
  deriving DecidableEq

/-- A complete reply. -/
structure Reply where
  status : Nat
  body : List UInt8
  deriving DecidableEq

/-- What becomes of a request that is handed to the network. Causes are texts for the log alone. -/
inductive Exchange
  /-- There is no connection; no server sees the request. -/
  | refused (cause : String)
  /-- A server takes the request, and no reply begins in time. -/
  | unanswered (cause : String)
  /-- A reply begins and breaks off. -/
  | cutShort (cause : String)
  /-- A reply is complete. -/
  | answered (reply : Reply)
  deriving DecidableEq

/-- Whether a server sees the request. -/
def Exchange.reachesServer : Exchange → Bool
  | .refused _ => false
  | _ => true

/-- Whether a text can stand in a header: it has no control characters but tabs. -/
def isHeaderValue (s : String) : Bool :=
  s.toList.all fun c => c = '\t' || (0x20 ≤ c.toNat && c.toNat ≠ 0x7F)

end RefactorGateway.Http
