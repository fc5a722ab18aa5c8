import RefactorGateway.Bridge.Config
import RefactorGateway.Bridge.LogEntry
import RefactorGateway.Bridge.Reply
import RefactorGateway.Http.Url
/-!
# The client of the bridge

A client makes calls with one configuration. It makes ready for them when it makes the first one,
stays ready, and can be told to let go; the next call then makes it ready again.

## Main Definitions

- `Transport`: what a client prepares for its calls
- `Client`: a configuration and, while the client is open, a transport
- `Client.sending?`: the request of a call
- `Client.call`: one call, given what becomes of its request
- `Client.close`: let go of the transport

## Design Notes

A call hands at most one request to the network and never a second one. What becomes of it is an
argument of the call, so that a call is a function of the client, the request and the answer.

The token is a header that a transport adds to requests that have none of this name. A URL with
credentials has one: they are sent, and the token is not.
-/

namespace RefactorGateway.Bridge

open Http (Exchange Url)

/-- What a client prepares once for all calls until it is closed. -/
structure Transport where
  /-- The header that identifies the caller where the URL does not. -/
  authorization : Option String
  /-- How long a call may take, in milliseconds. -/
  timeout : Nat
  deriving DecidableEq

/-- The header value of a token, if it can stand in a header. -/
def bearer? (token : String) : Option String :=
  let value := "Bearer " ++ token
  if Http.isHeaderValue value then some value else none

/-- The transport for a configuration. -/
def Transport.ofConfig (config : Config) : Transport :=
  ⟨config.authToken.bind bearer?, config.timeout⟩

/-- What is logged when a transport is prepared: a token that cannot be sent, and the opening. -/
def openingLog (config : Config) : List LogEntry :=
  (if config.authToken.any fun t => (bearer? t).isNone then [.tokenUnusable] else [])
    ++ [.opened config.baseUrl]

/-- A client of the bridge. -/
structure Client where
  config : Config
  transport : Option Transport
  deriving DecidableEq

/-- What a call leaves behind. -/
structure CallOutcome (α : Type) where
  /-- The client after the call. -/
  client : Client
  /-- The requests that a server has seen. -/
  requests : List Http.Request
  result : Except Failure α
  log : List LogEntry

namespace Client

/-- A client that is not open yet. -/
def new (config : Config) : Client := ⟨config, none⟩

/-- Whether a client holds a transport. -/
def isOpen (c : Client) : Bool := c.transport.isSome

/-- Let go of the transport, if there is one. -/
def close (c : Client) : Client × List LogEntry :=
  match c.transport with
  | some _ => (⟨c.config, none⟩, [.closed c.config.baseUrl])
  | none => (c, [])

/-- The transport of a client, prepared if it is not there yet. -/
def acquire (c : Client) : Transport × List LogEntry :=
  match c.transport with
  | some transport => (transport, [])
  | none => (.ofConfig c.config, openingLog c.config)

/-- The request that a call sends to a URL. -/
def requestFor (transport : Transport) (url : Url) (e : Endpoint) (r : e.Request) :
    Http.Request where
  method := e.method
  target := url.target
  contentType := "application/json"
  authorization := (url.credentials.map Http.Credentials.header).or transport.authorization
  body := e.body r

/-- The URL and the request of a call, unless the URL is none that a request can be sent to. -/
def sending? (c : Client) (e : Endpoint) (r : e.Request) : Option (Url × Http.Request) :=
  (Url.read (c.config.endpoint e.path)).map fun url => (url, requestFor c.acquire.1 url e r)

/-- The result of a call whose request was handed to the network, and what is logged of it. -/
def receive (e : Endpoint) : Exchange → Except Failure e.Response × List LogEntry
  | .refused cause | .unanswered cause =>
    (.error .connectivity, [.unreachable e.method e.path cause])
  | .cutShort cause => (.error .connectivity, [.bodyUnread e.method e.path cause])
  | .answered reply =>
    let replied : LogEntry :=
      .replied e.method e.path reply.status (bodyText reply).utf8ByteSize
    let result := e.conclude reply
    if Http.isSuccess reply.status then (result, [replied])
    else (result, [replied, .rejected e.method e.path (rejection reply.status (bodyText reply))])

/-- The cause that is logged when the URL of a call is none that a request can be sent to. -/
def unusableUrl : String := "builder error"

/-- One call. The request is only sent if the URL is usable. -/
def call (c : Client) (e : Endpoint) (r : e.Request) (exchange : Exchange) :
    CallOutcome e.Response :=
  let (transport, opening) := c.acquire
  let client : Client := ⟨c.config, some transport⟩
  match c.sending? e r with
  | none =>
    { client, requests := [], result := .error .connectivity
      log := opening ++ [.unreachable e.method e.path unusableUrl] }
  | some (_, request) =>
    let (result, log) := receive e exchange
    { client, result, log := opening ++ log
      requests := if exchange.reachesServer then [request] else [] }

end Client

end RefactorGateway.Bridge
