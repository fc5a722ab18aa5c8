import RefactorGateway.Bridge.Request
import RefactorGateway.Bridge.Response
import RefactorGateway.Http.Exchange
/-!
# Endpoints of the bridge

The ten operations that the bridge offers, with what each is sent and what it answers.

## Main Definitions

- `Endpoint`: the operations
- `Endpoint.Request`, `Endpoint.Response`: the types of requests and responses
- `Endpoint.request?`, `Endpoint.body`: how requests are written
- `Endpoint.response`: how responses are read

## Design Notes

The types of an exchange depend on the endpoint, so one definition serves all ten operations, and
what is proved of it holds for each of them.
-/

namespace RefactorGateway.Bridge

/-- The operations of the bridge. -/
inductive Endpoint
  | health
  | projects
  | rename
  | move
  | extractMethod
  | extractVariable
  | inline
  | changeSignature
  | safeDelete
  | findUsages
  deriving DecidableEq

namespace Endpoint

/-- Where an operation is found under the URL of the bridge. -/
def path : Endpoint → String
  | .health => "/health"
  | .projects => "/projects"
  | .rename => "/refactor/rename"
  | .move => "/refactor/move"
  | .extractMethod => "/refactor/extract-method"
  | .extractVariable => "/refactor/extract-variable"
  | .inline => "/refactor/inline"
  | .changeSignature => "/refactor/change-signature"
  | .safeDelete => "/refactor/safe-delete"
  | .findUsages => "/find/usages"

/-- The two operations without a request are queries. -/
def method : Endpoint → Http.Method
  | .health | .projects => .get
  | _ => .post

/-- What an operation is sent. -/
def Request : Endpoint → Type
  | .health | .projects => Unit
  | .rename => RenameRequest
  | .move => MoveRequest
  | .extractMethod => ExtractMethodRequest
  | .extractVariable => ExtractVariableRequest
  | .inline => InlineRequest
  | .changeSignature => ChangeSignatureRequest
  | .safeDelete => SafeDeleteRequest
  | .findUsages => FindUsagesRequest

/-- What an operation answers. -/
def Response : Endpoint → Type
  | .health => HealthResponse
  | .projects => ProjectListResponse
  | .rename => RenameResponse
  | .move => MoveResponse
  | .extractMethod => ExtractMethodResponse
  | .extractVariable => ExtractVariableResponse
  | .inline => InlineResponse
  | .changeSignature => ChangeSignatureResponse
  | .safeDelete => SafeDeleteResponse
  | .findUsages => FindUsagesResponse

/-- How requests are written, for the operations that have any. -/
def request? : (e : Endpoint) → Option (Wire.Shape e.Request)
  | .health | .projects => none
  | .rename => some RenameRequest.shape
  | .move => some MoveRequest.shape
  | .extractMethod => some ExtractMethodRequest.shape
  | .extractVariable => some ExtractVariableRequest.shape
  | .inline => some InlineRequest.shape
  | .changeSignature => some ChangeSignatureRequest.shape
  | .safeDelete => some SafeDeleteRequest.shape
  | .findUsages => some FindUsagesRequest.shape

/-- The text that a request is sent as. A query has none. -/
def body (e : Endpoint) (r : e.Request) : String :=
  match e.request? with
  | some shape => shape.text r
  | none => ""

/-- How responses are read and written. -/
def response : (e : Endpoint) → Wire.Shape e.Response
  | .health => HealthResponse.shape
  | .projects => ProjectListResponse.shape
  | .rename => RenameResponse.shape
  | .move => MoveResponse.shape
  | .extractMethod => ExtractMethodResponse.shape
  | .extractVariable => ExtractVariableResponse.shape
  | .inline => InlineResponse.shape
  | .changeSignature => ChangeSignatureResponse.shape
  | .safeDelete => SafeDeleteResponse.shape
  | .findUsages => FindUsagesResponse.shape

end Endpoint

end RefactorGateway.Bridge
