/-!
# Failures of bridge calls

A call of the bridge fails in one of three ways. Callers branch on the kind of a failure and never
on its text.

## Main Definitions

- `FailureKind`: the three ways
- `Failure`: a kind with a message and details
- `Failure.connectivity`, `Failure.application`, `Failure.ofStatus`, `Failure.decode`: how failures
  arise
- `Failure.summary`: a failure in one line
-/

namespace RefactorGateway.Bridge

/-- How a call of the bridge can fail. -/
inductive FailureKind
  /-- The bridge could not be reached, or broke off. -/
  | connectivity
  /-- The bridge rejected the operation. -/
  | application
  /-- The bridge reported success with something that is not the expected response. -/
  | decode
  deriving DecidableEq

/-- The name of a kind of failure. -/
def FailureKind.name : FailureKind → String
  | .connectivity => "connectivity"
  | .application => "application"
  | .decode => "decode"

/-- A failed call. -/
structure Failure where
  kind : FailureKind
  message : String
  details : Option String
  deriving DecidableEq

namespace Failure

/-- The message of every failure to reach the bridge. -/
def unreachableMessage : String := "Cannot connect to PyCharm"

/-- The hint that goes with it. -/
def unreachableHint : String :=
  "Is PyCharm running with the Refactoring Bridge plugin installed?"

/-- The bridge is out of reach. Nothing of the cause shows. -/
def connectivity : Failure := ⟨.connectivity, unreachableMessage, some unreachableHint⟩

/-- The bridge rejected the operation. -/
def application (message : String) (details : Option String) : Failure :=
  ⟨.application, message, details⟩

/-- The message for a rejection of which only the status is known. -/
def statusMessage (status : Nat) : String := "HTTP " ++ toString status

/-- A rejection of which only the status is known. -/
def ofStatus (status : Nat) : Failure := application (statusMessage status) none

/-- What the bridge sent from an endpoint is not what was expected. -/
def decode (path problem : String) : Failure :=
  ⟨.decode, "Unexpected response from " ++ path, some problem⟩

/-- Whether the bridge was out of reach. -/
def isConnectivity (f : Failure) : Bool := f.kind == .connectivity

/-- Whether the bridge rejected the operation. -/
def isApplication (f : Failure) : Bool := f.kind == .application

/-- Whether the response was not the expected one. -/
def isDecode (f : Failure) : Bool := f.kind == .decode

/-- The message and, after a colon, the details. -/
def summary (f : Failure) : String :=
  match f.details with
  | some details => f.message ++ ": " ++ details
  | none => f.message

end Failure

end RefactorGateway.Bridge
