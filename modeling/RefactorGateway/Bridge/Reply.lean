import RefactorGateway.Bridge.Endpoint
import RefactorGateway.Bridge.Failure
import RefactorGateway.Http.Status
import RefactorGateway.Json.Reader
import RefactorGateway.Text.Blank
import RefactorGateway.Text.Lossy
/-!
# What replies mean

A reply of the bridge is a response, a rejection, or something that was not to be expected. Status,
body and the `success` member decide which.

## Main Definitions

- `rejection`: what a reply says whose status does not report success
- `readResponse`: what a reply says whose status does
- `Endpoint.conclude`: the result of a complete reply

## Design Notes

Only an object can be a response or a rejection, although records may otherwise be written as lists.
A `success` of false wins over everything else in the object.
-/

namespace RefactorGateway.Bridge

open Http (Reply)

/-- The failure that a body reports next to a status that is no success. Only an object that fits an
envelope has something to say; all else counts for its status alone. -/
def rejection (status : Nat) (body : String) : Failure :=
  if Text.allBlank body then .ofStatus status
  else
    match Json.read body with
    | .ok (.object members) =>
      match Envelope.shape.decodeMembers members with
      | .ok e => .application (e.error.getD (Failure.statusMessage status)) e.details
      | .error _ => .ofStatus status
    | _ => .ofStatus status

/-- Whether an object says that the operation did not succeed. -/
def deniesSuccess (members : List (String × Json)) : Bool :=
  match Json.Members.get? "success" members with
  | some (.bool false) => true
  | _ => false

/-- The failure that an object reports which denies success. -/
def denial (members : List (String × Json)) : Failure :=
  let envelope := match Envelope.shape.decodeMembers members with
    | .ok e => e
    | .error _ => .silent
  .application (envelope.error.getD "Unknown error") envelope.details

/-- The response in a body next to a status of success. -/
def readResponse {ρ : Type} (path : String) (shape : Wire.Shape ρ) (body : String) :
    Except Failure ρ :=
  match Json.read body with
  | .error e => .error (.decode path e.message)
  | .ok (.object members) =>
    if deniesSuccess members then .error (denial members)
    else (shape.decodeMembers members).mapError fun m => .decode path m.message
  | .ok _ => .error (.decode path "expected a JSON object")

/-- The text of a reply's body. -/
def bodyText (reply : Reply) : String := Text.ofBytes reply.body

/-- The result of a complete reply. -/
def Endpoint.conclude (e : Endpoint) (reply : Reply) : Except Failure e.Response :=
  if Http.isSuccess reply.status then readResponse e.path e.response (bodyText reply)
  else .error (rejection reply.status (bodyText reply))

end RefactorGateway.Bridge
