import RefactorGateway.Bridge.Client
/-!
# How calls of the bridge end

Every call of the bridge ends in exactly one of four classes, and which one is decided by the URL,
by what became of the request, by the status, and by the shape of the body, in this order.

## Main Definitions

* `Config.Usable`: a request can be sent to an endpoint
* `CallClass`, `CallClass.of`: the four classes, and the class of a result
* `EndsIn`: when a call ends in a class, said without the code that decides it

## Main Statements

* `conclude_of_not_success`, `conclude_of_unreadable`, `conclude_of_no_object`,
  `conclude_of_denied`, `conclude_of_object`: the result of a complete reply, one equation for each
  way in which it can go
* `result_call_of_usable`, `result_call_of_not_usable`: the result of a call
* `call_classified`: a call ends in the class in which `EndsIn` puts it, and in no other

## Design Notes

`EndsIn` only speaks of the value of the body as JSON and of reading a response from it.  It names
neither `rejection` nor `readResponse`, so it says what these should do and not how they do it.
-/

namespace RefactorGateway.Bridge

open Http (Exchange Reply Url)

/-- A request can be sent to the endpoint of an operation. -/
def Config.Usable (config : Config) (e : Endpoint) : Prop :=
  (Url.read (config.endpoint e.path)).isSome

instance (config : Config) (e : Endpoint) : Decidable (config.Usable e) :=
  inferInstanceAs (Decidable ((Url.read (config.endpoint e.path)).isSome = true))

/-- The body of a reply is an object with these members. -/
def HasObject (reply : Reply) (members : List (String × Json)) : Prop :=
  Json.read (bodyText reply) = .ok (.object members)

/-- The `success` member is there and is exactly false. -/
def Denies (members : List (String × Json)) : Prop :=
  Json.Members.get? "success" members = some (.bool false)

theorem deniesSuccess_iff {members : List (String × Json)} :
    deniesSuccess members = true ↔ Denies members := by
  unfold deniesSuccess Denies
  split
  · next denied => simp [denied]
  · next other => exact ⟨nofun, fun denied => absurd denied other⟩

/-! ### Complete replies -/

theorem kind_rejection (status : Nat) (body : String) :
    (rejection status body).kind = .application := by
  unfold rejection
  split
  · rfl
  · split
    · split <;> rfl
    · rfl

theorem kind_denial (members : List (String × Json)) : (denial members).kind = .application := rfl

variable {e : Endpoint} {reply : Reply} {members : List (String × Json)}

/-- Next to another status than one of success, the body only serves for the message. -/
theorem conclude_of_not_success (other : ¬ Http.isSuccess reply.status) :
    e.conclude reply = .error (rejection reply.status (bodyText reply)) :=
  if_neg other

/-- A body that is no JSON does not fit. -/
theorem conclude_of_unreadable (success : Http.isSuccess reply.status) {problem : Json.ReadError}
    (unreadable : Json.read (bodyText reply) = .error problem) :
    e.conclude reply = .error (.decode e.path problem.message) := by
  simp only [Endpoint.conclude, if_pos success, readResponse, unreadable]

/-- A body that is no object does not fit, even if a record could be read from it. -/
theorem conclude_of_no_object (success : Http.isSuccess reply.status) {value : Json}
    (readable : Json.read (bodyText reply) = .ok value)
    (no_object : ∀ members, value ≠ .object members) :
    e.conclude reply = .error (.decode e.path "expected a JSON object") := by
  cases value with
  | object members => exact absurd rfl (no_object members)
  | null | bool _ | number _ | string _ | array _ =>
    simp only [Endpoint.conclude, if_pos success, readResponse, readable]

/-- An object that denies success is a rejection, whatever else it holds. -/
theorem conclude_of_denied (success : Http.isSuccess reply.status)
    (object : HasObject reply members) (denied : Denies members) :
    e.conclude reply = .error (denial members) := by
  rw [HasObject] at object
  simp only [Endpoint.conclude, if_pos success, readResponse, object,
    if_pos (deniesSuccess_iff.2 denied)]

/-- All other objects are read as the response of the operation. -/
theorem conclude_of_object (success : Http.isSuccess reply.status)
    (object : HasObject reply members) (accepted : ¬ Denies members) :
    e.conclude reply =
      (e.response.decode (.object members)).mapError fun m => .decode e.path m.message := by
  rw [HasObject] at object
  have not_denied : ¬ deniesSuccess members = true := fun h => accepted (deniesSuccess_iff.1 h)
  simp only [Endpoint.conclude, if_pos success, readResponse, object, if_neg not_denied,
    Wire.Shape.decode]

/-! ### Calls -/

theorem result_call_of_not_usable {c : Client} {r : e.Request} {x : Exchange}
    (unusable : ¬ c.config.Usable e) : (c.call e r x).result = .error .connectivity := by
  have no_url : Url.read (c.config.endpoint e.path) = none := by
    simpa [Config.Usable] using unusable
  simp only [Client.call, Client.sending?, no_url, Option.map_none]

theorem result_call_of_usable {c : Client} {r : e.Request} {x : Exchange}
    (usable : c.config.Usable e) : (c.call e r x).result = (Client.receive e x).1 := by
  obtain ⟨url, read⟩ := Option.isSome_iff_exists.1 usable
  simp only [Client.call, Client.sending?, read, Option.map_some]

/-- The requests that a server sees are at most the one that the call sends. -/
theorem requests_call (c : Client) (e : Endpoint) (r : e.Request) (x : Exchange) :
    (c.call e r x).requests =
      if x.reachesServer then ((c.sending? e r).map (·.2)).toList else [] := by
  unfold Client.call
  cases c.sending? e r with
  | none => simp
  | some sending => rfl

theorem sending?_isSome_iff {c : Client} {r : e.Request} :
    (c.sending? e r).isSome ↔ c.config.Usable e := by
  rw [Client.sending?, Option.isSome_map, Config.Usable]

theorem receive_answered (e : Endpoint) (reply : Reply) :
    (Client.receive e (.answered reply)).1 = e.conclude reply := by
  unfold Client.receive
  simp only
  split <;> rfl

/-! ### Classes -/

/-- How a call can end. -/
inductive CallClass
  /-- No complete reply has come. -/
  | connectivity
  /-- The bridge rejected the operation. -/
  | application
  /-- The reply reports success and is no response of the operation. -/
  | decode
  /-- The reply is a response of the operation. -/
  | accepted
  deriving DecidableEq

/-- The class of a result. -/
def CallClass.of {ρ : Type} : Except Failure ρ → CallClass
  | .ok _ => .accepted
  | .error ⟨.connectivity, _, _⟩ => .connectivity
  | .error ⟨.application, _, _⟩ => .application
  | .error ⟨.decode, _, _⟩ => .decode

theorem CallClass.of_error {ρ : Type} (failure : Failure) :
    CallClass.of (.error failure : Except Failure ρ) =
      match failure.kind with
      | .connectivity => .connectivity
      | .application => .application
      | .decode => .decode := by
  obtain ⟨kind, message, details⟩ := failure
  cases kind <;> rfl

/-- A request is not sent, or no complete reply comes of it. -/
def NoReply : Exchange → Prop
  | .refused _ | .unanswered _ | .cutShort _ => True
  | .answered _ => False

/-- A call of an operation gives a response: the reply reports success and does not deny it, and the
response is what is read from its object. -/
def Returns (config : Config) (e : Endpoint) (x : Exchange) (response : e.Response) : Prop :=
  config.Usable e ∧ ∃ reply members, x = .answered reply ∧ Http.isSuccess reply.status ∧
    HasObject reply members ∧ ¬ Denies members ∧
    e.response.decode (.object members) = .ok response

/-- When a call of an operation ends in a class. -/
def EndsIn (config : Config) (e : Endpoint) (x : Exchange) : CallClass → Prop
  | .connectivity => ¬ config.Usable e ∨ NoReply x
  | .application =>
    config.Usable e ∧ ∃ reply, x = .answered reply ∧
      (¬ Http.isSuccess reply.status ∨
        Http.isSuccess reply.status ∧ ∃ members, HasObject reply members ∧ Denies members)
  | .decode =>
    config.Usable e ∧ ∃ reply, x = .answered reply ∧ Http.isSuccess reply.status ∧
      ((∃ problem, Json.read (bodyText reply) = .error problem) ∨
        (∃ value, Json.read (bodyText reply) = .ok value ∧ ∀ members, value ≠ .object members) ∨
        ∃ members, HasObject reply members ∧ ¬ Denies members ∧
          ∃ mismatch, e.response.decode (.object members) = .error mismatch)
  | .accepted => ∃ response, Returns config e x response

variable {c : Client} {r : e.Request} {x : Exchange}

theorem result_call_of_returns {response : e.Response}
    (returns : Returns c.config e x response) : (c.call e r x).result = .ok response := by
  obtain ⟨usable, reply, members, rfl, success, object, accepted, decoded⟩ := returns
  rw [result_call_of_usable usable, receive_answered, conclude_of_object success object accepted,
    decoded]
  rfl

theorem result_call_of_endsIn_connectivity (ends : EndsIn c.config e x .connectivity) :
    (c.call e r x).result = .error .connectivity := by
  by_cases usable : c.config.Usable e
  · rw [result_call_of_usable usable]
    cases x with
    | refused cause => rfl
    | unanswered cause => rfl
    | cutShort cause => rfl
    | answered reply => exact (ends.resolve_left (not_not_intro usable)).elim
  · exact result_call_of_not_usable usable

/-- A reply that does not fit is reported with the path of the operation. -/
theorem result_call_of_endsIn_decode (ends : EndsIn c.config e x .decode) :
    ∃ problem, (c.call e r x).result = .error (.decode e.path problem) := by
  obtain ⟨usable, reply, rfl, success, misfit⟩ := ends
  rw [result_call_of_usable usable, receive_answered]
  rcases misfit with ⟨problem, unreadable⟩ | ⟨value, readable, no_object⟩ |
    ⟨members, object, accepted, mismatch, refused⟩
  · exact ⟨_, conclude_of_unreadable success unreadable⟩
  · exact ⟨_, conclude_of_no_object success readable no_object⟩
  · rw [conclude_of_object success object accepted, refused]
    exact ⟨_, rfl⟩

/-- A call that meets the condition of a class ends in that class. -/
theorem class_of_endsIn {k : CallClass} (ends : EndsIn c.config e x k) :
    CallClass.of (c.call e r x).result = k := by
  cases k with
  | connectivity =>
    rw [result_call_of_endsIn_connectivity ends]
    rfl
  | application =>
    obtain ⟨usable, reply, rfl, other | ⟨success, members, object, denied⟩⟩ := ends
    · rw [result_call_of_usable usable, receive_answered, conclude_of_not_success other,
        CallClass.of_error, kind_rejection]
    · rw [result_call_of_usable usable, receive_answered,
        conclude_of_denied success object denied, CallClass.of_error, kind_denial]
  | decode =>
    obtain ⟨problem, result⟩ := result_call_of_endsIn_decode (r := r) ends
    rw [result]
    rfl
  | accepted =>
    obtain ⟨response, returns⟩ := ends
    rw [result_call_of_returns returns]
    rfl

/-- Every call meets the condition of some class. -/
theorem exists_endsIn (config : Config) (e : Endpoint) (x : Exchange) :
    ∃ k, EndsIn config e x k := by
  -- the cases are told apart in the order in which a call comes to them
  by_cases usable : config.Usable e
  · cases x with
    | refused cause => exact ⟨.connectivity, .inr trivial⟩
    | unanswered cause => exact ⟨.connectivity, .inr trivial⟩
    | cutShort cause => exact ⟨.connectivity, .inr trivial⟩
    | answered reply =>
      by_cases success : Http.isSuccess reply.status = true
      · cases read : Json.read (bodyText reply) with
        | error problem => exact ⟨.decode, usable, reply, rfl, success, .inl ⟨problem, read⟩⟩
        | ok value =>
          cases value with
          | object members =>
            by_cases denied : Denies members
            · exact ⟨.application, usable, reply, rfl, .inr ⟨success, members, read, denied⟩⟩
            · cases decoded : e.response.decode (.object members) with
              | error mismatch =>
                exact ⟨.decode, usable, reply, rfl, success,
                  .inr (.inr ⟨members, read, denied, mismatch, decoded⟩)⟩
              | ok response =>
                exact ⟨.accepted, response, usable, reply, members, rfl, success, read, denied,
                  decoded⟩
          | null | bool _ | number _ | string _ | array _ =>
            exact ⟨.decode, usable, reply, rfl, success, .inr (.inl ⟨_, read, nofun⟩)⟩
      · exact ⟨.application, usable, reply, rfl, .inl success⟩
  · exact ⟨.connectivity, .inl usable⟩

theorem class_eq_iff (k : CallClass) :
    CallClass.of (c.call e r x).result = k ↔ EndsIn c.config e x k := by
  refine ⟨fun same => ?_, class_of_endsIn⟩
  -- the call meets the condition of some class, and by that it ends in it
  obtain ⟨k', ends⟩ := exists_endsIn c.config e x
  rw [class_of_endsIn ends] at same
  exact same ▸ ends

theorem returns_of_result {response : e.Response}
    (result : (c.call e r x).result = .ok response) : Returns c.config e x response := by
  have accepted : CallClass.of (c.call e r x).result = .accepted := by rw [result]; rfl
  obtain ⟨other, returns⟩ := (class_eq_iff .accepted).1 accepted
  rw [result_call_of_returns returns] at result
  exact Except.ok.inj result ▸ returns

/-- **How calls end.**  Whatever the client, the operation, the request and what becomes of it, the
call ends in exactly one class.  It is `connectivity`, always with the same message and hint, if the
URL is not usable or no complete reply comes; `application` if the status reports no success, or if
it does and the body is an object that denies success; `decode` if the status reports success and
the body is no JSON, is no object, or is an object that does not deny success and does not fit the
response; and else the call gives the response that is read from the object. -/
theorem call_classified (c : Client) (e : Endpoint) (r : e.Request) (x : Exchange) :
    (∃ k, EndsIn c.config e x k ∧ ∀ k', EndsIn c.config e x k' → k' = k) ∧
      (∀ k, CallClass.of (c.call e r x).result = k ↔ EndsIn c.config e x k) ∧
      (EndsIn c.config e x .connectivity →
        (c.call e r x).result =
          .error ⟨.connectivity, "Cannot connect to PyCharm",
            some "Is PyCharm running with the Refactoring Bridge plugin installed?"⟩) ∧
      ∀ response, (c.call e r x).result = .ok response ↔ Returns c.config e x response := by
  refine ⟨?_, class_eq_iff, result_call_of_endsIn_connectivity, fun response => ?_⟩
  · obtain ⟨k, ends⟩ := exists_endsIn c.config e x
    refine ⟨k, ends, fun k' ends' => ?_⟩
    exact (class_of_endsIn (r := r) ends').symm.trans (class_of_endsIn ends)
  · exact ⟨returns_of_result, result_call_of_returns⟩

end RefactorGateway.Bridge
