import RefactorGateway.Proofs.Bridge.Session
import RefactorGateway.Proofs.Bridge.Transports
import RefactorGateway.Text.Lossy
/-!
# The token

The token is for the authorization header and for nothing else.  A token that can stand in a header
is sent with every request, unless the base URL carries credentials: then these are sent in its
place.  A token that cannot stand in a header is never sent.  Either way all else is as it would be
without a token, but for a warning wherever the client opens.

## Main Definitions

* `HeaderValid`, `Sendable`: a text can stand in a header; a token can, or there is none
* `Observation`: what is to be seen of a step: the requests, the result and the log
* `Observation.anonymous`: the same without the authorization header
* `Http.Request.bearing`, `Observation.bearing`: what becomes of a request without a token, and of
  what is seen, if there is a token
* `Discreet`: what is seen of runs with different tokens

## Main Statements

* `isHeaderValue_iff`: the characters that are looked at and the bytes that are sent agree
* `bearer?_of_headerValid`, `bearer?_of_not_headerValid`: what becomes of a token
* `headerValid_header`: credentials can always stand in a header
* `discreet_of_bearing`: it is enough to know what a token changes of a run without one
* `Client.observation_perform`: what a token changes of one operation
* `Client.discreet_run`: clients are discreet

## Design Notes

Two runs are never compared with each other, but each with the run without a token, since what a
token changes there can be said by a function of what is seen.  All that is to be known of a client
in the course of a run is whether it is open (`Client.ofState`).
-/

namespace RefactorGateway

/-- A request without the header that identifies the caller. -/
def Http.Request.anonymous (request : Http.Request) : Http.Request :=
  { request with authorization := none }

/-- A request with a token in place of none.  The token yields to credentials. -/
def Http.Request.bearing (token : Option String) (request : Http.Request) : Http.Request :=
  { request with authorization := request.authorization.or (token.bind Bridge.bearer?) }

namespace Bridge

open Http (Exchange)

/-! ### Texts that can stand in a header -/

/-- A byte can stand in a header: it is a tab or no control character. -/
def HeaderByte (b : UInt8) : Prop := b = 9 ∨ 0x20 ≤ b ∧ b ≠ 0x7F

/-- All bytes of a text can stand in a header. -/
def HeaderValid (text : String) : Prop := ∀ b ∈ Text.toBytes text, HeaderByte b

/-- There is no token, or it can stand in a header. -/
def Sendable (token : Option String) : Prop := ∀ text, token = some text → HeaderValid text

theorem headerByte_iff_toNat {b : UInt8} :
    HeaderByte b ↔ b.toNat = 9 ∨ 0x20 ≤ b.toNat ∧ b.toNat ≠ 0x7F := by
  rw [HeaderByte, ← UInt8.toNat_inj, UInt8.le_iff_toNat_le, ne_eq, ← UInt8.toNat_inj]
  rfl

/-- No byte of a character of several bytes is a character by itself. -/
theorem lt_toNat_of_mem_utf8EncodeChar {c : Char} (large : 0x7F < c.toNat) :
    ∀ b ∈ String.utf8EncodeChar c, 0x7F < b.toNat := by
  have byte {n : Nat} (high : 0x7F < n % 256) : 0x7F < (UInt8.ofNat n).toNat := by
    rwa [UInt8.toNat_ofNat']
  unfold String.utf8EncodeChar
  simp only [show c.val.toNat = c.toNat from rfl]
  rw [if_neg (Nat.not_le.2 large)]
  split
  · rw [List.forall_mem_cons, List.forall_mem_singleton]
    exact ⟨byte (by omega), byte (by omega)⟩
  · split
    · rw [List.forall_mem_cons, List.forall_mem_cons, List.forall_mem_singleton]
      exact ⟨byte (by omega), byte (by omega), byte (by omega)⟩
    · rw [List.forall_mem_cons, List.forall_mem_cons, List.forall_mem_cons,
        List.forall_mem_singleton]
      exact ⟨byte (by omega), byte (by omega), byte (by omega), byte (by omega)⟩

/-- The bytes of a character can stand in a header just if the character is a tab or no control
character. -/
theorem headerByte_utf8EncodeChar_iff (c : Char) :
    (∀ b ∈ String.utf8EncodeChar c, HeaderByte b) ↔
      c = '\t' ∨ 0x20 ≤ c.toNat ∧ c.toNat ≠ 0x7F := by
  have tab : c = '\t' ↔ c.toNat = 9 := by
    rw [← Char.toNat_inj]
    rfl
  rw [tab]
  by_cases large : 0x7F < c.toNat
  · -- the control characters are all characters of one byte
    refine iff_of_true (fun b mem => headerByte_iff_toNat.2 ?_) (by omega)
    have high := lt_toNat_of_mem_utf8EncodeChar large b mem
    omega
  · have one : String.utf8EncodeChar c = [.ofNat c.toNat] := by
      unfold String.utf8EncodeChar
      exact if_pos (Nat.not_lt.1 large)
    rw [one, List.forall_mem_singleton, headerByte_iff_toNat, UInt8.toNat_ofNat',
      Nat.mod_eq_of_lt (by omega)]

/-- The characters that are looked at and the bytes that are sent agree. -/
theorem isHeaderValue_iff (text : String) : Http.isHeaderValue text = true ↔ HeaderValid text := by
  have character (c : Char) :
      (c = '\t' || (0x20 ≤ c.toNat && c.toNat ≠ 0x7F)) = true ↔
        ∀ b ∈ String.utf8EncodeChar c, HeaderByte b := by
    simp [headerByte_utf8EncodeChar_iff]
  unfold Http.isHeaderValue HeaderValid Text.toBytes
  simp only [List.all_eq_true, List.forall_mem_flatMap, character]

theorem HeaderValid.append {first rest : String} (one : HeaderValid first)
    (other : HeaderValid rest) : HeaderValid (first ++ rest) := by
  intro b mem
  rw [Text.toBytes, String.toList_append, List.flatMap_append, List.mem_append] at mem
  exact mem.elim (one b) (other b)

theorem headerValid_append_iff {first rest : String} (one : HeaderValid first) :
    HeaderValid (first ++ rest) ↔ HeaderValid rest := by
  refine ⟨fun whole b mem => whole b ?_, one.append⟩
  rw [Text.toBytes, String.toList_append, List.flatMap_append]
  exact List.mem_append_right _ mem

theorem headerValid_scheme : HeaderValid "Bearer " := (isHeaderValue_iff _).1 (by decide +kernel)

/-- A token that can stand in a header is sent as it is. -/
theorem bearer?_of_headerValid {token : String} (valid : HeaderValid token) :
    bearer? token = some ("Bearer " ++ token) := by
  have value := (isHeaderValue_iff _).2 (headerValid_scheme.append valid)
  exact if_pos value

/-- A token that cannot stand in a header is not sent. -/
theorem bearer?_of_not_headerValid {token : String} (invalid : ¬ HeaderValid token) :
    bearer? token = none := by
  refine if_neg fun value => invalid ?_
  exact (headerValid_append_iff headerValid_scheme).1 ((isHeaderValue_iff _).1 value)

theorem headerValid_of_bearer? {token value : String} (sent : bearer? token = some value) :
    HeaderValid value := by
  by_cases valid : HeaderValid token
  · rw [bearer?_of_headerValid valid] at sent
    exact Option.some.inj sent ▸ headerValid_scheme.append valid
  · rw [bearer?_of_not_headerValid valid] at sent
    cases sent

example : HeaderValid "s3cret" ∧ ¬ HeaderValid "s3cret\n" := by
  rw [← isHeaderValue_iff, ← isHeaderValue_iff]
  decide +kernel

/-- A text that cannot stand in a header is no part of one that can. -/
theorem HeaderValid.not_infix {text token : String} (valid : HeaderValid text)
    (invalid : ¬ HeaderValid token) : ¬ token.toList <:+: text.toList := by
  intro part
  refine invalid fun b mem => valid b ?_
  obtain ⟨c, c_mem, b_mem⟩ := List.mem_flatMap.1 mem
  exact List.mem_flatMap.2 ⟨c, part.subset c_mem, b_mem⟩

/-- A digit of base 64 is no control character. -/
theorem base64Digit_range (n : Nat) :
    0x20 ≤ (Http.base64Digit n).toNat ∧ (Http.base64Digit n).toNat ≠ 0x7F := by
  by_cases small : n < 64
  · have digits : ∀ n < 64,
        0x20 ≤ (Http.base64Digit n).toNat ∧ (Http.base64Digit n).toNat ≠ 0x7F := by
      decide
    exact digits n small
  · have last : Http.base64Digit n = '/' := by
      unfold Http.base64Digit
      rw [if_neg (by omega), if_neg (by omega), if_neg (by omega), if_neg (by omega)]
    rw [last]
    decide

theorem base64_range (bytes : List UInt8) :
    ∀ c ∈ Http.base64 bytes, 0x20 ≤ c.toNat ∧ c.toNat ≠ 0x7F := by
  have filler : 0x20 ≤ '='.toNat ∧ '='.toNat ≠ 0x7F := by decide
  fun_induction Http.base64 bytes with
  | case1 a b c rest n ih =>
    simp only [List.forall_mem_cons]
    exact ⟨base64Digit_range _, base64Digit_range _, base64Digit_range _, base64Digit_range _, ih⟩
  | case2 a b n =>
    simp only [List.forall_mem_cons]
    exact ⟨base64Digit_range _, base64Digit_range _, base64Digit_range _, filler, nofun⟩
  | case3 a n =>
    simp only [List.forall_mem_cons]
    exact ⟨base64Digit_range _, base64Digit_range _, filler, filler, nofun⟩
  | case4 => exact nofun

/-- Credentials can always stand in a header, whatever user and password are. -/
theorem headerValid_header (c : Http.Credentials) : HeaderValid c.header := by
  have scheme : HeaderValid "Basic " := (isHeaderValue_iff _).1 (by decide +kernel)
  refine scheme.append ((isHeaderValue_iff _).1 ?_)
  rw [Http.isHeaderValue, String.toList_ofList, List.all_eq_true]
  intro d mem
  simp [base64_range _ d mem]

/-! ### What is to be seen -/

/-- What is to be seen of a step. -/
structure Observation (α : Type) where
  /-- The requests that a server has seen. -/
  requests : List Http.Request
  result : α
  log : List LogEntry

/-- A log with a warning of the token wherever a transport is opened. -/
def warned (log : List LogEntry) : List LogEntry :=
  log.flatMap fun entry => if entry.opens then [.tokenUnusable, entry] else [entry]

/-- A log with a token in place of none: there are warnings if the token cannot be sent. -/
def warnedOf (token : Option String) (log : List LogEntry) : List LogEntry :=
  if token.any fun t => (bearer? t).isNone then warned log else log

theorem warnedOf_of_sendable {token : Option String} (sendable : Sendable token)
    (log : List LogEntry) : warnedOf token log = log := by
  unfold warnedOf
  cases token with
  | none => rfl
  | some text =>
    rw [Option.any_some, bearer?_of_headerValid (sendable text rfl)]
    rfl

theorem warnedOf_of_not_headerValid {token : String} (invalid : ¬ HeaderValid token)
    (log : List LogEntry) : warnedOf (some token) log = warned log := by
  rw [warnedOf, Option.any_some, bearer?_of_not_headerValid invalid]
  rfl

namespace Observation

variable {α : Type}

/-- What is seen, without the header that identifies the caller. -/
def anonymous (o : Observation α) : Observation α :=
  { o with requests := o.requests.map Http.Request.anonymous }

/-- What is seen, with a warning wherever a transport is opened. -/
def warned (o : Observation α) : Observation α := { o with log := Bridge.warned o.log }

/-- What is seen with a token in place of none. -/
def bearing (token : Option String) (o : Observation α) : Observation α where
  requests := o.requests.map (Http.Request.bearing token)
  result := o.result
  log := warnedOf token o.log

theorem anonymous_bearing {token : Option String} (sendable : Sendable token)
    (o : Observation α) : (o.bearing token).anonymous = o.anonymous := by
  unfold bearing anonymous
  simp only [warnedOf_of_sendable sendable, List.map_map]
  rfl

theorem bearing_of_not_headerValid {token : String} (invalid : ¬ HeaderValid token)
    (o : Observation α) : o.bearing (some token) = (o.bearing none).warned := by
  unfold bearing warned Http.Request.bearing
  simp only [warnedOf_of_not_headerValid invalid, Option.bind_some,
    bearer?_of_not_headerValid invalid]
  rfl

end Observation

/-- Runs that are known by what is to be seen of them keep the token to themselves.  The base URL
may carry credentials. -/
structure Discreet {α : Type} (credentials : Option Http.Credentials)
    (runs : Option String → List (Observation α)) : Prop where
  /-- But for the authorization header, tokens that can be sent, and none, are the same. -/
  alike : ∀ token token', Sendable token → Sendable token' →
    (runs token).map Observation.anonymous = (runs token').map Observation.anonymous
  /-- Without credentials, a token that can be sent is sent with every request. -/
  identified : credentials = none → ∀ token, Sendable token → ∀ o ∈ runs token,
    ∀ request ∈ o.requests, request.authorization = token.map ("Bearer " ++ ·)
  /-- Credentials are sent with every request in place of any token. -/
  overruled : ∀ c, credentials = some c → ∀ token, ∀ o ∈ runs token,
    ∀ request ∈ o.requests, request.authorization = some c.header
  /-- A token that cannot be sent is as none, but for a warning wherever a transport is opened. -/
  inert : ∀ token, ¬ HeaderValid token → runs (some token) = (runs none).map Observation.warned
  /-- What is sent can stand in a header. -/
  clean : ∀ token, ∀ o ∈ runs token, ∀ request ∈ o.requests, ∀ value,
    request.authorization = some value → HeaderValid value

section Bearing

variable {α : Type} {credentials : Option Http.Credentials}
  {runs : Option String → List (Observation α)}

/-- Credentials stay where they are, and a token comes where there are none. -/
theorem authorization_of_bearing
    (bearing : ∀ token, runs token = (runs none).map (Observation.bearing token))
    (nameless : ∀ o ∈ runs none, ∀ request ∈ o.requests,
      request.authorization = credentials.map Http.Credentials.header) (token : Option String) :
    ∀ o ∈ runs token, ∀ request ∈ o.requests, request.authorization =
      (credentials.map Http.Credentials.header).or (token.bind bearer?) := by
  intro o mem request sent
  rw [bearing token] at mem
  obtain ⟨o', mem', rfl⟩ := List.mem_map.1 mem
  obtain ⟨request', sent', rfl⟩ := List.mem_map.1 sent
  rw [← nameless o' mem' request' sent']
  rfl

/-- It is enough to know what a token changes of a run without one, and that only credentials are
sent there. -/
theorem discreet_of_bearing
    (bearing : ∀ token, runs token = (runs none).map (Observation.bearing token))
    (nameless : ∀ o ∈ runs none, ∀ request ∈ o.requests,
      request.authorization = credentials.map Http.Credentials.header) :
    Discreet credentials runs := by
  have authorization := authorization_of_bearing bearing nameless
  constructor
  case alike =>
    intro token token' sendable sendable'
    rw [bearing token, bearing token', List.map_map, List.map_map]
    apply List.map_congr_left
    intro o _
    exact (o.anonymous_bearing sendable).trans (o.anonymous_bearing sendable').symm
  case identified =>
    intro no_credentials token sendable o mem request sent
    rw [authorization token o mem request sent, no_credentials, Option.map_none, Option.none_or]
    cases token with
    | none => rfl
    | some text => exact bearer?_of_headerValid (sendable text rfl)
  case overruled =>
    intro c carried token o mem request sent
    rw [authorization token o mem request sent, carried]
    rfl
  case inert =>
    intro token invalid
    calc runs (some token)
        = (runs none).map (Observation.bearing (some token)) := bearing (some token)
      _ = (runs none).map (Observation.warned ∘ Observation.bearing none) :=
          List.map_congr_left fun o _ => o.bearing_of_not_headerValid invalid
      _ = ((runs none).map (Observation.bearing none)).map Observation.warned :=
          List.map_map.symm
      _ = (runs none).map Observation.warned := by rw [← bearing none]
  case clean =>
    intro token o mem request sent value there
    rw [authorization token o mem request sent] at there
    rcases Option.or_eq_some_iff.1 there with carried | ⟨-, borne⟩
    · obtain ⟨c, -, rfl⟩ := Option.map_eq_some_iff.1 carried
      exact headerValid_header c
    · obtain ⟨text, -, header⟩ := Option.bind_eq_some_iff.1 borne
      exact headerValid_of_bearer? header

end Bearing

/-! ### Warnings -/

@[simp] theorem warned_append (log more : List LogEntry) :
    warned (log ++ more) = warned log ++ warned more :=
  List.flatMap_append

/-- Where nothing is said of transports, there is no warning. -/
theorem warned_of_transports_eq_nil {log : List LogEntry} (none : transports log = []) :
    warned log = log := by
  induction log with
  | nil => rfl
  | cons entry rest ih =>
    have silent := List.filter_eq_nil_iff.1 none
    have no_opening : entry.opens = false := by
      have first := silent entry List.mem_cons_self
      rw [Bool.or_eq_true, not_or, Bool.not_eq_true] at first
      exact first.1
    have later : transports rest = [] :=
      List.filter_eq_nil_iff.2 fun e mem => silent e (List.mem_cons_of_mem entry mem)
    rw [warned, List.flatMap_cons, no_opening]
    exact congrArg (entry :: ·) (ih later)

theorem warned_closed (url : String) : warned [.closed url] = [.closed url] := by
  rw [warned, List.flatMap_cons, LogEntry.opens_closed]
  rfl

theorem warned_opened (url : String) : warned [.opened url] = [.tokenUnusable, .opened url] := by
  rw [warned, List.flatMap_cons, LogEntry.opens_opened]
  rfl

theorem warnedOf_append (token : Option String) (log more : List LogEntry) :
    warnedOf token (log ++ more) = warnedOf token log ++ warnedOf token more := by
  unfold warnedOf
  split
  · exact warned_append log more
  · rfl

theorem warnedOf_of_transports_eq_nil {log : List LogEntry} (none : transports log = [])
    (token : Option String) : warnedOf token log = log := by
  unfold warnedOf
  split
  · exact warned_of_transports_eq_nil none
  · rfl

theorem warnedOf_closed (token : Option String) (url : String) :
    warnedOf token [.closed url] = [.closed url] := by
  unfold warnedOf
  split
  · exact warned_closed url
  · rfl

theorem headerValid_warning : HeaderValid LogEntry.tokenUnusable.text :=
  (isHeaderValue_iff _).1 (by decide +kernel)

/-! ### Clients -/

/-- A configuration with a token, or without one. -/
def Config.identifying (config : Config) (token : Option String) : Config :=
  { config with authToken := token }

/-- What is to be seen of an operation. -/
def Effect.observation (effect : Effect) : Observation (Option CallResult) :=
  ⟨effect.requests, effect.result, effect.log⟩

/-- What is to be seen of a call. -/
def CallOutcome.observation {α : Type} (outcome : CallOutcome α) :
    Observation (Except Failure α) :=
  ⟨outcome.requests, outcome.result, outcome.log⟩

/-- A client that opens warns of a token that cannot be sent. -/
theorem openingLog_identifying (config : Config) (token : Option String) :
    openingLog (config.identifying token) =
      warnedOf token (openingLog (config.identifying none)) := by
  have opening : openingLog (config.identifying none) = [.opened config.baseUrl] := rfl
  rw [opening, warnedOf, warned_opened]
  unfold openingLog Config.identifying
  simp only
  split <;> rfl

/-- Whether a client is open after an operation. -/
def Operation.leavesOpen : Operation → Bool
  | .make _ => true
  | .close => false

namespace Client

/-- The client of a configuration, open or not. -/
def ofState (config : Config) (isOpen : Bool) : Client :=
  ⟨config, if isOpen then some (.ofConfig config) else none⟩

theorem acquire_ofState (config : Config) (isOpen : Bool) :
    (ofState config isOpen).acquire =
      (.ofConfig config, if isOpen then [] else openingLog config) := by
  cases isOpen <;> rfl

theorem close_ofState (config : Config) (isOpen : Bool) :
    (ofState config isOpen).close =
      (ofState config false, if isOpen then [.closed config.baseUrl] else []) := by
  cases isOpen <;> rfl

/-- An operation leaves the client open or not, and nothing else of it matters. -/
theorem perform_ofState (config : Config) (isOpen : Bool) (operation : Operation) :
    ((ofState config isOpen).perform operation).1 = ofState config operation.leavesOpen := by
  cases operation with
  | make call =>
    rw [perform, client_call, acquire_ofState]
    rfl
  | close =>
    rw [perform, close_ofState]
    rfl

variable (config : Config) (token : Option String)

theorem requestFor_identifying (url : Http.Url) (e : Endpoint) (r : e.Request) :
    requestFor (.ofConfig (config.identifying token)) url e r =
      (requestFor (.ofConfig (config.identifying none)) url e r).bearing token := by
  unfold requestFor Http.Request.bearing Transport.ofConfig Config.identifying
  simp only [Option.bind_none, Option.or_none]

/-- A token changes the header of the request of a call and what is logged of the opening. -/
theorem observation_call (isOpen : Bool) (e : Endpoint) (r : e.Request) (x : Exchange) :
    ((ofState (config.identifying token) isOpen).call e r x).observation =
      ((ofState (config.identifying none) isOpen).call e r x).observation.bearing token := by
  have opening : (if isOpen then [] else openingLog (config.identifying token)) =
      warnedOf token (if isOpen then [] else openingLog (config.identifying none)) := by
    cases isOpen with
    | true => exact (warnedOf_of_transports_eq_nil transports_nil token).symm
    | false => exact openingLog_identifying config token
  have sending (token : Option String) :
      (ofState (config.identifying token) isOpen).sending? e r =
        (Http.Url.read (config.endpoint e.path)).map fun url =>
          (url, requestFor (.ofConfig (config.identifying token)) url e r) := by
    rw [sending?, acquire_ofState]
    rfl
  unfold call CallOutcome.observation Observation.bearing
  simp only [acquire_ofState, sending, opening]
  cases Http.Url.read (config.endpoint e.path) with
  | none =>
    simp only [Option.map_none, warnedOf_append, List.map_nil,
      warnedOf_of_transports_eq_nil (transports_unreachable ..)]
  | some url =>
    simp only [Option.map_some, warnedOf_append, requestFor_identifying config token,
      warnedOf_of_transports_eq_nil (transports_receive e x)]
    split <;> rfl

/-- What a token changes of the first call of a client. -/
theorem call_new_identifying (e : Endpoint) (r : e.Request) (x : Exchange) :
    let outcome := (new (config.identifying token)).call e r x
    let nameless := (new (config.identifying none)).call e r x
    outcome.requests = nameless.requests.map (Http.Request.bearing token) ∧
      outcome.result = nameless.result ∧ outcome.log = warnedOf token nameless.log :=
  Observation.mk.inj (observation_call config token false e r x)

/-- What a token changes of an operation. -/
theorem observation_perform (isOpen : Bool) (operation : Operation) :
    ((ofState (config.identifying token) isOpen).perform operation).2.observation =
      ((ofState (config.identifying none) isOpen).perform operation).2.observation.bearing
        token := by
  cases operation with
  | make call =>
    have same := observation_call config token isOpen call.endpoint call.request call.exchange
    obtain ⟨requests, result, log⟩ := Observation.mk.inj same
    show Observation.mk _ _ _ = Observation.mk _ _ _
    simp only [perform, requests, result, log]
    rfl
  | close =>
    unfold perform Effect.observation Observation.bearing
    simp only [close_ofState]
    cases isOpen with
    | true => exact congrArg (Observation.mk [] none) (warnedOf_closed token _).symm
    | false =>
      have silent : warnedOf token [] = [] := warnedOf_of_transports_eq_nil transports_nil token
      exact congrArg (Observation.mk [] none) silent.symm

/-- What a token changes of a run. -/
theorem observation_run (isOpen : Bool) (operations : List Operation) :
    ((ofState (config.identifying token) isOpen).run operations).2.map Effect.observation =
      (((ofState (config.identifying none) isOpen).run operations).2.map Effect.observation).map
        (Observation.bearing token) := by
  induction operations generalizing isOpen with
  | nil => rfl
  | cons operation rest ih =>
    simp only [run_cons, perform_ofState, List.map_cons]
    rw [observation_perform, ih operation.leavesOpen]

/-- What identifies the caller is decided by the configuration. -/
theorem authorization_call {c : Client} (serves : c.Serves config) {e : Endpoint}
    {r : e.Request} {x : Exchange} {request : Http.Request}
    (sent : request ∈ (c.call e r x).requests) :
    request.authorization = config.authorization := by
  rw [requests_call, serves.sending?_eq ⟨e, r, x⟩] at sent
  split at sent
  · obtain ⟨url, -, rfl⟩ := Option.map_eq_some_iff.1 (Option.mem_toList.1 sent)
    rfl
  · cases sent

theorem authorization_perform {c : Client} (serves : c.Serves config) (operation : Operation) :
    ∀ request ∈ (c.perform operation).2.requests,
      request.authorization = config.authorization := by
  cases operation with
  | make call => exact fun request => authorization_call config serves
  | close => exact fun request sent => absurd sent List.not_mem_nil

theorem authorization_run {c : Client} (serves : c.Serves config) (operations : List Operation) :
    ∀ effect ∈ (c.run operations).2, ∀ request ∈ effect.requests,
      request.authorization = config.authorization := by
  induction operations generalizing c with
  | nil => exact fun effect mem => absurd mem List.not_mem_nil
  | cons operation rest ih =>
    rw [run_cons]
    exact List.forall_mem_cons.2
      ⟨authorization_perform config serves operation, ih (serves.perform operation)⟩

/-- **Clients keep the token to themselves.** -/
theorem discreet_run (operations : List Operation) :
    Discreet config.credentials? fun token =>
      ((new (config.identifying token)).run operations).2.map Effect.observation := by
  refine discreet_of_bearing (fun token => observation_run config token false operations) ?_
  have serves := serves_new (config.identifying none)
  refine List.forall_mem_map.2 fun effect mem request sent => ?_
  rw [authorization_run _ serves operations effect mem request sent]
  exact Option.or_none

end Client

end Bridge

end RefactorGateway
