import RefactorGateway.Proofs.Bridge.Classification
import RefactorGateway.Proofs.Text.Beginning
/-!
# Transports in the log

A client says in the log when it opens and when it closes.  Of all that is logged while the bridge
is called, these two messages are the only ones that speak of transports, and each of them is
logged just when it is true.

## Main Definitions

* `LogEntry.opens`, `LogEntry.closes`: an entry says that a transport was opened or closed
* `Aside`: a text begins with words of its own
* `transports`: what a log says of transports

## Main Statements

* `transports_receive`: what comes back of a request has nothing to do with transports
* `transports_acquire`, `transports_close`: a client says that it opens or closes if it does
* `transports_call`: what the log of a call says of transports

## Design Notes

An entry is told by the words with which its message begins and not by its constructor, since the
words are all that a reader of the log has.  The messages begin with words of their own, and no
text that a caller or the bridge chooses stands in front of them.
-/

namespace RefactorGateway.Bridge

open Http (Exchange)
open Text (Apart startsWith_append_of_startsWith)

/-! ### Messages -/

/-- The words of a message that a transport was opened. -/
def openingWords : String := "Opened bridge transport"

/-- The words of a message that a transport was closed. -/
def closingWords : String := "Closed bridge transport"

/-- A text begins with words of its own. -/
def Aside (text : String) : Prop := Apart openingWords text ∧ Apart closingWords text

instance (text : String) : Decidable (Aside text) := inferInstanceAs (Decidable (_ ∧ _))

theorem Aside.append {first : String} (aside : Aside first) (rest : String) :
    Aside (first ++ rest) :=
  ⟨aside.1.append rest, aside.2.append rest⟩

namespace LogEntry

/-- The message says that a transport was opened. -/
def opens (entry : LogEntry) : Bool := entry.text.startsWith openingWords

/-- The message says that a transport was closed. -/
def closes (entry : LogEntry) : Bool := entry.text.startsWith closingWords

@[simp] theorem opens_opened (url : String) : (opened url).opens = true := by
  have begins : "Opened bridge transport for ".startsWith openingWords = true := by decide +kernel
  unfold opens text
  exact startsWith_append_of_startsWith begins url

@[simp] theorem closes_opened (url : String) : (opened url).closes = false := by
  have apart : Apart closingWords "Opened bridge transport for " := by decide +kernel
  unfold closes text
  exact (apart.append url).1

@[simp] theorem opens_closed (url : String) : (closed url).opens = false := by
  have apart : Apart openingWords "Closed bridge transport for " := by decide +kernel
  unfold opens text
  exact (apart.append url).1

@[simp] theorem closes_closed (url : String) : (closed url).closes = true := by
  have begins : "Closed bridge transport for ".startsWith closingWords = true := by decide +kernel
  unfold closes text
  exact startsWith_append_of_startsWith begins url

theorem aside_tokenUnusable : Aside tokenUnusable.text := by decide +kernel

/-- What is logged of a request begins with its method. -/
theorem aside_name (method : Http.Method) : Aside method.name := by
  cases method <;> decide +kernel

theorem aside_unreachable (method : Http.Method) (path cause : String) :
    Aside (unreachable method path cause).text :=
  (((aside_name method).append _).append _).append _ |>.append _

theorem aside_bodyUnread (method : Http.Method) (path cause : String) :
    Aside (bodyUnread method path cause).text :=
  (((aside_name method).append _).append _).append _ |>.append _

theorem aside_replied (method : Http.Method) (path : String) (status bytes : Nat) :
    Aside (replied method path status bytes).text := by
  have first := ((aside_name method).append " ").append path
  unfold text
  exact ((((first.append _).append _).append _).append _).append _

theorem aside_rejected (method : Http.Method) (path : String) (failure : Failure) :
    Aside (rejected method path failure).text :=
  (((aside_name method).append _).append _).append _ |>.append _

end LogEntry

/-! ### What a log says of transports -/

/-- The messages of a log that speak of transports. -/
def transports (log : List LogEntry) : List LogEntry :=
  log.filter fun entry => entry.opens || entry.closes

@[simp] theorem transports_nil : transports [] = [] := rfl

@[simp] theorem transports_append (log more : List LogEntry) :
    transports (log ++ more) = transports log ++ transports more := by
  simp [transports]

theorem transports_of_aside {log : List LogEntry} (aside : ∀ entry ∈ log, Aside entry.text) :
    transports log = [] := by
  refine List.filter_eq_nil_iff.2 fun entry mem => ?_
  obtain ⟨no_opening, no_closing⟩ := aside entry mem
  simp [LogEntry.opens, LogEntry.closes, no_opening.1, no_closing.1]

@[simp] theorem transports_opened (url : String) :
    transports [.opened url] = [.opened url] := by
  simp [transports]

@[simp] theorem transports_closed (url : String) :
    transports [.closed url] = [.closed url] := by
  simp [transports]

theorem transports_unreachable (method : Http.Method) (path cause : String) :
    transports [.unreachable method path cause] = [] :=
  transports_of_aside (by simpa using LogEntry.aside_unreachable method path cause)

/-- Messages that speak of transports can be counted in what a log says of transports. -/
theorem countP_transports {p : LogEntry → Bool}
    (speaks : ∀ entry, p entry = true → (entry.opens || entry.closes) = true)
    (log : List LogEntry) : (transports log).countP p = log.countP p := by
  rw [transports, List.countP_filter]
  refine List.countP_congr fun entry _ => ?_
  rw [Bool.and_eq_true]
  exact and_iff_left_of_imp (speaks entry)

theorem countP_opens_transports (log : List LogEntry) :
    (transports log).countP LogEntry.opens = log.countP LogEntry.opens :=
  countP_transports (fun entry opens => by rw [opens, Bool.true_or]) log

theorem countP_closes_transports (log : List LogEntry) :
    (transports log).countP LogEntry.closes = log.countP LogEntry.closes :=
  countP_transports (fun entry closes => by rw [closes, Bool.or_true]) log

theorem countP_of_transports_eq_nil {log : List LogEntry} (none : transports log = []) :
    log.countP LogEntry.opens = 0 ∧ log.countP LogEntry.closes = 0 := by
  rw [← countP_opens_transports, ← countP_closes_transports, none]
  exact ⟨rfl, rfl⟩

/-! ### Clients -/

/-- The opening says so, also where the token is of no use. -/
@[simp] theorem transports_openingLog (config : Config) :
    transports (openingLog config) = [.opened config.baseUrl] := by
  rw [openingLog, transports_append, transports_opened]
  split
  · rw [transports_of_aside (by simpa using LogEntry.aside_tokenUnusable)]
    rfl
  · rfl

namespace Client

/-- What comes back of a request has nothing to do with transports. -/
@[simp] theorem transports_receive (e : Endpoint) (x : Exchange) :
    transports (receive e x).2 = [] := by
  apply transports_of_aside
  intro entry mem
  cases x with
  | refused cause => exact List.mem_singleton.1 mem ▸ LogEntry.aside_unreachable ..
  | unanswered cause => exact List.mem_singleton.1 mem ▸ LogEntry.aside_unreachable ..
  | cutShort cause => exact List.mem_singleton.1 mem ▸ LogEntry.aside_bodyUnread ..
  | answered reply =>
    unfold receive at mem
    simp only at mem
    split at mem
    · exact List.mem_singleton.1 mem ▸ LogEntry.aside_replied ..
    · rcases List.mem_cons.1 mem with rfl | mem
      · exact LogEntry.aside_replied ..
      · exact List.mem_singleton.1 mem ▸ LogEntry.aside_rejected ..

/-- A client says that it opens if it was not open. -/
theorem transports_acquire (c : Client) :
    transports c.acquire.2 = if c.isOpen then [] else [.opened c.config.baseUrl] := by
  obtain ⟨config, transport⟩ := c
  cases transport with
  | some transport => rfl
  | none => exact transports_openingLog config

/-- A client says that it closes if it was open. -/
theorem transports_close (c : Client) :
    transports c.close.2 = if c.isOpen then [.closed c.config.baseUrl] else [] := by
  obtain ⟨config, transport⟩ := c
  cases transport with
  | some transport => exact transports_closed config.baseUrl
  | none => rfl

theorem isOpen_close (c : Client) : c.close.1.isOpen = false := by
  obtain ⟨config, transport⟩ := c
  cases transport <;> rfl

/-- A client that gets ready says so just if it was not open. -/
theorem countP_acquire (c : Client) :
    c.acquire.2.countP LogEntry.opens + c.isOpen.toNat = 1 ∧
      c.acquire.2.countP LogEntry.closes = 0 := by
  rw [← countP_opens_transports, ← countP_closes_transports, transports_acquire]
  cases c.isOpen <;> simp

/-- A client that closes says so just if it was open. -/
theorem countP_close (c : Client) :
    c.close.2.countP LogEntry.opens = 0 ∧
      c.close.2.countP LogEntry.closes = c.isOpen.toNat := by
  rw [← countP_opens_transports, ← countP_closes_transports, transports_close]
  cases c.isOpen <;> simp

/-- A call says that the client opens, if it was not open, and nothing else of transports. -/
theorem transports_call (c : Client) (e : Endpoint) (r : e.Request) (x : Exchange) :
    transports (c.call e r x).log = if c.isOpen then [] else [.opened c.config.baseUrl] := by
  rw [← transports_acquire]
  unfold call
  cases c.sending? e r with
  | none => simp only [transports_append, transports_unreachable, List.append_nil]
  | some sending => simp only [transports_append, transports_receive, List.append_nil]

end Client

end RefactorGateway.Bridge
