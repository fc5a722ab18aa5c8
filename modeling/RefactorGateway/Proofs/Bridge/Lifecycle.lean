import Mathlib.Data.List.Induction
import RefactorGateway.Proofs.Bridge.Session
import RefactorGateway.Proofs.Bridge.Transports
/-!
# The life of a client

A client is made, makes calls, is closed in between, and is dropped in the end, which closes it.  Of
its transport it only speaks when this comes or goes.  So openings and closings take turns in its
log, and whoever reads the log knows whether the client is open.

## Main Definitions

* `logged`: the log of a run
* `Client.lifeLog`: all that a client logs until it is dropped
* `turn`, `turns`: openings and closings that take turns
* `Client.ToldBy`: a log tells whether a client is open

## Main Statements

* `Client.transports_perform`: an operation is told of just if it opens or closes the client
* `Client.ToldBy.perform`: every operation leaves a log that tells whether the client is open
* `Client.toldBy_run`: the same for a run
* `Client.opened_and_closed_in_turn`: the life of a client in its log

## Design Notes

Whether a client is open after an operation depends on the operation alone, and not on what became
of a call: a client gets ready before it knows whether it will be answered, and stays so.
-/

namespace RefactorGateway.Bridge

/-! ### Logs -/

/-- The log of a run. -/
def logged (effects : List Effect) : List LogEntry := effects.flatMap Effect.log

theorem logged_append_singleton (effects : List Effect) (effect : Effect) :
    logged (effects ++ [effect]) = logged effects ++ effect.log := by
  rw [logged, List.flatMap_append, List.flatMap_singleton, logged]

/-- The message whose turn it is when so many others have been there. -/
def turn (url : String) (n : Nat) : LogEntry := if n % 2 = 1 then .closed url else .opened url

/-- Openings and closings that take turns, with an opening as the first. -/
def turns (url : String) (n : Nat) : List LogEntry := (List.range n).map (turn url)

theorem opens_turn (url : String) (n : Nat) : (turn url n).opens = decide (n % 2 = 0) := by
  rcases Nat.mod_two_eq_zero_or_one n with even | odd
  · rw [turn, even]
    exact LogEntry.opens_opened url
  · rw [turn, odd]
    exact LogEntry.opens_closed url

theorem closes_turn (url : String) (n : Nat) : (turn url n).closes = decide (n % 2 = 1) := by
  rcases Nat.mod_two_eq_zero_or_one n with even | odd
  · rw [turn, even]
    exact LogEntry.closes_opened url
  · rw [turn, odd]
    exact LogEntry.closes_closed url

theorem turns_succ (url : String) (n : Nat) : turns url (n + 1) = turns url n ++ [turn url n] := by
  rw [turns, List.range_succ, List.map_append, List.map_singleton, turns]

/-- Of an odd number of turns, the last one is an opening. -/
theorem any_getLast?_turns (url : String) (n : Nat) :
    (turns url n).getLast?.any LogEntry.opens = decide (n % 2 = 1) := by
  cases n with
  | zero => rfl
  | succ n =>
    rw [turns_succ, List.getLast?_concat, Option.any_some, opens_turn]
    exact decide_eq_decide.2 (by omega)

/-- An odd number of turns has one opening more than closings, and an even one has as many. -/
theorem countP_turns (url : String) (n : Nat) :
    (turns url n).countP LogEntry.opens = (turns url n).countP LogEntry.closes + n % 2 := by
  induction n with
  | zero => rfl
  | succ n ih =>
    simp only [turns_succ, List.countP_append, List.countP_singleton, opens_turn, closes_turn,
      decide_eq_true_eq]
    rcases Nat.mod_two_eq_zero_or_one n with even | odd
    · rw [if_pos even, if_neg (by omega)]
      omega
    · rw [if_neg (by omega), if_pos odd]
      omega

namespace Client

variable {c : Client} {log : List LogEntry}

/-- A run goes on from where it has come to. -/
theorem run_append_singleton (c : Client) (operations : List Operation) (operation : Operation) :
    c.run (operations ++ [operation]) =
      (((c.run operations).1.perform operation).1,
        (c.run operations).2 ++ [((c.run operations).1.perform operation).2]) := by
  induction operations generalizing c with
  | nil => rfl
  | cons first rest ih => rw [List.cons_append, run_cons, ih, run_cons, List.cons_append]

/-- All that a client logs from when it is new until it is dropped.  A client that is dropped is
closed. -/
def lifeLog (config : Config) (operations : List Operation) : List LogEntry :=
  let life := (new config).run operations
  logged life.2 ++ life.1.close.2

/-! ### One operation -/

theorem config_perform (c : Client) (operation : Operation) :
    (c.perform operation).1.config = c.config := by
  cases operation with
  | make call => rw [perform, client_call]
  | close => rw [perform, close_eq]

/-- A client is open after every call, whatever became of it, and never after it was closed. -/
theorem isOpen_perform (c : Client) (operation : Operation) :
    (c.perform operation).1.isOpen = operation.call?.isSome := by
  cases operation with
  | make call => rw [perform, client_call]; rfl
  | close => exact isOpen_close c

/-- An operation is told of just if it opens or closes the client. -/
theorem transports_perform (c : Client) (operation : Operation) :
    transports (c.perform operation).2.log =
      if (c.perform operation).1.isOpen = c.isOpen then []
      else [if c.isOpen then .closed c.config.baseUrl else .opened c.config.baseUrl] := by
  rw [isOpen_perform]
  cases operation with
  | make call =>
    have told : transports (c.perform (.make call)).2.log = _ :=
      transports_call c call.endpoint call.request call.exchange
    rw [told]
    cases c.isOpen <;> rfl
  | close =>
    have told : transports (c.perform .close).2.log = _ := transports_close c
    rw [told]
    cases c.isOpen <;> rfl

/-! ### Runs -/

/-- A log tells whether a client is open: openings and closings have taken turns, and there is an
opening that no closing has followed just if the client is open. -/
structure ToldBy (c : Client) (log : List LogEntry) : Prop where
  transports_eq : transports log = turns c.config.baseUrl (transports log).length
  isOpen_eq : c.isOpen = decide ((transports log).length % 2 = 1)

theorem toldBy_new (config : Config) : (new config).ToldBy [] := ⟨rfl, rfl⟩

/-- Every operation leaves a log that tells whether the client is open. -/
theorem ToldBy.perform (told : c.ToldBy log) (operation : Operation) :
    (c.perform operation).1.ToldBy (log ++ (c.perform operation).2.log) := by
  have added := transports_perform c operation
  by_cases same : (c.perform operation).1.isOpen = c.isOpen
  · rw [if_pos same] at added
    constructor
    · rw [transports_append, added, List.append_nil, config_perform]
      exact told.transports_eq
    · rw [transports_append, added, List.append_nil, same]
      exact told.isOpen_eq
  · rw [if_neg same] at added
    have next : (if c.isOpen then LogEntry.closed c.config.baseUrl else .opened c.config.baseUrl) =
        turn c.config.baseUrl (transports log).length := by
      rw [told.isOpen_eq, turn]
      simp only [decide_eq_true_eq]
    have length : (transports (log ++ (c.perform operation).2.log)).length =
        (transports log).length + 1 := by
      rw [transports_append, added, List.length_append, List.length_singleton]
    constructor
    · rw [length, config_perform, turns_succ, ← told.transports_eq, transports_append, added, next]
    · have flipped : (c.perform operation).1.isOpen = !c.isOpen := Bool.eq_not_of_ne same
      rw [length, flipped, told.isOpen_eq, ← decide_not]
      exact decide_eq_decide.2 (by omega)

theorem toldBy_run (config : Config) (operations : List Operation) :
    ((new config).run operations).1.ToldBy (logged ((new config).run operations).2) := by
  induction operations using List.reverseRecOn with
  | nil => exact toldBy_new config
  | append_singleton before operation ih =>
    rw [run_append_singleton, logged_append_singleton]
    exact ih.perform operation

/-- A client is open just if an opening is the last that a log tells of its transport. -/
theorem ToldBy.isOpen_eq_last (told : c.ToldBy log) :
    c.isOpen = (transports log).getLast?.any LogEntry.opens := by
  rw [told.isOpen_eq, told.transports_eq, any_getLast?_turns, ← told.transports_eq]

/-- A client that is not open has been closed as often as it was opened. -/
theorem ToldBy.countP_eq (told : c.ToldBy log) (closed : c.isOpen = false) :
    log.countP LogEntry.opens = log.countP LogEntry.closes := by
  have even : (transports log).length % 2 = 0 := by
    have parity := told.isOpen_eq
    rw [closed, eq_comm, decide_eq_false_iff_not] at parity
    omega
  rw [← countP_opens_transports, ← countP_closes_transports, told.transports_eq, countP_turns,
    even, Nat.add_zero]

/-- **A client is opened and closed in turn, and its log tells so.**  A new client is not open.  Let
it do whatever it is asked, and then one thing more.  After a call it is open, whatever became of
the call, and the call is told of as an opening just if the client was not open before; after a
closing it is not open, and this is told of just if it was.  What has been told of the transport
takes turns, beginning with an opening; the client is open just if an opening came last; and its
configuration is the one that it was made with.  When it is dropped, openings and closings have
still taken turns, and there are as many of the ones as of the others. -/
theorem opened_and_closed_in_turn (config : Config) (operations : List Operation) :
    let client := ((new config).run operations).1
    let told := transports (logged ((new config).run operations).2)
    let whole := lifeLog config operations
    (new config).isOpen = false ∧
      (∀ call, (client.perform (.make call)).1.isOpen = true ∧
        transports (client.perform (.make call)).2.log =
          if client.isOpen then [] else [.opened config.baseUrl]) ∧
      ((client.perform .close).1.isOpen = false ∧
        transports (client.perform .close).2.log =
          if client.isOpen then [.closed config.baseUrl] else []) ∧
      told = turns config.baseUrl told.length ∧
      client.isOpen = told.getLast?.any LogEntry.opens ∧
      client.config = config ∧
      transports whole = turns config.baseUrl (transports whole).length ∧
      whole.countP LogEntry.opens = whole.countP LogEntry.closes := by
  intro client told whole
  have same : client.config = config := ((serves_new config).run operations).config_eq
  have before : client.ToldBy (logged ((new config).run operations).2) :=
    toldBy_run config operations
  have dropped : (client.perform .close).1.ToldBy whole := before.perform .close
  refine ⟨rfl, fun call => ⟨isOpen_perform client _, ?_⟩, ⟨isOpen_perform client _, ?_⟩, ?_,
    before.isOpen_eq_last, same, ?_, dropped.countP_eq (isOpen_perform client _)⟩
  · rw [← same]
    exact transports_call client call.endpoint call.request call.exchange
  · rw [← same]
    exact transports_close client
  · rw [← same]
    exact before.transports_eq
  · have in_turn := dropped.transports_eq
    rwa [config_perform, same] at in_turn

end Client

end RefactorGateway.Bridge
