import RefactorGateway.Proofs.Service.Task
/-!
# Release of transports

A service answers any number of tool calls at once.  They have nothing in common but the
configuration and the log; so whatever the order in which they go on, each goes on as it would
alone, and what it opens it closes, also if it is given up.

## Main Definitions

* `Service`: the tool calls that have come, and the log
* `Event`: what can happen next
* `Service.run`: what becomes of a service by a list of events
* `Service.said`: what one call has logged
* `Service.openings`, `Service.closings`, `Service.holding`: how often the log says that a transport
  was opened or closed, and how many calls hold one

## Main Statements

* `Service.Sound.act`, `Service.Sound.step`: an event keeps the books in order
* `Service.Sound.run`: so does every list of events
* `Service.exists_answered`: a call that goes on is answered
* `Service.run_releases`: what holds of every service that can be reached

## Design Notes

A list of events is an interleaving of the steps of all calls, and each list is one.  An event that
speaks of a call that has not come changes nothing.  The log is one for all calls, and an entry is
kept with the number of the call that it is of, which the entry itself does not show.
-/

namespace RefactorGateway

open Bridge Http

/-- A service at work: the tool calls that have come, in this order, and what has been logged, each
entry with the number of its call. -/
structure Service where
  tasks : List Task
  log : List (Nat × LogEntry)

/-- What can happen to a service. -/
inductive Event
  /-- A tool call comes. -/
  | arrive (call : ToolCall)
  /-- A call does its next step.  If it waits for a reply, this is what comes. -/
  | advance (i : Nat) (x : Exchange)
  /-- A call is given up. -/
  | cancel (i : Nat)

namespace Service

/-- A service that has no calls yet. -/
def idle : Service := ⟨[], []⟩

/-- One call does something. -/
def act (v : Service) (i : Nat) (act : Task → Task × List LogEntry) : Service :=
  match v.tasks[i]? with
  | some task => ⟨v.tasks.set i (act task).1, v.log ++ (act task).2.map fun entry => (i, entry)⟩
  | none => v

/-- What becomes of a service by an event. -/
def step (s : Server) (v : Service) : Event → Service
  | .arrive call => ⟨v.tasks ++ [.new call], v.log⟩
  | .advance i x => v.act i (Task.advance s x)
  | .cancel i => v.act i Task.cancel

/-- What becomes of a service by events, one after the other. -/
def run (s : Server) (v : Service) (events : List Event) : Service := events.foldl (step s) v

/-- The log, as it is written. -/
def messages (v : Service) : List LogEntry := v.log.map (·.2)

/-- What a call has logged. -/
def said (v : Service) (i : Nat) : List LogEntry := (v.log.filter fun e => e.1 == i).map (·.2)

/-- How often the log says that a transport was opened. -/
def openings (v : Service) : Nat := v.messages.countP LogEntry.opens

/-- How often the log says that a transport was closed. -/
def closings (v : Service) : Nat := v.messages.countP LogEntry.closes

/-- How many calls have opened a transport and have not closed it. -/
def holding (v : Service) : Nat := v.tasks.countP Task.holds

/-! ### What one call does -/

section Act

variable {v : Service} {i : Nat} {task : Task} {f : Task → Task × List LogEntry}

theorem act_of_some (found : v.tasks[i]? = some task) :
    v.act i f = ⟨v.tasks.set i (f task).1, v.log ++ (f task).2.map fun entry => (i, entry)⟩ := by
  rw [act, found]

theorem act_of_none (missing : v.tasks[i]? = none) : v.act i f = v := by
  rw [act, missing]

theorem messages_act (found : v.tasks[i]? = some task) :
    (v.act i f).messages = v.messages ++ (f task).2 := by
  rw [act_of_some found, messages, List.map_append, List.map_map]
  exact congrArg (v.messages ++ ·) (List.map_id _)

/-- What a call logs is of that call. -/
theorem said_act (found : v.tasks[i]? = some task) (j : Nat) :
    (v.act i f).said j = v.said j ++ if i = j then (f task).2 else [] := by
  rw [act_of_some found, said, List.filter_append, List.map_append]
  apply congrArg (v.said j ++ ·)
  by_cases same : i = j
  · subst same
    simp [List.filter_map, Function.comp_def]
  · simp [List.filter_map, Function.comp_def, same]

theorem getElem?_act (found : v.tasks[i]? = some task) (j : Nat) :
    (v.act i f).tasks[j]? = if i = j then some (f task).1 else v.tasks[j]? := by
  obtain ⟨there, -⟩ := List.getElem?_eq_some_iff.1 found
  rw [act_of_some found, List.getElem?_set, if_pos there]

/-- If a call changes, one may have to be counted for another. -/
theorem holding_act (found : v.tasks[i]? = some task) :
    (v.act i f).holding + task.holds.toNat = v.holding + (f task).1.holds.toNat := by
  obtain ⟨there, same⟩ := List.getElem?_eq_some_iff.1 found
  rw [act_of_some found, holding, List.countP_set there, same, holding]
  have counted : task.holds = true → 0 < v.tasks.countP Task.holds := fun holds =>
    List.countP_pos_iff.2 ⟨task, same ▸ List.getElem_mem there, holds⟩
  cases before : task.holds with
  | false => cases (f task).1.holds <;> simp
  | true =>
    have counted := counted before
    cases (f task).1.holds <;> simp <;> omega

end Act

/-! ### The books -/

/-- The log says what the calls hold, and each call has done what it does alone. -/
structure Sound (s : Server) (v : Service) : Prop where
  balanced : v.openings = v.closings + v.holding
  traced : ∀ i task, v.tasks[i]? = some task → Task.Trace s task (v.said i)
  silent : ∀ i, v.tasks.length ≤ i → v.said i = []

variable {s : Server} {v : Service}

theorem sound_idle (s : Server) : Sound s idle where
  balanced := (Nat.add_zero 0).symm
  traced i task found := by
    rw [idle, List.getElem?_nil] at found
    cases found
  silent _ _ := rfl

/-- What a call does keeps the books in order, if the call alone would keep them. -/
theorem Sound.act (sound : Sound s v) (i : Nat) {f : Task → Task × List LogEntry}
    (balance : ∀ task, (f task).2.countP LogEntry.opens + task.holds.toNat =
      (f task).2.countP LogEntry.closes + (f task).1.holds.toNat)
    (trace : ∀ task log, Task.Trace s task log → Task.Trace s (f task).1 (log ++ (f task).2)) :
    Sound s (v.act i f) := by
  cases found : v.tasks[i]? with
  | none =>
    rw [act_of_none found]
    exact sound
  | some task =>
    constructor
    · have before := sound.balanced
      have change := balance task
      have counted := holding_act (f := f) found
      unfold openings closings at before ⊢
      rw [messages_act found, List.countP_append, List.countP_append]
      omega
    · intro j other there
      rw [getElem?_act found] at there
      rw [said_act found]
      by_cases same : i = j
      · subst same
        rw [if_pos rfl] at there ⊢
        obtain rfl := Option.some.inj there
        exact trace task _ (sound.traced i task found)
      · rw [if_neg same] at there ⊢
        rw [List.append_nil]
        exact sound.traced j other there
    · intro j beyond
      rw [act_of_some found, List.length_set] at beyond
      obtain ⟨there, -⟩ := List.getElem?_eq_some_iff.1 found
      have other : i ≠ j := fun same => absurd (same ▸ there) (Nat.not_lt.2 beyond)
      rw [said_act found, if_neg other, List.append_nil]
      exact sound.silent j beyond

/-- Every event keeps the books in order. -/
theorem Sound.step (sound : Sound s v) (event : Event) : Sound s (step s v event) := by
  cases event with
  | arrive call =>
    constructor
    · have counted : (v.tasks ++ [Task.new call]).countP Task.holds = v.holding := by
        rw [List.countP_append]
        rfl
      show v.openings = v.closings + _
      rw [sound.balanced, ← counted]
      rfl
    · intro i task there
      show Task.Trace s task (v.said i)
      rcases Nat.lt_trichotomy i v.tasks.length with before | rfl | after
      · exact sound.traced i task (by rwa [← List.getElem?_append_left before])
      · rw [Service.step, List.getElem?_concat_length] at there
        obtain rfl := Option.some.inj there
        rw [sound.silent _ Nat.le.refl]
        exact .arrived call
      · rw [Service.step, List.getElem?_eq_none (List.length_append ▸ after)] at there
        cases there
    · intro i beyond
      have longer : v.tasks.length ≤ i := by
        rw [Service.step, List.length_append] at beyond
        exact Nat.le_of_add_right_le beyond
      exact sound.silent i longer
  | advance i x =>
    exact sound.act i (Task.countP_advance s x) fun task log trace => trace.advance x
  | cancel i => exact sound.act i Task.countP_cancel fun task log trace => trace.cancel

/-- So does every list of events. -/
theorem Sound.run (sound : Sound s v) (events : List Event) : Sound s (run s v events) := by
  induction events generalizing v with
  | nil => exact sound
  | cons event rest ih => exact ih (sound.step event)

/-! ### Answers -/

/-- A call that goes on, whatever comes back of its request, is answered. -/
theorem exists_answered {i : Nat} {task : Task} (found : v.tasks[i]? = some task)
    (flying : task.inFlight = true) (x : Exchange) :
    ∃ n result, ((run s v (List.replicate n (.advance i x))).tasks[i]?).map Task.stage =
      some (.answered result) := by
  -- each step leaves fewer of them, so the induction is on how many are left
  induction left : task.stepsLeft using Nat.strongRecOn generalizing v task with
  | ind k ih =>
    have next : (step s v (.advance i x)).tasks[i]? = some (task.advance s x).1 := by
      rw [step, getElem?_act found, if_pos rfl]
    rcases task.advance_progress s x flying with ⟨result, answered⟩ | ⟨flies, closer⟩
    · refine ⟨1, result, ?_⟩
      show ((step s v (.advance i x)).tasks[i]?).map Task.stage = _
      rw [next, Option.map_some, answered]
    · obtain ⟨n, result, answered⟩ := ih _ (left ▸ closer) next flies rfl
      exact ⟨n + 1, result, answered⟩

end Service

/-- Only a call that is under way holds a transport. -/
theorem Task.inFlight_of_holds {task : Task} (holds : task.holds = true) :
    task.inFlight = true := by
  obtain ⟨call, stage, exchange, requests⟩ := task
  cases stage with
  | answered result => cases holds
  | cancelled => cases holds
  | arrived | routed _ _ _ | opened _ _ _ | sent _ _ _ _ | concluded _ _ _ _ | released _ _ _ _ =>
    rfl

/-- A call that has been answered has done what it does alone with the same reply. -/
theorem Task.Trace.callTool_eq {s : Server} {task : Task} {log : List LogEntry}
    (trace : Task.Trace s task log) {result : Except RpcError Json.Document}
    (answered : task.stage = .answered result) {x : Exchange}
    (met : Task.Meets task.exchange x) : s.callTool task.call x = ⟨task.requests, result, log⟩ := by
  cases trace with
  | answered alone =>
    cases answered
    exact alone x met
  | arrived _ | routed _ | opened _ | sent _ _ | concluded _ _ | released _ _ | cancelled _ =>
    cases answered

namespace Service

/-- **Every transport is released.**  Let tool calls come to a service, go on and be given up in any
order.  The log says that transports were opened as often as it says that they were closed, and once
more for every call that holds one; and these are calls under way.  So it says both equally often
if no call is under way.  Of one call it says nothing of transports, or that one was opened, which
the call then holds, or that one was opened and then closed; and nothing at all if the call is
refused.  A call that is answered has sent, answered and logged what it would have alone if the
same became of its request, so it has opened and closed a transport if it was not refused.  And a
call that goes on is answered. -/
theorem run_releases (s : Server) (events : List Event) :
    let v := run s idle events
    let url := s.config.baseUrl
    v.openings = v.closings + v.holding ∧
      (∀ task ∈ v.tasks, task.holds = true → task.inFlight = true) ∧
      ((∀ task ∈ v.tasks, task.inFlight = false) → v.openings = v.closings) ∧
      (∀ i, v.tasks.length ≤ i → v.said i = []) ∧
      ∀ i task, v.tasks[i]? = some task →
        (task.holds = true → transports (v.said i) = [.opened url]) ∧
          (task.holds = false → transports (v.said i) = [] ∨
            transports (v.said i) = [.opened url, .closed url]) ∧
          (task.call.Rejected → transports (v.said i) = []) ∧
          (∀ result, task.stage = .answered result →
            (¬ task.call.Rejected → transports (v.said i) = [.opened url, .closed url]) ∧
              ∀ x, Task.Meets task.exchange x →
                s.callTool task.call x = ⟨task.requests, result, v.said i⟩) ∧
          (task.inFlight = true → ∀ x, ∃ n result,
            ((run s v (List.replicate n (.advance i x))).tasks[i]?).map Task.stage =
              some (.answered result)) := by
  intro v url
  have sound : Sound s v := (sound_idle s).run events
  refine ⟨sound.balanced, fun task _ => Task.inFlight_of_holds, fun landed => ?_, sound.silent,
    fun i task found => ?_⟩
  · have none_holds : v.holding = 0 := List.countP_eq_zero.2 fun task mem holds => by
      have flies := Task.inFlight_of_holds holds
      rw [landed task mem] at flies
      cases flies
    rw [sound.balanced, none_holds, Nat.add_zero]
  · have trace := sound.traced i task found
    obtain ⟨held, released⟩ := trace.transports
    refine ⟨fun holds => (held holds).2, fun free => (released free).imp_right And.right,
      fun rejected => ?_, fun result answered => ⟨fun accepted => ?_, fun x => ?_⟩,
      fun flying x => exists_answered found flying x⟩
    · cases holding : task.holds with
      | true => exact absurd rejected (held holding).1
      | false => exact (released holding).resolve_right fun both => both.1 rejected
    · obtain ⟨x, met⟩ := Task.exists_meets task.exchange
      have alone := trace.callTool_eq answered met
      have said := (transports_callTool s task.call x).2 accepted
      rwa [alone] at said
    · exact trace.callTool_eq answered

end Service

end RefactorGateway
