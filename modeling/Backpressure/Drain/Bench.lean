import Backpressure.Agenda
import Backpressure.Drain
import Backpressure.Probe

/-!
# A drain on the bench

One drain with a scripted subscriber below it. Items are offered and taken, demand is issued and
the source is terminated by actions, from the top or from inside the reactions of the subscriber.
A pass asks a cancellation predicate before each of its turns. The calling rules of a drain may be
broken on purpose.

Main results:

- Theorem `perform_pass_stopped` shows that a pass ends at the first check that tells it to stop.
- Theorem `trace_prefix_perform` shows that a trace only grows.
-/

namespace Backpressure.Drain

/-- An action on the bench. -/
inductive Action (α : Type) where
  /-- Add an item at the back of the buffer. -/
  | offer (x : α)
  /-- Take the oldest item of the buffer. -/
  | poll
  | isEmpty
  /-- Cancel the token that the predicate looks at. -/
  | cancel
  /-- Hold a failure back behind the items. -/
  | fail (failure : Failure)
  | request (amount : UInt64) (ending : Ending)
  | terminate (ending : Ending)

/-- The result of an action on the bench. -/
inductive Result (α : Type) where
  | done
  | accepted
  /-- The buffer was full. -/
  | full (x : α)
  | taken (x : Option α)
  | flag (b : Bool)
  /-- A failure was held already. -/
  | rejected (failure : Failure)

/-- What is left to be done on the bench. -/
inductive Task (α : Type) where
  | act (action : Action α)
  | ret (action : Action α) (result : Result α)
  | pass (pass : Pass)
  | signal (delivery : Delivery α Empty)
  /-- The signal delivered last has returned. -/
  | left

/-- The bench: the drain, the token and the checks of the predicate so far, the subscriber, and
what happened. -/
structure Bench (α : Type) where
  drain : Drain α
  token : Bool := false
  checks : Nat := 0
  probe : Probe α Empty (Action α)
  trace : List (Event α (Action α) (Result α)) := []

/-- A cancellation predicate: its answer by the number of earlier checks and the number of values
received, beside the token. -/
abbrev Predicate := Nat → Nat → Bool

/-- The predicate that stops after a number of checks or a number of values. -/
def Predicate.limits (checks values : Nat) : Predicate := fun checked received =>
  checks ≤ checked || values ≤ received

namespace Bench

variable {α : Type}

/-! ## Actions -/

/-- Record an event. -/
def log (bench : Bench α) (event : Event α (Action α) (Result α)) : Bench α :=
  { bench with trace := bench.trace ++ [event] }

/-- Replace the drain. -/
def withDrain (bench : Bench α) (drain : Drain α) : Bench α := { bench with drain }

/-- What the predicate answers now. -/
def stops (predicate : Predicate) (bench : Bench α) : Bool :=
  bench.token || predicate bench.checks (History.values bench.probe.history).length

/-- Begin an action: the bench after its immediate effect, the tasks it starts, and its
result. -/
def begin (bench : Bench α) : Action α → Bench α × List (Task α) × Result α
  | .offer x =>
      match bench.drain.buffer.offer? x with
      | some buffer => (bench.withDrain { bench.drain with buffer }, [], .accepted)
      | none => (bench, [], .full x)
  | .poll =>
      match bench.drain.buffer.poll? with
      | some (x, buffer) => (bench.withDrain { bench.drain with buffer }, [], .taken (some x))
      | none => (bench, [], .taken none)
  | .isEmpty => (bench, [], .flag bench.drain.buffer.isEmpty)
  | .cancel => ({ bench with token := true }, [], .flag !bench.token)
  | .fail failure =>
      let slot := bench.drain.failure
      (bench.withDrain { bench.drain with failure := slot.set failure }, [],
        match slot.rejected? failure with
        | some rejected => .rejected rejected
        | none => .accepted)
  | .request amount ending =>
      let tasks := (bench.drain.passOnRequest amount ending).toList.map Task.pass
      (bench.withDrain (bench.drain.afterRequest amount), tasks, .flag bench.drain.isStalled)
  | .terminate ending =>
      match bench.drain.passOnTermination ending with
      | some pass => (bench, [.pass pass], .done)
      | none => (bench, [.signal (bench.drain.conclusion ending)], .done)

/-- The tasks that a move of a pass leads to. -/
def follow (drain : Drain α) (ending : Ending) : PassMove α → List (Task α)
  | .stop => []
  | .deliver x pass => [.signal (.next x), .pass pass]
  | .conclude => [.signal (drain.conclusion ending)]
  | .again pass => [.pass pass]

/-- Take one turn of a pass, after asking the predicate. -/
def turn (predicate : Predicate) (bench : Bench α) (pass : Pass) : Bench α × List (Task α) :=
  let stop := bench.stops predicate
  let (drain, move) := bench.drain.advance pass stop
  (({ bench with drain, checks := bench.checks + 1 }).log (.checked stop),
    follow drain pass.ending move)

/-- Deliver a signal to the subscriber, which then reacts. -/
def deliver (bench : Bench α) (delivery : Delivery α Empty) : Bench α × List (Task α) :=
  let probe := bench.probe
  (({ bench with probe := probe.hear delivery }).log (.heard probe.name delivery.signal),
    (probe.answer delivery).map Task.act ++ [.left])

/-! ## Runs -/

/-- Perform one task. -/
def perform (predicate : Predicate) : Agenda.Performer (Bench α) (Task α)
  | .act action, bench =>
      let (next, tasks, result) := (bench.log (.called action)).begin action
      (next, tasks ++ [.ret action result])
  | .ret action result, bench => (bench.log (.returned action result), [])
  | .pass pass, bench => bench.turn predicate pass
  | .signal delivery, bench => bench.deliver delivery
  | .left, bench => (bench, [])

/-- Perform an action and everything that follows from it, within the fuel. -/
def play (predicate : Predicate) (fuel : Nat) (bench : Bench α) (action : Action α) : Bench α :=
  (Agenda.run (perform predicate) fuel ⟨bench, [.act action]⟩).state

/-- A pass that is told to stop ends, and changes neither buffer nor register. -/
theorem perform_pass_stopped {predicate : Predicate} {bench : Bench α} (pass : Pass)
    (h : bench.stops predicate = true) :
    (perform predicate (.pass pass) bench).1.drain = bench.drain ∧
      (perform predicate (.pass pass) bench).2 = [] := by
  simp [perform, turn, h, log, follow]

/-- The immediate effect of an action leaves the trace alone. -/
theorem trace_begin (bench : Bench α) (action : Action α) :
    (bench.begin action).1.trace = bench.trace := by
  cases action <;> simp only [begin, withDrain] <;> (try split) <;> rfl

/-- A task only adds to the trace. -/
theorem trace_prefix_perform (predicate : Predicate) (task : Task α) (bench : Bench α) :
    bench.trace <+: (perform predicate task bench).1.trace := by
  cases task with
  | act action =>
      simp only [perform, trace_begin, log]
      exact List.prefix_append _ _
  | ret action result => exact List.prefix_append _ _
  | pass pass => exact List.prefix_append _ _
  | signal delivery => exact List.prefix_append _ _
  | left => exact List.prefix_rfl

end Bench

end Backpressure.Drain
