import Backpressure.Agenda
import Backpressure.Probe
import Backpressure.Switch

/-!
# A switch on the bench

One switch with a scripted subscriber below it and scripted links above it. Feeds are bound,
signals are forwarded and demand is issued by actions, from the top or from inside the reactions
of the subscriber and of the links.

Main results:

- Theorem `perform_order_inert` shows that a call on an inert link does nothing.
-/

namespace Backpressure.Switch

/-- A feed on the bench: one that does nothing, or a scripted link. -/
inductive Feed where
  | inert
  | tap (index : Nat)
  deriving DecidableEq

/-- An action on the bench. -/
inductive Action (α : Type) where
  /-- Subscribe the subscriber to the switch. -/
  | start
  /-- Bind the scripted link of a name. -/
  | bind (name : String) (react : Kind → Nat → List (Action α))
  | bindInert
  | request (amount : UInt64)
  | emitted (count : UInt64)
  | cancel
  | next (x : α)
  | error (failure : Failure)
  | complete
  /-- The subscriber calls the link it received. -/
  | order (order : Order)

/-- The result of an action on the bench. -/
inductive Result where
  | done
  | misused (misuse : Misuse)

/-- What is left to be done on the bench. -/
inductive Task (α : Type) where
  | act (action : Action α)
  | ret (action : Action α) (result : Result)
  /-- Deliver a signal to the subscriber. -/
  | signal (delivery : Delivery α Unit)
  /-- Call the switch. -/
  | demand (order : Order)
  /-- Call a feed. -/
  | order (feed : Feed) (order : Order)

/-- The bench: the switch, the subscriber below it, the links above it, and what happened. -/
structure Bench (α : Type) where
  switch : Switch Feed := {}
  probe : Probe α Unit (Action α)
  taps : List (Tap (Action α)) := []
  trace : List (Event α (Action α) Result) := []

namespace Bench

variable {α : Type}

/-- Record an event. -/
def log (bench : Bench α) (event : Event α (Action α) Result) : Bench α :=
  { bench with trace := bench.trace ++ [event] }

/-- The scripted link of a name, which is made when it is first mentioned. -/
def tapOf (bench : Bench α) (name : String) (react : Reaction (Action α)) : Bench α × Nat :=
  match bench.taps.findIdx? (·.name = name) with
  | some index => (bench, index)
  | none => ({ bench with taps := bench.taps ++ [{ name, react }] }, bench.taps.length)

/-- Replace the switch and make the call it asks for. -/
def follow (bench : Bench α) (answer : Switch Feed × Option (Call Feed)) :
    Bench α × List (Task α) :=
  ({ bench with switch := answer.1 }, answer.2.toList.map fun call => .order call.1 call.2)

/-- Begin an action: the bench after its immediate effect, the tasks it starts, and its
result. -/
def begin (bench : Bench α) : Action α → Bench α × List (Task α) × Result
  | .start => (bench, [.signal (.subscribe ())], .done)
  | .bind name react =>
      let (bench, index) := bench.tapOf name react
      let (bench, tasks) := bench.follow (bench.switch.bind (.tap index))
      (bench, tasks, .done)
  | .bindInert =>
      let (bench, tasks) := bench.follow (bench.switch.bind .inert)
      (bench, tasks, .done)
  | .request amount => (bench, [.demand (.request amount)], .done)
  | .emitted count => ({ bench with switch := bench.switch.emitted count }, [], .done)
  | .cancel => (bench, [.demand .cancel], .done)
  | .next x => (bench, [.signal (.next x)], .done)
  | .error failure => (bench, [.signal (.error failure)], .done)
  | .complete => (bench, [.signal .complete], .done)
  | .order order =>
      match bench.probe.link with
      | some () => (bench, [.demand order], .done)
      | none => (bench, [], .misused .notSubscribed)

/-- Deliver a signal to the subscriber, which may ask for items and then reacts. -/
def deliver (bench : Bench α) (delivery : Delivery α Unit) : Bench α × List (Task α) :=
  let probe := bench.probe
  (({ bench with probe := probe.hear delivery }).log (.heard probe.name delivery.signal),
    (probe.opening delivery).toList.map (fun call => Task.demand call.2) ++
      (probe.answer delivery).map Task.act)

/-- Call a feed, which records the call and then reacts. -/
def call (bench : Bench α) (order : Order) : Feed → Bench α × List (Task α)
  | .inert => (bench, [])
  | .tap index =>
      match bench.taps[index]? with
      | some tap =>
          (({ bench with taps := bench.taps.set index (tap.take order) }).log
            (.ordered tap.name order), (tap.answer order).map Task.act)
      | none => (bench, [])

/-- Perform one task. -/
def perform : Agenda.Performer (Bench α) (Task α)
  | .act action, bench =>
      let (next, tasks, result) := (bench.log (.called action)).begin action
      (next, tasks ++ [.ret action result])
  | .ret action result, bench => (bench.log (.returned action result), [])
  | .signal delivery, bench => bench.deliver delivery
  | .demand order, bench => bench.follow (bench.switch.take order)
  | .order feed order, bench => bench.call order feed

/-- Perform an action and everything that follows from it, within the fuel. -/
def play (fuel : Nat) (bench : Bench α) (action : Action α) : Bench α :=
  (Agenda.run perform fuel ⟨bench, [.act action]⟩).state

/-- A call on an inert link does nothing. -/
@[simp] theorem perform_order_inert (bench : Bench α) (order : Order) :
    perform (.order .inert order) bench = (bench, []) := rfl

end Bench

end Backpressure.Switch
