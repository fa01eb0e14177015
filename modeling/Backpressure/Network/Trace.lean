import Backpressure.Network.Run

/-!
# The trace of a network

Most tasks of a network leave the trace alone, or add an event about a signal, a call, a recovery
or a wake-up. The result of an action is put on record when the action has returned, and at no
other time.

Main results:

- Theorem `returns_perform` shows that a task puts a result on record exactly if it ends an action.
-/

namespace Backpressure.Network

variable {α : Type} {network next : Network α}

/-! ## Results on record -/

/-- The result that an event puts on record, with the action that it is the result of. -/
def returned? : Event α (Action α) (Result α) → Option (Action α × Result α)
  | .returned action result => some (action, result)
  | _ => none

/-- The results on record, each with its action. -/
def returns (network : Network α) : List (Action α × Result α) := network.trace.filterMap returned?

/-- The result that a task puts on record. -/
def Task.returned? : Task α → Option (Action α × Result α)
  | .ret action result => some (action, result)
  | _ => none

/-- The results on record depend on the trace alone. -/
theorem returns_of_trace_eq (h : next.trace = network.trace) : next.returns = network.returns := by
  rw [returns, h, returns]

/-- An event that holds no result leaves the results on record alone. -/
theorem returns_log {event : Event α (Action α) (Result α)} (h : returned? event = none) :
    (network.log event).returns = network.returns := by
  rw [returns, log, List.filterMap_append, List.filterMap_cons_none h, List.filterMap_nil,
    List.append_nil, returns]

/-! ## Tasks that leave the trace alone -/

/-- Making publishers driven by hand leaves the trace alone. -/
theorem trace_mention (network : Network α) (publisher : Publisher α (Action α)) :
    (network.mention publisher).trace = network.trace := by
  obtain ⟨hands, deferreds, hmention⟩ := network.exists_mention publisher
  rw [hmention]

/-- A source leaves the trace alone. -/
theorem trace_onSource (network : Network α) (index : Nat)
    (f : Source α → Source α × List (Effect α Link Source.Work)) :
    (network.onSource index f).1.trace = network.trace := by
  unfold onSource
  split <;> rfl

/-- A window leaves the trace alone. -/
theorem trace_onWindow (network : Network α) (index : Nat)
    (f : Window α Link → Window α Link × List (Effect α Link Pass)) :
    (network.onWindow index f).1.trace = network.trace := by
  unfold onWindow
  split <;> rfl

/-- A resumption leaves the trace alone. -/
theorem trace_onResumption (network : Network α) (index : Nat)
    (f : Resumption Link → Resumption Link × List (Effect α Link (Resumption.Work Link))) :
    (network.onResumption index f).1.trace = network.trace := by
  unfold onResumption
  split <;> rfl

/-- A poll leaves the trace alone. -/
theorem trace_poll (network : Network α) (index : Nat) :
    (network.poll index).1.trace = network.trace := by
  unfold poll
  split <;> rfl

/-- Dropping a stream leaves the trace alone. -/
theorem trace_drop (network : Network α) (index : Nat) :
    (network.drop index).1.trace = network.trace := by
  unfold drop
  split <;> rfl

/-- Giving a name to a stream leaves the trace alone. -/
theorem trace_announce (network : Network α) (name : String) (index : Nat) :
    (network.announce name index).1.trace = network.trace := by
  unfold announce
  simp only
  split
  · exact trace_drop _ _
  · rfl

/-- Starting a signal by hand leaves the trace alone. -/
theorem trace_signalByHand (network : Network α) (action : Action α) (name : String)
    (deliveries : List (Delivery α Link)) :
    (network.signalByHand action name deliveries).1.trace = network.trace := by
  unfold signalByHand
  split <;> rfl

/-- The immediate effect of an action leaves the trace alone. -/
theorem trace_begin (network : Network α) (action : Action α) :
    (network.begin action).1.trace = network.trace := by
  cases action with
  | define name publisher => exact trace_mention network publisher
  | subscribe name publisher initial react => exact trace_mention network publisher
  | stream name publisher prefetch => exact trace_mention network publisher
  | order name order =>
      simp only [begin]
      split <;> rfl
  | next | nextAll | complete | error => exact trace_signalByHand _ _ _ _
  | accept name link react =>
      simp only [begin, trace_signalByHand, tapOf]
      split <;> rfl
  | poll name =>
      simp only [begin]
      split
      · exact trace_poll _ _
      · rfl
  | collect name most =>
      simp only [begin]
      split <;> rfl
  | drop name =>
      simp only [begin]
      split
      · exact trace_drop _ _
      · rfl

/-- Following a recovery leaves the trace alone. -/
theorem trace_follow (network : Network α) (index : Nat) (failure : Failure)
    (recovery : Recovery α (Action α)) :
    (network.follow index failure recovery).1.trace = network.trace := by
  unfold follow
  split
  · rfl
  · exact trace_mention _ _
  · split <;> rfl

/-- Collecting leaves the trace alone. -/
theorem trace_collect (network : Network α) (action : Action α) (index left : Nat)
    (answers : List (Poll α)) :
    (network.collect action index left answers).1.trace = network.trace := by
  cases left with
  | zero => rfl
  | succ left =>
      simp only [collect]
      split <;> exact trace_poll _ _

/-! ## Tasks that add to the trace -/

/-- Letting go of a receiver puts no result on record. -/
theorem returns_letGo (network : Network α) (receiver : Receiver) :
    (network.letGo receiver).returns = network.returns := by
  obtain ⟨woken, htrace⟩ := trace_letGo network receiver
  have hnone :
      (woken.map .woke : List (Event α (Action α) (Result α))).filterMap returned? = [] := by
    apply List.filterMap_eq_nil_iff.2
    intro event hevent
    obtain ⟨_, -, rfl⟩ := List.mem_map.1 hevent
    rfl
  rw [returns, htrace, List.filterMap_append, hnone, List.append_nil, returns]

/-- Letting go of a receiver, if there is one, puts no result on record. -/
theorem returns_elim_letGo (receiver : Option Receiver) (network : Network α) :
    (receiver.elim network network.letGo).returns = network.returns := by
  cases receiver with
  | none => rfl
  | some receiver => exact returns_letGo network receiver

/-- Subscribing puts no result on record. -/
theorem returns_subscribe (network : Network α) (receiver : Receiver)
    (publisher : Publisher α (Action α)) :
    (network.subscribe receiver publisher).1.returns = network.returns := by
  cases publisher with
  | items supply =>
      simp only [subscribe]
      split <;> rfl
  | hand name =>
      simp only [subscribe]
      split
      · exact returns_elim_letGo _ _
      · rfl
  | deferred name => exact returns_elim_letGo _ _
  | fail | named | takeLast | resume => rfl

/-- A signal puts no result on record. -/
theorem returns_deliver (network : Network α) (delivery : Delivery α Link) (receiver : Receiver) :
    (network.deliver delivery receiver).1.returns = network.returns := by
  cases receiver with
  | probe index =>
      simp only [deliver, hearProbe]
      split
      · exact returns_log rfl
      · rfl
  | window index => exact returns_of_trace_eq (trace_onWindow _ _ _)
  | resumption index => exact returns_of_trace_eq (trace_onResumption _ _ _)
  | bridge index =>
      simp only [deliver, hearBridge]
      split
      · simp only
        split
        · exact returns_log rfl
        · rfl
      · rfl

/-- A call puts no result on record. -/
theorem returns_call (network : Network α) (order : Order) (link : Link) :
    (network.call order link).1.returns = network.returns := by
  cases link with
  | source index => exact returns_of_trace_eq (trace_onSource _ _ _)
  | window index => exact returns_of_trace_eq (trace_onWindow _ _ _)
  | switch index => exact returns_of_trace_eq (trace_onResumption _ _ _)
  | tap index =>
      simp only [call, callTap]
      split
      · exact returns_log rfl
      · rfl
  | inert | hand index => rfl

/-- The work of a resumption puts no result on record. -/
theorem returns_resume (network : Network α) (index : Nat) (work : Resumption.Work Link) :
    (network.resume index work).1.returns = network.returns := by
  cases work with
  | bind link => exact returns_of_trace_eq (trace_onResumption _ _ _)
  | count => exact returns_of_trace_eq (trace_onResumption _ _ _)
  | recover failure =>
      simp only [resume]
      split
      · exact returns_log rfl
      · rfl

/-- A task that ends no action puts no result on record. -/
theorem returns_perform_of_none {task : Task α} (h : task.returned? = none) (network : Network α) :
    (perform task network).1.returns = network.returns := by
  cases task with
  | ret action result => exact absurd h (Option.some_ne_none _)
  | act action =>
      have hbegin := returns_of_trace_eq (trace_begin (network.log (.called action)) action)
      exact hbegin.trans (returns_log rfl)
  | signal receiver delivery => exact returns_deliver network delivery receiver
  | order link order => exact returns_call network order link
  | subscribe publisher receiver => exact returns_subscribe network receiver publisher
  | resumption index work => exact returns_resume network index work
  | leave receiver =>
      exact returns_letGo { network with hearing := network.hearing.erase receiver } receiver
  | announce name index => exact returns_of_trace_eq (trace_announce network name index)
  | source index work => exact returns_of_trace_eq (trace_onSource network index _)
  | window index pass => exact returns_of_trace_eq (trace_onWindow network index _)
  | recover index failure recovery =>
      exact returns_of_trace_eq (trace_follow network index failure recovery)
  | collect action index left answers =>
      exact returns_of_trace_eq (trace_collect network action index left answers)

/-- A task puts a result on record exactly if it ends an action. -/
theorem returns_perform (task : Task α) (network : Network α) :
    (perform task network).1.returns = network.returns ++ task.returned?.toList := by
  cases hreturned : task.returned? with
  | none => rw [returns_perform_of_none hreturned, Option.toList_none, List.append_nil]
  | some result =>
      cases task with
      | ret action result =>
          cases hreturned
          rw [returns, trace_perform_ret, List.filterMap_append]
          rfl
      | _ => cases hreturned

end Backpressure.Network
