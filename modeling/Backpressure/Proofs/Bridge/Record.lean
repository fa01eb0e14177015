import Backpressure.Network.Trace
import Backpressure.Proofs.Bridge.Course

/-!
# Answers on record

A poll takes its answer from a stream at once, and returns it when everything that the poll has set
off is done: a request for more may bring new items at once, and whoever takes the request may even
poll again. So the answers of polls wait in the tasks that end them, and those of an action that
collects in the task that goes on with it, until they are put on record.

Main results:

- Theorem `recorded_perform` shows that no task loses or makes up an answer.
- Theorem `answers_turns` finds the polls of a run among the turns of the streams that they reach.
- Theorem `answers_are_recorded` shows that what is on record at any moment of a run, together with
  what is still held back, is what the streams have answered.
-/

namespace Backpressure.Network

open scoped List

variable {α : Type} {network : Network α} {task : Task α} {rest : List (Task α)}

/-! ## Answers that are held -/

/-- The answers that a result hands out. -/
def Result.answers : Result α → List (Poll α)
  | .polled answer => [answer]
  | .collected answers => answers
  | .done | .misused _ => []

/-- The answers that a task is to return. -/
def Task.held : Task α → List (Poll α)
  | .ret _ result => result.answers
  | .collect _ _ _ answers => answers
  | _ => []

/-- The answers that several tasks are to return. -/
def held (tasks : List (Task α)) : List (Poll α) := tasks.flatMap Task.held

/-- The answers on record, in the order in which they were returned. -/
def recorded (network : Network α) : List (Poll α) := network.returns.flatMap (·.2.answers)

/-- The answers held by tasks in front of others. -/
@[simp] theorem held_append (first second : List (Task α)) :
    held (first ++ second) = held first ++ held second :=
  List.flatMap_append

/-- The answers held by a task in front of others. -/
@[simp] theorem held_cons (task : Task α) (tasks : List (Task α)) :
    held (task :: tasks) = task.held ++ held tasks := rfl

/-- No tasks hold no answers. -/
@[simp] theorem held_nil : held ([] : List (Task α)) = [] := rfl

/-- Tasks none of which holds an answer. -/
theorem held_map_eq_nil {β : Type} {f : β → Task α} (h : ∀ x, (f x).held = []) (xs : List β) :
    held (xs.map f) = [] := by
  induction xs with
  | nil => rfl
  | cons x xs ih => rw [List.map_cons, held_cons, h, ih, List.append_nil]

/-- The effects of a unit hold no answers. -/
theorem held_effects {κ : Type} {below : Receiver} {work : κ → Task α}
    (h : ∀ own, (work own).held = []) (effects : List (Effect α Link κ)) :
    held (effects.map (taskOf below work)) = [] := by
  apply held_map_eq_nil
  intro effect
  cases effect with
  | signal delivery => rfl
  | order link order => rfl
  | go own => exact h own

/-- A source holds no answers. -/
theorem held_onSource (network : Network α) (index : Nat)
    (f : Source α → Source α × List (Effect α Link Source.Work)) :
    held (network.onSource index f).2 = [] := by
  unfold onSource
  split
  · exact held_effects (fun _ => rfl) _
  · rfl

/-- A window holds no answers. -/
theorem held_onWindow (network : Network α) (index : Nat)
    (f : Window α Link → Window α Link × List (Effect α Link Pass)) :
    held (network.onWindow index f).2 = [] := by
  unfold onWindow
  split
  · exact held_effects (fun _ => rfl) _
  · rfl

/-- A resumption holds no answers. -/
theorem held_onResumption (network : Network α) (index : Nat)
    (f : Resumption Link → Resumption Link × List (Effect α Link (Resumption.Work Link))) :
    held (network.onResumption index f).2 = [] := by
  unfold onResumption
  split
  · exact held_effects (fun _ => rfl) _
  · rfl

/-- The tasks that a poll sets off hold no answers. -/
theorem held_poll (network : Network α) (index : Nat) : held (network.poll index).2.2 = [] := by
  unfold poll
  split
  · exact held_map_eq_nil (fun _ => rfl) _
  · rfl

/-- The tasks that are set off when a stream is dropped hold no answers. -/
theorem held_drop (network : Network α) (index : Nat) : held (network.drop index).2 = [] := by
  unfold drop
  split
  · exact held_map_eq_nil (fun _ => rfl) _
  · rfl

/-- A signal by hand is to return no answer. -/
theorem held_signalByHand (network : Network α) (action : Action α) (name : String)
    (deliveries : List (Delivery α Link)) :
    held (network.signalByHand action name deliveries).2 = [] := by
  unfold signalByHand
  split
  next receiver _ =>
    rw [held_append, held_map_eq_nil fun _ => rfl]
    rfl
  next => rfl

/-- A signal holds no answers. -/
theorem held_deliver (network : Network α) (delivery : Delivery α Link) (receiver : Receiver) :
    held (network.deliver delivery receiver).2 = [] := by
  cases receiver with
  | probe index =>
      simp only [deliver, hearProbe]
      split
      · rw [held_append, held_map_eq_nil fun _ => rfl, held_map_eq_nil fun _ => rfl]
        rfl
      · rfl
  | window index => exact held_onWindow network index _
  | resumption index => exact held_onResumption network index _
  | bridge index =>
      simp only [deliver, hearBridge]
      split
      · exact held_map_eq_nil (fun _ => rfl) _
      · rfl

/-- A call holds no answers. -/
theorem held_call (network : Network α) (order : Order) (link : Link) :
    held (network.call order link).2 = [] := by
  cases link with
  | source index => exact held_onSource network index _
  | window index => exact held_onWindow network index _
  | switch index => exact held_onResumption network index _
  | tap index =>
      simp only [call, callTap]
      split
      · exact held_map_eq_nil (fun _ => rfl) _
      · rfl
  | inert | hand index => rfl

/-- A subscription holds no answers. -/
theorem held_subscribe (network : Network α) (receiver : Receiver)
    (publisher : Publisher α (Action α)) : held (network.subscribe receiver publisher).2 = [] := by
  cases publisher with
  | items supply =>
      simp only [subscribe]
      split <;> rfl
  | hand name =>
      simp only [subscribe]
      split <;> rfl
  | fail | deferred | named | takeLast | resume => rfl

/-- Following a recovery holds no answers. -/
theorem held_follow (network : Network α) (index : Nat) (failure : Failure)
    (recovery : Recovery α (Action α)) : held (network.follow index failure recovery).2 = [] := by
  unfold follow
  split
  · rw [held_append, held_map_eq_nil fun _ => rfl]
    rfl
  · rfl
  · split <;> rfl

/-- The work of a resumption holds no answers. -/
theorem held_resume (network : Network α) (index : Nat) (work : Resumption.Work Link) :
    held (network.resume index work).2 = [] := by
  cases work with
  | bind link => exact held_onResumption network index _
  | count => exact held_onResumption network index _
  | recover failure =>
      simp only [resume]
      split <;> rfl

/-! ## Polls -/

/-- A poll of the stream at an index: the stream, if it is there, and what it answers. -/
def pollAt (network : Network α) (place : Option Nat) : Option Nat × Poll α :=
  match place.bind (network.outlets[·]?) with
  | some outlet => (place, outlet.unit.poll.2.1)
  | none => (none, .gone)

/-- The polls that a task makes. A name that means no stream is answered without one. -/
def pollsOf (task : Task α) (network : Network α) : List (Option Nat × Poll α) :=
  match task with
  | .act (.poll name) => [network.pollAt (network.outletOf name)]
  | .act (.collect name _) =>
      if network.outletOf name = none then [network.pollAt none] else []
  | .collect _ index (_ + 1) _ => [network.pollAt (some index)]
  | _ => []

/-- What the stream at an index answers to polls. -/
def answersOf (index : Nat) (polls : List (Option Nat × Poll α)) : List (Poll α) :=
  (polls.filter (·.1 = some index)).map (·.2)

/-- The answers of a stream to polls in a row. -/
theorem answersOf_append (index : Nat) (first second : List (Option Nat × Poll α)) :
    answersOf index (first ++ second) = answersOf index first ++ answersOf index second := by
  rw [answersOf, List.filter_append, List.map_append, answersOf, answersOf]

/-- A poll is answered by the stream at an index if it reaches that one. -/
theorem answersOf_pollAt (network : Network α) (index : Nat) (place : Option Nat) :
    answersOf index [network.pollAt place] =
      if place = some index then (network.outlets[index]?.map (·.unit.poll.2.1)).toList
      else [] := by
  cases hfound : place.bind (network.outlets[·]?) with
  | none =>
      have hnone : place = some index → network.outlets[index]? = none := by
        rintro rfl
        exact hfound
      simp only [pollAt, hfound, answersOf]
      split
      next hplace => rw [hnone hplace]; rfl
      next => rfl
  | some outlet =>
      have hsome : place = some index → network.outlets[index]? = some outlet := by
        rintro rfl
        exact hfound
      simp only [pollAt, hfound, answersOf]
      split
      next hplace => simp [hplace, hsome hplace]
      next hplace => simp [hplace]

/-- What a stream answers does not depend on who asks. -/
theorem answer_poll (network : Network α) (index : Nat) :
    (network.poll index).2.1 = (network.pollAt (some index)).2 := by
  simp only [pollAt, poll, Option.bind_some]
  cases network.outlets[index]? <;> rfl

/-- The call that a bridge asks for answers no poll. -/
theorem answers_ofCall (turn : Bridge.Turn α Link) (call : Option (Call Link)) :
    Bridge.Turn.answers (turn :: Bridge.Turn.ofCall call) = turn.answer?.toList := by
  have hcall : Bridge.Turn.answers (Bridge.Turn.ofCall (α := α) call) = [] := by
    cases call <;> rfl
  rw [← List.singleton_append, Bridge.Turn.answers_append, Bridge.Turn.answers_singleton, hcall,
    List.append_nil]

/-- The answers of a stream are those to the polls that reach it. -/
theorem answers_turns (index : Nat) (task : Task α) (network : Network α) :
    Bridge.Turn.answers (bridgeTurns index task network) =
      answersOf index (pollsOf task network) := by
  cases houtlet : network.outlets[index]? with
  | none =>
      -- A stream that is not there takes no turn but that of being made, and answers no poll.
      have hnone : ∀ place, answersOf index [network.pollAt place] = [] := by
        intro place
        rw [answersOf_pollAt, houtlet, Option.map_none, Option.toList_none, ite_self]
      have hturns : Bridge.Turn.answers (bridgeTurns index task network) = [] := by
        simp only [bridgeTurns, houtlet]
        split
        · split <;> rfl
        · rfl
      rw [hturns]
      unfold pollsOf
      split
      · exact (hnone _).symm
      · split
        · exact (hnone none).symm
        · rfl
      · exact (hnone _).symm
      · rfl
  | some outlet =>
      have hpoll : ∀ place : Option Nat, Bridge.Turn.answers
          (if place = some index then Bridge.Turn.ofPoll outlet.unit else []) =
            answersOf index [network.pollAt place] := by
        intro place
        rw [answersOf_pollAt, houtlet]
        split
        · exact answers_ofCall _ _
        · rfl
      have hother : ∀ (condition : Prop) [Decidable condition] (turn : Bridge.Turn α Link)
          (call : Option (Call Link)), turn.answer? = none → Bridge.Turn.answers
            (if condition then turn :: Bridge.Turn.ofCall call else []) = [] := by
        intro condition _ turn call hturn
        split
        · rw [answers_ofCall, hturn, Option.toList_none]
        · rfl
      cases task with
      | act action =>
          cases action with
          | poll name =>
              simp only [bridgeTurns, houtlet]
              exact hpoll (network.outletOf name)
          | collect name most =>
              simp only [bridgeTurns, houtlet, pollsOf]
              split <;> rfl
          | drop name =>
              simp only [bridgeTurns, houtlet]
              exact hother _ _ _ rfl
          | _ => simp only [bridgeTurns, houtlet]; rfl
      | collect action place left answers =>
          cases left with
          | zero =>
              simp only [bridgeTurns, houtlet]
              rfl
          | succ left =>
              simp only [bridgeTurns, houtlet]
              have hplace := hpoll (some place)
              simp only [Option.some.injEq] at hplace
              exact hplace
      | signal receiver delivery =>
          cases receiver with
          | bridge place =>
              simp only [bridgeTurns, houtlet]
              exact hother _ _ _ rfl
          | _ => simp only [bridgeTurns, houtlet]; rfl
      | announce name place =>
          simp only [bridgeTurns, houtlet]
          exact hother _ _ _ rfl
      | leave receiver =>
          simp only [bridgeTurns, houtlet]
          exact hother _ _ none rfl
      | subscribe publisher receiver =>
          simp only [bridgeTurns, houtlet]
          exact hother _ _ none rfl
      | _ => simp only [bridgeTurns, houtlet]; rfl

/-! ## Tasks -/

/-- An action holds no answers that come before those to its own polls. -/
theorem held_begin (network : Network α) (action : Action α) :
    held (network.begin action).2 = (pollsOf (.act action) network).map (·.2) := by
  cases action with
  | order name order =>
      simp only [begin]
      split <;> rfl
  | next | nextAll | complete | error => exact held_signalByHand _ _ _ _
  | accept name link react =>
      simp only [begin]
      exact held_signalByHand _ _ _ _
  | poll name =>
      simp only [begin, pollsOf]
      cases network.outletOf name with
      | none => rfl
      | some index =>
          simp only [held_append, held_poll, answer_poll]
          rfl
  | collect name most =>
      simp only [begin, pollsOf]
      cases network.outletOf name <;> rfl
  | drop name =>
      simp only [begin]
      split
      · rw [held_append, held_drop]
        rfl
      · rfl
  | define | subscribe | stream => rfl

/-- A round of collecting holds the answers so far, and then that of its poll. -/
theorem held_collect (network : Network α) (action : Action α) (index left : Nat)
    (answers : List (Poll α)) :
    held (network.collect action index left answers).2 =
      answers ++ (pollsOf (.collect action index left answers) network).map (·.2) := by
  cases left with
  | zero => simp [collect, pollsOf, Task.held, Result.answers]
  | succ left =>
      have hpoll := held_poll network index
      simp only [collect, pollsOf, List.map_cons, List.map_nil, ← answer_poll]
      split
      next hanswer => simp [hpoll, Task.held]
      next => simp [hpoll, Task.held, Result.answers]

/-- No task loses or makes up an answer: what is on record and held after it is what was on record
and held before it, and then the answers to its polls. -/
theorem recorded_perform (task : Task α) (network : Network α) :
    (perform task network).1.recorded ++ held (perform task network).2 =
      network.recorded ++ (task.held ++ (pollsOf task network).map (·.2)) := by
  have hrecorded : (perform task network).1.recorded =
      network.recorded ++ task.returned?.toList.flatMap (·.2.answers) := by
    rw [recorded, returns_perform, List.flatMap_append, recorded]
  rw [hrecorded, List.append_assoc]
  congr 1
  cases task with
  | act action => exact held_begin (network.log (.called action)) action
  | ret action result =>
      show [(action, result)].flatMap (·.2.answers) ++ [] = result.answers ++ []
      rw [List.flatMap_singleton]
  | collect action index left answers => exact held_collect network action index left answers
  | signal receiver delivery => exact held_deliver network delivery receiver
  | order link order => exact held_call network order link
  | subscribe publisher receiver => exact held_subscribe network receiver publisher
  | source index work => exact held_onSource network index _
  | window index pass => exact held_onWindow network index _
  | resumption index work => exact held_resume network index work
  | recover index failure recovery => exact held_follow network index failure recovery
  | leave receiver => rfl
  | announce name index =>
      simp only [perform, announce]
      split
      · exact held_drop _ _
      · rfl

/-! ## Runs -/

/-- A task that polls only when no answer is held behind it keeps the answers in order. -/
theorem recorded_step (h : pollsOf task network = [] ∨ held rest = []) :
    (perform task network).1.recorded ++ held ((perform task network).2 ++ rest) =
      network.recorded ++ held (task :: rest) ++ (pollsOf task network).map (·.2) := by
  rw [held_append, ← List.append_assoc, recorded_perform, held_cons]
  rcases h with hnone | hnone
  · simp [hnone]
  · simp [hnone]

/-- The answers of a stream in a run are those to the polls that reach it. -/
theorem answers_bridgeCourse (index fuel : Nat) (agenda : Agenda (Network α) (Task α)) :
    Bridge.Turn.answers (bridgeCourse index fuel agenda) =
      answersOf index (Agenda.observe pollsOf perform fuel agenda) := by
  induction fuel generalizing agenda with
  | zero => rfl
  | succ fuel ih =>
      rcases agenda with ⟨network, _ | ⟨task, rest⟩⟩
      · rfl
      · rw [bridgeCourse, Agenda.observe, Agenda.observe, Bridge.Turn.answers_append,
          answersOf_append, answers_turns]
        exact congrArg _ (ih _)

/-- What is on record and held at any moment of a run is what was so at its start, and the answers
to all polls since then. -/
theorem recorded_run (agenda : Agenda (Network α) (Task α)) (fuel : Nat) :
    ((Agenda.run perform fuel agenda).state.recorded ++
        held (Agenda.run perform fuel agenda).todo).Perm
      (agenda.state.recorded ++ held agenda.todo ++
        (Agenda.observe pollsOf perform fuel agenda).map (·.2)) := by
  let balanced : List (Option Nat × Poll α) → Agenda (Network α) (Task α) → Prop :=
    fun polls current => (current.state.recorded ++ held current.todo).Perm
      (agenda.state.recorded ++ held agenda.todo ++ polls.map (·.2))
  have hstart : balanced [] agenda := by
    simp only [balanced, List.map_nil, List.append_nil]
    exact .refl _
  have hall : balanced (Agenda.observe pollsOf perform fuel agenda)
      (Agenda.run perform fuel agenda) := by
    apply Agenda.invariant_seen hstart
    intro polls network task rest hbefore
    let answers : List (Poll α) := (pollsOf task network).map (·.2)
    calc (perform task network).1.recorded ++ held ((perform task network).2 ++ rest)
        = network.recorded ++ (task.held ++ (answers ++ held rest)) := by
          rw [held_append, ← List.append_assoc, recorded_perform]
          simp only [answers, List.append_assoc]
      _ ~ network.recorded ++ (task.held ++ (held rest ++ answers)) :=
          (List.perm_append_comm.append_left _).append_left _
      _ = network.recorded ++ held (task :: rest) ++ answers := by
          rw [held_cons]
          simp only [List.append_assoc]
      _ ~ agenda.state.recorded ++ held agenda.todo ++ polls.map (·.2) ++ answers :=
          hbefore.append_right answers
      _ = agenda.state.recorded ++ held agenda.todo ++
            (polls ++ pollsOf task network).map (·.2) := by
          rw [List.map_append, ← List.append_assoc]
  exact hall

/-- In every run the answers on record, together with those that are still held, are those that
were held before it and those that the streams have answered in its course. A poll from inside
another one returns before it, so that the answers need not be returned in the order in which they
were given. -/
theorem answers_are_recorded (tasks : List (Task α)) (fuel : Nat) :
    let final := Agenda.run perform fuel ⟨{}, tasks⟩
    ∃ polls : List (Option Nat × Poll α),
      (∀ index, answersOf index polls =
        Bridge.Turn.answers (bridgeCourse index fuel ⟨{}, tasks⟩)) ∧
      (final.state.recorded ++ held final.todo).Perm (held tasks ++ polls.map (·.2)) :=
  ⟨Agenda.observe pollsOf perform fuel ⟨{}, tasks⟩,
    fun index => (answers_bridgeCourse index fuel _).symm, recorded_run ⟨{}, tasks⟩ fuel⟩

end Backpressure.Network
