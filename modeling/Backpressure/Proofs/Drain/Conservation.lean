import Backpressure.Proofs.Drain.Cancellation

/-!
# Items that go through a drain

Whatever is done with a drain, its buffer is first-in, first-out: the items that it accepted are
those that were taken out of it, in the order in which that happened, and behind them those that are
still in it. No calling rule is needed for this. A source may terminate twice, or from inside
a delivery, a pass may run inside another one and on a word that the register does not hold any
more, and items may be offered late or polled from under a running pass. Each task adds or takes one
item at most, and what became of the item is recorded by the task that comes next.

Main results:

- Theorem `moved_perform` states what one task moves, whatever it is.
- Theorem `balanced_step` keeps the account of the items over one task.
- Theorem `items_in_equal_items_out` states the account of every run, what a pass does with an item
  that it takes out, and that a rejected offer changes nothing.
-/

namespace Backpressure.Drain

variable {α : Type}

/-! ## Items in a trace -/

/-- The item that an event shows to have entered the buffer. -/
def acceptedIn? : Event α (Action α) (Result α) → Option α
  | .returned (.offer x) .accepted => some x
  | _ => none

/-- The item that an event shows to have left the buffer: it was delivered, or a poll returned
it. -/
def takenIn? : Event α (Action α) (Result α) → Option α
  | .heard _ (.next x) => some x
  | .returned .poll (.taken (some x)) => some x
  | _ => none

/-- The items that the buffer accepted, in order. -/
def acceptedIn (trace : List (Event α (Action α) (Result α))) : List α :=
  trace.filterMap acceptedIn?

/-- The items that were taken out of the buffer, in order. -/
def takenIn (trace : List (Event α (Action α) (Result α))) : List α :=
  trace.filterMap takenIn?

/-- The item that a task is about to report as accepted. -/
def Task.entering? : Task α → Option α
  | .ret (.offer x) .accepted => some x
  | _ => none

/-- The item that a task is about to deliver, or to return from a poll. -/
def Task.leaving? : Task α → Option α
  | .signal (.next x) => some x
  | .ret .poll (.taken (some x)) => some x
  | _ => none

/-- The items that tasks are about to report as accepted. -/
def entering (tasks : List (Task α)) : List α := tasks.filterMap Task.entering?

/-- The items that tasks are about to deliver, or to return from polls. -/
def leaving (tasks : List (Task α)) : List α := tasks.filterMap Task.leaving?

/-- Tasks that are about to report no item. -/
structure Itemless (tasks : List (Task α)) : Prop where
  entering : entering tasks = []
  leaving : leaving tasks = []

/-- One event more among those that show what was accepted. -/
theorem acceptedIn_concat (trace : List (Event α (Action α) (Result α)))
    (event : Event α (Action α) (Result α)) :
    acceptedIn (trace ++ [event]) = acceptedIn trace ++ (acceptedIn? event).toList := by
  rw [acceptedIn, List.filterMap_append, acceptedIn]
  cases h : acceptedIn? event <;> simp [h]

/-- One event more among those that show what was taken out. -/
theorem takenIn_concat (trace : List (Event α (Action α) (Result α)))
    (event : Event α (Action α) (Result α)) :
    takenIn (trace ++ [event]) = takenIn trace ++ (takenIn? event).toList := by
  rw [takenIn, List.filterMap_append, takenIn]
  cases h : takenIn? event <;> simp [h]

/-- What the first of several tasks is about to report, and what the others are. -/
theorem entering_cons (task : Task α) (rest : List (Task α)) :
    entering (task :: rest) = task.entering?.toList ++ entering rest := by
  cases h : task.entering? <;> simp [entering, h]

/-- What the first of several tasks is about to hand out, and what the others are. -/
theorem leaving_cons (task : Task α) (rest : List (Task α)) :
    leaving (task :: rest) = task.leaving?.toList ++ leaving rest := by
  cases h : task.leaving? <;> simp [leaving, h]

/-- Two stretches of tasks report no item if neither of them does. -/
theorem Itemless.append {first second : List (Task α)} (hfirst : Itemless first)
    (hsecond : Itemless second) : Itemless (first ++ second) where
  entering := by
    rw [Drain.entering, List.filterMap_append]
    exact List.append_eq_nil_iff.2 ⟨hfirst.entering, hsecond.entering⟩
  leaving := by
    rw [Drain.leaving, List.filterMap_append]
    exact List.append_eq_nil_iff.2 ⟨hfirst.leaving, hsecond.leaving⟩

/-- Actions that are still to be performed report no item. -/
theorem itemless_map_act (actions : List (Action α)) : Itemless (actions.map Task.act) where
  entering := List.filterMap_eq_nil_iff.2 fun task htask => by
    obtain ⟨action, -, rfl⟩ := List.mem_map.1 htask
    rfl
  leaving := List.filterMap_eq_nil_iff.2 fun task htask => by
    obtain ⟨action, -, rfl⟩ := List.mem_map.1 htask
    rfl

/-- The terminal signal is no item. -/
theorem itemless_conclusion (drain : Drain α) (ending : Ending) :
    Itemless [.signal (drain.conclusion ending)] := by
  unfold conclusion
  split
  · exact ⟨rfl, rfl⟩
  · split <;> exact ⟨rfl, rfl⟩

namespace Bench

variable {bench next : Bench α} {agenda : Agenda (Bench α) (Task α)} {task : Task α}
  {added rest : List (Task α)} {gained lost : List α}

/-! ## What one task moves -/

/-- A task moves items: some enter the buffer at its end, some leave it at its front, and all that
is recorded of this, by the task and by the first of the tasks that it adds, is what it was about to
report and what it moves. -/
structure Moved (bench next : Bench α) (task : Task α) (added : List (Task α))
    (gained lost : List α) : Prop where
  buffer : bench.drain.buffer.items ++ gained = lost ++ next.drain.buffer.items
  accepted : acceptedIn next.trace ++ entering added =
    acceptedIn bench.trace ++ task.entering?.toList ++ gained
  taken : takenIn next.trace ++ leaving added =
    takenIn bench.trace ++ task.leaving?.toList ++ lost
  later : Itemless added.tail

/-- A task that leaves the buffer alone records what it was about to report. -/
theorem moved_nothing (event : Event α (Action α) (Result α))
    (hbuffer : next.drain.buffer = bench.drain.buffer)
    (htrace : next.trace = bench.trace ++ [event])
    (haccepted : acceptedIn? event = task.entering?) (htaken : takenIn? event = task.leaving?)
    (hadded : Itemless added) : Moved bench next task added [] [] where
  buffer := by rw [hbuffer, List.append_nil, List.nil_append]
  accepted := by
    rw [htrace, acceptedIn_concat, haccepted, hadded.entering]
  taken := by
    rw [htrace, takenIn_concat, htaken, hadded.leaving]
  later := by
    obtain ⟨hentering, hleaving⟩ := hadded
    rcases added with _ | ⟨first, later⟩
    · exact ⟨hentering, hleaving⟩
    · rw [entering_cons, List.append_eq_nil_iff] at hentering
      rw [leaving_cons, List.append_eq_nil_iff] at hleaving
      exact ⟨hentering.2, hleaving.2⟩

/-- An action moves one item at most: an offer that is accepted adds one, and a poll takes one. -/
theorem moved_act (predicate : Predicate) (bench : Bench α) (action : Action α) :
    ∃ gained lost, Moved bench (perform predicate (.act action) bench).1 (.act action)
      (perform predicate (.act action) bench).2 gained lost := by
  have hquiet : ∀ {next : Bench α} {added : List (Task α)},
      next.drain.buffer = bench.drain.buffer → next.trace = bench.trace ++ [.called action] →
      Itemless added → ∃ gained lost, Moved bench next (.act action) added gained lost :=
    fun hbuffer htrace hadded => ⟨[], [], moved_nothing _ hbuffer htrace rfl rfl hadded⟩
  cases action with
  | offer x =>
      simp only [perform, begin]
      split
      next buffer hoffer =>
        refine ⟨[x], [], (Buffer.items_offer? hoffer).symm, ?_, ?_, ⟨rfl, rfl⟩⟩
        · simp [log, withDrain, acceptedIn_concat, acceptedIn?, entering, Task.entering?]
        · simp [log, withDrain, takenIn_concat, takenIn?, leaving, Task.leaving?]
      next => exact hquiet rfl rfl ⟨rfl, rfl⟩
  | poll =>
      simp only [perform, begin]
      split
      next x buffer hpoll =>
        refine ⟨[], [x], ?_, ?_, ?_, ⟨rfl, rfl⟩⟩
        · rw [List.append_nil]
          exact Buffer.items_poll? hpoll
        · simp [log, withDrain, acceptedIn_concat, acceptedIn?, entering, Task.entering?]
        · simp [log, withDrain, takenIn_concat, takenIn?, leaving, Task.leaving?]
      next => exact hquiet rfl rfl ⟨rfl, rfl⟩
  | request amount ending =>
      refine hquiet rfl rfl ?_
      simp only [perform, begin]
      cases (bench.log (.called (.request amount ending))).drain.passOnRequest amount ending <;>
        exact ⟨rfl, rfl⟩
  | terminate ending =>
      simp only [perform, begin]
      split
      next => exact hquiet rfl rfl ⟨rfl, rfl⟩
      next =>
        exact hquiet rfl rfl
          ((itemless_conclusion _ ending).append
            (⟨rfl, rfl⟩ : Itemless [.ret _ .done]))
  | isEmpty | cancel => exact hquiet rfl rfl ⟨rfl, rfl⟩
  | fail failure =>
      refine hquiet rfl rfl ?_
      simp only [perform, begin]
      split <;> exact ⟨rfl, rfl⟩

/-- A turn of a pass takes one item at most, and then it is about to deliver it. -/
theorem moved_turn (predicate : Predicate) (bench : Bench α) (pass : Pass) :
    ∃ lost, Moved bench (bench.turn predicate pass).1 (.pass pass)
        (bench.turn predicate pass).2 [] lost ∧
      (lost = [] ∧ Itemless (bench.turn predicate pass).2 ∨ ∃ x goingOn, lost = [x] ∧
        (bench.turn predicate pass).2 = [.signal (.next x), .pass goingOn]) := by
  have hquiet : ∀ {drain : Drain α} {added : List (Task α)},
      drain.buffer = bench.drain.buffer → Itemless added →
      ∃ lost, Moved bench (({ bench with drain, checks := bench.checks + 1 } : Bench α).log
          (.checked (bench.stops predicate))) (.pass pass) added [] lost ∧
        (lost = [] ∧ Itemless added ∨
          ∃ x goingOn, lost = [x] ∧ added = [.signal (.next x), .pass goingOn]) :=
    fun hbuffer hadded =>
      ⟨[], moved_nothing _ hbuffer rfl rfl rfl hadded, .inl ⟨rfl, hadded⟩⟩
  rcases hadvance : bench.drain.advance pass (bench.stops predicate) with ⟨drain, move⟩
  simp only [turn, hadvance]
  unfold advance at hadvance
  split at hadvance
  · cases hadvance
    exact hquiet rfl ⟨rfl, rfl⟩
  · split at hadvance
    · split at hadvance
      next x buffer hpoll =>
        cases hadvance
        refine ⟨[x], ⟨?_, ?_, ?_, ⟨rfl, rfl⟩⟩, .inr ⟨x, _, rfl, rfl⟩⟩
        · rw [List.append_nil]
          exact Buffer.items_poll? hpoll
        · simp [log, acceptedIn_concat, acceptedIn?, follow, entering, Task.entering?]
        · simp [log, takenIn_concat, takenIn?, follow, leaving, Task.leaving?]
      next =>
        cases hadvance
        exact hquiet rfl (itemless_conclusion _ _)
    · split at hadvance
      · cases hadvance
        exact hquiet rfl (itemless_conclusion _ _)
      · split at hadvance
        · cases hadvance
          exact hquiet rfl ⟨rfl, rfl⟩
        · cases hadvance
          exact hquiet rfl ⟨rfl, rfl⟩

/-- Every task moves items from one end of the buffer to the other, and reports them. -/
theorem moved_perform (predicate : Predicate) (task : Task α) (bench : Bench α) :
    ∃ gained lost, Moved bench (perform predicate task bench).1 task
      (perform predicate task bench).2 gained lost := by
  cases task with
  | act action => exact moved_act predicate bench action
  | ret action result =>
      refine ⟨[], [], moved_nothing (.returned action result) rfl rfl ?_ ?_ ⟨rfl, rfl⟩⟩
      · unfold acceptedIn? Task.entering?
        cases action <;> cases result <;> rfl
      · unfold takenIn? Task.leaving?
        cases action <;> rcases result with _ | _ | _ | (_ | _) | _ | _ <;> rfl
  | pass pass =>
      obtain ⟨lost, hmoved, -⟩ := moved_turn predicate bench pass
      exact ⟨[], lost, hmoved⟩
  | signal delivery =>
      refine ⟨[], [], moved_nothing (.heard bench.probe.name delivery.signal) rfl rfl
        rfl ?_ ((itemless_map_act _).append (⟨rfl, rfl⟩ : Itemless [.left]))⟩
      cases delivery <;> rfl
  | left =>
      exact ⟨[], [], by simp [perform], by simp [perform, entering, Task.entering?],
        by simp [perform, leaving, Task.leaving?], ⟨rfl, rfl⟩⟩

/-! ## Runs -/

/-- The items that were there and those that were accepted since are those that were taken out and
those that are in the buffer. No task but the next one is about to report an item. -/
structure Balanced (items : List α) (agenda : Agenda (Bench α) (Task α)) : Prop where
  account : items ++ (acceptedIn agenda.state.trace ++ entering agenda.todo) =
    takenIn agenda.state.trace ++ leaving agenda.todo ++ agenda.state.drain.buffer.items
  later : Itemless agenda.todo.tail

/-- A task keeps the account of the items. -/
theorem balanced_step {items : List α} (predicate : Predicate)
    (agenda : Agenda (Bench α) (Task α)) (h : Balanced items agenda) :
    Balanced items (agenda.step (perform predicate)) := by
  rcases agenda with ⟨bench, _ | ⟨task, rest⟩⟩
  · exact h
  obtain ⟨gained, lost, hmoved⟩ := moved_perform predicate task bench
  obtain ⟨haccount, hrest⟩ := h
  have hrestEntering : entering rest = [] := hrest.entering
  have hrestLeaving : leaving rest = [] := hrest.leaving
  rw [Agenda.step_cons]
  refine ⟨?_, ?_⟩
  · have hentering : entering ((perform predicate task bench).2 ++ rest) =
        entering (perform predicate task bench).2 := by
      rw [entering, List.filterMap_append]
      exact (congrArg (_ ++ ·) hrestEntering).trans (List.append_nil _)
    have hleaving : leaving ((perform predicate task bench).2 ++ rest) =
        leaving (perform predicate task bench).2 := by
      rw [leaving, List.filterMap_append]
      exact (congrArg (_ ++ ·) hrestLeaving).trans (List.append_nil _)
    rw [entering_cons, leaving_cons, hrestEntering, hrestLeaving, List.append_nil,
      List.append_nil] at haccount
    calc items ++ (acceptedIn (perform predicate task bench).1.trace ++
          entering ((perform predicate task bench).2 ++ rest))
        = items ++ (acceptedIn bench.trace ++ task.entering?.toList) ++ gained := by
          rw [hentering, hmoved.accepted, List.append_assoc items]
      _ = takenIn bench.trace ++ task.leaving?.toList ++ (bench.drain.buffer.items ++ gained) := by
          rw [haccount, List.append_assoc]
      _ = takenIn bench.trace ++ task.leaving?.toList ++ lost ++
            (perform predicate task bench).1.drain.buffer.items := by
          rw [hmoved.buffer, List.append_assoc _ lost]
      _ = takenIn (perform predicate task bench).1.trace ++
            leaving ((perform predicate task bench).2 ++ rest) ++
            (perform predicate task bench).1.drain.buffer.items := by
          rw [hleaving, hmoved.taken]
  · rcases hadded : (perform predicate task bench).2 with _ | ⟨first, later⟩
    · rcases rest with _ | ⟨following, others⟩
      · exact ⟨rfl, rfl⟩
      · rw [entering_cons, List.append_eq_nil_iff] at hrestEntering
        rw [leaving_cons, List.append_eq_nil_iff] at hrestLeaving
        exact ⟨hrestEntering.2, hrestLeaving.2⟩
    · have hlater := hmoved.later
      rw [hadded] at hlater
      exact hlater.append hrest

/-- The account of the items holds at every point of a run. -/
theorem balanced_moment (predicate : Predicate) (buffer : Buffer α) (slot : FailureSlot)
    (name : String) (react : Reaction (Action α)) (actions : List (Action α)) (fuel : Nat) :
    Balanced buffer.items (moment predicate buffer slot name react actions fuel) := by
  have hactions := itemless_map_act actions
  refine Agenda.invariant_run (balanced_step predicate) fuel ⟨?_, ?_⟩
  · rw [hactions.entering, hactions.leaving]
    simp [opened, acceptedIn, takenIn]
  · show Itemless (actions.map Task.act).tail
    rw [← List.map_tail]
    exact itemless_map_act actions.tail

/-- A pass either leaves the buffer alone, or takes the first item out of it and delivers that item
next, once. -/
theorem deliver_after_turn (predicate : Predicate) (bench : Bench α) (pass : Pass)
    (hrest : Itemless rest) :
    let next := Agenda.step (perform predicate) ⟨bench, .pass pass :: rest⟩
    let later := next.step (perform predicate)
    next.state.drain.buffer.items = bench.drain.buffer.items ∧ leaving next.todo = [] ∨
      ∃ x, bench.drain.buffer.items = x :: next.state.drain.buffer.items ∧
        later.state.probe.history = bench.probe.history ++ [.next x] ∧ leaving later.todo = [] := by
  intro next later
  obtain ⟨lost, hmoved, hlost⟩ := moved_turn predicate bench pass
  have hbuffer := hmoved.buffer
  rw [List.append_nil] at hbuffer
  rcases hlost with ⟨rfl, hadded⟩ | ⟨x, goingOn, rfl, hadded⟩
  · exact .inl ⟨hbuffer.symm, (hadded.append hrest).leaving⟩
  · have hnext : next = ⟨(bench.turn predicate pass).1,
        .signal (.next x) :: .pass goingOn :: rest⟩ :=
      congrArg (fun added => Agenda.mk (bench.turn predicate pass).1 (added ++ rest)) hadded
    have hlater : later = ⟨((bench.turn predicate pass).1.deliver (.next x)).1,
        ((bench.turn predicate pass).1.deliver (.next x)).2 ++ .pass goingOn :: rest⟩ :=
      congrArg (Agenda.step (perform predicate)) hnext
    have hreactions : Itemless ((bench.turn predicate pass).1.deliver (.next x)).2 :=
      (itemless_map_act _).append (⟨rfl, rfl⟩ : Itemless [.left])
    have hgoingOn : Itemless (.pass goingOn :: rest) :=
      Itemless.append (⟨rfl, rfl⟩ : Itemless [.pass goingOn]) hrest
    refine .inr ⟨x, hbuffer, ?_, ?_⟩
    · rw [hlater]
      rfl
    · rw [hlater]
      exact (hreactions.append hgoingOn).leaving

/-- An offer to a full buffer is turned away: its item is handed back, and that is all. -/
theorem run_offer_of_full (predicate : Predicate) {x : α}
    (h : bench.drain.buffer.isFull = true) (rest : List (Task α)) :
    Agenda.run (perform predicate) 2 ⟨bench, .act (.offer x) :: rest⟩ =
      ⟨{ bench with trace := bench.trace ++
          [.called (.offer x), .returned (.offer x) (.full x)] }, rest⟩ := by
  have hoffer : bench.drain.buffer.offer? x = none := if_pos h
  simp [Agenda.run, Agenda.isIdle, perform, begin, log, hoffer]

/-- Whatever is done with a drain, at every point of every run the items that were there and those
that were accepted since are those that were delivered or returned by polls, in this order, followed
by those in the buffer. An item on its way is the concern of the next task only. A pass that takes
an item out delivers it next, once, and an offer to a full buffer hands its item back and changes
nothing. -/
theorem items_in_equal_items_out (predicate : Predicate) (buffer : Buffer α) (slot : FailureSlot)
    (name : String) (react : Reaction (Action α)) (actions : List (Action α)) (fuel : Nat) :
    let moment := moment predicate buffer slot name react actions
    let items := fun fuel => (moment fuel).state.drain.buffer.items
    let history := fun fuel => (moment fuel).state.probe.history
    (buffer.items ++ (acceptedIn (moment fuel).state.trace ++ entering (moment fuel).todo) =
        takenIn (moment fuel).state.trace ++ leaving (moment fuel).todo ++ items fuel ∧
      Itemless (moment fuel).todo.tail) ∧
    (∀ pass rest, (moment fuel).todo = .pass pass :: rest →
      items (fuel + 1) = items fuel ∧ leaving (moment (fuel + 1)).todo = [] ∨
        ∃ x, items fuel = x :: items (fuel + 1) ∧
          history (fuel + 2) = history fuel ++ [.next x] ∧
          leaving (moment (fuel + 2)).todo = []) ∧
    ∀ x rest, (moment fuel).todo = .act (.offer x) :: rest →
      (moment fuel).state.drain.buffer.isFull = true →
        moment (fuel + 2) = ⟨{ (moment fuel).state with trace := (moment fuel).state.trace ++
          [.called (.offer x), .returned (.offer x) (.full x)] }, rest⟩ := by
  intro moment items history
  have hbalanced : Balanced buffer.items (moment fuel) :=
    balanced_moment predicate buffer slot name react actions fuel
  have hsucc : ∀ fuel, moment (fuel + 1) = (moment fuel).step (perform predicate) :=
    moment_succ predicate buffer slot name react actions
  have htwice : moment (fuel + 2) = Agenda.run (perform predicate) 2 (moment fuel) :=
    Agenda.run_add (perform predicate) fuel 2 _
  refine ⟨⟨hbalanced.account, hbalanced.later⟩, ?_, ?_⟩
  · intro pass rest htodo
    have hnow : moment fuel = ⟨(moment fuel).state, .pass pass :: rest⟩ := by rw [← htodo]
    have hrest : Itemless rest := by
      have hlater := hbalanced.later
      rwa [htodo] at hlater
    have hturn := deliver_after_turn predicate (moment fuel).state pass hrest
    simp only [← hnow, ← hsucc] at hturn
    exact hturn
  · intro x rest htodo hfull
    have hnow : moment fuel = ⟨(moment fuel).state, .act (.offer x) :: rest⟩ := by rw [← htodo]
    rw [htwice, hnow]
    exact run_offer_of_full predicate hfull rest

/-- A buffer for two items, whose source terminates again from inside the first delivery. The pass
of the second termination delivers inside that of the first one, two late offers are accepted, and
one of their items is polled from under the first pass, which then delivers the other one and the
terminal signal for the second time. -/
theorem items_in_equal_items_out_of_nested_passes :
    let react : Reaction (Action Nat) := fun kind number =>
      if kind = .next ∧ number = 0 then
        [.terminate .heldFailure, .offer 4, .offer 5, .request 9 .heldFailure, .poll] else []
    let actions : List (Action Nat) :=
      [.offer 1, .offer 2, .offer 3, .request 1 .completion, .terminate .completion, .offer 6]
    let moment := moment .never { capacity := some 2 } {} "below" react actions
    (acceptedIn (moment 38).state.trace = [1, 2, 4, 5, 6] ∧
      takenIn (moment 38).state.trace = [1, 2, 4, 5] ∧
      (moment 38).state.drain.buffer.items = [6]) ∧
    ((∃ pass rest, (moment 12).todo = .pass pass :: rest ∧ .left ∈ rest) ∧
      (moment 14).state.probe.history = (moment 12).state.probe.history ++ [.next 2]) ∧
    ∃ rest, (moment 4).todo = .act (.offer 3) :: rest ∧
      (moment 4).state.drain.buffer.isFull = true ∧
      moment 6 = ⟨{ (moment 4).state with trace := (moment 4).state.trace ++
        [.called (.offer 3), .returned (.offer 3) (.full 3)] }, rest⟩ := by
  intro react actions moment
  have hlaw := items_in_equal_items_out .never { capacity := some 2 } {} "below" react actions
  have hidle : (moment 38).todo = [] := by
    simp only [moment, actions, react]
    cbv
  have hpass : (moment 12).todo = [.pass ⟨1, 0, .heldFailure, true⟩,
      .ret (.terminate .heldFailure) .done, .act (.offer 4), .act (.offer 5),
      .act (.request 9 .heldFailure), .act .poll, .left, .pass ⟨1, 1, .completion, true⟩,
      .ret (.terminate .completion) .done, .act (.offer 6)] := by
    simp only [moment, actions, react]
    cbv
  have hoffer : (moment 4).todo = [.act (.offer 3), .act (.request 1 .completion),
      .act (.terminate .completion), .act (.offer 6)] := by
    simp only [moment, actions, react]
    cbv
  have haccepted : acceptedIn (moment 38).state.trace = [1, 2, 4, 5, 6] := by decide
  have htaken : takenIn (moment 38).state.trace = [1, 2, 4, 5] := by decide
  have hfull : (moment 4).state.drain.buffer.isFull = true := by decide
  refine ⟨⟨haccepted, htaken, ?_⟩, ⟨⟨_, _, hpass, by simp⟩, ?_⟩, _, hoffer, hfull,
    (hlaw 4).2.2 3 _ hoffer hfull⟩
  · obtain ⟨⟨haccount, -⟩, -⟩ := hlaw 38
    simp only [moment] at hidle haccepted htaken
    have hnone : ({ capacity := some 2 } : Buffer Nat).items = [] := rfl
    rw [hidle, haccepted, htaken, hnone] at haccount
    simpa [moment, entering, leaving] using haccount.symm
  · rcases (hlaw 12).2.1 _ _ hpass with ⟨hsame, -⟩ | ⟨x, hitems, hheard, -⟩
    · exact absurd hsame (by decide)
    · obtain rfl : x = 2 := by
        have hbuffer : (moment 12).state.drain.buffer.items = [2] := by decide
        exact (List.cons.inj (hitems.symm.trans hbuffer)).1
      exact hheard

end Bench

end Backpressure.Drain
