import Backpressure.Proofs.Drain.Exclusion

/-!
# Drains that are cancelled

A pass asks the cancellation predicate before each of its turns, and ends at the first answer that
tells it to stop. It then leaves everything as it is: the items that it has not delivered stay in
the buffer, and the register still counts what it has delivered since the last settlement. That
count is what makes the cancellation final. The register does not hold the word for "terminated,
nothing outstanding", and since only a settlement could enter it, no request starts another pass,
whatever the predicate answers from then on.

Main results:

- Theorem `guarded_step` shows that no signal is given without a check that lets it pass.
- Theorem `Retired.step` shows that the engine does not come back to life.
- Theorem `unsettled_moment` finds in the register all that was asked for since the last settlement.
- Theorem `cancelled_pass_is_last` states what is true of every run.
-/

namespace Backpressure.Drain

variable {α : Type}

/-! ## Direct effects -/

/-- What an action does to a drain by itself, without the pass that it may start. -/
def touch (drain : Drain α) : Action α → Drain α
  | .offer x =>
      match drain.buffer.offer? x with
      | some buffer => { drain with buffer }
      | none => drain
  | .poll =>
      match drain.buffer.poll? with
      | some (_, buffer) => { drain with buffer }
      | none => drain
  | .fail failure => { drain with failure := drain.failure.set failure }
  | .request amount _ => drain.afterRequest amount
  | .isEmpty | .cancel | .terminate _ => drain

/-- The amount that an action asks for. -/
def Action.amount? : Action α → Option UInt64
  | .request amount _ => some amount
  | _ => none

/-- Whether an action adds an item to the buffer or takes one from it. -/
def Action.movesItems : Action α → Bool
  | .offer _ | .poll => true
  | _ => false

/-- The actions that were called in a trace. -/
def called (trace : List (Event α (Action α) (Result α))) : List (Action α) :=
  trace.filterMap fun
    | .called action => some action
    | _ => none

/-- The amounts that were asked for in a trace. -/
def amounts (trace : List (Event α (Action α) (Result α))) : List UInt64 :=
  (called trace).filterMap Action.amount?

/-- Whether an event is a signal or a check of the predicate. -/
def isOfEngine : Event α (Action α) (Result α) → Bool
  | .heard _ _ | .checked _ => true
  | _ => false

/-- Nobody but the engine moves items. -/
def Undisturbed (trace : List (Event α (Action α) (Result α))) : Prop :=
  ∀ action ∈ called trace, action.movesItems = false

/-- The actions of two traces in a row. -/
@[simp] theorem called_append (first second : List (Event α (Action α) (Result α))) :
    called (first ++ second) = called first ++ called second :=
  List.filterMap_append

/-- The amounts of two traces in a row. -/
@[simp] theorem amounts_append (first second : List (Event α (Action α) (Result α))) :
    amounts (first ++ second) = amounts first ++ amounts second := by
  rw [amounts, called_append, List.filterMap_append, amounts, amounts]

/-- What is true of a whole trace is true of its beginning. -/
theorem Undisturbed.before {first second : List (Event α (Action α) (Result α))}
    (h : Undisturbed (first ++ second)) : Undisturbed first := by
  intro action haction
  apply h
  rw [called_append]
  exact List.mem_append_left _ haction

/-- The direct effect of an action on the register is that of the amount it asks for. -/
theorem register_touch (drain : Drain α) (action : Action α) :
    (drain.touch action).register = action.amount?.toList.foldl Register.add drain.register := by
  cases action <;> simp only [touch] <;> (try split) <;> rfl

/-- An action that moves no item leaves the buffer alone. -/
theorem buffer_touch (drain : Drain α) {action : Action α} (h : action.movesItems = false) :
    (drain.touch action).buffer = drain.buffer := by
  cases action with
  | offer x => exact absurd h (by simp [Action.movesItems])
  | poll => exact absurd h (by simp [Action.movesItems])
  | _ => rfl

namespace Bench

variable {bench : Bench α} {agenda : Agenda (Bench α) (Task α)} {predicate : Predicate}

/-- Beginning an action has its direct effect on the drain. -/
theorem drain_begin (bench : Bench α) (action : Action α) :
    (bench.begin action).1.drain = bench.drain.touch action := by
  cases action with
  | offer x => cases hoffer : bench.drain.buffer.offer? x <;> simp [begin, touch, hoffer, withDrain]
  | poll => cases hpoll : bench.drain.buffer.poll? <;> simp [begin, touch, hpoll, withDrain]
  | terminate ending =>
      simp only [begin, touch]
      split <;> rfl
  | _ => rfl

/-- Beginning an action does not reach the subscriber. -/
theorem probe_begin (bench : Bench α) (action : Action α) :
    (bench.begin action).1.probe = bench.probe := by
  cases action <;> simp only [begin, withDrain] <;> (try split) <;> rfl

/-! ## Signals and checks -/

/-- Every signal in a trace comes directly after a check that answered false. -/
def Vetted (trace : List (Event α (Action α) (Result α))) : Prop :=
  ∀ earlier name signal later, trace = earlier ++ .heard name signal :: later →
    ∃ before, earlier = before ++ [.checked false]

/-- Whether a task terminates the source. -/
def Task.isTermination : Task α → Bool
  | .act (.terminate _) => true
  | _ => false

/-- If the source is about to be terminated, there are items in the buffer. -/
def Occupied (agenda : Agenda (Bench α) (Task α)) : Prop :=
  agenda.todo.head?.any Task.isTermination = true → agenda.state.drain.buffer.isEmpty = false

/-- Whether there are items in the buffer of a source that is terminated can be decided. -/
instance (agenda : Agenda (Bench α) (Task α)) : Decidable (Occupied agenda) :=
  inferInstanceAs (Decidable (_ → _))

/-- A pass is next, and the predicate tells it to stop. -/
def CutShort (predicate : Predicate) (agenda : Agenda (Bench α) (Task α)) : Prop :=
  (∃ pass rest, agenda.todo = .pass pass :: rest) ∧ agenda.state.stops predicate = true

/-- Nothing is signalled unless the predicate was asked just before. -/
structure Guarded (agenda : Agenda (Bench α) (Task α)) : Prop where
  vetted : Vetted agenda.state.trace
  allowed : ∀ delivery rest, agenda.todo = .signal delivery :: rest →
    ∃ before, agenda.state.trace = before ++ [.checked false]
  first : ∀ delivery, .signal delivery ∉ agenda.todo.tail

/-- One more event keeps a trace vetted, provided that a signal comes directly after a check that
answered false. -/
theorem Vetted.concat {trace : List (Event α (Action α) (Result α))} (h : Vetted trace)
    {event : Event α (Action α) (Result α)}
    (hevent : ∀ name signal, event = .heard name signal →
      ∃ before, trace = before ++ [.checked false]) :
    Vetted (trace ++ [event]) := by
  intro earlier name signal later heq
  rcases List.eq_nil_or_concat later with rfl | ⟨front, last, rfl⟩
  · obtain ⟨rfl, hlast⟩ := List.append_inj' heq rfl
    exact hevent name signal (List.singleton_inj.1 hlast)
  · rw [List.concat_eq_append, ← List.cons_append, ← List.append_assoc] at heq
    obtain ⟨htrace, -⟩ := List.append_inj' heq rfl
    exact h earlier name signal front htrace

/-- A task other than a signal keeps a trace vetted. -/
theorem Vetted.concat_of_silent {trace : List (Event α (Action α) (Result α))} (h : Vetted trace)
    {event : Event α (Action α) (Result α)} (hevent : ∀ name signal, event ≠ .heard name signal) :
    Vetted (trace ++ [event]) :=
  h.concat fun name signal heq => absurd heq (hevent name signal)

/-- Tasks that add no signal keep what is next guarded. -/
theorem Guarded.silent {task : Task α} {rest added : List (Task α)} {next : Bench α}
    (h : Guarded ⟨bench, task :: rest⟩) (hvetted : Vetted next.trace)
    (hadded : ∀ delivery, .signal delivery ∉ added) : Guarded ⟨next, added ++ rest⟩ := by
  have hnone : ∀ delivery, .signal delivery ∉ added ++ rest := by
    intro delivery hmem
    rcases List.mem_append.1 hmem with hnew | hrest
    · exact hadded delivery hnew
    · exact h.first delivery hrest
  refine ⟨hvetted, ?_, fun delivery hmem => hnone delivery (List.mem_of_mem_tail hmem)⟩
  intro delivery others htodo
  refine absurd ?_ (hnone delivery)
  rw [show added ++ rest = _ from htodo]
  exact List.mem_cons_self

/-- An action starts no signal, unless it terminates a source that has left nothing behind. -/
theorem signal_not_mem_begin {action : Action α}
    (h : ∀ ending, action = .terminate ending → bench.drain.buffer.isEmpty = false)
    (delivery : Delivery α Empty) : .signal delivery ∉ (bench.begin action).2.1 := by
  cases action with
  | offer x =>
      simp only [begin]
      split <;> simp
  | poll =>
      simp only [begin]
      split <;> simp
  | terminate ending => simp [begin, passOnTermination, h ending rfl]
  | isEmpty | cancel | fail failure | request amount ending => simp [begin]

/-- A turn that is told to stop gives no signal, and any other gives at most one, before all
else. -/
theorem guarded_turn (hvetted : Vetted bench.trace) {rest : List (Task α)}
    (hrest : ∀ delivery, .signal delivery ∉ rest) (pass : Pass) :
    Guarded ⟨(bench.turn predicate pass).1, (bench.turn predicate pass).2 ++ rest⟩ := by
  rcases hadvance : bench.drain.advance pass (bench.stops predicate) with ⟨drain, move⟩
  have htasks : (bench.turn predicate pass).2 = follow drain pass.ending move := by
    rw [turn, hadvance]
  have htrace : (bench.turn predicate pass).1.trace =
      bench.trace ++ [.checked (bench.stops predicate)] := rfl
  rw [htasks]
  refine ⟨htrace ▸ hvetted.concat_of_silent (by simp), ?_, ?_⟩
  · intro delivery others htodo
    cases hstop : bench.stops predicate with
    | true =>
        rw [hstop, advance_stopped] at hadvance
        cases hadvance
        refine absurd ?_ (hrest delivery)
        rw [show rest = _ from htodo]
        exact List.mem_cons_self
    | false => exact ⟨bench.trace, by rw [htrace, hstop]⟩
  · intro delivery
    cases move with
    | stop => exact fun hmem => hrest delivery (List.mem_of_mem_tail hmem)
    | deliver x next => simpa [follow] using hrest delivery
    | conclude => simpa [follow] using hrest delivery
    | again next => simpa [follow] using hrest delivery

/-- No task gives a signal without a check that lets it pass, as long as no source terminates that
has left nothing behind. -/
theorem guarded_step (h : Guarded agenda) (hoccupied : Occupied agenda) :
    Guarded (agenda.step (perform predicate)) := by
  rcases agenda with ⟨bench, _ | ⟨task, rest⟩⟩
  · exact h
  rw [Agenda.step_cons]
  cases task with
  | act action =>
      have htrace : ((bench.log (.called action)).begin action).1.trace =
          bench.trace ++ [.called action] := trace_begin _ _
      refine h.silent (by rw [perform, htrace]; exact h.vetted.concat_of_silent (by simp)) ?_
      intro delivery hmem
      rcases List.mem_append.1 hmem with hstarted | hret
      · refine signal_not_mem_begin ?_ delivery hstarted
        rintro ending rfl
        exact hoccupied rfl
      · simp at hret
  | ret action result =>
      exact h.silent (h.vetted.concat_of_silent (by simp)) fun delivery => List.not_mem_nil
  | pass pass => exact guarded_turn h.vetted h.first pass
  | signal delivery =>
      refine h.silent (h.vetted.concat fun _ _ _ => h.allowed delivery rest rfl) ?_
      intro other
      simp [perform, deliver]
  | left => exact h.silent h.vetted fun delivery => List.not_mem_nil

/-! ## Items -/

/-- The item that a task is about to deliver. -/
def Task.item? : Task α → Option α
  | .signal (.next x) => some x
  | _ => none

/-- The items that are on their way to the subscriber. -/
def coming (tasks : List (Task α)) : List α := tasks.filterMap Task.item?

/-- The items that were heard, those on their way and those in the buffer are given ones, in order,
unless somebody else has moved items. -/
def Conserves (items : List α) (agenda : Agenda (Bench α) (Task α)) : Prop :=
  Undisturbed agenda.state.trace →
    History.values agenda.state.probe.history ++ coming agenda.todo ++
      agenda.state.drain.buffer.items = items

/-- The items that two stretches of tasks are about to deliver. -/
theorem coming_append (first second : List (Task α)) :
    coming (first ++ second) = coming first ++ coming second :=
  List.filterMap_append

/-- Tasks without a signal deliver no item. -/
theorem coming_of_silent {tasks : List (Task α)} (h : ∀ delivery, .signal delivery ∉ tasks) :
    coming tasks = [] := by
  refine List.filterMap_eq_nil_iff.2 fun task htask => ?_
  cases task with
  | signal delivery => exact absurd htask (h delivery)
  | _ => rfl

/-- No action delivers an item at once. -/
theorem coming_begin (bench : Bench α) (action : Action α) :
    coming (bench.begin action).2.1 = [] := by
  cases action with
  | offer x =>
      simp only [begin]
      split <;> rfl
  | poll =>
      simp only [begin]
      split <;> rfl
  | request amount ending =>
      simp only [begin]
      cases bench.drain.passOnRequest amount ending <;> rfl
  | terminate ending =>
      simp only [begin]
      split
      · rfl
      · unfold conclusion
        split
        · rfl
        · split <;> rfl
  | _ => rfl

/-- A turn takes an item from the buffer exactly when it is about to deliver it. -/
theorem coming_turn (predicate : Predicate) (bench : Bench α) (pass : Pass) :
    coming (bench.turn predicate pass).2 ++ (bench.turn predicate pass).1.drain.buffer.items =
      bench.drain.buffer.items := by
  have hsame : ∀ drain : Drain α, drain.buffer = bench.drain.buffer →
      coming [.signal (drain.conclusion pass.ending)] ++ drain.buffer.items =
        bench.drain.buffer.items := by
    intro drain hbuffer
    rw [hbuffer]
    unfold conclusion
    split
    · rfl
    · split <;> rfl
  simp only [turn, advance, log]
  split
  · rfl
  · split
    · split
      next x rest hpoll => exact (Buffer.items_poll? hpoll).symm
      next => exact hsame _ rfl
    · split
      · exact hsame _ rfl
      · split <;> rfl

/-- No task loses an item or changes the order. -/
theorem conserves_step {items : List α} (h : Conserves items agenda) (hguarded : Guarded agenda) :
    Conserves items (agenda.step (perform predicate)) := by
  rcases agenda with ⟨bench, _ | ⟨task, rest⟩⟩
  · exact h
  rw [Agenda.step_cons]
  intro hundisturbed
  rw [coming_append]
  cases task with
  | act action =>
      have htrace : ((bench.log (.called action)).begin action).1.trace =
          bench.trace ++ [.called action] := trace_begin _ _
      have hquiet : Undisturbed (bench.trace ++ [.called action]) := htrace ▸ hundisturbed
      have hbefore := h hquiet.before
      have hbuffer := buffer_touch bench.drain (hquiet action (by simp [called]))
      rw [← show _ = bench.drain.touch action from drain_begin (bench.log (.called action)) action]
        at hbuffer
      have hprobe := probe_begin (bench.log (.called action)) action
      have hstarted := coming_begin (bench.log (.called action)) action
      simp only [perform]
      rw [coming_append, hstarted, hbuffer, hprobe]
      exact hbefore
  | ret action result => exact h (Undisturbed.before hundisturbed)
  | pass pass =>
      have hbefore := h (Undisturbed.before hundisturbed)
      have hrest : coming rest = [] := coming_of_silent hguarded.first
      have hturn := coming_turn predicate bench pass
      simp only [perform]
      rw [hrest, List.append_nil, List.append_assoc, hturn]
      rwa [show coming (.pass pass :: rest) = [] from hrest, List.append_nil] at hbefore
  | signal delivery =>
      have hbefore := h (Undisturbed.before hundisturbed)
      have hreactions : coming (bench.deliver delivery).2 = [] :=
        coming_of_silent fun other => by simp [deliver]
      simp only [perform]
      rw [hreactions, List.nil_append, ← hbefore]
      show History.values (bench.probe.history ++ [delivery.signal]) ++ _ ++ _ = _
      rw [History.values_append]
      cases delivery <;>
        simp [coming, Task.item?, History.values, Delivery.signal, Signal.value?] <;> rfl
  | left => exact h hundisturbed

/-! ## The register -/

/-- While a pass goes on that a request has started, the register says that the source has
terminated. -/
def Flagged (agenda : Agenda (Bench α) (Task α)) : Prop :=
  ∀ pass, .pass pass ∈ agenda.todo → pass.closing = false →
    agenda.state.drain.register.isTerminal = true

/-- A pass that settles leaves nothing outstanding. -/
theorem isStalled_settled {drain : Drain α} {pass : Pass}
    (hbits : drain.register.bits = pass.emitted)
    (hflag : pass.closing = false → drain.register.isTerminal = true) :
    (drain.settled pass).isStalled = true := by
  have hreads := Register.reads_self drain.register
  have hsettled := hreads.settle (congrArg (fun word => (Register.demandOf word).toNat) hbits.symm)
    (Register.toNat_demandOf_le _)
  have hfinal : (drain.settled pass).register.Reads true 0 := by
    unfold settled
    cases hterminal : drain.register.isTerminal with
    | true =>
        rw [hterminal] at hsettled
        cases pass.closing with
        | true => simpa [Register.markTerminal?, hsettled.isTerminal_eq] using hsettled
        | false => exact hsettled
    | false =>
        rw [hterminal] at hsettled
        cases hclosing : pass.closing with
        | true =>
            obtain ⟨marked, hmark, hmarked⟩ := hsettled.markTerminal?
            simpa [hmark] using hmarked
        | false =>
            rw [hflag hclosing] at hterminal
            contradiction
  rw [isStalled, decide_eq_true_eq]
  exact hfinal.eq_terminalBit_iff.2 ⟨rfl, rfl⟩

/-- A turn either leaves the register alone or leaves nothing outstanding. -/
theorem register_turn (predicate : Predicate) (bench : Bench α) {pass : Pass}
    (hflag : pass.closing = false → bench.drain.register.isTerminal = true) :
    (bench.turn predicate pass).1.drain.register = bench.drain.register ∨
      (bench.turn predicate pass).1.drain.isStalled = true := by
  simp only [turn, advance, log]
  split
  · exact .inl rfl
  · split
    · split <;> exact .inl rfl
    · split
      · exact .inl rfl
      · split
        next hgoal _ hbits => exact .inr (isStalled_settled hbits hflag)
        next => exact .inl rfl

/-- Direct effects keep the terminal flag. -/
theorem isTerminal_touch (drain : Drain α) (action : Action α) :
    (drain.touch action).register.isTerminal = drain.register.isTerminal := by
  rw [register_touch]
  cases action.amount? with
  | none => rfl
  | some amount => exact ((Register.reads_self drain.register).add amount).isTerminal_eq

/-- A request starts a pass only when the source has terminated. -/
theorem isTerminal_of_pass_mem_begin {action : Action α} {pass : Pass}
    (h : .pass pass ∈ (bench.begin action).2.1) (hclosing : pass.closing = false) :
    bench.drain.register.isTerminal = true := by
  cases action with
  | request amount ending =>
      obtain ⟨started, hstarted, hpass⟩ := List.mem_map.1 h
      cases hpass
      have hsome : (bench.drain.passOnRequest amount ending).isSome = true := by
        rw [Option.mem_toList.1 hstarted]
        rfl
      obtain ⟨hbits, -⟩ := (request_eq _ _ _).1 hsome
      rw [Register.isTerminal, hbits]
      decide
  | terminate ending =>
      exfalso
      simp only [begin, passOnTermination] at h
      split at h
      next hstarted =>
        split at hstarted
        · simp at hstarted
        · cases hstarted
          obtain rfl : pass = _ := by simpa using h
          exact absurd hclosing (by simp [Pass.start])
      next => simp at h
  | offer x =>
      simp only [begin] at h
      split at h <;> simp at h
  | poll =>
      simp only [begin] at h
      split at h <;> simp at h
  | isEmpty | cancel | fail failure => simp [begin] at h

/-- The passes that a turn leads to are of the same kind as the one that took it. -/
theorem closing_of_mem_turn {pass other : Pass}
    (h : .pass other ∈ (bench.turn predicate pass).2) : other.closing = pass.closing := by
  simp only [turn, advance] at h
  split at h
  · simp [follow] at h
  · split at h
    · split at h
      · obtain rfl : other = _ := by simpa [follow] using h
        rfl
      · simp [follow] at h
    · split at h
      · simp [follow] at h
      · split at h
        · simp [follow] at h
        · obtain rfl : other = _ := by simpa [follow] using h
          rfl

/-- Every task keeps the flag of a register whose pass goes on. -/
theorem flagged_step (h : Flagged agenda) : Flagged (agenda.step (perform predicate)) := by
  rcases agenda with ⟨bench, _ | ⟨task, rest⟩⟩
  · exact h
  rw [Agenda.step_cons]
  intro pass hmem hclosing
  have hbehind : .pass pass ∈ rest → bench.drain.register.isTerminal = true := fun hrest =>
    h pass (List.mem_cons_of_mem _ hrest) hclosing
  cases task with
  | act action =>
      simp only [perform, drain_begin, isTerminal_touch]
      rcases List.mem_append.1 hmem with hnew | hrest
      · rcases List.mem_append.1 hnew with hstarted | hret
        · exact isTerminal_of_pass_mem_begin hstarted hclosing
        · simp at hret
      · exact hbehind hrest
  | ret action result => exact hbehind hmem
  | pass first =>
      have hterminal : bench.drain.register.isTerminal = true := by
        rcases List.mem_append.1 hmem with hnew | hrest
        · have hsame := closing_of_mem_turn hnew
          exact h first List.mem_cons_self (hsame ▸ hclosing)
        · exact hbehind hrest
      rcases register_turn predicate bench (fun _ => hterminal) with hkept | hstalled
      · rw [perform, hkept]
        exact hterminal
      · rw [isStalled, decide_eq_true_eq] at hstalled
        rw [perform, Register.isTerminal, hstalled]
        decide
  | signal delivery =>
      refine hbehind ?_
      simpa [perform, deliver] using hmem
  | left => exact hbehind hmem

/-! ## Moments of a run -/

variable {buffer : Buffer α} {slot : FailureSlot} {name : String} {react : Reaction (Action α)}
  {actions : List (Action α)}

/-- The next moment of a run. -/
theorem moment_succ (predicate : Predicate) (buffer : Buffer α) (slot : FailureSlot)
    (name : String) (react : Reaction (Action α)) (actions : List (Action α)) (fuel : Nat) :
    moment predicate buffer slot name react actions (fuel + 1) =
      (moment predicate buffer slot name react actions fuel).step (perform predicate) :=
  Agenda.run_succ fuel _

/-- At every moment of a run what is next is guarded and no item is lost, as long as the source is
not terminated over an empty buffer. -/
theorem guarded_moment (predicate : Predicate) (buffer : Buffer α) (slot : FailureSlot)
    (name : String) (react : Reaction (Action α)) (actions : List (Action α)) {fuel : Nat}
    (hoccupied : ∀ earlier < fuel,
      Occupied (moment predicate buffer slot name react actions earlier)) :
    Guarded (moment predicate buffer slot name react actions fuel) ∧
      Conserves buffer.items (moment predicate buffer slot name react actions fuel) := by
  induction fuel with
  | zero =>
      have hnone : ∀ delivery, Task.signal delivery ∉ actions.map Task.act := by simp
      refine ⟨⟨?_, ?_, fun delivery hmem => hnone delivery (List.mem_of_mem_tail hmem)⟩,
        fun _ => ?_⟩
      · intro earlier other signal later heq
        exact absurd heq.symm (List.append_ne_nil_of_right_ne_nil _ (List.cons_ne_nil _ _))
      · intro delivery rest htodo
        refine absurd ?_ (hnone delivery)
        rw [show actions.map Task.act = _ from htodo]
        exact List.mem_cons_self
      · have hcoming : coming (actions.map Task.act) = [] := coming_of_silent hnone
        show [] ++ coming (actions.map Task.act) ++ buffer.items = buffer.items
        rw [hcoming]
        rfl
  | succ fuel ih =>
      obtain ⟨hguarded, hconserves⟩ :=
        ih fun earlier hearlier => hoccupied earlier (Nat.lt_succ_of_lt hearlier)
      rw [moment_succ]
      exact ⟨guarded_step hguarded (hoccupied fuel (Nat.lt_succ_self fuel)),
        conserves_step hconserves hguarded⟩

/-- At every moment of a run a pass that a request has started finds the terminal flag set. -/
theorem flagged_moment (predicate : Predicate) (buffer : Buffer α) (slot : FailureSlot)
    (name : String) (react : Reaction (Action α)) (actions : List (Action α)) (fuel : Nat) :
    Flagged (moment predicate buffer slot name react actions fuel) := by
  have hstep : ∀ agenda : Agenda (Bench α) (Task α), Flagged agenda →
      Flagged (agenda.step (perform predicate)) := fun _ => flagged_step
  refine Agenda.invariant_run hstep fuel fun pass hmem _ => ?_
  simp at hmem

/-- What a task records, and what it does to the register: either it only adds what was asked for,
or it leaves nothing outstanding. -/
theorem register_step (predicate : Predicate) (hflagged : Flagged agenda) :
    ∃ events, (agenda.step (perform predicate)).state.trace = agenda.state.trace ++ events ∧
      ((agenda.step (perform predicate)).state.drain.register =
          (amounts events).foldl Register.add agenda.state.drain.register ∨
        (agenda.step (perform predicate)).state.drain.isStalled = true) := by
  rcases agenda with ⟨bench, _ | ⟨task, rest⟩⟩
  · exact ⟨[], (List.append_nil _).symm, .inl rfl⟩
  rw [Agenda.step_cons]
  cases task with
  | act action =>
      refine ⟨[.called action], trace_begin _ _, .inl ?_⟩
      simp only [perform, drain_begin, register_touch]
      cases action <;> rfl
  | ret action result => exact ⟨_, rfl, .inl rfl⟩
  | pass pass =>
      refine ⟨_, rfl, ?_⟩
      exact register_turn predicate bench (hflagged pass List.mem_cons_self)
  | signal delivery => exact ⟨_, rfl, .inl rfl⟩
  | left => exact ⟨[], (List.append_nil _).symm, .inl rfl⟩

/-- At every moment of a run the register counts all that was asked for since nothing was
outstanding, whatever was delivered meanwhile. Nothing is outstanding at the start, and after every
settlement. -/
theorem unsettled_moment (predicate : Predicate) (buffer : Buffer α) (slot : FailureSlot)
    (name : String) (react : Reaction (Action α)) (actions : List (Action α)) (fuel : Nat) :
    let now := moment predicate buffer slot name react actions
    ∃ settled ≤ fuel, (settled = 0 ∨ (now settled).state.drain.isStalled = true) ∧
      ∃ events, (now fuel).state.trace = (now settled).state.trace ++ events ∧
        (now fuel).state.drain.register =
          (amounts events).foldl Register.add (now settled).state.drain.register := by
  intro now
  induction fuel with
  | zero => exact ⟨0, Nat.le_refl 0, .inl rfl, [], (List.append_nil _).symm, rfl⟩
  | succ fuel ih =>
      obtain ⟨settled, hle, hsettled, events, htrace, hregister⟩ := ih
      have hstep := register_step predicate
        (flagged_moment predicate buffer slot name react actions fuel)
      rw [← moment_succ] at hstep
      obtain ⟨more, hmore, hadded | hstalled⟩ := hstep
      · refine ⟨settled, Nat.le_succ_of_le hle, hsettled, events ++ more, ?_, ?_⟩
        · rw [← List.append_assoc, ← htrace]
          exact hmore
        · rw [amounts_append, List.foldl_append, ← hregister]
          exact hadded
      · exact ⟨fuel + 1, Nat.le_refl _, .inr hstalled, [], (List.append_nil _).symm, rfl⟩

/-! ## After a cancellation -/

/-- The engine is done for good: nothing is left for it to do, and a request starts no pass. -/
structure Retired (agenda : Agenda (Bench α) (Task α)) : Prop where
  terminated : 0 < terminations agenda.state.trace
  idle : agenda.todo.filter Task.isEngine = []
  awake : agenda.state.drain.isStalled = false

/-- Whatever happens, the engine has no part in it. -/
def Idles (bench next : Bench α) : Prop :=
  ∃ events, next.trace = bench.trace ++ events ∧ (∀ event ∈ events, isOfEngine event = false) ∧
    next.drain = (called events).foldl touch bench.drain

/-- Nothing happens. -/
theorem Idles.refl (bench : Bench α) : Idles bench bench :=
  ⟨[], (List.append_nil _).symm, fun _ hevent => (List.not_mem_nil hevent).elim, rfl⟩

/-- One thing happens after another. -/
theorem Idles.trans {first second third : Bench α} (hfirst : Idles first second)
    (hsecond : Idles second third) : Idles first third := by
  obtain ⟨events, htrace, hevents, hdrain⟩ := hfirst
  obtain ⟨more, hmore, hlater, hnext⟩ := hsecond
  refine ⟨events ++ more, by rw [hmore, htrace, List.append_assoc], ?_, ?_⟩
  · intro event hevent
    exact (List.mem_append.1 hevent).elim (hevents event) (hlater event)
  · rw [called_append, List.foldl_append, ← hdrain, hnext]

/-- An engine that is done for good stays so, unless the source is terminated again. -/
theorem Retired.step (h : Retired agenda)
    (honce : terminations (agenda.step (perform predicate)).state.trace ≤ 1) :
    Retired (agenda.step (perform predicate)) ∧
      Idles agenda.state (agenda.step (perform predicate)).state := by
  rcases agenda with ⟨bench, _ | ⟨task, rest⟩⟩
  · exact ⟨h, .refl bench⟩
  have hidle := h.idle
  have hawake : bench.drain.isStalled = false := h.awake
  have hterminated : 0 < terminations bench.trace := h.terminated
  rw [Agenda.step_cons] at honce ⊢
  cases task with
  | act action =>
      have hrest : rest.filter Task.isEngine = [] := hidle
      have htrace : ((bench.log (.called action)).begin action).1.trace =
          bench.trace ++ [.called action] := trace_begin _ _
      have hdrain : ((bench.log (.called action)).begin action).1.drain =
          bench.drain.touch action := drain_begin _ _
      have hquiet : Idles bench (perform predicate (.act action) bench).1 :=
        ⟨[.called action], htrace, by simp [isOfEngine], hdrain⟩
      have hnone : ((bench.log (.called action)).begin action).2.1 = [] ∧
          (bench.drain.touch action).isStalled = false := by
        cases action with
        | request amount ending =>
            refine ⟨?_, isStalled_afterRequest hawake amount⟩
            show (bench.drain.passOnRequest amount ending).toList.map Task.pass = []
            rw [passOnRequest_of_awake hawake]
            rfl
        | terminate ending =>
            exfalso
            have hcount := terminations_concat bench.trace (.called (.terminate ending))
            rw [perform, htrace, hcount] at honce
            simp only [terminates, if_pos] at honce
            omega
        | offer x =>
            refine ⟨by simp only [begin]; split <;> rfl, ?_⟩
            simp only [touch]
            split <;> exact hawake
        | poll =>
            refine ⟨by simp only [begin]; split <;> rfl, ?_⟩
            simp only [touch]
            split <;> exact hawake
        | isEmpty | cancel | fail failure => exact ⟨rfl, hawake⟩
      refine ⟨⟨?_, ?_, ?_⟩, hquiet⟩
      · rw [perform, htrace]
        exact Nat.lt_of_lt_of_le hterminated (List.sublist_append_left _ _).countP_le
      · show ((((bench.log (.called action)).begin action).2.1 ++ [Task.ret action _]) ++ rest).filter
          Task.isEngine = []
        rw [hnone.1]
        exact hrest
      · rw [perform, hdrain]
        exact hnone.2
  | ret action result =>
      refine ⟨⟨?_, hidle, hawake⟩, [.returned action result], rfl, by simp [isOfEngine], rfl⟩
      exact Nat.lt_of_lt_of_le hterminated (List.sublist_append_left _ _).countP_le
  | pass pass => simp [Task.isEngine] at hidle
  | signal delivery => simp [Task.isEngine] at hidle
  | left => simp [Task.isEngine] at hidle

/-- In the course of a run the number of terminations only grows. -/
theorem terminations_run (predicate : Predicate) (fuel : Nat)
    (agenda : Agenda (Bench α) (Task α)) :
    terminations agenda.state.trace ≤
      terminations (Agenda.run (perform predicate) fuel agenda).state.trace := by
  induction fuel with
  | zero => exact Nat.le_refl _
  | succ fuel ih =>
      rw [Agenda.run_succ]
      refine Nat.le_trans ih ?_
      rcases Agenda.run (perform predicate) fuel agenda with ⟨bench, _ | ⟨task, rest⟩⟩
      · exact Nat.le_refl _
      · exact terminations_perform predicate task bench

/-- An engine that is done for good has no part in the rest of the run. -/
theorem Retired.run (h : Retired agenda) (fuel : Nat)
    (honce : terminations (Agenda.run (perform predicate) fuel agenda).state.trace ≤ 1) :
    Retired (Agenda.run (perform predicate) fuel agenda) ∧
      Idles agenda.state (Agenda.run (perform predicate) fuel agenda).state := by
  induction fuel with
  | zero => exact ⟨h, .refl _⟩
  | succ fuel ih =>
      rw [Agenda.run_succ] at honce ⊢
      have hgrows := terminations_run predicate 1 (Agenda.run (perform predicate) fuel agenda)
      rw [Agenda.run_succ] at hgrows
      obtain ⟨hretired, hidles⟩ := ih (Nat.le_trans hgrows honce)
      obtain ⟨hnext, hlater⟩ := hretired.step honce
      exact ⟨hnext, hidles.trans hlater⟩

/-- A pass that is told to stop is the last thing that the engine does. -/
theorem CutShort.retired (h : CutShort predicate agenda)
    (hengaged : Engaged agenda.state (agenda.todo.filter Task.isEngine)) :
    Retired (agenda.step (perform predicate)) ∧
      (agenda.step (perform predicate)).state.trace = agenda.state.trace ++ [.checked true] ∧
      (agenda.step (perform predicate)).state.drain = agenda.state.drain := by
  rcases agenda with ⟨bench, todo⟩
  obtain ⟨⟨pass, rest, rfl⟩, hstop⟩ := h
  have hstop : bench.stops predicate = true := hstop
  obtain ⟨hrest, hwork⟩ := Engaged.pass hengaged
  obtain ⟨hdrain, htasks⟩ := perform_pass_stopped pass hstop
  have htrace : (perform predicate (.pass pass) bench).1.trace =
      bench.trace ++ [.checked true] := by
    rw [← hstop]
    rfl
  rw [Agenda.step_cons]
  refine ⟨⟨?_, by rw [htasks]; exact hrest, by rw [hdrain]; exact hwork.awake⟩, htrace, hdrain⟩
  rw [htrace]
  exact Nat.lt_of_lt_of_le hwork.terminated (List.sublist_append_left _ _).countP_le

/-- Every run in which the source terminates once, over a buffer that holds items, is cancelled for
good by the first answer that tells a pass to stop. Every signal comes directly after a check that
answered false. The check that tells a pass to stop leaves the drain as it is: the register counts
all that was asked for since nothing was outstanding, nothing of what was delivered meanwhile is
taken off it, and the items that were heard and those in the buffer are the ones that were there at
the start, in order, unless somebody else has moved items. From then on there is no signal and no
check, and the drain changes by what is called on it only. -/
theorem cancelled_pass_is_last (predicate : Predicate) (buffer : Buffer α) (slot : FailureSlot)
    (name : String) (react : Reaction (Action α)) (actions : List (Action α)) (fuel : Nat)
    (honce : terminations
      (moment predicate buffer slot name react actions fuel).state.trace ≤ 1)
    (hoccupied : ∀ earlier < fuel,
      Occupied (moment predicate buffer slot name react actions earlier)) :
    let now := moment predicate buffer slot name react actions
    Vetted (now fuel).state.trace ∧
      ∀ cut < fuel, CutShort predicate (now cut) →
        (now (cut + 1)).state.drain = (now cut).state.drain ∧
          (∃ settled ≤ cut, (settled = 0 ∨ (now settled).state.drain.isStalled = true) ∧
            ∃ events, (now cut).state.trace = (now settled).state.trace ++ events ∧
              (now cut).state.drain.register =
                (amounts events).foldl Register.add (now settled).state.drain.register) ∧
          ∃ events, (now fuel).state.trace = (now cut).state.trace ++ .checked true :: events ∧
            (∀ event ∈ events, isOfEngine event = false) ∧
            (now fuel).state.drain = (called events).foldl touch (now cut).state.drain ∧
            (Undisturbed (now fuel).state.trace →
              History.values (now fuel).state.probe.history ++ (now fuel).state.drain.buffer.items =
                buffer.items) := by
  intro now
  obtain ⟨hguarded, hconserves⟩ :=
    guarded_moment predicate buffer slot name react actions hoccupied
  refine ⟨hguarded.vetted, fun cut hcut hshort => ?_⟩
  obtain ⟨more, rfl⟩ := Nat.exists_eq_add_of_lt hcut
  have hrun : ∀ first second, now (first + second) =
      Agenda.run (perform predicate) second (now first) :=
    fun first second => Agenda.run_add (perform predicate) first second _
  have hafter := hrun (cut + 1) more
  rw [Nat.add_right_comm] at hafter
  have hgrows := terminations_run predicate (more + 1) (now cut)
  rw [← hrun] at hgrows
  have hengaged := engaged_moment predicate buffer slot name react actions cut
    (Nat.le_trans hgrows honce)
  obtain ⟨hretired, htrace, hdrain⟩ := hshort.retired hengaged
  rw [← moment_succ] at hretired htrace hdrain
  obtain ⟨hlast, events, hevents, hquiet, hlater⟩ :=
    hretired.run more (by rw [← hafter]; exact honce)
  rw [← hafter] at hevents hlater hlast
  refine ⟨hdrain, unsettled_moment predicate buffer slot name react actions cut, events, ?_, hquiet,
    ?_, fun hundisturbed => ?_⟩
  · rw [hevents, htrace, List.append_assoc]
    rfl
  · rw [hlater, hdrain]
  · have hnone : coming (now (cut + more + 1)).todo = [] := by
      refine coming_of_silent fun delivery hmem => ?_
      have hengine : Task.signal delivery ∈ (now (cut + more + 1)).todo.filter Task.isEngine :=
        List.mem_filter.2 ⟨hmem, rfl⟩
      rw [hlast.idle] at hengine
      exact List.not_mem_nil hengine
    have hitems := hconserves hundisturbed
    rwa [show coming (moment predicate buffer slot name react actions (cut + more + 1)).todo = []
      from hnone, List.append_nil] at hitems

/-- A predicate that tells the pass to stop at the third check only, in the middle of three items,
and a request after that. -/
theorem cancelled_pass_is_last_at_third_check :
    let predicate : Predicate := fun checks _ => checks = 2
    let buffer : Buffer Nat := Buffer.offerAll {} [1, 2, 3]
    let react : Reaction (Action Nat) := fun kind number =>
      if kind = .next ∧ number = 0 then [.request 1 .completion] else []
    let actions : List (Action Nat) :=
      [.request 1 .completion, .terminate .completion, .request 5 .completion]
    let now := moment predicate buffer {} "below" react actions
    (terminations (now 14).state.trace ≤ 1 ∧ (∀ earlier < 14, Occupied (now earlier)) ∧
        CutShort predicate (now 9) ∧ (now 14).state.stops predicate = false ∧
        Undisturbed (now 14).state.trace) ∧
      Vetted (now 14).state.trace ∧
      (now 10).state.drain = (now 9).state.drain ∧
      (∃ settled ≤ 9, (settled = 0 ∨ (now settled).state.drain.isStalled = true) ∧
        ∃ events, (now 9).state.trace = (now settled).state.trace ++ events ∧
          (now 9).state.drain.register =
            (amounts events).foldl Register.add (now settled).state.drain.register) ∧
      ∃ events, (now 14).state.trace = (now 9).state.trace ++ .checked true :: events ∧
        (∀ event ∈ events, isOfEngine event = false) ∧
        (now 14).state.drain = (called events).foldl touch (now 9).state.drain ∧
        History.values (now 14).state.probe.history ++ (now 14).state.drain.buffer.items =
          [1, 2, 3] := by
  intro predicate buffer react actions now
  have honce : terminations (now 14).state.trace ≤ 1 := by decide
  have hoccupied : ∀ earlier < 14, Occupied (now earlier) := by decide
  have hnext : (now 9).todo = [.pass ⟨2, 1, .completion, true⟩, .ret (.terminate .completion) .done,
      .act (.request 5 .completion)] := by
    simp only [now, actions, react, predicate, buffer]
    cbv
  have hshort : CutShort predicate (now 9) := ⟨⟨_, _, hnext⟩, by decide⟩
  have hundisturbed : Undisturbed (now 14).state.trace := by
    have hcalled : called (now 14).state.trace = [.request 1 .completion, .terminate .completion,
        .request 1 .completion, .request 5 .completion] := by
      simp only [now, actions, react, predicate, buffer]
      cbv
    rw [Undisturbed, hcalled]
    simp [Action.movesItems]
  obtain ⟨hvetted, hcut⟩ :=
    cancelled_pass_is_last predicate buffer {} "below" react actions 14 honce hoccupied
  obtain ⟨hdrain, hunsettled, events, htrace, hquiet, hlater, hitems⟩ := hcut 9 (by decide) hshort
  exact ⟨⟨honce, hoccupied, hshort, by decide, hundisturbed⟩, hvetted, hdrain, hunsettled, events,
    htrace, hquiet, hlater, hitems hundisturbed⟩

end Bench

end Backpressure.Drain
