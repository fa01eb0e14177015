import Backpressure.Proofs.Drain.Delivery

/-!
# One pass at a time

The engine of a drain must not run twice over one buffer: a second pass that is started from inside
a delivery of the first would deliver out of order, and a pass that is started from inside the
terminal signal would deliver after it. Nothing locks the buffer. All that keeps a request from
starting a pass is that the register does not hold the word for "terminated, nothing outstanding".
This word is entered in one place, where a pass whose demand ran out stops, and left by the request
that starts the next one.

What the engine still has to do is read off the tasks behind the current one, and only six shapes
occur. They are kept by everything that may happen on the bench, by polls that empty the buffer
under a running pass and by any answers of the predicate, as long as the source terminates once.

Main results:

- Theorem `engaged_step` keeps the shape of what is left for the engine over one task.
- Theorem `signals_one_at_a_time` concludes that there is at most one terminal signal and nothing
  after it, that signals do not nest, and that a request from inside a signal returns false.
-/

namespace Backpressure

namespace History

variable {α : Type}

/-- Signals that are not terminal do not matter for whether something follows a terminal one. -/
theorem goesOn_append {first : List (Signal α)} (h : terminals first = 0)
    (second : List (Signal α)) : goesOn (first ++ second) = goesOn second := by
  induction first with
  | nil => rfl
  | cons signal first ih =>
      obtain ⟨hfirst, hsignal⟩ : terminals first = 0 ∧ signal.isTerminal = false := by
        simpa [terminals, List.countP_cons] using h
      rw [List.cons_append, goesOn, hsignal]
      exact ih hfirst

end History

namespace Drain

variable {α : Type}

/-- Whether an event is a call that terminates the source. -/
def terminates : Event α (Action α) (Result α) → Bool
  | .called (.terminate _) => true
  | _ => false

/-- How often the source was terminated. -/
def terminations (trace : List (Event α (Action α) (Result α))) : Nat :=
  trace.countP terminates

/-- Whether a task is the engine's own: a turn of a pass, a signal, or the end of one. -/
def Task.isEngine : Task α → Bool
  | .pass _ | .signal _ | .left => true
  | .act _ | .ret _ _ => false

namespace Bench

variable {bench next : Bench α} {tasks : List (Task α)} {action : Action α}

/-! ## What is left for the engine -/

/-- The engine is at work: the source has terminated, nothing terminal was heard yet, and a request
does not start a pass. -/
structure AtWork (bench : Bench α) : Prop where
  terminated : 0 < terminations bench.trace
  unfinished : History.terminals bench.probe.history = 0
  awake : bench.drain.isStalled = false

/-- At most one terminal signal was heard, and nothing after it. -/
structure Closed (history : List (Signal α)) : Prop where
  terminals_le : History.terminals history ≤ 1
  goesOn : History.goesOn history = false

/-- What is left for the engine, between the tasks of others. -/
inductive Engaged (bench : Bench α) : List (Task α) → Prop
  /-- Nothing. If nobody terminated the source, or if the next request starts a pass, then no
  terminal signal was heard. -/
  | idle (hclosed : Closed bench.probe.history)
      (hbefore : terminations bench.trace = 0 →
        History.terminals bench.probe.history = 0 ∧ bench.drain.isStalled = false)
      (hstalled : bench.drain.isStalled = true → History.terminals bench.probe.history = 0) :
      Engaged bench []
  /-- A turn of a pass. -/
  | passing (pass : Pass) (hwork : AtWork bench) : Engaged bench [.pass pass]
  /-- A delivery, and then a turn. -/
  | delivering (x : α) (pass : Pass) (hwork : AtWork bench) :
      Engaged bench [.signal (.next x), .pass pass]
  /-- A turn, once a delivery has returned. -/
  | hearing (pass : Pass) (hwork : AtWork bench) : Engaged bench [.left, .pass pass]
  /-- The terminal signal. -/
  | concluding (delivery : Delivery α Empty) (hterminal : delivery.signal.isTerminal = true)
      (hwork : AtWork bench) : Engaged bench [.signal delivery]
  /-- Nothing, once the terminal signal has returned. -/
  | ending (hclosed : Closed bench.probe.history) (hterminated : 0 < terminations bench.trace)
      (hawake : bench.drain.isStalled = false) : Engaged bench [.left]

/-- A history without a terminal signal is closed. -/
theorem Closed.of_unfinished {history : List (Signal α)} (h : History.terminals history = 0) :
    Closed history :=
  ⟨h ▸ Nat.zero_le 1, by simpa [History.goesOn] using History.goesOn_append h []⟩

/-- A signal closes a history that holds no terminal one. -/
theorem Closed.concat {history : List (Signal α)} (h : History.terminals history = 0)
    (signal : Signal α) : Closed (history ++ [signal]) := by
  constructor
  · rw [History.terminals_append, h, Nat.zero_add]
    exact List.countP_le_length
  · rw [History.goesOn_append h]
    cases signal <;> rfl

/-- Whatever the engine has to do, its history is closed. -/
theorem Engaged.closed (h : Engaged bench tasks) : Closed bench.probe.history := by
  cases h with
  | idle hclosed => exact hclosed
  | passing _ hwork => exact .of_unfinished hwork.unfinished
  | delivering _ _ hwork => exact .of_unfinished hwork.unfinished
  | hearing _ hwork => exact .of_unfinished hwork.unfinished
  | concluding _ _ hwork => exact .of_unfinished hwork.unfinished
  | ending hclosed => exact hclosed

/-- As long as the engine has something to do, a request starts no pass. -/
theorem Engaged.awake (h : Engaged bench tasks) (htasks : tasks ≠ []) :
    bench.drain.isStalled = false := by
  cases h with
  | idle => exact absurd rfl htasks
  | passing _ hwork => exact hwork.awake
  | delivering _ _ hwork => exact hwork.awake
  | hearing _ hwork => exact hwork.awake
  | concluding _ _ hwork => exact hwork.awake
  | ending _ _ hawake => exact hawake

/-- As long as the engine has something to do, the source has terminated. -/
theorem Engaged.terminated (h : Engaged bench tasks) (htasks : tasks ≠ []) :
    0 < terminations bench.trace := by
  cases h with
  | idle => exact absurd rfl htasks
  | passing _ hwork => exact hwork.terminated
  | delivering _ _ hwork => exact hwork.terminated
  | hearing _ hwork => exact hwork.terminated
  | concluding _ _ hwork => exact hwork.terminated
  | ending _ hterminated => exact hterminated

/-- What is left for the engine stays possible as long as nothing more is heard, no termination is
added, and the register does not begin to stall. -/
theorem Engaged.of_same (h : Engaged bench tasks)
    (hhistory : next.probe.history = bench.probe.history)
    (hterminations : terminations next.trace = terminations bench.trace)
    (hstalled : next.drain.isStalled = true → bench.drain.isStalled = true) :
    Engaged next tasks := by
  have hkeep : bench.drain.isStalled = false → next.drain.isStalled = false := by
    intro hawake
    rw [Bool.eq_false_iff] at hawake ⊢
    exact mt hstalled hawake
  have hwork : AtWork bench → AtWork next := fun hwork =>
    ⟨hterminations ▸ hwork.terminated, hhistory ▸ hwork.unfinished, hkeep hwork.awake⟩
  cases h with
  | idle hclosed hbefore hrest =>
      refine .idle (hhistory ▸ hclosed) ?_ ?_
      · intro hnone
        rw [hterminations] at hnone
        obtain ⟨hopen, hawake⟩ := hbefore hnone
        exact ⟨hhistory ▸ hopen, hkeep hawake⟩
      · intro hnext
        rw [hhistory]
        exact hrest (hstalled hnext)
  | passing pass h => exact .passing pass (hwork h)
  | delivering x pass h => exact .delivering x pass (hwork h)
  | hearing pass h => exact .hearing pass (hwork h)
  | concluding delivery hterminal h => exact .concluding delivery hterminal (hwork h)
  | ending hclosed hterminated hawake =>
      exact .ending (hhistory ▸ hclosed) (hterminations ▸ hterminated) (hkeep hawake)

/-! ## Actions -/

/-- The terminations of a trace with one more event. -/
theorem terminations_concat (trace : List (Event α (Action α) (Result α)))
    (event : Event α (Action α) (Result α)) :
    terminations (trace ++ [event]) = terminations trace + if terminates event then 1 else 0 := by
  rw [terminations, List.countP_append, List.countP_singleton]
  rfl

/-- A request leaves the engine in order: it starts a pass only when the engine has nothing to do
and has not given the terminal signal. -/
theorem Engaged.request (h : Engaged bench tasks) (amount : UInt64) (ending : Ending) :
    Engaged (bench.withDrain (bench.drain.afterRequest amount))
      ((bench.drain.passOnRequest amount ending).toList.map .pass ++ tasks) := by
  cases hstalled : bench.drain.isStalled with
  | false =>
      rw [passOnRequest_of_awake hstalled]
      refine h.of_same rfl rfl ?_
      intro hnext
      rw [withDrain, isStalled_afterRequest hstalled amount] at hnext
      contradiction
  | true =>
      by_cases hamount : amount = 0
      · subst hamount
        rw [passOnRequest_zero]
        exact h.of_same rfl rfl fun _ => hstalled
      · have hpass : bench.drain.passOnRequest amount ending =
            some (.start (Register.withTerminal amount) ending false) := by
          simp [passOnRequest, hstalled, hamount]
        obtain rfl : tasks = [] := by
          by_contra htasks
          rw [h.awake htasks] at hstalled
          contradiction
        cases h with
        | idle _ hbefore hrest =>
            rw [hpass]
            refine .passing _ ⟨?_, hrest hstalled,
              isStalled_afterRequest_of_ne_zero hstalled hamount⟩
            refine Nat.pos_of_ne_zero fun hnone => ?_
            rw [(hbefore hnone).2] at hstalled
            contradiction

/-- The signal that a drain concludes with is terminal. -/
theorem isTerminal_conclusion (drain : Drain α) (ending : Ending) :
    (drain.conclusion ending : Delivery α Empty).signal.isTerminal = true := by
  rw [signal_conclusion]
  unfold lastSignal
  split <;> rfl

/-- Termination sets the engine to work, or has it give the terminal signal at once. -/
theorem engaged_of_termination (ending : Ending)
    (hterminated : 0 < terminations bench.trace)
    (hopen : History.terminals bench.probe.history = 0)
    (hawake : bench.drain.isStalled = false) :
    Engaged (bench.begin (.terminate ending)).1 (bench.begin (.terminate ending)).2.1 := by
  have hwork : AtWork bench := ⟨hterminated, hopen, hawake⟩
  simp only [begin]
  cases bench.drain.passOnTermination ending with
  | some pass => exact .passing pass hwork
  | none => exact .concluding _ (isTerminal_conclusion bench.drain ending) hwork

/-- The tasks that an action starts are the engine's own. -/
theorem isEngine_of_begin (bench : Bench α) (action : Action α) :
    (bench.begin action).2.1.filter Task.isEngine = (bench.begin action).2.1 := by
  rw [List.filter_eq_self]
  cases action <;> simp only [begin] <;> (try split) <;> simp [Task.isEngine]

/-- An action leaves the engine in order, unless it terminates the source again. -/
theorem Engaged.act (h : Engaged bench tasks)
    (honce : terminations (bench.log (.called action)).trace ≤ 1) :
    Engaged ((bench.log (.called action)).begin action).1
      (((bench.log (.called action)).begin action).2.1 ++ tasks) := by
  have hcalled : terminations (bench.log (.called action)).trace =
      terminations bench.trace + if terminates (.called action) then 1 else 0 :=
    terminations_concat bench.trace (.called action)
  cases action with
  | request amount ending =>
      have hlogged : Engaged (bench.log (.called (.request amount ending))) tasks :=
        h.of_same rfl hcalled fun hstalled => hstalled
      exact hlogged.request amount ending
  | terminate ending =>
      have hnone : terminations bench.trace = 0 := by
        rw [hcalled] at honce
        simpa [terminates] using honce
      obtain rfl : tasks = [] := by
        by_contra htasks
        exact absurd hnone (Nat.pos_iff_ne_zero.1 (h.terminated htasks))
      cases h with
      | idle _ hbefore _ =>
          obtain ⟨hopen, hawake⟩ := hbefore hnone
          rw [List.append_nil]
          refine engaged_of_termination ending ?_ hopen hawake
          rw [hcalled, hnone]
          exact Nat.one_pos
  | offer x =>
      simp only [begin]
      split <;> exact h.of_same rfl hcalled fun hstalled => hstalled
  | poll =>
      simp only [begin]
      split <;> exact h.of_same rfl hcalled fun hstalled => hstalled
  | isEmpty => exact h.of_same rfl hcalled fun hstalled => hstalled
  | cancel => exact h.of_same rfl hcalled fun hstalled => hstalled
  | fail failure => exact h.of_same rfl hcalled fun hstalled => hstalled

/-! ## Turns and signals -/

/-- Only a turn that stops may leave the drain stalled. -/
theorem isStalled_of_advance {drain next : Drain α} {pass : Pass} {stop : Bool}
    {move : PassMove α} (hadvance : drain.advance pass stop = (next, move))
    (hawake : drain.isStalled = false) (hmove : move ≠ .stop) : next.isStalled = false := by
  unfold advance at hadvance
  split at hadvance
  · cases hadvance
    exact absurd rfl hmove
  · split at hadvance
    · split at hadvance <;> cases hadvance <;> exact hawake
    · split at hadvance
      · cases hadvance
        exact hawake
      · split at hadvance
        · cases hadvance
          exact absurd rfl hmove
        · cases hadvance
          exact hawake

/-- A pass that is next is all that is left for the engine, which is at work. -/
theorem Engaged.pass {pass : Pass} {rest : List (Task α)}
    (h : Engaged bench (.pass pass :: rest)) :
    rest = [] ∧ AtWork bench := by
  cases h with
  | passing _ hwork => exact ⟨rfl, hwork⟩

/-- A turn of a pass leaves the engine in order. -/
theorem AtWork.turn (h : AtWork bench) (predicate : Predicate) (pass : Pass) :
    Engaged (bench.turn predicate pass).1 (bench.turn predicate pass).2 := by
  rcases hadvance : bench.drain.advance pass (bench.stops predicate) with ⟨drain, move⟩
  have hterminations : terminations (bench.turn predicate pass).1.trace =
      terminations bench.trace :=
    terminations_concat bench.trace (.checked (bench.stops predicate))
  have hdrain : (bench.turn predicate pass).1.drain = drain := by
    rw [Bench.turn, hadvance]
    rfl
  have htasks : (bench.turn predicate pass).2 = follow drain pass.ending move := by
    rw [Bench.turn, hadvance]
  have hwork : move ≠ .stop → AtWork (bench.turn predicate pass).1 := fun hmove =>
    ⟨hterminations ▸ h.terminated, h.unfinished,
      hdrain ▸ isStalled_of_advance hadvance h.awake hmove⟩
  rw [htasks]
  cases move with
  | stop =>
      refine .idle (.of_unfinished h.unfinished) ?_ fun _ => h.unfinished
      intro hnone
      rw [hterminations] at hnone
      exact absurd hnone (Nat.pos_iff_ne_zero.1 h.terminated)
  | deliver x pass => exact .delivering x pass (hwork (by simp))
  | conclude => exact .concluding _ (isTerminal_conclusion drain pass.ending) (hwork (by simp))
  | again pass => exact .passing pass (hwork (by simp))

/-- A delivery that is not terminal leaves the history unfinished. -/
theorem AtWork.deliver_next (h : AtWork bench) (x : α) : AtWork (bench.deliver (.next x)).1 where
  terminated := by
    have htrace : terminations (bench.deliver (.next x)).1.trace = terminations bench.trace :=
      terminations_concat bench.trace (.heard bench.probe.name (.next x))
    rw [htrace]
    exact h.terminated
  unfinished := by
    have hhistory : (bench.deliver (.next x)).1.probe.history =
        bench.probe.history ++ [.next x] := rfl
    rw [hhistory, History.terminals_append, h.unfinished]
    rfl
  awake := h.awake

/-- A signal leaves the engine in order: what is left is to see it return. -/
theorem Engaged.deliver {delivery : Delivery α Empty} {rest : List (Task α)}
    (h : Engaged bench (.signal delivery :: rest)) :
    Engaged (bench.deliver delivery).1 (.left :: rest) := by
  cases h with
  | delivering x pass hwork => exact .hearing pass (hwork.deliver_next x)
  | concluding delivery hterminal hwork =>
      refine .ending (.concat hwork.unfinished delivery.signal) ?_ hwork.awake
      have htrace : terminations (bench.deliver delivery).1.trace = terminations bench.trace :=
        terminations_concat bench.trace (.heard bench.probe.name delivery.signal)
      rw [htrace]
      exact hwork.terminated

/-- Once a signal has returned the engine goes on with its pass, or has nothing left to do. -/
theorem Engaged.left {rest : List (Task α)} (h : Engaged bench (.left :: rest)) :
    Engaged bench rest := by
  cases h with
  | hearing pass hwork => exact .passing pass hwork
  | ending hclosed hterminated hawake =>
      refine .idle hclosed ?_ ?_
      · intro hnone
        exact absurd hnone (Nat.pos_iff_ne_zero.1 hterminated)
      · intro hstalled
        rw [hawake] at hstalled
        contradiction

/-! ## Runs -/

/-- What is left for the engine at a point of a run, as long as the source terminated at most
once. -/
def EngagedOnce (agenda : Agenda (Bench α) (Task α)) : Prop :=
  terminations agenda.state.trace ≤ 1 → Engaged agenda.state (agenda.todo.filter Task.isEngine)

/-- The number of terminations only grows. -/
theorem terminations_perform (predicate : Predicate) (task : Task α) (bench : Bench α) :
    terminations bench.trace ≤ terminations (perform predicate task bench).1.trace :=
  (trace_prefix_perform predicate task bench).sublist.countP_le

/-- What a pass goes on with is the engine's own. -/
theorem isEngine_of_follow (drain : Drain α) (ending : Ending) (move : PassMove α) :
    (follow drain ending move).filter Task.isEngine = follow drain ending move := by
  cases move <;> rfl

/-- The reactions of the subscriber are not the engine's own. -/
theorem isEngine_of_deliver (bench : Bench α) (delivery : Delivery α Empty) :
    (bench.deliver delivery).2.filter Task.isEngine = [.left] := by
  have hreactions : ∀ actions : List (Action α),
      (actions.map Task.act).filter Task.isEngine = [] := by
    intro actions
    simp [Task.isEngine]
  rw [deliver, List.filter_append, hreactions]
  rfl

/-- A task keeps the shape of what is left for the engine. -/
theorem engaged_step (predicate : Predicate) (agenda : Agenda (Bench α) (Task α))
    (h : EngagedOnce agenda) : EngagedOnce (agenda.step (perform predicate)) := by
  rcases agenda with ⟨bench, _ | ⟨task, rest⟩⟩
  · exact h
  · intro honce
    rw [Agenda.step_cons] at honce ⊢
    have hnow := h (Nat.le_trans (terminations_perform predicate task bench) honce)
    rw [List.filter_append]
    cases task with
    | act action =>
        have hadded : (perform predicate (.act action) bench).2.filter Task.isEngine =
            ((bench.log (.called action)).begin action).2.1 := by
          rw [perform, List.filter_append, isEngine_of_begin]
          exact List.append_nil _
        have htrace := trace_begin (bench.log (.called action)) action
        rw [hadded]
        exact hnow.act (htrace ▸ honce)
    | ret action result =>
        exact hnow.of_same rfl (terminations_concat bench.trace (.returned action result))
          fun hstalled => hstalled
    | pass pass =>
        obtain ⟨hrest, hwork⟩ := Engaged.pass hnow
        have hadded : (perform predicate (.pass pass) bench).2.filter Task.isEngine =
            (bench.turn predicate pass).2 := isEngine_of_follow _ _ _
        rw [hadded, hrest, List.append_nil]
        exact hwork.turn predicate pass
    | signal delivery =>
        have hadded : (perform predicate (.signal delivery) bench).2.filter Task.isEngine =
            [.left] := isEngine_of_deliver bench delivery
        rw [hadded]
        exact Engaged.deliver hnow
    | left => exact hnow.left

/-- A point of a run that plays actions on a fresh bench. -/
def moment (predicate : Predicate) (buffer : Buffer α) (slot : FailureSlot) (name : String)
    (react : Reaction (Action α)) (actions : List (Action α)) (fuel : Nat) :
    Agenda (Bench α) (Task α) :=
  Agenda.run (perform predicate) fuel ⟨opened buffer slot name react, actions.map .act⟩

/-- At every point of a run the engine has one of the six things left to do. -/
theorem engaged_moment (predicate : Predicate) (buffer : Buffer α) (slot : FailureSlot)
    (name : String) (react : Reaction (Action α)) (actions : List (Action α)) (fuel : Nat) :
    EngagedOnce (moment predicate buffer slot name react actions fuel) := by
  refine Agenda.invariant_run (engaged_step predicate) fuel fun _ => ?_
  have hactions : (actions.map Task.act).filter Task.isEngine = [] := by
    simp [Task.isEngine]
  rw [hactions]
  exact .idle (.of_unfinished rfl) (fun _ => ⟨rfl, rfl⟩) fun _ => rfl

/-- Some signal of the engine is still on the way: it was delivered and has not returned. -/
def WithinSignal (rest : List (Task α)) : Prop := .left ∈ rest

/-- Within a signal, a request is absorbed and returns false. -/
theorem Engaged.absorbs {rest : List (Task α)} (h : Engaged bench (rest.filter Task.isEngine))
    (hwithin : WithinSignal rest) (predicate : Predicate) (amount : UInt64) (ending : Ending) :
    ∃ next, Agenda.run (perform predicate) 2 ⟨bench, .act (.request amount ending) :: rest⟩ =
        ⟨next, rest⟩ ∧
      next.trace = bench.trace ++
        [.called (.request amount ending), .returned (.request amount ending) (.flag false)] := by
  have hleft : Task.left ∈ rest.filter Task.isEngine := List.mem_filter.2 ⟨hwithin, rfl⟩
  have hawake : bench.drain.isStalled = false := h.awake (List.ne_nil_of_mem hleft)
  have hperform : perform predicate (.act (.request amount ending)) bench =
      ((bench.log (.called (.request amount ending))).withDrain (bench.drain.afterRequest amount),
        [.ret (.request amount ending) (.flag false)]) := by
    simp [perform, begin, log, withDrain, passOnRequest_of_awake hawake, hawake]
  refine ⟨_, by rw [Agenda.run_succ_cons, Agenda.step_cons, hperform]; rfl, ?_⟩
  exact List.append_assoc bench.trace [_] [_]

/-- When a signal is next, no other one is on the way. -/
theorem Engaged.alone {delivery : Delivery α Empty} {rest : List (Task α)}
    (h : Engaged bench (.signal delivery :: rest.filter Task.isEngine)) :
    ¬ WithinSignal rest := by
  intro hwithin
  have hleft : Task.left ∈ rest.filter Task.isEngine := List.mem_filter.2 ⟨hwithin, rfl⟩
  generalize rest.filter Task.isEngine = others at h hleft
  cases h with
  | delivering x pass _ => simp at hleft
  | concluding _ _ _ => simp at hleft

/-- When the source terminates at most once, at every point of every run: at most one terminal
signal was heard and nothing after it, a signal that is next does not fall within another one, and a
request that is made within a signal returns false and starts nothing. Offers, polls and requests
may come at any time, and the predicate may answer anything. -/
theorem signals_one_at_a_time (predicate : Predicate) (buffer : Buffer α) (slot : FailureSlot)
    (name : String) (react : Reaction (Action α)) (actions : List (Action α)) (fuel : Nat)
    (honce : terminations
      (moment predicate buffer slot name react actions fuel).state.trace ≤ 1) :
    let now := moment predicate buffer slot name react actions fuel
    (History.terminals now.state.probe.history ≤ 1 ∧
        History.goesOn now.state.probe.history = false) ∧
      (∀ delivery rest, now.todo = .signal delivery :: rest → ¬ WithinSignal rest) ∧
      ∀ amount ending rest, now.todo = .act (.request amount ending) :: rest →
        WithinSignal rest →
          ∃ next, Agenda.run (perform predicate) 2 now = ⟨next, rest⟩ ∧
            next.trace = now.state.trace ++ [.called (.request amount ending),
              .returned (.request amount ending) (.flag false)] := by
  have hengaged := engaged_moment predicate buffer slot name react actions fuel honce
  generalize moment predicate buffer slot name react actions fuel = now at hengaged ⊢
  obtain ⟨bench, todo⟩ := now
  refine ⟨⟨hengaged.closed.terminals_le, hengaged.closed.goesOn⟩, ?_, ?_⟩
  · rintro delivery rest rfl
    exact Engaged.alone hengaged
  · rintro amount ending rest rfl hwithin
    have hrest : Engaged bench (rest.filter Task.isEngine) := hengaged
    exact hrest.absorbs hwithin predicate amount ending

/-- A request from inside the first delivery of a pass whose buffer was emptied by a poll. -/
theorem signals_one_at_a_time_within_delivery :
    let react : Reaction (Action Nat) := fun kind number =>
      if kind = .next ∧ number = 0 then [.poll, .request 7 .heldFailure] else [.offer 9]
    let actions : List (Action Nat) :=
      [.offer 1, .offer 2, .request 1 .completion, .terminate .completion]
    let now := moment .never {} {} "below" react actions 11
    (∃ rest, now.todo = .act (.request 7 .heldFailure) :: rest ∧ WithinSignal rest) ∧
      terminations now.state.trace ≤ 1 ∧
      (History.terminals now.state.probe.history ≤ 1 ∧
        History.goesOn now.state.probe.history = false) ∧
      (∀ delivery rest, now.todo = .signal delivery :: rest → ¬ WithinSignal rest) ∧
      ∀ amount ending rest, now.todo = .act (.request amount ending) :: rest →
        WithinSignal rest →
          ∃ next, Agenda.run (perform .never) 2 now = ⟨next, rest⟩ ∧
            next.trace = now.state.trace ++ [.called (.request amount ending),
              .returned (.request amount ending) (.flag false)] := by
  intro react actions now
  have hnow : now.todo = [.act (.request 7 .heldFailure), .left,
      .pass ⟨1, 1, .completion, true⟩, .ret (.terminate .completion) .done] := by
    simp only [now, actions, react]
    cbv
  refine ⟨⟨_, hnow, List.mem_cons_self⟩, by decide, ?_⟩
  exact signals_one_at_a_time .never {} {} "below" react actions 11 (by decide)

end Bench

end Drain

end Backpressure
