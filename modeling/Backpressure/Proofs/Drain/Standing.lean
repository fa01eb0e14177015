import Backpressure.Proofs.Drain.Cancellation

/-!
# The register between the calls

Between the calls of the engine, the register of a drain says where the source stands. Before
termination it holds what was asked for, up to the unbounded amount. After termination it holds the
word for "terminated, nothing outstanding", with items left in the buffer, until the source ends: by
a terminal signal, or by a check that tells a pass to stop. A pass that ends the source does not
settle what it has delivered, and the register never holds that word again, whatever is asked for
from then on.

While the engine is at work, what was asked for is either delivered, on its way to the subscriber, or
still owed by the pass that is under way. This account is kept by every task, under any answers of
the predicate, as long as the calling rules of a drain are kept.

Main results:

- Theorem `accounted_step` keeps the account over one task.
- Theorem `register_between_calls` reads the register at every moment of every run.
-/

namespace Backpressure

namespace Buffer

variable {α : Type}

/-- Offering one more item. -/
theorem offerAll_concat (buffer : Buffer α) (xs : List α) (x : α) :
    buffer.offerAll (xs ++ [x]) = ((buffer.offerAll xs).offer? x).getD (buffer.offerAll xs) := by
  rw [offerAll, List.foldl_append]
  rfl

/-- An offer takes no item away. -/
theorem length_le_offerAll_concat (buffer : Buffer α) (xs : List α) (x : α) :
    (buffer.offerAll xs).items.length ≤ (buffer.offerAll (xs ++ [x])).items.length := by
  rw [offerAll_concat]
  cases hoffer : (buffer.offerAll xs).offer? x with
  | none => exact Nat.le_refl _
  | some next =>
      rw [Option.getD_some, items_offer? hoffer, List.length_append]
      exact Nat.le_add_right _ _

end Buffer

namespace Drain

variable {α : Type} {drain : Drain α} {pass : Pass} {left : List α} {owed : Nat}

/-! ## The calling rules -/

/-- Whether an action may come after termination: then no item is offered any more, only the engine
takes items, and the source does not terminate again. -/
def Action.isLate : Action α → Bool
  | .offer _ | .poll | .terminate _ => false
  | .isEmpty | .cancel | .fail _ | .request _ _ => true

/-- Whether actions keep the calling rules of a drain: only the engine takes items, and items are
offered before the source terminates, which it does at most once. -/
def keepsRules : List (Action α) → Bool
  | [] => true
  | .poll :: _ => false
  | .terminate _ :: later => later.all Action.isLate
  | _ :: later => keepsRules later

/-- Whether some check of the predicate told a pass to stop. -/
def wasStopped (trace : List (Event α (Action α) (Result α))) : Bool :=
  trace.any fun
    | .checked stop => stop
    | _ => false

/-- The buffer with all items that were offered to it. -/
def filled (buffer : Buffer α) (trace : List (Event α (Action α) (Result α))) : Buffer α :=
  buffer.offerAll (offered (called trace))

/-- The source has terminated exactly if somebody terminated it. -/
theorem terminations_pos_iff {trace : List (Event α (Action α) (Result α))} :
    0 < terminations trace ↔ ∃ ending, .terminate ending ∈ called trace := by
  rw [terminations, List.countP_pos_iff]
  constructor
  · rintro ⟨event, hevent, hterminates⟩
    obtain ⟨ending, rfl⟩ : ∃ ending, event = .called (.terminate ending) := by
      unfold terminates at hterminates
      split at hterminates
      · exact ⟨_, rfl⟩
      · contradiction
    exact ⟨ending, List.mem_filterMap.2 ⟨_, hevent, rfl⟩⟩
  · rintro ⟨ending, hmem⟩
    obtain ⟨event, hevent, hcalled⟩ := List.mem_filterMap.1 hmem
    refine ⟨event, hevent, ?_⟩
    split at hcalled
    · cases hcalled
      rfl
    · contradiction

/-- Rules that are kept were kept before the last action, and the last action keeps them: it takes
no item, and is a late one if the source has terminated. -/
theorem keepsRules_concat {actions : List (Action α)} {action : Action α}
    (h : keepsRules (actions ++ [action]) = true) :
    keepsRules actions = true ∧ action ≠ .poll ∧
      ∀ ending, .terminate ending ∈ actions → action.isLate = true := by
  induction actions with
  | nil => cases action <;> simp_all [keepsRules]
  | cons first actions ih =>
      cases first with
      | poll => contradiction
      | terminate ending =>
          rw [List.cons_append, keepsRules, List.all_append, Bool.and_eq_true] at h
          have hlast : action.isLate = true := by simpa using h.2
          refine ⟨h.1, ?_, fun _ _ => hlast⟩
          rintro rfl
          contradiction
      | _ =>
          obtain ⟨hrules, hpoll, hlate⟩ := ih h
          refine ⟨hrules, hpoll, fun ending hmem => hlate ending ?_⟩
          simpa using hmem

/-- A late action offers nothing. -/
theorem filled_concat_of_late (buffer : Buffer α) (trace : List (Event α (Action α) (Result α)))
    {action : Action α} (h : action.isLate = true) :
    filled buffer (trace ++ [.called action]) = filled buffer trace := by
  rw [filled, filled, called_append]
  cases action <;> simp_all [Action.isLate, called, offered]

/-- What a trace asks for with one more event. -/
theorem requested_concat (trace : List (Event α (Action α) (Result α)))
    (event : Event α (Action α) (Result α)) :
    requested (trace ++ [event]) = requested trace + asked event := by
  rw [requested_append, requested_cons, requested_nil, Nat.add_zero]

/-! ## Late actions on a drain -/

/-- No late action stalls a drain. -/
theorem isStalled_touch {action : Action α} (h : action.isLate = true)
    (hawake : drain.isStalled = false) : (drain.touch action).isStalled = false := by
  cases action with
  | request amount ending => exact isStalled_afterRequest hawake amount
  | isEmpty | cancel | fail failure => exact hawake
  | offer x | poll | terminate ending => contradiction

/-- What a late action asks for is owed by the pass that is under way. -/
theorem Running.touch {action : Action α} (h : Running drain pass left owed)
    (hlate : action.isLate = true) :
    Running (drain.touch action) pass left (owed + asked (.called action)) := by
  cases action with
  | request amount ending => exact h.request amount
  | isEmpty | cancel | fail failure => exact { h with }
  | offer x | poll | terminate ending => contradiction

namespace Bench

variable {bench : Bench α} {buffer : Buffer α} {items coming given : List α}
  {tasks : List (Task α)} {action : Action α}

/-- A late action starts nothing on a drain that is not stalled. -/
theorem begin_of_awake (hlate : action.isLate = true) (hawake : bench.drain.isStalled = false) :
    (bench.begin action).2.1 = [] := by
  cases action with
  | request amount ending =>
      rw [begin, passOnRequest_of_awake hawake]
      rfl
  | isEmpty | cancel | fail failure => rfl
  | offer x | poll | terminate ending => contradiction

/-! ## The account -/

/-- A pass is under way: what was asked for is delivered, on its way, or still owed. -/
structure Underway (items : List α) (bench : Bench α) (pass : Pass) (coming : List α)
    (given left : List α) (owed : Nat) : Prop where
  terminated : 0 < terminations bench.trace
  running : Running bench.drain pass left owed
  items : items = given ++ coming ++ left
  history : bench.probe.history = given.map .next
  requested : requested bench.trace = given.length + coming.length + owed

/-- What the engine has to do as long as the source has not ended, with all that was offered. -/
inductive AtHand (buffer : Buffer α) (bench : Bench α) : List (Task α) → Prop
  /-- Nothing before termination: the register holds what was asked for. -/
  | waiting (hnone : terminations bench.trace = 0) (hbuffer : bench.drain.buffer = buffer)
      (hreads : bench.drain.register.Reads false (requested bench.trace))
      (hhistory : bench.probe.history = []) : AtHand buffer bench []
  /-- A turn of a pass. -/
  | passing (pass : Pass) (given left : List α) (owed : Nat)
      (hunder : Underway buffer.items bench pass [] given left owed) :
      AtHand buffer bench [.pass pass]
  /-- A delivery, and then a turn. -/
  | delivering (x : α) (pass : Pass) (given left : List α) (owed : Nat)
      (hunder : Underway buffer.items bench pass [x] given left owed) :
      AtHand buffer bench [.signal (.next x), .pass pass]
  /-- A turn, once a delivery has returned. -/
  | hearing (pass : Pass) (given left : List α) (owed : Nat)
      (hunder : Underway buffer.items bench pass [] given left owed) :
      AtHand buffer bench [.left, .pass pass]
  /-- Nothing: items are left, and what was asked for is delivered. -/
  | stalled (given left : List α) (hterminated : 0 < terminations bench.trace)
      (hstalled : Stalled bench.drain left) (hitems : buffer.items = given ++ left)
      (hhistory : bench.probe.history = given.map .next)
      (hrequested : requested bench.trace = given.length) : AtHand buffer bench []
  /-- The terminal signal. -/
  | concluding (delivery : Delivery α Empty) (given : List α)
      (hterminal : delivery.signal.isTerminal = true) (hterminated : 0 < terminations bench.trace)
      (hawake : bench.drain.isStalled = false) (hhistory : bench.probe.history = given.map .next) :
      AtHand buffer bench [.signal delivery]

/-- The source has ended: its terminal signal was heard, or a check told the last pass to stop. -/
structure Over (bench : Bench α) : Prop where
  terminated : 0 < terminations bench.trace
  awake : bench.drain.isStalled = false
  ended : 0 < History.terminals bench.probe.history ∨ wasStopped bench.trace = true

/-- Where the source stands: it has not ended, or the engine has nothing left to do but to return. -/
inductive Stands (buffer : Buffer α) (bench : Bench α) (tasks : List (Task α)) : Prop
  | goingOn (hstopped : wasStopped bench.trace = false) (hhand : AtHand buffer bench tasks)
  | ended (hover : Over bench) (htasks : tasks = [] ∨ tasks = [.left])

/-- No terminal signal was heard by a subscriber that heard items only. -/
theorem terminals_map_next (given : List α) :
    History.terminals (given.map Signal.next) = 0 := by
  rw [History.terminals, List.countP_eq_zero]
  intro signal hsignal
  obtain ⟨x, -, rfl⟩ := List.mem_map.1 hsignal
  simp [Signal.isTerminal]

/-- As long as the source has not ended, no terminal signal was heard. -/
theorem AtHand.unfinished (h : AtHand buffer bench tasks) :
    History.terminals bench.probe.history = 0 := by
  cases h with
  | waiting _ _ _ hhistory => rw [hhistory]; rfl
  | passing _ given _ _ hunder => rw [hunder.history, terminals_map_next]
  | delivering _ _ given _ _ hunder => rw [hunder.history, terminals_map_next]
  | hearing _ given _ _ hunder => rw [hunder.history, terminals_map_next]
  | stalled given _ _ _ _ hhistory => rw [hhistory, terminals_map_next]
  | concluding _ given _ _ _ hhistory => rw [hhistory, terminals_map_next]

/-! ## Quiet tasks -/

/-- An event is quiet if it is no call and no check that stops a pass. -/
def isQuiet : Event α (Action α) (Result α) → Bool
  | .called _ => false
  | .checked stop => !stop
  | _ => true

/-- A quiet event leaves the account of a trace as it is. -/
theorem account_of_quiet (trace : List (Event α (Action α) (Result α)))
    {event : Event α (Action α) (Result α)} (h : isQuiet event = true) :
    terminations (trace ++ [event]) = terminations trace ∧
      requested (trace ++ [event]) = requested trace ∧
      called (trace ++ [event]) = called trace ∧
      wasStopped (trace ++ [event]) = wasStopped trace := by
  rw [terminations_concat, requested_concat, called_append, wasStopped, List.any_append]
  cases event <;> simp_all [isQuiet, terminates, asked, called, wasStopped]

/-- What the engine has to do stays the same when something quiet is noted. -/
theorem AtHand.quiet (h : AtHand buffer bench tasks)
    {event : Event α (Action α) (Result α)} (hquiet : isQuiet event = true) :
    AtHand buffer (bench.log event) tasks := by
  obtain ⟨hterminations, hrequested, -, -⟩ := account_of_quiet bench.trace hquiet
  have hunder : ∀ {pass coming given left owed},
      Underway buffer.items bench pass coming given left owed →
      Underway buffer.items (bench.log event) pass coming given left owed := fun h =>
    ⟨hterminations ▸ h.terminated, h.running, h.items, h.history, hrequested ▸ h.requested⟩
  cases h with
  | waiting hnone hbuffer hreads hhistory =>
      exact .waiting (hterminations ▸ hnone) hbuffer (hrequested ▸ hreads) hhistory
  | passing pass given left owed h => exact .passing pass given left owed (hunder h)
  | delivering x pass given left owed h => exact .delivering x pass given left owed (hunder h)
  | hearing pass given left owed h => exact .hearing pass given left owed (hunder h)
  | stalled given left hterminated hstalled hitems hhistory hasked =>
      exact .stalled given left (hterminations ▸ hterminated) hstalled hitems hhistory
        (hrequested ▸ hasked)
  | concluding delivery given hterminal hterminated hawake hhistory =>
      exact .concluding delivery given hterminal (hterminations ▸ hterminated) hawake hhistory

/-- An ended source stays ended when something quiet is noted. -/
theorem Over.quiet (h : Over bench) {event : Event α (Action α) (Result α)}
    (hquiet : isQuiet event = true) : Over (bench.log event) := by
  obtain ⟨hterminations, -, -, hstopped⟩ := account_of_quiet bench.trace hquiet
  exact ⟨hterminations ▸ h.terminated, h.awake, hstopped ▸ h.ended⟩

/-! ## Actions -/

/-- The bench when an action has begun. -/
abbrev acted (bench : Bench α) (action : Action α) : Bench α :=
  ((bench.log (.called action)).begin action).1

/-- The tasks that an action starts. -/
abbrev started (bench : Bench α) (action : Action α) : List (Task α) :=
  ((bench.log (.called action)).begin action).2.1

/-- An action is noted when it begins. -/
theorem trace_acted (bench : Bench α) (action : Action α) :
    (bench.acted action).trace = bench.trace ++ [.called action] :=
  trace_begin _ _

/-- An action is called when it begins. -/
theorem called_acted (bench : Bench α) (action : Action α) :
    called (bench.acted action).trace = called bench.trace ++ [action] := by
  rw [trace_acted, called_append]
  rfl

/-- An action has its direct effect on the drain. -/
theorem drain_acted (bench : Bench α) (action : Action α) :
    (bench.acted action).drain = bench.drain.touch action :=
  drain_begin _ _

/-- An action does not reach the subscriber. -/
theorem probe_acted (bench : Bench α) (action : Action α) :
    (bench.acted action).probe = bench.probe :=
  probe_begin _ _

/-- No action stops a pass. -/
theorem wasStopped_acted (bench : Bench α) (action : Action α) :
    wasStopped (bench.acted action).trace = wasStopped bench.trace := by
  rw [trace_acted, wasStopped, List.any_append]
  exact Bool.or_false _

/-- What was asked for when an action has begun. -/
theorem requested_acted (bench : Bench α) (action : Action α) :
    requested (bench.acted action).trace =
      requested bench.trace + asked (.called (α := α) action) := by
  rw [trace_acted, requested_concat]

/-- An action that does not terminate the source leaves it as it is. -/
theorem terminations_acted (bench : Bench α) {action : Action α}
    (h : ∀ ending, action ≠ .terminate ending) :
    terminations (bench.acted action).trace = terminations bench.trace := by
  rw [trace_acted, terminations_concat]
  cases action <;> simp_all [terminates]

/-- A late action does not terminate the source. -/
theorem Action.ne_terminate_of_late {action : Action α} (h : action.isLate = true)
    (ending : Ending) : action ≠ .terminate ending := by
  rintro rfl
  contradiction

/-- A late action leaves the pass under way. -/
theorem Underway.act (h : Underway items bench pass coming given left owed)
    (hlate : action.isLate = true) :
    Underway items (bench.acted action) pass coming given left
        (owed + asked (.called (α := α) action)) where
  terminated := by
    rw [terminations_acted bench (Action.ne_terminate_of_late hlate)]
    exact h.terminated
  running := by
    rw [drain_acted]
    exact h.running.touch hlate
  items := h.items
  history := by
    rw [probe_acted]
    exact h.history
  requested := by rw [requested_acted, h.requested, Nat.add_assoc]

/-- A late action starts nothing while a pass is under way. -/
theorem Underway.started_eq_nil (h : Underway items bench pass coming given left owed)
    (hlate : action.isLate = true) : bench.started action = [] :=
  begin_of_awake hlate h.running.awake

/-- A late action leaves an ended source ended. -/
theorem Over.act (h : Over bench) (hlate : action.isLate = true) :
    Over (bench.acted action) ∧ bench.started action = [] := by
  refine ⟨⟨?_, ?_, ?_⟩, begin_of_awake hlate h.awake⟩
  · rw [terminations_acted bench (Action.ne_terminate_of_late hlate)]
    exact h.terminated
  · rw [drain_acted]
    exact isStalled_touch hlate h.awake
  · rw [probe_acted, wasStopped_acted]
    exact h.ended

/-- A late action on a stalled drain: a request of something starts a pass, and any other action
leaves the drain stalled. -/
theorem act_of_stalled (hlate : action.isLate = true)
    (hterminated : 0 < terminations bench.trace) (hstalled : Stalled bench.drain left)
    (hitems : buffer.items = given ++ left) (hsize : buffer.items.length ≤ Demand.unbounded.toNat)
    (hhistory : bench.probe.history = given.map .next)
    (hrequested : requested bench.trace = given.length) :
    AtHand buffer (bench.acted action) (bench.started action) := by
  have hterminations := terminations_acted bench (Action.ne_terminate_of_late hlate)
  have hprobe := probe_acted bench action
  have hasked := requested_acted bench action
  have hdrain := drain_acted bench action
  rw [← hterminations] at hterminated
  rw [← hprobe] at hhistory
  have hquiet : bench.started action = [] → asked (.called (α := α) action) = 0 →
      Stalled (bench.drain.touch action) left →
      AtHand buffer (bench.acted action) (bench.started action) := by
    intro hstarted hnothing hstill
    rw [hstarted]
    rw [hnothing, hrequested] at hasked
    exact .stalled given left hterminated (hdrain ▸ hstill) hitems hhistory hasked
  cases action with
  | request amount ending =>
      by_cases hamount : amount = 0
      · subst hamount
        refine hquiet ?_ rfl ⟨hstalled.items, hstalled.left_ne_nil, hstalled.reads.add 0⟩
        exact congrArg (fun pass : Option Pass => pass.toList.map Task.pass)
          (passOnRequest_zero ending)
      · have hleft : left.length ≤ Demand.unbounded.toNat := by
          rw [hitems, List.length_append] at hsize
          exact Nat.le_trans (Nat.le_add_left _ _) hsize
        obtain ⟨pass, hpass, -, hrun⟩ := running_of_request hstalled hleft hamount ending
        have hstarted : bench.started (.request amount ending) = [.pass pass] :=
          congrArg (fun pass : Option Pass => pass.toList.map Task.pass) hpass
        rw [hstarted]
        refine .passing pass given left amount.toNat
          ⟨hterminated, hdrain ▸ hrun, by rw [List.append_nil]; exact hitems, hhistory, ?_⟩
        rw [hasked, hrequested]
        rfl
  | isEmpty | cancel | fail failure =>
      exact hquiet rfl rfl ⟨hstalled.items, hstalled.left_ne_nil, hstalled.reads⟩
  | offer x | poll | terminate ending => contradiction

/-- A late action leaves the engine something to do only where a request wakes a stalled drain. -/
theorem AtHand.late (h : AtHand buffer bench tasks) (hterminated : 0 < terminations bench.trace)
    (hlate : action.isLate = true) (hsize : buffer.items.length ≤ Demand.unbounded.toNat) :
    AtHand buffer (bench.acted action) (bench.started action ++ tasks) := by
  cases h with
  | waiting hnone => exact absurd hnone (Nat.pos_iff_ne_zero.1 hterminated)
  | passing pass given left owed h =>
      rw [h.started_eq_nil hlate]
      exact .passing pass given left _ (h.act hlate)
  | delivering x pass given left owed h =>
      rw [h.started_eq_nil hlate]
      exact .delivering x pass given left _ (h.act hlate)
  | hearing pass given left owed h =>
      rw [h.started_eq_nil hlate]
      exact .hearing pass given left _ (h.act hlate)
  | stalled given left _ hstalled hitems hhistory hrequested =>
      rw [List.append_nil]
      exact act_of_stalled hlate hterminated hstalled hitems hsize hhistory hrequested
  | concluding delivery given hterminal _ hawake hhistory =>
      have hstarted : bench.started action = [] := begin_of_awake hlate hawake
      rw [hstarted]
      refine .concluding delivery given hterminal ?_ ?_ ?_
      · rw [terminations_acted bench (Action.ne_terminate_of_late hlate)]
        exact hterminated
      · rw [drain_acted]
        exact isStalled_touch hlate hawake
      · rw [probe_acted]
        exact hhistory

/-- Termination sets the engine to work, or has it give the terminal signal at once. -/
theorem act_of_termination (ending : Ending)
    (hsize : bench.drain.buffer.items.length ≤ Demand.unbounded.toNat)
    (hreads : bench.drain.register.Reads false (requested bench.trace))
    (hhistory : bench.probe.history = []) :
    AtHand bench.drain.buffer (bench.acted (.terminate ending))
      (bench.started (.terminate ending)) := by
  have hterminated : 0 < terminations (bench.acted (.terminate ending)).trace := by
    rw [trace_acted, terminations_concat]
    exact Nat.succ_pos _
  have hprobe := probe_acted bench (.terminate ending)
  have hdrain : (bench.acted (.terminate ending)).drain = bench.drain := drain_acted _ _
  have hasked := requested_acted bench (.terminate ending)
  rw [← hprobe] at hhistory
  rcases hitems : bench.drain.buffer.items with _ | ⟨x, left⟩
  · have hempty := Buffer.isEmpty_iff.2 hitems
    have hstarted : bench.started (.terminate ending) =
        [.signal (bench.drain.conclusion ending)] := by
      simp [started, begin, passOnTermination, log, hempty]
    rw [hstarted]
    exact .concluding _ [] (isTerminal_conclusion _ _) hterminated
      (hdrain ▸ isStalled_of_reads hreads) hhistory
  · obtain ⟨pass, hpass, -, hrun⟩ := running_of_termination hitems hreads (hitems ▸ hsize) ending
    have hstarted : bench.started (.terminate ending) = [.pass pass] := by
      simp [started, begin, log, hpass]
    rw [hstarted]
    refine .passing pass [] (x :: left) (requested bench.trace)
      ⟨hterminated, hdrain ▸ hrun, hitems, hhistory, ?_⟩
    rw [hasked]
    exact (Nat.zero_add _).symm

/-- An action before termination only prepares the drain, unless it terminates the source. -/
theorem act_of_waiting (hpoll : action ≠ .poll) (hnone : terminations bench.trace = 0)
    (hbuffer : bench.drain.buffer = filled buffer bench.trace)
    (hreads : bench.drain.register.Reads false (requested bench.trace))
    (hhistory : bench.probe.history = [])
    (hsize : (filled buffer bench.trace).items.length ≤ Demand.unbounded.toNat) :
    AtHand (filled buffer (bench.acted action).trace) (bench.acted action)
      (bench.started action) := by
  have hprobe := probe_acted bench action
  have hdrain := drain_acted bench action
  have htrace := trace_acted bench action
  -- Whatever neither terminates the source nor takes an item leaves the bench waiting.
  have hstill : bench.started action = [] → (∀ ending, action ≠ .terminate ending) →
      (bench.drain.touch action).buffer = filled buffer (bench.trace ++ [.called action]) →
      (bench.drain.touch action).register.Reads false
        (requested bench.trace + asked (.called (α := α) action)) →
      AtHand (filled buffer (bench.acted action).trace) (bench.acted action)
        (bench.started action) := by
    intro hstarted hgoes hfilled hread
    rw [hstarted]
    refine .waiting ?_ (by rw [htrace, hdrain, hfilled]) ?_ (by rw [hprobe, hhistory])
    · rw [terminations_acted bench hgoes, hnone]
    · rw [hdrain, requested_acted]
      exact hread
  cases action with
  | poll => exact absurd rfl hpoll
  | terminate ending =>
      have hfilled : filled buffer (bench.acted (.terminate ending)).trace =
          bench.drain.buffer := by
        rw [hbuffer, htrace, filled, called_append]
        simp [called, offered, filled]
      rw [hfilled]
      exact act_of_termination ending (hbuffer ▸ hsize) hreads hhistory
  | offer x =>
      have hfilled : filled buffer (bench.trace ++ [.called (.offer x)]) =
          (bench.drain.buffer.offer? x).getD bench.drain.buffer := by
        rw [hbuffer, filled, filled, called_append, offered, List.filterMap_append]
        exact Buffer.offerAll_concat buffer _ x
      rw [hfilled] at hstill
      simp only [touch] at hstill
      cases hoffer : bench.drain.buffer.offer? x with
      | none =>
          refine hstill ?_ (by simp) (by rw [hoffer]; rfl) (by rw [hoffer]; exact hreads)
          simp [started, begin, log, hoffer]
      | some next =>
          refine hstill ?_ (by simp) (by rw [hoffer]; rfl) (by rw [hoffer]; exact hreads)
          simp [started, begin, log, hoffer]
  | request amount ending =>
      refine hstill (begin_of_awake rfl (isStalled_of_reads hreads)) (by simp) ?_
        (hreads.add amount)
      rw [filled_concat_of_late buffer bench.trace rfl]
      exact hbuffer
  | isEmpty | cancel | fail failure =>
      refine hstill rfl (by simp) ?_ hreads
      rw [filled_concat_of_late buffer bench.trace rfl]
      exact hbuffer

/-- An action that keeps the rules keeps the account. -/
theorem Stands.act (h : Stands (filled buffer bench.trace) bench tasks)
    (hrules : keepsRules (called (bench.acted action).trace) = true)
    (hsize : (filled buffer bench.trace).items.length ≤ Demand.unbounded.toNat) :
    Stands (filled buffer (bench.acted action).trace) (bench.acted action)
      (bench.started action ++ tasks) := by
  rw [called_acted] at hrules
  obtain ⟨-, hpoll, hlate⟩ := keepsRules_concat hrules
  rcases Nat.eq_zero_or_pos (terminations bench.trace) with hnone | hterminated
  · rcases h with ⟨hstopped, hhand⟩ | ⟨hover, -⟩
    · refine .goingOn ((wasStopped_acted bench action).trans hstopped) ?_
      have hopen : ∀ {pass coming given left owed},
          ¬ Underway (filled buffer bench.trace).items bench pass coming given left owed :=
        fun h => absurd hnone (Nat.pos_iff_ne_zero.1 h.terminated)
      cases hhand with
      | waiting _ hbuffer hreads hhistory =>
          rw [List.append_nil]
          exact act_of_waiting hpoll hnone hbuffer hreads hhistory hsize
      | passing _ _ _ _ h => exact absurd h hopen
      | delivering _ _ _ _ _ h => exact absurd h hopen
      | hearing _ _ _ _ h => exact absurd h hopen
      | stalled _ _ h => exact absurd hnone (Nat.pos_iff_ne_zero.1 h)
      | concluding _ _ _ h => exact absurd hnone (Nat.pos_iff_ne_zero.1 h)
    · exact absurd hnone (Nat.pos_iff_ne_zero.1 hover.terminated)
  · obtain ⟨ending, hmem⟩ := terminations_pos_iff.1 hterminated
    have hlate : action.isLate = true := hlate ending hmem
    rw [trace_acted, filled_concat_of_late buffer bench.trace hlate]
    rcases h with ⟨hstopped, hhand⟩ | ⟨hover, htasks⟩
    · exact .goingOn ((wasStopped_acted bench action).trans hstopped)
        (hhand.late hterminated hlate hsize)
    · obtain ⟨hnext, hstarted⟩ := hover.act hlate
      exact .ended hnext (by rw [hstarted]; exact htasks)

/-! ## Turns and signals -/

/-- The bench after a turn of a pass, with the register and the buffer that the turn leaves. -/
theorem turn_eq (predicate : Predicate) {pass : Pass} {next : Drain α} {move : PassMove α}
    (h : bench.drain.advance pass (bench.stops predicate) = (next, move)) :
    bench.turn predicate pass =
      (({ bench with drain := next, checks := bench.checks + 1 } : Bench α).log
        (.checked (bench.stops predicate)), follow next pass.ending move) := by
  simp only [turn, h]

/-- A turn that is told to stop ends the source. -/
theorem Underway.stop (h : Underway items bench pass [] given left owed) {predicate : Predicate}
    (hstop : bench.stops predicate = true) :
    Over (bench.turn predicate pass).1 ∧ (bench.turn predicate pass).2 = [] := by
  have hadvance : bench.drain.advance pass (bench.stops predicate) = (bench.drain, .stop) := by
    rw [hstop, advance_stopped]
  rw [turn_eq predicate hadvance]
  refine ⟨⟨?_, h.running.awake, .inr ?_⟩, rfl⟩
  · refine Nat.lt_of_lt_of_le h.terminated ?_
    exact (List.sublist_append_left bench.trace _).countP_le
  · simp [log, wasStopped, hstop]

/-- A turn that is not told to stop goes on with what is owed, and stops with a settled register
when nothing is owed. -/
theorem Underway.turn (h : Underway buffer.items bench pass [] given left owed)
    {predicate : Predicate} (hgo : bench.stops predicate = false) :
    AtHand buffer (bench.turn predicate pass).1 (bench.turn predicate pass).2 := by
  have hquiet : isQuiet (Event.checked (bench.stops predicate) : Event α (Action α) (Result α)) =
      true := by
    rw [hgo]
    rfl
  obtain ⟨hterminations, hrequested, -, -⟩ := account_of_quiet bench.trace hquiet
  have hterminated := h.terminated
  have hasked := h.requested
  rw [← hterminations] at hterminated
  rw [List.length_nil, Nat.add_zero, ← hrequested] at hasked
  have hitems := h.items
  rw [List.append_nil] at hitems
  cases left with
  | nil =>
      have hadvance := h.running.advance_nil
      rw [← hgo] at hadvance
      rw [turn_eq predicate hadvance]
      exact .concluding _ given (isTerminal_conclusion _ _) hterminated h.running.awake h.history
  | cons x left =>
      cases owed with
      | zero =>
          obtain ⟨next, hadvance, hstalled⟩ := h.running.advance_cons_zero
          rw [← hgo] at hadvance
          rw [turn_eq predicate hadvance]
          exact .stalled given (x :: left) hterminated hstalled hitems h.history hasked
      | succ owed =>
          by_cases hgoal : pass.emitted = pass.goal
          · obtain ⟨renewed, hadvance, -, -, hrun⟩ := h.running.advance_again hgoal
            rw [← hgo] at hadvance
            rw [turn_eq predicate hadvance]
            exact .passing renewed given (x :: left) (owed + 1)
              ⟨hterminated, hrun, h.items, h.history, by rw [List.length_nil]; exact hasked⟩
          · obtain ⟨next, less, hless, hadvance, hrun⟩ := h.running.advance_deliver hgoal
            cases hless
            rw [← hgo] at hadvance
            rw [turn_eq predicate hadvance]
            refine .delivering x pass.counted given left owed
              ⟨hterminated, hrun, by rw [hitems, List.append_cons], h.history, ?_⟩
            rw [List.length_singleton, Nat.add_assoc, Nat.add_comm 1]
            exact hasked

/-- A pass that is next takes its turn. -/
theorem Stands.turn {rest : List (Task α)} (h : Stands buffer bench (.pass pass :: rest))
    (predicate : Predicate) :
    Stands buffer (bench.turn predicate pass).1 ((bench.turn predicate pass).2 ++ rest) := by
  rcases h with ⟨hstopped, hhand⟩ | ⟨-, htasks⟩
  · cases hhand with
    | passing _ given left owed hunder =>
        rw [List.append_nil]
        cases hstop : bench.stops predicate with
        | true =>
            obtain ⟨hover, hnone⟩ := hunder.stop hstop
            exact .ended hover (.inl hnone)
        | false =>
            refine .goingOn ?_ (hunder.turn hstop)
            have hchecked : wasStopped (bench.turn predicate pass).1.trace =
                (wasStopped bench.trace || bench.stops predicate) := by
              simp [Bench.turn, log, wasStopped]
            rw [hchecked, hstopped, hstop]
            rfl
  · rcases htasks with htasks | htasks <;> cases htasks

/-- A signal that is next is heard. -/
theorem Stands.deliver {delivery : Delivery α Empty} {rest : List (Task α)}
    (h : Stands buffer bench (.signal delivery :: rest)) :
    Stands buffer (bench.deliver delivery).1 (.left :: rest) := by
  have hquiet : isQuiet (Event.heard bench.probe.name delivery.signal :
      Event α (Action α) (Result α)) = true := rfl
  obtain ⟨hterminations, hrequested, -, hwas⟩ := account_of_quiet bench.trace hquiet
  have hhistory : (bench.deliver delivery).1.probe.history =
      bench.probe.history ++ [delivery.signal] := rfl
  rcases h with ⟨hstopped, hhand⟩ | ⟨-, htasks⟩
  · cases hhand with
    | delivering x pass given left owed h =>
        refine .goingOn (hwas.trans hstopped) (.hearing pass (given ++ [x]) left owed
          ⟨hterminations ▸ h.terminated, h.running, ?_, ?_, ?_⟩)
        · rw [List.append_nil]
          exact h.items
        · rw [hhistory, h.history, List.map_append]
          rfl
        · rw [List.length_append, List.length_nil, Nat.add_zero]
          exact hrequested.trans h.requested
    | concluding _ given hterminal hterminated hawake hheard =>
        refine .ended ⟨hterminations ▸ hterminated, hawake, .inl ?_⟩ (.inr rfl)
        rw [hhistory, History.terminals_append]
        refine Nat.lt_of_lt_of_le ?_ (Nat.le_add_left _ _)
        simp [History.terminals, hterminal]
  · rcases htasks with htasks | htasks <;> cases htasks

/-- Once a signal has returned the engine goes on with its pass, or has nothing left to do. -/
theorem Stands.returned {rest : List (Task α)} (h : Stands buffer bench (.left :: rest)) :
    Stands buffer bench rest := by
  rcases h with ⟨hstopped, hhand⟩ | ⟨hover, htasks⟩
  · cases hhand with
    | hearing pass given left owed hunder =>
        exact .goingOn hstopped (.passing pass given left owed hunder)
  · rcases htasks with htasks | htasks <;> cases htasks
    exact .ended hover (.inl rfl)

/-! ## Runs -/

/-- As long as the rules are kept and no more items are offered than can be asked for, the source
stands somewhere. -/
def Accounted (buffer : Buffer α) (agenda : Agenda (Bench α) (Task α)) : Prop :=
  keepsRules (called agenda.state.trace) = true →
    (filled buffer agenda.state.trace).items.length ≤ Demand.unbounded.toNat →
      Stands (filled buffer agenda.state.trace) agenda.state (agenda.todo.filter Task.isEngine)

/-- Something quiet keeps the account. -/
theorem Stands.quiet (h : Stands buffer bench tasks) {event : Event α (Action α) (Result α)}
    (hquiet : isQuiet event = true) : Stands buffer (bench.log event) tasks := by
  obtain ⟨-, -, -, hwas⟩ := account_of_quiet bench.trace hquiet
  rcases h with ⟨hstopped, hhand⟩ | ⟨hover, htasks⟩
  · exact .goingOn (hwas.trans hstopped) (hhand.quiet hquiet)
  · exact .ended (hover.quiet hquiet) htasks

/-- An action offers at most one more item. -/
theorem length_filled_le_acted (buffer : Buffer α) (bench : Bench α) (action : Action α) :
    (filled buffer bench.trace).items.length ≤
      (filled buffer (bench.acted action).trace).items.length := by
  rw [trace_acted, filled, filled, called_append]
  cases action with
  | offer x =>
      rw [offered, offered, List.filterMap_append]
      exact Buffer.length_le_offerAll_concat buffer _ x
  | _ => simp [called, offered]

/-- Every task keeps the account. -/
theorem accounted_step (predicate : Predicate) (agenda : Agenda (Bench α) (Task α))
    (h : Accounted buffer agenda) : Accounted buffer (agenda.step (perform predicate)) := by
  rcases agenda with ⟨bench, _ | ⟨task, rest⟩⟩
  · exact h
  rw [Agenda.step_cons]
  intro hrules hsize
  rw [List.filter_append]
  -- The account of a task that calls nothing is that of the trace before it.
  have hquiet : called (perform predicate task bench).1.trace = called bench.trace →
      Stands (filled buffer bench.trace) bench ((task :: rest).filter Task.isEngine) ∧
        filled buffer (perform predicate task bench).1.trace = filled buffer bench.trace := by
    intro hcalled
    have hfilled : filled buffer (perform predicate task bench).1.trace =
        filled buffer bench.trace := by rw [filled, hcalled, ← filled]
    exact ⟨h (hcalled ▸ hrules) (hfilled ▸ hsize), hfilled⟩
  cases task with
  | act action =>
      have hadded : (perform predicate (.act action) bench).2.filter Task.isEngine =
          bench.started action := by
        rw [perform, List.filter_append, isEngine_of_begin]
        exact List.append_nil _
      have hbefore : keepsRules (called bench.trace) = true := by
        have hkept : keepsRules (called bench.trace ++ [action]) = true :=
          called_acted bench action ▸ hrules
        exact (keepsRules_concat hkept).1
      have hless := Nat.le_trans (length_filled_le_acted buffer bench action) hsize
      rw [hadded]
      exact (h hbefore hless).act hrules hless
  | ret action result =>
      obtain ⟨hnow, hfilled⟩ := hquiet (by simp [perform, log, called])
      rw [hfilled]
      exact hnow.quiet rfl
  | pass pass =>
      obtain ⟨hnow, hfilled⟩ := hquiet (by simp [perform, turn, log, called])
      have hadded : (perform predicate (.pass pass) bench).2.filter Task.isEngine =
          (bench.turn predicate pass).2 := isEngine_of_follow _ _ _
      rw [hfilled, hadded]
      exact hnow.turn predicate
  | signal delivery =>
      obtain ⟨hnow, hfilled⟩ := hquiet (by simp [perform, deliver, log, called])
      have hadded : (perform predicate (.signal delivery) bench).2.filter Task.isEngine =
          [.left] := isEngine_of_deliver bench delivery
      rw [hfilled, hadded]
      exact Stands.deliver hnow
  | left =>
      obtain ⟨hnow, hfilled⟩ := hquiet rfl
      rw [hfilled]
      exact hnow.returned

/-- The account is kept at every moment of a run. -/
theorem accounted_moment (predicate : Predicate) (buffer : Buffer α) (slot : FailureSlot)
    (name : String) (react : Reaction (Action α)) (actions : List (Action α)) (fuel : Nat) :
    Accounted buffer (moment predicate buffer slot name react actions fuel) := by
  refine Agenda.invariant_run (accounted_step predicate) fuel fun _ _ => ?_
  have hactions : (actions.map Task.act).filter Task.isEngine = [] := by
    simp [Task.isEngine]
  rw [hactions]
  exact .goingOn rfl (.waiting rfl rfl .fresh rfl)

/-- No call of the engine is under way: no pass, no signal, and none that has yet to return. -/
def BetweenCalls (agenda : Agenda (Bench α) (Task α)) : Prop :=
  agenda.todo.filter Task.isEngine = []

/-- Whether a call of the engine is under way can be decided. -/
instance (agenda : Agenda (Bench α) (Task α)) : Decidable (BetweenCalls agenda) :=
  decidable_of_iff ((agenda.todo.filter Task.isEngine).isEmpty = true) List.isEmpty_iff

/-- Once the source has ended its register does not say "terminated, nothing outstanding". -/
theorem Stands.state_ne (h : Stands buffer bench tasks)
    (hended : 0 < History.terminals bench.probe.history ∨ wasStopped bench.trace = true) :
    bench.drain.register.state ≠ .terminal 0 := by
  rw [ne_eq, Register.state_eq_terminal_zero_iff, ← ne_eq, ← isStalled_eq_false_iff]
  cases h with
  | ended hover => exact hover.awake
  | goingOn hstopped hhand =>
      rw [hhand.unfinished, hstopped] at hended
      simp at hended

/-- The register between the calls of the engine, in every run that keeps the calling rules, under
any requests and any answers of the predicate. Before termination it holds all that was asked for, up
to the unbounded amount, and nothing was delivered. After termination, as long as no terminal signal
was heard and no check told a pass to stop, it says "terminated, nothing outstanding", items are
left, and exactly as many of them were delivered as were asked for. After a terminal signal or a
check that told a pass to stop, it never says so again. -/
theorem register_between_calls (predicate : Predicate) (buffer : Buffer α) (slot : FailureSlot)
    (name : String) (react : Reaction (Action α)) (actions : List (Action α)) (fuel : Nat)
    (hrules : keepsRules
      (called (moment predicate buffer slot name react actions fuel).state.trace) = true)
    (hsize : (filled buffer
      (moment predicate buffer slot name react actions fuel).state.trace).items.length < 2 ^ 63) :
    let now := moment predicate buffer slot name react actions fuel
    let bench := now.state
    let items := (filled buffer bench.trace).items
    let asked := requested bench.trace
    (BetweenCalls now →
        (terminations bench.trace = 0 →
          bench.drain.register.state =
              .active (UInt64.ofNat (min asked Demand.unbounded.toNat)) ∧
            bench.probe.history = []) ∧
        (0 < terminations bench.trace → History.terminals bench.probe.history = 0 →
          wasStopped bench.trace = false →
            bench.drain.register.state = .terminal 0 ∧ bench.drain.buffer.isEmpty = false ∧
              asked < items.length ∧ bench.probe.history = (items.take asked).map .next ∧
              bench.drain.buffer.items = items.drop asked)) ∧
      (0 < History.terminals bench.probe.history ∨ wasStopped bench.trace = true →
        bench.drain.register.state ≠ .terminal 0) := by
  have hlimit : (filled buffer
      (moment predicate buffer slot name react actions fuel).state.trace).items.length ≤
        Demand.unbounded.toNat := by
    rw [Demand.toNat_unbounded]
    omega
  have hstands := accounted_moment predicate buffer slot name react actions fuel hrules hlimit
  generalize moment predicate buffer slot name react actions fuel = now at hstands ⊢
  obtain ⟨bench, todo⟩ := now
  intro now bench items asked
  refine ⟨fun hbetween => ?_, hstands.state_ne⟩
  rw [show todo.filter Task.isEngine = [] from hbetween] at hstands
  cases hstands with
  | ended hover =>
      refine ⟨fun hnone => absurd hnone (Nat.pos_iff_ne_zero.1 hover.terminated), ?_⟩
      intro _ hopen hstopped
      have hended := hover.ended
      rw [hopen, hstopped] at hended
      simp at hended
  | goingOn hstopped hhand =>
      cases hhand with
      | waiting hnone hbuffer hreads hhistory =>
          refine ⟨fun _ => ⟨hreads.state_of_active, hhistory⟩, fun hterminated => ?_⟩
          exact absurd hnone (Nat.pos_iff_ne_zero.1 hterminated)
      | stalled given left hterminated hstalled hitems hhistory hrequested =>
          refine ⟨fun hnone => absurd hnone (Nat.pos_iff_ne_zero.1 hterminated), ?_⟩
          intro _ _ _
          have hsplit : items = given ++ left := hitems
          have hasked : asked = given.length := hrequested
          have hleft := List.length_pos_iff.2 hstalled.left_ne_nil
          refine ⟨?_, ?_, ?_, ?_, ?_⟩
          · rw [Register.state_eq_terminal_zero_iff, hstalled.reads.eq_terminalBit_iff]
            exact ⟨rfl, rfl⟩
          · rw [Bool.eq_false_iff, ne_eq, Buffer.isEmpty_iff, hstalled.items]
            exact hstalled.left_ne_nil
          · rw [hsplit, hasked, List.length_append]
            omega
          · rw [hsplit, hasked, List.take_left]
            exact hhistory
          · rw [hsplit, hasked, List.drop_left]
            exact hstalled.items

/-- Three items of which two are asked for, one of them from inside the delivery of the other; the
drain then stalls. Two requests of 63 bits and more follow, and the seventh check tells the pass of
the first of them to stop. -/
theorem register_between_calls_of_three_items :
    let predicate : Predicate := fun checks _ => checks = 6
    let react : Reaction (Action Nat) := fun kind number =>
      if kind = .next ∧ number = 0 then [.request 1 .completion] else []
    let actions : List (Action Nat) :=
      [.offer 1, .request 1 .completion, .offer 2, .offer 3, .terminate .completion,
        .request 0x8000000000000000 .completion, .request 0xffffffffffffffff .completion]
    let now := moment predicate {} {} "below" react actions
    (∀ fuel ≤ 29, keepsRules (called (now fuel).state.trace) = true ∧
        (filled {} (now fuel).state.trace).items.length < 2 ^ 63) ∧
      (BetweenCalls (now 8) ∧ terminations (now 8).state.trace = 0 ∧
        (now 8).state.drain.register.state = .active 1) ∧
      (BetweenCalls (now 20) ∧ History.terminals (now 20).state.probe.history = 0 ∧
        (now 20).state.drain.register.state = .terminal 0 ∧
        (now 20).state.drain.buffer.items = [3]) ∧
      wasStopped (now 29).state.trace = true ∧
        (now 29).state.drain.register.state ≠ .terminal 0 := by
  intro predicate react actions now
  have hkept : ∀ fuel ≤ 29, keepsRules (called (now fuel).state.trace) = true ∧
      (filled {} (now fuel).state.trace).items.length < 2 ^ 63 := by decide +kernel
  have hlaw := fun fuel (hfuel : fuel ≤ 29) =>
    register_between_calls predicate {} {} "below" react actions fuel (hkept fuel hfuel).1
      (hkept fuel hfuel).2
  have hbefore : BetweenCalls (now 8) ∧ terminations (now 8).state.trace = 0 := by decide +kernel
  have hbetween : BetweenCalls (now 20) := by decide +kernel
  have hopen : 0 < terminations (now 20).state.trace ∧
      History.terminals (now 20).state.probe.history = 0 ∧
      wasStopped (now 20).state.trace = false := by decide +kernel
  have hstopped : wasStopped (now 29).state.trace = true := by decide +kernel
  obtain ⟨hactive, -⟩ := ((hlaw 8 (by decide)).1 hbefore.1).1 hbefore.2
  obtain ⟨hstate, -, -, -, hitems⟩ :=
    ((hlaw 20 (by decide)).1 hbetween).2 hopen.1 hopen.2.1 hopen.2.2
  refine ⟨hkept, ⟨hbefore.1, hbefore.2, ?_⟩, ⟨hbetween, hopen.2.1, hstate, ?_⟩, hstopped,
    (hlaw 29 (by decide)).2 (.inr hstopped)⟩
  · exact hactive.trans (by decide +kernel)
  · exact hitems.trans (by decide +kernel)

end Bench

end Drain

end Backpressure
