import Backpressure.Proofs.Drain.Words

/-!
# Passes come to an end

A pass looks at the register again whenever its goal is met, and goes on when more was asked for in
the meantime. It ends nevertheless when nothing is offered while it is under way, whatever is asked
for from inside its deliveries. A turn that looks at the register again finds a goal above what was
emitted, so that the next turn delivers or ends the pass, and every delivery takes an item out of
the buffer.

What is left of a pass is measured by two numbers. The first one counts the items of the buffer and
the signals to come, and every turn but one that looks at the register again lowers it. The second
one counts the reactions that have still to return, and the looks at the register. No other pass can
be started meanwhile, so that nothing else comes in front of the tasks behind the pass.

Main results:

- Theorem `ahead_step` shows that every task leaves less of a pass, and no more items to deliver.
- Theorem `exists_end_of_pass` ends a pass, and counts its deliveries.
- Theorem `words_of_pass` states what the words of a pass are compared for: deliveries, settlements,
  new looks at the register, and the end of the pass.
-/

namespace Backpressure.Drain

variable {α : Type}

/-! ## What is left of a pass -/

/-- What a task counts beside the items of the buffer: signals to come, and the one that a pass may
end with. A delivery is worth less than the item that it takes. -/
def Task.weight : Task α → Nat
  | .pass _ => 2
  | .signal _ => 1
  | .act _ | .ret _ _ | .left => 0

/-- The steps of a task that take no item and give no signal. -/
def Task.steps : Task α → Nat
  | .act _ => 2
  | .ret _ _ | .left => 1
  | .pass going => if going.emitted = going.goal then 1 else 0
  | .signal _ => 0

/-- No action counts beside the items of the buffer. -/
theorem weight_map_act (actions : List (Action α)) :
    ((actions.map Task.act).map Task.weight).sum = 0 := by
  induction actions with
  | nil => rfl
  | cons action actions ih => simpa [Task.weight] using ih

/-- An action that offers nothing adds nothing to the buffer. -/
theorem length_touch_le (drain : Drain α) {action : Action α} (h : ∀ x, action ≠ .offer x) :
    (drain.touch action).buffer.items.length ≤ drain.buffer.items.length := by
  cases action with
  | offer x => exact absurd rfl (h x)
  | poll =>
      simp only [touch]
      split
      next x buffer hpoll =>
        rw [Buffer.items_poll? hpoll, List.length_cons]
        exact Nat.le_succ _
      next => exact Nat.le_refl _
  | request | terminate | isEmpty | cancel | fail => exact Nat.le_of_eq rfl

namespace Bench

variable {bench : Bench α} {limit : Nat} {front rest : List (Task α)}

/-- What is left of a pass: first the items and the signals, then the steps in between. -/
def remaining (agenda : Agenda (Bench α) (Task α)) : Nat × Nat :=
  (2 * agenda.state.drain.buffer.items.length + (agenda.todo.map Task.weight).sum,
    (agenda.todo.map Task.steps).sum)

/-- The items that were heard, that are on their way, and that are in the buffer. -/
def stock (agenda : Agenda (Bench α) (Task α)) : Nat :=
  (History.values agenda.state.probe.history).length + (coming agenda.todo).length +
    agenda.state.drain.buffer.items.length

/-- A signal that is still to be heard brings the item that it shows when it is heard. -/
theorem length_coming_signal (delivery : Delivery α Empty) (rest : List (Task α)) :
    (coming (.signal delivery :: rest)).length =
      (History.values [delivery.signal]).length + (coming rest).length := by
  cases delivery with
  | next x => exact Nat.add_comm _ 1
  | subscribe | error | complete => exact (Nat.zero_add _).symm

/-- The tasks of a pass, in front of others: no more than so many items are heard in the end, and
the last of the tasks is the engine's own. -/
structure Ahead (limit : Nat) (agenda : Agenda (Bench α) (Task α)) : Prop where
  stock_le : stock agenda ≤ limit
  last : ∀ task ∈ agenda.todo.getLast?, task.isEngine = true

/-- A task leaves less of a pass than there was, and no more items. -/
structure Advances (limit : Nat) (before after : Agenda (Bench α) (Task α)) : Prop where
  ahead : Ahead limit after
  less : Prod.Lex (· < ·) (· < ·) (remaining after) (remaining before)

/-- The engine has something to do behind a task that is not its own. -/
theorem Ahead.exists_engine {task : Task α} (h : Ahead limit ⟨bench, task :: front⟩)
    (htask : task.isEngine = false) : ∃ other ∈ front, other.isEngine = true := by
  rcases List.eq_nil_or_concat front with rfl | ⟨earlier, other, rfl⟩
  · exact absurd (h.last task rfl) (by simp [htask])
  · refine ⟨other, by simp, h.last other ?_⟩
    rw [List.concat_eq_append, ← List.cons_append, List.getLast?_concat]
    rfl

/-- The last of the tasks stays the engine's own when others are added in front. -/
theorem Ahead.last_append {task : Task α} {added : List (Task α)}
    (h : Ahead limit ⟨bench, task :: front⟩)
    (hadded : task.isEngine = true → ∀ other ∈ added.getLast?, other.isEngine = true) :
    ∀ other ∈ (added ++ front).getLast?, other.isEngine = true := by
  rcases front with _ | ⟨first, later⟩
  · rw [List.append_nil]
    exact hadded (h.last task rfl)
  · have hlast : (added ++ first :: later).getLast? = (task :: first :: later).getLast? := by
      simp [List.getLast?_append, List.getLast?_cons]
    rw [hlast]
    exact h.last

/-! ## Steps -/

/-- While the engine has something to do, an action starts nothing unless it terminates the
source. -/
theorem started_of_awake {action : Action α} (hawake : bench.drain.isStalled = false)
    (h : ∀ ending, action ≠ .terminate ending) : bench.started action = [] := by
  cases action with
  | offer x | poll =>
      simp only [started, begin]
      split <;> rfl
  | terminate ending => exact absurd rfl (h ending)
  | request | isEmpty | cancel | fail => exact begin_of_awake rfl hawake

/-- Behind an action that belongs to a pass the engine has something to do, and the source does not
terminate again. -/
theorem Ahead.act {action : Action α} (h : Ahead limit ⟨bench, .act action :: front⟩)
    (hengaged : Engaged bench ((front ++ rest).filter Task.isEngine))
    (honce : terminations (bench.acted action).trace ≤ 1) :
    bench.drain.isStalled = false ∧ ∀ ending, action ≠ .terminate ending := by
  obtain ⟨other, hother, hengine⟩ := h.exists_engine rfl
  have hmem : other ∈ (front ++ rest).filter Task.isEngine :=
    List.mem_filter.2 ⟨List.mem_append_left _ hother, hengine⟩
  refine ⟨hengaged.awake (List.ne_nil_of_mem hmem), ?_⟩
  rintro ending rfl
  have hterminated := hengaged.terminated (List.ne_nil_of_mem hmem)
  rw [trace_acted, terminations_concat] at honce
  simp only [terminates, if_pos] at honce
  omega

/-- An action of a pass that offers nothing leaves less of it. -/
theorem advances_act (predicate : Predicate) {action : Action α}
    (h : Ahead limit ⟨bench, .act action :: front⟩)
    (hengaged : Engaged bench ((front ++ rest).filter Task.isEngine))
    (honce : terminations (bench.acted action).trace ≤ 1) (hoffer : ∀ x, action ≠ .offer x) :
    Advances limit ⟨bench, .act action :: front⟩
      (Agenda.step (perform predicate) ⟨bench, .act action :: front⟩) := by
  obtain ⟨hawake, hterminate⟩ := h.act hengaged honce
  obtain ⟨result, hperform⟩ : ∃ result, perform predicate (.act action) bench =
      (bench.acted action, bench.started action ++ [.ret action result]) := ⟨_, rfl⟩
  rw [started_of_awake hawake hterminate, List.nil_append] at hperform
  have hbuffer := length_touch_le bench.drain hoffer
  rw [← drain_acted] at hbuffer
  rw [Agenda.step_cons, hperform]
  refine ⟨⟨Nat.le_trans ?_ h.stock_le, h.last_append (fun hengine => by cases hengine)⟩, ?_⟩
  · simp only [stock, probe_acted, coming_append]
    have hcoming : coming (.act action :: front) = coming front := rfl
    have hret : coming [Task.ret action result] = [] := rfl
    rw [hcoming, hret, List.nil_append]
    exact Nat.add_le_add_left hbuffer _
  · refine Prod.Lex.right' _ ?_ ?_
    · simp only [List.map_append, List.map_cons, List.map_nil, List.sum_append, List.sum_cons,
        List.sum_nil, Task.weight]
      omega
    · simp [Task.steps]

/-- A signal is heard, and its reactions come before the tasks behind it. -/
theorem advances_signal (predicate : Predicate) {delivery : Delivery α Empty}
    (h : Ahead limit ⟨bench, .signal delivery :: front⟩) :
    Advances limit ⟨bench, .signal delivery :: front⟩
      (Agenda.step (perform predicate) ⟨bench, .signal delivery :: front⟩) := by
  have hperform : perform predicate (.signal delivery) bench = bench.deliver delivery := rfl
  rw [Agenda.step_cons, hperform]
  refine ⟨⟨Nat.le_trans (Nat.le_of_eq ?_) h.stock_le, h.last_append fun _ => ?_⟩, ?_⟩
  · have hreactions : coming (bench.deliver delivery).2 = [] :=
      coming_of_silent fun other => by simp [deliver]
    have hhistory : (bench.deliver delivery).1.probe.history =
        bench.probe.history ++ [delivery.signal] := rfl
    have hdrain : (bench.deliver delivery).1.drain = bench.drain := rfl
    simp only [stock, coming_append, hreactions, hhistory, hdrain, History.values_append,
      length_coming_signal, List.nil_append, List.length_append]
    omega
  · intro other hother
    rw [deliver, List.getLast?_concat] at hother
    cases hother
    rfl
  · have hweight : (((bench.deliver delivery).2 ++ front).map Task.weight).sum =
        (front.map Task.weight).sum := by
      simp only [deliver, List.map_append, List.sum_append, weight_map_act]
      simp [Task.weight]
    refine .left _ _ ?_
    show 2 * bench.drain.buffer.items.length + _ <
      2 * bench.drain.buffer.items.length + (1 + (front.map Task.weight).sum)
    rw [hweight]
    omega

/-- A turn of a pass takes an item, gives the terminal signal, ends the pass, or looks at the
register again, which the next turn does not. -/
theorem advances_pass (predicate : Predicate) {pass : Pass}
    (h : Ahead limit ⟨bench, .pass pass :: front⟩) :
    Advances limit ⟨bench, .pass pass :: front⟩
      (Agenda.step (perform predicate) ⟨bench, .pass pass :: front⟩) := by
  obtain ⟨next, move, hturned, hstep⟩ := step_pass predicate bench pass front
  refine ⟨⟨Nat.le_trans (Nat.le_of_eq ?_) h.stock_le, h.last_append fun _ other hother => ?_⟩, ?_⟩
  · have hturn : (coming (bench.turn predicate pass).2).length +
        (bench.turn predicate pass).1.drain.buffer.items.length =
          bench.drain.buffer.items.length := by
      rw [← List.length_append, coming_turn]
    have hprobe : (bench.turn predicate pass).1.probe = bench.probe := rfl
    have hcoming : coming (.pass pass :: front) = coming front := rfl
    simp only [Agenda.step_cons, perform, stock, coming_append, hcoming, hprobe,
      List.length_append]
    omega
  · exact List.filter_eq_self.1 (isEngine_of_follow _ _ _) other (List.mem_of_getLast? hother)
  · rw [hstep]
    have hlength : ∀ {x : α} {buffer : Buffer α}, bench.drain.buffer.poll? = some (x, buffer) →
        bench.drain.buffer.items.length = buffer.items.length + 1 := fun hpoll => by
      rw [Buffer.items_poll? hpoll, List.length_cons]
    cases hturned with
    | stopped => exact .left _ _ (by simp [follow, Task.weight])
    | settled => exact .left _ _ (by simp [follow, Task.weight, settled])
    | delivered x buffer hgoal hpoll =>
        refine .left _ _ ?_
        simp only [follow, List.map_append, List.map_cons, List.map_nil, List.sum_append,
          List.sum_cons, List.sum_nil, Task.weight, hlength hpoll]
        omega
    | concluded => exact .left _ _ (by simp [follow, Task.weight])
    | renewed hgoal hbits =>
        refine Prod.Lex.right' _ (by simp [follow, Task.weight]) ?_
        simp [follow, Task.steps, hgoal, hgoal ▸ Ne.symm hbits]

/-- A task of a pass that offers nothing leaves less of the pass. -/
theorem ahead_step (predicate : Predicate) {task : Task α}
    (h : Ahead limit ⟨bench, task :: front⟩)
    (hengaged : EngagedOnce ⟨bench, task :: front ++ rest⟩)
    (honce : terminations (perform predicate task bench).1.trace ≤ 1)
    (hoffer : ∀ x, task ≠ .act (.offer x)) :
    Advances limit ⟨bench, task :: front⟩
      (Agenda.step (perform predicate) ⟨bench, task :: front⟩) := by
  have hbefore := Nat.le_trans (terminations_perform predicate task bench) honce
  cases task with
  | act action =>
      refine advances_act predicate h (hengaged hbefore) honce ?_
      rintro x rfl
      exact hoffer x rfl
  | ret action result =>
      refine ⟨⟨h.stock_le, h.last_append (fun hengine => by cases hengine)⟩, ?_⟩
      exact Prod.Lex.right' _ (by simp [perform, log, Task.weight]) (by simp [perform, Task.steps])
  | pass pass => exact advances_pass predicate h
  | signal delivery => exact advances_signal predicate h
  | left =>
      refine ⟨⟨h.stock_le, h.last_append (fun _ other hother => by cases hother)⟩, ?_⟩
      exact Prod.Lex.right' _ (by simp [perform, Task.weight]) (by simp [perform, Task.steps])

/-! ## The end of a pass -/

variable {predicate : Predicate} {buffer : Buffer α} {slot : FailureSlot} {name : String}
  {react : Reaction (Action α)} {actions : List (Action α)}

/-- A task that adds nothing to what was offered is no offer. -/
theorem ne_offer_of_offered_eq {task : Task α}
    (h : offered (called (perform predicate task bench).1.trace) = offered (called bench.trace))
    (x : α) : task ≠ .act (.offer x) := by
  rintro rfl
  have htrace : (perform predicate (.act (.offer x)) bench).1.trace =
      bench.trace ++ [.called (.offer x)] := trace_acted bench (.offer x)
  have hoffered : offered (called bench.trace ++ called [.called (.offer x)]) =
      offered (called bench.trace) ++ [x] := List.filterMap_append
  rw [htrace, called_append, hoffered] at h
  exact absurd h (by simp)

/-- Each task of a pass leaves less of it, at every moment at which nothing is offered. -/
theorem advances_moment {fuel : Nat} {task : Task α}
    (hnow : moment predicate buffer slot name react actions fuel = ⟨bench, task :: front ++ rest⟩)
    (honce :
      terminations (moment predicate buffer slot name react actions (fuel + 1)).state.trace ≤ 1)
    (hoffered :
      offered (called (moment predicate buffer slot name react actions (fuel + 1)).state.trace) =
        offered (called (moment predicate buffer slot name react actions fuel).state.trace))
    (h : Ahead limit ⟨bench, task :: front⟩) :
    Advances limit ⟨bench, task :: front⟩
      (Agenda.step (perform predicate) ⟨bench, task :: front⟩) := by
  have hengaged := engaged_moment predicate buffer slot name react actions fuel
  rw [moment_succ] at honce hoffered
  rw [hnow] at honce hoffered hengaged
  exact ahead_step predicate h hengaged honce (ne_offer_of_offered_eq hoffered)

/-- A pass ends when nothing is offered while it is under way: the tasks behind it are then next for
the first time, and no more items were heard than there were in the buffer. -/
theorem exists_end_of_pass
    (honce : ∀ fuel,
      terminations (moment predicate buffer slot name react actions fuel).state.trace ≤ 1)
    {fuel : Nat} {pass : Pass} {rest : List (Task α)}
    (hpass : (moment predicate buffer slot name react actions fuel).todo = .pass pass :: rest)
    (hquiet : ∀ length,
      (∀ earlier < length,
        (moment predicate buffer slot name react actions (fuel + earlier)).todo ≠ rest) →
      offered (called
          (moment predicate buffer slot name react actions (fuel + length)).state.trace) =
        offered (called (moment predicate buffer slot name react actions fuel).state.trace)) :
    let now := moment predicate buffer slot name react actions
    ∃ length, (now (fuel + length)).todo = rest ∧
      (∀ earlier < length, (now (fuel + earlier)).todo ≠ rest) ∧
      (History.values (now (fuel + length)).state.probe.history).length ≤
        (History.values (now fuel).state.probe.history).length +
          (now fuel).state.drain.buffer.items.length := by
  intro now
  have hrun : ∀ length, Agenda.run (perform predicate) length (now fuel) = now (fuel + length) :=
    fun length => (Agenda.run_add (perform predicate) fuel length _).symm
  let limit := stock ⟨(now fuel).state, [.pass pass]⟩
  have hstart : Ahead limit ⟨(now fuel).state, [.pass pass]⟩ :=
    ⟨Nat.le_refl _, fun task htask => by cases htask; rfl⟩
  -- The pass is under way up to the task at hand, so that nothing was offered before or by it.
  have hstep : ∀ length bench task front,
      Agenda.run (perform predicate) length (now fuel) = ⟨bench, task :: front ++ rest⟩ →
      (∀ earlier ≤ length, (Agenda.run (perform predicate) earlier (now fuel)).todo ≠ rest) →
      Ahead limit ⟨bench, task :: front⟩ →
      Advances limit ⟨bench, task :: front⟩
        (Agenda.step (perform predicate) ⟨bench, task :: front⟩) := by
    intro length bench task front hnow hunder h
    simp only [hrun] at hnow hunder
    have hbefore := hquiet length fun earlier hearlier => hunder earlier (Nat.le_of_lt hearlier)
    have hafter := hquiet (length + 1) fun earlier hearlier =>
      hunder earlier (Nat.le_of_lt_succ hearlier)
    exact advances_moment hnow (honce _) (hafter.trans hbefore.symm) h
  obtain ⟨length, final, hend, hahead, hunder⟩ :=
    @Agenda.exists_run_behind _ _ (perform predicate) (now fuel) rest (Ahead limit) remaining
      (fun length bench task front hnow hunder h =>
        have hadvances := hstep length bench task front hnow hunder h
        ⟨hadvances.ahead, hadvances.less⟩) [.pass pass] hpass hstart
  simp only [hrun] at hend hunder
  refine ⟨length, by rw [hend], hunder, ?_⟩
  rw [hend]
  exact Nat.le_trans (Nat.le_add_right _ _) hahead.stock_le

/-- A run that has come to rest stays as it is. -/
theorem moment_of_idle {fuel later : Nat}
    (hidle : (moment predicate buffer slot name react actions fuel).todo = []) (h : fuel ≤ later) :
    moment predicate buffer slot name react actions later =
      moment predicate buffer slot name react actions fuel := by
  obtain ⟨more, rfl⟩ := Nat.exists_eq_add_of_le h
  unfold moment at hidle ⊢
  rw [Agenda.run_add]
  generalize Agenda.run (perform predicate) fuel _ = last at hidle ⊢
  obtain ⟨bench, todo⟩ := last
  obtain rfl : todo = [] := hidle
  exact Agenda.run_idle _ _ _

/-- In every run in which the source terminates once at most, for any requests, from the top or from
inside a delivery, and under any answers of the predicate: whenever a pass is about to take a turn,
what it has emitted, its goal and the word of the register carry the same terminal bit and stand in
order. A delivery therefore counts up by one without an overflow, and not past the goal. What the
pass would settle is at most the demand, taking it off leaves the terminal bit alone, and a turn
changes the register in no other way, and only when it holds what was emitted. A turn that goes on
without a delivery has found another goal, and the next turn delivers or ends the pass. If nothing
is offered while the pass is under way it ends, and no more items were delivered until then than
were in the buffer. -/
theorem words_of_pass (predicate : Predicate) (buffer : Buffer α) (slot : FailureSlot)
    (name : String) (react : Reaction (Action α)) (actions : List (Action α))
    (honce : ∀ fuel,
      terminations (moment predicate buffer slot name react actions fuel).state.trace ≤ 1)
    (fuel : Nat) (pass : Pass) (rest : List (Task α))
    (hpass : (moment predicate buffer slot name react actions fuel).todo = .pass pass :: rest) :
    let now := moment predicate buffer slot name react actions
    let drain := (now fuel).state.drain
    let register := drain.register
    let delivered := Register.demandOf pass.emitted
    let settled := register.settle delivered
    let heard := fun fuel => (History.values (now fuel).state.probe.history).length
    let offers := fun fuel => offered (called (now fuel).state.trace)
    Aligned register pass ∧
      (∀ x going, (now (fuel + 1)).todo = .signal (.next x) :: .pass going :: rest →
        going.goal = pass.goal ∧ going.emitted.toNat = pass.emitted.toNat + 1 ∧
          going.emitted ≤ going.goal) ∧
      (delivered ≤ register.pending ∧
        Register.flagOf settled.bits = Register.flagOf register.bits ∧
        settled.pending.toNat = register.pending.toNat - delivered.toNat ∧
        ((now (fuel + 1)).state.drain.register = register ∨
          register.bits = pass.emitted ∧
            (now (fuel + 1)).state.drain.register = (drain.settled pass).register)) ∧
      (∀ renewed, (now (fuel + 1)).todo = .pass renewed :: rest →
        renewed = { pass with goal := register.bits } ∧ renewed.emitted ≠ renewed.goal ∧
          ((now (fuel + 2)).todo = rest ∨
            (∃ delivery : Delivery α Empty, delivery.signal.isTerminal = true ∧
              (now (fuel + 2)).todo = .signal delivery :: rest) ∨
            ∃ x, (now (fuel + 2)).todo = .signal (.next x) :: .pass renewed.counted :: rest)) ∧
      ((∀ length, (∀ earlier < length, (now (fuel + earlier)).todo ≠ rest) →
          offers (fuel + length) = offers fuel) →
        ∃ length, (now (fuel + length)).todo = rest ∧
          (∀ earlier < length, (now (fuel + earlier)).todo ≠ rest) ∧
          heard (fuel + length) ≤ heard fuel + drain.buffer.items.length) := by
  intro now drain register delivered settled heard offers
  have haligned : Aligned register pass := by
    refine aligned_moment predicate buffer slot name react actions fuel (honce fuel) pass ?_
    rw [hpass]
    exact List.mem_cons_self
  have hturn : ∀ moment {pass rest}, (now moment).todo = .pass pass :: rest →
      ∃ next move, Turned (now moment).state.drain pass next move ∧
        (now (moment + 1)).state.drain = next ∧
        (now (moment + 1)).todo = follow next pass.ending move ++ rest := by
    intro moment pass rest htodo
    obtain ⟨next, move, hturned, hstep⟩ := step_pass predicate (now moment).state pass rest
    have hnext : now (moment + 1) = _ :=
      (moment_succ predicate buffer slot name react actions moment).trans
        ((congrArg (Agenda.step (perform predicate)) (by rw [← htodo])).trans hstep)
    exact ⟨next, move, hturned, by rw [hnext], by rw [hnext]⟩
  obtain ⟨next, move, hturned, hdrain, htodo⟩ := hturn fuel hpass
  have hfollow : ∀ added : List (Task α), (now (fuel + 1)).todo = added ++ rest →
      follow next pass.ending move = added := fun added hadded =>
    List.append_cancel_right (htodo.symm.trans hadded)
  refine ⟨haligned, fun x going hnext => ?_, ⟨haligned.delivered_le, haligned.settle.1,
    haligned.settle.2, ?_⟩, fun renewed hnext => ?_, exists_end_of_pass honce hpass⟩
  · obtain ⟨rfl, hgoal⟩ := hturned.eq_counted (hfollow [_, _] hnext)
    exact ⟨rfl, haligned.toNat_counted hgoal, (haligned.counted hgoal).emitted_le_goal⟩
  · rw [hdrain]
    exact hturned.register_eq
  · obtain ⟨rfl, hbits⟩ := hturned.eq_renewed (hfollow [_] hnext)
    refine ⟨rfl, hbits.symm, ?_⟩
    obtain ⟨last, final, hlast, -, hend⟩ := hturn (fuel + 1) hnext
    rw [hend]
    rcases hlast.delivers_or_ends hbits.symm pass.ending with h | ⟨delivery, hterminal, h⟩ | ⟨x, h⟩
    · exact .inl (by rw [h]; rfl)
    · exact .inr (.inl ⟨delivery, hterminal, by rw [h]; rfl⟩)
    · exact .inr (.inr ⟨x, by rw [h]; rfl⟩)

/-- Three items of which two are asked for, one of them from inside the delivery of the other. The
pass of a later request, whose only bit is the terminal one, starts with its goal met, finds the
unbounded amount when it looks at the register again, and delivers the item that is left. -/
theorem words_of_pass_of_three_items :
    let react : Reaction (Action Nat) := fun kind number =>
      if kind = .next ∧ number = 0 then [.request 1 .completion] else []
    let actions : List (Action Nat) :=
      [.offer 1, .offer 2, .offer 3, .request 1 .completion, .terminate .completion,
        .request 0x8000000000000000 .completion]
    let now := moment .never {} {} "below" react actions
    let heard := fun fuel => (History.values (now fuel).state.probe.history).length
    let offers := fun fuel => offered (called (now fuel).state.trace)
    let pass : Pass := ⟨0x8000000000000000, 0x8000000000000000, .completion, false⟩
    let rest : List (Task Nat) :=
      [.ret (.request 0x8000000000000000 .completion) (.flag true)]
    (∀ fuel, terminations (now fuel).state.trace ≤ 1) ∧ (now 21).todo = .pass pass :: rest ∧
      Aligned (now 21).state.drain.register pass ∧
      (now 22).todo = .pass { pass with goal := 0xffffffffffffffff } :: rest ∧
      (∃ x, (now 23).todo = .signal (.next x) ::
        .pass ⟨0xffffffffffffffff, 0x8000000000000001, .completion, false⟩ :: rest) ∧
      (∀ length, offers (21 + length) = offers 21) ∧
      ∃ length, (now (21 + length)).todo = rest ∧
        (∀ earlier < length, (now (21 + earlier)).todo ≠ rest) ∧
        heard (21 + length) ≤ heard 21 + 1 := by
  intro react actions now heard offers pass rest
  have hidle : (now 29).todo = [] := by
    simp only [now, actions, react]
    cbv
  have hrest : ∀ later ≥ 29, now later = now 29 := fun later hlater =>
    moment_of_idle hidle hlater
  have honce : ∀ fuel, terminations (now fuel).state.trace ≤ 1 := by
    have hearly : ∀ fuel ≤ 29, terminations (now fuel).state.trace ≤ 1 := by decide +kernel
    intro fuel
    rcases Nat.le_total fuel 29 with hle | hle
    · exact hearly fuel hle
    · rw [hrest fuel hle]
      exact hearly 29 (Nat.le_refl _)
  have hquiet : ∀ length, offers (21 + length) = offers 21 := by
    have hearly : ∀ length ≤ 8, offers (21 + length) = offers 21 := by decide +kernel
    intro length
    rcases Nat.le_total length 8 with hle | hle
    · exact hearly length hle
    · have hsame : offers (21 + length) = offers 29 := by
        simp only [offers]
        rw [hrest (21 + length) (by omega)]
      exact hsame.trans (hearly 8 (Nat.le_refl _))
  have hpass : (now 21).todo = .pass pass :: rest := by
    simp only [now, actions, react, pass, rest]
    cbv
  have hagain : (now 22).todo = .pass { pass with goal := 0xffffffffffffffff } :: rest := by
    simp only [now, actions, react, pass, rest]
    cbv
  obtain ⟨haligned, -, -, hrenewed, hend⟩ :=
    words_of_pass .never {} {} "below" react actions honce 21 pass rest hpass
  have hlength : (now 23).todo.length = 3 := by decide +kernel
  have hleft : (now 21).state.drain.buffer.items.length = 1 := by decide +kernel
  refine ⟨honce, hpass, haligned, hagain, ?_, hquiet, ?_⟩
  · obtain ⟨-, -, hstops | ⟨delivery, -, hends⟩ | hdelivers⟩ := hrenewed _ hagain
    · rw [hstops] at hlength
      exact absurd hlength (by simp [rest])
    · rw [hends] at hlength
      exact absurd hlength (by simp [rest])
    · exact hdelivers
  · obtain ⟨length, htodo, hunder, hheard⟩ := hend fun length _ => hquiet length
    exact ⟨length, htodo, hunder, hleft ▸ hheard⟩

end Bench

end Backpressure.Drain
