import Backpressure.Proofs.Drain.Standing

/-!
# The words of a pass

A pass compares whole words: what it has emitted, its goal, and the word of the register. This is
sound because the three of them carry the same terminal bit and stand in order, as unsigned words.
Requests only raise the word of the register and keep its bit, so that it does not matter when they
are made, or how much they ask for: the goal of a pass that a request starts is cut to 63 bits, and
the demand that it enters is at least that much. The order is all that is needed for a delivery not
to step past the goal, and for a settlement not to take more off the register than is in it.

Nothing is assumed of the buffer: items may be offered and polled while the pass is under way.

Main results:

- Theorem `turned_advance` lists what a turn of a pass may do.
- Theorem `Aligned.counted`, theorem `Aligned.renewed` and theorem `Aligned.add` keep the order over
  a delivery, over a new look at the register, and over a request.
- Theorem `Aligned.settle` shows that a settlement takes off no more than the demand.
- Theorem `aligned_moment` finds the words of every pass in order, at every moment of a run.
-/

namespace Backpressure

namespace Register

/-! ## Flags -/

/-- The flag of a flag. -/
theorem flagOf_flagOf (word : UInt64) : flagOf (flagOf word) = flagOf word := by
  rw [flagOf, flagOf, UInt64.and_assoc, UInt64.and_self]

/-- The flag of a word with its terminal bit set. -/
theorem flagOf_withTerminal (word : UInt64) : flagOf (withTerminal word) = terminalBit := by
  apply UInt64.toNat.inj
  rw [toNat_flagOf, toNat_withTerminal, if_neg (Nat.not_lt.2 (Nat.le_add_right _ _))]

/-- A word is at least its flag. -/
theorem flagOf_le (word : UInt64) : flagOf word ≤ word := by
  rw [UInt64.le_iff_toNat_le, ← toNat_flagOf_add_demandOf word]
  exact Nat.le_add_right _ _

/-- The flag of a word that lies between two words of the same flag. -/
theorem flagOf_between {first word last : UInt64} (hfirst : first ≤ word) (hlast : word ≤ last)
    (h : flagOf first = flagOf last) : flagOf word = flagOf last := by
  rw [UInt64.le_iff_toNat_le] at hfirst hlast
  rw [← UInt64.toNat_inj, toNat_flagOf, toNat_flagOf] at h ⊢
  rw [toNat_terminalBit] at h ⊢
  split at h <;> split at h <;> split <;> omega

/-- Words of the same flag compare as their demands do. -/
theorem demandOf_le {first second : UInt64} (h : first ≤ second)
    (hflag : flagOf first = flagOf second) : demandOf first ≤ demandOf second := by
  rw [UInt64.le_iff_toNat_le, ← toNat_flagOf_add_demandOf first,
    ← toNat_flagOf_add_demandOf second, hflag] at h
  exact UInt64.le_iff_toNat_le.2 (Nat.le_of_add_le_add_left h)

/-- A request keeps the flag. -/
@[simp] theorem flagOf_bits_add (register : Register) (amount : UInt64) :
    flagOf (register.add amount).bits = flagOf register.bits := by
  have hreads := register.reads_self
  apply UInt64.toNat.inj
  rw [toNat_flagOf_of_eq (hreads.add amount) (Nat.min_le_right _ _),
    toNat_flagOf_of_eq hreads (Nat.min_le_right _ _)]

/-- A request does not lower the word. -/
theorem bits_le_bits_add (register : Register) (amount : UInt64) :
    register.bits ≤ (register.add amount).bits := by
  have hbefore := register.reads_self
  have hafter := hbefore.add amount
  unfold Reads at hbefore hafter
  rw [UInt64.le_iff_toNat_le]
  omega

end Register

namespace Drain

variable {α : Type} {drain next : Drain α} {register : Register} {pass : Pass}

/-! ## The order of the words -/

/-- What a pass has emitted, its goal and the word of the register carry the same terminal bit and
stand in order. -/
structure Aligned (register : Register) (pass : Pass) : Prop where
  flagOf_emitted : Register.flagOf pass.emitted = Register.flagOf register.bits
  flagOf_goal : Register.flagOf pass.goal = Register.flagOf register.bits
  emitted_le_goal : pass.emitted ≤ pass.goal
  goal_le : pass.goal ≤ register.bits

/-- A pass that starts with a word which the register has reached. -/
theorem aligned_start {word : UInt64} (hflag : Register.flagOf word = Register.flagOf register.bits)
    (hle : word ≤ register.bits) (ending : Ending) (closing : Bool) :
    Aligned register (.start word ending closing) where
  flagOf_emitted := (Register.flagOf_flagOf word).trans hflag
  flagOf_goal := hflag
  emitted_le_goal := Register.flagOf_le word
  goal_le := hle

/-- The pass that termination starts. -/
theorem aligned_of_termination {ending : Ending} (h : drain.passOnTermination ending = some pass) :
    Aligned drain.register pass := by
  unfold passOnTermination at h
  split at h
  · contradiction
  · cases h
    exact aligned_start rfl (UInt64.le_refl _) ending true

/-- The pass that a request starts, of any amount: the register then holds at least as much as the
pass goes for. -/
theorem aligned_of_request {amount : UInt64} {ending : Ending}
    (h : drain.passOnRequest amount ending = some pass) :
    Aligned (drain.register.add amount) pass := by
  obtain ⟨hbits, -⟩ := (request_eq drain amount ending).1 (by rw [h]; rfl)
  have hreads : drain.register.Reads true 0 := by
    rw [Register.Reads, hbits]
    rfl
  have hadded := hreads.add amount
  unfold passOnRequest at h
  split at h
  · cases h
    refine aligned_start ?_ ?_ ending false
    · rw [Register.flagOf_withTerminal, Register.flagOf_bits_add, hbits]
      rfl
    · have hword := UInt64.toNat_lt amount
      rw [UInt64.le_iff_toNat_le, hadded, Register.toNat_withTerminal, Register.toNat_demandOf,
        Demand.toNat_unbounded, Register.toNat_terminalBit, Register.flagValue_true]
      omega
  · contradiction

namespace Aligned

/-- What a pass has emitted never exceeds the word of the register. -/
theorem emitted_le (h : Aligned register pass) : pass.emitted ≤ register.bits :=
  UInt64.le_trans h.emitted_le_goal h.goal_le

/-- A request that is made while a pass is under way. -/
theorem add (h : Aligned register pass) (amount : UInt64) : Aligned (register.add amount) pass where
  flagOf_emitted := h.flagOf_emitted.trans (register.flagOf_bits_add amount).symm
  flagOf_goal := h.flagOf_goal.trans (register.flagOf_bits_add amount).symm
  emitted_le_goal := h.emitted_le_goal
  goal_le := UInt64.le_trans h.goal_le (register.bits_le_bits_add amount)

/-- Whatever is called on the drain while a pass is under way. -/
theorem touch (h : Aligned drain.register pass) (action : Action α) :
    Aligned (drain.touch action).register pass := by
  rw [register_touch]
  cases action.amount? with
  | none => exact h
  | some amount => exact h.add amount

/-- Counting a delivery before the goal is met does not overflow. -/
theorem toNat_counted (h : Aligned register pass) (hgoal : pass.emitted ≠ pass.goal) :
    pass.counted.emitted.toNat = pass.emitted.toNat + 1 := by
  have hle := UInt64.le_iff_toNat_le.1 h.emitted_le_goal
  have hlt : pass.emitted.toNat < pass.goal.toNat :=
    Nat.lt_of_le_of_ne hle (mt UInt64.toNat_inj.1 hgoal)
  rw [Pass.counted, UInt64.toNat_add]
  exact Nat.mod_eq_of_lt (Nat.lt_of_le_of_lt hlt pass.goal.toNat_lt)

/-- A delivery does not step past the goal, and keeps the flag. -/
theorem counted (h : Aligned register pass) (hgoal : pass.emitted ≠ pass.goal) :
    Aligned register pass.counted := by
  have hcount := h.toNat_counted hgoal
  have hbefore : pass.emitted ≤ pass.counted.emitted := by
    rw [UInt64.le_iff_toNat_le, hcount]
    exact Nat.le_succ _
  have hle : pass.counted.emitted ≤ pass.goal := by
    have hne := mt UInt64.toNat_inj.1 hgoal
    have hmet := UInt64.le_iff_toNat_le.1 h.emitted_le_goal
    rw [UInt64.le_iff_toNat_le, hcount]
    omega
  exact {
    flagOf_emitted := (Register.flagOf_between hbefore hle
      (h.flagOf_emitted.trans h.flagOf_goal.symm)).trans h.flagOf_goal
    flagOf_goal := h.flagOf_goal
    emitted_le_goal := hle
    goal_le := h.goal_le }

/-- A new look at the register. -/
theorem renewed (h : Aligned register pass) :
    Aligned register { pass with goal := register.bits } where
  flagOf_emitted := h.flagOf_emitted
  flagOf_goal := rfl
  emitted_le_goal := h.emitted_le
  goal_le := UInt64.le_refl _

/-- What a pass has delivered is part of the demand. -/
theorem delivered_le (h : Aligned register pass) :
    Register.demandOf pass.emitted ≤ register.pending :=
  Register.demandOf_le h.emitted_le h.flagOf_emitted

/-- Settling what a pass has delivered takes it off the demand and leaves the terminal bit alone. -/
theorem settle (h : Aligned register pass) :
    let settled := register.settle (Register.demandOf pass.emitted)
    Register.flagOf settled.bits = Register.flagOf register.bits ∧
      settled.pending.toNat = register.pending.toNat - (Register.demandOf pass.emitted).toNat := by
  intro settled
  have hreads := register.reads_self
  have hlimit := Register.toNat_demandOf_le register.bits
  have hsettled := hreads.settle_of_le (UInt64.le_iff_toNat_le.1 h.delivered_le) hlimit
  refine ⟨UInt64.toNat.inj ?_, ?_⟩
  · rw [Register.toNat_flagOf_of_eq hsettled (Nat.min_le_right _ _),
      Register.toNat_flagOf_of_eq hreads (Nat.min_le_right _ _)]
  · have hless := Nat.le_trans (Nat.sub_le _ (Register.demandOf pass.emitted).toNat) hlimit
    rw [Register.pending, Register.toNat_demandOf_of_eq hsettled (Nat.min_le_right _ _),
      Nat.min_eq_left hless]
    rfl

end Aligned

/-! ## Turns -/

/-- What a turn of a pass may do. -/
inductive Turned (drain : Drain α) (pass : Pass) : Drain α → PassMove α → Prop
  /-- It is told to stop. -/
  | stopped : Turned drain pass drain .stop
  /-- It settles, when the register holds what was emitted and nothing else. -/
  | settled (hbits : drain.register.bits = pass.emitted) :
      Turned drain pass (drain.settled pass) .stop
  /-- It takes an item, before its goal is met. -/
  | delivered (x : α) (buffer : Buffer α) (hgoal : pass.emitted ≠ pass.goal)
      (hpoll : drain.buffer.poll? = some (x, buffer)) :
      Turned drain pass { drain with buffer } (.deliver x pass.counted)
  /-- It finds the buffer empty. -/
  | concluded : Turned drain pass drain .conclude
  /-- It looks at the register again, which holds more than its goal. -/
  | renewed (hgoal : pass.emitted = pass.goal) (hbits : drain.register.bits ≠ pass.emitted) :
      Turned drain pass drain (.again { pass with goal := drain.register.bits })

/-- These are all the turns there are. -/
theorem turned_advance (drain : Drain α) (pass : Pass) (stop : Bool) :
    Turned drain pass (drain.advance pass stop).1 (drain.advance pass stop).2 := by
  unfold advance
  split
  next => exact .stopped
  next =>
    split
    next hgoal =>
      split
      next x buffer hpoll => exact .delivered x buffer hgoal hpoll
      next => exact .concluded
    next hgoal =>
      split
      next => exact .concluded
      next =>
        split
        next hbits => exact .settled hbits
        next hbits => exact .renewed (Decidable.not_not.1 hgoal) hbits

namespace Turned

variable {move : PassMove α}

/-- A turn changes the register only by settling what the pass has delivered, and only when the
register holds that and nothing else. -/
theorem register_eq (h : Turned drain pass next move) :
    next.register = drain.register ∨
      drain.register.bits = pass.emitted ∧ next.register = (drain.settled pass).register := by
  cases h with
  | settled hbits => exact .inr ⟨hbits, rfl⟩
  | stopped | delivered | concluded | renewed => exact .inl rfl

/-- A turn that is about to deliver had not met its goal, and counts the delivery. -/
theorem eq_counted {ending : Ending} (h : Turned drain pass next move) {x : α} {going : Pass}
    (hgoing : Bench.follow next ending move = [.signal (.next x), .pass going]) :
    going = pass.counted ∧ pass.emitted ≠ pass.goal := by
  cases h with
  | delivered y buffer hgoal =>
      simp only [Bench.follow, List.cons.injEq, Task.pass.injEq] at hgoing
      exact ⟨hgoing.2.1.symm, hgoal⟩
  | stopped | settled | concluded | renewed => simp [Bench.follow] at hgoing

/-- A turn that goes on without a delivery has met its goal, and its new goal is the word of the
register, which is another one. -/
theorem eq_renewed {ending : Ending} (h : Turned drain pass next move) {renewed : Pass}
    (hgoing : Bench.follow next ending move = [.pass renewed]) :
    renewed = { pass with goal := drain.register.bits } ∧ drain.register.bits ≠ pass.emitted := by
  cases h with
  | renewed hgoal hbits =>
      simp only [Bench.follow, List.cons.injEq, Task.pass.injEq] at hgoing
      exact ⟨hgoing.1.symm, hbits⟩
  | stopped | settled | delivered | concluded => simp [Bench.follow] at hgoing

/-- A pass whose goal is not met does not look at the register again: it ends, with or without a
signal, or it delivers. -/
theorem delivers_or_ends (h : Turned drain pass next move) (hgoal : pass.emitted ≠ pass.goal)
    (ending : Ending) :
    Bench.follow next ending move = [] ∨
      (∃ delivery : Delivery α Empty, delivery.signal.isTerminal = true ∧
        Bench.follow next ending move = [.signal delivery]) ∨
      ∃ x, Bench.follow next ending move = [.signal (.next x), .pass pass.counted] := by
  cases h with
  | stopped | settled => exact .inl rfl
  | concluded => exact .inr (.inl ⟨_, Bench.isTerminal_conclusion drain ending, rfl⟩)
  | delivered x => exact .inr (.inr ⟨x, rfl⟩)
  | renewed hmet => exact absurd hmet hgoal

/-- The pass that goes on after a turn finds the words in order. -/
theorem aligned (h : Turned drain pass next move) (haligned : Aligned drain.register pass)
    {going : Pass} (hgoing : .pass going ∈ Bench.follow next pass.ending move) :
    Aligned next.register going := by
  cases h with
  | stopped | settled | concluded => simp [Bench.follow] at hgoing
  | delivered x buffer hgoal =>
      obtain rfl : going = pass.counted := by simpa [Bench.follow] using hgoing
      exact haligned.counted hgoal
  | renewed =>
      obtain rfl : going = { pass with goal := drain.register.bits } := by
        simpa [Bench.follow] using hgoing
      exact haligned.renewed

end Turned

namespace Bench

variable {bench : Bench α} {agenda : Agenda (Bench α) (Task α)} {rest : List (Task α)}

/-- A pass that is next takes a turn. -/
theorem step_pass (predicate : Predicate) (bench : Bench α) (pass : Pass) (rest : List (Task α)) :
    ∃ next move, Turned bench.drain pass next move ∧
      Agenda.step (perform predicate) ⟨bench, .pass pass :: rest⟩ =
        ⟨{ bench with
            drain := next
            checks := bench.checks + 1
            trace := bench.trace ++ [.checked (bench.stops predicate)] },
          follow next pass.ending move ++ rest⟩ :=
  ⟨_, _, turned_advance bench.drain pass (bench.stops predicate), rfl⟩

/-! ## Runs -/

/-- The words of every pass under way are in order, as long as the source terminated at most
once. -/
def AlignedOnce (agenda : Agenda (Bench α) (Task α)) : Prop :=
  terminations agenda.state.trace ≤ 1 →
    ∀ pass, .pass pass ∈ agenda.todo → Aligned agenda.state.drain.register pass

/-- The pass that an action starts finds the words in order. -/
theorem aligned_begin {action : Action α} (h : .pass pass ∈ (bench.begin action).2.1) :
    Aligned (bench.begin action).1.drain.register pass := by
  rw [drain_begin]
  cases action with
  | request amount ending =>
      obtain ⟨started, hstarted, hpass⟩ := List.mem_map.1 h
      cases hpass
      exact aligned_of_request (Option.mem_toList.1 hstarted)
  | terminate ending =>
      simp only [begin] at h
      split at h
      next started hstarted =>
        obtain rfl : pass = started := by simpa using h
        exact aligned_of_termination hstarted
      next => simp at h
  | offer x =>
      simp only [begin] at h
      split at h <;> simp at h
  | poll =>
      simp only [begin] at h
      split at h <;> simp at h
  | isEmpty | cancel | fail failure => simp [begin] at h

/-- No other pass waits behind a pass that is next. -/
theorem not_mem_of_engaged (h : EngagedOnce ⟨bench, .pass pass :: rest⟩)
    (honce : terminations bench.trace ≤ 1) (task : Task α) (hengine : task.isEngine = true) :
    task ∉ rest := by
  obtain ⟨hrest, -⟩ := Engaged.pass (h honce)
  intro hmem
  have hfilter : task ∈ rest.filter Task.isEngine := List.mem_filter.2 ⟨hmem, hengine⟩
  rw [hrest] at hfilter
  exact List.not_mem_nil hfilter

/-- Every task keeps the words in order. -/
theorem aligned_step (predicate : Predicate) (hengaged : EngagedOnce agenda)
    (h : AlignedOnce agenda) : AlignedOnce (agenda.step (perform predicate)) := by
  rcases agenda with ⟨bench, _ | ⟨task, rest⟩⟩
  · exact h
  intro honce going hgoing
  rw [Agenda.step_cons] at honce
  have hbefore := Nat.le_trans (terminations_perform predicate task bench) honce
  have hwaiting : .pass going ∈ rest → Aligned bench.drain.register going := fun hrest =>
    h hbefore going (List.mem_cons_of_mem _ hrest)
  cases task with
  | act action =>
      rw [Agenda.step_cons] at hgoing ⊢
      rcases List.mem_append.1 hgoing with hadded | hrest
      · rcases List.mem_append.1 hadded with hstarted | hret
        · exact aligned_begin hstarted
        · simp at hret
      · have hdrain : (perform predicate (.act action) bench).1.drain = bench.drain.touch action :=
          drain_begin _ _
        rw [hdrain]
        exact (hwaiting hrest).touch action
  | ret action result => exact hwaiting hgoing
  | pass pass =>
      obtain ⟨next, move, hturned, hstep⟩ := step_pass predicate bench pass rest
      rw [hstep] at hgoing ⊢
      have hnone := not_mem_of_engaged hengaged hbefore (.pass going) rfl
      have hfollow := (List.mem_append.1 hgoing).resolve_right hnone
      exact hturned.aligned (h hbefore pass List.mem_cons_self) hfollow
  | signal delivery =>
      refine hwaiting ?_
      simpa [Agenda.step_cons, perform, deliver] using hgoing
  | left => exact hwaiting hgoing

/-- The words of every pass are in order at every moment of a run. -/
theorem aligned_moment (predicate : Predicate) (buffer : Buffer α) (slot : FailureSlot)
    (name : String) (react : Reaction (Action α)) (actions : List (Action α)) (fuel : Nat) :
    AlignedOnce (moment predicate buffer slot name react actions fuel) := by
  induction fuel with
  | zero =>
      intro _ pass hpass
      obtain ⟨action, -, hact⟩ := List.mem_map.1 hpass
      cases hact
  | succ fuel ih =>
      rw [moment_succ]
      exact aligned_step predicate
        (engaged_moment predicate buffer slot name react actions fuel) ih

end Bench

end Drain

end Backpressure
