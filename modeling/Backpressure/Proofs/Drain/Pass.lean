import Mathlib.Algebra.Ring.Nat
import Backpressure.Drain
import Backpressure.Proofs.Demand.Reads

/-!
# The invariant of a pass

While a pass over the buffer is under way, the register holds what was delivered since the last
settlement together with what is still owed, and the words of the pass lie below the word of the
register and carry its flag. From this it follows what each turn of the pass does: it delivers while
something is owed, concludes when nothing is left, and stops with a settled register when nothing
is owed any more.

Main results:

- Theorem `Running.advance_nil`, theorem `Running.advance_cons_zero`, theorem
  `Running.advance_deliver` and theorem `Running.advance_again` describe the turns of a pass.
- Theorem `Running.request` shows that requests made meanwhile are absorbed.
- Theorem `running_of_termination` and theorem `running_of_request` start a pass.
-/

namespace Backpressure

/-- The items that a pass has delivered since the last settlement. -/
def Pass.sent (pass : Pass) : Nat := (Register.demandOf pass.emitted).toNat

/-- The pass after one more delivery. -/
def Pass.counted (pass : Pass) : Pass := { pass with emitted := pass.emitted + 1 }

namespace Drain

variable {α : Type} {drain : Drain α} {pass : Pass} {left : List α} {owed : Nat} {x : α}

/-- A pass is under way: some items are left in the buffer, and so many more items are owed than were
delivered. -/
structure Running (drain : Drain α) (pass : Pass) (left : List α) (owed : Nat) : Prop where
  items : drain.buffer.items = left
  emitted : pass.emitted.toNat = Register.flagValue (!pass.closing) + pass.sent
  emitted_le_goal : pass.emitted.toNat ≤ pass.goal.toNat
  goal_le : pass.goal.toNat ≤ drain.register.bits.toNat
  reads : drain.register.Reads (!pass.closing) (pass.sent + owed)
  room : pass.sent + left.length ≤ Demand.unbounded.toNat
  awake : drain.isStalled = false

/-- Nobody drains, items are left, and nothing is owed. -/
structure Stalled (drain : Drain α) (left : List α) : Prop where
  items : drain.buffer.items = left
  left_ne_nil : left ≠ []
  reads : drain.register.Reads true 0

/-! ## Requests -/

/-- The drain is not stalled exactly if its register holds another word. -/
theorem isStalled_eq_false_iff :
    drain.isStalled = false ↔ drain.register.bits ≠ Register.terminalBit := by
  simp [isStalled]

/-- A source that has not terminated does not stall its drain. -/
theorem isStalled_of_reads {demand : Nat} (h : drain.register.Reads false demand) :
    drain.isStalled = false := by
  rw [isStalled_eq_false_iff, ne_eq, h.eq_terminalBit_iff]
  rintro ⟨hfalse, -⟩
  contradiction

/-- A request never stalls a drain. -/
theorem isStalled_afterRequest (h : drain.isStalled = false) (amount : UInt64) :
    (drain.afterRequest amount).isStalled = false := by
  rw [isStalled_eq_false_iff, ne_eq, ← UInt64.toNat_inj, Register.toNat_terminalBit] at h ⊢
  have hsum := Register.toNat_flagOf_add_demandOf drain.register.bits
  have hflag := Register.toNat_flagOf drain.register.bits
  intro hbits
  apply h
  rw [afterRequest, Register.toNat_bits_add, Demand.toNat_add, Demand.toNat_unbounded] at hbits
  rw [Register.toNat_terminalBit] at hflag
  split at hflag <;> omega

/-- A request of something wakes a stalled drain. -/
theorem isStalled_afterRequest_of_ne_zero (h : drain.isStalled = true) {amount : UInt64}
    (hamount : amount ≠ 0) : (drain.afterRequest amount).isStalled = false := by
  have hreads : drain.register.Reads true 0 := by
    rw [isStalled, decide_eq_true_eq] at h
    unfold Register.Reads
    rw [h]
    rfl
  rw [isStalled_eq_false_iff, ne_eq]
  show ¬ (drain.register.add amount).bits = Register.terminalBit
  rw [(hreads.add amount).eq_terminalBit_iff, Nat.zero_add]
  rintro ⟨-, hzero⟩
  exact hamount (UInt64.toNat.inj hzero)

/-- A drain that is not stalled starts no pass on a request. -/
theorem passOnRequest_of_awake (h : drain.isStalled = false) (amount : UInt64)
    (ending : Ending) : drain.passOnRequest amount ending = none := by
  simp [passOnRequest, h]

/-- A request for nothing starts no pass. -/
theorem passOnRequest_zero (ending : Ending) : drain.passOnRequest 0 ending = none := by
  simp [passOnRequest]

/-- A request that is made while a pass is under way is absorbed by it. -/
theorem Running.request (h : Running drain pass left owed) (amount : UInt64) :
    Running (drain.afterRequest amount) pass left (owed + amount.toNat) := by
  have hreads := h.reads.add amount
  have hle : drain.register.bits.toNat ≤ (drain.register.add amount).bits.toNat := by
    have hbits := h.reads
    unfold Register.Reads at hreads hbits
    omega
  exact {
    items := h.items
    emitted := h.emitted
    emitted_le_goal := h.emitted_le_goal
    goal_le := Nat.le_trans h.goal_le hle
    reads := by rw [← Nat.add_assoc]; exact hreads
    room := h.room
    awake := isStalled_afterRequest h.awake amount }

/-- Requests that are absorbed keep a drain from stalling. -/
theorem isStalled_foldl_afterRequest {drain : Drain α} (h : drain.isStalled = false)
    (amounts : List UInt64) : (amounts.foldl afterRequest drain).isStalled = false := by
  induction amounts generalizing drain with
  | nil => exact h
  | cons amount amounts ih => exact ih (isStalled_afterRequest h amount)

/-- Requests keep the failure that is held back. -/
theorem failure_foldl_afterRequest (drain : Drain α) (amounts : List UInt64) :
    (amounts.foldl afterRequest drain).failure = drain.failure := by
  induction amounts generalizing drain with
  | nil => rfl
  | cons amount amounts ih => exact ih (drain.afterRequest amount)

/-- Requests add up in the register. -/
theorem reads_foldl_afterRequest {terminal : Bool} {demand : Nat}
    (h : drain.register.Reads terminal demand) (amounts : List UInt64) :
    (amounts.foldl afterRequest drain).register.Reads terminal
      (demand + (amounts.map UInt64.toNat).sum) := by
  induction amounts generalizing drain demand with
  | nil => exact h
  | cons amount amounts ih =>
      rw [List.map_cons, List.sum_cons, ← Nat.add_assoc]
      have hadded : (drain.afterRequest amount).register.Reads terminal
          (demand + amount.toNat) := h.add amount
      exact ih hadded

/-- Requests leave the buffer alone. -/
theorem buffer_foldl_afterRequest (drain : Drain α) (amounts : List UInt64) :
    (amounts.foldl afterRequest drain).buffer = drain.buffer := by
  induction amounts generalizing drain with
  | nil => rfl
  | cons amount amounts ih => exact ih (drain.afterRequest amount)

/-- Requests that are absorbed by a pass are owed by it. -/
theorem Running.requests {drain : Drain α} {pass : Pass} {left : List α} {owed : Nat}
    (h : Running drain pass left owed) (amounts : List UInt64) :
    Running (amounts.foldl afterRequest drain) pass left
      (owed + (amounts.map UInt64.toNat).sum) := by
  induction amounts generalizing drain owed with
  | nil => exact h
  | cons amount amounts ih =>
      rw [List.map_cons, List.sum_cons, ← Nat.add_assoc]
      exact ih (h.request amount)

/-! ## Turns -/

/-- A turn of a pass keeps the failure that is held back. -/
@[simp] theorem failure_advance (drain : Drain α) (pass : Pass) (stop : Bool) :
    (drain.advance pass stop).1.failure = drain.failure := by
  unfold advance
  split
  · rfl
  · split
    · split <;> rfl
    · split
      · rfl
      · split <;> rfl

/-- A turn of a pass keeps the terminal signal. -/
theorem conclusion_of_advance {ι : Type} {next : Drain α} {stop : Bool} {move : PassMove α}
    (h : drain.advance pass stop = (next, move)) (ending : Ending) :
    next.conclusion (ι := ι) ending = drain.conclusion ending := by
  have hfailure := failure_advance drain pass stop
  rw [h] at hfailure
  cases ending with
  | completion => rfl
  | heldFailure => rw [conclusion, hfailure]; rfl

/-- A buffer that holds items hands out the first of them. -/
theorem poll?_of_items_eq_cons {buffer : Buffer α} (h : buffer.items = x :: left) :
    ∃ rest, buffer.poll? = some (x, rest) ∧ rest.items = left := by
  rcases hpoll : buffer.poll? with _ | ⟨y, rest⟩
  · rw [Buffer.poll?_eq_none_iff.1 hpoll] at h
    contradiction
  · have hitems := Buffer.items_poll? hpoll
    rw [h] at hitems
    cases hitems
    exact ⟨rest, rfl, rfl⟩

/-- A buffer that holds items is not empty. -/
theorem isEmpty_eq_false_of_items_eq_cons {buffer : Buffer α} (h : buffer.items = x :: left) :
    buffer.isEmpty = false := by
  rw [Bool.eq_false_iff, ne_eq, Buffer.isEmpty_iff, h]
  exact List.cons_ne_nil x left

/-- When nothing is left the pass concludes, whether its goal is met or not. -/
theorem Running.advance_nil (h : Running drain pass [] owed) :
    drain.advance pass false = (drain, .conclude) := by
  have hpoll := Buffer.poll?_eq_none_iff.2 h.items
  have hempty := Buffer.isEmpty_iff.2 h.items
  by_cases hgoal : pass.emitted = pass.goal <;> simp [advance, hgoal, hpoll, hempty]

/-- While the goal is not met the next item is delivered. -/
theorem Running.advance_deliver (h : Running drain pass (x :: left) owed)
    (hgoal : pass.emitted ≠ pass.goal) :
    ∃ next less, owed = less + 1 ∧
      drain.advance pass false = (next, .deliver x pass.counted) ∧
      Running next pass.counted left less := by
  obtain ⟨rest, hpoll, hrest⟩ := poll?_of_items_eq_cons h.items
  have hlt : pass.emitted.toNat < pass.goal.toNat :=
    Nat.lt_of_le_of_ne h.emitted_le_goal (mt UInt64.toNat_inj.1 hgoal)
  have hreads := h.reads
  have hroom := h.room
  rw [List.length_cons] at hroom
  have howed : owed ≠ 0 := by
    rintro rfl
    have hbits := h.goal_le
    unfold Register.Reads at hreads
    rw [hreads, Nat.add_zero, Nat.min_eq_left (by omega), ← h.emitted] at hbits
    omega
  obtain ⟨less, rfl⟩ := Nat.exists_eq_succ_of_ne_zero howed
  have hemitted : pass.counted.emitted.toNat = pass.emitted.toNat + 1 := by
    have hword : pass.goal.toNat < 18446744073709551616 := UInt64.toNat_lt pass.goal
    rw [Pass.counted, UInt64.toNat_add]
    exact Nat.mod_eq_of_lt (Nat.lt_of_le_of_lt hlt hword)
  have hsent : pass.counted.sent = pass.sent + 1 := by
    have hword : pass.counted.emitted.toNat =
        Register.flagValue (!pass.closing) + (pass.sent + 1) := by
      rw [hemitted, h.emitted, Nat.add_assoc]
    exact Register.toNat_demandOf_of_eq hword (by omega)
  refine ⟨{ drain with buffer := rest }, less, rfl, by simp [advance, hgoal, hpoll, Pass.counted],
    ?_⟩
  exact {
    items := hrest
    emitted := by rw [hemitted, hsent, h.emitted, Nat.add_assoc]; rfl
    emitted_le_goal := by rw [hemitted]; exact hlt
    goal_le := h.goal_le
    reads := by
      rw [hsent, Nat.add_assoc, Nat.add_comm 1]
      exact hreads
    room := by rw [hsent]; omega
    awake := h.awake }

/-- A pass that has met its goal while more is owed looks at the register again. -/
theorem Running.advance_again (h : Running drain pass (x :: left) (owed + 1))
    (hgoal : pass.emitted = pass.goal) :
    ∃ renewed, drain.advance pass false = (drain, .again renewed) ∧
      renewed.emitted ≠ renewed.goal ∧ renewed.ending = pass.ending ∧
      Running drain renewed (x :: left) (owed + 1) := by
  have hempty := isEmpty_eq_false_of_items_eq_cons h.items
  have hroom := h.room
  rw [List.length_cons] at hroom
  have hlt : pass.emitted.toNat < drain.register.bits.toNat := by
    have hreads := h.reads
    unfold Register.Reads at hreads
    rw [hreads, h.emitted]
    omega
  have hne : drain.register.bits ≠ pass.emitted := by
    intro heq
    rw [heq] at hlt
    exact Nat.lt_irrefl _ hlt
  refine ⟨{ pass with goal := drain.register.bits }, ?_, hne.symm, rfl, ?_⟩
  · unfold advance
    simp [← hgoal, hempty, hne]
  · exact { h with emitted_le_goal := Nat.le_of_lt hlt, goal_le := Nat.le_refl _ }

/-- A pass that finds nothing owed settles, and the register then says "terminated, nothing
outstanding". -/
theorem Running.advance_cons_zero (h : Running drain pass (x :: left) 0) :
    ∃ next, drain.advance pass false = (next, .stop) ∧ Stalled next (x :: left) := by
  have hempty := isEmpty_eq_false_of_items_eq_cons h.items
  have hreads := h.reads
  have hroom := h.room
  have hsent : pass.sent ≤ Demand.unbounded.toNat := by omega
  have hbits : drain.register.bits = pass.emitted := by
    apply UInt64.toNat.inj
    rw [hreads, Nat.add_zero, Nat.min_eq_left hsent, h.emitted]
  have hgoal : pass.emitted = pass.goal := by
    apply UInt64.toNat.inj
    have hle := h.goal_le
    rw [hbits] at hle
    exact Nat.le_antisymm h.emitted_le_goal hle
  refine ⟨drain.settled pass, ?_, h.items, List.cons_ne_nil x left, ?_⟩
  · unfold advance
    simp [← hgoal, hempty, hbits]
  · rw [Nat.add_zero] at hreads
    have hdelivered : (Register.demandOf pass.emitted).toNat = pass.sent := rfl
    have hsettled := hreads.settle hdelivered hsent
    unfold settled
    cases hclosing : pass.closing
    · rw [hclosing] at hsettled
      exact hsettled
    · rw [hclosing] at hsettled
      obtain ⟨marked, hmark, hmarked⟩ := hsettled.markTerminal?
      simpa [hmark] using hmarked

/-! ## Starting a pass -/

/-- The pass that termination starts over a buffer that holds items. -/
theorem running_of_termination {demand : Nat} (hitems : drain.buffer.items = x :: left)
    (hreads : drain.register.Reads false demand)
    (hsize : (x :: left).length ≤ Demand.unbounded.toNat) (ending : Ending) :
    ∃ pass, drain.passOnTermination ending = some pass ∧ pass.ending = ending ∧
      Running drain pass (x :: left) demand := by
  have hempty := isEmpty_eq_false_of_items_eq_cons hitems
  have hflag : Register.flagOf drain.register.bits = 0 :=
    UInt64.toNat.inj (Register.toNat_flagOf_of_eq hreads (Nat.min_le_right _ _))
  have hsent : (Pass.start drain.register.bits ending true).sent = 0 := by
    simp only [Pass.sent, Pass.start, hflag]
    decide
  have hemitted : (Pass.start drain.register.bits ending true).emitted.toNat = 0 := by
    rw [Pass.start, hflag]
    rfl
  refine ⟨.start drain.register.bits ending true, by simp [passOnTermination, hempty], rfl, ?_⟩
  exact {
    items := hitems
    emitted := by rw [hsent, hemitted]; rfl
    emitted_le_goal := by rw [hemitted]; exact Nat.zero_le _
    goal_le := Nat.le_refl _
    reads := by rw [hsent, Nat.zero_add]; exact hreads
    room := by rw [hsent, Nat.zero_add]; exact hsize
    awake := isStalled_of_reads hreads }

/-- The pass that a request starts on a stalled drain. -/
theorem running_of_request (h : Stalled drain left)
    (hsize : left.length ≤ Demand.unbounded.toNat) {amount : UInt64} (hamount : amount ≠ 0)
    (ending : Ending) :
    ∃ pass, drain.passOnRequest amount ending = some pass ∧ pass.ending = ending ∧
      Running (drain.afterRequest amount) pass left amount.toNat := by
  have hstalled : drain.isStalled = true := by
    rw [isStalled, decide_eq_true_eq, h.reads.eq_terminalBit_iff]
    exact ⟨rfl, rfl⟩
  have hreads := h.reads.add amount
  rw [Nat.zero_add] at hreads
  have hdemand := Register.toNat_demandOf amount
  have hword := Register.toNat_withTerminal amount
  have hmod : (Register.demandOf amount).toNat ≤ min amount.toNat Demand.unbounded.toNat := by
    rw [hdemand, Register.toNat_terminalBit, Demand.toNat_unbounded]
    omega
  have hmarked : (Register.withTerminal amount).toNat =
      Register.flagValue true + (Register.demandOf amount).toNat := hword
  have hflag : (Register.flagOf (Register.withTerminal amount)).toNat =
      Register.flagValue true + 0 :=
    Register.toNat_flagOf_of_eq hmarked (Nat.le_trans hmod (Nat.min_le_right _ _))
  have hsent : (Pass.start (Register.withTerminal amount) ending false).sent = 0 :=
    Register.toNat_demandOf_of_eq hflag (Nat.zero_le _)
  refine ⟨.start (Register.withTerminal amount) ending false,
    by simp [passOnRequest, hstalled, hamount], rfl, ?_⟩
  exact {
    items := h.items
    emitted := by rw [hsent]; exact hflag
    emitted_le_goal := by
      show (Register.flagOf (Register.withTerminal amount)).toNat ≤
        (Register.withTerminal amount).toNat
      rw [hflag, hword]
      exact Nat.le_add_right _ _
    goal_le := by
      show (Register.withTerminal amount).toNat ≤ (drain.register.add amount).bits.toNat
      rw [hreads, hword]
      exact Nat.add_le_add_left hmod _
    reads := by rw [hsent, Nat.zero_add]; exact hreads
    room := by rw [hsent, Nat.zero_add]; exact hsize
    awake := isStalled_afterRequest_of_ne_zero hstalled hamount }

end Drain

end Backpressure
