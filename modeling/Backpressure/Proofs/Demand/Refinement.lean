import Mathlib.Algebra.Ring.Nat
import Backpressure.Proofs.Demand.Reads

/-!
# The register as a flag and a number

What a register holds is a flag and a number that never exceeds the unbounded amount. Each operation
does to its word what the same operation does to that pair, as long as no more is settled than is
outstanding, and the words it answers with decode to the states of the pair.

Main results:

- Theorem `Holds.perform` is the step: an operation on the word is the operation on the pair.
- Theorem `performAll_eq_of_sum_eq` shows that of several requests in a row only the sum matters.
- Theorem `ofBits_toBits_eq_self_iff` says which states survive being encoded.
- Theorem `register_refines_reading` puts them together for all series of operations.
-/

namespace Backpressure.Register

/-! ## The pair -/

/-- What a register stands for: whether the source has terminated, and how much is outstanding. -/
structure Reading where
  terminal : Bool := false
  demand : Nat := 0
  deriving DecidableEq

namespace Reading

/-- The state with this flag and this amount. -/
def state (reading : Reading) : DemandState :=
  if reading.terminal then .terminal (UInt64.ofNat reading.demand)
  else .active (UInt64.ofNat reading.demand)

/-- The pair after an operation. -/
def after (reading : Reading) : Operation → Reading
  | .add amount =>
      { reading with demand := min (reading.demand + amount.toNat) Demand.unbounded.toNat }
  | .markTerminal => { reading with terminal := true }
  | .settle delivered => { reading with demand := reading.demand - delivered.toNat }

/-- The state that an operation answers with: the one before a request, the one before the flag is
set for the first time, and the one after a settlement. -/
def answer (reading : Reading) : Operation → Option DemandState
  | .add _ => some reading.state
  | .markTerminal => if reading.terminal then none else some reading.state
  | .settle delivered => some (reading.after (.settle delivered)).state

/-- The answers to operations in order. -/
def answers (reading : Reading) : List Operation → List (Option DemandState)
  | [] => []
  | operation :: rest => reading.answer operation :: (reading.after operation).answers rest

/-- No more is settled than is outstanding. -/
def Permits (reading : Reading) : Operation → Prop
  | .settle delivered => delivered.toNat ≤ reading.demand
  | .add _ | .markTerminal => True

/-- At no point of a series is more settled than is outstanding. -/
def PermitsAll (reading : Reading) : List Operation → Prop
  | [] => True
  | operation :: rest => reading.Permits operation ∧ (reading.after operation).PermitsAll rest

instance decidablePermits (reading : Reading) :
    (operation : Operation) → Decidable (reading.Permits operation)
  | .settle delivered => inferInstanceAs (Decidable (delivered.toNat ≤ reading.demand))
  | .add _ => inferInstanceAs (Decidable True)
  | .markTerminal => inferInstanceAs (Decidable True)

instance decidablePermitsAll (reading : Reading) :
    (operations : List Operation) → Decidable (reading.PermitsAll operations)
  | [] => inferInstanceAs (Decidable True)
  | operation :: rest =>
      have := decidablePermitsAll (reading.after operation) rest
      inferInstanceAs
        (Decidable (reading.Permits operation ∧ (reading.after operation).PermitsAll rest))

end Reading

/-! ## Every operation on the word is the operation on the pair -/

/-- The word of a register says what a pair says. -/
structure Holds (register : Register) (reading : Reading) : Prop where
  reads : register.Reads reading.terminal reading.demand
  le : reading.demand ≤ Demand.unbounded.toNat

namespace Holds

variable {register : Register} {reading : Reading}

/-- A fresh register has no flag and no demand. -/
theorem fresh : Holds {} {} := ⟨Reads.fresh, Nat.zero_le _⟩

/-- The word decodes to the state of the pair. -/
theorem state_eq (h : Holds register reading) : register.state = reading.state := by
  obtain ⟨terminal, demand⟩ := reading
  cases terminal with
  | false => rw [h.reads.state_of_active, Nat.min_eq_left h.le]; rfl
  | true => rw [h.reads.state_of_terminal, Nat.min_eq_left h.le]; rfl

/-- An operation that is permitted does the same to both, and answers with the same state. -/
theorem perform (h : Holds register reading) {operation : Operation}
    (hpermits : reading.Permits operation) :
    Holds (register.perform operation).1 (reading.after operation) ∧
      (register.perform operation).2.map DemandState.ofBits = reading.answer operation := by
  cases operation with
  | add amount =>
      refine ⟨⟨?_, Nat.min_le_right _ _⟩, congrArg some h.state_eq⟩
      have hadd := h.reads.add amount
      unfold Reads at hadd ⊢
      simpa only [Register.perform, Reading.after, Nat.min_assoc, Nat.min_self] using hadd
  | markTerminal =>
      obtain ⟨terminal, demand⟩ := reading
      cases terminal with
      | false =>
          obtain ⟨marked, hmarked, hreads⟩ := h.reads.markTerminal?
          simp only [Register.perform, hmarked]
          exact ⟨⟨hreads, h.le⟩, congrArg some h.state_eq⟩
      | true =>
          have hnone : register.markTerminal? = none := if_pos h.reads.isTerminal_eq
          simp only [Register.perform, hnone]
          exact ⟨h, rfl⟩
  | settle delivered =>
      have hsettled : Holds (register.settle delivered) (reading.after (.settle delivered)) :=
        ⟨h.reads.settle_of_le hpermits h.le, Nat.le_trans (Nat.sub_le _ _) h.le⟩
      exact ⟨hsettled, congrArg some hsettled.state_eq⟩

/-- So does a series of operations that is permitted throughout. -/
theorem performAll (h : Holds register reading) {operations : List Operation}
    (hpermits : reading.PermitsAll operations) :
    Holds (register.performAll operations).1 (operations.foldl Reading.after reading) ∧
      (register.performAll operations).2.map (Option.map DemandState.ofBits) =
        reading.answers operations := by
  induction operations generalizing register reading with
  | nil => exact ⟨h, rfl⟩
  | cons operation rest ih =>
      obtain ⟨hnext, hanswer⟩ := h.perform hpermits.1
      obtain ⟨hlast, hanswers⟩ := ih hnext hpermits.2
      refine ⟨hlast, ?_⟩
      rw [Register.performAll, List.map_cons, hanswer, hanswers, Reading.answers]

end Holds

/-! ## Requests in a row -/

/-- Several requests add up, whatever the word was. -/
theorem Reads.performAll_add {register : Register} {terminal : Bool} {demand : Nat}
    (h : register.Reads terminal demand) (amounts : List UInt64) :
    (register.performAll (amounts.map .add)).1.Reads terminal
      (demand + (amounts.map UInt64.toNat).sum) := by
  induction amounts generalizing register demand with
  | nil => exact h
  | cons amount amounts ih =>
      have hrest := ih (h.add amount)
      rwa [Nat.add_assoc, ← List.sum_cons, ← List.map_cons] at hrest

/-- Only the sum of requests in a row matters to what comes of a series of operations. -/
theorem performAll_eq_of_sum_eq (register : Register) (before behind : List Operation)
    {amounts others : List UInt64}
    (hsum : (amounts.map UInt64.toNat).sum = (others.map UInt64.toNat).sum) :
    (register.performAll (before ++ amounts.map .add ++ behind)).1 =
      (register.performAll (before ++ others.map .add ++ behind)).1 := by
  simp only [performAll_append]
  have hreads := reads_self (register.performAll before).1
  have hamounts := hreads.performAll_add amounts
  rw [hsum] at hamounts
  rw [hamounts.unique (hreads.performAll_add others)]

/-! ## Encoding a state -/

/-- The word for a state says the flag of the state and its amount without the top bit. -/
theorem reads_toBits (state : DemandState) :
    Reads ⟨state.toBits⟩ state.isTerminal (state.pending.toNat % terminalBit.toNat) := by
  have hlt : state.pending.toNat % terminalBit.toNat < terminalBit.toNat :=
    Nat.mod_lt _ (by decide)
  unfold Reads
  rw [Demand.toNat_unbounded, toNat_terminalBit] at *
  rw [Nat.min_eq_left (by omega)]
  cases state with
  | active pending =>
      rw [DemandState.toBits, toNat_demandOf, toNat_terminalBit]
      exact (Nat.zero_add _).symm
  | terminal pending =>
      rw [DemandState.toBits, toNat_withTerminal, toNat_demandOf, toNat_demandOf,
        toNat_terminalBit, Nat.mod_mod]
      rfl

/-- A state is recovered from its word exactly when its amount leaves the top bit free. -/
theorem ofBits_toBits_eq_self_iff (state : DemandState) :
    DemandState.ofBits state.toBits = state ↔ state.pending.toNat < terminalBit.toNat := by
  have hholds : Holds ⟨state.toBits⟩
      ⟨state.isTerminal, state.pending.toNat % terminalBit.toNat⟩ :=
    ⟨reads_toBits state, Nat.le_of_lt_succ (Nat.mod_lt _ (by decide))⟩
  have hdecoded : DemandState.ofBits state.toBits = _ := hholds.state_eq
  have hamount : UInt64.ofNat (state.pending.toNat % terminalBit.toNat) = state.pending ↔
      state.pending.toNat < terminalBit.toNat := by
    have hmod : state.pending.toNat % terminalBit.toNat < 18446744073709551616 :=
      Nat.lt_trans (Nat.mod_lt _ (by decide)) (by decide)
    rw [← UInt64.toNat_inj, UInt64.toNat_ofNat_of_lt' hmod]
    exact Nat.mod_eq_iff_lt (by decide)
  rw [hdecoded, ← hamount]
  cases state <;> simp [Reading.state, DemandState.isTerminal, DemandState.pending]

/-! ## The whole register -/

/-- A register that starts fresh and never settles more than is outstanding is a flag and a number:
its word decodes to them after every operation, and so do the words that the operations answer with.
Requests between two other operations may be put in another order, or into one if their sum is a
word. Every word is recovered from its state, and a state from its word if its amount leaves the top
bit free. -/
theorem register_refines_reading :
    (∀ operations : List Operation, ({} : Reading).PermitsAll operations →
      (({} : Register).performAll operations).1.state =
          (operations.foldl Reading.after {}).state ∧
        (({} : Register).performAll operations).2.map (Option.map DemandState.ofBits) =
          ({} : Reading).answers operations) ∧
    (∀ (register : Register) (before behind : List Operation) (amounts others : List UInt64),
      amounts.Perm others →
      (register.performAll (before ++ amounts.map .add ++ behind)).1 =
        (register.performAll (before ++ others.map .add ++ behind)).1) ∧
    (∀ (register : Register) (before behind : List Operation) (amounts : List UInt64),
      (amounts.map UInt64.toNat).sum < 2 ^ 64 →
      (register.performAll (before ++ amounts.map .add ++ behind)).1 =
        (register.performAll
          (before ++ .add (UInt64.ofNat (amounts.map UInt64.toNat).sum) :: behind)).1) ∧
    (∀ word : UInt64, (DemandState.ofBits word).toBits = word) ∧
    ∀ state : DemandState,
      DemandState.ofBits state.toBits = state ↔ state.pending.toNat < 2 ^ 63 := by
  refine ⟨fun operations hpermits => ?_, fun register before behind amounts others hperm => ?_,
    fun register before behind amounts hsum => ?_, DemandState.toBits_ofBits,
    ofBits_toBits_eq_self_iff⟩
  · obtain ⟨hholds, hanswers⟩ := Holds.fresh.performAll hpermits
    exact ⟨hholds.state_eq, hanswers⟩
  · exact performAll_eq_of_sum_eq register before behind (hperm.map _).sum_nat
  · have hmerged : ([UInt64.ofNat (amounts.map UInt64.toNat).sum].map UInt64.toNat).sum =
        (amounts.map UInt64.toNat).sum := by
      rw [List.map_singleton, List.sum_singleton, UInt64.toNat_ofNat_of_lt' hsum]
    rw [performAll_eq_of_sum_eq register before behind hmerged.symm, List.append_assoc]
    rfl

/-- Requests with the top bit set and beyond the limit, marking twice, and settling all there is:
the flag is set once and stays, and no amount reaches it. -/
theorem register_refines_reading_at_limit :
    ({} : Register).performAll [.add 0x8000000000000003, .markTerminal, .settle 7, .markTerminal,
        .add 5, .add 0xffffffffffffffff, .settle 0x7fffffffffffffff] =
      (⟨0x8000000000000000⟩, [some 0, some 0x7fffffffffffffff, some 0xfffffffffffffff8, none,
        some 0xfffffffffffffff8, some 0xfffffffffffffffd, some 0x8000000000000000]) ∧
    (({} : Register).performAll [.add 0x8000000000000003, .markTerminal, .settle 7, .markTerminal,
        .add 5, .add 0xffffffffffffffff, .settle 0x7fffffffffffffff]).1.state = .terminal 0 ∧
    (({} : Register).performAll ([.markTerminal] ++ [5, 7, 1].map .add ++ [.settle 4])).1 =
      (({} : Register).performAll ([.markTerminal] ++ [1, 5, 7].map .add ++ [.settle 4])).1 ∧
    (({} : Register).performAll ([.markTerminal] ++ [5, 7, 1].map .add ++ [.settle 4])).1 =
      (({} : Register).performAll ([.markTerminal] ++ .add 13 :: [.settle 4])).1 := by
  refine ⟨by decide, ?_, ?_, ?_⟩
  · exact (register_refines_reading.1 _ (by decide)).1
  · exact register_refines_reading.2.1 {} _ _ _ _ (by decide)
  · exact register_refines_reading.2.2.1 {} _ _ _ (by decide)

end Backpressure.Register
