import Backpressure.Demand.Register

/-!
# Reading the demand register

A register word is read as a flag and a natural number. The number may exceed the unbounded amount,
which then stands in the word for it. Requests add to the number without further conditions, since
cutting off a sum twice is cutting it off once.

Main results:

- Theorem `Reads.add`, theorem `Reads.markTerminal?` and theorem `Reads.settle` say what the
  operations of a register do to what is read in it.
- Theorem `Reads.eq_terminalBit_iff` and theorem `state_eq_terminal_zero_iff` single out the word
  that says "terminated, nothing outstanding".
-/

namespace Backpressure.Register

/-- The flag of a word as a natural number. -/
def flagValue (terminal : Bool) : Nat := if terminal then terminalBit.toNat else 0

/-- The register says whether the source has terminated, and how much is outstanding. -/
def Reads (register : Register) (terminal : Bool) (demand : Nat) : Prop :=
  register.bits.toNat = flagValue terminal + min demand Demand.unbounded.toNat

/-- The flag of a source that goes on. -/
@[simp] theorem flagValue_false : flagValue false = 0 := rfl

/-- The flag of a source that has terminated. -/
@[simp] theorem flagValue_true : flagValue true = 9223372036854775808 := rfl

/-- The flag of a word that is put together from a flag and an amount of demand. -/
theorem toNat_flagOf_of_eq {word : UInt64} {terminal : Bool} {amount : Nat}
    (hword : word.toNat = flagValue terminal + amount)
    (hamount : amount ≤ Demand.unbounded.toNat) :
    (flagOf word).toNat = flagValue terminal := by
  rw [Demand.toNat_unbounded] at hamount
  rw [toNat_flagOf, toNat_terminalBit, hword]
  cases terminal
  · rw [flagValue_false, if_pos (by omega)]
  · rw [flagValue_true, if_neg (by omega)]

/-- The demand of a word that is put together from a flag and an amount of demand. -/
theorem toNat_demandOf_of_eq {word : UInt64} {terminal : Bool} {amount : Nat}
    (hword : word.toNat = flagValue terminal + amount)
    (hamount : amount ≤ Demand.unbounded.toNat) : (demandOf word).toNat = amount := by
  have hsum := toNat_flagOf_add_demandOf word
  rw [toNat_flagOf_of_eq hword hamount, hword] at hsum
  exact Nat.add_left_cancel hsum

/-- The demand in a word never exceeds the unbounded amount. -/
theorem toNat_demandOf_le (word : UInt64) : (demandOf word).toNat ≤ Demand.unbounded.toNat := by
  rw [toNat_demandOf, toNat_terminalBit, Demand.toNat_unbounded]
  omega

/-- What a register says of itself. -/
theorem reads_self (register : Register) :
    register.Reads register.isTerminal (demandOf register.bits).toNat := by
  have hflag : (flagOf register.bits).toNat = flagValue register.isTerminal := by
    have hword := toNat_flagOf register.bits
    by_cases hzero : flagOf register.bits = 0
    · simp [isTerminal, hzero]
    · have hne : (flagOf register.bits).toNat ≠ 0 := fun h => hzero (UInt64.toNat.inj h)
      have hterminal : register.isTerminal = true := by simp [isTerminal, hzero]
      rw [hterminal, flagValue_true]
      split at hword
      · exact absurd hword hne
      · exact hword
  unfold Reads
  rw [Nat.min_eq_left (toNat_demandOf_le _), ← hflag, toNat_flagOf_add_demandOf]

namespace Reads

variable {register : Register} {terminal : Bool} {demand : Nat}

/-- A fresh register. -/
theorem fresh : ({} : Register).Reads false 0 := rfl

/-- A request adds to the demand. -/
theorem add (h : register.Reads terminal demand) (amount : UInt64) :
    (register.add amount).Reads terminal (demand + amount.toNat) := by
  have hle : min demand Demand.unbounded.toNat ≤ Demand.unbounded.toNat := Nat.min_le_right _ _
  unfold Reads at h ⊢
  rw [toNat_bits_add, toNat_flagOf_of_eq h hle, Demand.toNat_add, toNat_demandOf_of_eq h hle]
  omega

/-- Termination sets the flag and keeps the demand. -/
theorem markTerminal? (h : register.Reads false demand) :
    ∃ marked, register.markTerminal? = some marked ∧ marked.Reads true demand := by
  have hle : min demand Demand.unbounded.toNat ≤ Demand.unbounded.toNat := Nat.min_le_right _ _
  have hflag : flagOf register.bits = 0 :=
    UInt64.toNat.inj (toNat_flagOf_of_eq h hle)
  have hmark : register.markTerminal? = some ⟨withTerminal register.bits⟩ := by
    simp [Register.markTerminal?, isTerminal, hflag]
  refine ⟨_, hmark, ?_⟩
  unfold Reads
  rw [toNat_withTerminal, toNat_demandOf_of_eq h hle]
  rfl

/-- Settling takes what was delivered off the demand. -/
theorem settle_of_le (h : register.Reads terminal demand) {delivered : UInt64}
    (hdelivered : delivered.toNat ≤ demand) (hle : demand ≤ Demand.unbounded.toNat) :
    (register.settle delivered).Reads terminal (demand - delivered.toNat) := by
  unfold Reads at h ⊢
  rw [Nat.min_eq_left hle] at h
  rw [toNat_bits_settle (by omega), h]
  omega

/-- Settling all the demand that is read leaves none. -/
theorem settle (h : register.Reads terminal demand) {delivered : UInt64}
    (hdelivered : delivered.toNat = demand) (hle : demand ≤ Demand.unbounded.toNat) :
    (register.settle delivered).Reads terminal 0 := by
  have hsettled := h.settle_of_le (Nat.le_of_eq hdelivered) hle
  rwa [hdelivered, Nat.sub_self] at hsettled

/-- The flag that is read in a register is the one it holds. -/
theorem isTerminal_eq (h : register.Reads terminal demand) : register.isTerminal = terminal := by
  have hflag := toNat_flagOf_of_eq h (Nat.min_le_right _ _)
  cases terminal with
  | false =>
      have hzero : flagOf register.bits = 0 := UInt64.toNat.inj hflag
      simp [isTerminal, hzero]
  | true =>
      have hone : flagOf register.bits ≠ 0 := by
        intro hzero
        rw [hzero, flagValue_true] at hflag
        exact absurd hflag (by decide)
      simp [isTerminal, hone]

/-- Only a terminated source with nothing outstanding has the terminal bit as its word. -/
theorem eq_terminalBit_iff (h : register.Reads terminal demand) :
    register.bits = terminalBit ↔ terminal = true ∧ demand = 0 := by
  unfold Reads at h
  rw [Demand.toNat_unbounded] at h
  rw [← UInt64.toNat_inj, toNat_terminalBit, h]
  cases terminal
  · rw [flagValue_false]
    constructor
    · intro hbits
      omega
    · rintro ⟨hflag, -⟩
      contradiction
  · rw [flagValue_true]
    constructor
    · intro hbits
      exact ⟨rfl, by omega⟩
    · rintro ⟨-, rfl⟩
      rfl

/-- A source that has not terminated is in the state that says how much was asked for. -/
theorem state_of_active (h : register.Reads false demand) :
    register.state = .active (UInt64.ofNat (min demand Demand.unbounded.toNat)) := by
  have hflag : flagOf register.bits = 0 :=
    UInt64.toNat.inj (toNat_flagOf_of_eq h (Nat.min_le_right _ _))
  unfold Reads at h
  rw [flagValue_false, Nat.zero_add] at h
  rw [state, DemandState.ofBits, if_pos hflag, ← h, UInt64.ofNat_toNat]

/-- A source that has terminated is in the state that says how much is still outstanding. -/
theorem state_of_terminal (h : register.Reads true demand) :
    register.state = .terminal (UInt64.ofNat (min demand Demand.unbounded.toNat)) := by
  have hflag : flagOf register.bits ≠ 0 := by
    simpa [Register.isTerminal] using h.isTerminal_eq
  have hdemand := toNat_demandOf_of_eq h (Nat.min_le_right _ _)
  rw [state, DemandState.ofBits, if_neg hflag, ← hdemand, UInt64.ofNat_toNat]

/-- What is read in a register determines its word. -/
theorem unique {other : Register} (h : register.Reads terminal demand)
    (hother : other.Reads terminal demand) : register = other := by
  have hbits : register.bits = other.bits := UInt64.toNat.inj (h.trans hother.symm)
  cases register
  cases other
  exact congrArg Register.mk hbits

end Reads

/-- Only one word says "terminated, nothing outstanding". -/
theorem state_eq_terminal_zero_iff (register : Register) :
    register.state = .terminal 0 ↔ register.bits = terminalBit := by
  constructor
  · intro hstate
    rw [← DemandState.toBits_ofBits register.bits, ← state, hstate]
    rfl
  · intro hbits
    rw [state, hbits]
    decide

end Backpressure.Register
