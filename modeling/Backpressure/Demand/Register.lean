import Backpressure.Demand

/-!
# The demand register

One 64-bit word holds the outstanding demand and, in its top bit, whether the source has
terminated. Keeping both in one word lets a reader see them together.

Main results:

- Theorem `toBits_ofBits` shows that a word is recovered from the state it decodes to.
- Theorem `toNat_bits_add` and theorem `toNat_bits_settle` describe the word after a request and
  after a settlement as natural numbers.
-/

namespace Backpressure

/-- What a register word means: the outstanding demand, before or after termination. -/
inductive DemandState where
  | active (pending : UInt64)
  | terminal (pending : UInt64)
  deriving DecidableEq

/-- A register: one word for the demand and the terminal flag. -/
structure Register where
  bits : UInt64 := 0
  deriving DecidableEq

namespace Register

/-! ## The two parts of a word -/

/-- The bit that says that the source has terminated. -/
def terminalBit : UInt64 := 0x8000000000000000

/-- The bits that hold the demand. -/
def demandBits : UInt64 := 0x7fffffffffffffff

/-- The terminal bit of a word, and nothing else of it. -/
def flagOf (word : UInt64) : UInt64 := word &&& terminalBit

/-- The demand in a word, without its terminal bit. -/
def demandOf (word : UInt64) : UInt64 := word &&& demandBits

/-- A word with its terminal bit set. -/
def withTerminal (word : UInt64) : UInt64 := word ||| terminalBit

/-- The terminal bit as a natural number. -/
@[simp] theorem toNat_terminalBit : terminalBit.toNat = 9223372036854775808 := rfl

/-- The demand in a word, as a natural number. -/
theorem toNat_demandOf (word : UInt64) :
    (demandOf word).toNat = word.toNat % terminalBit.toNat := by
  rw [demandOf, UInt64.toNat_and]
  exact Nat.and_two_pow_sub_one_eq_mod _ 63

/-- The terminal bit of a word, as a natural number. -/
theorem toNat_flagOf (word : UInt64) :
    (flagOf word).toNat = if word.toNat < terminalBit.toNat then 0 else terminalBit.toNat := by
  have hword : word.toNat < 18446744073709551616 := UInt64.toNat_lt word
  have hmask : ∀ n k : Nat, n &&& 2 ^ k = if n.testBit k then 2 ^ k else 0 := by
    intro n k
    apply Nat.eq_of_testBit_eq
    intro i
    rw [Nat.testBit_and, Nat.testBit_two_pow]
    by_cases h : k = i
    · subst h
      cases n.testBit k <;> simp [Nat.testBit_two_pow_self]
    · cases n.testBit k <;> simp [h]
  have hbit : word.toNat.testBit 63 = !decide (word.toNat < terminalBit.toNat) := by
    rw [Nat.testBit_eq_decide_div_mod_eq, ← decide_not, toNat_terminalBit]
    apply decide_eq_decide.mpr
    omega
  rw [flagOf, UInt64.toNat_and]
  refine (hmask word.toNat 63).trans ?_
  rw [hbit]
  by_cases h : word.toNat < terminalBit.toNat
  · rw [if_pos h, decide_eq_true h]
    rfl
  · rw [if_neg h, decide_eq_false h]
    rfl

/-- The two parts of a word add up to the word. -/
theorem toNat_flagOf_add_demandOf (word : UInt64) :
    (flagOf word).toNat + (demandOf word).toNat = word.toNat := by
  have hword : word.toNat < 18446744073709551616 := UInt64.toNat_lt word
  rw [toNat_flagOf, toNat_demandOf, toNat_terminalBit]
  split <;> omega

/-- A flag and an amount of demand share no bit: joining them is adding them. -/
theorem toNat_flagOf_or (word amount : UInt64) (h : amount.toNat < terminalBit.toNat) :
    (flagOf word ||| amount).toNat = (flagOf word).toNat + amount.toNat := by
  rw [UInt64.toNat_or, toNat_flagOf]
  split
  · rw [Nat.zero_or, Nat.zero_add]
  · have hadd := Nat.two_pow_add_eq_or_of_lt (i := 63) h 1
    rw [Nat.mul_one] at hadd
    exact hadd.symm

/-- Setting the terminal bit adds it to the demand. -/
theorem toNat_withTerminal (word : UInt64) :
    (withTerminal word).toNat = terminalBit.toNat + (demandOf word).toNat := by
  have hword : word.toNat < 18446744073709551616 := UInt64.toNat_lt word
  have hor : word.toNat ||| 2 ^ 63 = 2 ^ 63 ||| word.toNat % 2 ^ 63 := by
    apply Nat.eq_of_testBit_eq
    intro i
    rw [Nat.testBit_or, Nat.testBit_or, Nat.testBit_two_pow, Nat.testBit_mod_two_pow]
    rcases Nat.lt_trichotomy i 63 with h | rfl | h
    · simp [h, Nat.ne_of_gt h]
    · simp
    · have hhigh : word.toNat.testBit i = false :=
        Nat.testBit_lt_two_pow (Nat.lt_of_lt_of_le hword
          (Nat.pow_le_pow_right (n := 2) (by decide) h))
      simp [hhigh]
  have hjoin : withTerminal word = flagOf terminalBit ||| demandOf word := by
    apply UInt64.toNat.inj
    rw [withTerminal, UInt64.toNat_or, UInt64.toNat_or, toNat_demandOf]
    exact hor
  rw [hjoin, toNat_flagOf_or _ _ (by rw [toNat_demandOf]; exact Nat.mod_lt _ (by decide))]
  rfl

end Register

namespace DemandState

/-! ## Encoding -/

/-- The state that a word means. -/
def ofBits (word : UInt64) : DemandState :=
  if Register.flagOf word = 0 then .active word else .terminal (Register.demandOf word)

/-- The word for a state; only the demand bits of the amount are kept. -/
def toBits : DemandState → UInt64
  | .active pending => Register.demandOf pending
  | .terminal pending => Register.withTerminal (Register.demandOf pending)

/-- The outstanding demand of a state. -/
def pending : DemandState → UInt64
  | .active pending => pending
  | .terminal pending => pending

/-- Whether the source has terminated. -/
def isTerminal : DemandState → Bool
  | .active _ => false
  | .terminal _ => true

/-- The text of a state. -/
def text : DemandState → String
  | .active pending => "Active(" ++ toString pending.toNat ++ ")"
  | .terminal pending => "Terminal(" ++ toString pending.toNat ++ ")"

/-- A word is recovered from the state it decodes to. -/
theorem toBits_ofBits (word : UInt64) : toBits (ofBits word) = word := by
  have hword : word.toNat < 18446744073709551616 := UInt64.toNat_lt word
  unfold ofBits
  split
  next h =>
    apply UInt64.toNat.inj
    have hflag := Register.toNat_flagOf word
    rw [h] at hflag
    have hlt : word.toNat < Register.terminalBit.toNat := by
      by_cases hlt : word.toNat < Register.terminalBit.toNat
      · exact hlt
      · rw [if_neg hlt] at hflag
        exact absurd hflag (by decide)
    rw [toBits, Register.toNat_demandOf, Nat.mod_eq_of_lt hlt]
  next h =>
    apply UInt64.toNat.inj
    have hge : ¬ word.toNat < Register.terminalBit.toNat := by
      intro hlt
      apply h
      apply UInt64.toNat.inj
      rw [Register.toNat_flagOf, if_pos hlt]
      rfl
    simp only [toBits, Register.toNat_withTerminal, Register.toNat_demandOf, Nat.mod_mod]
    rw [Register.toNat_terminalBit] at hge ⊢
    omega

end DemandState

namespace Register

/-! ## Operations -/

/-- The state a register is in. -/
def state (register : Register) : DemandState := .ofBits register.bits

/-- The outstanding demand. -/
def pending (register : Register) : UInt64 := demandOf register.bits

/-- Whether the source has terminated. -/
def isTerminal (register : Register) : Bool := flagOf register.bits != 0

/-- Add a request to the demand and keep the flag. -/
def add (register : Register) (amount : UInt64) : Register :=
  ⟨flagOf register.bits ||| Demand.add (demandOf register.bits) amount⟩

/-- Set the terminal flag and keep the demand; a register that has it is not marked again. -/
def markTerminal? (register : Register) : Option Register :=
  if register.isTerminal then none else some ⟨withTerminal register.bits⟩

/-- Take deliveries off the whole word. The amount delivered never exceeds the demand, so that
the terminal bit is not touched. -/
def settle (register : Register) (delivered : UInt64) : Register :=
  ⟨register.bits - delivered⟩

/-- After a request the word holds the same flag and the capped sum. -/
theorem toNat_bits_add (register : Register) (amount : UInt64) :
    (register.add amount).bits.toNat =
      (flagOf register.bits).toNat + (Demand.add (demandOf register.bits) amount).toNat := by
  have hle := Demand.toNat_add_le (demandOf register.bits) amount
  rw [Demand.toNat_unbounded] at hle
  exact toNat_flagOf_or _ _ (by rw [toNat_terminalBit]; omega)

/-- Settling at most the outstanding demand subtracts it from the word. -/
theorem toNat_bits_settle {register : Register} {delivered : UInt64}
    (h : delivered.toNat ≤ register.bits.toNat) :
    (register.settle delivered).bits.toNat = register.bits.toNat - delivered.toNat :=
  UInt64.toNat_sub_of_le _ _ (UInt64.le_iff_toNat_le.mpr h)

/-! ## Series of operations -/

/-- An operation that changes a register. -/
inductive Operation where
  | add (amount : UInt64)
  | markTerminal
  | settle (delivered : UInt64)
  deriving DecidableEq

/-- Perform an operation. A request answers with the word before it, a settlement with the word
after it, and marking with the word before it if there was no flag yet. -/
def perform (register : Register) : Operation → Register × Option UInt64
  | .add amount => (register.add amount, some register.bits)
  | .markTerminal =>
      match register.markTerminal? with
      | some marked => (marked, some register.bits)
      | none => (register, none)
  | .settle delivered =>
      (register.settle delivered, some (register.settle delivered).bits)

/-- Perform operations in order, with the word that each answers with. -/
def performAll (register : Register) : List Operation → Register × List (Option UInt64)
  | [] => (register, [])
  | operation :: rest =>
      let (next, word) := register.perform operation
      let (last, words) := next.performAll rest
      (last, word :: words)

/-- Operations in two parts are performed one part after the other. -/
theorem performAll_append (register : Register) (first rest : List Operation) :
    register.performAll (first ++ rest) =
      (((register.performAll first).1.performAll rest).1,
        (register.performAll first).2 ++ ((register.performAll first).1.performAll rest).2) := by
  induction first generalizing register with
  | nil => rfl
  | cons operation first ih => simp only [List.cons_append, performAll, ih]

end Register

end Backpressure
