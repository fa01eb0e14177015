/-!
# Demand

Demand is the number of items a subscriber is still owed, in a 64-bit word. It grows by requests
and shrinks by deliveries, and it stops growing at the amount that stands for no limit at all.

Main results:

- Theorem `toNat_add` shows that adding is addition of natural numbers, cut off at the limit.
- Theorem `toNat_produced` shows that delivering is subtraction that stops at zero, except that
  unbounded demand stays as it is.
- Theorem `getLast?_trail` reads the demand after several changes as a fold over them.
-/

namespace Backpressure.Demand

/-- The amount that stands for no limit. -/
def unbounded : UInt64 := 0x7fffffffffffffff

/-- Whether an amount stands for no limit. -/
def isUnbounded (amount : UInt64) : Bool := unbounded ≤ amount

/-- Add a request to the demand, up to the unbounded amount. -/
def add (current amount : UInt64) : UInt64 :=
  if current.toNat + amount.toNat ≤ unbounded.toNat then current + amount else unbounded

/-- Take deliveries off the demand; unbounded demand stays, and any other stops at zero. -/
def produced (current amount : UInt64) : UInt64 :=
  if current = unbounded then unbounded
  else if amount ≤ current then current - amount
  else 0

/-- The unbounded amount as a natural number. -/
@[simp] theorem toNat_unbounded : unbounded.toNat = 9223372036854775807 := rfl

/-- Adding is addition of natural numbers, cut off at the unbounded amount. -/
theorem toNat_add (current amount : UInt64) :
    (add current amount).toNat = min (current.toNat + amount.toNat) unbounded.toNat := by
  unfold add
  split
  next h =>
    rw [Nat.min_eq_left h, UInt64.toNat_add]
    rw [toNat_unbounded] at h
    exact Nat.mod_eq_of_lt (by omega)
  next h => rw [Nat.min_eq_right (by omega)]

/-- Demand never exceeds the unbounded amount after a request. -/
theorem toNat_add_le (current amount : UInt64) :
    (add current amount).toNat ≤ unbounded.toNat := by
  rw [toNat_add]
  exact Nat.min_le_right _ _

/-- Delivering is subtraction that stops at zero, and leaves unbounded demand alone. -/
theorem toNat_produced (current amount : UInt64) :
    (produced current amount).toNat =
      if current = unbounded then unbounded.toNat else current.toNat - amount.toNat := by
  unfold produced
  split
  · rfl
  · split
    next h => exact UInt64.toNat_sub_of_le _ _ h
    next h =>
      have hlt : current.toNat < amount.toNat := by
        rw [UInt64.le_iff_toNat_le] at h
        omega
      have hzero : (0 : UInt64).toNat = 0 := rfl
      omega

/-! ## Changes -/

/-- One change of the demand. -/
inductive Change where
  /-- More items are asked for. -/
  | request (amount : UInt64)
  /-- Items are delivered. -/
  | delivery (amount : UInt64)
  deriving DecidableEq

/-- The demand after a change. -/
def after (current : UInt64) : Change → UInt64
  | .request amount => add current amount
  | .delivery amount => produced current amount

/-- The demand after each of several changes. -/
def trail (current : UInt64) : List Change → List UInt64
  | [] => []
  | change :: changes => after current change :: trail (after current change) changes

/-- The demand after several changes is the last one of their trail. -/
theorem getLast?_trail (current : UInt64) (changes : List Change) :
    ((trail current changes).getLast?).getD current = changes.foldl after current := by
  induction changes generalizing current with
  | nil => rfl
  | cons change changes ih =>
      rw [trail, List.foldl_cons, ← ih, List.getLast?_cons]
      rfl

end Backpressure.Demand
