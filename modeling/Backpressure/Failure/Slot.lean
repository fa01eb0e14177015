import Backpressure.Failure

/-!
# The failure slot

A slot that holds the failure a stream will end with. It is written once: the first failure stays
and a later one is turned away.

Main results:

- Theorem `get?_set` shows that a slot that was written once keeps its failure.
- Theorem `rejected?_eq_none_iff` states when a failure is accepted.
-/

namespace Backpressure

/-- A slot for the first failure. -/
structure FailureSlot where
  /-- The failure held, if one was set. -/
  held : Option Failure := none

namespace FailureSlot

/-- The failure held. -/
def get? (slot : FailureSlot) : Option Failure := slot.held

/-- Whether a failure is held. -/
def isSet (slot : FailureSlot) : Bool := slot.held.isSome

/-- Set the failure; a failure already held wins, and the slot stays as it was. -/
def set (slot : FailureSlot) (failure : Failure) : FailureSlot :=
  if slot.isSet then slot else ⟨some failure⟩

/-- The failure that setting hands back: the new one, if one is held already. -/
def rejected? (slot : FailureSlot) (failure : Failure) : Option Failure :=
  if slot.isSet then some failure else none

/-- A slot holds the failure set first. -/
theorem get?_set (slot : FailureSlot) (failure : Failure) :
    (slot.set failure).get? = some (slot.get?.getD failure) := by
  rcases slot with ⟨_ | held⟩ <;> simp [set, get?, isSet]

/-- Setting hands nothing back exactly when the slot was empty, and then it holds the failure. -/
theorem rejected?_eq_none_iff (slot : FailureSlot) (failure : Failure) :
    slot.rejected? failure = none ↔ slot.get? = none ∧ (slot.set failure).get? = some failure := by
  rcases slot with ⟨_ | held⟩ <;> simp [rejected?, set, get?, isSet]

/-- A slot that was set stays set. -/
theorem isSet_set (slot : FailureSlot) (failure : Failure) : (slot.set failure).isSet = true := by
  rcases slot with ⟨_ | held⟩ <;> simp [set, isSet]

end FailureSlot

end Backpressure
