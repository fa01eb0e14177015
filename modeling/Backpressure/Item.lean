import Backpressure.Failure.Text

/-!
# Stream items

A polled stream hands out values and, at most at its end, a failure, both as items. This module
holds the item, its conversion to a result and back, and the two ways of insisting on a value.

Main results:

- Theorem `ofResult_toResult` and theorem `toResult_ofResult` show that items and results are
  the same thing in two forms.
- Theorem `same_failed` shows that a failed item is never the same as any item, itself included.
-/

namespace Backpressure

/-- An item of a polled stream: a value, or the failure that the stream ends with. -/
inductive Item (α : Type) where
  | value (x : α)
  | failed (failure : Failure)

namespace Item

variable {α β : Type}

/-! ## Views -/

/-- Whether an item is a value. -/
def isValue : Item α → Bool
  | .value _ => true
  | .failed _ => false

/-- Whether an item is a failure. -/
def isFailed : Item α → Bool
  | .value _ => false
  | .failed _ => true

/-- The value of an item. -/
def value? : Item α → Option α
  | .value x => some x
  | .failed _ => none

/-- The failure of an item. -/
def failure? : Item α → Option Failure
  | .value _ => none
  | .failed failure => some failure

/-- Apply a function to a value and keep a failure. -/
def map (f : α → β) : Item α → Item β
  | .value x => .value (f x)
  | .failed failure => .failed failure

/-- Two items are the same when both are values and the values agree; failures are never
compared. -/
def same [BEq α] : Item α → Item α → Bool
  | .value x, .value y => x == y
  | _, _ => false

/-- A failed item is not the same as any item. -/
theorem same_failed [BEq α] (failure : Failure) (item : Item α) :
    (Item.failed failure).same item = false := by
  cases item <;> rfl

/-! ## Results -/

/-- An item as a result. -/
def toResult : Item α → Except Failure α
  | .value x => .ok x
  | .failed failure => .error failure

/-- A result as an item. -/
def ofResult : Except Failure α → Item α
  | .ok x => .value x
  | .error failure => .failed failure

/-- An item is recovered from its result. -/
@[simp] theorem ofResult_toResult (item : Item α) : ofResult item.toResult = item := by
  cases item <;> rfl

/-- A result is recovered from its item. -/
@[simp] theorem toResult_ofResult (result : Except Failure α) :
    (ofResult result).toResult = result := by
  cases result <;> rfl

/-! ## Insisting on a value -/

/-- Why an item could not be taken as a value. -/
inductive Refusal where
  /-- The value was forced out of a failure. -/
  | forced (failure : Failure)
  /-- A value was expected and a failure came. -/
  | unexpected (failure : Failure)

/-- The message of a refusal: forcing shows the detail of the failure, expecting its message. -/
def Refusal.message : Refusal → String
  | .forced failure =>
      "called `StreamItem::unwrap()` on an `Error` value: " ++ failure.detail
  | .unexpected failure => "Expected a value, got error: " ++ failure.message

/-- Force the value out of an item. -/
def force : Item α → Except Refusal α
  | .value x => .ok x
  | .failed failure => .error (.forced failure)

/-- Take the value that a test expects. -/
def expectValue : Item α → Except Refusal α
  | .value x => .ok x
  | .failed failure => .error (.unexpected failure)

end Item

end Backpressure
