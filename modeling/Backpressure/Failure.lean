/-!
# Failures

What a stream may end with instead of completing: a failure of the stream itself, an error of
the application, a callback that panicked, a breach of the protocol, or several failures held
together. This module fixes the type, the causes of a failure and the classes that a recovery
tells apart.

Main results:

- Theorem `primary_primary` shows that the primary cause of a primary cause is itself.
- Theorem `recoverable_eq_not_permanent` shows that every failure is in exactly one of the two
  classes.
-/

namespace Backpressure

/-- A failure that can end a stream. -/
inductive Failure where
  /-- A failure of the stream itself. -/
  | stream (context : String)
  /-- An error of the application, known by its message only. -/
  | user (message : String)
  /-- A failure that the application used as an error of its own. -/
  | wrapped (inner : Failure)
  /-- A callback of the application panicked. -/
  | panic (context : String)
  /-- One side broke the rules of the protocol. -/
  | protocol (context : String)
  /-- Several failures at once, the primary one first. -/
  | composite (members : List Failure)
  deriving Inhabited

namespace Failure

/-! ## Causes -/

/-- Hold two failures together, the first as the primary one. -/
def join (primary secondary : Failure) : Failure :=
  .composite [primary, secondary]

/-- The direct causes: the members of a composite, and a single failure as its own cause. -/
def causes : Failure → List Failure
  | .composite members => members
  | failure => [failure]

/-- The primary cause: the first member, for as long as that is a composite with members. -/
def primary : Failure → Failure
  | .composite (first :: _) => first.primary
  | failure => failure

/-- A composite that has members. -/
def isNonemptyComposite : Failure → Bool
  | .composite (_ :: _) => true
  | _ => false

/-- The search for the primary cause ends only at a failure without members. -/
theorem isNonemptyComposite_primary (failure : Failure) :
    failure.primary.isNonemptyComposite = false := by
  fun_induction primary failure with
  | case1 first rest ih => exact ih
  | case2 failure h =>
    unfold isNonemptyComposite
    split
    · exact (h _ _ rfl).elim
    · rfl

/-- A failure without members is its own primary cause. -/
theorem primary_of_not_nonemptyComposite {failure : Failure}
    (h : failure.isNonemptyComposite = false) : failure.primary = failure := by
  unfold primary
  split
  · simp [isNonemptyComposite] at h
  · rfl

/-- The primary cause of a primary cause is itself. -/
theorem primary_primary (failure : Failure) : failure.primary.primary = failure.primary :=
  primary_of_not_nonemptyComposite (isNonemptyComposite_primary failure)

/-! ## Classes -/

/-- Several failures held together. -/
def isComposite : Failure → Bool
  | .composite _ => true
  | _ => false

/-- A failure after which another source may still be worth trying. -/
def isRecoverable : Failure → Bool
  | .stream _ | .user _ | .wrapped _ => true
  | _ => false

/-- A failure that trying again does not mend. -/
def isPermanent : Failure → Bool
  | .panic _ | .protocol _ | .composite _ => true
  | _ => false

/-- Every failure is either recoverable or permanent, and never both. -/
theorem recoverable_eq_not_permanent (failure : Failure) :
    failure.isRecoverable = !failure.isPermanent := by
  cases failure <;> rfl

end Failure

end Backpressure
