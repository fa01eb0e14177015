import Backpressure.Failure.Text

/-!
# Signals

What a subscriber hears: that it is subscribed, items, and one terminal signal, which is either
a failure or completion. A signal as it is delivered also carries the link on which demand is
sent back; what remains of it afterwards is the signal alone.

Main results:

- Theorem `same_error_iff` shows that failures are compared by their messages.
-/

namespace Backpressure

/-- A signal heard by a subscriber. -/
inductive Signal (α : Type) where
  | subscribe
  | next (x : α)
  | error (failure : Failure)
  | complete

/-- What a signal or a call for demand is about. -/
inductive Kind where
  | subscribe
  | next
  | error
  | complete
  | request
  | cancel
  deriving DecidableEq

/-- A signal on its way to a subscriber; the first one hands over the link for demand. -/
inductive Delivery (α ι : Type) where
  | subscribe (link : ι)
  | next (x : α)
  | error (failure : Failure)
  | complete

/-- A call on a link: ask for more items, or ask for an end to them. -/
inductive Order where
  | request (amount : UInt64)
  | cancel
  deriving DecidableEq

namespace Signal

variable {α : Type}

/-- The kind of a signal. -/
def kind : Signal α → Kind
  | .subscribe => .subscribe
  | .next _ => .next
  | .error _ => .error
  | .complete => .complete

/-- Whether a signal ends a stream. -/
def isTerminal : Signal α → Bool
  | .error _ | .complete => true
  | _ => false

/-- The item that a signal carries. -/
def value? : Signal α → Option α
  | .next x => some x
  | _ => none

/-- The failure that a signal carries. -/
def failure? : Signal α → Option Failure
  | .error failure => some failure
  | _ => none

/-- Two signals are the same when they are of one kind and carry the same item; failures are
the same when they have the same message. -/
def same [BEq α] : Signal α → Signal α → Bool
  | .subscribe, .subscribe => true
  | .next x, .next y => x == y
  | .error f, .error g => f.message == g.message
  | .complete, .complete => true
  | _, _ => false

/-- Two lists of signals are the same when they have one length and agree signal by signal. -/
def sameAll [BEq α] : List (Signal α) → List (Signal α) → Bool
  | [], [] => true
  | s :: ss, t :: ts => s.same t && sameAll ss ts
  | _, _ => false

/-- Failures are the same exactly when their messages are. -/
theorem same_error_iff [BEq α] (f g : Failure) :
    (Signal.error f : Signal α).same (.error g) = true ↔ f.message = g.message := by
  simp [same]

end Signal

/-- The signal that remains of a delivery. -/
def Delivery.signal {α ι : Type} : Delivery α ι → Signal α
  | .subscribe _ => .subscribe
  | .next x => .next x
  | .error failure => .error failure
  | .complete => .complete

/-- The kind of a call on a link. -/
def Order.kind : Order → Kind
  | .request _ => .request
  | .cancel => .cancel

end Backpressure
