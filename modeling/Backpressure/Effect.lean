import Backpressure.Signal

/-!
# Effects of a unit

A unit of a pipeline is called from below and from above, and answers each call by a new state and
by effects: signals to its downstream, calls on links, and work of its own that goes on when what
was asked for before it has returned. Between two effects other calls may reach the unit.
-/

namespace Backpressure

/-- One thing that a unit asks for, over links of type `ι` and own work of type `κ`. -/
inductive Effect (α ι κ : Type) where
  /-- Deliver a signal downstream. -/
  | signal (delivery : Delivery α ι)
  /-- Make a call on a link. -/
  | order (link : ι) (order : Order)
  /-- Go on with own work. -/
  | go (work : κ)

end Backpressure
