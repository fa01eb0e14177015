import Backpressure.Demand
import Backpressure.Signal

/-!
# Switchable feeds

A feed is a publisher that signals to a unit from above. One subscriber may have several feeds, one
after the other. A switch stands between them: it keeps the demand that is outstanding, issues it
to each feed when that one is bound, and forwards later requests to the current feed only. After a
cancellation every feed that is still bound is cancelled at once.

Main results:

- Theorem `call_request`, theorem `call_cancel` and theorem `call_bind` state the one call that
  each operation makes on a feed.
- Theorem `cancelled_mono` shows that a cancelled switch stays cancelled.
-/

namespace Backpressure

/-- A switch over feeds with links of type `ι`. -/
structure Switch (ι : Type) where
  /-- The feed that gets the demand. -/
  current : Option ι := none
  /-- The demand that is not met yet. -/
  outstanding : UInt64 := 0
  cancelled : Bool := false

/-- A call to be made on a link. -/
abbrev Call (ι : Type) := ι × Order

namespace Switch

variable {ι : Type}

/-! ## Operations -/

/-- Ask for items: the demand grows, and the current feed is asked for as many. -/
def request (switch : Switch ι) (amount : UInt64) : Switch ι × Option (Call ι) :=
  if amount = 0 || switch.cancelled then (switch, none)
  else
    ({ switch with outstanding := Demand.add switch.outstanding amount },
      switch.current.map fun link => (link, .request amount))

/-- Cancel: the current feed is let go and cancelled, the first time only. -/
def cancel (switch : Switch ι) : Switch ι × Option (Call ι) :=
  if switch.cancelled then (switch, none)
  else
    ({ switch with cancelled := true, current := none },
      switch.current.map fun link => (link, .cancel))

/-- Bind a feed in place of the current one, and issue the outstanding demand to it. A
cancelled switch cancels it instead. -/
def bind (switch : Switch ι) (link : ι) : Switch ι × Option (Call ι) :=
  if switch.cancelled then (switch, some (link, .cancel))
  else
    ({ switch with current := some link },
      if switch.outstanding = 0 then none else some (link, .request switch.outstanding))

/-- Take deliveries off the outstanding demand. -/
def emitted (switch : Switch ι) (count : UInt64) : Switch ι :=
  { switch with outstanding := Demand.produced switch.outstanding count }

/-- Take a call on the link that the switch hands downstream. -/
def take (switch : Switch ι) : Order → Switch ι × Option (Call ι)
  | .request amount => switch.request amount
  | .cancel => switch.cancel

/-! ## Calls on feeds -/

/-- A request reaches the current feed unless it asks for nothing or comes too late. -/
theorem call_request (switch : Switch ι) (amount : UInt64) :
    (switch.request amount).2 =
      if amount = 0 ∨ switch.cancelled = true then none
      else switch.current.map fun link => (link, .request amount) := by
  unfold request
  by_cases hzero : amount = 0 <;> cases hcancelled : switch.cancelled <;> simp [hzero]

/-- A cancellation reaches the current feed the first time. -/
theorem call_cancel (switch : Switch ι) :
    (switch.cancel).2 =
      if switch.cancelled = true then none
      else switch.current.map fun link => (link, .cancel) := by
  unfold cancel
  cases hcancelled : switch.cancelled <;> simp

/-- Binding issues the outstanding demand, or cancels after a cancellation. -/
theorem call_bind (switch : Switch ι) (link : ι) :
    (switch.bind link).2 =
      if switch.cancelled = true then some (link, .cancel)
      else if switch.outstanding = 0 then none
      else some (link, .request switch.outstanding) := by
  unfold bind
  cases hcancelled : switch.cancelled <;> simp

/-- A cancelled switch stays cancelled under every call. -/
theorem cancelled_mono {switch : Switch ι} (h : switch.cancelled = true) (order : Order) :
    (switch.take order).1.cancelled = true := by
  cases order <;> simp [take, request, cancel, h]

end Switch

end Backpressure
