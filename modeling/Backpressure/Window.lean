import Backpressure.Drain
import Backpressure.Effect

/-!
# Windows

A window keeps the last items of its feed and hands them out after the feed has
terminated. It asks its feed for everything, whatever its downstream asks for. A failure of
the feed either empties the window and is passed on at once, or is held back behind the items.

Main results:

- Theorem `capacity_hear` shows that a window never changes its size.
- Theorem `hear_error_again` shows that a window that holds a failure ignores another one.
-/

namespace Backpressure

/-- A window over the last items of a feed. -/
structure Window (α ι : Type) where
  /-- Whether a failure is held back behind the items. -/
  delaysFailure : Bool
  drain : Drain α
  cancelled : Bool := false
  /-- The link to the feed, until it is cancelled. -/
  feed : Option ι := none

namespace Window

variable {α ι : Type}

/-- A fresh window over the last `size` items. -/
def ofSize (size : Nat) (delaysFailure : Bool) : Window α ι :=
  { delaysFailure, drain := { buffer := { capacity := some size } } }

/-- How the window ends when demand comes in after termination. -/
def ending (window : Window α ι) : Ending :=
  if window.delaysFailure then .heldFailure else .completion

/-- The effects of termination: the terminal signal at once for an empty window, and a pass
over the items otherwise. -/
def terminate (drain : Drain α) (ending : Ending) : List (Effect α ι Pass) :=
  match drain.passOnTermination ending with
  | some pass => [.go pass]
  | none => [.signal (drain.conclusion ending)]

/-- Hear a failure of the feed. -/
def fail (window : Window α ι) (failure : Failure) : Window α ι × List (Effect α ι Pass) :=
  if window.delaysFailure then
    if window.drain.failure.isSet then (window, [])
    else
      let drain := { window.drain with failure := window.drain.failure.set failure }
      ({ window with drain }, terminate drain .heldFailure)
  else
    ({ window with drain := { window.drain with buffer := window.drain.buffer.clear } },
      if window.cancelled then [] else [.signal (.error failure)])

/-- Hear a signal of the feed; `self` is the link that the downstream gets. -/
def hear (self : ι) (window : Window α ι) : Delivery α ι → Window α ι × List (Effect α ι Pass)
  | .subscribe link =>
      ({ window with feed := some link },
        [.signal (.subscribe self), .order link (.request Demand.unbounded)])
  | .next x =>
      ({ window with drain := { window.drain with buffer := window.drain.buffer.push x } }, [])
  | .error failure => window.fail failure
  | .complete => (window, terminate window.drain .completion)

/-- Take a call from below. A request is never passed on, since the feed was asked for
everything; the first cancellation is. -/
def take (window : Window α ι) : Order → Window α ι × List (Effect α ι Pass)
  | .request amount =>
      ({ window with drain := window.drain.afterRequest amount },
        (window.drain.passOnRequest amount window.ending).toList.map .go)
  | .cancel =>
      if window.cancelled then (window, [])
      else
        ({ window with cancelled := true, feed := none },
          window.feed.toList.map fun link => .order link .cancel)

/-- Go on with a pass, which stops once the window is cancelled. -/
def go (window : Window α ι) (pass : Pass) : Window α ι × List (Effect α ι Pass) :=
  let (drain, move) := window.drain.advance pass window.cancelled
  ({ window with drain },
    match move with
    | .stop => []
    | .deliver x pass => [.signal (.next x), .go pass]
    | .conclude => [.signal (drain.conclusion pass.ending)]
    | .again pass => [.go pass])

/-- A window never changes its size. -/
theorem capacity_hear (self : ι) (window : Window α ι) (delivery : Delivery α ι) :
    (window.hear self delivery).1.drain.buffer.capacity = window.drain.buffer.capacity := by
  cases delivery with
  | subscribe link => rfl
  | next x =>
      simp only [hear, Buffer.push]
      split <;> rfl
  | error failure =>
      simp only [hear, fail]
      split
      · split <;> rfl
      · rfl
  | complete => rfl

/-- A window that holds a failure ignores another one. -/
theorem hear_error_again (self : ι) {window : Window α ι} (failure : Failure)
    (hdelays : window.delaysFailure = true) (hset : window.drain.failure.isSet = true) :
    window.hear self (.error failure) = (window, []) := by
  simp [hear, fail, hdelays, hset]

end Window

end Backpressure
