import Backpressure.Demand
import Backpressure.Effect
import Backpressure.Supply

/-!
# Sources

A source hands out a supply of items on demand and completes directly after the last one. One
emission at a time is under way: requests made from inside a delivery raise the demand of the
running emission. Cancellation and completion share one flag.

Main results:

- Theorem `take_of_done` shows that a source that is done ignores every call.
- Theorem `items_emit` shows that an emission hands out the items from the front.
-/

namespace Backpressure

/-- A source of items. -/
structure Source (α : Type) where
  /-- The items that are not handed out yet. -/
  items : Supply α
  /-- The demand since the last settlement. -/
  requested : UInt64 := 0
  /-- Whether the source was cancelled or has completed. -/
  done : Bool := false

namespace Source

variable {α ι : Type}

/-- The work of a source. -/
inductive Work where
  /-- Hand out items until as many are emitted as the goal says. -/
  | emit (goal emitted : UInt64)
  /-- Complete, unless the source is done. -/
  | finish
  deriving DecidableEq

/-- Take a call from below. A request starts an emission when nothing was outstanding. -/
def take (source : Source α) : Order → Source α × List (Effect α ι Work)
  | .cancel => ({ source with done := true }, [])
  | .request amount =>
      if amount = 0 || source.done then (source, [])
      else
        ({ source with requested := Demand.add source.requested amount },
          if source.requested = 0 then [.go (.emit (Demand.add 0 amount) 0)] else [])

/-- One turn of an emission. Unbounded demand is never met; any other goal is met when the count
reaches it, and the emission ends when nothing more was asked for meanwhile. -/
def emit (source : Source α) (goal emitted : UInt64) : Source α × List (Effect α ι Work) :=
  if goal = Demand.unbounded || emitted ≠ goal then
    if source.done then (source, [])
    else
      match source.items.uncons? with
      | none => (source, [.go .finish])
      | some (x, rest) =>
          ({ source with items := rest },
            [.signal (.next x), .go (if rest.isEmpty then .finish else .emit goal (emitted + 1))])
  else if source.requested = emitted then ({ source with requested := 0 }, [])
  else (source, [.go (.emit source.requested emitted)])

/-- Go on with own work. -/
def go (source : Source α) : Work → Source α × List (Effect α ι Work)
  | .emit goal emitted => source.emit goal emitted
  | .finish =>
      if source.done then (source, [])
      else ({ source with done := true }, [.signal .complete])

/-- A source that is done ignores every call. -/
theorem take_of_done {source : Source α} (h : source.done = true) (order : Order) :
    source.take (ι := ι) order = (source, []) := by
  rcases source with ⟨items, requested, done⟩
  subst h
  cases order <;> simp [take]

/-- The values that a list of effects delivers. -/
def delivered {κ : Type} (effects : List (Effect α ι κ)) : List α :=
  effects.filterMap fun
    | .signal (.next x) => some x
    | _ => none

/-- An emission hands out the items from the front, each of them once. -/
theorem items_emit (source : Source α) (goal emitted : UInt64) :
    source.items.toList =
      delivered (source.emit (ι := ι) goal emitted).2 ++
        (source.emit (ι := ι) goal emitted).1.items.toList := by
  unfold emit
  split
  · split
    · rfl
    · split
      next => rfl
      next h => exact Supply.toList_of_uncons? h
  · split <;> rfl

end Source

end Backpressure
