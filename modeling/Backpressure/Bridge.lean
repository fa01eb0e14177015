import Backpressure.Item
import Backpressure.Queue
import Backpressure.Signal
import Backpressure.Switch

/-!
# Bridges to polled streams

A bridge subscribes to a publisher and hands out what it hears when it is polled. It asks for a
number of items ahead, and asks for more whenever three quarters of that number, rounded up, have
been taken.

Main results:

- Theorem `queue_hear_closed` shows that nothing is queued once the channel is closed.
- Theorem `poll_dropped` shows that a dropped stream answers nothing any more.
-/

namespace Backpressure

/-- What a poll answers. -/
inductive Poll (α : Type) where
  /-- Nothing yet; the waker is armed. -/
  | pending
  /-- The stream has ended. -/
  | ended
  /-- The stream was dropped. -/
  | gone
  | item (item : Item α)

/-- A bridge from a publisher with links of type `ι` to a polled stream. -/
structure Bridge (α ι : Type) where
  /-- How many items are asked for ahead. -/
  prefetch : UInt64
  /-- The items that were not taken yet. -/
  queue : Queue (Item α) := .empty
  /-- Whether the channel takes no more items: after a terminal signal, when the stream was dropped,
  or when nobody holds the bridge any more. -/
  closed : Bool := false
  /-- The link to the publisher. -/
  link : Option ι := none
  /-- The values taken since the last request. -/
  consumed : UInt64 := 0
  /-- Whether the latest poll left the waker armed. -/
  armed : Bool := false
  dropped : Bool := false

namespace Bridge

variable {α ι : Type}

/-- The number of items asked for ahead when nothing else is said. -/
def defaultPrefetch : UInt64 := 256

/-- A bridge that asks for a number of items ahead, but at least for one. -/
def ofPrefetch (prefetch : UInt64) : Bridge α ι :=
  { prefetch := if prefetch = 0 then 1 else prefetch }

/-- After how many values more is asked for. -/
def limit (bridge : Bridge α ι) : UInt64 := bridge.prefetch - bridge.prefetch / 4

/-! ## The publisher's side -/

/-- Put an item into the channel; a closed channel loses it. -/
def send (bridge : Bridge α ι) (item : Item α) : Bridge α ι :=
  if bridge.closed then bridge
  else { bridge with queue := bridge.queue.push item, armed := false }

/-- Close the channel. What it holds is still handed out. -/
def close (bridge : Bridge α ι) : Bridge α ι := { bridge with closed := true, armed := false }

/-- Hear a signal of the publisher, and answer with the call to be made on its link. -/
def hear (bridge : Bridge α ι) : Delivery α ι → Bridge α ι × Option (Call ι)
  | .subscribe link =>
      ({ bridge with link := some link },
        some (link, if bridge.closed then .cancel else .request bridge.prefetch))
  | .next x => (bridge.send (.value x), none)
  | .error failure => ((bridge.send (.failed failure)).close, none)
  | .complete => (bridge.close, none)

/-- Whether a signal fires the waker: it was armed, and is not any more. -/
def wakes (bridge : Bridge α ι) (delivery : Delivery α ι) : Bool :=
  bridge.armed && !(bridge.hear delivery).1.armed

/-! ## The stream's side -/

/-- Count a taken value, and ask for more when the limit is reached. -/
def consume (bridge : Bridge α ι) : Bridge α ι × Option (Call ι) :=
  if bridge.consumed + 1 = bridge.limit then
    ({ bridge with consumed := 0 },
      bridge.link.map fun link => (link, .request bridge.limit))
  else ({ bridge with consumed := bridge.consumed + 1 }, none)

/-- Poll the stream: the oldest item is taken, and a value is counted. -/
def poll (bridge : Bridge α ι) : Bridge α ι × Poll α × Option (Call ι) :=
  if bridge.dropped then (bridge, .gone, none)
  else
    match bridge.queue.pop? with
    | some (.value x, rest) =>
        let (bridge, call) := { bridge with queue := rest }.consume
        (bridge, .item (.value x), call)
    | some (.failed failure, rest) =>
        ({ bridge with queue := rest }, .item (.failed failure), none)
    | none =>
        if bridge.closed then (bridge, .ended, none)
        else ({ bridge with armed := true }, .pending, none)

/-- Drop the stream: its channel is closed, what it holds is lost, and the publisher is
cancelled. The waker stays armed. -/
def drop (bridge : Bridge α ι) : Bridge α ι × Option (Call ι) :=
  if bridge.dropped then (bridge, none)
  else
    ({ bridge with closed := true, queue := .empty, dropped := true },
      bridge.link.map fun link => (link, .cancel))

/-- Nothing is queued once the channel is closed. -/
theorem queue_hear_closed {bridge : Bridge α ι} (h : bridge.closed = true)
    (delivery : Delivery α ι) : (bridge.hear delivery).1.queue = bridge.queue := by
  cases delivery <;> simp [hear, send, close, h]

/-- A dropped stream answers nothing any more. -/
theorem poll_dropped {bridge : Bridge α ι} (h : bridge.dropped = true) :
    bridge.poll = (bridge, .gone, none) := by
  simp [poll, h]

end Bridge

end Backpressure
