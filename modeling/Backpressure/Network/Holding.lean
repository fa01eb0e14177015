import Backpressure.Network

/-!
# Who holds a stream

A stream is held by everyone who may still signal into its pipeline: the publishers driven by hand
that remember one of its receivers, and the signals by hand that have not returned. A unit of the
pipeline whose link was handed out below it, or bound as a feed, is held for good, since the unit
and the holder of its link hold each other. A stream that is not held any more is closed: it ends
after the items it still has, and its waker fires if it was armed.

Main results:

- Theorem `letGo_of_isHeld` and theorem `letGo_of_not_isHeld` show that a stream that is still held
  is left alone, and that any other is closed.
- Theorem `trace_letGo` shows that letting go records nothing but a wake-up.
-/

namespace Backpressure.Network

variable {α : Type}

/-! ## Holding -/

/-- The stream at the lower end of the pipeline of a receiver, if it ends in one. -/
def streamOf (network : Network α) : Receiver → Option Nat
  | .probe _ => none
  | .window index => network.windows[index]?.bind (·.stream)
  | .resumption index => network.resumptions[index]?.bind (·.stream)
  | .bridge index => some index

/-- A unit in its place above a receiver. -/
def stage {β : Type} (network : Network α) (below : Receiver) (unit : β) : Stage β :=
  { below, stream := network.streamOf below, unit }

/-- Whether a publisher driven by hand, or a signal by hand, holds the stream at an index. -/
def isHeldByHand (network : Network α) (index : Nat) : Bool :=
  let leads (receiver : Receiver) : Bool := network.streamOf receiver = some index
  network.hearing.any leads || network.hands.any (·.subscriber.any leads) ||
    network.deferreds.any (·.subscriber.any leads)

/-- Whether the stream at an index, or a unit of its pipeline, has the link of a unit. -/
def isHeldByLink (network : Network α) (index : Nat) : Bool :=
  (network.outlets[index]?.bind (·.unit.link)).any Link.isUnit ||
    network.windows.any (fun stage => stage.stream = some index &&
      stage.unit.feed.any Link.isUnit) ||
    network.resumptions.any (fun stage => stage.stream = some index &&
      stage.unit.switch.current.any Link.isUnit)

/-- Whether the stream at an index is held. -/
def isHeld (network : Network α) (index : Nat) : Bool :=
  network.isHeldByHand index || network.isHeldByLink index

/-! ## Letting go -/

/-- Close the stream at an index; its waker fires if it was armed. -/
def closeStream (network : Network α) (index : Nat) : Network α :=
  match network.outlets[index]? with
  | some outlet =>
      let next : Network α :=
        { network with
          outlets := network.outlets.set index { outlet with unit := outlet.unit.close } }
      if outlet.unit.armed then next.log (.woke outlet.name) else next
  | none => network

/-- Let go of a receiver: the stream of its pipeline is closed unless it is still held. -/
def letGo (network : Network α) (receiver : Receiver) : Network α :=
  match network.streamOf receiver with
  | some index => if network.isHeld index then network else network.closeStream index
  | none => network

/-- A stream that is still held is left alone. -/
theorem letGo_of_isHeld {network : Network α} {receiver : Receiver}
    (h : ∀ index, network.streamOf receiver = some index → network.isHeld index = true) :
    network.letGo receiver = network := by
  unfold letGo
  split
  next index hindex => rw [h index hindex, if_pos rfl]
  next => rfl

/-- A stream that is not held any more is closed. -/
theorem letGo_of_not_isHeld {network : Network α} {receiver : Receiver} {index : Nat}
    (hstream : network.streamOf receiver = some index) (hheld : network.isHeld index = false) :
    network.letGo receiver = network.closeStream index := by
  simp [letGo, hstream, hheld]

/-- Letting go of a receiver records nothing but the wake-up of a stream that is closed for it. -/
theorem trace_letGo (network : Network α) (receiver : Receiver) :
    ∃ woken : List String, (network.letGo receiver).trace = network.trace ++ woken.map .woke := by
  have hnone : ∃ woken : List String, network.trace = network.trace ++ woken.map .woke :=
    ⟨[], (List.append_nil _).symm⟩
  unfold letGo closeStream
  split
  · split
    · exact hnone
    · split
      next outlet _ =>
        simp only
        split
        · exact ⟨[outlet.name], rfl⟩
        · exact hnone
      next => exact hnone
  · exact hnone

end Backpressure.Network
