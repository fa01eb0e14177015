import Backpressure.Buffer
import Backpressure.Demand.Register
import Backpressure.Failure.Slot
import Backpressure.Signal

/-!
# Draining a buffer after termination

A source that has terminated may leave items in a buffer. They are handed downstream as demand
comes in, and the terminal signal follows the last of them. One pass at a time drains the buffer:
it delivers until it has met its goal, then looks at the register again, and settles what it
delivered only when nothing more was asked for meanwhile.

The word that stands for "terminated, nothing outstanding" is the only one from which a request
starts a pass of its own. While a pass runs the register never holds it, so that a request made
from inside a delivery is absorbed by the running pass.

Main results:

- Theorem `request_eq` states when a request starts a pass.
- Theorem `advance_stopped` shows that a pass that is told to stop delivers nothing and leaves the
  buffer and the register as they are.
-/

namespace Backpressure

/-- How a drained source ends: always by completion, or by the failure that was held back behind
the items. -/
inductive Ending where
  | completion
  | heldFailure
  deriving DecidableEq

/-- A buffer that is drained on demand. -/
structure Drain (α : Type) where
  buffer : Buffer α := {}
  register : Register := {}
  failure : FailureSlot := {}

/-- A pass over the buffer. Both words carry the terminal bit of the register that the pass was
started from. -/
structure Pass where
  /-- The word at which the pass looks at the register again. -/
  goal : UInt64
  /-- The items delivered since the last settlement. -/
  emitted : UInt64
  ending : Ending
  /-- Whether the pass is the first one after termination: it marks the register terminal when
  the demand runs out. -/
  closing : Bool
  deriving DecidableEq

/-- What a pass does next. -/
inductive PassMove (α : Type) where
  /-- It ends without a signal. -/
  | stop
  /-- It delivers an item and then goes on. -/
  | deliver (x : α) (pass : Pass)
  /-- It ends with the terminal signal. -/
  | conclude
  /-- It goes on. -/
  | again (pass : Pass)

namespace Pass

/-- A pass that starts with a register word. -/
def start (word : UInt64) (ending : Ending) (closing : Bool) : Pass :=
  { goal := word, emitted := Register.flagOf word, ending, closing }

end Pass

namespace Drain

variable {α : Type}

/-- The terminal signal of a drained source. -/
def conclusion {ι : Type} (drain : Drain α) : Ending → Delivery α ι
  | .completion => .complete
  | .heldFailure =>
      match drain.failure.get? with
      | some failure => .error failure
      | none => .complete

/-- Whether the source has terminated and nothing is outstanding: the one state in which nobody
drains and a request has to. -/
def isStalled (drain : Drain α) : Bool := drain.register.bits = Register.terminalBit

/-- The drain after a request, which only changes the register. -/
def afterRequest (drain : Drain α) (amount : UInt64) : Drain α :=
  { drain with register := drain.register.add amount }

/-- The pass that a request starts: only a stalled drain needs one, and only for a request of
something. -/
def passOnRequest (drain : Drain α) (amount : UInt64) (ending : Ending) : Option Pass :=
  if drain.isStalled && amount != 0 then
    some (.start (Register.withTerminal amount) ending false)
  else none

/-- The pass that termination starts. An empty buffer needs none, and the terminal signal is
given at once. -/
def passOnTermination (drain : Drain α) (ending : Ending) : Option Pass :=
  if drain.buffer.isEmpty then none
  else some (.start drain.register.bits ending true)

/-- The register of a pass whose demand ran out: what was delivered is settled, and the first
pass after termination marks it terminal. -/
def settled (drain : Drain α) (pass : Pass) : Drain α :=
  let register := drain.register.settle (Register.demandOf pass.emitted)
  { drain with register := if pass.closing then register.markTerminal?.getD register else register }

/-- One turn of a pass, given whether it is told to stop. -/
def advance (drain : Drain α) (pass : Pass) (stop : Bool) : Drain α × PassMove α :=
  if stop then (drain, .stop)
  else if pass.emitted ≠ pass.goal then
    match drain.buffer.poll? with
    | some (x, rest) =>
        ({ drain with buffer := rest }, .deliver x { pass with emitted := pass.emitted + 1 })
    | none => (drain, .conclude)
  else if drain.buffer.isEmpty then (drain, .conclude)
  else if drain.register.bits = pass.emitted then (drain.settled pass, .stop)
  else (drain, .again { pass with goal := drain.register.bits })

/-- A request starts a pass exactly when the drain is stalled and the request is not for
nothing. -/
theorem request_eq (drain : Drain α) (amount : UInt64) (ending : Ending) :
    (drain.passOnRequest amount ending).isSome = true ↔
      drain.register.bits = Register.terminalBit ∧ amount ≠ 0 := by
  unfold passOnRequest isStalled
  split
  next h => simpa using h
  next h => simpa using h

/-- A pass that is told to stop changes nothing. -/
@[simp] theorem advance_stopped (drain : Drain α) (pass : Pass) :
    drain.advance pass true = (drain, .stop) := rfl

end Drain

end Backpressure
