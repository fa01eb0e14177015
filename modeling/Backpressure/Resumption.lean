import Backpressure.Effect
import Backpressure.Switch

/-!
# Resumptions

A resumption forwards its first feed. When that one fails, a recovery is asked for another
publisher, which is then subscribed in its place and inherits the demand that is still
outstanding. A second failure is forwarded like any other signal.

Main results:

- Theorem `resumed_hear` shows that a resumption resumes at most once and never takes it back.
- Theorem `hear_error_resumed` shows that a failure after that is forwarded unchanged.
-/

namespace Backpressure

/-- A resumption over feeds with links of type `ι`. -/
structure Resumption (ι : Type) where
  switch : Switch ι := {}
  /-- Whether the first feed has failed. -/
  resumed : Bool := false

namespace Resumption

variable {α ι : Type}

/-- The work of a resumption. -/
inductive Work (ι : Type) where
  /-- Bind a feed that has called. -/
  | bind (link : ι)
  /-- Count a delivery of the first feed. -/
  | count
  /-- Ask the recovery about a failure. -/
  | recover (failure : Failure)

/-- The effect of a call that the switch asks for. -/
def call (answer : Switch ι × Option (Call ι)) (resumption : Resumption ι) :
    Resumption ι × List (Effect α ι (Work ι)) :=
  ({ resumption with switch := answer.1 },
    answer.2.toList.map fun call => .order call.1 call.2)

/-- Hear a signal of a feed; `self` is the link that the downstream gets, from the first
feed only. -/
def hear (self : ι) (resumption : Resumption ι) :
    Delivery α ι → Resumption ι × List (Effect α ι (Work ι))
  | .subscribe link =>
      (resumption,
        if resumption.resumed then [.go (.bind link)]
        else [.signal (.subscribe self), .go (.bind link)])
  | .next x => (resumption, [.signal (.next x), .go .count])
  | .error failure =>
      if resumption.resumed then (resumption, [.signal (.error failure)])
      else ({ resumption with resumed := true }, [.go (.recover failure)])
  | .complete => (resumption, [.signal .complete])

/-- Take a call from below. -/
def take (resumption : Resumption ι) (order : Order) :
    Resumption ι × List (Effect α ι (Work ι)) :=
  resumption.call (resumption.switch.take order)

/-- Bind a feed. -/
def bind (resumption : Resumption ι) (link : ι) : Resumption ι × List (Effect α ι (Work ι)) :=
  resumption.call (resumption.switch.bind link)

/-- Count a delivery: only those of the first feed are taken off the demand. -/
def count (resumption : Resumption ι) : Resumption ι :=
  if resumption.resumed then resumption
  else { resumption with switch := resumption.switch.emitted 1 }

/-- What has resumed stays resumed. -/
theorem resumed_hear (self : ι) {resumption : Resumption ι} (h : resumption.resumed = true)
    (delivery : Delivery α ι) : (resumption.hear self delivery).1.resumed = true := by
  cases delivery <;> simp [hear, h]

/-- A failure of the second feed is forwarded unchanged. -/
theorem hear_error_resumed (self : ι) {resumption : Resumption ι}
    (h : resumption.resumed = true) (failure : Failure) :
    resumption.hear (α := α) self (.error failure) =
      (resumption, [.signal (.error failure)]) := by
  simp [hear, h]

end Resumption

end Backpressure
