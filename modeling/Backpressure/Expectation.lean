import Backpressure.Item

/-!
# Expectations on a polled stream

A stream of ready items, and what a test may expect of its next answer: an item, the end, or
silence. Waiting ends at a time limit, which is reached exactly when the stream stays pending.

Main results:

- Theorem `meetAll_cons` shows that every expectation consumes one ready item, met or not.
-/

namespace Backpressure

/-- A stream whose items are ready, and which then ends or stays pending. -/
structure ReadyStream (α : Type) where
  items : List (Item α)
  /-- Whether the stream ends after its items. -/
  ends : Bool

/-- What a test expects of the next answer of a stream, with its time limit in milliseconds. -/
inductive Expectation where
  | item (limit : Nat)
  | ended (limit : Nat)
  | silence (limit : Nat)

namespace Expectation

variable {α : Type}

/-- How an expectation failed. -/
inductive Failed where
  | endedEarly
  | noItem (limit : Nat)
  | itemAtEnd
  | noEnd (limit : Nat)
  | notSilent

/-- The message of a failed expectation. -/
def Failed.message : Failed → String
  | .endedEarly => "stream ended before emitting"
  | .noItem limit => "Timeout: no item received within " ++ toString limit ++ " ms"
  | .itemAtEnd => "Expected stream to end, but it emitted an item"
  | .noEnd limit => "Timeout: stream did not end within " ++ toString limit ++ " ms"
  | .notSilent => "Unexpected element emitted, expected no output."

/-- Meet an expectation with the next answer of a stream. An item that was asked for is
returned. -/
def meet (expectation : Expectation) (stream : ReadyStream α) :
    Except Failed (Option (Item α)) :=
  match expectation, stream.items.head?, stream.ends with
  | .item _, some x, _ => .ok (some x)
  | .item _, none, true => .error .endedEarly
  | .item limit, none, false => .error (.noItem limit)
  | .ended _, some _, _ => .error .itemAtEnd
  | .ended _, none, true => .ok none
  | .ended limit, none, false => .error (.noEnd limit)
  | .silence _, some _, _ => .error .notSilent
  | .silence _, none, true => .error .notSilent
  | .silence _, none, false => .ok none

/-- The stream after an expectation: a ready item is consumed, met or not. -/
def rest (stream : ReadyStream α) : ReadyStream α :=
  { stream with items := stream.items.tail }

/-- Meet expectations in order on one stream. -/
def meetAll : List Expectation → ReadyStream α → List (Except Failed (Option (Item α)))
  | [], _ => []
  | expectation :: expectations, stream =>
      expectation.meet stream :: meetAll expectations (rest stream)

/-- The later expectations see the stream without its first item. -/
theorem meetAll_cons (expectation : Expectation) (expectations : List Expectation)
    (stream : ReadyStream α) :
    meetAll (expectation :: expectations) stream =
      expectation.meet stream :: meetAll expectations (rest stream) := rfl

end Expectation

end Backpressure
