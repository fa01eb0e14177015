import Backpressure.Failure
import Backpressure.Text.Quoted

/-!
# The texts of a failure

Every failure has two texts. Its message is for people; its detail names the form of the failure
and quotes the texts inside it. An error of the application that is itself a failure is part of
both, and is the source of the failure that carries it.

Main results:

- Theorem `messages_eq_map` and theorem `details_eq_map` read the texts of a list of members as
  the texts of its elements.
-/

namespace Backpressure.Failure

/-! ## Messages -/

/-- How many causes a composite announces, with the singular for exactly one. -/
def causeCount : Nat → String
  | 1 => "1 cause"
  | n => toString n ++ " causes"

mutual

/-- The message of a failure. -/
def message : Failure → String
  | .stream context => "Stream processing error: " ++ context
  | .user text => "User error: " ++ text
  | .wrapped inner => "User error: " ++ inner.message
  | .panic context => "User callback panicked: " ++ context
  | .protocol context => "Protocol violation: " ++ context
  | .composite members =>
      "Composite failure (" ++ causeCount members.length ++ "): " ++
        "; ".intercalate (messages members)

/-- The messages of several failures, in order. -/
def messages : List Failure → List String
  | [] => []
  | failure :: rest => failure.message :: messages rest

end

/-- The messages of a list are the messages of its elements. -/
theorem messages_eq_map (failures : List Failure) :
    messages failures = failures.map message := by
  induction failures with
  | nil => rfl
  | cons failure rest ih => simp [messages, ih]

/-! ## Details -/

mutual

/-- The detail of a failure: its form, with the texts in it quoted. -/
def detail : Failure → String
  | .stream context => "StreamProcessingError \x7b context: " ++ Text.quote context ++ " \x7d"
  | .user text => "UserError(UserErr(" ++ Text.quote text ++ "))"
  | .wrapped inner => "UserError(" ++ inner.detail ++ ")"
  | .panic context => "CallbackPanic \x7b context: " ++ Text.quote context ++ " \x7d"
  | .protocol context => "ProtocolViolation \x7b context: " ++ Text.quote context ++ " \x7d"
  | .composite members =>
      "Composite \x7b errors: [" ++ ", ".intercalate (details members) ++ "] \x7d"

/-- The details of several failures, in order. -/
def details : List Failure → List String
  | [] => []
  | failure :: rest => failure.detail :: details rest

end

/-- The details of a list are the details of its elements. -/
theorem details_eq_map (failures : List Failure) :
    details failures = failures.map detail := by
  induction failures with
  | nil => rfl
  | cons failure rest ih => simp [details, ih]

/-! ## Sources -/

/-- The messages of the errors behind a failure, nearest first: an error of the application is
the source of the failure that carries it. -/
def sources : Failure → List String
  | .user text => [text]
  | .wrapped inner => inner.message :: inner.sources
  | _ => []

end Backpressure.Failure
