import Backpressure.Failure.Text

/-!
# Context for failures

An error of the application becomes a failure by being raised, and the failure of a result can be
given context in layers. A layer adds its text in front of a failure that a recovery may still
mend, and leaves every permanent failure as it is.

Main results:

- Theorem `isRecoverable_attach` shows that a layer never changes the class of a failure.
- Theorem `Layer.apply_ok` shows that a result without failure is returned as it is, and that no
  text is made for it.
-/

namespace Backpressure

/-! ## Raised errors -/

/-- An error raised by the application: a message of its own, or a failure it passes on. -/
inductive Raised where
  | message (text : String)
  | failure (inner : Failure)

namespace Raised

/-- The text of a raised error. -/
def text : Raised → String
  | .message text => text
  | .failure inner => inner.message

/-- The failure that carries a raised error unchanged. -/
def carried : Raised → Failure
  | .message text => .user text
  | .failure inner => .wrapped inner

/-- Turn a raised error into a failure: it is carried unchanged without context, and becomes a
failure of the stream under a context. -/
def toFailure (context : String) (error : Raised) : Failure :=
  if context = "" then error.carried
  else .stream (context ++ ": " ++ error.text)

end Raised

namespace Failure

/-! ## One layer -/

/-- Put a context in front of a failure of the stream or of the application; other failures
keep their form. -/
def attach (context : String) : Failure → Failure
  | .stream text => .stream (context ++ ": " ++ text)
  | .user text => .stream (context ++ ": " ++ text)
  | .wrapped inner => .stream (context ++ ": " ++ inner.message)
  | failure => failure

/-- A layer of context keeps a recoverable failure recoverable and a permanent one permanent. -/
theorem isRecoverable_attach (context : String) (failure : Failure) :
    (failure.attach context).isRecoverable = failure.isRecoverable := by
  cases failure <;> rfl

end Failure

/-! ## Layers over results -/

/-- A layer of context: a text at hand, or one that is made only when it is needed. -/
inductive Layer where
  | ready (text : String)
  | onDemand (text : Unit → String)

namespace Layer

/-- The text of a layer. -/
def text : Layer → String
  | .ready text => text
  | .onDemand text => text ()

/-- How many texts a layer makes when it meets a failure. -/
def cost : Layer → Nat
  | .ready _ => 0
  | .onDemand _ => 1

/-- Add one layer to a result, counting the texts made on demand. -/
def apply {α : Type} (layer : Layer) : Except Failure α × Nat → Except Failure α × Nat
  | (.ok value, made) => (.ok value, made)
  | (.error failure, made) => (.error (failure.attach layer.text), made + layer.cost)

/-- Add layers to a result, first to last. -/
def applyAll {α : Type} (layers : List Layer) (result : Except Failure α) :
    Except Failure α × Nat :=
  layers.foldl (fun state layer => layer.apply state) (result, 0)

/-- A result without failure passes through a layer, and no text is made for it. -/
@[simp] theorem apply_ok {α : Type} (layer : Layer) (value : α) (made : Nat) :
    layer.apply (.ok value, made) = (.ok value, made) := rfl

/-- A failing result takes the context of the layer, and an on-demand text is made once. -/
@[simp] theorem apply_error {α : Type} (layer : Layer) (failure : Failure) (made : Nat) :
    layer.apply (α := α) (.error failure, made) =
      (.error (failure.attach layer.text), made + layer.cost) := rfl

end Layer

end Backpressure
