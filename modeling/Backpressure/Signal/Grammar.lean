import Backpressure.Signal

/-!
# The grammar of signals

A well-formed history is one subscription, then items, then at most one terminal signal and
nothing after it. The check names the first rule that a history breaks.

Main results:

- Theorem `values_append` and theorem `terminals_append` read the summary of a history through
  concatenation.
-/

namespace Backpressure

/-- A history follows the grammar: one subscription, items, and at most one terminal signal at
the end. -/
def WellFormed {α : Type} (history : List (Signal α)) : Prop :=
  ∃ (xs : List α) (ending : List (Signal α)),
    history = .subscribe :: (xs.map .next ++ ending) ∧
      (ending = [] ∨ ending = [.complete] ∨ ∃ failure, ending = [.error failure])

/-- The rule that a history breaks. -/
inductive Breach where
  | notSubscribedFirst
  | subscribedAgain
  | signalAfterTerminal
  deriving DecidableEq

/-- The wording of a broken rule. -/
def Breach.message : Breach → String
  | .notSubscribedFirst => "first signal must be on_subscribe"
  | .subscribedAgain => "on_subscribe must be delivered exactly once"
  | .signalAfterTerminal => "no signal may follow a terminal signal"

namespace History

variable {α : Type}

/-! ## Readings of a history -/

/-- The items of a history, in order. -/
def values (history : List (Signal α)) : List α := history.filterMap Signal.value?

/-- The first failure of a history. -/
def failure? (history : List (Signal α)) : Option Failure := history.findSome? Signal.failure?

/-- How many signals of one kind a history holds. -/
def count (kind : Kind) (history : List (Signal α)) : Nat :=
  history.countP (fun signal => signal.kind = kind)

/-- Whether a history holds a completion. -/
def isCompleted (history : List (Signal α)) : Bool :=
  history.any (fun signal => signal.kind = .complete)

/-- How many terminal signals a history holds. -/
def terminals (history : List (Signal α)) : Nat := history.countP Signal.isTerminal

/-- The items of two histories in a row. -/
@[simp] theorem values_append (first second : List (Signal α)) :
    values (first ++ second) = values first ++ values second :=
  List.filterMap_append

/-- The terminal signals of two histories in a row. -/
@[simp] theorem terminals_append (first second : List (Signal α)) :
    terminals (first ++ second) = terminals first + terminals second :=
  List.countP_append

/-! ## The check -/

/-- Whether some signal follows a terminal one. -/
def goesOn : List (Signal α) → Bool
  | [] => false
  | signal :: rest => if signal.isTerminal then !rest.isEmpty else goesOn rest

/-- Check a history: the first signal, then the number of subscriptions, then what follows the
first terminal signal. -/
def breach? (history : List (Signal α)) : Option Breach :=
  match history with
  | .subscribe :: _ =>
      if count .subscribe history ≠ 1 then some .subscribedAgain
      else if goesOn history then some .signalAfterTerminal
      else none
  | _ => some .notSubscribedFirst

end History

end Backpressure
