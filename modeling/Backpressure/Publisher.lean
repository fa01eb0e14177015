import Backpressure.Failure
import Backpressure.Supply

/-!
# Publishers

Publisher expressions: sources of items, a failing source, publishers driven by hand, and the
operators over them. A recovery says what a resumption does about a failure, and may perform
actions of type `σ` before it decides.

Main results:

- Theorem `failure?_eq_none_iff` shows that a recovery that is decided fails unless it gives a
  publisher.
-/

namespace Backpressure

mutual

/-- A publisher expression. -/
inductive Publisher (α σ : Type) where
  /-- The items of a supply, then completion. -/
  | items (supply : Supply α)
  /-- A failure, and no item. -/
  | fail (failure : Failure)
  /-- The publisher of a name, driven by hand, which hands out a link of its own. -/
  | hand (name : String)
  /-- The publisher of a name, driven by hand, which only remembers its latest subscriber. -/
  | deferred (name : String)
  /-- The publisher defined under a name. -/
  | named (name : String)
  /-- The last items of a feed, after it has terminated. -/
  | takeLast (count : Nat) (delaysFailure : Bool) (up : Publisher α σ)
  /-- A feed, and after a failure of it the publisher that a recovery gives. -/
  | resume (tag : Option String) (recover : Failure → Recovery α σ) (up : Publisher α σ)

/-- What a recovery does about a failure. -/
inductive Recovery (α σ : Type) where
  /-- Go on with another publisher. -/
  | to (publisher : Publisher α σ)
  /-- Give no publisher. -/
  | nothing
  /-- Fail. -/
  | error (failure : Failure)
  /-- Panic, with a message or without. -/
  | panic (message : Option String)
  /-- Perform actions first. -/
  | perform (actions : List σ) (next : Recovery α σ)

end

namespace Publisher

variable {α σ : Type}

/-- The items of a list. -/
def ofList (xs : List α) : Publisher α σ := .items (.list xs)

/-- One item. -/
def just (x : α) : Publisher α σ := ofList [x]

/-- No item. -/
def empty : Publisher α σ := ofList []

/-- The whole numbers from `low` up to, but not including, `high`. -/
def range (low high : Int) : Publisher Int σ := .items (.range low high)

/-- The names of the publishers driven by hand that an expression mentions. Recoveries are not
looked at, since their expressions are built later. -/
def mentioned : Publisher α σ → List String
  | .hand name => [name]
  | .takeLast _ _ up => up.mentioned
  | .resume _ _ up => up.mentioned
  | _ => []

/-- The names of the deferred publishers that an expression mentions. -/
def mentionedDeferred : Publisher α σ → List String
  | .deferred name => [name]
  | .takeLast _ _ up => up.mentionedDeferred
  | .resume _ _ up => up.mentionedDeferred
  | _ => []

/-- Put the definitions in place of the names that have one. -/
def resolve (definition : String → Option (Publisher α σ)) : Publisher α σ → Publisher α σ
  | .named name => (definition name).getD (.named name)
  | .takeLast count delaysFailure up => .takeLast count delaysFailure (up.resolve definition)
  | .resume tag recover up => .resume tag recover (up.resolve definition)
  | publisher => publisher

end Publisher

namespace Recovery

variable {α σ : Type}

/-- The failure of a recovery that gave no publisher. -/
def failure? : Recovery α σ → Option Failure
  | .nothing => some (.protocol "recovery function produced no publisher")
  | .error failure => some failure
  | .panic (some message) => some (.panic ("recovery function panicked: " ++ message))
  | .panic none => some (.panic "recovery function panicked")
  | .to _ | .perform _ _ => none

/-- Decide by a test of the failure. -/
def branch (test : Failure → Bool) (yes no : Failure → Recovery α σ) : Failure → Recovery α σ :=
  fun failure => if test failure then yes failure else no failure

/-- A recovery has failed unless it gives a publisher or is still to perform actions. -/
theorem failure?_eq_none_iff {recovery : Recovery α σ} :
    recovery.failure? = none ↔
      (∃ publisher, recovery = .to publisher) ∨
        ∃ actions next, recovery = .perform actions next := by
  cases recovery with
  | panic message => cases message <;> simp [failure?]
  | _ => simp [failure?]

end Recovery

end Backpressure
