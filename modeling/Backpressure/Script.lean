import Backpressure.Signal.Grammar

/-!
# Scripts

What a scripted participant does when it is called. It reacts to the call by actions, which may
depend on the kind of the call and on how many calls of that kind came before. Reactions are
usually given by rules.

Main results:

- Theorem `mem_reaction_iff` characterizes the actions that a list of rules asks for.
-/

namespace Backpressure

/-- The actions that answer a call, by its kind and the number of earlier calls of that kind. -/
abbrev Reaction (σ : Type) := Kind → Nat → List σ

/-- A rule: from the call with number `start` on, answer `times` calls of one kind. -/
structure Rule (σ : Type) where
  on : Kind
  start : Nat := 0
  times : Nat := 1
  actions : List σ

namespace Rule

variable {σ : Type}

/-- Whether a rule answers the call of a kind with a number. -/
def fires (rule : Rule σ) (kind : Kind) (number : Nat) : Bool :=
  rule.on = kind && rule.start ≤ number && number < rule.start + rule.times

/-- The reaction that a list of rules gives: the actions of the rules that fire, in order. -/
def reaction (rules : List (Rule σ)) : Reaction σ := fun kind number =>
  (rules.filter (·.fires kind number)).flatMap (·.actions)

/-- An action answers a call exactly when some rule that fires asks for it. -/
theorem mem_reaction_iff {rules : List (Rule σ)} {kind : Kind} {number : Nat} {action : σ} :
    action ∈ reaction rules kind number ↔
      ∃ rule ∈ rules, rule.fires kind number = true ∧ action ∈ rule.actions := by
  simp only [reaction, List.mem_flatMap, List.mem_filter, and_assoc]

end Rule

/-! ## Traces -/

/-- An event of a scripted run, with actions `σ` and results `ρ`. -/
inductive Event (α σ ρ : Type) where
  /-- A scripted subscriber heard a signal. -/
  | heard (name : String) (signal : Signal α)
  /-- A scripted link was called. -/
  | ordered (name : String) (order : Order)
  /-- A recovery was asked what to do about a failure. -/
  | recovering (tag : Option String) (failure : Failure)
  /-- The waker of a stream was fired. -/
  | woke (stream : String)
  /-- The cancellation predicate was asked. -/
  | checked (stop : Bool)
  /-- An action began. -/
  | called (action : σ)
  /-- An action ended. -/
  | returned (action : σ) (result : ρ)

end Backpressure
