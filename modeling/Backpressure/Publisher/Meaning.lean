import Backpressure.Publisher

/-!
# The meaning of publisher expressions

What a publisher expression delivers when it is asked for everything: items, and then completion or
a failure. Expressions driven by hand, names without a definition, and recoveries that perform
actions first have no meaning of their own.

Main results:

- Theorem `meaning_ofList`, theorem `meaning_range` and theorem `meaning_takeLast_completing`
  compute the meaning of the simplest expressions.
- Theorem `meaning_resume_completing` shows that a resumption leaves a completing feed alone.
-/

namespace Backpressure

/-- Items, and the failure that follows them, if the end is not completion. -/
structure Meaning (α : Type) where
  items : List α
  failure : Option Failure := none

namespace Meaning

variable {α : Type}

/-- The last items of a list. -/
def lastItems (count : Nat) (xs : List α) : List α := xs.drop (xs.length - count)

/-- The last items of a meaning. A failure that is not delayed takes the place of the items. -/
def takeLast (count : Nat) (delaysFailure : Bool) (meaning : Meaning α) : Meaning α :=
  if meaning.failure.isSome && !delaysFailure then { meaning with items := [] }
  else { meaning with items := lastItems count meaning.items }

/-- The items of one meaning, followed by another meaning. -/
def append (xs : List α) (meaning : Meaning α) : Meaning α :=
  { meaning with items := xs ++ meaning.items }

/-- No items, and a failure that is held together with a second one. -/
def failing (failure second : Failure) : Meaning α :=
  { items := [], failure := some (.composite [failure, second]) }

/-- At most as many of the last items are kept as were asked for. -/
theorem length_lastItems (count : Nat) (xs : List α) :
    (lastItems count xs).length = min count xs.length := by
  simp only [lastItems, List.length_drop]
  omega

end Meaning

mutual

/-- The meaning of a publisher expression, if it has one. -/
def Publisher.meaning {α σ : Type} : Publisher α σ → Option (Meaning α)
  | .items supply => some { items := supply.toList }
  | .fail failure => some { items := [], failure := some failure }
  | .takeLast count delaysFailure up => up.meaning.map (.takeLast count delaysFailure)
  | .resume _ recover up =>
      match up.meaning with
      | some { items, failure := some failure } =>
          ((recover failure).meaning failure).map (.append items)
      | meaning => meaning
  | .hand _ | .deferred _ | .named _ => none

/-- What follows a failure under a recovery: the meaning of the publisher it gives, or no items and
both failures as one when it gives none, fails itself or panics. -/
def Recovery.meaning {α σ : Type} (failure : Failure) : Recovery α σ → Option (Meaning α)
  | .to publisher => publisher.meaning
  | .nothing => some (.failing failure (.protocol "recovery function produced no publisher"))
  | .error second => some (.failing failure second)
  | .panic (some message) =>
      some (.failing failure (.panic ("recovery function panicked: " ++ message)))
  | .panic none => some (.failing failure (.panic "recovery function panicked"))
  | .perform _ _ => none

end

namespace Publisher

variable {α σ : Type}

/-- A list means its items and completion. -/
theorem meaning_ofList (xs : List α) :
    (ofList xs : Publisher α σ).meaning = some { items := xs } := rfl

/-- A range means its numbers and completion. -/
theorem meaning_range (low high : Int) :
    (range low high : Publisher Int σ).meaning =
      some { items := (List.range (high - low).toNat).map fun offset : Nat => low + offset } := by
  rw [range, meaning, Supply.toList_range]

/-- One item means that item and completion. -/
theorem meaning_just (x : α) : (just x : Publisher α σ).meaning = some { items := [x] } := rfl

/-- No item means completion. -/
theorem meaning_empty : (empty : Publisher α σ).meaning = some { items := [] } := rfl

/-- The last items of a completing feed. -/
theorem meaning_takeLast_completing {up : Publisher α σ} {xs : List α}
    (h : up.meaning = some { items := xs }) (count : Nat) (delaysFailure : Bool) :
    (takeLast count delaysFailure up).meaning =
      some { items := Meaning.lastItems count xs } := by
  simp [meaning, h, Meaning.takeLast]

/-- A resumption leaves a completing feed alone. -/
theorem meaning_resume_completing {up : Publisher α σ} {xs : List α}
    (h : up.meaning = some { items := xs }) (tag : Option String)
    (recover : Failure → Recovery α σ) :
    (resume tag recover up).meaning = some { items := xs } := by
  simp [meaning, h]

end Publisher

end Backpressure
