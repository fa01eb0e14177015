import Backpressure.Network
import Mathlib.Algebra.Ring.Nat

/-!
# The course of one resumption

A resumption in a network is seen from three sides: its feeds signal to it and are called by it,
its receiver calls it and hears signals, and its recovery is asked. A course is what happens there,
turn after turn, whatever goes on elsewhere in between. What a resumption has still to do in the
middle of a call is kept as its duties.

Main results:

- Theorem `Turn.signals_append` and its companions read what happened through concatenation.
- Theorem `Moves.hears_or_not` tells the moves that hear a feed from the others.
-/

namespace Backpressure.Network

variable {α : Type}

/-! ## Turns -/

/-- What happens at a resumption. -/
inductive Turn (α : Type) where
  /-- A feed signals. -/
  | heard (delivery : Delivery α Link)
  /-- A call comes in from below. -/
  | taken (order : Order)
  /-- A call is made on a feed. -/
  | issued (link : Link) (order : Order)
  /-- The recovery is asked about a failure. -/
  | consulted (failure : Failure)
  /-- The receiver has dealt with an item. -/
  | returned

namespace Turn

/-- The signal that a turn hears. -/
def signal? : Turn α → Option (Signal α)
  | .heard delivery => some delivery.signal
  | _ => none

/-- The failure that a turn asks the recovery about. -/
def failure? : Turn α → Option Failure
  | .consulted failure => some failure
  | _ => none

/-- The call that a turn makes. -/
def call? : Turn α → Option (Link × Order)
  | .issued link order => some (link, order)
  | _ => none

/-- The amount that a turn is asked for; a request for nothing is none. -/
def request? : Turn α → Option UInt64
  | .taken (.request amount) => if amount = 0 then none else some amount
  | _ => none

/-- Whether an item has been dealt with. -/
def isReturned : Turn α → Bool
  | .returned => true
  | _ => false

/-- What the feeds have signalled. -/
def signals (turns : List (Turn α)) : List (Signal α) := turns.filterMap signal?

/-- What the recovery was asked. -/
def consultations (turns : List (Turn α)) : List Failure := turns.filterMap failure?

/-- The calls that were made on feeds. -/
def calls (turns : List (Turn α)) : List (Link × Order) := turns.filterMap call?

/-- The amounts that came in from below. -/
def requests (turns : List (Turn α)) : List UInt64 := turns.filterMap request?

/-- How many items were signalled. -/
def items (turns : List (Turn α)) : Nat := (History.values (signals turns)).length

/-- How many items the receiver has dealt with. -/
def returns (turns : List (Turn α)) : Nat := turns.countP isReturned

/-- How many items were asked for from below. -/
def requested (turns : List (Turn α)) : Nat := ((requests turns).map UInt64.toNat).sum

/-- How many items a call asks a feed for. -/
def amountOf : Link × Order → Nat
  | (_, .request amount) => amount.toNat
  | (_, .cancel) => 0

/-- How many items the feeds were asked for. -/
def passed (turns : List (Turn α)) : Nat := ((calls turns).map amountOf).sum

/-- Whether a feed has failed. -/
def fails (turns : List (Turn α)) : Bool := (History.failure? (signals turns)).isSome

/-- The signals of two stretches in a row. -/
@[simp] theorem signals_append (first second : List (Turn α)) :
    signals (first ++ second) = signals first ++ signals second :=
  List.filterMap_append

/-- The questions of two stretches in a row. -/
@[simp] theorem consultations_append (first second : List (Turn α)) :
    consultations (first ++ second) = consultations first ++ consultations second :=
  List.filterMap_append

/-- The calls of two stretches in a row. -/
@[simp] theorem calls_append (first second : List (Turn α)) :
    calls (first ++ second) = calls first ++ calls second :=
  List.filterMap_append

/-- The requests of two stretches in a row. -/
@[simp] theorem requests_append (first second : List (Turn α)) :
    requests (first ++ second) = requests first ++ requests second :=
  List.filterMap_append

/-- The items of two stretches in a row. -/
@[simp] theorem items_append (first second : List (Turn α)) :
    items (first ++ second) = items first + items second := by
  rw [items, signals_append, History.values_append, List.length_append, items, items]

/-- The items that were dealt with in two stretches in a row. -/
@[simp] theorem returns_append (first second : List (Turn α)) :
    returns (first ++ second) = returns first + returns second :=
  List.countP_append

/-- The demand of two stretches in a row. -/
@[simp] theorem requested_append (first second : List (Turn α)) :
    requested (first ++ second) = requested first + requested second := by
  rw [requested, requests_append, List.map_append, List.sum_append, requested, requested]

/-- The demand that was passed on in two stretches in a row. -/
@[simp] theorem passed_append (first second : List (Turn α)) :
    passed (first ++ second) = passed first + passed second := by
  rw [passed, calls_append, List.map_append, List.sum_append, passed, passed]

end Turn

/-! ## Duties -/

/-- What a resumption has still to do before a call on it returns. -/
inductive Duty (α : Type) where
  /-- Signal to the receiver. -/
  | tell (delivery : Delivery α Link)
  | bind (link : Link)
  | count
  | consult (failure : Failure)
  /-- Follow what the recovery says about a failure. -/
  | decide (failure : Failure) (recovery : Recovery α (Action α))

namespace Duty

/-- The duty that some work is. -/
def ofWork : Resumption.Work Link → Duty α
  | .bind link => .bind link
  | .count => .count
  | .recover failure => .consult failure

/-- The duty that an effect is, unless it is a call on a feed. -/
def ofEffect? : Effect α Link (Resumption.Work Link) → Option (Duty α)
  | .signal delivery => some (.tell delivery)
  | .order _ _ => none
  | .go work => some (ofWork work)

/-- The signal that is still to be told. -/
def told? : Duty α → Option (Signal α)
  | .tell delivery => some delivery.signal
  | _ => none

/-- Whether a duty concerns neither the receiver nor the recovery. -/
def isSilent : Duty α → Bool
  | .bind _ | .count => true
  | .tell _ | .consult _ | .decide _ _ => false

end Duty

/-- The call that an effect is. -/
def Turn.ofEffect? : Effect α Link (Resumption.Work Link) → Option (Turn α)
  | .order link order => some (.issued link order)
  | _ => none

namespace Turn

/-- Calls on feeds are no signals of them. -/
theorem signals_ofEffect? (effects : List (Effect α Link (Resumption.Work Link))) :
    signals (effects.filterMap ofEffect?) = [] := by
  rw [signals, List.filterMap_filterMap]
  refine List.filterMap_eq_nil_iff.2 fun effect _ => ?_
  cases effect <;> rfl

/-- Calls on feeds ask no recovery. -/
theorem consultations_ofEffect? (effects : List (Effect α Link (Resumption.Work Link))) :
    consultations (effects.filterMap ofEffect?) = [] := by
  rw [consultations, List.filterMap_filterMap]
  refine List.filterMap_eq_nil_iff.2 fun effect _ => ?_
  cases effect <;> rfl

end Turn

/-! ## Courses -/

/-- How a resumption stands: its state, what its receiver has heard, and what it has still to do. It
is poised when its first duty is what is done next. -/
structure Standing (α : Type) where
  unit : Resumption Link := {}
  history : List (Signal α) := []
  duties : List (Duty α) := []
  poised : Bool := false

/-- What can happen at a resumption next, with the turns it takes. A feed signals only when no duty
is left, and a duty is done only when it is what comes next. -/
inductive Moves (index : Nat) (recover : Failure → Recovery α (Action α)) :
    Standing α → List (Turn α) → Standing α → Prop
  /-- Something happens elsewhere. -/
  | other {unit : Resumption Link} {history : List (Signal α)} {duties : List (Duty α)}
      (poised : Bool) :
      Moves index recover ⟨unit, history, duties, false⟩ [] ⟨unit, history, duties, poised⟩
  | hear {unit : Resumption Link} {history : List (Signal α)} (delivery : Delivery α Link) :
      Moves index recover ⟨unit, history, [], false⟩ [.heard delivery]
        ⟨(unit.hear (.switch index) delivery).1, history,
          (unit.hear (.switch index) delivery).2.filterMap Duty.ofEffect?, true⟩
  | take {unit : Resumption Link} {history : List (Signal α)} {duties : List (Duty α)}
      (order : Order) (poised : Bool) :
      Moves index recover ⟨unit, history, duties, false⟩
        (.taken order :: (unit.take order).2.filterMap Turn.ofEffect?)
        ⟨(unit.take (α := α) order).1, history, duties, poised⟩
  | tell {unit : Resumption Link} {history : List (Signal α)} {duties : List (Duty α)}
      (delivery : Delivery α Link) (poised : Bool) :
      Moves index recover ⟨unit, history, .tell delivery :: duties, true⟩ []
        ⟨unit, history ++ [delivery.signal], duties, poised⟩
  | bind {unit : Resumption Link} {history : List (Signal α)} {duties : List (Duty α)}
      (link : Link) (poised : Bool) :
      Moves index recover ⟨unit, history, .bind link :: duties, true⟩
        ((unit.bind link).2.filterMap Turn.ofEffect?)
        ⟨(unit.bind (α := α) link).1, history, duties, poised⟩
  | count {unit : Resumption Link} {history : List (Signal α)} {duties : List (Duty α)}
      (poised : Bool) :
      Moves index recover ⟨unit, history, .count :: duties, true⟩ [.returned]
        ⟨unit.count, history, duties, poised⟩
  | consult {unit : Resumption Link} {history : List (Signal α)} {duties : List (Duty α)}
      (failure : Failure) :
      Moves index recover ⟨unit, history, .consult failure :: duties, true⟩ [.consulted failure]
        ⟨unit, history, .decide failure (recover failure) :: duties, true⟩
  /-- The recovery performs actions first. -/
  | postpone {unit : Resumption Link} {history : List (Signal α)} {duties : List (Duty α)}
      {failure : Failure} {actions : List (Action α)} {next : Recovery α (Action α)}
      (poised : Bool) :
      Moves index recover ⟨unit, history, .decide failure (.perform actions next) :: duties, true⟩
        [] ⟨unit, history, .decide failure next :: duties, poised⟩
  /-- The recovery has given a publisher. -/
  | subscribe {unit : Resumption Link} {history : List (Signal α)} {duties : List (Duty α)}
      {failure : Failure} {publisher : Publisher α (Action α)} :
      Moves index recover ⟨unit, history, .decide failure (.to publisher) :: duties, true⟩
        [] ⟨unit, history, duties, false⟩
  /-- The recovery has failed. -/
  | fail {unit : Resumption Link} {history : List (Signal α)} {duties : List (Duty α)}
      {failure second : Failure} {recovery : Recovery α (Action α)}
      (fails : recovery.failure? = some second) :
      Moves index recover ⟨unit, history, .decide failure recovery :: duties, true⟩
        [] ⟨unit, history, .tell (.error (failure.join second)) :: duties, true⟩

/-- A move either hears a feed or hears nothing. -/
theorem Moves.hears_or_not {index : Nat} {recover : Failure → Recovery α (Action α)}
    {standing next : Standing α} {turns : List (Turn α)}
    (h : Moves index recover standing turns next) :
    (∃ unit history delivery, standing = ⟨unit, history, [], false⟩ ∧ turns = [.heard delivery] ∧
        next = ⟨(unit.hear (.switch index) delivery).1, history,
          (unit.hear (.switch index) delivery).2.filterMap Duty.ofEffect?, true⟩) ∨
      Turn.signals turns = [] := by
  cases h with
  | hear delivery => exact .inl ⟨_, _, delivery, rfl, rfl, rfl⟩
  | take order poised => exact .inr (Turn.signals_ofEffect? _)
  | bind link poised => exact .inr (Turn.signals_ofEffect? _)
  | _ => exact .inr rfl

/-- The turns that can take a new resumption to a standing. -/
inductive Course (index : Nat) (recover : Failure → Recovery α (Action α)) :
    List (Turn α) → Standing α → Prop
  | start : Course index recover [] {}
  | step {turns more : List (Turn α)} {standing next : Standing α}
      (before : Course index recover turns standing)
      (moves : Moves index recover standing more next) :
      Course index recover (turns ++ more) next

end Backpressure.Network
