import Backpressure.Failure.Text

/-!
# The causes inside a failure

Composites may hold composites, to any depth. What a failure is made of in the end are its leaves:
the failures in it that hold no others, from left to right. The primary cause is the first of them,
and the message of a failure holds the messages of all of them, one after the other.

Main results:

- Theorem `induction_on_leaves` goes through a failure from its leaves up.
- Theorem `head?_leaves` shows that the primary cause is the first leaf.
- Theorem `Text.HoldsInOrder.intercalate` puts texts together that hold parts in order.
- Theorem `holdsInOrder_message` finds the messages of all leaves in the message of a failure.
- Theorem `message_composite` reads what the message of a composite announces.
- Theorem `causes_kept_in_order` states the laws of causes for every failure.
-/

namespace Backpressure

/-! ## Parts of a text -/

namespace Text

/-- A text holds parts in order if each of them stands somewhere behind the ones before it, without
overlap. -/
def HoldsInOrder : List String → String → Prop
  | [], _ => True
  | part :: parts, text =>
      ∃ before after, text = before ++ part ++ after ∧ HoldsInOrder parts after

namespace HoldsInOrder

variable {parts more : List String} {text rest : String}

/-- A text holds itself. -/
theorem singleton (text : String) : HoldsInOrder [text] text :=
  ⟨"", "", by rw [String.empty_append, String.append_empty], trivial⟩

/-- What comes in front of a text does not matter. -/
theorem prepend (front : String) (h : HoldsInOrder parts text) :
    HoldsInOrder parts (front ++ text) := by
  cases parts with
  | nil => trivial
  | cons part parts =>
      obtain ⟨before, after, rfl, hafter⟩ := h
      exact ⟨front ++ before, after, by simp only [String.append_assoc], hafter⟩

/-- Two texts in a row hold the parts of the first and then those of the second. -/
theorem append (hfirst : HoldsInOrder parts text) (hsecond : HoldsInOrder more rest) :
    HoldsInOrder (parts ++ more) (text ++ rest) := by
  induction parts generalizing text with
  | nil => exact hsecond.prepend text
  | cons part parts ih =>
      obtain ⟨before, after, rfl, hafter⟩ := hfirst
      exact ⟨before, after ++ rest, by simp only [String.append_assoc], ih hafter⟩

/-- Texts that are put together with a separator hold the parts of all of them. -/
theorem intercalate {ι : Type} {write : ι → String} {partsOf : ι → List String}
    (separator : String) {xs : List ι} (h : ∀ x ∈ xs, HoldsInOrder (partsOf x) (write x)) :
    HoldsInOrder (xs.flatMap partsOf) (separator.intercalate (xs.map write)) := by
  induction xs with
  | nil => trivial
  | cons x xs ih =>
      have hx := h x List.mem_cons_self
      have hxs := ih fun y hy => h y (List.mem_cons_of_mem x hy)
      rw [List.flatMap_cons, List.map_cons]
      by_cases hnil : xs = []
      · subst hnil
        rw [List.map_nil, String.intercalate_singleton, List.flatMap_nil, List.append_nil]
        exact hx
      · have hwritten : xs.map write ≠ [] := mt List.map_eq_nil_iff.1 hnil
        rw [String.intercalate_cons_of_ne_nil hwritten, String.append_assoc]
        exact hx.append (hxs.prepend separator)

end HoldsInOrder

end Text

namespace Failure

/-! ## Leaves -/

mutual

/-- A failure with all failures that are held together in it, each composite before its members. An
error of the application is one failure, whatever it carries. -/
def parts : Failure → List Failure
  | .composite members => .composite members :: partsOfAll members
  | failure => [failure]

/-- The parts of several failures, in order. -/
def partsOfAll : List Failure → List Failure
  | [] => []
  | failure :: rest => failure.parts ++ partsOfAll rest

end

/-- The parts of a list are the parts of its elements. -/
theorem partsOfAll_eq_flatMap (failures : List Failure) :
    partsOfAll failures = failures.flatMap parts := by
  induction failures with
  | nil => rfl
  | cons failure rest ih => rw [partsOfAll, ih, List.flatMap_cons]

/-- What a failure is made of in the end: the parts of it that hold no others, from left to
right. -/
def leaves (failure : Failure) : List Failure :=
  failure.parts.filter fun part => !part.isNonemptyComposite

/-- A composite with members is made of what its members are made of. -/
theorem leaves_composite_cons (first : Failure) (rest : List Failure) :
    (composite (first :: rest)).leaves = (first :: rest).flatMap leaves := by
  have hparts : (composite (first :: rest)).parts =
      composite (first :: rest) :: (first :: rest).flatMap parts := by
    rw [← partsOfAll_eq_flatMap, parts]
  rw [leaves, hparts, List.filter_cons_of_neg (by simp [isNonemptyComposite]),
    List.filter_flatMap]
  rfl

/-- A failure that holds no others is made of itself. -/
theorem leaves_of_not_nonemptyComposite {failure : Failure}
    (h : failure.isNonemptyComposite = false) : failure.leaves = [failure] := by
  have hparts : failure.parts = [failure] := by
    cases failure with
    | composite members =>
        cases members with
        | nil => rfl
        | cons first rest => simp [isNonemptyComposite] at h
    | _ => rfl
  rw [leaves, hparts, List.filter_cons_of_pos (by simp [h]), List.filter_nil]

/-- Failures are gone through from their leaves up to the composites that hold them. -/
theorem induction_on_leaves {motive : Failure → Prop}
    (leaf : ∀ failure, failure.isNonemptyComposite = false → motive failure)
    (composite : ∀ first rest, (∀ member ∈ first :: rest, motive member) →
      motive (.composite (first :: rest))) :
    ∀ failure, motive failure
  | .composite (first :: rest) =>
      composite first rest fun member _ => induction_on_leaves leaf composite member
  | .composite [] | .stream _ | .user _ | .wrapped _ | .panic _ | .protocol _ => leaf _ rfl

/-- The primary cause is the first thing that a failure is made of. -/
theorem head?_leaves (failure : Failure) : failure.leaves.head? = some failure.primary := by
  induction failure using induction_on_leaves with
  | leaf failure hleaf =>
      rw [leaves_of_not_nonemptyComposite hleaf, primary_of_not_nonemptyComposite hleaf]
      rfl
  | composite first rest ih =>
      rw [leaves_composite_cons, List.flatMap_cons, List.head?_append, ih first List.mem_cons_self,
        primary]
      rfl

/-- A failure that is held together with another one keeps its primary cause. -/
theorem primary_join (failure secondary : Failure) :
    (failure.join secondary).primary = failure.primary := by
  simp only [join, primary]

/-! ## Messages -/

/-- The number of causes is announced in the singular for exactly one. -/
theorem causeCount_eq (n : Nat) :
    causeCount n = toString n ++ (if n = 1 then " cause" else " causes") := by
  unfold causeCount
  split
  · rfl
  next h => rw [if_neg h]

/-- The message of a composite announces the number of its causes, and then gives their messages. -/
theorem message_composite (members : List Failure) :
    (composite members).message =
      "Composite failure (" ++ toString (composite members).causes.length ++
        (if (composite members).causes.length = 1 then " cause" else " causes") ++ "): " ++
        "; ".intercalate ((composite members).causes.map message) := by
  have hmessage : (composite members).message = "Composite failure (" ++
      causeCount members.length ++ "): " ++ "; ".intercalate (messages members) := rfl
  rw [hmessage, messages_eq_map, causeCount_eq, causes]
  simp only [String.append_assoc]

/-- The message of a failure holds the messages of all its leaves, from left to right. -/
theorem holdsInOrder_message (failure : Failure) :
    Text.HoldsInOrder (failure.leaves.map message) failure.message := by
  induction failure using induction_on_leaves with
  | leaf failure hleaf =>
      rw [leaves_of_not_nonemptyComposite hleaf, List.map_singleton]
      exact .singleton failure.message
  | composite first rest ih =>
      rw [leaves_composite_cons, List.map_flatMap, message_composite]
      exact (Text.HoldsInOrder.intercalate "; " ih).prepend _

/-- The causes of every failure. The primary cause is the first leaf, so that it never holds other
failures and is its own primary cause; a failure that is held together with another one is the
first of two causes, and keeps the primary cause that it had. The message holds the messages of all
leaves, from left to right and without overlap. The message of a composite begins with the number
of its causes, in the singular for exactly one. -/
theorem causes_kept_in_order (failure secondary : Failure) (members : List Failure) :
    (failure.leaves.head? = some failure.primary ∧
        failure.primary.isNonemptyComposite = false ∧
        failure.primary.primary = failure.primary ∧
        (failure.join secondary).primary = failure.primary ∧
        (failure.join secondary).causes = [failure, secondary]) ∧
      Text.HoldsInOrder (failure.leaves.map message) failure.message ∧
      (composite members).message =
        "Composite failure (" ++ toString (composite members).causes.length ++
          (if (composite members).causes.length = 1 then " cause" else " causes") ++ "): " ++
          "; ".intercalate ((composite members).causes.map message) :=
  ⟨⟨head?_leaves failure, isNonemptyComposite_primary failure, primary_primary failure,
      primary_join failure secondary, rfl⟩,
    holdsInOrder_message failure, message_composite members⟩

/-- A composite inside a composite, an empty one, and an error of the application that carries a
third. -/
example :
    (composite [.composite [.stream "a", .composite []], .wrapped (.join (.user "b") (.user "c"))]
      ).leaves.map message =
      ["Stream processing error: a", "Composite failure (0 causes): ",
        "User error: Composite failure (2 causes): User error: b; User error: c"] := by decide

end Failure

end Backpressure
