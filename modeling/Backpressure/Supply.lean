/-!
# Supplies

A supply is a finite sequence of items that is looked at from the front only. It is a list, or it
is made by applying a function again and again, so that a long run of numbers needs no room.

Main results:

- Theorem `toList_of_uncons?` and theorem `uncons?_eq_none_iff` describe the front of a supply.
- Theorem `toList_range` shows which numbers a range holds.
-/

namespace Backpressure

/-- A supply of items. -/
inductive Supply (α : Type) where
  | list (xs : List α)
  /-- So many items: the first one, and after each item the one that a function makes of it. -/
  | iterate (next : α → α) (first : α) (count : Nat)

namespace Supply

variable {α : Type}

/-- Repeated application of a function. -/
def iterates (next : α → α) (first : α) : Nat → List α
  | 0 => []
  | count + 1 => first :: iterates next (next first) count

/-- The items of a supply, in order. -/
def toList : Supply α → List α
  | .list xs => xs
  | .iterate next first count => iterates next first count

/-- Whether a supply holds no item. -/
def isEmpty : Supply α → Bool
  | .list xs => xs.isEmpty
  | .iterate _ _ count => count = 0

/-- The first item of a supply, and the rest. -/
def uncons? : Supply α → Option (α × Supply α)
  | .list [] => none
  | .list (x :: rest) => some (x, .list rest)
  | .iterate _ _ 0 => none
  | .iterate next first (count + 1) => some (first, .iterate next (next first) count)

/-- The whole numbers from `low` up to, but not including, `high`. -/
def range (low high : Int) : Supply Int := .iterate (· + 1) low (high - low).toNat

/-! ## The front of a supply -/

/-- A supply is empty exactly if it has no items. -/
theorem isEmpty_iff {supply : Supply α} : supply.isEmpty = true ↔ supply.toList = [] := by
  rcases supply with (_ | ⟨x, rest⟩) | ⟨next, first, _ | count⟩ <;>
    simp [isEmpty, toList, iterates]

/-- The item that is taken stood before all others. -/
theorem toList_of_uncons? {supply rest : Supply α} {x : α}
    (h : supply.uncons? = some (x, rest)) : supply.toList = x :: rest.toList := by
  rcases supply with (_ | ⟨y, ys⟩) | ⟨next, first, _ | count⟩
  · simp [uncons?] at h
  · simp only [uncons?, Option.some.injEq, Prod.mk.injEq] at h
    obtain ⟨rfl, rfl⟩ := h
    rfl
  · simp [uncons?] at h
  · simp only [uncons?, Option.some.injEq, Prod.mk.injEq] at h
    obtain ⟨rfl, rfl⟩ := h
    rfl

/-- Nothing is taken exactly from an empty supply. -/
theorem uncons?_eq_none_iff {supply : Supply α} :
    supply.uncons? = none ↔ supply.toList = [] := by
  rcases supply with (_ | ⟨x, rest⟩) | ⟨next, first, _ | count⟩ <;>
    simp [uncons?, toList, iterates]

/-! ## Ranges -/

/-- Counting up from a number. -/
theorem iterates_succ (low : Int) (count : Nat) :
    iterates (· + 1) low count = (List.range count).map fun offset : Nat => low + offset := by
  induction count generalizing low with
  | zero => rfl
  | succ count ih =>
      rw [iterates, ih, List.range_succ_eq_map, List.map_cons, List.map_map]
      congr 1
      · exact (Int.add_zero low).symm
      · apply List.map_congr_left
        intro offset _
        simp only [Function.comp, Int.natCast_succ]
        omega

/-- A range holds the numbers from its lower bound, as many as the bounds are apart. -/
theorem toList_range (low high : Int) :
    (range low high).toList =
      (List.range (high - low).toNat).map fun offset : Nat => low + offset :=
  iterates_succ low _

end Supply

end Backpressure
