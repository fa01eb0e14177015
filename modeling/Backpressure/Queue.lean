/-!
# Queues

A first-in, first-out queue, kept as two lists so that both of its ends are at hand: items are
taken off the front list, and items that were added wait in the back list, newest first, until the
front list is used up. The size is carried along.

Main results:

- Theorem `toList_push`, theorem `toList_of_pop?` and theorem `toList_drop` describe the two ends
  of a queue.
- Theorem `length_toList` shows that the size is the number of items.
-/

namespace Backpressure

/-- A queue of items. -/
structure Queue (α : Type) where
  /-- The items that are taken next, oldest first. -/
  front : List α
  /-- The items behind them, newest first. -/
  back : List α
  size : Nat
  size_eq : size = front.length + back.length

namespace Queue

variable {α : Type}

/-- The items of a queue, oldest first. -/
def toList (queue : Queue α) : List α := queue.front ++ queue.back.reverse

/-- The queue that holds nothing. -/
def empty : Queue α := ⟨[], [], 0, rfl⟩

/-- A queue of the items of a list, the first of them the oldest. -/
def ofList (xs : List α) : Queue α := ⟨xs, [], xs.length, rfl⟩

/-- Whether a queue holds no item. -/
def isEmpty (queue : Queue α) : Bool := queue.size = 0

/-- Add an item at the back. -/
def push (queue : Queue α) (x : α) : Queue α where
  front := queue.front
  back := x :: queue.back
  size := queue.size + 1
  size_eq := by rw [queue.size_eq, List.length_cons, Nat.add_assoc]

/-- Take the oldest item. The front list is made anew from the back list when it is used up. -/
def pop? : Queue α → Option (α × Queue α)
  | ⟨x :: rest, back, size, size_eq⟩ =>
      some (x, ⟨rest, back, size - 1, by rw [size_eq, List.length_cons]; omega⟩)
  | ⟨[], back, size, size_eq⟩ =>
      match hback : back.reverse with
      | [] => none
      | x :: rest =>
          have hlength : back.length = rest.length + 1 := by
            rw [← List.length_reverse, hback, List.length_cons]
          some (x, ⟨rest, [], size - 1, by rw [size_eq, hlength]; simp⟩)

/-- Give up a number of the oldest items. -/
def drop (queue : Queue α) : Nat → Queue α
  | 0 => queue
  | count + 1 =>
      match queue.pop? with
      | some (_, rest) => rest.drop count
      | none => queue

/-! ## The items of a queue -/

/-- The empty queue has no items. -/
@[simp] theorem toList_empty : (empty : Queue α).toList = [] := rfl

/-- A queue made of a list holds its items. -/
@[simp] theorem toList_ofList (xs : List α) : (ofList xs).toList = xs := by
  simp [ofList, toList]

/-- The size of a queue is the number of its items. -/
theorem length_toList (queue : Queue α) : queue.toList.length = queue.size := by
  rw [toList, List.length_append, List.length_reverse, queue.size_eq]

/-- A queue is empty exactly if it has no items. -/
theorem isEmpty_iff {queue : Queue α} : queue.isEmpty = true ↔ queue.toList = [] := by
  rw [isEmpty, decide_eq_true_eq, ← length_toList, List.length_eq_zero_iff]

/-- An item that is added stands behind all others. -/
@[simp] theorem toList_push (queue : Queue α) (x : α) :
    (queue.push x).toList = queue.toList ++ [x] := by
  simp [push, toList]

/-- The item that is taken stood before all others. -/
theorem toList_of_pop? {queue rest : Queue α} {x : α} (h : queue.pop? = some (x, rest)) :
    queue.toList = x :: rest.toList := by
  rcases queue with ⟨_ | ⟨y, front⟩, back, size, size_eq⟩
  · simp only [pop?] at h
    split at h
    next => contradiction
    next hback =>
      cases h
      simp [toList, hback]
  · cases h
    rfl

/-- Nothing is taken exactly from an empty queue. -/
theorem pop?_eq_none_iff {queue : Queue α} : queue.pop? = none ↔ queue.toList = [] := by
  rcases queue with ⟨_ | ⟨y, front⟩, back, size, size_eq⟩
  · simp only [pop?]
    split
    next hback => simp [toList, hback]
    next hback => simp [toList, hback]
  · simp [pop?, toList]

/-- The oldest items are given up. -/
@[simp] theorem toList_drop (queue : Queue α) (count : Nat) :
    (queue.drop count).toList = queue.toList.drop count := by
  induction count generalizing queue with
  | zero => rfl
  | succ count ih =>
      unfold drop
      split
      next rest h => rw [ih, toList_of_pop? h, List.drop_succ_cons]
      next h => rw [pop?_eq_none_iff.1 h, List.drop_nil]

end Queue

end Backpressure
