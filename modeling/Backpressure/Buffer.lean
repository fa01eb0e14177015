import Backpressure.Queue

/-!
# Buffers

A first-in, first-out buffer, with or without a capacity. A full buffer either turns a new item
away or makes room for it by giving up its oldest item.

Main results:

- Theorem `items_offer?` and theorem `items_poll?` describe the two ends of a buffer.
- Theorem `items_push` shows which items a pushed buffer keeps, and theorem `length_push_le` that
  it never exceeds its capacity.
-/

namespace Backpressure

/-- A buffer of items. -/
structure Buffer (α : Type) where
  queue : Queue α := .empty
  /-- The most items it holds, if that is limited. -/
  capacity : Option Nat := none

namespace Buffer

variable {α : Type}

/-- The items of a buffer, the oldest first. -/
def items (buffer : Buffer α) : List α := buffer.queue.toList

/-- Whether a buffer holds no item. -/
def isEmpty (buffer : Buffer α) : Bool := buffer.queue.isEmpty

/-- How many items a buffer holds. -/
def size (buffer : Buffer α) : Nat := buffer.queue.size

/-- Whether a buffer has no room for another item. -/
def isFull (buffer : Buffer α) : Bool :=
  match buffer.capacity with
  | some capacity => capacity ≤ buffer.size
  | none => false

/-- Add an item at the back, unless the buffer is full. -/
def offer? (buffer : Buffer α) (x : α) : Option (Buffer α) :=
  if buffer.isFull then none else some { buffer with queue := buffer.queue.push x }

/-- Add an item at the back, and give up the oldest items that then have no room. -/
def push (buffer : Buffer α) (x : α) : Buffer α :=
  let queue := buffer.queue.push x
  match buffer.capacity with
  | some capacity => { buffer with queue := queue.drop (queue.size - capacity) }
  | none => { buffer with queue }

/-- Take the oldest item. -/
def poll? (buffer : Buffer α) : Option (α × Buffer α) :=
  buffer.queue.pop?.map fun (x, queue) => (x, { buffer with queue })

/-- Give up all items. -/
def clear (buffer : Buffer α) : Buffer α := { buffer with queue := .empty }

/-- Offer items in order; those that find the buffer full are lost. -/
def offerAll (buffer : Buffer α) (xs : List α) : Buffer α :=
  xs.foldl (fun buffer x => (buffer.offer? x).getD buffer) buffer

/-- The size of a buffer is the number of its items. -/
theorem length_items (buffer : Buffer α) : buffer.items.length = buffer.size :=
  buffer.queue.length_toList

/-- A buffer is empty exactly if it has no items. -/
theorem isEmpty_iff {buffer : Buffer α} : buffer.isEmpty = true ↔ buffer.items = [] :=
  Queue.isEmpty_iff

/-- An item that is accepted stands behind all others. -/
theorem items_offer? {buffer next : Buffer α} {x : α} (h : buffer.offer? x = some next) :
    next.items = buffer.items ++ [x] := by
  unfold offer? at h
  split at h
  · contradiction
  · cases h
    exact Queue.toList_push _ _

/-- The item that is taken stood before all others. -/
theorem items_poll? {buffer next : Buffer α} {x : α} (h : buffer.poll? = some (x, next)) :
    buffer.items = x :: next.items := by
  obtain ⟨⟨y, queue⟩, hpop, heq⟩ := Option.map_eq_some_iff.1 h
  cases heq
  exact Queue.toList_of_pop? hpop

/-- Nothing is taken exactly from an empty buffer. -/
theorem poll?_eq_none_iff {buffer : Buffer α} : buffer.poll? = none ↔ buffer.items = [] := by
  rw [poll?, Option.map_eq_none_iff, Queue.pop?_eq_none_iff, items]

/-- A pushed buffer keeps the latest of all items, as many as it has room for. -/
theorem items_push (buffer : Buffer α) (x : α) :
    (buffer.push x).items =
      match buffer.capacity with
      | some capacity => (buffer.items ++ [x]).drop (buffer.items.length + 1 - capacity)
      | none => buffer.items ++ [x] := by
  unfold push
  split
  next => simp [items, ← Queue.length_toList]
  next => simp [items]

/-- A pushed buffer holds at most its capacity. -/
theorem length_push_le {buffer : Buffer α} {capacity : Nat} (x : α)
    (h : buffer.capacity = some capacity) : (buffer.push x).items.length ≤ capacity := by
  simp only [items_push, h, List.length_drop, List.length_append, List.length_singleton]
  omega

end Buffer

end Backpressure
