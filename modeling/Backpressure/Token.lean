import Backpressure.Notifier

/-!
# Cancellation tokens

Tokens come in families: a clone shares the flag and the notifier of the token it was made from. A
future waits for the flag of one family. It registers at the notifier when it is first polled, and
the first cancellation notifies everyone who is registered.

Main results:

- Theorem `cancel_of_cancelled` shows that only the first cancellation of a family does anything.
- Theorem `poll_of_cancelled` shows that a poll is ready once the family is cancelled, and registers
  nowhere.
-/

namespace Backpressure

/-- What the clones of a token share. -/
structure Family (ν : Type) where
  cancelled : Bool := false
  notifier : ν

/-- A future that resolves once a family is cancelled. -/
structure Waiter where
  /-- The family whose flag it waits for. -/
  family : Nat
  /-- The key of its listener, once it is registered. -/
  listener : Option Nat := none
  /-- Whether it was dropped. -/
  dropped : Bool := false
  deriving DecidableEq

namespace Family

variable {ν : Type} [Notifier ν]

/-- A family that is not cancelled. -/
def fresh : Family ν := { notifier := Notifier.fresh }

/-- Set the flag. If it was not set before, everyone who is registered is notified; the answer is
whether that was so, and the wakers that are called. -/
def cancel (family : Family ν) : Bool × List Nat × Family ν :=
  if family.cancelled then (false, [], family)
  else
    let (woken, notifier) := Notifier.notifyAll family.notifier
    (true, woken, { cancelled := true, notifier })

/-- What a round of the loop of a poll comes to. -/
inductive Round where
  | ready
  | pending
  | again
  deriving DecidableEq

/-- One round of the loop of a poll: look at the flag, then register or ask the listener. The flag
is looked at again after registering, since a cancellation may have come in between. -/
def round (family : Family ν) (listener : Option Nat) (waker : Nat) :
    Round × Option Nat × Family ν :=
  if family.cancelled then (.ready, listener, family)
  else
    match listener with
    | none =>
        let (key, notifier) := Notifier.listen family.notifier
        (.again, some key, { family with notifier })
    | some key =>
        let (notified, notifier) := Notifier.poll family.notifier key waker
        if notified then (.again, none, { family with notifier })
        else (.pending, some key, { family with notifier })

/-- The loop of a poll, for a number of rounds. -/
def rounds (family : Family ν) (listener : Option Nat) (waker : Nat) :
    Nat → Round × Option Nat × Family ν
  | 0 => (.again, listener, family)
  | n + 1 =>
      match family.round listener waker with
      | (.again, listener, family) => family.rounds listener waker n
      | settled => settled

/-- Poll a future of the family. Its loop goes on for three rounds at most: a listener that was
notified is given up, a new one is registered, and that one is pending. -/
def poll (family : Family ν) (listener : Option Nat) (waker : Nat) :
    Round × Option Nat × Family ν :=
  family.rounds listener waker 3

/-- Drop the listener of a future; the answer is the wakers that are called. -/
def release (family : Family ν) : Option Nat → List Nat × Family ν
  | none => ([], family)
  | some key =>
      let (woken, notifier) := Notifier.drop family.notifier key
      (woken, { family with notifier })

/-- Only the first cancellation does anything. -/
theorem cancel_of_cancelled {family : Family ν} (h : family.cancelled = true) :
    family.cancel = (false, [], family) :=
  if_pos h

/-- Once the family is cancelled, a poll is ready and registers nowhere. -/
theorem poll_of_cancelled {family : Family ν} (h : family.cancelled = true)
    (listener : Option Nat) (waker : Nat) :
    family.poll listener waker = (.ready, listener, family) := by
  have hround : family.round listener waker = (.ready, listener, family) := if_pos h
  rw [poll, rounds, hround]

end Family

/-- All tokens and futures of a program. -/
structure Room (ν : Type) [Notifier ν] where
  /-- What each family shares. -/
  families : List (Family ν) := [.fresh]
  /-- The family of each token. -/
  tokens : List Nat := [0]
  /-- The futures made so far. -/
  waiters : List Waiter := []

/-- The tokens and futures of a program that runs. -/
abbrev TokenRoom := Room Listeners

namespace TokenRoom

/-- An operation on the tokens and futures. -/
inductive Action where
  /-- Make a token of a new family. -/
  | fresh
  /-- Make another token of the same family. -/
  | clone (token : Nat)
  | cancel (token : Nat)
  | isCancelled (token : Nat)
  /-- Make a future for a token, without polling it. -/
  | wait (token : Nat)
  | poll (waiter : Nat)
  | drop (waiter : Nat)
  deriving DecidableEq

/-- What an operation answers. -/
inductive Answer where
  | index (i : Nat)
  | flag (b : Bool)
  | ready
  | pending
  | dropped
  | none
  deriving DecidableEq

end TokenRoom

namespace Room

open TokenRoom (Action Answer)

variable {ν : Type} [Notifier ν]

/-! ## Operations -/

/-- The family of a token. -/
def familyOf (room : Room ν) (token : Nat) : Nat := room.tokens.getD token 0

/-- What a family shares. -/
def shared (room : Room ν) (family : Nat) : Family ν := room.families.getD family .fresh

/-- Whether a family is cancelled. -/
def cancelled (room : Room ν) (family : Nat) : Bool := (room.shared family).cancelled

/-- Cancel a family: whether this was the first time, and the futures that are woken. -/
def cancelFamily (room : Room ν) (family : Nat) : Room ν × Bool × List Nat :=
  let (first, woken, shared) := (room.shared family).cancel
  ({ room with families := room.families.set family shared }, first, woken)

/-- What a poll answers. -/
def answerOf : Family.Round → Answer
  | .ready => .ready
  | .pending => .pending
  | .again => .none

/-- Poll a future. It is its own waker. -/
def pollWaiter (room : Room ν) (i : Nat) : Room ν × Answer :=
  match room.waiters[i]? with
  | some waiter =>
      if waiter.dropped then (room, .dropped)
      else
        let (round, listener, shared) := (room.shared waiter.family).poll waiter.listener i
        ({ room with
            families := room.families.set waiter.family shared
            waiters := room.waiters.set i { waiter with listener } },
          answerOf round)
  | none => (room, .dropped)

/-- Drop a future with its listener; the answer is the futures that are woken. -/
def dropWaiter (room : Room ν) (i : Nat) : Room ν × List Nat :=
  match room.waiters[i]? with
  | some waiter =>
      let (woken, shared) := (room.shared waiter.family).release waiter.listener
      ({ room with
          families := room.families.set waiter.family shared
          waiters := room.waiters.set i { waiter with listener := none, dropped := true } },
        woken)
  | none => (room, [])

/-- Perform one operation; the answer comes with the futures that were woken by it. -/
def step (room : Room ν) : Action → Room ν × Answer × List Nat
  | .fresh =>
      ({ room with
          families := room.families ++ [.fresh]
          tokens := room.tokens ++ [room.families.length] },
        .index room.tokens.length, [])
  | .clone token =>
      ({ room with tokens := room.tokens ++ [room.familyOf token] },
        .index room.tokens.length, [])
  | .cancel token =>
      let (room, first, woken) := room.cancelFamily (room.familyOf token)
      (room, .flag first, woken)
  | .isCancelled token => (room, .flag (room.cancelled (room.familyOf token)), [])
  | .wait token =>
      ({ room with waiters := room.waiters ++ [{ family := room.familyOf token }] },
        .index room.waiters.length, [])
  | .poll i =>
      let (room, answer) := room.pollWaiter i
      (room, answer, [])
  | .drop i =>
      let (room, woken) := room.dropWaiter i
      (room, .none, woken)

/-- Perform operations in order, with the answer of each. -/
def run (room : Room ν) : List Action → Room ν × List (Answer × List Nat)
  | [] => (room, [])
  | action :: rest =>
      let (next, answer) := room.step action
      let (last, answers) := next.run rest
      (last, answer :: answers)

/-- Operations in two parts are performed one part after the other. -/
theorem run_append (room : Room ν) (first rest : List Action) :
    room.run (first ++ rest) =
      (((room.run first).1.run rest).1, (room.run first).2 ++ ((room.run first).1.run rest).2) := by
  induction first generalizing room with
  | nil => rfl
  | cons action first ih => simp only [List.cons_append, run, ih]

end Room

namespace TokenRoom

/-- The futures that were woken, in the order in which they were made. -/
def report (room : TokenRoom) (woken : List Nat) : List Nat :=
  (List.range room.waiters.length).filter (· ∈ woken)

/-- Run a program, with the answer of each operation and a report of who was woken by it. -/
def run (room : TokenRoom) (actions : List Action) : TokenRoom × List (Answer × List Nat) :=
  let (last, answers) := Room.run room actions
  (last, answers.map fun (answer, woken) => (answer, report last woken))

/-- The flag of every token. -/
def flags (room : TokenRoom) : List Bool := room.tokens.map room.cancelled

end TokenRoom

end Backpressure
