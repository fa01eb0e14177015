import Backpressure.Proofs.Bridge.Course
import Backpressure.Proofs.Grammar.Order

/-!
# When a stream is let go

A stream is closed for want of a holder when someone who held it is let go: the receiver of a
signal by hand that has returned, or the subscriber that a publisher driven by hand had before. A
publisher that remembers a receiver of the stream holds it, so that the stream is not closed before
all such publishers have found other subscribers.

Main results:

- Theorem `isHeldByHand_of_released` shows that a stream that was closed is not held by hand.
- Theorem `not_released_of_remembered` shows that no stream is closed in a run throughout which a
  publisher driven by hand remembers one of its receivers.
-/

namespace Backpressure.Network

variable {α : Type} {network : Network α} {task : Task α} {receiver : Receiver} {index : Nat}
  {name : String}

/-! ## Holders -/

/-- Who is remembered holds the stream of its pipeline. -/
theorem Remembers.isHeldByHand (h : network.Remembers name receiver)
    (hstream : network.streamOf receiver = some index) : network.isHeldByHand index = true := by
  simp only [Network.isHeldByHand, Bool.or_eq_true, List.any_eq_true, Option.any_eq_true]
  rcases h with ⟨hand, hmem, -, hsubscriber⟩ | ⟨deferred, hmem, -, hsubscriber⟩
  · exact .inl (.inr ⟨hand, hmem, receiver, hsubscriber, decide_eq_true hstream⟩)
  · exact .inr ⟨deferred, hmem, receiver, hsubscriber, decide_eq_true hstream⟩

/-- Letting go of a receiver does not change who holds by hand. -/
theorem isHeldByHand_letGo (network : Network α) (receiver : Receiver) (index : Nat) :
    (network.letGo receiver).isHeldByHand index = network.isHeldByHand index := by
  unfold letGo closeStream
  split
  · split
    · rfl
    · split
      · simp only
        split <;> rfl
      · rfl
  · rfl

/-- A stream that is held is not closed when someone is let go. -/
theorem isOpen_letGo (h : network.isHeldByHand index = true) (receiver : Receiver) :
    (network.letGo receiver).isOpen index = network.isOpen index := by
  unfold letGo
  split
  next place _ =>
    split
    · rfl
    next hfree =>
      have hplace : place ≠ index := by
        rintro rfl
        exact hfree (by rw [isHeld, h, Bool.true_or])
      unfold closeStream
      split
      · simp only
        split <;> simp only [isOpen, log, List.getElem?_set_ne hplace]
      · rfl
  next => rfl

/-- A stream that is held after someone was let go, if there was anyone, was not closed for that. -/
theorem isOpen_elim_letGo (receiver : Option Receiver)
    (h : (receiver.elim network network.letGo).isHeldByHand index = true) :
    (receiver.elim network network.letGo).isOpen index = network.isOpen index := by
  cases receiver with
  | none => rfl
  | some receiver =>
      apply isOpen_letGo
      rwa [← isHeldByHand_letGo network receiver]

/-- A subscription closes no stream that is held after it. -/
theorem isOpen_subscribe {publisher : Publisher α (Action α)}
    (h : (network.subscribe receiver publisher).1.isHeldByHand index = true) :
    (network.subscribe receiver publisher).1.isOpen index = network.isOpen index := by
  cases publisher with
  | items supply =>
      simp only [subscribe]
      split <;> rfl
  | hand other =>
      simp only [subscribe] at h ⊢
      split at h
      next place _ => exact (isOpen_elim_letGo _ h).trans rfl
      next => rfl
  | deferred other => exact (isOpen_elim_letGo _ h).trans rfl
  | fail | named | takeLast | resume => rfl

/-! ## Streams that are closed -/

/-- A stream is closed for want of a holder only if it was open before and is not any more. -/
theorem isOpen_of_released (h : .released ∈ bridgeTurns index task network) :
    network.isOpen index = true ∧ (perform task network).1.isOpen index = false ∧
      ((∃ receiver, task = .leave receiver) ∨
        ∃ publisher receiver, task = .subscribe publisher receiver) := by
  have hcall : ∀ call : Option (Call Link), .released ∉ Bridge.Turn.ofCall (α := α) call := by
    intro call hmem
    obtain ⟨_, -, heq⟩ := List.mem_map.1 hmem
    cases heq
  have hcloses : ∀ {task : Task α}, .released ∈ (if network.isOpen index &&
      !(perform task network).1.isOpen index then [.released] else [] :
        List (Bridge.Turn α Link)) →
      network.isOpen index = true ∧ (perform task network).1.isOpen index = false := by
    intro task hmem
    split at hmem
    next hboth => simpa using hboth
    next => exact absurd hmem List.not_mem_nil
  unfold bridgeTurns at h
  split at h
  · split at h
    · split at h
      · cases List.mem_singleton.1 h
      · exact absurd h List.not_mem_nil
    · exact absurd h List.not_mem_nil
  · split at h
    all_goals first
      | exact absurd h List.not_mem_nil
      | exact ⟨(hcloses h).1, (hcloses h).2, .inl ⟨_, rfl⟩⟩
      | exact ⟨(hcloses h).1, (hcloses h).2, .inr ⟨_, _, rfl⟩⟩
      | split at h
        · simp [Bridge.Turn.ofHear, Bridge.Turn.ofPoll, Bridge.Turn.ofDrop, hcall] at h
        · exact absurd h List.not_mem_nil

/-- A stream that was closed for want of a holder is held by no publisher driven by hand, and by no
signal by hand that has not returned. -/
theorem isHeldByHand_of_released (h : .released ∈ bridgeTurns index task network) :
    (perform task network).1.isHeldByHand index = false := by
  obtain ⟨hopen, hclosed, hcause⟩ := isOpen_of_released h
  rw [← Bool.not_eq_true]
  intro hheld
  have hsame : (perform task network).1.isOpen index = network.isOpen index := by
    rcases hcause with ⟨receiver, rfl⟩ | ⟨publisher, receiver, rfl⟩
    · let left : Network α := { network with hearing := network.hearing.erase receiver }
      have hkept : (left.letGo receiver).isOpen index = left.isOpen index := by
        apply isOpen_letGo
        rwa [← isHeldByHand_letGo left receiver]
      exact hkept
    · exact isOpen_subscribe hheld
  rw [hopen, hclosed] at hsame
  exact Bool.false_ne_true hsame

/-- A stream is not closed for want of a holder while a publisher driven by hand remembers one of
its receivers. -/
theorem not_released (h : (perform task network).1.Remembers name receiver)
    (hstream : (perform task network).1.streamOf receiver = some index) :
    .released ∉ bridgeTurns index task network := by
  intro hreleased
  have hheld := h.isHeldByHand hstream
  rw [isHeldByHand_of_released hreleased] at hheld
  exact Bool.false_ne_true hheld

/-- No stream is closed for want of a holder in a run, from whatever moment on, after each task of
which some publisher driven by hand remembers one of its receivers. -/
theorem not_released_of_remembered {agenda : Agenda (Network α) (Task α)} {fuel : Nat}
    (h : ∀ moment < fuel, ∃ name receiver,
      (Agenda.run perform (moment + 1) agenda).state.Remembers name receiver ∧
        (Agenda.run perform (moment + 1) agenda).state.streamOf receiver = some index) :
    .released ∉ bridgeCourse index fuel agenda := by
  induction fuel with
  | zero => exact List.not_mem_nil
  | succ fuel ih =>
      have hbefore := ih fun moment hmoment => h moment (Nat.lt_succ_of_lt hmoment)
      rcases hrun : Agenda.run perform fuel agenda with ⟨network, _ | ⟨task, rest⟩⟩
      · rw [bridgeCourse, Agenda.observe_succ_idle hrun]
        exact hbefore
      · obtain ⟨name, receiver, hremembers, hstream⟩ := h fuel (Nat.lt_succ_self fuel)
        rw [Agenda.run_succ, hrun, Agenda.step_cons] at hremembers hstream
        rw [bridgeCourse, Agenda.observe_succ hrun, List.mem_append]
        exact fun hmem => hmem.elim hbefore (not_released hremembers hstream)

end Backpressure.Network
