import Backpressure.Proofs.Drain.Pass
import Backpressure.Proofs.Grammar.Parse
import Backpressure.Resumption
import Backpressure.Source
import Backpressure.Window

/-!
# Units that keep to the grammar

How a unit stands is told by how far its feed has gone through the grammar, how far it has gone
itself, and how much work it has under way. Whatever the unit hears, takes or goes on with, it says
at most one signal and says it first of all, the grammar allows the signal, and the unit stands
again in one of these ways. What was asked for and how many items are held plays no part in it.

Main results:

- Theorem `Source.Stands.go` covers the work of a source.
- Theorem `Window.Stands.hear`, theorem `Window.Stands.take` and theorem `Window.Stands.go` cover a
  window.
- Theorem `Resumption.Stands.hear` and theorem `Resumption.Stands.call` cover a resumption, and
  theorem `Resumption.Stands.decide` the decision that it owes.
-/

namespace Backpressure

variable {α ι κ : Type}

/-! ## What a unit says -/

/-- Whether an effect is a signal. -/
def Effect.isSignal : Effect α ι κ → Bool
  | .signal _ => true
  | _ => false

/-- Whether an effect is work of a kind. -/
def Effect.isWork (kind : κ → Bool) : Effect α ι κ → Bool
  | .go work => kind work
  | _ => false

/-- How much work of a kind effects ask for. -/
def workload (kind : κ → Bool) (effects : List (Effect α ι κ)) : Nat :=
  effects.countP (·.isWork kind)

/-- What effects say: nothing, or one signal that the grammar allows, first of all. -/
inductive Speaks : Parse → List (Effect α ι κ) → Parse → Prop
  | nothing {said : Parse} {effects : List (Effect α ι κ)}
      (hsilent : ∀ effect ∈ effects, effect.isSignal = false) : Speaks said effects said
  | signal {said next : Parse} {delivery : Delivery α ι} {effects : List (Effect α ι κ)}
      (hnext : said.next? delivery.signal.kind = some next)
      (hsilent : ∀ effect ∈ effects, effect.isSignal = false) :
      Speaks said (.signal delivery :: effects) next

/-- No effects say nothing. -/
theorem speaks_nil (said : Parse) : Speaks said ([] : List (Effect α ι κ)) said :=
  .nothing fun _ h => (List.not_mem_nil h).elim

/-- Calls on links are no signals. -/
theorem isSignal_orders (calls : List (ι × Order)) :
    ∀ effect ∈ calls.map fun call => (.order call.1 call.2 : Effect α ι κ),
      effect.isSignal = false := by
  intro effect heffect
  obtain ⟨call, -, rfl⟩ := List.mem_map.1 heffect
  rfl

/-- Calls on links are no work. -/
theorem workload_orders (kind : κ → Bool) (calls : List (ι × Order)) :
    workload kind (calls.map fun call => (.order call.1 call.2 : Effect α ι κ)) = 0 := by
  refine List.countP_eq_zero.2 fun effect heffect => ?_
  obtain ⟨call, -, rfl⟩ := List.mem_map.1 heffect
  exact Bool.false_ne_true

/-- Nothing but a subscription is delivered before anything else. -/
theorem Parse.next?_silent_delivery {delivery : Delivery α ι} {now : Parse}
    (h : Parse.silent.next? delivery.signal.kind = some now) :
    ∃ link, delivery = .subscribe link ∧ now = .opened := by
  cases delivery with
  | subscribe link => exact ⟨link, rfl, (Option.some.inj h).symm⟩
  | next | error | complete => exact absurd h (Option.some_ne_none now).symm

/-! ## Sources -/

namespace Source

variable {source : Source α} {said : Parse}

/-- A source that has subscribed goes on until it is done. -/
inductive Stands (source : Source α) : Parse → Prop
  | opened : Stands source .opened
  | closed (hdone : source.done = true) : Stands source .closed

/-- A source answers a call without a signal. -/
theorem Stands.take (h : source.Stands said) (order : Order) :
    ∃ next, (source.take (ι := ι) order).1.Stands next ∧
      Speaks said (source.take (ι := ι) order).2 next := by
  cases h with
  | closed hdone =>
      rw [take_of_done hdone]
      exact ⟨.closed, .closed hdone, speaks_nil _⟩
  | opened =>
      refine ⟨.opened, .opened, ?_⟩
      cases order with
      | cancel => exact speaks_nil _
      | request amount =>
          simp only [Source.take]
          split
          · exact speaks_nil _
          · split
            · exact .nothing (by simp [Effect.isSignal])
            · exact speaks_nil _

/-- One turn of an emission hands out an item at most, and only before the source is done. -/
theorem Stands.emit (h : source.Stands said) (goal emitted : UInt64) :
    (source.emit (ι := ι) goal emitted).1.Stands said ∧
      Speaks said (source.emit (ι := ι) goal emitted).2 said := by
  unfold Source.emit
  split
  · split
    · exact ⟨h, speaks_nil said⟩
    next hdone =>
      obtain rfl : said = .opened := by
        cases h with
        | opened => rfl
        | closed hclosed => exact absurd hclosed hdone
      split
      · exact ⟨.opened, .nothing (by simp [Effect.isSignal])⟩
      · exact ⟨.opened, .signal rfl (by simp [Effect.isSignal])⟩
  · split
    · refine ⟨?_, speaks_nil said⟩
      cases h with
      | opened => exact .opened
      | closed hclosed => exact .closed hclosed
    · exact ⟨h, .nothing (by simp [Effect.isSignal])⟩

/-- A source completes at most once. -/
theorem Stands.go (h : source.Stands said) (work : Work) :
    ∃ next, (source.go (ι := ι) work).1.Stands next ∧
      Speaks said (source.go (ι := ι) work).2 next := by
  cases work with
  | emit goal emitted => exact ⟨said, h.emit goal emitted⟩
  | finish =>
      simp only [Source.go]
      split
      · exact ⟨said, h, speaks_nil said⟩
      next hdone =>
        cases h with
        | opened => exact ⟨.closed, .closed rfl, .signal rfl (by simp)⟩
        | closed hclosed => exact absurd hclosed hdone

end Source

/-! ## Windows -/

namespace Window

variable {window : Window α ι} {heard now said : Parse} {passes : Nat}

/-- A window says nothing but its subscription before its feed has terminated. After that one pass
at a time speaks, and while none is under way the drain may be stalled. -/
inductive Stands (window : Window α ι) : Parse → Nat → Parse → Prop
  | waiting (hawake : window.drain.isStalled = false) : Stands window .silent 0 .silent
  | gathering (hawake : window.drain.isStalled = false) : Stands window .opened 0 .opened
  | draining {passes : Nat} (hone : passes ≤ 1)
      (hawake : passes = 1 → window.drain.isStalled = false) : Stands window .closed passes .opened
  | ended (hawake : window.drain.isStalled = false) : Stands window .closed 0 .closed

/-- A fresh window waits. -/
theorem stands_ofSize (size : Nat) (delaysFailure : Bool) :
    (ofSize size delaysFailure : Window α ι).Stands .silent 0 .silent :=
  .waiting (Drain.isStalled_of_reads Register.Reads.fresh)

/-- The terminal signal of a drain ends what was said. -/
theorem next?_conclusion (drain : Drain α) (ending : Ending) :
    Parse.opened.next? (drain.conclusion (ι := ι) ending).signal.kind = some .closed := by
  cases ending with
  | completion => rfl
  | heldFailure =>
      simp only [Drain.conclusion]
      cases drain.failure.get? <;> rfl

/-- Termination starts the only pass, or ends what is said at once. -/
theorem stands_terminate (hawake : window.drain.isStalled = false) (ending : Ending) :
    ∃ next, window.Stands .closed
        (workload (fun _ => true) (terminate (ι := ι) window.drain ending)) next ∧
      Speaks .opened (terminate (ι := ι) window.drain ending) next := by
  unfold terminate
  split
  · exact ⟨.opened, .draining (Nat.le_refl 1) fun _ => hawake, .nothing (by simp [Effect.isSignal])⟩
  · exact ⟨.closed, .ended hawake, .signal (next?_conclusion window.drain ending) (by simp)⟩

/-- A window hears what the grammar allows. -/
theorem Stands.hear (self : ι) (h : window.Stands heard passes said) {delivery : Delivery α ι}
    (hnow : heard.next? delivery.signal.kind = some now) :
    ∃ next, (window.hear self delivery).1.Stands now
        (passes + workload (fun _ => true) (window.hear self delivery).2) next ∧
      Speaks said (window.hear self delivery).2 next := by
  cases h with
  | waiting hawake =>
      obtain ⟨link, rfl, rfl⟩ := Parse.next?_silent_delivery hnow
      exact ⟨.opened, .gathering hawake, .signal rfl (by simp [Effect.isSignal])⟩
  | gathering hawake =>
      rw [Nat.zero_add]
      cases delivery with
      | subscribe => exact absurd hnow (Option.some_ne_none now).symm
      | next x =>
          obtain rfl : Parse.opened = now := Option.some.inj hnow
          exact ⟨.opened, .gathering hawake, speaks_nil _⟩
      | complete =>
          obtain rfl : Parse.closed = now := Option.some.inj hnow
          exact stands_terminate hawake .completion
      | error failure =>
          obtain rfl : Parse.closed = now := Option.some.inj hnow
          show ∃ next, (window.fail failure).1.Stands .closed
            (workload (fun _ => true) (window.fail failure).2) next ∧
            Speaks .opened (window.fail failure).2 next
          unfold Window.fail
          split
          · split
            · exact ⟨.opened, .draining (Nat.zero_le 1) fun _ => hawake, speaks_nil _⟩
            · have hheld : ({ window with
                  drain := { window.drain with failure := window.drain.failure.set failure } } :
                  Window α ι).drain.isStalled = false := hawake
              exact stands_terminate hheld .heldFailure
          · split
            · exact ⟨.opened, .draining (Nat.zero_le 1) fun _ => hawake, speaks_nil _⟩
            · exact ⟨.closed, .ended hawake, .signal rfl (by simp)⟩
  | draining | ended => exact absurd hnow Parse.next?_closed_ne

/-- The drain is stalled only while no pass is under way and the end was not told yet. -/
theorem Stands.of_isStalled (h : window.Stands heard passes said)
    (hstalled : window.drain.isStalled = true) : heard = .closed ∧ passes = 0 ∧ said = .opened := by
  cases h with
  | waiting hawake | gathering hawake | ended hawake =>
      exact absurd (hstalled.symm.trans hawake) (by decide)
  | draining hone hawake =>
      rcases Nat.le_one_iff_eq_zero_or_eq_one.1 hone with rfl | rfl
      · exact ⟨rfl, rfl, rfl⟩
      · exact absurd (hstalled.symm.trans (hawake rfl)) (by decide)

/-- A request starts a pass on a stalled drain only, and the drain is not stalled afterwards. -/
theorem stands_request (hstalled : window.drain.isStalled = true) (amount : UInt64) :
    ({ window with drain := window.drain.afterRequest amount } : Window α ι).Stands .closed
        (window.drain.passOnRequest amount window.ending).toList.length .opened := by
  unfold Drain.passOnRequest
  split
  next h =>
    rw [hstalled, Bool.true_and, bne_iff_ne] at h
    exact .draining (Nat.le_refl 1) fun _ => Drain.isStalled_afterRequest_of_ne_zero hstalled h
  next => exact .draining (Nat.zero_le 1) fun hone => absurd hone Nat.zero_ne_one

/-- The passes that a request starts are its only work. -/
theorem workload_passes (passes : List Pass) :
    workload (fun _ => true) (passes.map fun pass => (.go pass : Effect α ι Pass)) =
      passes.length := by
  rw [workload, List.countP_map]
  exact List.countP_eq_length.2 fun _ _ => rfl

/-- The call of a window on its feed, when it is cancelled. -/
theorem cancellation_eq (window : Window α ι) :
    (window.feed.toList.map fun link => (.order link .cancel : Effect α ι Pass)) =
      (window.feed.toList.map fun link => (link, Order.cancel)).map
        fun call => .order call.1 call.2 := by
  rw [List.map_map]
  rfl

/-- A window takes a call without a signal. -/
theorem isSignal_take (window : Window α ι) (order : Order) :
    ∀ effect ∈ (window.take order).2, effect.isSignal = false := by
  cases order with
  | request amount => simp [Window.take, Effect.isSignal]
  | cancel =>
      simp only [Window.take]
      split
      · exact List.forall_mem_nil _
      · rw [cancellation_eq]
        exact isSignal_orders _

/-- A window that takes a call stands as it did. -/
theorem Stands.take (h : window.Stands heard passes said) (order : Order) :
    (window.take order).1.Stands heard
      (passes + workload (fun _ => true) (window.take order).2) said := by
  cases order with
  | cancel =>
      simp only [Window.take]
      split
      · exact h
      · rw [cancellation_eq, workload_orders]
        cases h with
        | waiting hawake => exact .waiting hawake
        | gathering hawake => exact .gathering hawake
        | draining hone hawake => exact .draining hone hawake
        | ended hawake => exact .ended hawake
  | request amount =>
      simp only [Window.take]
      rw [workload_passes]
      cases hstalled : window.drain.isStalled with
      | false =>
          rw [Drain.passOnRequest_of_awake hstalled]
          have hawake := Drain.isStalled_afterRequest hstalled amount
          cases h with
          | waiting => exact .waiting hawake
          | gathering => exact .gathering hawake
          | draining hone => exact .draining hone fun _ => hawake
          | ended => exact .ended hawake
      | true =>
          obtain ⟨rfl, rfl, rfl⟩ := h.of_isStalled hstalled
          rw [Nat.zero_add]
          exact stands_request hstalled amount

/-- One turn of the only pass. -/
theorem Stands.go (h : window.Stands heard (passes + 1) said) (pass : Pass) :
    ∃ next, (window.go pass).1.Stands heard
        (passes + workload (fun _ => true) (window.go pass).2) next ∧
      Speaks said (window.go pass).2 next := by
  obtain ⟨rfl, hawake⟩ : passes = 0 ∧ window.drain.isStalled = false := by
    cases h with
    | draining hone hawake =>
        obtain rfl : passes = 0 := Nat.le_zero.1 (Nat.le_of_succ_le_succ hone)
        exact ⟨rfl, hawake rfl⟩
  cases h with
  | draining =>
  rw [Nat.zero_add]
  simp only [Window.go, Drain.advance]
  split
  · exact ⟨.opened, .draining (Nat.zero_le 1) fun hone => absurd hone Nat.zero_ne_one,
      speaks_nil _⟩
  · split
    · split
      · exact ⟨.opened, .draining (Nat.le_refl 1) fun _ => hawake,
          .signal rfl (by simp [Effect.isSignal])⟩
      · exact ⟨.closed, .ended hawake, .signal (next?_conclusion _ _) (by simp)⟩
    · split
      · exact ⟨.closed, .ended hawake, .signal (next?_conclusion _ _) (by simp)⟩
      · split
        · exact ⟨.opened, .draining (Nat.zero_le 1) fun hone => absurd hone Nat.zero_ne_one,
            speaks_nil _⟩
        · exact ⟨.opened, .draining (Nat.le_refl 1) fun _ => hawake,
            .nothing (by simp [Effect.isSignal])⟩

end Window

/-! ## Resumptions -/

namespace Resumption

variable {resumption : Resumption ι} {heard now said : Parse} {duties : Nat}

/-- Whether work of a resumption is to ask its recovery. -/
def Work.isRecovery : Work ι → Bool
  | .recover _ => true
  | _ => false

/-- A resumption has said what its first feed has said, until that one fails. Then it owes a
decision to what follows. A second feed begins anew, and what it says goes on where the first one
ended. -/
inductive Stands (resumption : Resumption ι) : Parse → Nat → Parse → Prop
  | first {heard : Parse} (hresumed : resumption.resumed = false) : Stands resumption heard 0 heard
  | deciding (hresumed : resumption.resumed = true) : Stands resumption .closed 1 .opened
  | second {heard : Parse} (hresumed : resumption.resumed = true) (hheard : heard ≠ .closed) :
      Stands resumption heard 0 .opened
  | ended (hresumed : resumption.resumed = true) : Stands resumption .closed 0 .closed

/-- A resumption hears what the grammar allows. -/
theorem Stands.hear (self : ι) (h : resumption.Stands heard duties said)
    {delivery : Delivery α ι} (hnow : heard.next? delivery.signal.kind = some now) :
    ∃ next, (resumption.hear self delivery).1.Stands now
        (duties + workload Work.isRecovery (resumption.hear self delivery).2) next ∧
      Speaks said (resumption.hear self delivery).2 next := by
  cases h with
  | first hresumed =>
      rw [Nat.zero_add]
      cases heard with
      | closed => exact absurd hnow Parse.next?_closed_ne
      | silent =>
          obtain ⟨link, rfl, rfl⟩ := Parse.next?_silent_delivery hnow
          simp only [Resumption.hear, hresumed, Bool.false_eq_true, if_false]
          exact ⟨.opened, .first hresumed, .signal rfl (by simp [Effect.isSignal])⟩
      | opened =>
          cases delivery with
          | subscribe => exact absurd hnow (Option.some_ne_none now).symm
          | next x => exact ⟨now, .first hresumed, .signal hnow (by simp [Effect.isSignal])⟩
          | complete => exact ⟨now, .first hresumed, .signal hnow (by simp)⟩
          | error failure =>
              obtain rfl : Parse.closed = now := Option.some.inj hnow
              simp only [Resumption.hear, hresumed, Bool.false_eq_true, if_false]
              exact ⟨.opened, .deciding rfl, .nothing (by simp [Effect.isSignal])⟩
  | deciding | ended => exact absurd hnow Parse.next?_closed_ne
  | second hresumed hheard =>
      rw [Nat.zero_add]
      cases heard with
      | closed => exact absurd rfl hheard
      | silent =>
          obtain ⟨link, rfl, rfl⟩ := Parse.next?_silent_delivery hnow
          simp only [Resumption.hear, hresumed, if_true]
          exact ⟨.opened, .second hresumed (by decide), .nothing (by simp [Effect.isSignal])⟩
      | opened =>
          cases delivery with
          | subscribe => exact absurd hnow (Option.some_ne_none now).symm
          | next x =>
              obtain rfl : Parse.opened = now := Option.some.inj hnow
              exact ⟨.opened, .second hresumed hheard, .signal rfl (by simp [Effect.isSignal])⟩
          | complete =>
              obtain rfl : Parse.closed = now := Option.some.inj hnow
              exact ⟨.closed, .ended hresumed, .signal rfl (by simp)⟩
          | error failure =>
              obtain rfl : Parse.closed = now := Option.some.inj hnow
              rw [hear_error_resumed self hresumed]
              exact ⟨.closed, .ended hresumed, .signal rfl (by simp)⟩

/-- How a resumption stands does not depend on its switch. -/
theorem Stands.of_resumed (h : resumption.Stands heard duties said) {other : Resumption ι}
    (hother : other.resumed = resumption.resumed) : other.Stands heard duties said := by
  cases h with
  | first hresumed => exact .first (hother.trans hresumed)
  | deciding hresumed => exact .deciding (hother.trans hresumed)
  | second hresumed hheard => exact .second (hother.trans hresumed) hheard
  | ended hresumed => exact .ended (hother.trans hresumed)

/-- A resumption takes a call, and binds a feed, without a signal. -/
theorem isSignal_call (answer : Switch ι × Option (Call ι)) (resumption : Resumption ι) :
    ∀ effect ∈ (resumption.call (α := α) answer).2, effect.isSignal = false :=
  isSignal_orders _

/-- A resumption that takes a call, or binds a feed, stands as it did. -/
theorem Stands.call (h : resumption.Stands heard duties said)
    (answer : Switch ι × Option (Call ι)) :
    (resumption.call (α := α) answer).1.Stands heard
      (duties + workload Work.isRecovery (resumption.call (α := α) answer).2) said := by
  simp only [Resumption.call]
  rw [workload_orders]
  exact h.of_resumed rfl

/-- Counting a delivery changes nothing that is told of a resumption. -/
theorem Stands.count (h : resumption.Stands heard duties said) :
    resumption.count.Stands heard duties said := by
  unfold Resumption.count
  split
  · exact h
  · exact h.of_resumed rfl

/-- A resumption that owes a decision has heard the end of its first feed, and goes on with
whatever it decides: it has a second feed to hear, or tells the end. -/
theorem Stands.decide (h : resumption.Stands heard (duties + 1) said) :
    heard = .closed ∧ duties = 0 ∧ said = .opened ∧ resumption.resumed = true := by
  cases h with
  | deciding hresumed => exact ⟨rfl, rfl, rfl, hresumed⟩

end Resumption

end Backpressure
