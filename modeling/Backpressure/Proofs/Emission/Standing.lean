import Backpressure.Proofs.Pipeline.Account
import Backpressure.Proofs.Pipeline.Source

/-!
# Where a source stands between two calls

A source that hands out items is called from inside its own deliveries, and between two of its
effects anything may happen elsewhere. What it still has to do are the effects that are pending.
They fix where the source stands: before its subscription, waiting for a request, in the midst of
an emission, or done. In each of these standings the account of its subscriber is known, and calls,
deliveries and turns of the emission lead from one to another, whatever comes in between.

Main results:

- Theorem `Standing.take`, theorem `Standing.go` and theorem `Standing.hear` state what a call on
  the source, a turn of its work, and the return of a delivery make of its standing.
- Theorem `Standing.bounds` and theorem `Standing.delivers` read off what the subscriber has heard,
  at any time and when nothing is pending.
-/

namespace Backpressure.Source

open Network (Happening Due Cut Settled Delivers heard afterCancel demand)

variable {α ι : Type}

/-- What a running emission has to do next: complete when no items are left, or hand out more. -/
def workFor (goal emitted : UInt64) (left : List α) : Work :=
  if left.isEmpty then .finish else .emit goal emitted

/-- Where a source of some items stands towards a subscriber to which events have happened, with
the effects that are pending. -/
inductive Standing (link : ι) (items : List α) (source : Source α) (events : List (Happening α)) :
    List (Effect α ι Work) → Prop
  /-- The subscription is on its way. -/
  | opening (hitems : source.items.toList = items) (hrequested : source.requested = 0)
      (hactive : source.done = false) (hevents : events = []) :
      Standing link items source events [.signal (.subscribe link)]
  /-- Nothing is owed, and items are left. -/
  | waiting {x : α} {left : List α} (hitems : source.items.toList = x :: left)
      (hrequested : source.requested = 0) (hactive : source.done = false)
      (hroom : (x :: left).length ≤ Demand.unbounded.toNat)
      (hdue : Due { items } 0 events (x :: left) 0) : Standing link items source events []
  /-- An emission is under way. -/
  | emitting {goal emitted : UInt64} {left : List α} {owed : Nat}
      (hemitting : source.Emitting goal emitted left owed)
      (hdue : Due { items } 0 events left owed) :
      Standing link items source events [.go (workFor goal emitted left)]
  /-- An item is on its way, and the emission goes on when it has been heard. -/
  | delivering {x : α} {goal emitted : UInt64} {left : List α} {owed : Nat}
      (hemitting : source.Emitting goal emitted left owed)
      (hdue : Due { items } 0 events (x :: left) (owed + 1)) :
      Standing link items source events [.signal (.next x), .go (workFor goal emitted left)]
  /-- Completion is on its way. -/
  | concluding {owed : Nat} (hdone : source.done = true) (hdue : Due { items } 0 events [] owed) :
      Standing link items source events [.signal .complete]
  /-- The source has completed or was cancelled, and nothing is left to be heard. -/
  | ended (hdone : source.done = true) (hsettled : Settled { items } 0 events)
      {pending : List (Effect α ι Work)} (hpending : pending = [] ∨ ∃ work, pending = [.go work]) :
      Standing link items source events pending

variable {link : ι} {items : List α} {source : Source α} {events : List (Happening α)}
  {pending : List (Effect α ι Work)}

/-! ## Calls -/

/-- A call is made when no signal is on its way: it starts an emission, raises the demand of the one
under way, or ends what is due. -/
theorem Standing.take (h : Standing link items source events pending)
    (hsilent : ∀ delivery, .signal delivery ∉ pending) (name : String) (order : Order) :
    Standing link items (source.take (ι := ι) order).1 (events ++ [.called (.order name order)])
      ((source.take order).2 ++ pending) := by
  cases h with
  | opening | delivering | concluding => exact absurd List.mem_cons_self (hsilent _)
  | @waiting x left hitems hrequested hactive hroom hdue =>
      cases order with
      | cancel => exact .ended rfl hdue.cancel.settled (.inl rfl)
      | request amount =>
          have hasked := hdue.request name amount
          rw [Nat.zero_add] at hasked
          by_cases hamount : amount = 0
          · subst hamount
            have htake : source.take (ι := ι) (.request 0) = (source, []) := by simp [Source.take]
            rw [htake]
            exact .waiting hitems hrequested hactive hroom hasked
          · obtain ⟨htake, hemitting⟩ :=
              emitting_of_request (ι := ι) hitems hrequested hactive hroom hamount
            rw [htake]
            exact .emitting hemitting hasked
  | @emitting goal emitted left owed hemitting hdue =>
      cases order with
      | cancel => exact .ended rfl hdue.cancel.settled (.inr ⟨_, rfl⟩)
      | request amount =>
          obtain ⟨requested, htake, hnext⟩ := hemitting.request (ι := ι) amount
          rw [htake]
          exact .emitting hnext (hdue.request name amount)
  | ended hdone hsettled hpending =>
      rw [take_of_done hdone]
      exact .ended hdone (hsettled.append rfl) hpending

/-! ## Work -/

/-- What a call on a source asks for: work at most. -/
theorem effects_take (source : Source α) (order : Order) :
    ∃ later, (source.take (ι := ι) order).2 = (later : Option Work).toList.map .go := by
  cases order with
  | cancel => exact ⟨none, rfl⟩
  | request amount =>
      simp only [Source.take]
      split
      · exact ⟨none, rfl⟩
      · split
        · exact ⟨some _, rfl⟩
        · exact ⟨none, rfl⟩

/-- What a turn of work asks for: a signal at most, which is no subscription, and more work after
it. -/
theorem effects_go (source : Source α) (work : Work) :
    ∃ delivery later, (source.go (ι := ι) work).2 =
        (delivery : Option (Delivery α ι)).toList.map .signal ++
          (later : Option Work).toList.map .go ∧
      ∀ link, .signal (.subscribe link) ∉ (source.go (ι := ι) work).2 := by
  cases work with
  | finish =>
      simp only [Source.go]
      split
      · exact ⟨none, none, rfl, by simp⟩
      · exact ⟨some .complete, none, rfl, by simp⟩
  | emit goal emitted =>
      simp only [Source.go, emit]
      split
      · split
        · exact ⟨none, none, rfl, by simp⟩
        · split
          · exact ⟨none, some _, rfl, by simp⟩
          · exact ⟨some (.next _), some _, rfl, by simp⟩
      · split
        · exact ⟨none, none, rfl, by simp⟩
        · exact ⟨none, some _, rfl, by simp⟩

/-- The work of a source that is done signals nothing. -/
theorem go_of_done (hdone : source.done = true) (work : Work) :
    (source.go (ι := ι) work).1.done = true ∧
      ((source.go (ι := ι) work).2 = [] ∨ ∃ later, (source.go (ι := ι) work).2 = [.go later]) := by
  cases work with
  | finish => simp [go, hdone]
  | emit goal emitted =>
      simp only [go, emit]
      split
      · exact ⟨hdone, .inl rfl⟩
      · split
        · exact ⟨hdone, .inl rfl⟩
        · exact ⟨hdone, .inr ⟨_, rfl⟩⟩

/-- A turn of the work: the next item that is owed is delivered, the demand is looked at again, the
emission settles, or the source completes after its last item. -/
theorem Standing.go {work : Work} (h : Standing link items source events (.go work :: pending)) :
    Standing link items (source.go (ι := ι) work).1 events ((source.go work).2 ++ pending) := by
  generalize hall : .go work :: pending = all at h
  cases h with
  | opening | waiting | delivering | concluding => cases hall
  | ended hdone hsettled hpending =>
      obtain rfl : pending = [] := by
        rcases hpending with rfl | ⟨other, rfl⟩
        · cases hall
        · cases hall
          rfl
      obtain ⟨hstill, hadded⟩ := go_of_done (ι := ι) hdone work
      rw [List.append_nil]
      exact .ended hstill hsettled hadded
  | @emitting goal emitted left owed hemitting hdue =>
      cases hall
      rw [List.append_nil]
      rcases left with _ | ⟨x, left⟩
      · have hgo : source.go (ι := ι) .finish =
            ({ source with done := true }, [.signal .complete]) := by
          rw [Source.go, hemitting.active, if_neg (by decide)]
        rw [workFor, List.isEmpty_nil, if_pos rfl, hgo]
        exact .concluding rfl hdue
      · have hwork : workFor goal emitted (x :: left) = .emit goal emitted := rfl
        rw [hwork]
        by_cases hgoal : goal = Demand.unbounded ∨ emitted ≠ goal
        · obtain ⟨rest, less, rfl, hgo, hnext⟩ := hemitting.emit_deliver (ι := ι) hgoal
          rw [hgo]
          exact .delivering hnext hdue
        · rcases owed with _ | owed
          · have hroom := hemitting.room
            rw [hemitting.emit_zero (ι := ι)]
            exact .waiting hemitting.items rfl hemitting.active (by omega) hdue
          · obtain ⟨hgo, -, hagain⟩ := hemitting.emit_again (ι := ι) hgoal
            rw [hgo]
            exact .emitting hagain hdue

/-! ## Deliveries -/

/-- A signal that was on its way has reached the subscriber. -/
theorem Standing.hear {delivery : Delivery α ι} (hitems : items ≠ [])
    (hroom : items.length ≤ Demand.unbounded.toNat)
    (h : Standing link items source events (.signal delivery :: pending)) (name : String) :
    Standing link items source (events ++ [.heard name delivery.signal]) pending := by
  generalize hall : .signal delivery :: pending = all at h
  cases h with
  | waiting | emitting => cases hall
  | ended hdone hsettled hpending => rcases hpending with rfl | ⟨work, rfl⟩ <;> cases hall
  | opening hleft hrequested hactive hevents =>
      cases hall
      subst hevents
      obtain ⟨x, left, rfl⟩ := List.exists_cons_of_ne_nil hitems
      exact .waiting hleft hrequested hactive hroom ⟨rfl, [], rfl, rfl, rfl⟩
  | @delivering x goal emitted left owed hemitting hdue =>
      cases hall
      exact .emitting hemitting hdue.next
  | concluding hdone hdue =>
      cases hall
      exact .ended hdone hdue.last (.inl rfl)

/-! ## What was heard -/

/-- At any time what was heard is a beginning of what the demand allows, and nothing was heard from
the first cancellation on. -/
theorem Standing.bounds (hitems : items ≠ []) (h : Standing link items source events pending) :
    heard events <+: Meaning.upTo { items } (demand 0 events) ∧
      heard (afterCancel events) = [] := by
  have hdue : ∀ {left owed}, Due { items } 0 events left owed →
      heard events <+: Meaning.upTo { items } (demand 0 events) ∧
        heard (afterCancel events) = [] := by
    intro left owed hdue
    obtain ⟨sent, hsplit, hheard, hdemand⟩ := hdue.sent
    rw [hheard, hdue.calm]
    refine ⟨Network.within_of_sent ⟨left, hsplit.symm⟩ ?_, rfl⟩
    omega
  cases h with
  | opening _ _ _ hevents =>
      subst hevents
      exact ⟨List.nil_prefix, rfl⟩
  | waiting _ _ _ _ h => exact hdue h
  | emitting _ h => exact hdue h
  | delivering _ h => exact hdue h
  | concluding _ h => exact hdue h
  | ended _ hsettled _ =>
      exact ⟨hsettled.within, hsettled.silence.resolve_right fun h => hitems h.1⟩

/-- When nothing is pending the subscriber has heard what it has to hear. -/
theorem Standing.delivers (h : Standing link items source events ([] : List (Effect α ι Work))) :
    Delivers { items } 0 events := by
  cases h with
  | waiting _ _ _ _ hdue => exact hdue.delivers
  | ended _ hsettled _ => exact hsettled.toDelivers

/-- Whoever is to hear an item or the end has heard of the subscription. -/
theorem Standing.begun {delivery : Delivery α ι} (hother : ∀ link, delivery ≠ .subscribe link)
    (h : Standing link items source events (.signal delivery :: pending)) : heard events ≠ [] := by
  have hdue : ∀ {left owed}, Due { items } 0 events left owed → heard events ≠ [] := by
    intro left owed hdue
    obtain ⟨sent, -, hheard, -⟩ := hdue.sent
    rw [hheard]
    exact List.cons_ne_nil _ _
  generalize hall : .signal delivery :: pending = all at h
  cases h with
  | waiting | emitting => cases hall
  | ended _ _ hpending => rcases hpending with rfl | ⟨work, rfl⟩ <;> cases hall
  | opening =>
      cases hall
      exact absurd rfl (hother _)
  | delivering _ h => exact hdue h
  | concluding _ h => exact hdue h

/-- What is left to be done while an item is heard. -/
theorem Standing.after_next {x : α}
    (h : Standing link items source events (.signal (.next x) :: pending)) :
    ∃ work, pending = [.go work] := by
  generalize hall : .signal (.next x) :: pending = all at h
  cases h with
  | opening | waiting | emitting | concluding => cases hall
  | ended _ _ hpending => rcases hpending with rfl | ⟨work, rfl⟩ <;> cases hall
  | delivering _ _ =>
      cases hall
      exact ⟨_, rfl⟩

/-- No work is added to work that is pending. -/
theorem Standing.alone {work : Work} {others : List (Effect α ι Work)}
    (h : Standing link items source events (others ++ [.go work]))
    (hsilent : ∀ delivery, .signal delivery ∉ others) : others = [] := by
  rcases others with _ | ⟨other, others⟩
  · rfl
  · generalize hall : other :: others ++ [.go work] = all at h
    cases h with
    | opening | waiting | concluding => simp at hall
    | emitting _ _ => simp at hall
    | delivering _ _ =>
        simp only [List.cons_append, List.cons.injEq] at hall
        rw [hall.1] at hsilent
        exact absurd List.mem_cons_self (hsilent _)
    | ended _ _ hpending => rcases hpending with rfl | ⟨later, rfl⟩ <;> simp at hall

end Backpressure.Source
