import Mathlib.Algebra.Ring.Nat
import Backpressure.Network.Run
import Backpressure.Proofs.Pipeline.Conduct

/-!
# The account of a subscriber

What a scripted subscriber has heard is compared with what it asked for, event by event. The demand
is what was asked for before the first cancellation. The account of a subscriber is kept in step
with the phase of its feed: what was heard and what is left are the items of the feed, and what was
heard and what is owed is the demand.

Main results:

- Structure `Delivers` states what a subscriber has to hear.
- Theorem `Due.request`, theorem `Due.cancel`, theorem `Due.next` and theorem `Due.last` keep the
  account.
- Theorem `Due.delivers` reads off the account what was heard when the feed waits for a request.
-/

namespace Backpressure

/-- The terminal signal of a meaning. -/
def Meaning.lastSignal {α : Type} (meaning : Meaning α) : Signal α :=
  (Network.lastDelivery meaning.failure).signal

/-- What a subscriber hears of a meaning under a demand: the subscription, as many items as were
asked for, and the terminal signal directly after the last one. -/
def Meaning.upTo {α : Type} (meaning : Meaning α) (demand : Nat) : List (Signal α) :=
  .subscribe :: (meaning.items.take demand).map .next ++
    if meaning.items.length ≤ demand then [meaning.lastSignal] else []

namespace Network

variable {α : Type}

/-- An event of a network. -/
abbrev Happening (α : Type) := Event α (Action α) (Result α)

namespace Happening

/-- The signal that a subscriber heard. -/
def heard? : Happening α → Option (Signal α)
  | .heard _ signal => some signal
  | _ => none

/-- Whether a subscriber cancelled. -/
def isCancel : Happening α → Bool
  | .called (.order _ .cancel) => true
  | _ => false

/-- How many items a subscriber asked for. -/
def amount : Happening α → Nat
  | .called (.order _ (.request amount)) => amount.toNat
  | _ => 0

/-- Whether an event is of no account. -/
def isQuiet (event : Happening α) : Prop :=
  event.heard? = none ∧ event.isCancel = false ∧ event.amount = 0

end Happening

/-- The signals heard in the course of events. -/
def heard (events : List (Happening α)) : List (Signal α) := events.filterMap (·.heard?)

/-- The events before the first cancellation. -/
def beforeCancel (events : List (Happening α)) : List (Happening α) :=
  events.takeWhile (!·.isCancel)

/-- The events from the first cancellation on. -/
def afterCancel (events : List (Happening α)) : List (Happening α) :=
  events.dropWhile (!·.isCancel)

/-- The amounts asked for before the first cancellation, taken together. -/
def asked (events : List (Happening α)) : Nat := ((beforeCancel events).map (·.amount)).sum

/-- The demand of a subscriber that asks for an initial amount on subscription: that amount and all
amounts asked for before the first cancellation. -/
def demand (initial : UInt64) (events : List (Happening α)) : Nat := initial.toNat + asked events

/-- In the course of events a subscriber has heard what a meaning and its demand say. Without
a cancellation it has heard exactly that. From a cancellation on it hears nothing, except that the
terminal signal of a meaning without items may be due already. -/
structure Delivers (meaning : Meaning α) (initial : UInt64) (events : List (Happening α)) :
    Prop where
  exactly : afterCancel events = [] → heard events = meaning.upTo (demand initial events)
  within : heard events <+: meaning.upTo (demand initial events)
  silence : heard (afterCancel events) = [] ∨
    meaning.items = [] ∧ heard (afterCancel events) = [meaning.lastSignal]

variable {meaning : Meaning α} {initial : UInt64} {events more : List (Happening α)}
  {left : List α} {owed : Nat} {x : α} {name : String}

/-! ## One event more -/

/-- What is heard is heard one after the other. -/
@[simp] theorem heard_append (events more : List (Happening α)) :
    heard (events ++ more) = heard events ++ heard more := List.filterMap_append

/-- Events that are not heard add nothing to what is heard. -/
theorem heard_append_of_unheard (events : List (Happening α)) (h : heard more = []) :
    heard (events ++ more) = heard events := by
  rw [heard_append, h, List.append_nil]

/-- Where nothing is heard, nothing is heard from the first cancellation on. -/
theorem heard_afterCancel_of_unheard (h : heard more = []) : heard (afterCancel more) = [] := by
  rw [heard, List.filterMap_eq_nil_iff] at h ⊢
  exact fun event hevent => h event ((List.dropWhile_sublist _).subset hevent)

/-- Events of no account are not heard. -/
theorem heard_of_quiet (h : ∀ event ∈ more, Happening.isQuiet event) : heard more = [] :=
  List.filterMap_eq_nil_iff.2 fun event hevent => (h event hevent).1

/-- All events are before the first cancellation exactly if there is none. -/
theorem length_beforeCancel_eq_iff :
    (beforeCancel events).length = events.length ↔ afterCancel events = [] := by
  have hsplit : (beforeCancel events).length + (afterCancel events).length = events.length := by
    rw [← List.length_append, beforeCancel, afterCancel, List.takeWhile_append_dropWhile]
  rw [← List.length_eq_zero_iff]
  omega

/-- Without a cancellation so far the first one is still to come. -/
theorem append_of_calm (h : afterCancel events = []) (more : List (Happening α)) :
    beforeCancel (events ++ more) = events ++ beforeCancel more ∧
      afterCancel (events ++ more) = afterCancel more := by
  constructor
  · exact List.takeWhile_append.trans (if_pos (length_beforeCancel_eq_iff.2 h))
  · exact List.dropWhile_append.trans (if_pos (List.isEmpty_iff.2 h))

/-- A cancellation stays the first one. -/
theorem append_of_cancelled (h : afterCancel events ≠ []) (more : List (Happening α)) :
    beforeCancel (events ++ more) = beforeCancel events ∧
      afterCancel (events ++ more) = afterCancel events ++ more := by
  constructor
  · exact List.takeWhile_append.trans (if_neg (mt length_beforeCancel_eq_iff.1 h))
  · exact List.dropWhile_append.trans (if_neg (mt List.isEmpty_iff.1 h))

/-- Whoever has cancelled has done so for good. -/
theorem afterCancel_append_ne_nil (h : afterCancel events ≠ []) (more : List (Happening α)) :
    afterCancel (events ++ more) ≠ [] := by
  rw [(append_of_cancelled h more).2]
  exact List.append_ne_nil_of_left_ne_nil h more

/-- Events that are not heard add nothing to what is heard from the first cancellation on. -/
theorem heard_afterCancel_append (events : List (Happening α)) (hunheard : heard more = []) :
    heard (afterCancel (events ++ more)) = heard (afterCancel events) := by
  by_cases hcalm : afterCancel events = []
  · rw [(append_of_calm hcalm more).2, hcalm]
    exact heard_afterCancel_of_unheard hunheard
  · rw [(append_of_cancelled hcalm more).2, heard_append_of_unheard _ hunheard]

/-- Without a cancellation the demand grows. -/
theorem demand_append (h : afterCancel events = []) :
    demand initial (events ++ more) = demand initial events + asked more := by
  have hall : beforeCancel events = events := by
    have hself := (append_of_calm h []).1
    simpa [beforeCancel] using hself
  rw [demand, demand, asked, asked, (append_of_calm h _).1, hall, List.map_append, List.sum_append,
    Nat.add_assoc]
  rfl

/-- After a cancellation the demand stays. -/
theorem demand_append_of_cancelled (h : afterCancel events ≠ []) :
    demand initial (events ++ more) = demand initial events := by
  rw [demand, asked, (append_of_cancelled h _).1, demand, asked]

/-- The demand never shrinks. -/
theorem demand_le_append (initial : UInt64) (events more : List (Happening α)) :
    demand initial events ≤ demand initial (events ++ more) := by
  by_cases h : afterCancel events = []
  · rw [demand_append h]
    exact Nat.le_add_right _ _
  · exact Nat.le_of_eq (demand_append_of_cancelled h).symm

/-! ## Accounts -/

/-- Without a cancellation so far, some items are left and so many are owed. -/
structure Due (meaning : Meaning α) (initial : UInt64) (events : List (Happening α))
    (left : List α) (owed : Nat) : Prop where
  calm : afterCancel events = []
  sent : ∃ sent, meaning.items = sent ++ left ∧ heard events = .subscribe :: sent.map .next ∧
    demand initial events = sent.length + owed

/-- A subscriber has cancelled and heard nothing since. -/
structure Cut (meaning : Meaning α) (initial : UInt64) (events : List (Happening α)) :
    Prop where
  cancelled : afterCancel events ≠ []
  sent : ∃ sent, sent <+: meaning.items ∧ heard events = .subscribe :: sent.map .next ∧
    sent.length ≤ demand initial events
  silence : heard (afterCancel events) = []

/-- Nothing is left to be heard. -/
structure Settled (meaning : Meaning α) (initial : UInt64) (events : List (Happening α)) :
    Prop extends Delivers meaning initial events where
  met : afterCancel events = [] → meaning.items.length ≤ demand initial events

/-- The account of a subscriber, by the phase of its feed. -/
def Tally (meaning : Meaning α) (initial : UInt64) (events : List (Happening α)) :
    Phase α → Prop
  | .idle x left => Due meaning initial events (x :: left) 0
  | .busy left owed _ => Due meaning initial events left owed
  | .muted _ => Cut meaning initial events
  | .spent => Settled meaning initial events

/-- Events of no account are no cancellations and ask for nothing. -/
theorem asked_of_quiet (h : ∀ event ∈ more, Happening.isQuiet event) :
    afterCancel more = [] ∧ asked more = 0 := by
  induction more with
  | nil => exact ⟨rfl, rfl⟩
  | cons event more ih =>
      obtain ⟨-, hcancel, hamount⟩ := h event List.mem_cons_self
      obtain ⟨hcalm, hasked⟩ := ih fun other hother => h other (List.mem_cons_of_mem event hother)
      constructor
      · rw [afterCancel, List.dropWhile_cons_of_pos (by simp [hcancel])]
        exact hcalm
      · rw [asked, beforeCancel, List.takeWhile_cons_of_pos (by simp [hcancel]), List.map_cons,
          List.sum_cons, hamount, Nat.zero_add]
        exact hasked

/-- Events of no account do not change what is due. -/
theorem Due.quiet (h : Due meaning initial events left owed)
    (hquiet : ∀ event ∈ more, Happening.isQuiet event) :
    Due meaning initial (events ++ more) left owed := by
  obtain ⟨sent, hitems, hheard, hdemand⟩ := h.sent
  refine ⟨(append_of_calm h.calm _).2.trans (asked_of_quiet hquiet).1, sent, hitems, ?_, ?_⟩
  · rw [heard_append_of_unheard _ (heard_of_quiet hquiet), hheard]
  · rw [demand_append h.calm, (asked_of_quiet hquiet).2, hdemand, Nat.add_zero]

/-- What is asked for is owed. -/
theorem Due.request (h : Due meaning initial events left owed) (name : String)
    (amount : UInt64) :
    Due meaning initial (events ++ [.called (.order name (.request amount))]) left
      (owed + amount.toNat) := by
  obtain ⟨sent, hitems, hheard, hdemand⟩ := h.sent
  have hasked : asked [(.called (.order name (.request amount)) : Happening α)] = amount.toNat :=
    rfl
  refine ⟨(append_of_calm h.calm _).2, sent, hitems, ?_, ?_⟩
  · rw [heard_append_of_unheard _ rfl, hheard]
  · rw [demand_append h.calm, hdemand, hasked, Nat.add_assoc]

/-- A cancellation ends what is due. -/
theorem Due.cancel (h : Due meaning initial events left owed) :
    Cut meaning initial (events ++ [.called (.order name .cancel)]) := by
  obtain ⟨sent, hitems, hheard, hdemand⟩ := h.sent
  have hafter : afterCancel (events ++ [.called (.order name .cancel)]) =
      [.called (.order name .cancel)] := (append_of_calm h.calm _).2
  refine ⟨by rw [hafter]; exact List.cons_ne_nil _ _, ⟨sent, ⟨left, hitems.symm⟩, ?_, ?_⟩,
    by rw [hafter]; rfl⟩
  · rw [heard_append_of_unheard _ rfl, hheard]
  · rw [demand_append h.calm, hdemand]
    omega

/-- An item that is owed is heard. -/
theorem Due.next (h : Due meaning initial events (x :: left) (owed + 1)) :
    Due meaning initial (events ++ [.heard name (.next x)]) left owed := by
  obtain ⟨sent, hitems, hheard, hdemand⟩ := h.sent
  have hasked : asked [(.heard name (.next x) : Happening α)] = 0 := rfl
  refine ⟨(append_of_calm h.calm _).2, sent ++ [x], ?_, ?_, ?_⟩
  · rw [hitems, List.append_assoc]
    rfl
  · rw [heard_append, hheard, List.map_append]
    rfl
  · rw [demand_append h.calm, hdemand, hasked, List.length_append, List.length_singleton]
    omega

/-- The terminal signal directly follows the last item. -/
theorem Due.last (h : Due meaning initial events [] owed) :
    Settled meaning initial (events ++ [.heard name meaning.lastSignal]) := by
  obtain ⟨sent, hitems, hheard, hdemand⟩ := h.sent
  rw [List.append_nil] at hitems
  have hcalm : afterCancel (events ++ [.heard name meaning.lastSignal]) = [] :=
    (append_of_calm h.calm _).2
  have hmet : meaning.items.length ≤
      demand initial (events ++ [.heard name meaning.lastSignal]) := by
    rw [demand_append h.calm, hdemand, hitems]
    omega
  have hall : heard (events ++ [.heard name meaning.lastSignal]) =
      meaning.upTo (demand initial (events ++ [.heard name meaning.lastSignal])) := by
    rw [heard_append, hheard, Meaning.upTo, if_pos hmet, List.take_of_length_le hmet, hitems]
    rfl
  exact {
    exactly := fun _ => hall
    within := ⟨[], (List.append_nil _).trans hall⟩
    silence := .inl (by rw [hcalm]; rfl)
    met := fun _ => hmet }

/-- Unheard events leave a subscriber cut off that has cancelled. -/
theorem Cut.append (h : Cut meaning initial events) (hunheard : heard more = []) :
    Cut meaning initial (events ++ more) := by
  obtain ⟨sent, hitems, hheard, hdemand⟩ := h.sent
  refine ⟨afterCancel_append_ne_nil h.cancelled more, ⟨sent, hitems, ?_, ?_⟩,
    (heard_afterCancel_append events hunheard).trans h.silence⟩
  · rw [heard_append_of_unheard _ hunheard, hheard]
  · rw [demand_append_of_cancelled h.cancelled]
    exact hdemand

/-- What was heard before a cancellation is within what the demand allows. -/
theorem within_of_sent {sent : List α} {demand : Nat} (hitems : sent <+: meaning.items)
    (hdemand : sent.length ≤ demand) :
    .subscribe :: sent.map Signal.next <+: meaning.upTo demand := by
  have htake : sent <+: meaning.items.take demand := by
    rw [List.prefix_take_iff]
    exact ⟨hitems, hdemand⟩
  rw [Meaning.upTo, List.cons_append]
  exact (List.prefix_cons_inj _).2
    ((List.IsPrefix.map Signal.next htake).trans (List.prefix_append _ _))

/-- A subscriber that has cancelled and hears nothing any more. -/
theorem Cut.settled (h : Cut meaning initial events) : Settled meaning initial events := by
  obtain ⟨sent, hitems, hheard, hdemand⟩ := h.sent
  exact {
    exactly := fun hcalm => (h.cancelled hcalm).elim
    within := by rw [hheard]; exact within_of_sent hitems hdemand
    silence := .inl h.silence
    met := fun hcalm => (h.cancelled hcalm).elim }

/-- A subscriber that has cancelled and hears the terminal signal of a meaning without items. -/
theorem Cut.last (h : Cut meaning initial events) (hnil : meaning.items = []) :
    Settled meaning initial (events ++ [.heard name meaning.lastSignal]) := by
  obtain ⟨sent, hitems, hheard, hdemand⟩ := h.sent
  rw [hnil, List.prefix_nil] at hitems
  subst hitems
  have hafter := (append_of_cancelled h.cancelled [.heard name meaning.lastSignal]).2
  have hcancelled := afterCancel_append_ne_nil h.cancelled [.heard name meaning.lastSignal]
  exact {
    exactly := fun hcalm => (hcancelled hcalm).elim
    within := by
      rw [heard_append, hheard, Meaning.upTo, hnil, List.length_nil, if_pos (Nat.zero_le _),
        List.take_nil]
      exact List.prefix_rfl
    silence := .inr ⟨hnil, by rw [hafter, heard_append, h.silence]; rfl⟩
    met := fun hcalm => (hcancelled hcalm).elim }

/-- Unheard events change nothing when nothing is left to be heard. -/
theorem Settled.append (h : Settled meaning initial events) (hunheard : heard more = []) :
    Settled meaning initial (events ++ more) := by
  have hheard := heard_append_of_unheard events hunheard
  have hsilence : heard (afterCancel (events ++ more)) = [] ∨ meaning.items = [] ∧
      heard (afterCancel (events ++ more)) = [meaning.lastSignal] := by
    rw [heard_afterCancel_append events hunheard]
    exact h.silence
  by_cases hcalm : afterCancel events = []
  · have hmet := h.met hcalm
    have hstill := Nat.le_trans hmet (demand_le_append initial events more)
    have hall : heard (events ++ more) = meaning.upTo (demand initial (events ++ more)) := by
      rw [hheard, h.exactly hcalm, Meaning.upTo, Meaning.upTo, if_pos hmet, if_pos hstill,
        List.take_of_length_le hmet, List.take_of_length_le hstill]
    exact {
      exactly := fun _ => hall
      within := ⟨[], (List.append_nil _).trans hall⟩
      silence := hsilence
      met := fun _ => hstill }
  · have hcancelled := afterCancel_append_ne_nil hcalm more
    exact {
      exactly := fun hnone => (hcancelled hnone).elim
      within := by rw [hheard, demand_append_of_cancelled hcalm]; exact h.within
      silence := hsilence
      met := fun hnone => (hcancelled hnone).elim }

/-- A subscriber whose feed waits for a request has heard what it asked for. -/
theorem Due.delivers (h : Due meaning initial events (x :: left) 0) :
    Delivers meaning initial events := by
  obtain ⟨sent, hitems, hheard, hdemand⟩ := h.sent
  rw [Nat.add_zero] at hdemand
  have hall : heard events = meaning.upTo (demand initial events) := by
    have hless : ¬ meaning.items.length ≤ sent.length := by
      rw [hitems, List.length_append, List.length_cons]
      omega
    rw [hheard, Meaning.upTo, hdemand, if_neg hless, hitems, List.take_left', List.append_nil]
    rfl
  exact {
    exactly := fun _ => hall
    within := ⟨[], (List.append_nil _).trans hall⟩
    silence := .inl (by rw [h.calm]; rfl) }

end Network

end Backpressure
