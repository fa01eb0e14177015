import Backpressure.Proofs.Window.Gathering

/-!
# What a window replays

When the publisher driven by hand above a window terminates, the window hands out the items that it
has gathered, as far as they were asked for, and the terminal signal after the last of them. Demand
from before the termination counts, and so does demand from inside the replay. A window that was
cancelled before hands out nothing; all the same, an empty one passes the termination on.

Main results:

- Theorem `Gathers.replays` runs the termination of the publisher and all later calls, when the
  subscriber has not cancelled before, and theorem `Gathers.hushes` runs them when it has.
- Theorem `window_replays` states what a subscriber hears for every script without a cancellation.
- Theorem `window_falls_silent` states what it still hears from a cancellation on.
-/

namespace Backpressure

/-- The last of the last items are all of them. -/
theorem Meaning.lastItems_lastItems {α : Type} (count : Nat) (xs : List α) :
    lastItems count (lastItems count xs) = lastItems count xs := by
  rw [lastItems, length_lastItems, Nat.sub_eq_zero_of_le (Nat.min_le_left _ _), List.drop_zero]

/-- What a window has given up does not matter for what it hands out. -/
theorem Meaning.takeLast_lastItems {α : Type} (count : Nat) (delays : Bool) (xs : List α)
    (failure : Option Failure) :
    (⟨lastItems count xs, failure⟩ : Meaning α).takeLast count delays =
      (⟨xs, failure⟩ : Meaning α).takeLast count delays := by
  simp only [takeLast, lastItems_lastItems]

/-- Without items the terminal signal follows the subscription, whatever was asked for. -/
theorem Meaning.upTo_nil {α : Type} (failure : Option Failure) (demand : Nat) :
    (⟨[], failure⟩ : Meaning α).upTo demand =
      [.subscribe, (Network.lastDelivery (α := α) failure).signal] := by
  simp [upTo, lastSignal]

/-- Whether the terminal signal of a feed passes through a window although it was cancelled: only an
empty window does not look, and only a failure that is passed on at once does. -/
def Meaning.lingers {α : Type} (count : Nat) (delays : Bool) (meaning : Meaning α) : Bool :=
  (lastItems count meaning.items).isEmpty && (delays || meaning.failure.isNone)

/-- What a subscriber hears after it has cancelled, when its feed terminates after that. -/
def Meaning.farewell {α : Type} (count : Nat) (delays : Bool) (meaning : Meaning α) :
    List (Signal α) :=
  if meaning.lingers count delays then [meaning.lastSignal] else []

/-- What a window has given up does not matter for what it collects. -/
theorem Window.Collecting.kept {α ι : Type} {window : Window α ι} {count : Nat} {delays : Bool}
    {link : ι} {seen : List α} {owed : Nat} (h : window.Collecting count delays link seen owed) :
    window.Collecting count delays link (Meaning.lastItems count seen) owed :=
  { h with items := h.items.trans (Meaning.lastItems_lastItems count seen).symm }

/-- Termination signals at once when the buffer is empty, and starts a pass otherwise. -/
theorem Window.terminate_eq {α ι : Type} (drain : Drain α) (ending : Ending) :
    (drain.buffer.items = [] ∧
        terminate (ι := ι) drain ending = [.signal (drain.conclusion ending)]) ∨
      drain.buffer.items ≠ [] ∧ ∃ pass, terminate (ι := ι) drain ending = [.go pass] := by
  unfold terminate Drain.passOnTermination
  by_cases hempty : drain.buffer.isEmpty = true
  · exact .inl ⟨Buffer.isEmpty_iff.1 hempty, by rw [if_pos hempty]⟩
  · exact .inr ⟨mt Buffer.isEmpty_iff.2 hempty, _, by rw [if_neg hempty]⟩

/-- Completion and a delayed failure are passed on above an empty window, and start a pass
otherwise. -/
theorem Window.terminate_of_passed {α : Type} {count : Nat} {delays : Bool} {seen : List α}
    {failure : Option Failure} {drain : Drain α} {ending : Ending}
    (hitems : drain.buffer.items = Meaning.lastItems count seen)
    (hconcludes : drain.conclusion ending = Network.lastDelivery failure)
    (hpassed : (delays || failure.isNone) = true) :
    if (⟨seen, failure⟩ : Meaning α).lingers count delays then
      terminate drain ending = [.signal (Network.lastDelivery failure)]
    else terminate (ι := Network.Link) drain ending = [] ∨
      ∃ pass, terminate (ι := Network.Link) drain ending = [.go pass] := by
  simp only [Meaning.lingers, hpassed, Bool.and_true, List.isEmpty_iff, ← hitems]
  obtain ⟨hnil, hterminate⟩ | ⟨hne, hterminate⟩ := terminate_eq (ι := Network.Link) drain ending
  · rw [if_pos hnil, hterminate, hconcludes]
  · rw [if_neg hne]
    exact .inr hterminate

/-- A window that was cancelled hears the terminal signal of its feed. An empty one passes it on,
unless it is a failure that would be passed on at once; otherwise the window signals nothing, though
it may start a pass. -/
theorem Window.Collecting.last_muted {α : Type} {window : Window α Network.Link} {count : Nat}
    {delays : Bool} {link : Network.Link} {seen : List α} {owed : Nat}
    (h : window.Collecting count delays link seen owed) (self : Network.Link)
    (failure : Option Failure) :
    ∃ changed effects, window.muted.hear self (Network.lastDelivery failure) = (changed, effects) ∧
      changed.cancelled = true ∧
      if (⟨seen, failure⟩ : Meaning α).lingers count delays then
        effects = [.signal (Network.lastDelivery failure)]
      else effects = [] ∨ ∃ pass, effects = [.go pass] := by
  rcases failure with _ | failure
  · exact ⟨_, _, rfl, rfl, terminate_of_passed h.items rfl (by simp)⟩
  · cases delays with
    | false =>
        have hhear : window.muted.hear self (.error failure) =
            ({ window.muted with
              drain := { window.drain with buffer := window.drain.buffer.clear } }, []) := by
          simp [hear, fail, muted, h.delays]
        exact ⟨_, _, hhear, rfl, by simp [Meaning.lingers]⟩
    | true =>
        let drain := { window.drain with failure := window.drain.failure.set failure }
        have hfree : window.drain.failure.isSet = false := by
          rw [FailureSlot.isSet, h.failure]
          rfl
        have hset : drain.failure.get? = some failure := by
          rw [FailureSlot.get?_set, FailureSlot.get?, h.failure]
          rfl
        have hhear : window.muted.hear self (.error failure) =
            ({ window.muted with drain }, terminate drain .heldFailure) := by
          simp [hear, fail, muted, h.delays, hfree, drain]
        have hconcludes : drain.conclusion .heldFailure = Network.lastDelivery (some failure) := by
          rw [Drain.conclusion, hset]
          rfl
        exact ⟨_, _, hhear, rfl, terminate_of_passed h.items hconcludes rfl⟩

namespace Network

variable {α : Type} {network next : Network α} {windows resumptions : Nat}

/-! ## A publisher that has terminated -/

/-- A publisher driven by hand that has terminated has nothing to signal. -/
def HandEnded (_ : Network α) (phase : Phase α) : Prop := phase = .spent

/-- The conduct of a publisher driven by hand that has terminated: it takes every call in vain. -/
theorem conduct_handEnded (windows resumptions place : Nat) (receiver : Receiver)
    (meaning : Meaning α) :
    Conduct windows resumptions (.hand place) receiver meaning HandEnded where
  aside := fun hended _ => hended
  absorb := by
    rintro network phase rfl order -
    exact ⟨_, .drop rfl [], within_callHand windows resumptions network place order,
      by cases order <;> rfl⟩
  emit := fun hended => nomatch hended
  resume := fun hended => nomatch hended
  hush := fun hended => nomatch hended

/-! ## The end of a feed -/

section

variable {start : Network α} {name : String} {react : Reaction (Action α)} {link : Link}
  {events more : List (Happening α)} {meaning : Meaning α} {initial : UInt64}
  {stands : Network α → Phase α → Prop}

/-- The feed of a subscriber has nothing to signal any more. -/
structure Ends (start : Network α) (name : String) (react : Reaction (Action α)) (link : Link)
    (stands : Network α → Phase α → Prop) (network : Network α)
    (events : List (Happening α)) : Prop where
  listens : Listens start name react link network events
  spent : stands network .spent

/-- A call after the end of the feed is made in vain. -/
theorem Ends.call (h : Ends start name react link stands network events)
    (hfeed : Conduct 0 0 link (.probe start.probes.length) meaning stands) (order : Order) :
    ∃ next more, Agenda.Leads perform ⟨network, [.act (.order name order)]⟩ ⟨next, []⟩ ∧
      heard more = [] ∧ Ends start name react link stands next (events ++ more) := by
  obtain ⟨called, hcall, hcalled, hlistensCalled⟩ := h.listens.call order
  obtain ⟨absorbed, hleads, hwithin, hspent⟩ :=
    hfeed.absorb (hfeed.aside h.spent hcalled) order fun hidle => Bool.noConfusion hidle
  obtain ⟨quiet, hquiet, hlistensAbsorbed⟩ := hlistensCalled.within hwithin
  obtain ⟨next, hret, hreturned, hlistens⟩ := hlistensAbsorbed.ret (.order name order) .done
  rw [List.append_assoc, List.append_assoc] at hlistens
  have hsame : (Phase.spent : Phase α).after order = .spent := by cases order <;> rfl
  rw [hsame] at hspent
  refine ⟨next, _, .head hcall (hleads.done (.drop hret [])), ?_, hlistens,
    hfeed.aside hspent hreturned⟩
  rw [heard_append, heard_append, heard_of_quiet hquiet]
  rfl

/-- Calls after the end of the feed are made in vain. -/
theorem Ends.callAll (h : Ends start name react link stands network events)
    (hfeed : Conduct 0 0 link (.probe start.probes.length) meaning stands)
    (orders : List Order) :
    ∃ next more, Agenda.Leads perform ⟨network, calls name orders⟩ ⟨next, []⟩ ∧
      heard more = [] ∧ Ends start name react link stands next (events ++ more) := by
  induction orders generalizing network events with
  | nil => exact ⟨network, [], .refl _, rfl, by rwa [List.append_nil]⟩
  | cons order orders ih =>
      obtain ⟨middle, first, hleads, hfirst, hmiddle⟩ := h.call hfeed order
      obtain ⟨next, second, hmore, hsecond, hnext⟩ := ih hmiddle
      rw [List.append_assoc] at hnext
      refine ⟨next, first ++ second, hleads.done hmore, ?_, hnext⟩
      rw [heard_append, hfirst, hsecond]
      rfl

/-- The terminal signal is heard, and answered by calls in vain. -/
theorem Ends.hear (h : Ends start name react link stands network events)
    (hfeed : Conduct 0 0 link (.probe start.probes.length) meaning stands)
    (hscript : IsOwnScript name react) (failure : Option Failure) :
    ∃ next more, Agenda.Leads perform
        ⟨network, [.signal (.probe start.probes.length) (lastDelivery failure)]⟩ ⟨next, []⟩ ∧
      heard more = [] ∧
      Ends start name react link stands next
        (events ++ [.heard name (lastDelivery (α := α) failure).signal] ++ more) := by
  obtain ⟨middle, orders, hhear, haside, hlistens⟩ :=
    h.listens.hear hscript (lastDelivery failure)
      (by intro other; rcases failure with _ | _ <;> simp [lastDelivery])
  have hmiddle : Ends start name react link stands middle _ :=
    ⟨hlistens, hfeed.aside h.spent haside⟩
  obtain ⟨next, more, hleads, hunheard, hnext⟩ := hmiddle.callAll hfeed orders
  exact ⟨next, more, (Agenda.Leads.only hhear).trans hleads, hunheard, hnext⟩

/-- The end of a signal by hand, and later calls, change nothing after the end of the feed. -/
theorem Ends.later (h : Ends start name react link stands network events)
    (hfeed : Conduct 0 0 link (.probe start.probes.length) meaning stands) (receiver : Receiver)
    (action : Action α) (result : Result α) (orders : List Order) :
    ∃ next more, Agenda.Leads perform
        ⟨network, .leave receiver :: .ret action result :: calls name orders⟩ ⟨next, []⟩ ∧
      heard more = [] ∧ Ends start name react link stands next (events ++ more) := by
  obtain ⟨left, quiet, hleave, hasideLeft, -, hquiet, hlistensLeft⟩ := h.listens.leave receiver
  obtain ⟨returned, hret, hasideRet, hlistensRet⟩ := hlistensLeft.ret action result
  have hreturned : Ends start name react link stands returned _ :=
    ⟨hlistensRet, hfeed.aside (hfeed.aside h.spent hasideLeft) hasideRet⟩
  obtain ⟨next, more, hleads, hunheard, hnext⟩ := hreturned.callAll hfeed orders
  rw [List.append_assoc, List.append_assoc] at hnext
  refine ⟨next, _, .head hleave (.head hret hleads), ?_, hnext⟩
  rw [heard_append, heard_append, heard_of_quiet hquiet, hunheard]
  rfl

/-- The terminal signal is heard, and nothing after it. -/
theorem Ends.conclude (h : Ends start name react link stands network events)
    (hfeed : Conduct 0 0 link (.probe start.probes.length) meaning stands)
    (hscript : IsOwnScript name react) (failure : Option Failure) (receiver : Receiver)
    (action : Action α) (result : Result α) (orders : List Order) :
    ∃ next more, Agenda.Leads perform
        ⟨network, .signal (.probe start.probes.length) (lastDelivery failure) ::
          .leave receiver :: .ret action result :: calls name orders⟩ ⟨next, []⟩ ∧
      heard more = [] ∧
      Ends start name react link stands next
        (events ++ [.heard name (lastDelivery (α := α) failure).signal] ++ more) := by
  obtain ⟨answered, first, hhear, hfirst, hanswered⟩ := h.hear hfeed hscript failure
  obtain ⟨next, second, hlater, hsecond, hnext⟩ :=
    hanswered.later hfeed receiver action result orders
  rw [List.append_assoc] at hnext
  refine ⟨next, first ++ second, hhear.done hlater, ?_, hnext⟩
  rw [heard_append, hfirst, hsecond]
  rfl

/-- A feed that comes to its terminal signal at once: the signal is heard, and a cancellation after
it comes too late. -/
theorem Listens.concludes (h : Listens start name react link network events)
    (hfeed : Conduct 0 0 link (.probe start.probes.length) meaning stands)
    (hscript : IsOwnScript name react) (hcalm : afterCancel events = []) {failure : Option Failure}
    {tasks : List (Task α)} {owed : Nat}
    (honward : Onward 0 0 (.probe start.probes.length) failure stands network tasks [] owed)
    (receiver : Receiver) (action : Action α) (result : Result α) (orders : List Order) :
    ∃ next after, Agenda.Leads perform
        ⟨network, tasks ++ .leave receiver :: .ret action result :: calls name orders⟩ ⟨next, []⟩ ∧
      Listens start name react link next after ∧
      heard after = heard events ++ [(lastDelivery (α := α) failure).signal] ∧
      heard (afterCancel after) = [] := by
  obtain ⟨told, hleads, hwithin, hspent⟩ := honward
  obtain ⟨quiet, hquiet, hlistens⟩ := h.within hwithin
  have hends : Ends start name react link stands told (events ++ quiet) := ⟨hlistens, hspent⟩
  obtain ⟨next, more, hlater, hunheard, hnext⟩ :=
    hends.conclude hfeed hscript failure receiver action result orders
  refine ⟨next, _, (hleads.append _).trans hlater, hnext.listens, ?_, ?_⟩
  · rw [heard_append_of_unheard _ hunheard, heard_append,
      heard_append_of_unheard _ (heard_of_quiet hquiet)]
    rfl
  · have hcalmQuiet := (append_of_calm hcalm quiet).2.trans (asked_of_quiet hquiet).1
    rw [heard_afterCancel_append _ hunheard, (append_of_calm hcalmQuiet _).2]
    rfl

/-- The end of a signal by hand leaves a subscriber at rest, and so do later calls. -/
theorem Rests.later (h : Rests start name react link meaning initial stands network events)
    (hfeed : Conduct 0 0 link (.probe start.probes.length) meaning stands)
    (hscript : IsOwnScript name react) (receiver : Receiver) (action : Action α)
    (result : Result α) (orders : List Order) :
    ∃ next more, Agenda.Leads perform
        ⟨network, .leave receiver :: .ret action result :: calls name orders⟩ ⟨next, []⟩ ∧
      Rests start name react link meaning initial stands next (events ++ more) := by
  obtain ⟨left, quiet, hleave, haside, -, hquiet, hlistens⟩ := h.listens.leave receiver
  have hleft : Rests start name react link meaning initial stands left (events ++ quiet) := by
    refine ⟨hlistens, ?_⟩
    rcases h.phase with ⟨x, rest, hidle, hdue⟩ | ⟨hspent, hsettled⟩
    · exact .inl ⟨x, rest, hfeed.aside hidle haside, hdue.quiet hquiet⟩
    · exact .inr ⟨hfeed.aside hspent haside, hsettled.append (heard_of_quiet hquiet)⟩
  obtain ⟨returned, hret, hreturned⟩ := hleft.ret hfeed action result
  obtain ⟨next, more, hleads, hnext⟩ := settle_orders hfeed hscript hreturned orders
  rw [List.append_assoc, List.append_assoc] at hnext
  exact ⟨next, _, .head hleave (.head hret hleads), hnext⟩

end

/-! ## The replay -/

section

variable {name up : String} {react : Reaction (Action α)} {count : Nat} {delays : Bool}
  {initial : UInt64} {xs : List α} {events : List (Happening α)}

/-- The publisher driven by hand terminates: its terminal signal is on the way to the window. -/
theorem Gathers.terminate (h : Gathers name up react count delays initial xs network events)
    (failure : Option Failure) :
    ∃ next, perform (.act (termination up failure)) network =
        (next, [.signal (.window 0) (lastDelivery failure), .leave (.window 0),
          .ret (termination up failure) .done]) ∧
      Gathers name up react count delays initial xs next
        (events ++ [.called (termination up failure)]) := by
  have hquiet : Happening.isQuiet (.called (termination up failure) : Happening α) := by
    rcases failure with _ | failure <;> exact ⟨rfl, rfl, rfl⟩
  have hbegin : ∀ network : Network α, network.begin (termination up failure) =
      network.signalByHand (termination up failure) up [lastDelivery failure] := by
    rcases failure with _ | failure <;> exact fun _ => rfl
  obtain ⟨next, hperform, haside, hhands, hlistens⟩ := h.listens.drive h.driven hbegin hquiet
  exact ⟨next, hperform, h.quiet haside hhands (by simpa using hquiet) hlistens⟩

/-- The publisher terminates above a window that was not cancelled. The window replays the items
that it has gathered, as they are asked for; when it has none, all that is left is the terminal
signal, and a cancellation after it comes too late. -/
theorem Gathers.replays (h : Gathers name up react count delays initial xs network events)
    (hscript : IsOwnScript name react) (hcalm : afterCancel events = [])
    (hroom : min count xs.length ≤ Demand.unbounded.toNat) (failure : Option Failure)
    (orders : List Order) :
    ∃ next after, Agenda.Leads perform
        ⟨network, .act (termination up failure) :: calls name orders⟩ ⟨next, []⟩ ∧
      Listens {} name react (.window 0) next after ∧
      (afterCancel after = [] → heard after =
        (Meaning.takeLast count delays ⟨xs, failure⟩).upTo (demand initial after)) ∧
      heard (afterCancel after) = [] := by
  obtain ⟨ended, hended, hgathers⟩ := h.terminate failure
  have hcalmEnded : afterCancel (events ++ [.called (termination up failure)]) = [] := by
    rw [(append_of_calm hcalm _).2]
    rcases failure with _ | failure <;> rfl
  let gathered : Meaning α := ⟨Meaning.lastItems count xs, failure⟩
  have hlimit : gathered.items.length ≤ Demand.unbounded.toNat := by
    rwa [Meaning.length_lastItems]
  have hhand := conduct_handEnded 1 0 0 (.window 0) gathered
  have hfeed := conduct_window hhand (Nat.le_refl 0) hlimit (.probe 0) count delays
  cases hgathers.seated with
  | muted cancelled seat collecting => exact absurd hcalmEnded cancelled
  | active calm seat collecting =>
      have honward := onward_last hhand (Nat.le_refl 0) seat collecting.kept rfl hlimit
      have hfailure := Meaning.failure_takeLast (⟨xs, failure⟩ : Meaning α) count delays
      rw [Meaning.takeLast_lastItems] at hfeed honward
      generalize Meaning.takeLast count delays ⟨xs, failure⟩ = meaning
        at hfeed honward hfailure ⊢
      obtain ⟨items, failure⟩ := meaning
      obtain rfl : failure = _ := hfailure
      rcases items with _ | ⟨x, left⟩
      · obtain ⟨next, after, hleads, hlistens, hheard, hsilent⟩ :=
          hgathers.listens.concludes hfeed hscript hcalmEnded honward (.window 0)
            (termination up failure) .done orders
        refine ⟨next, after, .head hended hleads, hlistens, fun _ => ?_, hsilent⟩
        rw [hheard, hgathers.history, Meaning.upTo_nil]
        rfl
      · have hdue : Due ⟨x :: left, failure⟩ initial
            (events ++ [.called (termination up failure)]) (x :: left)
            (demand initial (events ++ [.called (termination up failure)])) :=
          ⟨calm, [], rfl, hgathers.history, (Nat.zero_add _).symm⟩
        obtain ⟨rested, first, hleads, hrests⟩ :=
          settle_onward hfeed hscript hgathers.listens hdue honward
        obtain ⟨next, second, hlater, hnext⟩ :=
          hrests.later hfeed hscript (.window 0) (termination up failure) .done orders
        have hdelivers := hnext.delivers
        exact ⟨next, _, .head hended (.done hleads hlater), hnext.listens, hdelivers.exactly,
          hdelivers.silence.resolve_right fun hlast => List.cons_ne_nil x left hlast.1⟩

/-- A window that was cancelled hears the terminal signal of its feed. All that may be left then is
the same signal, on its way to the subscriber. -/
theorem Gathers.mutes (h : Gathers name up react count delays initial xs network events)
    (hcancelled : afterCancel events ≠ []) (failure : Option Failure) :
    ∃ next, Agenda.Leads perform ⟨network, [.signal (.window 0) (lastDelivery failure)]⟩
        ⟨next, if (⟨xs, failure⟩ : Meaning α).lingers count delays then
          [.signal (.probe 0) (lastDelivery failure)] else []⟩ ∧
      Ends {} name react (.window 0)
        (WindowStands 0 (.probe 0) count delays ⟨[], none⟩ (.hand 0) HandEnded) next events := by
  cases h.seated with
  | active calm seat collecting => exact absurd calm hcancelled
  | muted cancelled seat collecting =>
      obtain ⟨changed, effects, hhear, hdone, heffects⟩ := collecting.last_muted (.window 0) failure
      obtain ⟨told, hperform, honly, hplace⟩ := seat.hear _ hhear
      have hlistens := h.listens.of_same honly.probes honly.trace
      split at heffects
      next hlingers =>
        subst heffects
        rw [if_pos hlingers]
        exact ⟨told, .only hperform, hlistens, .spent hplace (.inl hdone)⟩
      next hlingers =>
        rw [if_neg hlingers]
        rcases heffects with rfl | ⟨pass, rfl⟩
        · exact ⟨told, .only hperform, hlistens, .spent hplace (.inl hdone)⟩
        · -- The pass finds the window cancelled.
          obtain ⟨hushed, hstop, hsame, hseat⟩ := hplace.go (Window.go_cancelled hdone pass)
          exact ⟨hushed, .head hperform (.drop hstop []),
            hlistens.of_same hsame.probes hsame.trace, .spent hseat (.inl hdone)⟩

/-- The publisher terminates above a window that was cancelled. The window hands out nothing, but
the terminal signal may pass through it. -/
theorem Gathers.hushes (h : Gathers name up react count delays initial xs network events)
    (hscript : IsOwnScript name react) (hcancelled : afterCancel events ≠ [])
    (failure : Option Failure) (orders : List Order) :
    ∃ next after, Agenda.Leads perform
        ⟨network, .act (termination up failure) :: calls name orders⟩ ⟨next, []⟩ ∧
      Listens {} name react (.window 0) next after ∧ afterCancel after ≠ [] ∧
      heard (afterCancel after) = Meaning.farewell count delays ⟨xs, failure⟩ := by
  obtain ⟨ended, hended, hgathers⟩ := h.terminate failure
  have hstill := afterCancel_append_ne_nil hcancelled [.called (termination up failure)]
  have hhand := conduct_handEnded 1 0 0 (.window 0) (⟨[], none⟩ : Meaning α)
  have hfeed := conduct_window hhand (Nat.le_refl 0) (Nat.zero_le _) (.probe 0) count delays
  obtain ⟨told, htold, hends⟩ := hgathers.mutes hstill failure
  rw [Meaning.farewell]
  split at htold
  next hlingers =>
    obtain ⟨next, more, hlater, hunheard, hnext⟩ :=
      hends.conclude hfeed hscript failure (.window 0) (termination up failure) .done orders
    rw [List.append_assoc] at hnext
    refine ⟨next, _, .head hended ((htold.append _).trans hlater), hnext.listens,
      afterCancel_append_ne_nil hstill _, ?_⟩
    rw [if_pos hlingers, (append_of_cancelled hstill _).2, heard_append, hgathers.silent,
      heard_append_of_unheard _ hunheard]
    rfl
  next hlingers =>
    obtain ⟨next, more, hlater, hunheard, hnext⟩ :=
      hends.later hfeed (.window 0) (termination up failure) .done orders
    refine ⟨next, _, .head hended (htold.done hlater), hnext.listens,
      afterCancel_append_ne_nil hstill _, ?_⟩
    rw [if_neg hlingers, heard_afterCancel_append _ hunheard, hgathers.silent]

/-- A window hands out nothing before the publisher driven by hand terminates. From then on,
whenever all calls have returned and as long as nobody cancelled, its subscriber has heard as many of
the last items as it has asked for, in order, and the terminal signal exactly if these were all of
them; a failure that is not delayed is heard at once, in place of all items. The hypothesis on the
size of the window excludes none that fits into memory. -/
theorem window_replays (name up : String) (count : Nat) (delays : Bool) (initial : UInt64)
    {react : Reaction (Action α)} (hscript : IsOwnScript name react) {before : List (Action α)}
    (hbefore : ∀ action ∈ before, action.precedes name up = true) (failure : Option Failure)
    (orders : List Order) (hroom : min count (pushed before).length < 2 ^ 63) :
    ∃ ready final : Network α,
      Agenda.Settles perform {} (.act (.subscribe name (lastOf count delays up) initial react) ::
        before.map .act) ready ∧
      HasHeard ready [.subscribe] ∧
      Agenda.Settles perform ready (.act (termination up failure) :: calls name orders) final ∧
      (afterCancel final.trace = [] → HasHeard final
        ((Meaning.takeLast count delays ⟨pushed before, failure⟩).upTo
          (demand initial final.trace))) := by
  obtain ⟨ready, hready, hgathers⟩ :=
    gathers_of_script name up count delays initial hscript hbefore
  have hgathered := hgathers.listens.hasHeard.2
  rw [hgathers.history] at hgathered
  by_cases hcalm : afterCancel ready.trace = []
  · have hlimit : min count (pushed before).length ≤ Demand.unbounded.toNat :=
      Nat.le_of_lt_succ hroom
    obtain ⟨final, after, hfinal, hlistens, hexactly, -⟩ :=
      hgathers.replays hscript hcalm hlimit failure orders
    obtain ⟨rfl, hheard⟩ := hlistens.hasHeard
    refine ⟨ready, final, hready, hgathered, hfinal.settles, fun hafter => ?_⟩
    rwa [hexactly hafter] at hheard
  · obtain ⟨final, after, hfinal, hlistens, hcancelled, -⟩ :=
      hgathers.hushes hscript hcalm failure orders
    obtain ⟨rfl, -⟩ := hlistens.hasHeard
    exact ⟨ready, final, hready, hgathered, hfinal.settles, fun hafter => absurd hafter hcancelled⟩

/-- Three items above a window for two, a request from inside the first delivery, and a failure that
is held back. -/
theorem window_replays_two_of_three :
    let react : Reaction (Action Nat) :=
      Rule.reaction [{ on := .next, actions := [.order "probe" (.request 5)] }]
    let before : List (Action Nat) := [.next "up" 1, .order "probe" (.request 0), .nextAll "up" [2, 3]]
    IsOwnScript "probe" react ∧ (∀ action ∈ before, action.precedes "probe" "up" = true) ∧
      min 2 (pushed before).length < 2 ^ 63 ∧
      ∃ ready final : Network Nat,
        Agenda.Settles perform {} (.act (.subscribe "probe" (lastOf 2 true "up") 1 react) ::
          before.map .act) ready ∧
        HasHeard ready [.subscribe] ∧
        Agenda.Settles perform ready
          (.act (termination "up" (some (.stream "late"))) :: calls "probe" []) final ∧
        (afterCancel final.trace = [] → HasHeard final
          ((Meaning.takeLast 2 true ⟨pushed before, some (.stream "late")⟩).upTo
            (demand 1 final.trace))) := by
  intro react before
  have hscript : IsOwnScript "probe" react := by
    refine isOwnScript_reaction ?_
    intro rule hrule
    obtain rfl := List.mem_singleton.1 hrule
    exact ⟨[.request 5], rfl⟩
  have hbefore : ∀ action ∈ before, action.precedes "probe" "up" = true := by
    simp [before, Action.precedes]
  have hroom : min 2 (pushed before).length < 2 ^ 63 := by decide
  exact ⟨hscript, hbefore, hroom,
    window_replays "probe" "up" 2 true 1 hscript hbefore (some (.stream "late")) [] hroom⟩

example : ∃ final : Network Nat,
    Agenda.Settles perform {} [
      .act (.subscribe "probe" (lastOf 2 true "up") 1
        (Rule.reaction [{ on := .next, actions := [.order "probe" (.request 5)] }])),
      .act (.next "up" 1), .act (.nextAll "up" [2, 3]),
      .act (.error "up" (.stream "late"))] final ∧
    afterCancel final.trace = [] ∧
    HasHeard final [.subscribe, .next 2, .next 3, .error (.stream "late")] :=
  ⟨_, ⟨40, rfl⟩, rfl, _, rfl, rfl⟩

/-- Once a subscriber of a window has cancelled it hears no item any more, and no terminal signal
either, with one exception: when the publisher driven by hand terminates after the cancellation above
an empty window, completion and a delayed failure are passed on all the same. A cancellation that
comes after the termination, or between the items of the replay, is always heeded. -/
theorem window_falls_silent (name up : String) (count : Nat) (delays : Bool) (initial : UInt64)
    {react : Reaction (Action α)} (hscript : IsOwnScript name react) {before : List (Action α)}
    (hbefore : ∀ action ∈ before, action.precedes name up = true) (failure : Option Failure)
    (orders : List Order) (hroom : min count (pushed before).length < 2 ^ 63) :
    ∃ ready final : Network α,
      Agenda.Settles perform {} (.act (.subscribe name (lastOf count delays up) initial react) ::
        before.map .act) ready ∧
      Agenda.Settles perform ready (.act (termination up failure) :: calls name orders) final ∧
      HasHeard final (heard final.trace) ∧ heard (afterCancel ready.trace) = [] ∧
      (afterCancel ready.trace = [] → heard (afterCancel final.trace) = []) ∧
      (afterCancel ready.trace ≠ [] → heard (afterCancel final.trace) =
        Meaning.farewell count delays ⟨pushed before, failure⟩) := by
  obtain ⟨ready, hready, hgathers⟩ :=
    gathers_of_script name up count delays initial hscript hbefore
  by_cases hcalm : afterCancel ready.trace = []
  · have hlimit : min count (pushed before).length ≤ Demand.unbounded.toNat :=
      Nat.le_of_lt_succ hroom
    obtain ⟨final, after, hfinal, hlistens, -, hsilent⟩ :=
      hgathers.replays hscript hcalm hlimit failure orders
    obtain ⟨rfl, hheard⟩ := hlistens.hasHeard
    exact ⟨ready, final, hready, hfinal.settles, hheard, hgathers.silent, fun _ => hsilent,
      fun hcancelled => absurd hcalm hcancelled⟩
  · obtain ⟨final, after, hfinal, hlistens, -, hfarewell⟩ :=
      hgathers.hushes hscript hcalm failure orders
    obtain ⟨rfl, hheard⟩ := hlistens.hasHeard
    exact ⟨ready, final, hready, hfinal.settles, hheard, hgathers.silent,
      fun hnone => absurd hnone hcalm, fun _ => hfarewell⟩

/-- A cancellation from inside the first of two deliveries. -/
theorem window_falls_silent_within_delivery :
    let react : Reaction (Action Nat) :=
      Rule.reaction [{ on := .next, actions := [.order "probe" .cancel] }]
    let before : List (Action Nat) := [.nextAll "up" [1, 2]]
    IsOwnScript "probe" react ∧ (∀ action ∈ before, action.precedes "probe" "up" = true) ∧
      min 3 (pushed before).length < 2 ^ 63 ∧
      ∃ ready final : Network Nat,
        Agenda.Settles perform {} (.act (.subscribe "probe" (lastOf 3 false "up") 9 react) ::
          before.map .act) ready ∧
        Agenda.Settles perform ready
          (.act (termination "up" none) :: calls "probe" [.request 1]) final ∧
        HasHeard final (heard final.trace) ∧ heard (afterCancel ready.trace) = [] ∧
        (afterCancel ready.trace = [] → heard (afterCancel final.trace) = []) ∧
        (afterCancel ready.trace ≠ [] → heard (afterCancel final.trace) =
          Meaning.farewell 3 false ⟨pushed before, none⟩) := by
  intro react before
  have hscript : IsOwnScript "probe" react := by
    refine isOwnScript_reaction ?_
    intro rule hrule
    obtain rfl := List.mem_singleton.1 hrule
    exact ⟨[.cancel], rfl⟩
  have hbefore : ∀ action ∈ before, action.precedes "probe" "up" = true := by
    simp [before, Action.precedes]
  have hroom : min 3 (pushed before).length < 2 ^ 63 := by decide
  exact ⟨hscript, hbefore, hroom,
    window_falls_silent "probe" "up" 3 false 9 hscript hbefore none [.request 1] hroom⟩

/-- A subscriber of an empty window cancels, and hears the completion of the publisher after that. -/
theorem empty_window_completes_after_cancellation :
    ∃ final : Network Nat,
      Agenda.Settles perform {} [.act (.subscribe "probe" (lastOf 2 false "up") 3 fun _ _ => []),
        .act (.order "probe" .cancel), .act (.complete "up")] final ∧
      HasHeard final [.subscribe, .complete] ∧ heard (afterCancel final.trace) = [.complete] :=
  ⟨_, ⟨20, rfl⟩, ⟨_, rfl, rfl⟩, rfl⟩

end

end Network

end Backpressure
