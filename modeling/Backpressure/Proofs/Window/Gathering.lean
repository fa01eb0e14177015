import Backpressure.Proofs.Pipeline.Delivery
import Backpressure.Proofs.Resumption.Privacy

/-!
# A window over a publisher driven by hand

A publisher that is driven by hand pushes items whenever it likes, whether or not anybody asked for
them. A window over such a publisher gathers the last of them, and its subscriber may call it
meanwhile: demand waits in the register, and a cancellation goes up to the publisher, which may well
ignore it. Nothing is handed out before the publisher terminates.

Main results:

- Theorem `Gathers.call` and theorem `Gathers.pushAll` keep account of calls and of pushed items.
- Theorem `gathers_of_subscription` starts the account, and theorem `Gathers.actions` keeps it over
  a whole script.
-/

namespace Backpressure

namespace Window

variable {α ι : Type} {window : Window α ι} {count : Nat} {delays : Bool} {link : ι}
  {seen : List α} {owed : Nat}

/-- A window once it was cancelled. -/
def muted (window : Window α ι) : Window α ι := { window with cancelled := true, feed := none }

/-- The first cancellation of a window. -/
theorem Collecting.cancel (h : window.Collecting count delays link seen owed) :
    window.take (α := α) .cancel = (window.muted, [.order link .cancel]) := by
  simp [take, muted, h.active, h.feed]

/-- A window that was cancelled takes a call in vain, and goes on collecting. -/
theorem Collecting.take_muted (h : window.Collecting count delays link seen owed)
    (order : Order) :
    ∃ (unit : Window α ι) (owed : Nat), window.muted.take order = (unit.muted, []) ∧
      unit.Collecting count delays link seen owed := by
  cases order with
  | request amount =>
      have hawake : window.muted.drain.isStalled = false := Drain.isStalled_of_reads h.reads
      refine ⟨{ window with drain := window.drain.afterRequest amount }, owed + amount.toNat,
        ?_, { h with reads := h.reads.add amount }⟩
      rw [take, Drain.passOnRequest_of_awake hawake]
      rfl
  | cancel => exact ⟨window, owed, rfl, h⟩

/-- A window that was cancelled still collects the items that it hears. -/
theorem Collecting.next_muted (h : window.Collecting count delays link seen owed) (self : ι)
    (x : α) :
    ∃ unit : Window α ι, window.muted.hear self (.next x) = (unit.muted, []) ∧
      unit.Collecting count delays link (seen ++ [x]) owed := by
  obtain ⟨unit, hhear, hunit⟩ := h.next self x
  cases hhear
  exact ⟨_, rfl, hunit⟩

end Window

namespace Network

variable {α : Type} {network next : Network α}

/-! ## Scripts -/

/-- Whether an action may come before the publisher driven by hand terminates: the subscriber calls
its link, or the publisher pushes items. -/
def Action.precedes (name up : String) : Action α → Bool
  | .order other _ => other = name
  | .next other _ | .nextAll other _ => other = up
  | _ => false

/-- The items that an action pushes. -/
def Action.items : Action α → List α
  | .next _ x => [x]
  | .nextAll _ xs => xs
  | _ => []

/-- The items that actions push, in order. -/
def pushed (actions : List (Action α)) : List α := actions.flatMap Action.items

/-- The action by which the publisher driven by hand terminates. -/
def termination (up : String) : Option Failure → Action α
  | some failure => .error up failure
  | none => .complete up

/-- A window over the last items of a publisher driven by hand. -/
def lastOf (count : Nat) (delays : Bool) (up : String) : Publisher α (Action α) :=
  .takeLast count delays (.hand up)

/-! ## The publisher driven by hand -/

/-- The only publisher driven by hand signals to the first window. -/
def Driven (up : String) (network : Network α) : Prop :=
  ∃ hand, network.hands = [hand] ∧ hand.name = up ∧ hand.subscriber = some (.window 0)

variable {up : String}

/-- What is pushed by hand is pushed to the window. -/
theorem Driven.subscriberOf (h : Driven up network) :
    network.subscriberOf up = some (.window 0) := by
  obtain ⟨hand, hhands, hname, hsubscriber⟩ := h
  simp [Network.subscriberOf, hhands, hname, hsubscriber]

/-- Who is driven by hand does not depend on anything else. -/
theorem Driven.of_hands (h : Driven up network) (hhands : next.hands = network.hands) :
    Driven up next := by
  rwa [Driven, hhands]

/-- A call on a publisher driven by hand leaves its subscriber alone. -/
theorem Driven.callHand (h : Driven up network) (order : Order) :
    Driven up (network.callHand 0 order) := by
  obtain ⟨hand, hhands, hname, hsubscriber⟩ := h
  exact ⟨{ hand with ledger := hand.ledger.record order },
    by rw [Network.callHand, hhands]; rfl, hname, hsubscriber⟩

/-- A call on a publisher driven by hand concerns no unit. -/
theorem within_callHand (windows resumptions : Nat) (network : Network α) (place : Nat)
    (order : Order) : Within windows resumptions network (network.callHand place order) where
  window := fun _ _ => rfl
  resumption := fun _ _ => rfl
  probes := rfl
  outlets := rfl
  streams := rfl
  trace := ⟨[], (List.append_nil _).symm, fun _ h => (List.not_mem_nil h).elim⟩
  windows_length := Nat.le_refl _

/-- Whether a task is a call that a subscriber begins, a signal to a window or a subscriber, or a
call on a window. -/
def Task.isCalm : Task α → Bool
  | .act (.order _ _) | .signal (.window _) _ | .signal (.probe _) _ | .order (.window _) _ => true
  | _ => false

/-- Such a task leaves the publishers driven by hand alone. -/
theorem hands_perform {task : Task α} {added : List (Task α)} (htask : task.isCalm = true)
    (hperform : perform task network = (next, added)) : next.hands = network.hands := by
  have hwindow : ∀ index f, (network.onWindow index f).1.hands = network.hands := by
    intro index f
    unfold onWindow
    split <;> rfl
  have hsame : (perform task network).1.hands = network.hands := by
    unfold Task.isCalm at htask
    split at htask
    · simp only [perform, begin]
      split <;> rfl
    · exact hwindow _ _
    · simp only [perform, deliver, hearProbe]
      split <;> rfl
    · exact hwindow _ _
    · exact absurd htask Bool.false_ne_true
  rwa [hperform] at hsame

/-! ## The subscriber -/

variable {start : Network α} {name : String} {react : Reaction (Action α)} {link : Link}
  {events more : List (Happening α)}

/-- A subscriber listens as long as nothing is recorded. -/
theorem Listens.of_same (h : Listens start name react link network events)
    (hprobes : next.probes = network.probes) (htrace : next.trace = network.trace) :
    Listens start name react link next events where
  trace := htrace.trans h.trace
  probe := by rw [hprobes]; exact h.probe

/-- The end of a signal by hand is of no account. -/
theorem Listens.leave (h : Listens start name react link network events)
    (receiver : Receiver) :
    ∃ next more, perform (.leave receiver) network = (next, []) ∧ Aside 0 0 network next ∧
      next.hands = network.hands ∧ (∀ event ∈ more, Happening.isQuiet event) ∧
      Listens start name react link next (events ++ more) := by
  let left : Network α := { network with hearing := network.hearing.erase receiver }
  have hsame := sameUnits_letGo left receiver
  obtain ⟨woken, htrace⟩ := trace_letGo left receiver
  have hquiet : ∀ event ∈ (woken.map .woke : List (Happening α)), Happening.isQuiet event := by
    intro event hevent
    obtain ⟨_, -, rfl⟩ := List.mem_map.1 hevent
    exact ⟨rfl, rfl, rfl⟩
  obtain ⟨probe, hprobes, hname, hreact, hlink, hhistory⟩ := h.probe
  refine ⟨_, woken.map .woke, rfl, ?_, hsame.hands, hquiet, ?_, probe, hsame.probes.trans hprobes, hname,
    hreact, hlink, ?_⟩
  · exact {
      source := hsame.sources
      window := fun other _ => congrArg (·[other]?) hsame.windows
      resumption := fun other _ => congrArg (·[other]?) hsame.resumptions
      windows_length := Nat.le_of_eq (congrArg List.length hsame.windows).symm }
  · rw [← List.append_assoc, ← h.trace]
    exact htrace
  · rw [heard_append_of_unheard _ (heard_of_quiet hquiet)]
    exact hhistory

/-- An action by hand signals to the window, which is let go afterwards. -/
theorem Listens.drive (h : Listens start name react link network events)
    (hdriven : Driven up network) {action : Action α} {deliveries : List (Delivery α Link)}
    (hbegin : ∀ network : Network α,
      network.begin action = network.signalByHand action up deliveries)
    (hquiet : Happening.isQuiet (.called action)) :
    ∃ next, perform (.act action) network =
        (next, deliveries.map (.signal (.window 0)) ++ [.leave (.window 0), .ret action .done]) ∧
      Aside 0 0 network next ∧ next.hands = network.hands ∧
      Listens start name react link next (events ++ [.called action]) := by
  obtain ⟨probe, hprobes, hname, hreact, hlink, hhistory⟩ := h.probe
  have hsubscriber : (network.log (.called action)).subscriberOf up = some (.window 0) :=
    hdriven.subscriberOf
  refine ⟨{ network.log (.called action) with hearing := .window 0 :: network.hearing }, ?_,
    ⟨rfl, fun _ _ => rfl, fun _ _ => rfl, Nat.le_refl _⟩, rfl, ?_, probe, hprobes, hname, hreact,
    hlink, ?_⟩
  · rw [perform, hbegin, signalByHand, hsubscriber]
    rfl
  · rw [log, h.trace, List.append_assoc]
  · rw [heard_append_of_unheard _ (heard_of_quiet (by simpa using hquiet)), hhistory]

/-! ## The account -/

section

variable {count : Nat} {delays : Bool} {initial : UInt64} {xs : List α}

/-- How the window stands in the course of events: it collects, and either the demand waits in its
register, or it was cancelled. -/
inductive Seated (count : Nat) (delays : Bool) (initial : UInt64) (xs : List α)
    (network : Network α) (events : List (Happening α)) : Prop where
  | active {unit : Window α Link} (calm : afterCancel events = [])
      (seat : WindowAt network 0 (.probe 0) unit)
      (collecting : unit.Collecting count delays (.hand 0) xs (demand initial events))
  | muted {unit : Window α Link} {owed : Nat} (cancelled : afterCancel events ≠ [])
      (seat : WindowAt network 0 (.probe 0) unit.muted)
      (collecting : unit.Collecting count delays (.hand 0) xs owed)

/-- What concerns no unit and is of no account leaves the window as it is. -/
theorem Seated.quiet (h : Seated count delays initial xs network events)
    (haside : Aside 0 0 network next) (hquiet : ∀ event ∈ more, Happening.isQuiet event) :
    Seated count delays initial xs next (events ++ more) := by
  obtain ⟨hcalm, hasked⟩ := asked_of_quiet hquiet
  cases h with
  | active calm seat collecting =>
      refine .active ((append_of_calm calm more).2.trans hcalm)
        (seat.aside haside (Nat.le_refl 0)) ?_
      rwa [demand_append calm, hasked]
  | muted cancelled seat collecting =>
      exact .muted (afterCancel_append_ne_nil cancelled more) (seat.aside haside (Nat.le_refl 0))
        collecting

/-- What concerns no unit leaves the window as it is. -/
theorem Seated.aside (h : Seated count delays initial xs network events)
    (haside : Aside 0 0 network next) : Seated count delays initial xs next events := by
  have hquiet := h.quiet haside fun _ hevent => (List.not_mem_nil hevent).elim
  rwa [List.append_nil] at hquiet

/-- The window takes a call that its subscriber has begun. -/
theorem Seated.take (h : Seated count delays initial xs network events) (hdriven : Driven up network)
    (name : String) (order : Order) :
    ∃ next, Agenda.Leads perform ⟨network, [.order (.window 0) order]⟩ ⟨next, []⟩ ∧
      next.probes = network.probes ∧ next.trace = network.trace ∧ Driven up next ∧
      Seated count delays initial xs next (events ++ [.called (.order name order)]) := by
  have hands : ∀ {next : Network α} {tasks : List (Task α)},
      perform (.order (.window 0) order) network = (next, tasks) → Driven up next :=
    fun hperform => hdriven.of_hands (hands_perform rfl hperform)
  cases h with
  | active calm seat collecting =>
      have hafter := (append_of_calm calm [.called (.order name order)]).2
      cases order with
      | request amount =>
          obtain ⟨unit, htake, hcollecting⟩ := collecting.request amount
          obtain ⟨next, hperform, honly, hseat⟩ := seat.take _ htake
          refine ⟨next, .drop hperform [], honly.probes, honly.trace, hands hperform,
            .active hafter hseat ?_⟩
          rwa [demand_append calm]
      | cancel =>
          obtain ⟨middle, hperform, honly, hseat⟩ := seat.take _ collecting.cancel
          exact ⟨middle.callHand 0 .cancel, .head hperform (.drop rfl []), honly.probes,
            honly.trace, (hands hperform).callHand .cancel,
            .muted (by rw [hafter]; exact List.cons_ne_nil _ _) hseat collecting⟩
  | muted cancelled seat collecting =>
      obtain ⟨unit, owed, htake, hcollecting⟩ := collecting.take_muted order
      obtain ⟨next, hperform, honly, hseat⟩ := seat.take _ htake
      exact ⟨next, .drop hperform [], honly.probes, honly.trace, hands hperform,
        .muted (afterCancel_append_ne_nil cancelled _) hseat hcollecting⟩

/-- The window hears an item. -/
theorem Seated.push (h : Seated count delays initial xs network events) (x : α) :
    ∃ next, perform (.signal (.window 0) (.next x)) network = (next, []) ∧
      next.probes = network.probes ∧ next.trace = network.trace ∧ next.hands = network.hands ∧
      Seated count delays initial (xs ++ [x]) next events := by
  cases h with
  | active calm seat collecting =>
      obtain ⟨unit, hhear, hcollecting⟩ := collecting.next (.window 0) x
      obtain ⟨next, hperform, honly, hseat⟩ := seat.hear _ hhear
      exact ⟨next, hperform, honly.probes, honly.trace, hands_perform rfl hperform,
        .active calm hseat hcollecting⟩
  | muted cancelled seat collecting =>
      obtain ⟨unit, hhear, hcollecting⟩ := collecting.next_muted (.window 0) x
      obtain ⟨next, hperform, honly, hseat⟩ := seat.hear _ hhear
      exact ⟨next, hperform, honly.probes, honly.trace, hands_perform rfl hperform,
        .muted cancelled hseat hcollecting⟩

/-- A window over a publisher driven by hand gathers: the publisher has pushed some items, and all
that its subscriber has heard is that it is subscribed. -/
structure Gathers (name up : String) (react : Reaction (Action α)) (count : Nat) (delays : Bool)
    (initial : UInt64) (xs : List α) (network : Network α) (events : List (Happening α)) :
    Prop where
  listens : Listens {} name react (.window 0) network events
  driven : Driven up network
  seated : Seated count delays initial xs network events
  history : heard events = [.subscribe]
  silent : heard (afterCancel events) = []

/-- What concerns no unit and is of no account leaves a gathering window as it is. -/
theorem Gathers.quiet (h : Gathers name up react count delays initial xs network events)
    (haside : Aside 0 0 network next) (hhands : next.hands = network.hands)
    (hquiet : ∀ event ∈ more, Happening.isQuiet event)
    (hlistens : Listens {} name react (.window 0) next (events ++ more)) :
    Gathers name up react count delays initial xs next (events ++ more) where
  listens := hlistens
  driven := h.driven.of_hands hhands
  seated := h.seated.quiet haside hquiet
  history := by rw [heard_append_of_unheard _ (heard_of_quiet hquiet), h.history]
  silent := (heard_afterCancel_append events (heard_of_quiet hquiet)).trans h.silent

/-- The end of an action leaves a gathering window as it is. -/
theorem Gathers.ret (h : Gathers name up react count delays initial xs network events)
    (action : Action α) (result : Result α) :
    Gathers name up react count delays initial xs (network.log (.returned action result))
      (events ++ [.returned action result]) := by
  obtain ⟨next, hret, haside, hlistens⟩ := h.listens.ret action result
  cases hret
  exact h.quiet haside rfl (isQuiet_returned action result) hlistens

/-- A call of the subscriber makes the window signal nothing. -/
theorem Gathers.call (h : Gathers name up react count delays initial xs network events)
    (order : Order) :
    ∃ next more, Agenda.Leads perform ⟨network, [.act (.order name order)]⟩ ⟨next, []⟩ ∧
      Gathers name up react count delays initial xs next (events ++ more) := by
  obtain ⟨called, hcall, haside, hlistensCalled⟩ := h.listens.call order
  obtain ⟨taken, hleads, hprobes, htrace, hdriven, hseated⟩ :=
    (h.seated.aside haside).take (h.driven.of_hands (hands_perform rfl hcall)) name order
  have hunheard : heard [(.called (.order name order) : Happening α)] = [] := rfl
  have htaken : Gathers name up react count delays initial xs taken
      (events ++ [.called (.order name order)]) := {
    listens := hlistensCalled.of_same hprobes htrace
    driven := hdriven
    seated := hseated
    history := by rw [heard_append_of_unheard _ hunheard, h.history]
    silent := (heard_afterCancel_append events hunheard).trans h.silent }
  have hnext := htaken.ret (.order name order) .done
  rw [List.append_assoc] at hnext
  exact ⟨_, _, .head hcall (hleads.done (.drop rfl [])), hnext⟩

/-- Calls of the subscriber, one after the other. -/
theorem Gathers.callAll (h : Gathers name up react count delays initial xs network events)
    (orders : List Order) :
    ∃ next more, Agenda.Leads perform ⟨network, calls name orders⟩ ⟨next, []⟩ ∧
      Gathers name up react count delays initial xs next (events ++ more) := by
  induction orders generalizing network events with
  | nil => exact ⟨network, [], .refl _, by rwa [List.append_nil]⟩
  | cons order orders ih =>
      obtain ⟨middle, first, hleads, hmiddle⟩ := h.call order
      obtain ⟨next, second, hmore, hnext⟩ := ih hmiddle
      rw [List.append_assoc] at hnext
      exact ⟨next, first ++ second, hleads.done hmore, hnext⟩

/-- Items that are pushed are gathered. -/
theorem Gathers.pushAll (h : Gathers name up react count delays initial xs network events)
    (ys : List α) :
    ∃ next, Agenda.Leads perform
        ⟨network, (ys.map Delivery.next).map (.signal (.window 0))⟩ ⟨next, []⟩ ∧
      Gathers name up react count delays initial (xs ++ ys) next events := by
  induction ys generalizing network xs with
  | nil => exact ⟨network, .refl _, by rwa [List.append_nil]⟩
  | cons y ys ih =>
      obtain ⟨middle, hperform, hprobes, htrace, hhands, hseated⟩ := h.seated.push y
      have hmiddle : Gathers name up react count delays initial (xs ++ [y]) middle events := {
        h with
        listens := h.listens.of_same hprobes htrace
        driven := h.driven.of_hands hhands
        seated := hseated }
      obtain ⟨next, hleads, hnext⟩ := ih hmiddle
      rw [List.append_assoc, List.singleton_append] at hnext
      exact ⟨next, .head hperform hleads, hnext⟩

/-- Items that are pushed by an action are gathered. -/
theorem Gathers.drive (h : Gathers name up react count delays initial xs network events)
    {action : Action α} {ys : List α}
    (hbegin : ∀ network : Network α,
      network.begin action = network.signalByHand action up (ys.map .next))
    (hquiet : Happening.isQuiet (.called action)) :
    ∃ next more, Agenda.Leads perform ⟨network, [.act action]⟩ ⟨next, []⟩ ∧
      Gathers name up react count delays initial (xs ++ ys) next (events ++ more) := by
  obtain ⟨driven, hperform, haside, hhands, hlistens⟩ := h.listens.drive h.driven hbegin hquiet
  have hdriven := h.quiet haside hhands (by simpa using hquiet) hlistens
  obtain ⟨pushed, hleads, hpushed⟩ := hdriven.pushAll ys
  obtain ⟨left, quiet, hleave, hasideLeft, hhandsLeft, hquietLeft, hlistensLeft⟩ :=
    hpushed.listens.leave (.window 0)
  have hnext := (hpushed.quiet hasideLeft hhandsLeft hquietLeft hlistensLeft).ret action .done
  rw [List.append_assoc, List.append_assoc] at hnext
  exact ⟨_, _, (Agenda.Leads.only hperform).trans (hleads.allDone (.head hleave (.drop rfl []))),
    hnext⟩

/-- An action before the publisher terminates. -/
theorem Gathers.act (h : Gathers name up react count delays initial xs network events)
    {action : Action α} (haction : action.precedes name up = true) :
    ∃ next more, Agenda.Leads perform ⟨network, [.act action]⟩ ⟨next, []⟩ ∧
      Gathers name up react count delays initial (xs ++ action.items) next (events ++ more) := by
  cases action with
  | order other order =>
      obtain rfl : other = name := of_decide_eq_true haction
      have hcall := h.call order
      rwa [← List.append_nil xs] at hcall
  | next other x =>
      obtain rfl : other = up := of_decide_eq_true haction
      exact h.drive (fun _ => rfl) ⟨rfl, rfl, rfl⟩
  | nextAll other ys =>
      obtain rfl : other = up := of_decide_eq_true haction
      exact h.drive (fun _ => rfl) ⟨rfl, rfl, rfl⟩
  | _ => exact absurd haction Bool.false_ne_true

/-- A call on the publisher driven by hand leaves a gathering window as it is. -/
theorem Gathers.callHand (h : Gathers name up react count delays initial xs network events)
    (order : Order) :
    Gathers name up react count delays initial xs (network.callHand 0 order) events := {
  h with
  listens := h.listens.of_same rfl rfl
  driven := h.driven.callHand order
  seated := h.seated.aside ⟨rfl, fun _ _ => rfl, fun _ _ => rfl, Nat.le_refl _⟩ }

/-- A script before the publisher terminates. -/
theorem Gathers.actions (h : Gathers name up react count delays initial xs network events)
    {actions : List (Action α)}
    (hactions : ∀ action ∈ actions, action.precedes name up = true) :
    ∃ next more, Agenda.Leads perform ⟨network, actions.map .act⟩ ⟨next, []⟩ ∧
      Gathers name up react count delays initial (xs ++ pushed actions) next
        (events ++ more) := by
  induction actions generalizing network xs events with
  | nil =>
      refine ⟨network, [], .refl _, ?_⟩
      rwa [pushed, List.flatMap_nil, List.append_nil, List.append_nil]
  | cons action actions ih =>
      obtain ⟨middle, first, hleads, hmiddle⟩ := h.act (hactions action List.mem_cons_self)
      obtain ⟨next, second, hmore, hnext⟩ :=
        ih hmiddle fun other hother => hactions other (List.mem_cons_of_mem action hother)
      rw [List.append_assoc, List.append_assoc] at hnext
      exact ⟨next, first ++ second, hleads.done hmore, hnext⟩

/-! ## The subscription -/

/-- A subscriber that has just heard of its subscription issues its initial demand. -/
theorem gathers_of_issue (initial : UInt64) {unit : Window α Link} (hdriven : Driven up network)
    (hseat : WindowAt network 0 (.probe 0) unit)
    (hfresh : unit.Collecting count delays (.hand 0) [] 0)
    (hlistens : Listens {} name react (.window 0) network events)
    (hheard : heard events = [.subscribe]) (hcalm : afterCancel events = [])
    (hasked : asked events = 0) :
    ∃ next, Agenda.Leads perform
        ⟨network, if initial = 0 then [] else [.order (.window 0) (.request initial)]⟩
        ⟨next, []⟩ ∧
      Gathers name up react count delays initial [] next events := by
  have hdemand : demand initial events = 0 + initial.toNat := by
    rw [demand, hasked, Nat.add_comm]
  have hsilent : heard (afterCancel events) = [] := by
    rw [hcalm]
    rfl
  by_cases hzero : initial = 0
  · rw [if_pos hzero]
    rw [hzero] at hdemand
    refine ⟨network, .refl _, hlistens, hdriven, .active hcalm hseat ?_, hheard, hsilent⟩
    rw [hzero, hdemand]
    exact hfresh
  · rw [if_neg hzero]
    obtain ⟨changed, htake, hcollecting⟩ := hfresh.request initial
    obtain ⟨next, hperform, honly, hplace⟩ := hseat.take _ htake
    rw [← hdemand] at hcollecting
    exact ⟨next, .drop hperform [], hlistens.of_same honly.probes honly.trace,
      hdriven.of_hands (hands_perform rfl hperform), .active hcalm hplace hcollecting, hheard,
      hsilent⟩

/-- A subscription to a window over a publisher driven by hand starts to gather: the subscriber has
issued its initial demand and reacted, and the publisher was asked for everything. -/
theorem gathers_of_subscription (name up : String) (count : Nat) (delays : Bool)
    (initial : UInt64) {react : Reaction (Action α)} (hscript : IsOwnScript name react) :
    ∃ (next : Network α) (events : List (Happening α)),
      Agenda.Leads perform ⟨{}, [.act (.subscribe name (lastOf count delays up) initial react)]⟩
        ⟨next, []⟩ ∧
      Gathers name up react count delays initial [] next events := by
  let action : Action α := .subscribe name (lastOf count delays up) initial react
  let begun : Network α :=
    { hands := [{ name := up }], probes := [{ name, initial, react }], trace := [.called action] }
  let made : Network α :=
    { begun with windows := [begun.stage (.probe 0) (.ofSize count delays)] }
  let bound : Network α :=
    { made with hands := [{ name := up, subscriber := some (.window 0), subscribed := 1 }] }
  have hbegun : perform (.act action) {} =
      (begun, [.subscribe (lastOf count delays up) (.probe 0), .ret action .done]) := rfl
  have hmade : perform (.subscribe (lastOf count delays up) (.probe 0)) begun =
      (made, [.subscribe (.hand up) (.window 0)]) := rfl
  have hbound : perform (.subscribe (.hand up) (.window 0)) made =
      (bound, [.signal (.window 0) (.subscribe (.hand 0))]) := by
    simp [perform, subscribe, subscribeHand, made, begun, bound]
  have hplace : WindowAt bound 0 (.probe 0) (.ofSize count delays) := ⟨_, rfl, rfl, rfl⟩
  obtain ⟨opened, hopened, honly, hseat⟩ := hplace.hear (.subscribe (.hand 0)) rfl
  have hdriven : Driven up bound := ⟨_, rfl, rfl, rfl⟩
  have hprobes : opened.probes = ({} : Network α).probes ++
      [({ name, initial, react } : Probe α Link (Action α))] := honly.probes
  have htrace : opened.trace = ({} : Network α).trace ++ [.called action] := honly.trace
  obtain ⟨heardAt, orders, hhear, haside, hlistens⟩ :=
    hear_subscription hprobes htrace rfl hscript (.window 0)
  have hfresh : (Window.hear (.window 0) (.ofSize count delays)
      (.subscribe (.hand 0)) : Window α Link × _).1.Collecting count delays (.hand 0) [] 0 := {
    active := rfl
    feed := rfl
    delays := rfl
    items := (Meaning.lastItems_nil count).symm
    capacity := rfl
    reads := .fresh
    failure := rfl }
  obtain ⟨issued, hissued, hgathers⟩ := gathers_of_issue initial
    ((hdriven.of_hands (hands_perform rfl hopened)).of_hands (hands_perform rfl hhear))
    (hseat.aside haside (Nat.le_refl 0)) hfresh hlistens rfl rfl rfl
  obtain ⟨called, more, hcalls, hcalled⟩ := hgathers.callAll orders
  have hasked := (hcalled.callHand (.request Demand.unbounded)).ret action .done
  rw [List.append_assoc] at hasked
  refine ⟨_, _, .head hbegun (.head hmade (.head hbound (.head hopened (.head hhear ?_)))), hasked⟩
  rw [List.append_assoc]
  exact hissued.allDone (hcalls.allDone (.head rfl (.drop rfl [])))

/-- The only subscriber has heard some signals. -/
def HasHeard (network : Network α) (signals : List (Signal α)) : Prop :=
  ∃ probe, network.probes = [probe] ∧ probe.history = signals

/-- The events of the only subscriber are all that was recorded, and it has heard what they say. -/
theorem Listens.hasHeard (h : Listens {} name react link network events) :
    events = network.trace ∧ HasHeard network (heard events) := by
  obtain ⟨probe, hprobes, -, -, -, hhistory⟩ := h.probe
  exact ⟨(h.trace.trans (List.nil_append events)).symm, probe, hprobes, hhistory⟩

/-- Every script before the publisher terminates comes to an end, and all that the subscriber has
heard then is that it is subscribed. -/
theorem gathers_of_script (name up : String) (count : Nat) (delays : Bool) (initial : UInt64)
    {react : Reaction (Action α)} (hscript : IsOwnScript name react) {before : List (Action α)}
    (hbefore : ∀ action ∈ before, action.precedes name up = true) :
    ∃ ready : Network α,
      Agenda.Settles perform {} (.act (.subscribe name (lastOf count delays up) initial react) ::
        before.map .act) ready ∧
      Gathers name up react count delays initial (pushed before) ready ready.trace := by
  obtain ⟨opened, first, hopened, hgathers⟩ :=
    gathers_of_subscription name up count delays initial hscript
  obtain ⟨ready, second, hready, hgathered⟩ := hgathers.actions hbefore
  obtain ⟨htrace, -⟩ := hgathered.listens.hasHeard
  rw [htrace] at hgathered
  exact ⟨ready, (hopened.done hready).settles, hgathered⟩

end

end Network

end Backpressure
