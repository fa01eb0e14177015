import Backpressure.Proofs.Pipeline.Account
import Backpressure.Proofs.Pipeline.Expression

/-!
# What a subscriber of a pipeline hears

A scripted subscriber calls the link it received: when it hears a signal, and between its signals.
Every call is absorbed by the feed or makes it go on, and the feed goes on until nothing more is
owed. The proof is by induction on the items that are left; the phase of the feed and the account
of the subscriber are carried along.

Main results:

- Theorem `settle_calls` runs the calls that a subscriber makes while it hears a signal.
- Theorem `settle_onward` runs a feed until nothing more is owed.
- Theorem `settle_orders` runs the calls that a subscriber makes between its signals.
- Theorem `delivers_meaning` states what a subscriber of an expression hears for every script.
-/

namespace Backpressure.Network

variable {α : Type}

/-- A script whose reactions are calls on the link of the subscriber with a name. -/
def IsOwnScript (name : String) (react : Reaction (Action α)) : Prop :=
  ∀ kind number, ∃ orders : List Order, react kind number = orders.map (.order name)

/-- Calls on the link of the subscriber with a name, one after the other. -/
def calls (name : String) (orders : List Order) : List (Task α) :=
  orders.map fun order => .act (.order name order)

/-- Rules that ask for calls on the own link give such a script. -/
theorem isOwnScript_reaction {name : String} {rules : List (Rule (Action α))}
    (h : ∀ rule ∈ rules, ∃ orders : List Order, rule.actions = orders.map (.order name)) :
    IsOwnScript name (Rule.reaction rules) := by
  intro kind number
  induction rules with
  | nil => exact ⟨[], rfl⟩
  | cons rule rules ih =>
      obtain ⟨later, hlater⟩ := ih fun other hother => h other (List.mem_cons_of_mem rule hother)
      obtain ⟨orders, horders⟩ := h rule List.mem_cons_self
      rw [Rule.reaction] at hlater ⊢
      by_cases hfires : rule.fires kind number = true
      · refine ⟨orders ++ later, ?_⟩
        rw [List.filter_cons_of_pos (by simpa using hfires), List.flatMap_cons, horders, hlater,
          List.map_append]
      · refine ⟨later, ?_⟩
        rw [List.filter_cons_of_neg (by simpa using hfires), hlater]

/-- In the course of events a network was given one more subscriber, which has a link and has heard
what the events say. -/
structure Listens (start : Network α) (name : String) (react : Reaction (Action α))
    (link : Link) (network : Network α) (events : List (Happening α)) : Prop where
  trace : network.trace = start.trace ++ events
  probe : ∃ probe, network.probes = start.probes ++ [probe] ∧ probe.name = name ∧
    probe.react = react ∧ probe.link = some link ∧ probe.history = heard events

variable {start network next : Network α} {name : String} {react : Reaction (Action α)}
  {link : Link} {events more : List (Happening α)}

/-! ## The subscriber -/

/-- The last element of a list is the last one at which a test holds, if it holds there. -/
theorem lastIndex?_concat {β : Type} {test : β → Bool} {x : β} (h : test x = true) (xs : List β) :
    lastIndex? test (xs ++ [x]) = some xs.length := by
  rw [lastIndex?, List.length_append, List.length_singleton, List.range_succ, List.reverse_append,
    List.reverse_singleton, List.singleton_append, List.find?_cons_of_pos]
  simp [h]

/-- The subscriber calls its link. -/
theorem Listens.call (h : Listens start name react link network events) (order : Order) :
    ∃ next, perform (.act (.order name order)) network =
        (next, [.order link order, .ret (.order name order) .done]) ∧
      Aside 0 0 network next ∧
      Listens start name react link next (events ++ [.called (.order name order)]) := by
  obtain ⟨probe, hprobes, hname, hreact, hlink, hhistory⟩ := h.probe
  refine ⟨network.log (.called (.order name order)), ?_, ⟨rfl, fun _ _ => rfl, fun _ _ => rfl,
    Nat.le_refl _⟩, ?_, probe, hprobes, hname, hreact, hlink, ?_⟩
  · have hindex : (network.log (.called (.order name order))).probeOf name =
        some start.probes.length := by
      simp only [probeOf, log, hprobes]
      exact lastIndex?_concat (by simp [hname]) start.probes
    simp only [perform, begin, hindex]
    simp [log, hprobes, hlink]
  · rw [log, h.trace, List.append_assoc]
  · rw [heard_append_of_unheard _ rfl, hhistory]

/-- A call of the subscriber has returned. -/
theorem Listens.ret (h : Listens start name react link network events) (action : Action α)
    (result : Result α) :
    ∃ next, perform (.ret action result) network = (next, []) ∧ Aside 0 0 network next ∧
      Listens start name react link next (events ++ [.returned action result]) := by
  obtain ⟨probe, hprobes, hname, hreact, hlink, hhistory⟩ := h.probe
  refine ⟨_, rfl, ⟨rfl, fun _ _ => rfl, fun _ _ => rfl, Nat.le_refl _⟩, ?_, probe, hprobes, hname,
    hreact, hlink, ?_⟩
  · rw [log, h.trace, List.append_assoc]
  · rw [heard_append_of_unheard _ rfl, hhistory]

/-- A question to a recovery is of no account. -/
theorem isQuiet_of_isRecovering {event : Happening α} (h : isRecovering event = true) :
    Happening.isQuiet event := by
  cases event <;> first | contradiction | exact ⟨rfl, rfl, rfl⟩

/-- The end of an action is of no account. -/
theorem isQuiet_returned (action : Action α) (result : Result α) :
    ∀ event ∈ [(.returned action result : Happening α)], Happening.isQuiet event := by
  intro event hevent
  rw [List.mem_singleton.1 hevent]
  exact ⟨rfl, rfl, rfl⟩

/-- What a feed does does not concern its subscriber. -/
theorem Listens.within {windows resumptions : Nat}
    (h : Listens start name react link network events)
    (hwithin : Within windows resumptions network next) :
    ∃ more, (∀ event ∈ more, Happening.isQuiet event) ∧
      Listens start name react link next (events ++ more) := by
  obtain ⟨more, htrace, hmore⟩ := hwithin.trace
  have hquiet : ∀ event ∈ more, Happening.isQuiet event :=
    fun event hevent => isQuiet_of_isRecovering (hmore event hevent)
  obtain ⟨probe, hprobes, hname, hreact, hlink, hhistory⟩ := h.probe
  refine ⟨more, hquiet, ?_, probe, hwithin.probes.trans hprobes, hname, hreact, hlink, ?_⟩
  · rw [htrace, h.trace, List.append_assoc]
  · rw [heard_append_of_unheard _ (heard_of_quiet hquiet), hhistory]

/-- The subscriber hears an item or a terminal signal, and reacts by calls. -/
theorem Listens.hear (h : Listens start name react link network events)
    (hscript : IsOwnScript name react) (delivery : Delivery α Link)
    (hlater : ∀ link, delivery ≠ .subscribe link) :
    ∃ next orders, perform (.signal (.probe start.probes.length) delivery) network =
        (next, calls name orders) ∧
      Aside 0 0 network next ∧
      Listens start name react link next (events ++ [.heard name delivery.signal]) := by
  obtain ⟨probe, hprobes, hname, hreact, hlink, hhistory⟩ := h.probe
  have hopening : probe.opening delivery = none := by
    cases delivery with
    | subscribe link => exact (hlater link rfl).elim
    | _ => rfl
  have hkeep : (probe.hear delivery).link = some link := by
    cases delivery with
    | subscribe link => exact (hlater link rfl).elim
    | _ => exact hlink
  obtain ⟨orders, horders⟩ := hscript delivery.signal.kind
    (History.count delivery.signal.kind probe.history)
  have hanswer : probe.answer delivery = orders.map (.order name) := by
    rw [Probe.answer, hreact, horders]
  refine ⟨({ network with
      probes := network.probes.set start.probes.length (probe.hear delivery) }).log
        (.heard name delivery.signal), orders, ?_, ⟨rfl, fun _ _ => rfl, fun _ _ => rfl,
    Nat.le_refl _⟩, ?_, probe.hear delivery, ?_, hname, hreact, hkeep, ?_⟩
  · simp only [perform, deliver, hearProbe]
    rw [hprobes, List.getElem?_concat_length]
    simp [hopening, hanswer, hname, calls, Function.comp_def]
  · simp [log, h.trace]
  · simp [log, hprobes]
  · rw [Probe.history_hear, hhistory, heard_append]
    rfl

/-! ## Calls while a signal is heard -/

variable {meaning : Meaning α} {initial : UInt64} {stands : Network α → Phase α → Prop}
  {phase : Phase α} {left : List α} {owed : Nat} {tasks rest : List (Task α)}

/-- Events of no account keep the account. -/
theorem Tally.quiet (h : Tally meaning initial events phase)
    (hquiet : ∀ event ∈ more, Happening.isQuiet event) :
    Tally meaning initial (events ++ more) phase := by
  cases phase with
  | idle x left => exact Due.quiet h hquiet
  | busy left owed rest => exact Due.quiet h hquiet
  | muted rest => exact Cut.append h (heard_of_quiet hquiet)
  | spent => exact Settled.append h (heard_of_quiet hquiet)

/-- A call that makes the feed signal nothing keeps the account. -/
theorem Tally.call (h : Tally meaning initial events phase) (name : String) {order : Order}
    (horder : phase.isIdle = true → order = .cancel) :
    Tally meaning initial (events ++ [.called (.order name order)]) (phase.after order) := by
  cases phase with
  | idle x left =>
      cases horder rfl
      exact (Due.cancel h).settled
  | busy left owed rest =>
      cases order with
      | request amount => exact Due.request h name amount
      | cancel => exact Due.cancel h
  | muted rest => cases order <;> exact Cut.append h rfl
  | spent => cases order <;> exact Settled.append h rfl

/-- One call that makes the feed signal nothing. -/
theorem settle_call (hfeed : Conduct 0 0 link (.probe start.probes.length) meaning stands)
    (hlistens : Listens start name react link network events) (hstands : stands network phase)
    (htally : Tally meaning initial events phase) (order : Order)
    (horder : phase.isIdle = true → order = .cancel) :
    ∃ next more, Agenda.Leads perform ⟨network, [.act (.order name order)]⟩ ⟨next, []⟩ ∧
      Listens start name react link next (events ++ more) ∧ stands next (phase.after order) ∧
      Tally meaning initial (events ++ more) (phase.after order) := by
  obtain ⟨called, hcall, hcalled, hlistensCalled⟩ := hlistens.call order
  obtain ⟨absorbed, hleads, hwithin, hnext⟩ :=
    hfeed.absorb (hfeed.aside hstands hcalled) order horder
  obtain ⟨quiet, hquiet, hlistensAbsorbed⟩ := hlistensCalled.within hwithin
  obtain ⟨next, hret, hreturned, hlistensNext⟩ :=
    hlistensAbsorbed.ret (.order name order) .done
  have htallyNext := ((htally.call name horder).quiet hquiet).quiet
    (isQuiet_returned (.order name order) .done)
  rw [List.append_assoc, List.append_assoc] at hlistensNext htallyNext
  exact ⟨next, _, .head hcall (hleads.done (.drop hret [])), hlistensNext,
    hfeed.aside hnext hreturned, htallyNext⟩

/-- The calls that a subscriber makes while it hears a signal, or when nothing is left. -/
theorem settle_calls (hfeed : Conduct 0 0 link (.probe start.probes.length) meaning stands)
    (orders : List Order) (hlistens : Listens start name react link network events)
    (hstands : stands network phase) (htally : Tally meaning initial events phase)
    (hbusy : phase.isIdle = false) :
    ∃ next more, Agenda.Leads perform ⟨network, calls name orders⟩ ⟨next, []⟩ ∧
      Listens start name react link next (events ++ more) ∧
      stands next (orders.foldl Phase.after phase) ∧
      Tally meaning initial (events ++ more) (orders.foldl Phase.after phase) := by
  induction orders generalizing network events phase with
  | nil =>
      refine ⟨network, [], .refl _, ?_, hstands, ?_⟩ <;> rwa [List.append_nil]
  | cons order orders ih =>
      obtain ⟨middle, first, hleads, hlistensMiddle, hmiddle, htallyMiddle⟩ :=
        settle_call hfeed hlistens hstands htally order (by simp [hbusy])
      have hstill : (phase.after order).isIdle = false := by
        cases phase <;> cases order <;> first | contradiction | rfl
      obtain ⟨next, second, hmore, hlistensNext, hnext, htallyNext⟩ :=
        ih hlistensMiddle hmiddle htallyMiddle hstill
      rw [List.append_assoc] at hlistensNext htallyNext
      exact ⟨next, first ++ second, hleads.done hmore, hlistensNext, hnext, htallyNext⟩

/-- Calls while a signal is heard either add to what is owed or cancel. -/
theorem foldl_after_busy (orders : List Order) (left : List α) (owed : Nat)
    (rest : List (Task α)) :
    (∃ more, orders.foldl Phase.after (.busy left owed rest) = .busy left more rest) ∨
      orders.foldl Phase.after (.busy left owed rest) = .muted rest := by
  have hmuted : ∀ orders : List Order,
      orders.foldl Phase.after (.muted rest : Phase α) = .muted rest := by
    intro orders
    induction orders with
    | nil => rfl
    | cons order orders ih => cases order <;> exact ih
  induction orders generalizing owed with
  | nil => exact .inl ⟨owed, rfl⟩
  | cons order orders ih =>
      cases order with
      | request amount => exact ih (owed + amount.toNat)
      | cancel => exact .inr (hmuted orders)

/-- Calls change nothing when nothing is left. -/
theorem foldl_after_spent (orders : List Order) :
    orders.foldl Phase.after (.spent : Phase α) = .spent := by
  induction orders with
  | nil => rfl
  | cons order orders ih => cases order <;> exact ih

/-! ## Running a feed -/

/-- Nothing is under way: the feed waits for a request, or it has nothing left, and the account of
its subscriber says so. -/
structure Rests (start : Network α) (name : String) (react : Reaction (Action α)) (link : Link)
    (meaning : Meaning α) (initial : UInt64) (stands : Network α → Phase α → Prop)
    (network : Network α) (events : List (Happening α)) : Prop where
  listens : Listens start name react link network events
  phase : (∃ x left, stands network (.idle x left) ∧
      Due meaning initial events (x :: left) 0) ∨
    stands network .spent ∧ Settled meaning initial events

/-- A subscriber at rest has heard what it has to hear. -/
theorem Rests.delivers (h : Rests start name react link meaning initial stands network events) :
    Delivers meaning initial events := by
  rcases h.phase with ⟨x, left, -, hdue⟩ | ⟨-, hsettled⟩
  · exact hdue.delivers
  · exact hsettled.toDelivers

/-- The end of an action leaves a subscriber at rest. -/
theorem Rests.ret (h : Rests start name react link meaning initial stands network events)
    (hfeed : Conduct 0 0 link (.probe start.probes.length) meaning stands) (action : Action α)
    (result : Result α) :
    ∃ next, perform (.ret action result) network = (next, []) ∧
      Rests start name react link meaning initial stands next
        (events ++ [.returned action result]) := by
  obtain ⟨next, hret, haside, hlistens⟩ := h.listens.ret action result
  refine ⟨next, hret, hlistens, ?_⟩
  rcases h.phase with ⟨x, left, hidle, hdue⟩ | ⟨hspent, hsettled⟩
  · exact .inl ⟨x, left, hfeed.aside hidle haside, hdue.quiet (isQuiet_returned action result)⟩
  · exact .inr ⟨hfeed.aside hspent haside, hsettled.append rfl⟩

/-- The terminal signal is heard, and answered by calls in vain. -/
theorem settle_last (hfeed : Conduct 0 0 link (.probe start.probes.length) meaning stands)
    (hscript : IsOwnScript name react)
    (hlistens : Listens start name react link network events) (hspent : stands network .spent)
    (hsettled : Settled meaning initial (events ++ [.heard name meaning.lastSignal])) :
    ∃ next more, Agenda.Leads perform
        ⟨network, [.signal (.probe start.probes.length) (lastDelivery meaning.failure)]⟩
        ⟨next, []⟩ ∧
      Rests start name react link meaning initial stands next (events ++ more) := by
  obtain ⟨middle, orders, hhear, haside, hlistensMiddle⟩ :=
    hlistens.hear hscript (lastDelivery meaning.failure)
      (by intro other; rcases meaning.failure with _ | _ <;> simp [lastDelivery])
  have htallyMiddle : Tally meaning initial (events ++ [.heard name meaning.lastSignal]) .spent :=
    hsettled
  obtain ⟨next, more, hleads, hlistensNext, hnext, htally⟩ :=
    settle_calls hfeed orders hlistensMiddle (hfeed.aside hspent haside) htallyMiddle rfl
  rw [foldl_after_spent] at hnext htally
  rw [List.append_assoc] at hlistensNext htally
  exact ⟨next, _, (Agenda.Leads.only hhear).trans hleads, hlistensNext, .inr ⟨hnext, htally⟩⟩

/-- A feed that was cancelled while a signal was heard comes to rest. -/
theorem settle_muted (hfeed : Conduct 0 0 link (.probe start.probes.length) meaning stands)
    (hscript : IsOwnScript name react)
    (hlistens : Listens start name react link network events) (hmuted : stands network (.muted rest))
    (hcut : Cut meaning initial events) :
    ∃ next more, Agenda.Leads perform ⟨network, rest⟩ ⟨next, []⟩ ∧
      Rests start name react link meaning initial stands next (events ++ more) := by
  obtain ⟨middle, hcase, hwithin, hspent⟩ := hfeed.hush hmuted
  obtain ⟨quiet, hquiet, hlistensMiddle⟩ := hlistens.within hwithin
  have hcutMiddle := hcut.append (heard_of_quiet hquiet)
  rcases hcase with hnothing | ⟨hnil, hdue⟩
  · exact ⟨middle, quiet, hnothing, hlistensMiddle, .inr ⟨hspent, hcutMiddle.settled⟩⟩
  · obtain ⟨next, more, hleads, hrests⟩ :=
      settle_last hfeed hscript hlistensMiddle hspent (hcutMiddle.last hnil)
    rw [List.append_assoc] at hrests
    exact ⟨next, _, hdue.trans hleads, hrests⟩

/-- A feed hands out items until nothing more is owed. -/
theorem settle_onward (hfeed : Conduct 0 0 link (.probe start.probes.length) meaning stands)
    (hscript : IsOwnScript name react)
    (hlistens : Listens start name react link network events)
    (hdue : Due meaning initial events left owed)
    (honward : Onward 0 0 (.probe start.probes.length) meaning.failure stands network tasks left
      owed) :
    ∃ next more, Agenda.Leads perform ⟨network, tasks⟩ ⟨next, []⟩ ∧
      Rests start name react link meaning initial stands next (events ++ more) := by
  induction left generalizing owed network events tasks with
  | nil =>
      obtain ⟨middle, hleads, hwithin, hspent⟩ := honward
      obtain ⟨quiet, hquiet, hlistensMiddle⟩ := hlistens.within hwithin
      obtain ⟨next, more, hmore, hrests⟩ :=
        settle_last hfeed hscript hlistensMiddle hspent (hdue.quiet hquiet).last
      rw [List.append_assoc] at hrests
      exact ⟨next, _, hleads.trans hmore, hrests⟩
  | cons x left ih =>
      rcases owed with _ | owed
      · obtain ⟨next, hleads, hwithin, hidle⟩ := honward
        obtain ⟨quiet, hquiet, hlistensNext⟩ := hlistens.within hwithin
        exact ⟨next, quiet, hleads, hlistensNext, .inl ⟨x, left, hidle, hdue.quiet hquiet⟩⟩
      · obtain ⟨given, rest, hleads, hwithin, hbusy⟩ := honward
        obtain ⟨quiet, hquiet, hlistensGiven⟩ := hlistens.within hwithin
        obtain ⟨heard, orders, hhear, haside, hlistensHeard⟩ :=
          hlistensGiven.hear hscript (.next x) (by simp)
        have htallyHeard : Tally meaning initial (events ++ quiet ++ [.heard name (.next x)])
            (.busy left owed rest) := (hdue.quiet hquiet).next
        obtain ⟨called, more, hcalls, hlistensCalled, hstands, htally⟩ :=
          settle_calls hfeed orders hlistensHeard (hfeed.aside hbusy haside) htallyHeard rfl
        have hbefore := hleads.trans
          ((Agenda.Leads.single hhear rest).trans (hcalls.append rest))
        -- The calls from inside the delivery have added to what is owed, or they have cancelled.
        rcases foldl_after_busy orders left owed rest with ⟨still, hstill⟩ | hmuted
        · rw [hstill] at hstands htally
          obtain ⟨next, last, hlast, hrests⟩ := ih hlistensCalled htally (hfeed.resume hstands)
          rw [List.append_assoc, List.append_assoc, List.append_assoc] at hrests
          exact ⟨next, _, hbefore.trans hlast, hrests⟩
        · rw [hmuted] at hstands htally
          obtain ⟨next, last, hlast, hrests⟩ :=
            settle_muted hfeed hscript hlistensCalled hstands htally
          rw [List.append_assoc, List.append_assoc, List.append_assoc] at hrests
          exact ⟨next, _, hbefore.trans hlast, hrests⟩

/-! ## Calls between the signals -/

/-- One call between the signals. -/
theorem settle_order (hfeed : Conduct 0 0 link (.probe start.probes.length) meaning stands)
    (hscript : IsOwnScript name react)
    (h : Rests start name react link meaning initial stands network events) (order : Order) :
    ∃ next more, Agenda.Leads perform ⟨network, [.act (.order name order)]⟩ ⟨next, []⟩ ∧
      Rests start name react link meaning initial stands next (events ++ more) := by
  rcases h.phase with ⟨x, left, hidle, hdue⟩ | ⟨hspent, hsettled⟩
  · cases order with
    | cancel =>
        have htally : Tally meaning initial events (.idle x left) := hdue
        obtain ⟨next, more, hleads, hlistens, hspent, hsettled⟩ :=
          settle_call hfeed h.listens hidle htally .cancel (fun _ => rfl)
        exact ⟨next, more, hleads, hlistens, .inr ⟨hspent, hsettled⟩⟩
    | request amount =>
        obtain ⟨called, hcall, hcalled, hlistensCalled⟩ := h.listens.call (.request amount)
        have hdueCalled := hdue.request name amount
        rw [Nat.zero_add] at hdueCalled
        obtain ⟨emitted, more, hleads, hrests⟩ :=
          settle_onward hfeed hscript hlistensCalled hdueCalled
            (hfeed.emit (hfeed.aside hidle hcalled) amount)
        obtain ⟨next, hret, hnext⟩ := hrests.ret hfeed (.order name (.request amount)) .done
        rw [List.append_assoc, List.append_assoc] at hnext
        exact ⟨next, _, .head hcall (hleads.done (.drop hret [])), hnext⟩
  · have htallySpent : Tally meaning initial events .spent := hsettled
    obtain ⟨next, more, hleads, hlistens, hnext, htally⟩ :=
      settle_call hfeed h.listens hspent htallySpent order (fun hidle => Bool.noConfusion hidle)
    have hsame : (Phase.spent : Phase α).after order = .spent := by cases order <;> rfl
    rw [hsame] at hnext htally
    exact ⟨next, more, hleads, hlistens, .inr ⟨hnext, htally⟩⟩

/-- The calls that a subscriber makes between its signals. -/
theorem settle_orders (hfeed : Conduct 0 0 link (.probe start.probes.length) meaning stands)
    (hscript : IsOwnScript name react)
    (h : Rests start name react link meaning initial stands network events)
    (orders : List Order) :
    ∃ next more, Agenda.Leads perform ⟨network, calls name orders⟩ ⟨next, []⟩ ∧
      Rests start name react link meaning initial stands next (events ++ more) := by
  induction orders generalizing network events with
  | nil => exact ⟨network, [], .refl _, by rwa [List.append_nil]⟩
  | cons order orders ih =>
      obtain ⟨middle, first, hleads, hmiddle⟩ := settle_order hfeed hscript h order
      obtain ⟨next, second, hmore, hnext⟩ := ih hmiddle
      rw [List.append_assoc] at hnext
      exact ⟨next, first ++ second, hleads.done hmore, hnext⟩

/-! ## The subscription -/

/-- The tasks of a subscription that was heard: the initial demand, the reactions to it, and what
the feed still has to do. -/
theorem settle_subscription
    (hfeed : Conduct 0 0 link (.probe start.probes.length) meaning stands)
    (hscript : IsOwnScript name react)
    (hlistens : Listens start name react link network events)
    (hopens : Opens stands network meaning.items rest)
    (hdue : Due meaning initial events meaning.items initial.toNat) (orders : List Order) :
    ∃ next more, Agenda.Leads perform ⟨network,
        (if initial = 0 then [] else [.order link (.request initial)]) ++
          (calls name orders ++ rest)⟩ ⟨next, []⟩ ∧
      Rests start name react link meaning initial stands next (events ++ more) := by
  generalize hitems : meaning.items = items at hopens hdue
  cases hopens with
  | @idle x left hidle =>
      -- The feed goes on inside the request, so that the reactions come when it is at rest.
      have honward := (Opens.idle hidle).start hfeed initial
      rw [List.append_nil] at honward
      obtain ⟨middle, first, hleads, hmiddle⟩ :=
        settle_onward hfeed hscript hlistens hdue honward
      obtain ⟨next, second, hmore, hnext⟩ := settle_orders hfeed hscript hmiddle orders
      rw [List.append_assoc] at hnext
      rw [List.append_nil]
      exact ⟨next, _, hleads.allDone hmore, hnext⟩
  | @busy left rest hbusy =>
      -- The feed goes on when the subscriber has heard of its subscription.
      obtain ⟨asked, hasked, hwithin, hstands⟩ : ∃ next, Agenda.Leads perform
            ⟨network, if initial = 0 then [] else [.order link (.request initial)]⟩ ⟨next, []⟩ ∧
          Within 0 0 network next ∧ stands next (.busy items initial.toNat rest) := by
        split
        next hzero => exact ⟨network, .refl _, .refl _ _ _, by rw [hzero]; exact hbusy⟩
        next =>
          have habsorb := hfeed.absorb hbusy (.request initial) (fun h => Bool.noConfusion h)
          rw [Phase.after, Nat.zero_add] at habsorb
          exact habsorb
      obtain ⟨quiet, hquiet, hlistensAsked⟩ := hlistens.within hwithin
      have htallyAsked : Tally meaning initial (events ++ quiet) (.busy items initial.toNat rest) :=
        hdue.quiet hquiet
      obtain ⟨called, more, hcalls, hlistensCalled, hstandsCalled, htally⟩ :=
        settle_calls hfeed orders hlistensAsked hstands htallyAsked rfl
      have hbefore := hasked.allDone (hcalls.append rest)
      rcases foldl_after_busy orders items initial.toNat rest with ⟨still, hstill⟩ | hmuted
      · rw [hstill] at hstandsCalled htally
        obtain ⟨next, last, hlast, hrests⟩ :=
          settle_onward hfeed hscript hlistensCalled htally (hfeed.resume hstandsCalled)
        rw [List.append_assoc, List.append_assoc] at hrests
        exact ⟨next, _, hbefore.trans hlast, hrests⟩
      · rw [hmuted] at hstandsCalled htally
        obtain ⟨next, last, hlast, hrests⟩ :=
          settle_muted hfeed hscript hlistensCalled hstandsCalled htally
        rw [List.append_assoc, List.append_assoc] at hrests
        exact ⟨next, _, hbefore.trans hlast, hrests⟩

/-- A new subscriber hears of its subscription: it issues its initial demand and reacts. -/
theorem hear_subscription {opened : Network α}
    (hprobes : opened.probes =
      start.probes ++ [({ name, initial, react } : Probe α Link (Action α))])
    (htrace : opened.trace = start.trace ++ events) (hunheard : heard events = [])
    (hscript : IsOwnScript name react) (link : Link) :
    ∃ next orders, perform (.signal (.probe start.probes.length) (.subscribe link)) opened =
        (next, (if initial = 0 then [] else [.order link (.request initial)]) ++
          calls name orders) ∧
      Aside 0 0 opened next ∧
      Listens start name react link next (events ++ [.heard name .subscribe]) := by
  obtain ⟨orders, horders⟩ := hscript .subscribe 0
  let probe : Probe α Link (Action α) := { name, initial, react }
  have hanswer : probe.answer (.subscribe link) = orders.map (.order name) := horders
  have hopening : (probe.opening (.subscribe link)).toList.map
      (fun call => (Task.order call.1 call.2 : Task α)) =
      if initial = 0 then [] else [.order link (.request initial)] := by
    simp only [Probe.opening, probe]
    split <;> rfl
  refine ⟨({ opened with
      probes := opened.probes.set start.probes.length (probe.hear (.subscribe link)) }).log
        (.heard name .subscribe), orders, ?_, ⟨rfl, fun _ _ => rfl, fun _ _ => rfl,
    Nat.le_refl _⟩, ?_, probe.hear (.subscribe link), ?_, rfl, rfl, rfl, ?_⟩
  · simp only [perform, deliver, hearProbe]
    rw [hprobes, List.getElem?_concat_length]
    show (_, (probe.opening (.subscribe link)).toList.map _ ++
      (probe.answer (.subscribe link)).map _) = _
    rw [hopening, hanswer, calls, List.map_map]
    rfl
  · simp [log, htrace]
  · simp [log, hprobes]
  · rw [heard_append, hunheard]
    rfl

/-- A subscriber of an expression with a meaning hears that meaning, as far as it asks for it. -/
theorem delivers_of_meaning (network : Network α) (name : String)
    {publisher : Publisher α (Action α)} {meaning : Meaning α}
    (hmeaning : publisher.meaning = some meaning) (hsize : publisher.largestSupply < 2 ^ 63)
    (initial : UInt64) {react : Reaction (Action α)} (hscript : IsOwnScript name react)
    (orders : List Order) :
    ∃ final events probe, Agenda.Settles perform network
        (.act (.subscribe name publisher initial react) :: calls name orders) final ∧
      final.trace = network.trace ++ events ∧ final.probes = network.probes ++ [probe] ∧
      probe.name = name ∧ probe.history = heard events ∧ Delivers meaning initial events := by
  let action : Action α := .subscribe name publisher initial react
  let made : Network α :=
    { network.log (.called action) with probes := network.probes ++ [{ name, initial, react }] }
  have hmade : perform (.act action) network =
      (made, [.subscribe publisher (.probe network.probes.length), .ret action .done]) := by
    obtain ⟨hmention, hresolve⟩ := plain_of_meaning hmeaning (network.log (.called action))
    simp only [perform, action, begin, hmention, hresolve]
    rfl
  obtain ⟨opened, link, rest, stands, hfeed, hleads, hwithin, hopens⟩ :=
    follows_meaning publisher hmeaning (Nat.le_of_lt_succ hsize) made
      (.probe network.probes.length) 0 0 (Nat.zero_le _) (Nat.zero_le _)
  obtain ⟨recovering, htrace, hrecovering⟩ := hwithin.trace
  have hquiet : ∀ event ∈ .called action :: recovering, Happening.isQuiet event := by
    intro event hevent
    rcases List.mem_cons.1 hevent with rfl | hlater
    · exact ⟨rfl, rfl, rfl⟩
    · exact isQuiet_of_isRecovering (hrecovering event hlater)
  have hopenedTrace : opened.trace = network.trace ++ (.called action :: recovering) := by
    simp [htrace, made, log]
  obtain ⟨heardAt, reactions, hhear, haside, hlistens⟩ :=
    hear_subscription hwithin.probes hopenedTrace (heard_of_quiet hquiet) hscript link
  have hcalm := append_of_calm (asked_of_quiet hquiet).1 [.heard name .subscribe]
  have hdue : Due meaning initial (.called action :: recovering ++ [.heard name .subscribe])
      meaning.items initial.toNat := by
    refine ⟨hcalm.2, [], rfl, ?_, ?_⟩
    · rw [heard_append, heard_of_quiet hquiet]
      rfl
    · have hasked : asked [(.heard name .subscribe : Happening α)] = 0 := rfl
      rw [demand_append (asked_of_quiet hquiet).1, demand, (asked_of_quiet hquiet).2, hasked,
        List.length_nil, Nat.zero_add]
      rfl
  obtain ⟨settled, first, hsettle, hrests⟩ :=
    settle_subscription hfeed hscript hlistens
      (hopens.aside hfeed haside) hdue reactions
  obtain ⟨returned, hret, hreturned⟩ := hrests.ret hfeed action .done
  obtain ⟨final, last, horders, hfinal⟩ := settle_orders hfeed hscript hreturned orders
  obtain ⟨probe, hprobes, hname, -, -, hhistory⟩ := hfinal.listens.probe
  refine ⟨final, _, probe, ?_, hfinal.listens.trace, hprobes, hname, hhistory, hfinal.delivers⟩
  have hsubscribe : Agenda.Leads perform
      ⟨made, [.subscribe publisher (.probe network.probes.length)]⟩ ⟨settled, []⟩ := by
    have hheard := Agenda.Leads.single hhear rest
    rw [List.append_assoc] at hheard
    exact hleads.trans (hheard.trans hsettle)
  exact Agenda.Leads.settles (.head hmade (hsubscribe.done (.done (.drop hret []) horders)))

/-- Whatever a subscriber of a plain expression asks for, and whenever it does, it hears the items
of the meaning of that expression in order, as many as it has asked for, and the terminal signal
directly after the last one, until it cancels. -/
theorem delivers_meaning (network : Network α) (name : String)
    {publisher : Publisher α (Action α)} (hplain : publisher.IsPlain)
    (hsize : publisher.largestSupply < 2 ^ 63) (initial : UInt64)
    {react : Reaction (Action α)} (hscript : IsOwnScript name react) (orders : List Order) :
    ∃ meaning, publisher.meaning = some meaning ∧ ∃ final events probe,
      Agenda.Settles perform network
        (.act (.subscribe name publisher initial react) :: calls name orders) final ∧
      final.trace = network.trace ++ events ∧ final.probes = network.probes ++ [probe] ∧
      probe.name = name ∧ probe.history = heard events ∧ Delivers meaning initial events := by
  obtain ⟨meaning, hmeaning⟩ := publisher.exists_meaning hplain
  exact ⟨meaning, hmeaning,
    delivers_of_meaning network name hmeaning hsize initial hscript orders⟩

/-- A source fails, the recovery from that fails too, and the last two items of a second recovery
are the causes of the failure that it is asked about. The subscriber asks for one item on
subscription and for another one from inside the first, and later for more. -/
theorem delivers_meaning_of_recovered_items :
    let publisher : Publisher Failure (Action Failure) :=
      .resume none (fun failure => .to (.takeLast 2 true (.ofList (failure :: failure.causes))))
        (.resume none (fun _ => .error (.stream "again")) (.fail (.stream "down")))
    let react : Reaction (Action Failure) :=
      Rule.reaction [{ on := .next, actions := [.order "probe" (.request 1)] }]
    publisher.IsPlain ∧ publisher.largestSupply < 2 ^ 63 ∧ IsOwnScript "probe" react ∧
      ∃ final events probe,
        Agenda.Settles perform {} (.act (.subscribe "probe" publisher 1 react) ::
          calls "probe" [.request 5]) final ∧
        final.trace = [] ++ events ∧ final.probes = [] ++ [probe] ∧ probe.name = "probe" ∧
        probe.history = heard events ∧
        Delivers { items := [.stream "down", .stream "again"] } 1 events := by
  intro publisher react
  have hplain : publisher.IsPlain := ⟨⟨trivial, fun _ => trivial⟩, fun _ => trivial⟩
  have hsize : publisher.largestSupply < 2 ^ 63 := by decide
  have hscript : IsOwnScript "probe" react := by
    apply isOwnScript_reaction
    intro rule hrule
    obtain rfl := List.mem_singleton.1 hrule
    exact ⟨[.request 1], rfl⟩
  obtain ⟨meaning, hmeaning, hdelivers⟩ :=
    delivers_meaning {} "probe" hplain hsize 1 hscript [.request 5]
  have hvalues : meaning = { items := [.stream "down", .stream "again"] } :=
    Option.some.inj (hmeaning.symm.trans rfl)
  subst hvalues
  exact ⟨hplain, hsize, hscript, hdelivers⟩

end Backpressure.Network
