import Backpressure.Proofs.Pipeline.Conduct

/-!
# The conduct of a resumption

A resumption forwards one feed, which is the first one, or the second one after the first has
failed. A feed that fails has no items here, so that the demand that waits for a feed to be bound is
all the demand there is, and the second feed is issued what the receiver has asked for. That a
feed is owed less than the receiver asked for makes no difference as long as it is owed all its
items.

Main results:

- Theorem `onward_relay` forwards what a feed does.
- Theorem `onward_recover` subscribes what a recovery gives, or ends with both failures.
- Theorem `conduct_resumption` is the conduct of a resumption, and theorem `follows_resume` the
  meaning of its expression.
-/

namespace Backpressure.Network

variable {α : Type} {network next : Network α} {index windows resumptions : Nat}
  {receiver : Receiver} {recover : Failure → Recovery α (Action α)} {unit : Resumption Link}

/-! ## A resumption in its place -/

/-- Only the resumption at an index changed between two networks, and questions to recoveries may
have been recorded. -/
structure OnlyResumption (index : Nat) (network next : Network α) : Prop where
  source : next.sources = network.sources
  window : next.windows = network.windows
  resumption : ∀ other, other ≠ index → next.resumptions[other]? = network.resumptions[other]?
  probes : next.probes = network.probes
  outlets : next.outlets = network.outlets
  streams : next.streams = network.streams
  hands : next.hands = network.hands
  deferreds : next.deferreds = network.deferreds
  trace : ∃ events, next.trace = network.trace ++ events ∧
    ∀ event ∈ events, isRecovering event = true

/-- What changes one resumption concerns no unit from an earlier place. -/
theorem OnlyResumption.within (h : OnlyResumption index network next)
    (hle : resumptions ≤ index) : Within windows resumptions network next where
  window := fun _ _ => by rw [h.window]
  resumption := fun other hother =>
    h.resumption other (Nat.ne_of_lt (Nat.lt_of_lt_of_le hother hle))
  probes := h.probes
  outlets := h.outlets
  streams := h.streams
  trace := h.trace
  windows_length := Nat.le_of_eq (congrArg List.length h.window).symm

/-- What changes one resumption concerns no unit from a later place. -/
theorem OnlyResumption.aside (h : OnlyResumption index network next) :
    Aside windows (index + 1) network next where
  source := h.source
  window := fun _ _ => by rw [h.window]
  resumption := fun other hother => h.resumption other (Nat.ne_of_gt hother)
  windows_length := Nat.le_of_eq (congrArg List.length h.window).symm

/-- A resumption is in its place above a receiver. -/
def ResumptionAt (network : Network α) (index : Nat) (receiver : Receiver)
    (recover : Failure → Recovery α (Action α)) (unit : Resumption Link) : Prop :=
  ∃ stage, network.resumptions[index]? = some stage ∧ stage.below = receiver ∧
    stage.recover = recover ∧ stage.unit = unit

/-- What happens above a resumption does not concern it. -/
theorem ResumptionAt.within (h : ResumptionAt network index receiver recover unit)
    (hwithin : Within windows (index + 1) network next) :
    ResumptionAt next index receiver recover unit := by
  obtain ⟨stage, hstage, hrest⟩ := h
  exact ⟨stage, by rw [hwithin.resumption index (Nat.lt_succ_self index), hstage], hrest⟩

/-- What happens below a resumption does not concern it. -/
theorem ResumptionAt.aside (h : ResumptionAt network index receiver recover unit)
    (haside : Aside windows resumptions network next) (hle : resumptions ≤ index) :
    ResumptionAt next index receiver recover unit := by
  obtain ⟨stage, hstage, hrest⟩ := h
  exact ⟨stage, by rw [haside.resumption index hle, hstage], hrest⟩

/-- A resumption stands in front of the end of the list of resumptions. -/
theorem ResumptionAt.lt_length (h : ResumptionAt network index receiver recover unit) :
    index < network.resumptions.length := by
  obtain ⟨stage, hstage, -⟩ := h
  exact (List.getElem?_eq_some_iff.1 hstage).1

/-- What a resumption does in its place. -/
theorem ResumptionAt.change (h : ResumptionAt network index receiver recover unit)
    {f : Resumption Link → Resumption Link × List (Effect α Link (Resumption.Work Link))}
    {changed : Resumption Link} {effects : List (Effect α Link (Resumption.Work Link))}
    (hf : f unit = (changed, effects)) :
    ∃ next, network.onResumption index f =
        (next, effects.map (taskOf receiver (.resumption index))) ∧
      OnlyResumption index network next ∧
      ResumptionAt next index receiver recover changed := by
  obtain ⟨stage, hstage, rfl, rfl, rfl⟩ := h
  obtain ⟨hlt, -⟩ := List.getElem?_eq_some_iff.1 hstage
  refine ⟨{ network with
      resumptions := network.resumptions.set index { stage with unit := changed } },
    by simp [onResumption, hstage, hf], ?_, ?_⟩
  · exact {
      source := rfl
      window := rfl
      resumption := fun other hother => List.getElem?_set_ne (Ne.symm hother)
      probes := rfl
      outlets := rfl
      streams := rfl
      hands := rfl
      deferreds := rfl
      trace := ⟨[], (List.append_nil _).symm, fun _ h => (List.not_mem_nil h).elim⟩ }
  · exact ⟨{ stage with unit := changed }, List.getElem?_set_self hlt, rfl, rfl, rfl⟩

/-- A resumption hears a signal. -/
theorem ResumptionAt.hear (h : ResumptionAt network index receiver recover unit)
    (delivery : Delivery α Link) {changed : Resumption Link}
    {effects : List (Effect α Link (Resumption.Work Link))}
    (hhear : unit.hear (.switch index) delivery = (changed, effects)) :
    ∃ next, perform (.signal (.resumption index) delivery) network =
        (next, effects.map (taskOf receiver (.resumption index))) ∧
      OnlyResumption index network next ∧
      ResumptionAt next index receiver recover changed :=
  h.change (f := (·.hear (.switch index) delivery)) hhear

/-- A resumption takes a call. -/
theorem ResumptionAt.take (h : ResumptionAt network index receiver recover unit) (order : Order)
    {changed : Resumption Link} {effects : List (Effect α Link (Resumption.Work Link))}
    (htake : unit.take order = (changed, effects)) :
    ∃ next, perform (.order (.switch index) order) network =
        (next, effects.map (taskOf receiver (.resumption index))) ∧
      OnlyResumption index network next ∧
      ResumptionAt next index receiver recover changed :=
  h.change (f := (·.take order)) htake

/-- A resumption binds a feed. -/
theorem ResumptionAt.bind (h : ResumptionAt network index receiver recover unit) {link : Link}
    {changed : Resumption Link} {effects : List (Effect α Link (Resumption.Work Link))}
    (hbind : unit.bind link = (changed, effects)) :
    ∃ next, perform (.resumption index (.bind link)) network =
        (next, effects.map (taskOf receiver (.resumption index))) ∧
      OnlyResumption index network next ∧
      ResumptionAt next index receiver recover changed :=
  h.change (f := (·.bind link)) hbind

/-- A resumption counts a delivery. -/
theorem ResumptionAt.count (h : ResumptionAt network index receiver recover unit) :
    ∃ next, perform (.resumption index .count) network = (next, []) ∧
      OnlyResumption index network next ∧
      ResumptionAt next index receiver recover unit.count :=
  h.change (f := fun unit => (unit.count, [])) rfl

/-- A resumption asks its recovery. -/
theorem ResumptionAt.ask (h : ResumptionAt network index receiver recover unit)
    (failure : Failure) :
    ∃ next, perform (.resumption index (.recover failure)) network =
        (next, [.recover index failure (recover failure)]) ∧
      OnlyResumption index network next ∧
      ResumptionAt next index receiver recover unit := by
  obtain ⟨stage, hstage, rfl, rfl, rfl⟩ := h
  refine ⟨network.log (.recovering stage.tag failure), by simp [perform, resume, hstage], ?_, ?_⟩
  · exact {
      source := rfl
      window := rfl
      resumption := fun _ _ => rfl
      probes := rfl
      outlets := rfl
      streams := rfl
      hands := rfl
      deferreds := rfl
      trace := ⟨_, rfl, fun event hevent => by rw [List.mem_singleton.1 hevent]; rfl⟩ }
  · exact ⟨stage, hstage, rfl, rfl, rfl⟩

/-- A recovery that fails ends the pipeline with both failures. -/
theorem ResumptionAt.follow_fails (h : ResumptionAt network index receiver recover unit)
    {recovery : Recovery α (Action α)} {second : Failure}
    (hfails : recovery.failure? = some second) (failure : Failure) :
    perform (.recover index failure recovery) network =
      (network, [.signal receiver (.error (.composite [failure, second]))]) := by
  obtain ⟨stage, hstage, rfl, -, -⟩ := h
  rcases recovery with publisher | _ | second | message | ⟨actions, following⟩
  · simp [Recovery.failure?] at hfails
  · simp [perform, follow, hstage, hfails, Failure.join]
  · simp [perform, follow, hstage, hfails, Failure.join]
  · simp [perform, follow, hstage, hfails, Failure.join]
  · simp [Recovery.failure?] at hfails

/-! ## Phases -/

/-- What follows a failure has a meaning: that of the publisher that is subscribed, or that of the
failure together with the one of the recovery. -/
inductive Recovers (failure : Failure) : Recovery α (Action α) → Meaning α → Prop where
  | subscribes {publisher : Publisher α (Action α)} {meaning : Meaning α}
      (plain : ∀ network : Network α,
        network.mention publisher = network ∧ network.resolve publisher = publisher)
      (follows : Follows publisher meaning) : Recovers failure (.to publisher) meaning
  | fails {recovery : Recovery α (Action α)} {second : Failure}
      (h : recovery.failure? = some second) :
      Recovers failure recovery (.failing failure second)

/-- What a resumption makes of the meaning of its first feed. -/
def Resumes (recover : Failure → Recovery α (Action α)) (first total : Meaning α) : Prop :=
  match first.failure with
  | none => total = first
  | some failure => first.items = [] ∧ Recovers failure (recover failure) total

/-- A resumption forwards a feed that ends in a given way. -/
structure Bound (unit : Resumption Link) (link : Link) (ending : Option Failure) : Prop where
  current : unit.switch.current = some link
  active : unit.switch.cancelled = false
  forwards : ending.isSome = true → unit.resumed = true

/-- Counting a delivery leaves the feed bound. -/
theorem Bound.count {link : Link} {ending : Option Failure} (h : Bound unit link ending) :
    Bound unit.count link ending := by
  unfold Resumption.count
  split
  · exact h
  · exact ⟨h.current, h.active, h.forwards⟩

/-- No feed was bound yet, and so much was asked for. -/
structure Unbound (unit : Resumption Link) (owed : Nat) : Prop where
  current : unit.switch.current = none
  active : unit.switch.cancelled = false
  first : unit.resumed = false
  outstanding : unit.switch.outstanding.toNat = min owed Demand.unbounded.toNat

/-- How a resumption stands towards its receiver, given the meaning of its first feed and its
own. -/
inductive ResumptionStands (windows index : Nat) (receiver : Receiver)
    (recover : Failure → Recovery α (Action α)) (first total : Meaning α) :
    Network α → Phase α → Prop where
  /-- The receiver hears of its subscription, and the first feed is not bound yet. -/
  | opening {network : Network α} {unit : Resumption Link} {owed : Nat} {rest : List (Task α)}
      {link : Link} {feeds : Network α → Phase α → Prop}
      (seat : ResumptionAt network index receiver recover unit) (unbound : Unbound unit owed)
      (feed : Conduct windows (index + 1) link (.resumption index) first feeds)
      (opens : Opens feeds network first.items rest) (room : windows ≤ network.windows.length) :
      ResumptionStands windows index receiver recover first total network
        (.busy total.items owed (.resumption index (.bind link) :: rest))
  /-- The receiver hears an item of the feed that is bound. -/
  | relaying {network : Network α} {unit : Resumption Link} {left : List α} {given owed : Nat}
      {rest : List (Task α)} {link : Link} {feeds : Network α → Phase α → Prop}
      (seat : ResumptionAt network index receiver recover unit)
      (bound : Bound unit link total.failure)
      (feed : Conduct windows (index + 1) link (.resumption index) total feeds)
      (stands : feeds network (.busy left given rest))
      (enough : min left.length given = min left.length owed) :
      ResumptionStands windows index receiver recover first total network
        (.busy left owed (.resumption index .count :: rest))
  /-- The feed that is bound waits for a request. -/
  | waiting {network : Network α} {unit : Resumption Link} {x : α} {left : List α} {link : Link}
      {feeds : Network α → Phase α → Prop}
      (seat : ResumptionAt network index receiver recover unit)
      (bound : Bound unit link total.failure)
      (feed : Conduct windows (index + 1) link (.resumption index) total feeds)
      (stands : feeds network (.idle x left)) :
      ResumptionStands windows index receiver recover first total network (.idle x left)
  /-- The resumption was cancelled before the first feed is bound. -/
  | closing {network : Network α} {unit : Resumption Link} {rest : List (Task α)} {link : Link}
      {feeds : Network α → Phase α → Prop}
      (seat : ResumptionAt network index receiver recover unit)
      (cancelled : unit.switch.cancelled = true) (unresumed : unit.resumed = false)
      (feed : Conduct windows (index + 1) link (.resumption index) first feeds)
      (opens : Opens feeds network first.items rest) (room : windows ≤ network.windows.length) :
      ResumptionStands windows index receiver recover first total network
        (.muted (.resumption index (.bind link) :: rest))
  /-- The resumption was cancelled while the receiver hears an item. -/
  | stopping {network : Network α} {unit : Resumption Link}
      {rest : List (Task α)} {link : Link} {feeds : Network α → Phase α → Prop}
      (seat : ResumptionAt network index receiver recover unit)
      (cancelled : unit.switch.cancelled = true)
      (forwards : total.failure.isSome = true → unit.resumed = true)
      (feed : Conduct windows (index + 1) link (.resumption index) total feeds)
      (stands : feeds network (.muted rest)) :
      ResumptionStands windows index receiver recover first total network
        (.muted (.resumption index .count :: rest))
  /-- Nothing is left to be signalled. -/
  | spent {network : Network α} {unit : Resumption Link}
      (seat : ResumptionAt network index receiver recover unit)
      (quiet : unit.switch.cancelled = true ∨
        ∃ link meaning feeds, unit.switch.current = some link ∧
          Conduct windows (index + 1) link (.resumption index) meaning feeds ∧
          feeds network .spent) :
      ResumptionStands windows index receiver recover first total network .spent

variable {first total meaning : Meaning α} {link : Link} {feeds : Network α → Phase α → Prop}
  {left : List α} {owed given : Nat} {tasks rest : List (Task α)}

/-! ## Forwarding -/

/-- The end of a feed that is not recovered from is forwarded. -/
theorem ResumptionAt.forward (h : ResumptionAt network index receiver recover unit)
    (ending : Option Failure) (hforwards : ending.isSome = true → unit.resumed = true) :
    ∃ next, perform (.signal (.resumption index) (lastDelivery ending)) network =
        (next, [.signal receiver (lastDelivery ending)]) ∧
      OnlyResumption index network next ∧ ResumptionAt next index receiver recover unit := by
  rcases ending with _ | failure
  · exact h.hear .complete rfl
  · exact h.hear _ (Resumption.hear_error_resumed _ (hforwards rfl) failure)

/-- What a feed does is forwarded. -/
theorem onward_relay
    (hfeed : Conduct windows (index + 1) link (.resumption index) total feeds)
    (hle : resumptions ≤ index) (seat : ResumptionAt network index receiver recover unit)
    (bound : Bound unit link total.failure)
    (honward : Onward windows (index + 1) (.resumption index) total.failure feeds network tasks
      left given)
    (enough : min left.length given = min left.length owed) :
    Onward windows resumptions receiver total.failure
      (ResumptionStands windows index receiver recover first total) network tasks left owed := by
  have hmono : ∀ {network next : Network α}, Within windows (index + 1) network next →
      Within windows resumptions network next :=
    fun h => h.mono (Nat.le_refl _) (Nat.le_succ_of_le hle)
  rcases left with _ | ⟨x, left⟩
  · obtain ⟨middle, hleads, hwithin, hspent⟩ := honward
    obtain ⟨next, hperform, honly, hseat⟩ := (seat.within hwithin).forward _ bound.forwards
    exact ⟨next, hleads.trans (.only hperform), (hmono hwithin).trans (honly.within hle),
      .spent hseat (.inr ⟨link, _, feeds, bound.current, hfeed, hfeed.aside hspent honly.aside⟩)⟩
  rw [List.length_cons] at enough
  rcases owed with _ | owed
  · obtain rfl : given = 0 := by omega
    obtain ⟨next, hleads, hwithin, hidle⟩ := honward
    exact ⟨next, hleads, hmono hwithin, .waiting (seat.within hwithin) bound hfeed hidle⟩
  · obtain ⟨given, rfl⟩ : ∃ less, given = less + 1 :=
      Nat.exists_eq_succ_of_ne_zero (by omega)
    obtain ⟨middle, rest, hleads, hwithin, hbusy⟩ := honward
    obtain ⟨next, hperform, honly, hseat⟩ :=
      (seat.within hwithin).hear (.next x) rfl
    exact ⟨next, _, hleads.trans (.single hperform rest), (hmono hwithin).trans (honly.within hle),
      .relaying hseat bound hfeed (hfeed.aside hbusy honly.aside) (by omega)⟩

/-! ## Binding -/

/-- A feed that is bound is issued the demand that waits. -/
theorem ResumptionAt.bind_active (h : ResumptionAt network index receiver recover unit)
    (hactive : unit.switch.cancelled = false) (link : Link) :
    ∃ next, perform (.resumption index (.bind link)) network =
        (next, if unit.switch.outstanding = 0 then []
          else [.order link (.request unit.switch.outstanding)]) ∧
      OnlyResumption index network next ∧
      ResumptionAt next index receiver recover
        { unit with switch := { unit.switch with current := some link } } := by
  have hbind : unit.bind (α := α) link =
      ({ unit with switch := { unit.switch with current := some link } },
        if unit.switch.outstanding = 0 then []
        else [.order link (.request unit.switch.outstanding)]) := by
    rw [Resumption.bind, Resumption.call, Switch.bind, if_neg (by simp [hactive])]
    split <;> rfl
  obtain ⟨next, hperform, honly, hseat⟩ := h.bind hbind
  refine ⟨next, hperform.trans ?_, honly, hseat⟩
  split <;> rfl

/-- A feed that is bound goes on with what was asked for. -/
theorem onward_bind
    (hfeed : Conduct windows (index + 1) link (.resumption index) total feeds)
    (hle : resumptions ≤ index) (seat : ResumptionAt network index receiver recover unit)
    (hactive : unit.switch.cancelled = false)
    (hforwards : total.failure.isSome = true → unit.resumed = true)
    (houtstanding : unit.switch.outstanding.toNat = min owed Demand.unbounded.toNat)
    (opens : Opens feeds network total.items rest)
    (hroom : total.items.length ≤ Demand.unbounded.toNat) :
    Onward windows resumptions receiver total.failure
      (ResumptionStands windows index receiver recover first total) network
      (.resumption index (.bind link) :: rest) total.items owed := by
  obtain ⟨next, hperform, honly, hseat⟩ := seat.bind_active hactive link
  have honward := (opens.aside hfeed honly.aside).start hfeed unit.switch.outstanding
  exact (onward_relay hfeed hle hseat ⟨rfl, hactive, hforwards⟩ honward (by omega)).of_leads
    (.single hperform rest) (honly.within hle)

/-- What follows a failure of the first feed. -/
theorem onward_recover {failure : Failure} {recovery : Recovery α (Action α)}
    (hrecovers : Recovers failure recovery total) (hle : resumptions ≤ index)
    (hwindows : windows ≤ network.windows.length)
    (seat : ResumptionAt network index receiver recover unit)
    (hactive : unit.switch.cancelled = false) (hresumed : unit.resumed = true)
    (houtstanding : unit.switch.outstanding.toNat = min owed Demand.unbounded.toNat)
    (hspent : ResumptionStands windows index receiver recover first total network .spent)
    (hroom : total.items.length ≤ Demand.unbounded.toNat) :
    Onward windows resumptions receiver total.failure
      (ResumptionStands windows index receiver recover first total) network
      [.recover index failure recovery] total.items owed := by
  cases hrecovers with
  | @subscribes publisher _ plain follows =>
      have hfollow : perform (.recover index failure (.to publisher)) network =
          (network, [.subscribe publisher (.resumption index)]) := by
        simp only [perform, follow, (plain network).1, (plain network).2]
      obtain ⟨fed, link, rest, feeds, hfeed, hleads, hwithin, hopens⟩ :=
        follows network (.resumption index) windows (index + 1) hwindows seat.lt_length
      have hhear : unit.hear (α := α) (.switch index) (.subscribe link) =
          (unit, [.go (.bind link)]) := by
        simp [Resumption.hear, hresumed]
      obtain ⟨next, hperform, honly, hseat⟩ := (seat.within hwithin).hear _ hhear
      exact (onward_bind hfeed hle hseat hactive (fun _ => hresumed) houtstanding
        (hopens.aside hfeed honly.aside) hroom).of_leads
          ((Agenda.Leads.head hfollow hleads).trans (.single hperform rest))
          ((hwithin.mono (Nat.le_refl _) (Nat.le_succ_of_le hle)).trans (honly.within hle))
  | @fails _ second h =>
      exact ⟨network, .only (seat.follow_fails h failure), .refl _ _ _, hspent⟩

/-- A first feed that is bound is forwarded, or fails at once and is recovered from. -/
theorem onward_opening (hresumes : Resumes recover first total) (hle : resumptions ≤ index)
    (seat : ResumptionAt network index receiver recover unit) (unbound : Unbound unit owed)
    (hfeed : Conduct windows (index + 1) link (.resumption index) first feeds)
    (opens : Opens feeds network first.items rest) (hwindows : windows ≤ network.windows.length)
    (hroom : total.items.length ≤ Demand.unbounded.toNat) :
    Onward windows resumptions receiver total.failure
      (ResumptionStands windows index receiver recover first total) network
      (.resumption index (.bind link) :: rest) total.items owed := by
  rcases first with ⟨items, _ | failure⟩
  · obtain rfl : total = { items } := hresumes
    exact onward_bind hfeed hle seat unbound.active (fun hsome => Bool.noConfusion hsome)
      unbound.outstanding opens hroom
  · obtain ⟨hnil, hrecovers⟩ := hresumes
    obtain rfl : items = [] := hnil
    obtain ⟨bound, hbind, honlyBound, hseatBound⟩ := seat.bind_active unbound.active link
    obtain ⟨failed, hleads, hwithin, hspent⟩ :=
      (opens.aside hfeed honlyBound.aside).start hfeed unit.switch.outstanding
    have hhear : Resumption.hear (α := α) (.switch index)
        { unit with switch := { unit.switch with current := some link } } (.error failure) =
        ({ unit with switch := { unit.switch with current := some link }, resumed := true },
          [.go (.recover failure)]) := by
      simp [Resumption.hear, unbound.first]
    obtain ⟨heard, hheard, honlyHeard, hseatHeard⟩ := (hseatBound.within hwithin).hear _ hhear
    obtain ⟨asked, hasked, honlyAsked, hseatAsked⟩ := hseatHeard.ask failure
    have hbefore : Within windows resumptions network asked :=
      ((honlyBound.within hle).trans
        (hwithin.mono (Nat.le_refl _) (Nat.le_succ_of_le hle))).trans
        ((honlyHeard.within hle).trans (honlyAsked.within hle))
    refine (onward_recover hrecovers hle (Nat.le_trans hwindows hbefore.windows_length) hseatAsked
      unbound.active rfl unbound.outstanding (.spent hseatAsked (.inr ⟨link, _, feeds, rfl, hfeed,
        hfeed.aside (hfeed.aside hspent honlyHeard.aside) honlyAsked.aside⟩)) hroom).of_leads
        ?_ hbefore
    exact (Agenda.Leads.single hbind rest).trans (hleads.trans (.head hheard (.only hasked)))

/-! ## Calls -/

/-- A resumption that was cancelled ignores every call. -/
theorem ResumptionAt.take_cancelled (h : ResumptionAt network index receiver recover unit)
    (hcancelled : unit.switch.cancelled = true) (order : Order) :
    ∃ next, perform (.order (.switch index) order) network = (next, []) ∧
      OnlyResumption index network next ∧ ResumptionAt next index receiver recover unit := by
  have htake : unit.take (α := α) order = (unit, []) := by
    cases order <;>
      simp [Resumption.take, Resumption.call, Switch.take, Switch.request, Switch.cancel,
        hcancelled]
  exact h.take _ htake

/-- A request for nothing changes nothing about how a feed stands. -/
theorem Phase.after_request_zero (phase : Phase α) : phase.after (.request 0) = phase := by
  cases phase <;> rfl

/-- A call that makes the feed that is bound signal nothing. -/
theorem leads_through
    (hfeed : Conduct windows (index + 1) link (.resumption index) meaning feeds)
    (hle : resumptions ≤ index) (seat : ResumptionAt network index receiver recover unit)
    (hcurrent : unit.switch.current = some link) (hactive : unit.switch.cancelled = false)
    {phase : Phase α} (hstands : feeds network phase) (order : Order)
    (horder : phase.isIdle = true → order = .cancel) :
    ∃ next changed, Agenda.Leads perform ⟨network, [.order (.switch index) order]⟩ ⟨next, []⟩ ∧
      Within windows resumptions network next ∧
      ResumptionAt next index receiver recover changed ∧ feeds next (phase.after order) ∧
      changed.resumed = unit.resumed ∧
      changed.switch.cancelled = decide (order = .cancel) ∧
      (order ≠ .cancel → changed.switch.current = some link) := by
  have hpass : ∀ changed : Resumption Link,
      unit.take (α := α) order = (changed, [.order link order]) →
      changed.resumed = unit.resumed →
      changed.switch.cancelled = decide (order = .cancel) →
      (order ≠ .cancel → changed.switch.current = some link) →
      ∃ next changed, Agenda.Leads perform ⟨network, [.order (.switch index) order]⟩ ⟨next, []⟩ ∧
        Within windows resumptions network next ∧
        ResumptionAt next index receiver recover changed ∧ feeds next (phase.after order) ∧
        changed.resumed = unit.resumed ∧
        changed.switch.cancelled = decide (order = .cancel) ∧
        (order ≠ .cancel → changed.switch.current = some link) := by
    intro changed htake hresumed hcancelled hlink
    obtain ⟨middle, hperform, honly, hseat⟩ := seat.take _ htake
    obtain ⟨next, hleads, hwithin, hnext⟩ :=
      hfeed.absorb (hfeed.aside hstands honly.aside) order horder
    exact ⟨next, changed, .head hperform hleads,
      (honly.within hle).trans (hwithin.mono (Nat.le_refl _) (Nat.le_succ_of_le hle)),
      hseat.within hwithin, hnext, hresumed, hcancelled, hlink⟩
  cases order with
  | cancel =>
      exact hpass { unit with
          switch := { unit.switch with cancelled := true, current := none } }
        (by simp [Resumption.take, Resumption.call, Switch.take, Switch.cancel, hactive, hcurrent])
        rfl rfl (fun h => (h rfl).elim)
  | request amount =>
      by_cases hamount : amount = 0
      · subst hamount
        have htake : unit.take (α := α) (.request 0) = (unit, []) := by
          simp [Resumption.take, Resumption.call, Switch.take, Switch.request]
        obtain ⟨next, hperform, honly, hseat⟩ := seat.take _ htake
        rw [Phase.after_request_zero]
        exact ⟨next, unit, .drop hperform [], honly.within hle, hseat,
          hfeed.aside hstands honly.aside, rfl, hactive, fun _ => hcurrent⟩
      · exact hpass { unit with
            switch := { unit.switch with
              outstanding := Demand.add unit.switch.outstanding amount } }
          (by simp [Resumption.take, Resumption.call, Switch.take, Switch.request, hactive,
            hcurrent, hamount])
          rfl hactive (fun _ => hcurrent)

/-- Demand that comes in before a feed is bound waits for it. -/
theorem Unbound.request (h : Unbound unit owed) (amount : UInt64) :
    ∃ changed, unit.take (α := α) (.request amount) = (changed, []) ∧
      Unbound changed (owed + amount.toNat) := by
  have houtstanding := h.outstanding
  by_cases hamount : amount = 0
  · subst hamount
    exact ⟨unit, by simp [Resumption.take, Resumption.call, Switch.take, Switch.request], h⟩
  · refine ⟨{ unit with switch := { unit.switch with
        outstanding := Demand.add unit.switch.outstanding amount } },
      by simp [Resumption.take, Resumption.call, Switch.take, Switch.request, h.active, h.current,
        hamount], ?_⟩
    exact { h with
      outstanding := by
        have hadd := Demand.toNat_add unit.switch.outstanding amount
        show (Demand.add unit.switch.outstanding amount).toNat = _
        omega }

/-- What a resumption does on a call that makes it signal nothing. -/
theorem absorb_resumption (hle : resumptions ≤ index) {phase : Phase α}
    (hstands : ResumptionStands windows index receiver recover first total network phase)
    {order : Order} (horder : phase.isIdle = true → order = .cancel) :
    ∃ next, Agenda.Leads perform ⟨network, [.order (.switch index) order]⟩ ⟨next, []⟩ ∧
      Within windows resumptions network next ∧
      ResumptionStands windows index receiver recover first total next (phase.after order) := by
  cases hstands with
  | @opening unit owed rest link feeds seat unbound feed opens room =>
      cases order with
      | request amount =>
          obtain ⟨changed, htake, hunbound⟩ := unbound.request amount
          obtain ⟨next, hperform, honly, hseat⟩ := seat.take _ htake
          exact ⟨next, .drop hperform [], honly.within hle,
            .opening hseat hunbound feed (opens.aside feed honly.aside)
              (by rw [honly.window]; exact room)⟩
      | cancel =>
          have htake : unit.take (α := α) .cancel = ({ unit with
              switch := { unit.switch with cancelled := true, current := none } }, []) := by
            simp [Resumption.take, Resumption.call, Switch.take, Switch.cancel, unbound.active,
              unbound.current]
          obtain ⟨next, hperform, honly, hseat⟩ := seat.take _ htake
          exact ⟨next, .drop hperform [], honly.within hle,
            .closing hseat rfl unbound.first feed (opens.aside feed honly.aside)
              (by rw [honly.window]; exact room)⟩
  | relaying seat bound feed stands enough =>
      obtain ⟨next, changed, hleads, hwithin, hseat, hnext, hresumed, hcancelled, hlink⟩ :=
        leads_through feed hle seat bound.current bound.active stands order
          (fun hidle => Bool.noConfusion hidle)
      refine ⟨next, hleads, hwithin, ?_⟩
      cases order with
      | request amount =>
          exact .relaying hseat
            ⟨hlink (by simp), hcancelled, fun h => hresumed.trans (bound.forwards h)⟩ feed hnext
            (by omega)
      | cancel =>
          exact .stopping hseat hcancelled (fun h => hresumed.trans (bound.forwards h)) feed hnext
  | waiting seat bound feed stands =>
      cases horder rfl
      obtain ⟨next, changed, hleads, hwithin, hseat, -, -, hcancelled, -⟩ :=
        leads_through feed hle seat bound.current bound.active stands .cancel (fun _ => rfl)
      exact ⟨next, hleads, hwithin, .spent hseat (.inl hcancelled)⟩
  | closing seat cancelled unresumed feed opens room =>
      obtain ⟨next, hperform, honly, hseat⟩ := seat.take_cancelled cancelled order
      refine ⟨next, .drop hperform [], honly.within hle, ?_⟩
      cases order <;>
        exact .closing hseat cancelled unresumed feed (opens.aside feed honly.aside)
          (by rw [honly.window]; exact room)
  | stopping seat cancelled forwards feed stands =>
      obtain ⟨next, hperform, honly, hseat⟩ := seat.take_cancelled cancelled order
      refine ⟨next, .drop hperform [], honly.within hle, ?_⟩
      cases order <;>
        exact .stopping hseat cancelled forwards feed (feed.aside stands honly.aside)
  | @spent unit seat quiet =>
      suffices h : ∃ next, Agenda.Leads perform ⟨network, [.order (.switch index) order]⟩
          ⟨next, []⟩ ∧ Within windows resumptions network next ∧
          ResumptionStands windows index receiver recover first total next .spent by
        cases order <;> exact h
      rcases hcancelled : unit.switch.cancelled with _ | _
      · obtain ⟨link, meaning, feeds, hcurrent, feed, hspent⟩ :=
          quiet.resolve_left (by simp [hcancelled])
        obtain ⟨next, changed, hleads, hwithin, hseat, hnext, -, hdone, hlink⟩ :=
          leads_through feed hle seat hcurrent hcancelled hspent order
            (fun hidle => Bool.noConfusion hidle)
        refine ⟨next, hleads, hwithin, .spent hseat ?_⟩
        cases order with
        | cancel => exact .inl hdone
        | request amount => exact .inr ⟨link, meaning, feeds, hlink (by simp), feed, hnext⟩
      · obtain ⟨next, hperform, honly, hseat⟩ := seat.take_cancelled hcancelled order
        exact ⟨next, .drop hperform [], honly.within hle, .spent hseat (.inl hcancelled)⟩

/-! ## Cancellation -/

/-- A feed that is bound after a cancellation is cancelled, and signals nothing except that its end
may be due already. -/
theorem hush_bind
    (hfeed : Conduct windows (index + 1) link (.resumption index) meaning feeds)
    (hle : resumptions ≤ index) (seat : ResumptionAt network index receiver recover unit)
    (hcancelled : unit.switch.cancelled = true) (opens : Opens feeds network meaning.items rest) :
    ∃ next, (Agenda.Leads perform ⟨network, .resumption index (.bind link) :: rest⟩ ⟨next, []⟩ ∨
        meaning.items = [] ∧
          Agenda.Leads perform ⟨network, .resumption index (.bind link) :: rest⟩
            ⟨next, [.signal (.resumption index) (lastDelivery meaning.failure)]⟩) ∧
      Within windows resumptions network next ∧
      ResumptionAt next index receiver recover unit := by
  have hbind : unit.bind (α := α) link = (unit, [.order link .cancel]) := by
    simp [Resumption.bind, Resumption.call, Switch.bind, hcancelled]
  obtain ⟨bound, hperform, honly, hseat⟩ := seat.bind hbind
  obtain ⟨closed, hclosed, hwithin, hcloses⟩ := (opens.aside hfeed honly.aside).cancel hfeed
  obtain ⟨next, hcase, hlast, -⟩ := hcloses.hush hfeed
  have hbefore := (Agenda.Leads.single hperform rest).trans (hclosed.append rest)
  refine ⟨next, ?_, (honly.within hle).trans
    ((hwithin.trans hlast).mono (Nat.le_refl _) (Nat.le_succ_of_le hle)),
    (hseat.within hwithin).within hlast⟩
  rcases hcase with hnothing | ⟨hnil, hdue⟩
  · exact .inl (hbefore.trans hnothing)
  · exact .inr ⟨hnil, hbefore.trans hdue⟩

/-- What follows a failure of the first feed after a cancellation. -/
theorem hush_recover (first : Meaning α) {failure : Failure} {recovery : Recovery α (Action α)}
    (hrecovers : Recovers failure recovery total) (hle : resumptions ≤ index)
    (hwindows : windows ≤ network.windows.length)
    (seat : ResumptionAt network index receiver recover unit)
    (hcancelled : unit.switch.cancelled = true) (hresumed : unit.resumed = true) :
    ∃ next, (Agenda.Leads perform ⟨network, [.recover index failure recovery]⟩ ⟨next, []⟩ ∨
        total.items = [] ∧ Agenda.Leads perform ⟨network, [.recover index failure recovery]⟩
          ⟨next, [.signal receiver (lastDelivery total.failure)]⟩) ∧
      Within windows resumptions network next ∧
      ResumptionStands windows index receiver recover first total next .spent := by
  cases hrecovers with
  | @subscribes publisher _ plain follows =>
      have hfollow : perform (.recover index failure (.to publisher)) network =
          (network, [.subscribe publisher (.resumption index)]) := by
        simp only [perform, follow, (plain network).1, (plain network).2]
      obtain ⟨fed, link, rest, feeds, hfeed, hleads, hwithin, hopens⟩ :=
        follows network (.resumption index) windows (index + 1) hwindows seat.lt_length
      have hhear : unit.hear (α := α) (.switch index) (.subscribe link) =
          (unit, [.go (.bind link)]) := by
        simp [Resumption.hear, hresumed]
      obtain ⟨heard, hperform, honly, hseat⟩ := (seat.within hwithin).hear _ hhear
      obtain ⟨last, hcase, hlast, hseatLast⟩ :=
        hush_bind hfeed hle hseat hcancelled (hopens.aside hfeed honly.aside)
      have hbefore := (Agenda.Leads.head hfollow hleads).trans (.single hperform rest)
      have hwhole := ((hwithin.mono (Nat.le_refl _) (Nat.le_succ_of_le hle)).trans
        (honly.within hle)).trans hlast
      rcases hcase with hnothing | ⟨hnil, hdue⟩
      · exact ⟨last, .inl (hbefore.trans hnothing), hwhole, .spent hseatLast (.inl hcancelled)⟩
      · obtain ⟨next, hforward, honlyNext, hseatNext⟩ :=
          hseatLast.forward total.failure (fun _ => hresumed)
        exact ⟨next, .inr ⟨hnil, hbefore.trans (hdue.trans (.only hforward))⟩,
          hwhole.trans (honlyNext.within hle), .spent hseatNext (.inl hcancelled)⟩
  | fails h =>
      exact ⟨network, .inr ⟨rfl, .only (seat.follow_fails h failure)⟩, .refl _ _ _,
        .spent seat (.inl hcancelled)⟩

/-- A resumption that was cancelled signals nothing any more, except that the end of a feed without
items may be due already. -/
theorem hush_resumption (hresumes : Resumes recover first total) (hle : resumptions ≤ index)
    (hstands : ResumptionStands windows index receiver recover first total network
      (.muted rest)) :
    ∃ next, (Agenda.Leads perform ⟨network, rest⟩ ⟨next, []⟩ ∨
        total.items = [] ∧ Agenda.Leads perform ⟨network, rest⟩
          ⟨next, [.signal receiver (lastDelivery total.failure)]⟩) ∧
      Within windows resumptions network next ∧
      ResumptionStands windows index receiver recover first total next .spent := by
  cases hstands with
  | @stopping unit rest link feeds seat cancelled forwards feed stands =>
      obtain ⟨counted, hcount, honly, hseat⟩ := seat.count
      have hcancelled : unit.count.switch.cancelled = true := by
        rw [Resumption.count]
        split <;> exact cancelled
      have hresumed : unit.count.resumed = unit.resumed := by
        rw [Resumption.count]
        split <;> rfl
      obtain ⟨last, hcase, hlast, hspent⟩ := feed.hush (feed.aside stands honly.aside)
      have hwhole := (honly.within hle).trans (hlast.mono (Nat.le_refl _) (Nat.le_succ_of_le hle))
      rcases hcase with hnothing | ⟨hnil, hdue⟩
      · exact ⟨last, .inl (.head hcount hnothing), hwhole,
          .spent (hseat.within hlast) (.inl hcancelled)⟩
      · obtain ⟨next, hforward, honlyNext, hseatNext⟩ :=
          (hseat.within hlast).forward _ (fun h => hresumed.trans (forwards h))
        exact ⟨next, .inr ⟨hnil, (Agenda.Leads.head hcount hdue).trans (.only hforward)⟩,
          hwhole.trans (honlyNext.within hle), .spent hseatNext (.inl hcancelled)⟩
  | @closing unit rest link feeds seat cancelled unresumed feed opens room =>
      obtain ⟨last, hcase, hlast, hseat⟩ := hush_bind feed hle seat cancelled opens
      rcases hcase with hnothing | ⟨hnil, hdue⟩
      · exact ⟨last, .inl hnothing, hlast, .spent hseat (.inl cancelled)⟩
      rcases first with ⟨items, _ | failure⟩
      · obtain rfl : total = { items } := hresumes
        obtain ⟨next, hforward, honlyNext, hseatNext⟩ :=
          hseat.forward none (fun hsome => Bool.noConfusion hsome)
        exact ⟨next, .inr ⟨hnil, hdue.trans (.only hforward)⟩,
          hlast.trans (honlyNext.within hle), .spent hseatNext (.inl cancelled)⟩
      · obtain ⟨-, hrecovers⟩ := hresumes
        have hhear : unit.hear (α := α) (.switch index) (.error failure) =
            ({ unit with resumed := true }, [.go (.recover failure)]) := by
          simp [Resumption.hear, unresumed]
        obtain ⟨heard, hheard, honlyHeard, hseatHeard⟩ := hseat.hear _ hhear
        obtain ⟨asked, hasked, honlyAsked, hseatAsked⟩ := hseatHeard.ask failure
        have hbefore : Within windows resumptions network asked :=
          hlast.trans ((honlyHeard.within hle).trans (honlyAsked.within hle))
        obtain ⟨next, hthen, hafter, hspent⟩ :=
          hush_recover { items, failure := some failure } hrecovers hle
            (Nat.le_trans room hbefore.windows_length) hseatAsked cancelled rfl
        have hall := hdue.trans (.head hheard (.only hasked))
        refine ⟨next, ?_, hbefore.trans hafter, hspent⟩
        exact hthen.imp (hall.trans ·) (fun h => ⟨h.1, hall.trans h.2⟩)

/-! ## The conduct of a resumption -/

/-- The conduct of a resumption. -/
theorem conduct_resumption (hresumes : Resumes recover first total) (hle : resumptions ≤ index)
    (hroom : total.items.length ≤ Demand.unbounded.toNat) (windows : Nat) (receiver : Receiver) :
    Conduct windows resumptions (.switch index) receiver total
      (ResumptionStands windows index receiver recover first total) where
  aside := by
    intro network next phase hstands haside
    have habove := haside.mono (Nat.le_refl _) (Nat.le_succ_of_le hle)
    cases hstands with
    | opening seat unbound feed opens room =>
        exact .opening (seat.aside haside hle) unbound feed (opens.aside feed habove)
          (Nat.le_trans room haside.windows_length)
    | relaying seat bound feed stands enough =>
        exact .relaying (seat.aside haside hle) bound feed (feed.aside stands habove) enough
    | waiting seat bound feed stands =>
        exact .waiting (seat.aside haside hle) bound feed (feed.aside stands habove)
    | closing seat cancelled unresumed feed opens room =>
        exact .closing (seat.aside haside hle) cancelled unresumed feed (opens.aside feed habove)
          (Nat.le_trans room haside.windows_length)
    | stopping seat cancelled forwards feed stands =>
        exact .stopping (seat.aside haside hle) cancelled forwards feed (feed.aside stands habove)
    | spent seat quiet =>
        refine .spent (seat.aside haside hle) (quiet.imp_right ?_)
        rintro ⟨link, meaning, feeds, hcurrent, feed, hspent⟩
        exact ⟨link, meaning, feeds, hcurrent, feed, feed.aside hspent habove⟩
  absorb := fun hstands _ horder => absorb_resumption hle hstands horder
  emit := by
    intro network x left hstands amount
    cases hstands with
    | @waiting unit _ _ link feeds seat bound feed stands =>
        by_cases hamount : amount = 0
        · subst hamount
          have htake : unit.take (α := α) (.request 0) = (unit, []) := by
            simp [Resumption.take, Resumption.call, Switch.take, Switch.request]
          obtain ⟨next, hperform, honly, hseat⟩ := seat.take _ htake
          exact ⟨next, .drop hperform [], honly.within hle,
            .waiting hseat bound feed (feed.aside stands honly.aside)⟩
        · have htake : unit.take (α := α) (.request amount) =
              ({ unit with switch := { unit.switch with
                outstanding := Demand.add unit.switch.outstanding amount } },
                [.order link (.request amount)]) := by
            simp [Resumption.take, Resumption.call, Switch.take, Switch.request, bound.active,
              bound.current, hamount]
          obtain ⟨next, hperform, honly, hseat⟩ := seat.take _ htake
          exact (onward_relay feed hle hseat ⟨bound.current, bound.active, bound.forwards⟩
            (feed.emit (feed.aside stands honly.aside) amount) rfl).of_leads (.only hperform)
            (honly.within hle)
  resume := by
    intro network left owed rest hstands
    cases hstands with
    | opening seat unbound feed opens room =>
        exact onward_opening hresumes hle seat unbound feed opens room hroom
    | @relaying unit _ given _ rest link feeds seat bound feed stands enough =>
        obtain ⟨next, hcount, honly, hseat⟩ := seat.count
        exact (onward_relay feed hle hseat bound.count
          (feed.resume (feed.aside stands honly.aside)) enough).of_leads (.drop hcount rest)
          (honly.within hle)
  hush := fun hstands => hush_resumption hresumes hle hstands

/-- A resumption follows what it makes of the meaning of its first feed. -/
theorem follows_resume {publisher : Publisher α (Action α)} (h : Follows publisher first)
    (hresumes : Resumes recover first total)
    (hroom : total.items.length ≤ Demand.unbounded.toNat) (tag : Option String) :
    Follows (.resume tag recover publisher) total := by
  intro network receiver windows resumptions hwindows hresumptions
  let made : Network α :=
    { network with
      resumptions := network.resumptions ++
        [{ toStage := network.stage receiver {}, tag, recover }] }
  have hmade : perform (.subscribe (.resume tag recover publisher) receiver) network =
      (made, [.subscribe publisher (.resumption network.resumptions.length)]) := rfl
  have hnew : Within windows resumptions network made := {
    window := fun _ _ => rfl
    resumption := fun other hother =>
      List.getElem?_append_left (Nat.lt_of_lt_of_le hother hresumptions)
    probes := rfl
    outlets := rfl
    streams := rfl
    trace := ⟨[], (List.append_nil _).symm, fun _ h => (List.not_mem_nil h).elim⟩
    windows_length := Nat.le_refl _ }
  have hplace : ResumptionAt made network.resumptions.length receiver recover {} :=
    ⟨_, List.getElem?_concat_length, rfl, rfl, rfl⟩
  obtain ⟨fed, link, rest, feeds, hfeed, hleads, hwithin, hopens⟩ :=
    h made (.resumption network.resumptions.length) windows (network.resumptions.length + 1)
      hwindows (by simp [made])
  obtain ⟨next, hperform, honly, hseat⟩ :=
    (hplace.within hwithin).hear (.subscribe link) rfl
  have hwhole := (hnew.trans (hwithin.mono (Nat.le_refl _) (Nat.le_succ_of_le hresumptions))).trans
    (honly.within hresumptions)
  have hopening : ResumptionStands windows network.resumptions.length receiver recover first total
      next (.busy total.items 0 (.resumption network.resumptions.length (.bind link) :: rest)) :=
    .opening hseat ⟨rfl, rfl, rfl, rfl⟩ hfeed (hopens.aside hfeed honly.aside)
      (Nat.le_trans hwindows hwhole.windows_length)
  exact ⟨next, .switch network.resumptions.length, _, _,
    conduct_resumption hresumes hresumptions hroom windows receiver,
    (Agenda.Leads.head hmade hleads).trans (.single hperform rest), hwhole, .busy hopening⟩

end Backpressure.Network
