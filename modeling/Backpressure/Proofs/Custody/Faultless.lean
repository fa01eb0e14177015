import Backpressure.Proofs.Custody.Attendance

/-!
# Runs without failures

As long as no publisher fails, nothing in a network does: no unit signals a failure, no window holds
one back, and no resumption asks its recovery. Besides, a publisher driven by hand keeps its
subscriber until someone else is subscribed to it, and a name means the stream that was announced
under it.

Main results:

- Theorem `smooth_begin` covers the actions, and theorem `smooth_subscribe` the subscriptions.
- Theorem `smooth_perform` covers every task.
-/

namespace Backpressure.Network

variable {α : Type} {network next : Network α} {index : Nat} {task : Task α}

/-! ## Networks without failures -/

/-- A task has nothing to do with a failure, announces no stream, and lets go only of a receiver
that is remembered. -/
def IsFair (network : Network α) : Task α → Prop
  | .signal _ (.error _) | .resumption _ (.recover _) | .recover _ _ _ | .announce _ _ => False
  | .leave receiver => ∃ name, network.Remembers name receiver
  | _ => True

/-- No window holds back a failure, and no resumption has resumed. -/
structure Faultless (network : Network α) : Prop where
  windows : ∀ stage ∈ network.windows, stage.unit.drain.failure.get? = none
  resumptions : ∀ stage ∈ network.resumptions, stage.unit.resumed = false

/-- What happens goes without a failure, everyone who was remembered is, and streams are announced
under some names. -/
structure Smooth (names : List (String × Nat)) (network : Network α)
    (outcome : Network α × List (Task α)) : Prop where
  faultless : Faultless outcome.1
  remembers : ∀ name receiver, network.Remembers name receiver → outcome.1.Remembers name receiver
  streams : outcome.1.streams = names ++ network.streams
  tasks : ∀ task ∈ outcome.2, outcome.1.IsFair task

/-- Publishers driven by hand, windows, resumptions and names are left alone. -/
theorem Faultless.smooth (h : Faultless network) {tasks : List (Task α)}
    (hwindows : next.windows = network.windows)
    (hresumptions : next.resumptions = network.resumptions)
    (hhands : next.hands = network.hands) (hdeferreds : next.deferreds = network.deferreds)
    (hstreams : next.streams = network.streams) (htasks : ∀ task ∈ tasks, next.IsFair task) :
    Smooth [] network (next, tasks) where
  faultless := ⟨by rw [hwindows]; exact h.windows, by rw [hresumptions]; exact h.resumptions⟩
  remembers := fun name receiver hremembers => by
    rw [Remembers, hhands, hdeferreds]
    exact hremembers
  streams := hstreams
  tasks := htasks

/-- One thing after another. -/
theorem Smooth.trans {outcome : Network α × List (Task α)} {tasks : List (Task α)}
    {names : List (String × Nat)} (hfirst : Smooth names network (next, tasks))
    (hsecond : Smooth [] next outcome) : Smooth names network outcome where
  faultless := hsecond.faultless
  remembers := fun name receiver hremembers =>
    hsecond.remembers name receiver (hfirst.remembers name receiver hremembers)
  streams := hsecond.streams.trans hfirst.streams
  tasks := hsecond.tasks

/-- More fair tasks may follow. -/
theorem Smooth.append {tasks more : List (Task α)} (h : Smooth [] network (next, tasks))
    (hmore : ∀ task ∈ more, next.IsFair task) : Smooth [] network (next, tasks ++ more) where
  faultless := h.faultless
  remembers := h.remembers
  streams := h.streams
  tasks := fun task htask => (List.mem_append.1 htask).elim (h.tasks task) (hmore task)

/-- Actions are fair. -/
theorem isFair_map_act (actions : List (Action α)) :
    ∀ task ∈ actions.map Task.act, network.IsFair task := by
  intro task htask
  obtain ⟨action, -, rfl⟩ := List.mem_map.1 htask
  trivial

/-- What is fair stays so as long as no one is forgotten. -/
theorem IsFair.mono (h : network.IsFair task)
    (hremembers : ∀ name receiver, network.Remembers name receiver →
      next.Remembers name receiver) : next.IsFair task := by
  cases task with
  | leave receiver => exact h.imp fun name => hremembers name receiver
  | signal receiver delivery => cases delivery <;> exact h
  | resumption index work => cases work <;> exact h
  | _ => exact h

/-- Recording an event. -/
theorem Faultless.log (h : Faultless network) (event : Event α (Action α) (Result α)) :
    Smooth [] network (network.log event, []) :=
  h.smooth rfl rfl rfl rfl rfl (by simp)

/-! ## Units -/

/-- What a unit does becomes fair tasks, if it asks no recovery and signals no failure. -/
theorem isFair_taskOf {κ : Type} {below : Receiver} {work : κ → Task α}
    {effects : List (Effect α Link κ)}
    (h : ∀ effect ∈ effects, (∀ failure, effect ≠ .signal (.error failure)) ∧
      ∀ own, effect = .go own → network.IsFair (work own)) :
    ∀ task ∈ effects.map (taskOf below work), network.IsFair task := by
  intro task htask
  obtain ⟨effect, heffect, rfl⟩ := List.mem_map.1 htask
  obtain ⟨hsignal, hwork⟩ := h effect heffect
  cases effect with
  | signal delivery =>
      cases delivery with
      | error failure => exact absurd rfl (hsignal failure)
      | subscribe | next | complete => trivial
  | order => trivial
  | go own => exact hwork own rfl

/-- A source at work. -/
theorem Faultless.onSource (h : Faultless network)
    {f : Source α → Source α × List (Effect α Link Source.Work)}
    (hquiet : ∀ source, ∀ effect ∈ (f source).2, ∀ failure, effect ≠ .signal (.error failure)) :
    Smooth [] network (network.onSource index f) := by
  unfold Network.onSource
  split
  next stage _ =>
    exact h.smooth rfl rfl rfl rfl rfl (isFair_taskOf fun effect heffect =>
      ⟨hquiet stage.unit effect heffect, fun _ _ => trivial⟩)
  next => exact h.smooth rfl rfl rfl rfl rfl (by simp)

/-- A window at work. -/
theorem Faultless.onWindow (h : Faultless network)
    {f : Window α Link → Window α Link × List (Effect α Link Pass)}
    (hkeeps : ∀ window, (f window).1.drain.failure = window.drain.failure)
    (hquiet : ∀ window, window.drain.failure.get? = none → ∀ effect ∈ (f window).2,
      ∀ failure, effect ≠ .signal (.error failure)) :
    Smooth [] network (network.onWindow index f) := by
  unfold Network.onWindow
  split
  next stage hstage =>
    have hnone := h.windows stage (List.mem_of_getElem? hstage)
    refine ⟨⟨fun other hother => ?_, h.resumptions⟩, fun _ _ => id, rfl, isFair_taskOf
      fun effect heffect => ⟨hquiet stage.unit hnone effect heffect, fun _ _ => trivial⟩⟩
    rcases List.mem_or_eq_of_mem_set hother with hbefore | rfl
    · exact h.windows other hbefore
    · exact (congrArg FailureSlot.get? (hkeeps stage.unit)).trans hnone
  next => exact h.smooth rfl rfl rfl rfl rfl (by simp)

/-- A resumption at work. -/
theorem Faultless.onResumption (h : Faultless network)
    {f : Resumption Link → Resumption Link × List (Effect α Link (Resumption.Work Link))}
    (hkeeps : ∀ resumption, (f resumption).1.resumed = resumption.resumed)
    (hquiet : ∀ resumption, ∀ effect ∈ (f resumption).2, ∀ failure,
      effect ≠ .signal (.error failure) ∧ effect ≠ .go (.recover failure)) :
    Smooth [] network (network.onResumption index f) := by
  unfold Network.onResumption
  split
  next stage hstage =>
    have hnone := h.resumptions stage (List.mem_of_getElem? hstage)
    refine ⟨⟨h.windows, fun other hother => ?_⟩, fun _ _ => id, rfl,
      isFair_taskOf fun effect heffect => ⟨fun failure =>
        (hquiet stage.unit effect heffect failure).1, fun own hown => ?_⟩⟩
    · rcases List.mem_or_eq_of_mem_set hother with hbefore | rfl
      · exact h.resumptions other hbefore
      · exact (hkeeps stage.unit).trans hnone
    · cases own with
      | bind | count => trivial
      | recover failure => exact absurd hown (hquiet stage.unit effect heffect failure).2
  next => exact h.smooth rfl rfl rfl rfl rfl (by simp)

/-- A drain that holds no failure ends by completion. -/
theorem conclusion_of_get?_eq_none {ι : Type} {drain : Drain α}
    (h : drain.failure.get? = none) (ending : Ending) :
    (drain.conclusion ending : Delivery α ι) = .complete := by
  cases ending with
  | completion => rfl
  | heldFailure => rw [Drain.conclusion, h]

/-- A window that hears no failure signals none. -/
theorem Faultless.hearWindow (h : Faultless network) {delivery : Delivery α Link}
    (hdelivery : ∀ failure, delivery ≠ .error failure) :
    Smooth [] network (network.onWindow index (·.hear (.window index) delivery)) := by
  refine h.onWindow (fun window => ?_) fun window hnone effect heffect failure => ?_
  · cases delivery with
    | error failure => exact absurd rfl (hdelivery failure)
    | subscribe | next | complete => rfl
  · rintro rfl
    cases delivery with
    | error failure => exact absurd rfl (hdelivery failure)
    | subscribe | next => simp [Window.hear] at heffect
    | complete =>
        simp only [Window.hear, Window.terminate] at heffect
        split at heffect
        · simp at heffect
        · rw [conclusion_of_get?_eq_none hnone] at heffect
          simp at heffect

/-- A window that is called signals no failure. -/
theorem Faultless.callWindow (h : Faultless network) (order : Order) :
    Smooth [] network (network.onWindow index (·.take order)) := by
  refine h.onWindow (fun window => ?_) fun window _ effect heffect failure => ?_
  · cases order with
    | request => rfl
    | cancel =>
        simp only [Window.take]
        split <;> rfl
  · rintro rfl
    cases order with
    | request => simp [Window.take] at heffect
    | cancel =>
        simp only [Window.take] at heffect
        split at heffect <;> simp at heffect

/-- A window that goes on with a pass signals no failure. -/
theorem Faultless.goWindow (h : Faultless network) (pass : Pass) :
    Smooth [] network (network.onWindow index (·.go pass)) := by
  refine h.onWindow (fun window => Drain.failure_advance _ _ _) fun window hnone effect heffect
    failure => ?_
  rintro rfl
  simp only [Window.go] at heffect
  split at heffect
  · simp at heffect
  · simp at heffect
  · rw [conclusion_of_get?_eq_none (by rw [Drain.failure_advance]; exact hnone)] at heffect
    simp at heffect
  · simp at heffect

/-- A resumption that hears no failure signals none, and asks no recovery. -/
theorem Faultless.hearResumption (h : Faultless network) {delivery : Delivery α Link}
    (hdelivery : ∀ failure, delivery ≠ .error failure) :
    Smooth [] network (network.onResumption index (·.hear (.switch index) delivery)) := by
  refine h.onResumption (fun resumption => ?_) fun resumption effect heffect failure => ?_
  · cases delivery with
    | error failure => exact absurd rfl (hdelivery failure)
    | subscribe | next | complete => rfl
  · cases delivery with
    | error failure => exact absurd rfl (hdelivery failure)
    | subscribe link =>
        simp only [Resumption.hear] at heffect
        split at heffect <;> refine ⟨?_, ?_⟩ <;> rintro rfl <;> simp at heffect
    | next | complete => refine ⟨?_, ?_⟩ <;> rintro rfl <;> simp [Resumption.hear] at heffect

/-- A resumption that is called or binds a link only makes calls. -/
theorem Faultless.callResumption (h : Faultless network)
    (answer : Resumption Link → Switch Link × Option (Call Link)) :
    Smooth [] network (network.onResumption index fun unit => unit.call (answer unit)) := by
  refine h.onResumption (fun _ => rfl) fun resumption effect heffect failure => ?_
  obtain ⟨call, -, rfl⟩ := List.mem_map.1 heffect
  constructor <;> simp

/-- A resumption that counts a delivery does nothing else. -/
theorem Faultless.countResumption (h : Faultless network) :
    Smooth [] network (network.onResumption index fun unit => (unit.count, [])) := by
  refine h.onResumption (fun resumption => ?_) fun _ _ heffect => absurd heffect List.not_mem_nil
  unfold Resumption.count
  split <;> rfl

/-- A source signals no failure. -/
theorem Faultless.callSource (h : Faultless network) (order : Order) :
    Smooth [] network (network.onSource index (·.take order)) := by
  refine h.onSource fun source effect heffect failure => ?_
  rintro rfl
  cases order with
  | request amount =>
      simp only [Source.take] at heffect
      split at heffect
      · simp at heffect
      · split at heffect <;> simp at heffect
  | cancel => simp [Source.take] at heffect

/-- A source that goes on signals no failure. -/
theorem Faultless.goSource (h : Faultless network) (work : Source.Work) :
    Smooth [] network (network.onSource index (·.go work)) := by
  refine h.onSource fun source effect heffect failure => ?_
  rintro rfl
  cases work with
  | emit goal emitted =>
      simp only [Source.go, Source.emit] at heffect
      split at heffect
      · split at heffect
        · simp at heffect
        · split at heffect <;> simp at heffect
      · split at heffect <;> simp at heffect
  | finish =>
      simp only [Source.go] at heffect
      split at heffect <;> simp at heffect

/-! ## Participants -/

/-- The call that a stream makes. -/
theorem Faultless.setBridge (h : Faultless network) (outlet : Outlet α) (unit : Bridge α Link)
    (call : Option (Call Link)) : Smooth [] network (network.setBridge index outlet unit call) :=
  h.smooth rfl rfl rfl rfl rfl fun task htask => by
    obtain ⟨call, -, rfl⟩ := List.mem_map.1 htask
    trivial

/-- A stream hears a signal. -/
theorem Faultless.hearBridge (h : Faultless network) (delivery : Delivery α Link) :
    Smooth [] network (network.hearBridge index delivery) := by
  unfold Network.hearBridge
  split
  next outlet _ =>
    have hset : Smooth [] network (network.setBridge index outlet (outlet.unit.hear delivery).1
        (outlet.unit.hear delivery).2) := h.setBridge outlet _ _
    simp only
    split
    · exact { hset.trans (hset.faultless.log _) with tasks := hset.tasks }
    · exact hset
  next => exact h.smooth rfl rfl rfl rfl rfl (by simp)

/-- A scripted subscriber hears a signal. -/
theorem Faultless.hearProbe (h : Faultless network) (delivery : Delivery α Link) :
    Smooth [] network (network.hearProbe index delivery) := by
  unfold Network.hearProbe
  split
  next probe _ =>
    refine h.smooth rfl rfl rfl rfl rfl fun task htask => ?_
    rcases List.mem_append.1 htask with hcall | hact
    · obtain ⟨call, -, rfl⟩ := List.mem_map.1 hcall
      trivial
    · exact isFair_map_act _ task hact
  next => exact h.smooth rfl rfl rfl rfl rfl (by simp)

/-- A call on a link. -/
theorem Faultless.call (h : Faultless network) (order : Order) (link : Link) :
    Smooth [] network (network.call order link) := by
  cases link with
  | inert => exact h.smooth rfl rfl rfl rfl rfl (by simp)
  | source index => exact h.callSource order
  | window index => exact h.callWindow order
  | switch index => exact h.callResumption fun unit => unit.switch.take order
  | hand index =>
      refine ⟨⟨h.windows, h.resumptions⟩, fun name receiver => ?_, rfl, by simp [Network.call]⟩
      refine Or.imp_left ?_
      rintro ⟨hand, hmem, hname, hsubscriber⟩
      obtain ⟨place, hplace⟩ := List.mem_iff_getElem?.1 hmem
      let entered : Hand := { hand with ledger := hand.ledger.record order }
      refine ⟨if index = place then entered else hand, List.mem_of_getElem? (i := place) ?_, ?_, ?_⟩
      · simp [Network.call, callHand, List.getElem?_modify, hplace, entered]
      · split <;> exact hname
      · split <;> exact hsubscriber
  | tap index =>
      simp only [Network.call, callTap]
      split
      · exact h.smooth rfl rfl rfl rfl rfl (isFair_map_act _)
      · exact h.smooth rfl rfl rfl rfl rfl (by simp)

/-- A stream is polled. -/
theorem Faultless.poll (h : Faultless network) :
    Smooth [] network ((network.poll index).1, (network.poll index).2.2) := by
  unfold Network.poll
  split
  next outlet _ => exact h.setBridge outlet outlet.unit.poll.1 outlet.unit.poll.2.2
  next => exact h.smooth rfl rfl rfl rfl rfl (by simp)

/-- A stream is dropped. -/
theorem Faultless.drop (h : Faultless network) : Smooth [] network (network.drop index) := by
  unfold Network.drop
  split
  next outlet _ => exact h.setBridge outlet outlet.unit.drop.1 _
  next => exact h.smooth rfl rfl rfl rfl rfl (by simp)

/-- A stream is announced. -/
theorem Faultless.announce (h : Faultless network) (name : String) :
    Smooth [(name, index)] network (network.announce name index) := by
  have hnamed : Smooth [(name, index)] network
      ({ network with streams := (name, index) :: network.streams }, []) :=
    ⟨⟨h.windows, h.resumptions⟩, fun _ _ => id, rfl, by simp⟩
  unfold Network.announce
  split
  · exact hnamed.trans hnamed.faultless.drop
  · exact hnamed

/-- The answers of a stream are collected. -/
theorem Faultless.collect (h : Faultless network) (action : Action α) (left : Nat)
    (answers : List (Poll α)) :
    Smooth [] network (network.collect action index left answers) := by
  cases left with
  | zero => exact h.smooth rfl rfl rfl rfl rfl (by simp [IsFair])
  | succ left =>
      simp only [Network.collect]
      split <;> exact h.poll.append (by simp [IsFair])

/-- Publishers driven by hand that are made make no one forget his subscriber. -/
theorem Faultless.mention (h : Faultless network) (publisher : Publisher α (Action α)) :
    Smooth [] network (network.mention publisher, []) := by
  have hhands : ∀ (names : List String) {network : Network α}, Faultless network →
      Smooth [] network (names.foldl ensureHand network, []) := by
    intro names
    induction names with
    | nil => exact fun h => h.smooth rfl rfl rfl rfl rfl (by simp)
    | cons name names ih =>
        intro network h
        have hfirst : Smooth [] network (network.ensureHand name, []) := by
          unfold ensureHand
          split
          · exact h.smooth rfl rfl rfl rfl rfl (by simp)
          · refine ⟨⟨h.windows, h.resumptions⟩, fun _ _ => Or.imp_left ?_, rfl, by simp⟩
            exact fun ⟨hand, hmem, hboth⟩ => ⟨hand, List.mem_append_left _ hmem, hboth⟩
        exact hfirst.trans (ih hfirst.faultless)
  have hdeferreds : ∀ (names : List String) {network : Network α}, Faultless network →
      Smooth [] network (names.foldl ensureDeferred network, []) := by
    intro names
    induction names with
    | nil => exact fun h => h.smooth rfl rfl rfl rfl rfl (by simp)
    | cons name names ih =>
        intro network h
        have hfirst : Smooth [] network (network.ensureDeferred name, []) := by
          unfold ensureDeferred
          split
          · exact h.smooth rfl rfl rfl rfl rfl (by simp)
          · refine ⟨⟨h.windows, h.resumptions⟩, fun _ _ => Or.imp_right ?_, rfl, by simp⟩
            exact fun ⟨deferred, hmem, hboth⟩ => ⟨deferred, List.mem_append_left _ hmem, hboth⟩
        exact hfirst.trans (ih hfirst.faultless)
  have hfirst := hhands publisher.mentioned h
  exact hfirst.trans (hdeferreds publisher.mentionedDeferred hfirst.faultless)

/-! ## Tasks -/

/-- A signal by hand that is no failure. -/
theorem Faultless.signalByHand (h : Faultless network) (action : Action α) (name : String)
    {deliveries : List (Delivery α Link)}
    (hdeliveries : ∀ receiver, network.subscriberOf name = some receiver →
      ∀ delivery ∈ deliveries, ∀ failure, delivery ≠ .error failure) :
    Smooth [] network (network.signalByHand action name deliveries) := by
  unfold Network.signalByHand
  split
  next receiver hreceiver =>
    refine h.smooth rfl rfl rfl rfl rfl fun task htask => ?_
    rcases List.mem_append.1 htask with hsignal | hafter
    · obtain ⟨delivery, hdelivery, rfl⟩ := List.mem_map.1 hsignal
      cases delivery with
      | error failure => exact absurd rfl (hdeliveries receiver hreceiver _ hdelivery failure)
      | subscribe | next | complete => trivial
    · simp only [List.mem_cons, List.not_mem_nil, or_false] at hafter
      rcases hafter with rfl | rfl
      · exact ⟨name, remembers_of_subscriberOf hreceiver⟩
      · trivial
  next => exact h.smooth rfl rfl rfl rfl rfl (by simp [IsFair])

/-- An action by which no one fails, and which makes no stream. -/
theorem smooth_begin (h : Faultless network) {action : Action α}
    (herror : ∀ name failure, action = .error name failure → network.subscriberOf name = none)
    (hstream : ∀ name publisher prefetch, action ≠ .stream name publisher prefetch) :
    Smooth [] network (network.begin action) := by
  cases action with
  | define name publisher =>
      have hmention := h.mention publisher
      exact hmention.trans (hmention.faultless.smooth rfl rfl rfl rfl rfl (by simp [IsFair]))
  | subscribe name publisher initial react =>
      have hmention := h.mention publisher
      exact hmention.trans (hmention.faultless.smooth rfl rfl rfl rfl rfl (by simp [IsFair]))
  | stream name publisher prefetch => exact absurd rfl (hstream name publisher prefetch)
  | order name order =>
      simp only [begin]
      split <;> exact h.smooth rfl rfl rfl rfl rfl (by simp [IsFair])
  | next | complete => exact h.signalByHand _ _ (by simp)
  | nextAll name xs => exact h.signalByHand _ _ (by simp)
  | error name failure =>
      refine h.signalByHand _ _ fun receiver hreceiver => ?_
      rw [herror name failure rfl] at hreceiver
      cases hreceiver
  | accept name link react =>
      have htap := sameUnits_tapOf network link react
      have hstreams : (network.tapOf link react).1.streams = network.streams := by
        unfold tapOf
        split <;> rfl
      have hfound : Smooth [] network ((network.tapOf link react).1, []) :=
        h.smooth htap.windows htap.resumptions htap.hands htap.deferreds hstreams (by simp)
      exact hfound.trans (hfound.faultless.signalByHand _ _ (by simp))
  | poll name =>
      simp only [begin]
      split
      · exact h.poll.append (by simp [IsFair])
      · exact h.smooth rfl rfl rfl rfl rfl (by simp [IsFair])
  | collect name most =>
      simp only [begin]
      split <;> exact h.smooth rfl rfl rfl rfl rfl (by simp [IsFair])
  | drop name =>
      simp only [begin]
      split
      · exact h.drop.append (by simp [IsFair])
      · exact h.smooth rfl rfl rfl rfl rfl (by simp [IsFair])

/-- Letting go of a receiver leaves the names alone. -/
theorem streams_letGo (network : Network α) (receiver : Receiver) :
    (network.letGo receiver).streams = network.streams := by
  unfold letGo closeStream
  split
  · split
    · rfl
    · split
      · simp only
        split <;> rfl
      · rfl
  · rfl

/-- Letting go of a receiver, if there is one, leaves the names alone. -/
theorem streams_elim_letGo (receiver : Option Receiver) (network : Network α) :
    (receiver.elim network network.letGo).streams = network.streams := by
  cases receiver with
  | none => rfl
  | some receiver => exact streams_letGo network receiver

/-- A subscription to a publisher that does not fail, if no publisher driven by hand has a
subscriber yet. -/
theorem smooth_subscribe (h : Faultless network) {publisher : Publisher α (Action α)}
    {receiver : Receiver} (hpublisher : ∀ failure, publisher ≠ .fail failure)
    (hfree : ∀ name other, ¬ network.Remembers name other) :
    Smooth [] network (network.subscribe receiver publisher) := by
  have hforget : ∀ {next : Network α}, ∀ name other, network.Remembers name other →
      next.Remembers name other := fun name other hother => absurd hother (hfree name other)
  cases publisher with
  | items supply =>
      simp only [subscribe]
      split <;> exact ⟨⟨h.windows, h.resumptions⟩, hforget, rfl, by simp [IsFair]⟩
  | fail failure => exact absurd rfl (hpublisher failure)
  | named name => exact ⟨h, hforget, rfl, by simp [subscribe]⟩
  | hand name =>
      simp only [subscribe]
      split
      · have hsame := sameUnits_elim_letGo (α := α)
        refine ⟨⟨?_, ?_⟩, hforget, streams_elim_letGo _ _, by simp [IsFair]⟩
        · rw [subscribeHand, (hsame _ _).windows]
          exact h.windows
        · rw [subscribeHand, (hsame _ _).resumptions]
          exact h.resumptions
      · exact ⟨h, hforget, rfl, by simp⟩
  | deferred name =>
      have hsame := sameUnits_elim_letGo (α := α)
      refine ⟨⟨?_, ?_⟩, hforget, streams_elim_letGo _ _, by simp [subscribe]⟩
      · rw [subscribe, subscribeDeferred, (hsame _ _).windows]
        exact h.windows
      · rw [subscribe, subscribeDeferred, (hsame _ _).resumptions]
        exact h.resumptions
  | takeLast count delaysFailure up =>
      refine ⟨⟨fun stage hstage => ?_, h.resumptions⟩, hforget, rfl, by simp [subscribe, IsFair]⟩
      rcases List.mem_append.1 hstage with hbefore | hnew
      · exact h.windows stage hbefore
      · rw [List.mem_singleton.1 hnew]
        rfl
  | resume tag recover up =>
      refine ⟨⟨h.windows, fun stage hstage => ?_⟩, hforget, rfl, by simp [subscribe, IsFair]⟩
      rcases List.mem_append.1 hstage with hbefore | hnew
      · exact h.resumptions stage hbefore
      · rw [List.mem_singleton.1 hnew]
        rfl

/-- The name under which a task announces a stream. -/
def Task.announced : Task α → List (String × Nat)
  | .announce name index => [(name, index)]
  | _ => []

/-- What is fair announces no stream. -/
theorem IsFair.announced (h : network.IsFair task) : task.announced = [] := by
  cases task with
  | announce => exact h.elim
  | _ => rfl

/-- A task that is fair, or announces a stream, goes without a failure. -/
theorem smooth_perform (h : Faultless network) (htask : task.announced = [] → network.IsFair task)
    (hstream : ∀ name publisher prefetch, task ≠ .act (.stream name publisher prefetch))
    (herror : ∀ name failure, task = .act (.error name failure) →
      network.subscriberOf name = none)
    (hsubscribe : ∀ publisher receiver, task = .subscribe publisher receiver →
      (∀ failure, publisher ≠ .fail failure) ∧ ∀ name other, ¬ network.Remembers name other) :
    Smooth task.announced network (perform task network) := by
  cases task with
  | act action =>
      have hlog := h.log (.called action)
      refine hlog.trans (smooth_begin hlog.faultless ?_ ?_)
      · rintro name failure rfl
        exact herror name failure rfl
      · rintro name publisher prefetch rfl
        exact hstream name publisher prefetch rfl
  | ret action result => exact h.log _
  | signal receiver delivery =>
      have hdelivery : ∀ failure, delivery ≠ .error failure := by
        rintro failure rfl
        exact htask rfl
      cases receiver with
      | probe index => exact h.hearProbe delivery
      | window index => exact h.hearWindow hdelivery
      | resumption index => exact h.hearResumption hdelivery
      | bridge index => exact h.hearBridge delivery
  | order link order => exact h.call order link
  | subscribe publisher receiver =>
      obtain ⟨hpublisher, hfree⟩ := hsubscribe publisher receiver rfl
      exact smooth_subscribe h hpublisher hfree
  | source index work => exact h.goSource work
  | window index pass => exact h.goWindow pass
  | resumption index work =>
      cases work with
      | bind link => exact h.callResumption fun unit => unit.switch.bind link
      | count => exact h.countResumption
      | recover => exact (htask rfl).elim
  | recover => exact (htask rfl).elim
  | leave receiver =>
      let left : Network α := { network with hearing := network.hearing.erase receiver }
      have hsame := sameUnits_letGo left receiver
      exact h.smooth hsame.windows hsame.resumptions hsame.hands hsame.deferreds
        (streams_letGo left receiver) (by simp)
  | announce name index => exact h.announce name
  | collect action index left answers => exact h.collect action left answers

end Backpressure.Network
