import Backpressure.Agenda
import Backpressure.Network.Holding

/-!
# Runs of a network

Actions, signals and calls are performed one task at a time. A unit answers a task by effects,
which become the tasks that come next; what a unit still has to do after a call stays on the
agenda behind it.

Main results:

- Theorem `perform_order_inert` shows that a call on an inert link does nothing.
- Theorem `trace_perform_ret` shows that the end of an action is recorded with its result.
-/

namespace Backpressure.Network

/-- What is left to be done in a network. -/
inductive Task (α : Type) where
  | act (action : Action α)
  | ret (action : Action α) (result : Result α)
  /-- Deliver a signal. -/
  | signal (receiver : Receiver) (delivery : Delivery α Link)
  /-- Make a call. -/
  | order (link : Link) (order : Order)
  /-- Subscribe a receiver to a publisher. -/
  | subscribe (publisher : Publisher α (Action α)) (receiver : Receiver)
  /-- Own work of a source. -/
  | source (index : Nat) (work : Source.Work)
  /-- Own work of a window. -/
  | window (index : Nat) (pass : Pass)
  /-- Own work of a resumption. -/
  | resumption (index : Nat) (work : Resumption.Work Link)
  /-- Follow a recovery of a resumption from a failure. -/
  | recover (index : Nat) (failure : Failure) (recovery : Recovery α (Action α))
  /-- A signal by hand has returned, and its receiver is let go. -/
  | leave (receiver : Receiver)
  /-- A stream has subscribed: from now on a name means it, and the stream that the name meant is
  dropped. -/
  | announce (name : String) (index : Nat)
  /-- Go on polling a stream for an action, with the answers so far. -/
  | collect (action : Action α) (index : Nat) (left : Nat) (answers : List (Poll α))

variable {α : Type}

/-! ## Units -/

/-- The task that an effect of a unit becomes. -/
def taskOf {κ : Type} (below : Receiver) (work : κ → Task α) : Effect α Link κ → Task α
  | .signal delivery => .signal below delivery
  | .order link order => .order link order
  | .go own => work own

/-- Let the source at an index do something. -/
def onSource (network : Network α) (index : Nat)
    (f : Source α → Source α × List (Effect α Link Source.Work)) :
    Network α × List (Task α) :=
  match network.sources[index]? with
  | some stage =>
      let (unit, effects) := f stage.unit
      ({ network with sources := network.sources.set index { stage with unit } },
        effects.map (taskOf stage.below (.source index)))
  | none => (network, [])

/-- Let the window at an index do something. -/
def onWindow (network : Network α) (index : Nat)
    (f : Window α Link → Window α Link × List (Effect α Link Pass)) :
    Network α × List (Task α) :=
  match network.windows[index]? with
  | some stage =>
      let (unit, effects) := f stage.unit
      ({ network with windows := network.windows.set index { stage with unit } },
        effects.map (taskOf stage.below (.window index)))
  | none => (network, [])

/-- Let the resumption at an index do something. -/
def onResumption (network : Network α) (index : Nat)
    (f : Resumption Link → Resumption Link × List (Effect α Link (Resumption.Work Link))) :
    Network α × List (Task α) :=
  match network.resumptions[index]? with
  | some stage =>
      let (unit, effects) := f stage.unit
      ({ network with resumptions := network.resumptions.set index { stage with unit } },
        effects.map (taskOf stage.below (.resumption index)))
  | none => (network, [])

/-- Replace the bridge of the stream at an index, and make the call it asks for. -/
def setBridge (network : Network α) (index : Nat) (outlet : Outlet α)
    (unit : Bridge α Link) (call : Option (Call Link)) : Network α × List (Task α) :=
  ({ network with outlets := network.outlets.set index { outlet with unit } },
    call.toList.map fun call => .order call.1 call.2)

/-! ## Signals -/

/-- Let a scripted subscriber hear a signal: it may ask for items, and then reacts. -/
def hearProbe (network : Network α) (index : Nat) (delivery : Delivery α Link) :
    Network α × List (Task α) :=
  match network.probes[index]? with
  | some probe =>
      (({ network with probes := network.probes.set index (probe.hear delivery) }).log
        (.heard probe.name delivery.signal),
        (probe.opening delivery).toList.map (fun call => Task.order call.1 call.2) ++
          (probe.answer delivery).map Task.act)
  | none => (network, [])

/-- Let a bridge hear a signal; its waker fires if it was armed. -/
def hearBridge (network : Network α) (index : Nat) (delivery : Delivery α Link) :
    Network α × List (Task α) :=
  match network.outlets[index]? with
  | some outlet =>
      let (unit, call) := outlet.unit.hear delivery
      let (next, tasks) := network.setBridge index outlet unit call
      (if outlet.unit.wakes delivery then next.log (.woke outlet.name) else next, tasks)
  | none => (network, [])

/-- Deliver a signal. -/
def deliver (network : Network α) (delivery : Delivery α Link) :
    Receiver → Network α × List (Task α)
  | .probe index => network.hearProbe index delivery
  | .window index => network.onWindow index (·.hear (.window index) delivery)
  | .resumption index => network.onResumption index (·.hear (.switch index) delivery)
  | .bridge index => network.hearBridge index delivery

/-! ## Calls -/

/-- Let a publisher driven by hand take a call on its link. -/
def callHand (network : Network α) (index : Nat) (order : Order) : Network α :=
  { network with
    hands := network.hands.modify index fun hand =>
      { hand with ledger := hand.ledger.record order } }

/-- Let a scripted link take a call, and react. -/
def callTap (network : Network α) (index : Nat) (order : Order) : Network α × List (Task α) :=
  match network.taps[index]? with
  | some tap =>
      (({ network with taps := network.taps.set index (tap.take order) }).log
        (.ordered tap.name order), (tap.answer order).map Task.act)
  | none => (network, [])

/-- Make a call. -/
def call (network : Network α) (order : Order) : Link → Network α × List (Task α)
  | .inert => (network, [])
  | .source index => network.onSource index (·.take order)
  | .window index => network.onWindow index (·.take order)
  | .switch index => network.onResumption index (·.take order)
  | .hand index => (network.callHand index order, [])
  | .tap index => network.callTap index order

/-! ## Subscriptions -/

/-- Subscribe a receiver to the publisher driven by hand at an index, which lets go of the
subscriber it had. -/
def subscribeHand (network : Network α) (index : Nat) (receiver : Receiver) : Network α :=
  let next : Network α :=
    { network with
      hands := network.hands.modify index fun hand =>
        { hand with subscriber := some receiver, subscribed := hand.subscribed + 1 } }
  (network.hands[index]?.bind (·.subscriber)).elim next next.letGo

/-- Subscribe a receiver to the deferred publisher of a name, which lets go of the subscriber it
had. -/
def subscribeDeferred (network : Network α) (name : String) (receiver : Receiver) : Network α :=
  let next : Network α :=
    { network with
      deferreds := network.deferreds.map fun deferred =>
        if deferred.name = name then { deferred with subscriber := some receiver } else deferred }
  ((network.deferreds.find? (·.name = name)).bind (·.subscriber)).elim next next.letGo

/-- Subscribe a receiver to a publisher: an operator puts a unit above the receiver and
subscribes that one to its feed. -/
def subscribe (network : Network α) (receiver : Receiver) :
    Publisher α (Action α) → Network α × List (Task α)
  | .items supply =>
      if supply.isEmpty then
        (network, [.signal receiver (.subscribe .inert), .signal receiver .complete])
      else
        ({ network with sources := network.sources ++ [network.stage receiver { items := supply }] },
          [.signal receiver (.subscribe (.source network.sources.length))])
  | .fail failure =>
      (network, [.signal receiver (.subscribe .inert), .signal receiver (.error failure)])
  | .hand name =>
      match network.hands.findIdx? (·.name = name) with
      | some index =>
          (network.subscribeHand index receiver, [.signal receiver (.subscribe (.hand index))])
      | none => (network, [])
  | .deferred name => (network.subscribeDeferred name receiver, [])
  | .named _ => (network, [])
  | .takeLast count delaysFailure up =>
      ({ network with
          windows := network.windows ++ [network.stage receiver (.ofSize count delaysFailure)] },
        [.subscribe up (.window network.windows.length)])
  | .resume tag recover up =>
      ({ network with
          resumptions := network.resumptions ++
            [{ toStage := network.stage receiver {}, tag, recover }] },
        [.subscribe up (.resumption network.resumptions.length)])

/-- Follow a recovery. A publisher is subscribed in the place of the failed one; a recovery that
fails ends the pipeline with both failures. -/
def follow (network : Network α) (index : Nat) (failure : Failure) :
    Recovery α (Action α) → Network α × List (Task α)
  | .perform actions next => (network, actions.map Task.act ++ [.recover index failure next])
  | .to publisher =>
      let next := network.mention publisher
      (next, [.subscribe (next.resolve publisher) (.resumption index)])
  | recovery =>
      match network.resumptions[index]?, recovery.failure? with
      | some stage, some second =>
          (network, [.signal stage.below (.error (failure.join second))])
      | _, _ => (network, [])

/-- Go on with the work of a resumption. A failure is put before its recovery. -/
def resume (network : Network α) (index : Nat) :
    Resumption.Work Link → Network α × List (Task α)
  | .bind link => network.onResumption index (·.bind link)
  | .count => network.onResumption index fun unit => (unit.count, [])
  | .recover failure =>
      match network.resumptions[index]? with
      | some stage =>
          (network.log (.recovering stage.tag failure),
            [.recover index failure (stage.recover failure)])
      | none => (network, [])

/-! ## Streams -/

/-- Poll the stream at an index. -/
def poll (network : Network α) (index : Nat) : Network α × Poll α × List (Task α) :=
  match network.outlets[index]? with
  | some outlet =>
      let (unit, answer, call) := outlet.unit.poll
      let (next, tasks) := network.setBridge index outlet unit call
      (next, answer, tasks)
  | none => (network, .gone, [])

/-- Drop the stream at an index. -/
def drop (network : Network α) (index : Nat) : Network α × List (Task α) :=
  match network.outlets[index]? with
  | some outlet =>
      let (unit, call) := outlet.unit.drop
      network.setBridge index outlet unit call
  | none => (network, [])

/-- Let a name mean the stream at an index, and drop the stream that it meant. -/
def announce (network : Network α) (name : String) (index : Nat) : Network α × List (Task α) :=
  let next : Network α := { network with streams := (name, index) :: network.streams }
  match network.outletOf name with
  | some previous => next.drop previous
  | none => (next, [])

/-- Let go of the receiver of a signal by hand. -/
def leave (network : Network α) (receiver : Receiver) : Network α :=
  let next : Network α := { network with hearing := network.hearing.erase receiver }
  next.letGo receiver

/-- Go on collecting the answers of a stream: an answer that is no item is the last one. -/
def collect (network : Network α) (action : Action α) (index left : Nat)
    (answers : List (Poll α)) : Network α × List (Task α) :=
  match left with
  | 0 => (network, [.ret action (.collected answers)])
  | left + 1 =>
      let (next, answer, tasks) := network.poll index
      match answer with
      | .item _ => (next, tasks ++ [.collect action index left (answers ++ [answer])])
      | _ => (next, tasks ++ [.ret action (.collected (answers ++ [answer]))])

/-! ## Actions -/

/-- Signal by hand, if someone has subscribed. The subscriber is held until the signals have
returned. -/
def signalByHand (network : Network α) (action : Action α) (name : String)
    (deliveries : List (Delivery α Link)) : Network α × List (Task α) :=
  match network.subscriberOf name with
  | some receiver =>
      ({ network with hearing := receiver :: network.hearing },
        deliveries.map (Task.signal receiver) ++ [.leave receiver, .ret action .done])
  | none => (network, [.ret action (.misused .noSubscriber)])

/-- Begin an action: the network after its immediate effect, and the tasks it starts, the last
of which ends it. -/
def begin (network : Network α) (action : Action α) : Network α × List (Task α) :=
  match action with
  | .define name publisher =>
      let next := network.mention publisher
      ({ next with definitions := next.definitions ++ [(name, next.resolve publisher)] },
        [.ret action .done])
  | .subscribe name publisher initial react =>
      let next := network.mention publisher
      ({ next with probes := next.probes ++ [{ name, initial, react }] },
        [.subscribe (next.resolve publisher) (.probe next.probes.length), .ret action .done])
  | .order name order =>
      match (network.probeOf name).bind (network.probes[·]?) |>.bind (·.link) with
      | some link => (network, [.order link order, .ret action .done])
      | none => (network, [.ret action (.misused .notSubscribed)])
  | .next name x => network.signalByHand action name [.next x]
  | .nextAll name xs => network.signalByHand action name (xs.map .next)
  | .complete name => network.signalByHand action name [.complete]
  | .error name failure => network.signalByHand action name [.error failure]
  | .accept name link react =>
      let (next, index) := network.tapOf link react
      next.signalByHand action name [.subscribe (.tap index)]
  | .stream name publisher prefetch =>
      let next := network.mention publisher
      ({ next with outlets := next.outlets ++ [{ name, unit := .ofPrefetch prefetch }] },
        [.subscribe (next.resolve publisher) (.bridge next.outlets.length),
          .announce name next.outlets.length, .ret action .done])
  | .poll name =>
      match network.outletOf name with
      | some index =>
          let (next, answer, tasks) := network.poll index
          (next, tasks ++ [.ret action (.polled answer)])
      | none => (network, [.ret action (.polled .gone)])
  | .collect name most =>
      match network.outletOf name with
      | some index => (network, [.collect action index most []])
      | none => (network, [.ret action (.collected [.gone])])
  | .drop name =>
      match network.outletOf name with
      | some index =>
          let (next, tasks) := network.drop index
          (next, tasks ++ [.ret action .done])
      | none => (network, [.ret action .done])

/-! ## Runs -/

/-- Perform one task. -/
def perform : Agenda.Performer (Network α) (Task α)
  | .act action, network => (network.log (.called action)).begin action
  | .ret action result, network => (network.log (.returned action result), [])
  | .signal receiver delivery, network => network.deliver delivery receiver
  | .order link order, network => network.call order link
  | .subscribe publisher receiver, network => network.subscribe receiver publisher
  | .source index work, network => network.onSource index (·.go work)
  | .window index pass, network => network.onWindow index (·.go pass)
  | .resumption index work, network => network.resume index work
  | .recover index failure recovery, network => network.follow index failure recovery
  | .leave receiver, network => (network.leave receiver, [])
  | .announce name index, network => network.announce name index
  | .collect action index left answers, network => network.collect action index left answers

/-- Perform an action and everything that follows from it, within the fuel. -/
def play (fuel : Nat) (network : Network α) (action : Action α) : Network α :=
  (Agenda.run perform fuel ⟨network, [.act action]⟩).state

/-- A call on an inert link does nothing. -/
@[simp] theorem perform_order_inert (network : Network α) (order : Order) :
    perform (.order .inert order) network = (network, []) := rfl

/-- The end of an action is recorded with its result. -/
@[simp] theorem trace_perform_ret (network : Network α) (action : Action α)
    (result : Result α) :
    (perform (.ret action result) network).1.trace =
      network.trace ++ [.returned action result] := rfl

end Backpressure.Network
