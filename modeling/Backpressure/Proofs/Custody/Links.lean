import Backpressure.Proofs.Grammar.Frames
import Mathlib.Logic.Function.Basic

/-!
# Who holds which link

A receiver that was handed a link calls its feed on it until it is cancelled from below itself. All
that a task can do about links is to hand one over, to call on one that its receiver holds, and to
make a receiver take hold of a link or let go of it. The tasks of that kind which a task adds come
before all others that it adds.

Main results:

- Relation `Handles` lists what a task can do about links.
- Theorem `feedOf_onWindow`, theorem `feedOf_onResumption` and theorem `feedOf_setBridge` say who
  holds what after a unit has done something.
- Theorem `handles_onWindow` and theorem `handles_onResumption` cover what is not about links.
-/

namespace Backpressure

/-- The link on which a bridge still calls: none after its stream was dropped. -/
def Bridge.feed {α ι : Type} (bridge : Bridge α ι) : Option ι :=
  if bridge.dropped then none else bridge.link

namespace Network

variable {α : Type} {network next : Network α} {task : Task α} {added : List (Task α)}
  {receiver : Receiver} {index : Nat}

/-! ## Holding a link -/

/-- The link that a receiver hands to the one below it. -/
def Receiver.link? : Receiver → Option Link
  | .window index => some (.window index)
  | .resumption index => some (.switch index)
  | .probe _ | .bridge _ => none

/-- The link that a receiver holds to call its feed. -/
def feedOf (network : Network α) : Receiver → Option Link
  | .probe index => network.probes[index]?.bind (·.link)
  | .window index => network.windows[index]?.bind (·.unit.feed)
  | .resumption index => network.resumptions[index]?.bind (·.unit.switch.current)
  | .bridge index => network.outlets[index]?.bind (·.unit.feed)

/-- Whether a receiver was cancelled from below. -/
def isCancelled (network : Network α) : Receiver → Bool
  | .probe _ => false
  | .window index => network.windows[index]?.any (·.unit.cancelled)
  | .resumption index => network.resumptions[index]?.any (·.unit.switch.cancelled)
  | .bridge index => network.outlets[index]?.any (·.unit.dropped)

/-- Whether a task is about links: it subscribes, hands over a link, calls on one or binds one. -/
def Task.isLinked : Task α → Bool
  | .subscribe _ _ | .signal _ (.subscribe _) | .order _ _ | .resumption _ (.bind _) => true
  | _ => false

/-- Tasks begin with some, and none of the others is about links. -/
def BeginsWith (front tasks : List (Task α)) : Prop :=
  ∃ others, tasks = front ++ others ∧ ∀ task ∈ others, task.isLinked = false

/-- No task is about links. -/
theorem beginsWith_nil : BeginsWith [] added ↔ ∀ task ∈ added, task.isLinked = false :=
  ⟨fun ⟨_, heq, hothers⟩ => by rwa [heq], fun h => ⟨added, rfl, h⟩⟩

/-- Nothing else follows. -/
theorem beginsWith_self (front : List (Task α)) : BeginsWith front front :=
  ⟨[], (List.append_nil front).symm, fun _ h => absurd h List.not_mem_nil⟩

/-- Actions are not about links. -/
theorem isLinked_map_act (actions : List (Action α)) :
    ∀ task ∈ actions.map Task.act, task.isLinked = false := by
  intro task htask
  obtain ⟨action, -, rfl⟩ := List.mem_map.1 htask
  rfl

/-! ## What a task does about links -/

/-- Who would have to do something about a link is not there, has nothing to do it with, or has
done it before. -/
def IsIdle (network : Network α) : Task α → Prop
  | .signal receiver (.subscribe _) => ¬ network.Knows receiver
  | .resumption index (.bind _) => ¬ network.Knows (.resumption index)
  | .order link .cancel => ∀ receiver, receiver.link? = some link → network.Knows receiver →
      network.isCancelled receiver = true
  | .act (.order name _) => ∀ index, network.probeOf name = some index →
      network.feedOf (.probe index) = none
  | .act (.drop name) => ∀ index, network.outletOf name = some index →
      network.Knows (.bridge index) → network.isCancelled (.bridge index) = true
  | _ => True

/-- A publisher hands a link to a receiver. -/
inductive Offers (network : Network α) : Task α → Receiver → Link → Prop
  | accept {name link : String} {react : Reaction (Action α)} {receiver : Receiver}
      (h : network.subscriberOf name = some receiver) :
      Offers network (.act (.accept name link react)) receiver (.tap (network.tapOf link react).2)
  | hand {name : String} {receiver : Receiver} {index : Nat}
      (h : network.hands.findIdx? (·.name = name) = some index) :
      Offers network (.subscribe (.hand name) receiver) receiver (.hand index)
  | items {supply : Supply α} {receiver : Receiver} {link : Link}
      (h : link = .inert ∨ ∃ index, link = .source index) :
      Offers network (.subscribe (.items supply) receiver) receiver link
  | fail {failure : Failure} {receiver : Receiver} :
      Offers network (.subscribe (.fail failure) receiver) receiver .inert

/-- A receiver is to be subscribed. -/
inductive Enlists (network : Network α) :
    Task α → Publisher α (Action α) → Receiver → Prop
  | subscribe {name : String} {publisher : Publisher α (Action α)} {initial : UInt64}
      {react : Reaction (Action α)} :
      Enlists network (.act (.subscribe name publisher initial react))
        ((network.mention publisher).resolve publisher) (.probe network.probes.length)
  | stream {name : String} {publisher : Publisher α (Action α)} {prefetch : UInt64} :
      Enlists network (.act (.stream name publisher prefetch))
        ((network.mention publisher).resolve publisher) (.bridge network.outlets.length)
  | takeLast {count : Nat} {delaysFailure : Bool} {up : Publisher α (Action α)}
      {receiver : Receiver} :
      Enlists network (.subscribe (.takeLast count delaysFailure up) receiver) up
        (.window network.windows.length)
  | resume {tag : Option String} {recover : Failure → Recovery α (Action α)}
      {up : Publisher α (Action α)} {receiver : Receiver} :
      Enlists network (.subscribe (.resume tag recover up) receiver) up
        (.resumption network.resumptions.length)
  | follow {place : Nat} {failure : Failure} {publisher : Publisher α (Action α)} :
      Enlists network (.recover place failure (.to publisher))
        ((network.mention publisher).resolve publisher) (.resumption place)

/-- A receiver is cancelled from below. -/
inductive Releases (network : Network α) : Task α → Receiver → Prop
  | cancel {receiver : Receiver} {link : Link} (h : receiver.link? = some link) :
      Releases network (.order link .cancel) receiver
  | drop {name : String} {index : Nat} (h : network.outletOf name = some index) :
      Releases network (.act (.drop name)) (.bridge index)
  | announce {name : String} {place index : Nat} (h : network.outletOf name = some index) :
      Releases network (.announce name place) (.bridge index)

/-- What a task does about links: which receiver takes hold of a link or lets go of it, and which
tasks about links it leaves to be done next. -/
inductive Handles (network next : Network α) (added : List (Task α)) : Task α → Prop
  /-- Nothing. -/
  | aside {task : Task α} (idle : network.IsIdle task) (feeds : next.feedOf = network.feedOf)
      (cancelled : next.isCancelled = network.isCancelled) (adds : BeginsWith [] added) :
      Handles network next added task
  /-- A receiver is to be subscribed. -/
  | enlist {task : Task α} {publisher : Publisher α (Action α)} {receiver : Receiver}
      (enlists : Enlists network task publisher receiver) (feeds : next.feedOf = network.feedOf)
      (cancelled : next.isCancelled = network.isCancelled)
      (adds : BeginsWith [.subscribe publisher receiver] added) :
      Handles network next added task
  /-- A publisher hands a link to a receiver. -/
  | offer {task : Task α} {receiver : Receiver} {link : Link}
      (offers : Offers network task receiver link) (feeds : next.feedOf = network.feedOf)
      (cancelled : next.isCancelled = network.isCancelled)
      (adds : BeginsWith [.signal receiver (.subscribe link)] added) :
      Handles network next added task
  /-- A window takes hold of a link, hands its own one down and asks for everything after that. -/
  | take {index : Nat} {link : Link} (below : Receiver)
      (place : network.below? (.window index) = some below)
      (feeds : next.feedOf = Function.update network.feedOf (.window index) (some link))
      (cancelled : next.isCancelled = network.isCancelled)
      (adds : BeginsWith [.signal below (.subscribe (.window index)),
        .order link (.request Demand.unbounded)] added) :
      Handles network next added (.signal (.window index) (.subscribe link))
  /-- A resumption hands its own link down and binds the link after that. -/
  | pass {index : Nat} {link : Link} (below : Receiver)
      (place : network.below? (.resumption index) = some below)
      (feeds : next.feedOf = network.feedOf)
      (cancelled : next.isCancelled = network.isCancelled)
      (adds : BeginsWith [.signal below (.subscribe (.switch index)),
        .resumption index (.bind link)] added) :
      Handles network next added (.signal (.resumption index) (.subscribe link))
  /-- A resumption that has resumed binds the link. -/
  | renew {index : Nat} {link : Link}
      (resumed : network.resumptions[index]?.any (·.unit.resumed) = true)
      (feeds : next.feedOf = network.feedOf)
      (cancelled : next.isCancelled = network.isCancelled)
      (adds : BeginsWith [.resumption index (.bind link)] added) :
      Handles network next added (.signal (.resumption index) (.subscribe link))
  /-- A resumption takes hold of a link, and may ask for items. -/
  | bind {index : Nat} {link : Link} (orders : List Order)
      (active : network.isCancelled (.resumption index) = false)
      (feeds : next.feedOf = Function.update network.feedOf (.resumption index) (some link))
      (cancelled : next.isCancelled = network.isCancelled)
      (requests : orders = [] ∨ ∃ amount, orders = [.request amount])
      (adds : BeginsWith (orders.map (.order link)) added) :
      Handles network next added (.resumption index (.bind link))
  /-- A resumption that was cancelled cancels the link. -/
  | refuse {index : Nat} {link : Link}
      (late : network.isCancelled (.resumption index) = true)
      (feeds : next.feedOf = network.feedOf)
      (cancelled : next.isCancelled = network.isCancelled)
      (adds : BeginsWith [.order link .cancel] added) :
      Handles network next added (.resumption index (.bind link))
  /-- An open stream takes hold of a link and asks for items. -/
  | welcome {index : Nat} {link : Link} (amount : UInt64) (isOpen : network.isOpen index = true)
      (feeds : next.feedOf = Function.update network.feedOf (.bridge index)
        (if network.isCancelled (.bridge index) then none else some link))
      (cancelled : next.isCancelled = network.isCancelled)
      (adds : BeginsWith [.order link (.request amount)] added) :
      Handles network next added (.signal (.bridge index) (.subscribe link))
  /-- A closed stream cancels the link. -/
  | shut {index : Nat} {link : Link} (knows : network.Knows (.bridge index))
      (isShut : network.isOpen index = false)
      (feeds : next.feedOf = Function.update network.feedOf (.bridge index)
        (if network.isCancelled (.bridge index) then none else some link))
      (cancelled : next.isCancelled = network.isCancelled)
      (adds : BeginsWith [.order link .cancel] added) :
      Handles network next added (.signal (.bridge index) (.subscribe link))
  /-- A scripted subscriber takes hold of a link, and may ask for items. -/
  | meet {index : Nat} {link : Link} (orders : List Order)
      (knows : network.Knows (.probe index))
      (feeds : next.feedOf = Function.update network.feedOf (.probe index) (some link))
      (cancelled : next.isCancelled = network.isCancelled)
      (requests : orders = [] ∨ ∃ amount, orders = [.request amount])
      (adds : BeginsWith (orders.map (.order link)) added) :
      Handles network next added (.signal (.probe index) (.subscribe link))
  /-- A scripted subscriber calls on the link that it holds. -/
  | call {name : String} {order : Order} {index : Nat} {link : Link}
      (named : network.probeOf name = some index)
      (holds : network.feedOf (.probe index) = some link) (feeds : next.feedOf = network.feedOf)
      (cancelled : next.isCancelled = network.isCancelled)
      (adds : BeginsWith [.order link order] added) :
      Handles network next added (.act (.order name order))
  /-- A receiver that is no window asks its feed for items. -/
  | ask {task : Task α} {receiver : Receiver} {link : Link} (amount : UInt64)
      (idle : network.IsIdle task) (asker : ∀ index, receiver ≠ .window index)
      (holds : network.feedOf receiver = some link)
      (active : network.isCancelled receiver = false) (feeds : next.feedOf = network.feedOf)
      (cancelled : next.isCancelled = network.isCancelled)
      (adds : BeginsWith [.order link (.request amount)] added) :
      Handles network next added task
  /-- A receiver is cancelled from below, lets go of its link and cancels its feed. -/
  | release {task : Task α} {receiver : Receiver} (releases : Releases network task receiver)
      (active : network.isCancelled receiver = false)
      (feeds : next.feedOf = Function.update network.feedOf receiver none)
      (cancelled : next.isCancelled = Function.update network.isCancelled receiver true)
      (adds : BeginsWith ((network.feedOf receiver).toList.map (.order · .cancel)) added) :
      Handles network next added task

/-! ## Participants -/

/-- Nothing changes among the participants. -/
theorem feedOf_congr (hprobes : next.probes = network.probes)
    (hwindows : next.windows = network.windows)
    (hresumptions : next.resumptions = network.resumptions)
    (houtlets : next.outlets = network.outlets) :
    next.feedOf = network.feedOf ∧ next.isCancelled = network.isCancelled := by
  constructor <;> funext receiver <;> cases receiver <;>
    simp only [feedOf, isCancelled, hprobes, hwindows, hresumptions, houtlets]

/-- A window does something in its place. -/
theorem feedOf_onWindow {stage : Stage (Window α Link)}
    (hstage : network.windows[index]? = some stage)
    (f : Window α Link → Window α Link × List (Effect α Link Pass)) :
    (network.onWindow index f).1.feedOf =
        Function.update network.feedOf (.window index) (f stage.unit).1.feed ∧
      (network.onWindow index f).1.isCancelled =
        Function.update network.isCancelled (.window index) (f stage.unit).1.cancelled := by
  obtain ⟨hlt, -⟩ := List.getElem?_eq_some_iff.1 hstage
  simp only [onWindow, hstage]
  constructor <;> funext receiver <;> by_cases h : receiver = .window index
  · subst h
    simp [feedOf, hlt]
  · rw [Function.update_of_ne h]
    cases receiver with
    | window other =>
        simp only [feedOf]
        rw [List.getElem?_set_ne fun heq => h (congrArg Receiver.window heq.symm)]
    | _ => rfl
  · subst h
    simp [isCancelled, hlt]
  · rw [Function.update_of_ne h]
    cases receiver with
    | window other =>
        simp only [isCancelled]
        rw [List.getElem?_set_ne fun heq => h (congrArg Receiver.window heq.symm)]
    | _ => rfl

/-- A resumption does something in its place. -/
theorem feedOf_onResumption {stage : Resumed α}
    (hstage : network.resumptions[index]? = some stage)
    (f : Resumption Link → Resumption Link × List (Effect α Link (Resumption.Work Link))) :
    (network.onResumption index f).1.feedOf =
        Function.update network.feedOf (.resumption index) (f stage.unit).1.switch.current ∧
      (network.onResumption index f).1.isCancelled =
        Function.update network.isCancelled (.resumption index)
          (f stage.unit).1.switch.cancelled := by
  obtain ⟨hlt, -⟩ := List.getElem?_eq_some_iff.1 hstage
  simp only [onResumption, hstage]
  constructor <;> funext receiver <;> by_cases h : receiver = .resumption index
  · subst h
    simp [feedOf, hlt]
  · rw [Function.update_of_ne h]
    cases receiver with
    | resumption other =>
        simp only [feedOf]
        rw [List.getElem?_set_ne fun heq => h (congrArg Receiver.resumption heq.symm)]
    | _ => rfl
  · subst h
    simp [isCancelled, hlt]
  · rw [Function.update_of_ne h]
    cases receiver with
    | resumption other =>
        simp only [isCancelled]
        rw [List.getElem?_set_ne fun heq => h (congrArg Receiver.resumption heq.symm)]
    | _ => rfl

/-- A bridge is replaced in its place. -/
theorem feedOf_setBridge {outlet : Outlet α} (houtlet : network.outlets[index]? = some outlet)
    (unit : Bridge α Link) (call : Option (Call Link)) :
    (network.setBridge index outlet unit call).1.feedOf =
        Function.update network.feedOf (.bridge index) unit.feed ∧
      (network.setBridge index outlet unit call).1.isCancelled =
        Function.update network.isCancelled (.bridge index) unit.dropped := by
  obtain ⟨hlt, -⟩ := List.getElem?_eq_some_iff.1 houtlet
  simp only [setBridge]
  constructor <;> funext receiver <;> by_cases h : receiver = .bridge index
  · subst h
    simp [feedOf, hlt]
  · rw [Function.update_of_ne h]
    cases receiver with
    | bridge other =>
        simp only [feedOf]
        rw [List.getElem?_set_ne fun heq => h (congrArg Receiver.bridge heq.symm)]
    | _ => rfl
  · subst h
    simp [isCancelled, hlt]
  · rw [Function.update_of_ne h]
    cases receiver with
    | bridge other =>
        simp only [isCancelled]
        rw [List.getElem?_set_ne fun heq => h (congrArg Receiver.bridge heq.symm)]
    | _ => rfl

/-- A stream that is let go keeps what it holds. -/
theorem feedOf_letGo (network : Network α) (receiver : Receiver) :
    (network.letGo receiver).feedOf = network.feedOf ∧
      (network.letGo receiver).isCancelled = network.isCancelled := by
  have hclose : ∀ index, (network.closeStream index).feedOf = network.feedOf ∧
      (network.closeStream index).isCancelled = network.isCancelled := by
    intro index
    unfold closeStream
    split
    next outlet houtlet =>
      have hset := feedOf_setBridge houtlet outlet.unit.close none
      have hfeed : outlet.unit.close.feed = network.feedOf (.bridge index) := by
        simp only [feedOf, houtlet, Option.bind_some]
        rfl
      have hcancelled : outlet.unit.close.dropped = network.isCancelled (.bridge index) := by
        simp only [isCancelled, houtlet]
        rfl
      rw [hfeed, hcancelled, Function.update_eq_self, Function.update_eq_self] at hset
      simp only
      split <;> exact hset
    next => exact ⟨rfl, rfl⟩
  unfold letGo
  split
  · split
    · exact ⟨rfl, rfl⟩
    · exact hclose _
  · exact ⟨rfl, rfl⟩

/-! ## Units -/

/-- What a window holds. -/
theorem feedOf_window {stage : Stage (Window α Link)}
    (hstage : network.windows[index]? = some stage) :
    network.feedOf (.window index) = stage.unit.feed ∧
      network.isCancelled (.window index) = stage.unit.cancelled := by
  simp [feedOf, isCancelled, hstage]

/-- What a resumption holds. -/
theorem feedOf_resumption {stage : Resumed α}
    (hstage : network.resumptions[index]? = some stage) :
    network.feedOf (.resumption index) = stage.unit.switch.current ∧
      network.isCancelled (.resumption index) = stage.unit.switch.cancelled := by
  simp [feedOf, isCancelled, hstage]

/-- What a bridge holds. -/
theorem feedOf_bridge {outlet : Outlet α} (houtlet : network.outlets[index]? = some outlet) :
    network.feedOf (.bridge index) = outlet.unit.feed ∧
      network.isCancelled (.bridge index) = outlet.unit.dropped := by
  simp [feedOf, isCancelled, houtlet]

/-- A source does nothing about links. -/
theorem handles_onSource {f : Source α → Source α × List (Effect α Link Source.Work)}
    (hperform : perform task network = network.onSource index f) (hidle : network.IsIdle task)
    (hquiet : ∀ source below, ∀ effect ∈ (f source).2,
      (taskOf below (Task.source index) effect).isLinked = false) :
    Handles network (perform task network).1 (perform task network).2 task := by
  rw [hperform, onSource]
  split
  next stage _ =>
    refine .aside hidle (feedOf_congr rfl rfl rfl rfl).1 (feedOf_congr rfl rfl rfl rfl).2
      (beginsWith_nil.2 fun task htask => ?_)
    obtain ⟨effect, heffect, rfl⟩ := List.mem_map.1 htask
    exact hquiet stage.unit stage.below effect heffect
  next => exact .aside hidle rfl rfl (beginsWith_self [])

/-- A window does something that is not about links. -/
theorem handles_onWindow {f : Window α Link → Window α Link × List (Effect α Link Pass)}
    (hperform : perform task network = network.onWindow index f) (hidle : network.IsIdle task)
    (hkeeps : ∀ window, (f window).1.feed = window.feed ∧
      (f window).1.cancelled = window.cancelled)
    (hquiet : ∀ window below, ∀ effect ∈ (f window).2,
      (taskOf below (Task.window index) effect).isLinked = false) :
    Handles network (perform task network).1 (perform task network).2 task := by
  rw [hperform]
  cases hstage : network.windows[index]? with
  | none =>
      simp only [onWindow, hstage]
      exact .aside hidle rfl rfl (beginsWith_self [])
  | some stage =>
      obtain ⟨hfeeds, hcancelled⟩ := feedOf_onWindow hstage f
      obtain ⟨hfeed, hdone⟩ := feedOf_window hstage
      obtain ⟨hsame, hstill⟩ := hkeeps stage.unit
      rw [hsame, ← hfeed, Function.update_eq_self] at hfeeds
      rw [hstill, ← hdone, Function.update_eq_self] at hcancelled
      refine .aside hidle hfeeds hcancelled (beginsWith_nil.2 fun task htask => ?_)
      simp only [onWindow, hstage] at htask
      obtain ⟨effect, heffect, rfl⟩ := List.mem_map.1 htask
      exact hquiet stage.unit stage.below effect heffect

/-- A resumption does something that is not about links. -/
theorem handles_onResumption
    {f : Resumption Link → Resumption Link × List (Effect α Link (Resumption.Work Link))}
    (hperform : perform task network = network.onResumption index f)
    (hidle : network.IsIdle task)
    (hkeeps : ∀ resumption, (f resumption).1.switch.current = resumption.switch.current ∧
      (f resumption).1.switch.cancelled = resumption.switch.cancelled)
    (hquiet : ∀ resumption below, ∀ effect ∈ (f resumption).2,
      (taskOf below (Task.resumption index) effect).isLinked = false) :
    Handles network (perform task network).1 (perform task network).2 task := by
  rw [hperform]
  cases hstage : network.resumptions[index]? with
  | none =>
      simp only [onResumption, hstage]
      exact .aside hidle rfl rfl (beginsWith_self [])
  | some stage =>
      obtain ⟨hfeeds, hcancelled⟩ := feedOf_onResumption hstage f
      obtain ⟨hfeed, hdone⟩ := feedOf_resumption hstage
      obtain ⟨hsame, hstill⟩ := hkeeps stage.unit
      rw [hsame, ← hfeed, Function.update_eq_self] at hfeeds
      rw [hstill, ← hdone, Function.update_eq_self] at hcancelled
      refine .aside hidle hfeeds hcancelled (beginsWith_nil.2 fun task htask => ?_)
      simp only [onResumption, hstage] at htask
      obtain ⟨effect, heffect, rfl⟩ := List.mem_map.1 htask
      exact hquiet stage.unit stage.below effect heffect

/-- The terminal signal of a drain hands over no link. -/
theorem isLinked_conclusion (drain : Drain α) (ending : Ending) (receiver : Receiver) :
    (Task.signal receiver (drain.conclusion ending)).isLinked = false := by
  cases ending with
  | completion => rfl
  | heldFailure =>
      unfold Drain.conclusion
      simp only
      split <;> rfl

/-- The termination of a window is not about links. -/
theorem isLinked_terminate (drain : Drain α) (ending : Ending) (below : Receiver) :
    ∀ effect ∈ (Window.terminate drain ending : List (Effect α Link Pass)),
      (taskOf below (Task.window index) effect).isLinked = false := by
  intro effect heffect
  unfold Window.terminate at heffect
  split at heffect <;> obtain rfl := List.mem_singleton.1 heffect
  · rfl
  · exact isLinked_conclusion drain ending below

/-- A failure of the feed of a window is not about links. -/
theorem isLinked_fail (window : Window α Link) (failure : Failure) (below : Receiver) :
    ∀ effect ∈ (window.fail failure).2,
      (taskOf below (Task.window index) effect).isLinked = false := by
  intro effect heffect
  unfold Window.fail at heffect
  split at heffect
  · split at heffect
    · exact absurd heffect List.not_mem_nil
    · exact isLinked_terminate _ _ below effect heffect
  · simp only at heffect
    split at heffect
    · exact absurd heffect List.not_mem_nil
    · obtain rfl := List.mem_singleton.1 heffect
      rfl

/-- A failure of the feed of a window leaves its link alone. -/
theorem feed_fail (window : Window α Link) (failure : Failure) :
    (window.fail failure).1.feed = window.feed ∧
      (window.fail failure).1.cancelled = window.cancelled := by
  unfold Window.fail
  split
  · split <;> exact ⟨rfl, rfl⟩
  · exact ⟨rfl, rfl⟩

/-- A pass of a window is not about links. -/
theorem isLinked_go (window : Window α Link) (pass : Pass) (below : Receiver) :
    ∀ effect ∈ (window.go pass).2,
      (taskOf below (Task.window index) effect).isLinked = false := by
  intro effect heffect
  simp only [Window.go] at heffect
  split at heffect
  · exact absurd heffect List.not_mem_nil
  · rcases List.mem_cons.1 heffect with rfl | heffect
    · rfl
    · obtain rfl := List.mem_singleton.1 heffect
      rfl
  · obtain rfl := List.mem_singleton.1 heffect
    exact isLinked_conclusion _ _ below
  · obtain rfl := List.mem_singleton.1 heffect
    rfl

end Network

end Backpressure
