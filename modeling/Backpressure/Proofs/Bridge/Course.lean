import Backpressure.Network.Run
import Backpressure.Signal.Grammar
import Backpressure.Proofs.Agenda
import Mathlib.Algebra.Ring.Nat

/-!
# The course of one bridge

A bridge is seen from two sides: its publisher signals to it and is called by it, and its stream is
polled and dropped. A course is what happens there, turn after turn, whatever goes on elsewhere in
between. The channel between the two sides is a queue that takes nothing once it is closed, and that
still hands out what it holds.

Main results:

- Theorem `bridgeMoves_perform` sees every task of a network as a move of the bridge at an index.
- Theorem `bridgeStands_of_run` sees every run from an empty network as a course of that bridge.
-/

namespace Backpressure

namespace Bridge

variable {α ι : Type}

/-! ## Turns -/

/-- What happens at a bridge. -/
inductive Turn (α ι : Type) where
  /-- The bridge is made, to ask for a number of items ahead. -/
  | made (prefetch : UInt64)
  /-- The publisher signals. -/
  | heard (delivery : Delivery α ι)
  /-- A call is made on the link to the publisher. -/
  | issued (link : ι) (order : Order)
  /-- The stream is polled. -/
  | polled (answer : Poll α)
  /-- Nobody holds the bridge any more, and its channel is closed for that. -/
  | released
  /-- The stream is dropped. -/
  | dropped

namespace Turn

/-- The signal that a turn hears. -/
def signal? : Turn α ι → Option (Signal α)
  | .heard delivery => some delivery.signal
  | _ => none

/-- The item that a turn adds to the channel, while that is open. -/
def item? : Turn α ι → Option (Item α)
  | .heard (.next x) => some (.value x)
  | .heard (.error failure) => some (.failed failure)
  | _ => none

/-- Whether a turn closes the channel. -/
def closes : Turn α ι → Bool
  | .heard delivery => delivery.signal.isTerminal
  | .released | .dropped => true
  | _ => false

/-- Whether a turn drops the stream. -/
def drops : Turn α ι → Bool
  | .dropped => true
  | _ => false

/-- The answer of a poll. -/
def answer? : Turn α ι → Option (Poll α)
  | .polled answer => some answer
  | _ => none

/-- The item that a poll hands out. -/
def taken? : Turn α ι → Option (Item α)
  | .polled (.item item) => some item
  | _ => none

/-- How many items a turn asks the publisher for. -/
def amount : Turn α ι → Nat
  | .issued _ (.request amount) => amount.toNat
  | _ => 0

/-- What the publisher has signalled. -/
def signals (turns : List (Turn α ι)) : List (Signal α) := turns.filterMap signal?

/-- What the polls have answered. -/
def answers (turns : List (Turn α ι)) : List (Poll α) := turns.filterMap answer?

/-- The items that were handed out. -/
def taken (turns : List (Turn α ι)) : List (Item α) := turns.filterMap taken?

/-- How many items the publisher was asked for. -/
def demanded (turns : List (Turn α ι)) : Nat := (turns.map amount).sum

/-- Whether the channel was closed. -/
def isClosed (turns : List (Turn α ι)) : Bool := turns.any closes

/-- Whether the stream was dropped. -/
def isDropped (turns : List (Turn α ι)) : Bool := turns.any drops

/-- The items that a stream is to hand out: those that were signalled before the first terminal
signal, and then the failure if that signal was one. -/
def offered : List (Turn α ι) → List (Item α)
  | [] => []
  | turn :: rest => turn.item?.toList ++ if turn.closes then [] else offered rest

/-- The signals of two stretches in a row. -/
@[simp] theorem signals_append (first second : List (Turn α ι)) :
    signals (first ++ second) = signals first ++ signals second :=
  List.filterMap_append

/-- The answers of two stretches in a row. -/
@[simp] theorem answers_append (first second : List (Turn α ι)) :
    answers (first ++ second) = answers first ++ answers second :=
  List.filterMap_append

/-- The items handed out in two stretches in a row. -/
@[simp] theorem taken_append (first second : List (Turn α ι)) :
    taken (first ++ second) = taken first ++ taken second :=
  List.filterMap_append

/-- The demand of two stretches in a row. -/
@[simp] theorem demanded_append (first second : List (Turn α ι)) :
    demanded (first ++ second) = demanded first + demanded second := by
  rw [demanded, List.map_append, List.sum_append, demanded, demanded]

/-- A channel that two stretches leave open. -/
@[simp] theorem isClosed_append (first second : List (Turn α ι)) :
    isClosed (first ++ second) = (isClosed first || isClosed second) :=
  List.any_append

/-- A stream that is dropped in one of two stretches. -/
@[simp] theorem isDropped_append (first second : List (Turn α ι)) :
    isDropped (first ++ second) = (isDropped first || isDropped second) :=
  List.any_append

/-- The answer of one turn. -/
@[simp] theorem answers_singleton (turn : Turn α ι) : answers [turn] = turn.answer?.toList := by
  rw [answers, List.filterMap_cons]
  split
  next h => rw [h]; rfl
  next answer h => rw [h]; rfl

/-- The item handed out in one turn. -/
@[simp] theorem taken_singleton (turn : Turn α ι) : taken [turn] = turn.taken?.toList := by
  rw [taken, List.filterMap_cons]
  split
  next h => rw [h]; rfl
  next item h => rw [h]; rfl

/-- Whether one turn closes the channel. -/
@[simp] theorem isClosed_singleton (turn : Turn α ι) : isClosed [turn] = turn.closes :=
  Bool.or_false _

/-- Whether one turn drops the stream. -/
@[simp] theorem isDropped_singleton (turn : Turn α ι) : isDropped [turn] = turn.drops :=
  Bool.or_false _

/-- What is offered after a channel was closed is lost. -/
theorem offered_append (first second : List (Turn α ι)) :
    offered (first ++ second) =
      offered first ++ if isClosed first then [] else offered second := by
  induction first with
  | nil => rfl
  | cons turn rest ih =>
      have hclosed : isClosed (turn :: rest) = (turn.closes || isClosed rest) := rfl
      rw [List.cons_append, offered, offered, ih, hclosed]
      cases turn.closes <;> simp

/-- The turns of the call that a bridge asks for. -/
def ofCall (call : Option (Call ι)) : List (Turn α ι) :=
  call.toList.map fun call => .issued call.1 call.2

/-- The turns of a signal to a bridge. -/
def ofHear (delivery : Delivery α ι) (bridge : Bridge α ι) : List (Turn α ι) :=
  .heard delivery :: ofCall (bridge.hear delivery).2

/-- The turns of a poll. -/
def ofPoll (bridge : Bridge α ι) : List (Turn α ι) :=
  .polled bridge.poll.2.1 :: ofCall bridge.poll.2.2

/-- The turns of dropping a stream. -/
def ofDrop (bridge : Bridge α ι) : List (Turn α ι) := .dropped :: ofCall bridge.drop.2

end Turn

/-! ## Courses -/

/-- What can happen at a bridge next, with the turns it takes. -/
inductive Moves : Bridge α ι → List (Turn α ι) → Bridge α ι → Prop
  /-- Something happens elsewhere; the waker may be fired. -/
  | other {bridge : Bridge α ι} (armed : Bool) : Moves bridge [] { bridge with armed }
  | hear {bridge : Bridge α ι} (delivery : Delivery α ι) :
      Moves bridge (Turn.ofHear delivery bridge) (bridge.hear delivery).1
  | poll {bridge : Bridge α ι} : Moves bridge (Turn.ofPoll bridge) bridge.poll.1
  | release {bridge : Bridge α ι} (opened : bridge.closed = false) :
      Moves bridge [.released] bridge.close
  | drop {bridge : Bridge α ι} : Moves bridge (Turn.ofDrop bridge) bridge.drop.1

/-- The turns that can take a new bridge to a state. -/
inductive Course (prefetch : UInt64) : List (Turn α ι) → Bridge α ι → Prop
  | start : Course prefetch [.made prefetch] (.ofPrefetch prefetch)
  | step {turns more : List (Turn α ι)} {bridge next : Bridge α ι}
      (before : Course prefetch turns bridge) (moves : Moves bridge more next) :
      Course prefetch (turns ++ more) next

/-- A course begins with the number of items to ask for ahead. -/
theorem Course.head {prefetch : UInt64} {turns : List (Turn α ι)} {bridge : Bridge α ι}
    (h : Course prefetch turns bridge) : turns.head? = some (.made prefetch) := by
  induction h with
  | start => rfl
  | step before moves ih => rw [List.head?_append, ih, Option.some_or]

/-- Nothing happens. -/
theorem Moves.stay {bridge : Bridge α ι} : Moves bridge [] bridge := .other bridge.armed

end Bridge

namespace Network

variable {α : Type} {index : Nat} {network next : Network α} {task : Task α} {outlet : Outlet α}

/-! ## What a run shows of a bridge -/

/-- Whether the channel of the stream at an index takes items. -/
def isOpen (network : Network α) (index : Nat) : Bool :=
  network.outlets[index]?.any (!·.unit.closed)

/-- The turns of a bridge that a task takes. A stream at an index is there from the action on that
makes it. -/
def bridgeTurns (index : Nat) (task : Task α) (network : Network α) : List (Bridge.Turn α Link) :=
  match network.outlets[index]? with
  | none =>
      match task with
      | .act (.stream _ _ prefetch) =>
          if network.outlets.length = index then [.made prefetch] else []
      | _ => []
  | some outlet =>
      match task with
      | .signal (.bridge other) delivery =>
          if other = index then Bridge.Turn.ofHear delivery outlet.unit else []
      | .act (.poll name) =>
          if network.outletOf name = some index then Bridge.Turn.ofPoll outlet.unit else []
      | .collect _ other (_ + 1) _ =>
          if other = index then Bridge.Turn.ofPoll outlet.unit else []
      | .act (.drop name) | .announce name _ =>
          if network.outletOf name = some index then Bridge.Turn.ofDrop outlet.unit else []
      | .leave _ | .subscribe _ _ =>
          if network.isOpen index && !(perform task network).1.isOpen index then [.released]
          else []
      | _ => []

/-- The turns of the bridge at an index in a run. -/
def bridgeCourse (index : Nat) (fuel : Nat) (agenda : Agenda (Network α) (Task α)) :
    List (Bridge.Turn α Link) :=
  Agenda.observe (bridgeTurns index) perform fuel agenda

/-! ## Streams that are left alone -/

/-- Making publishers driven by hand leaves the streams alone. -/
theorem outlets_mention (network : Network α) (publisher : Publisher α (Action α)) :
    (network.mention publisher).outlets = network.outlets := by
  obtain ⟨hands, deferreds, hmention⟩ := network.exists_mention publisher
  rw [hmention]

/-- A source leaves the streams alone. -/
theorem outlets_onSource (network : Network α) (place : Nat)
    (f : Source α → Source α × List (Effect α Link Source.Work)) :
    (network.onSource place f).1.outlets = network.outlets := by
  unfold onSource
  split <;> rfl

/-- A window leaves the streams alone. -/
theorem outlets_onWindow (network : Network α) (place : Nat)
    (f : Window α Link → Window α Link × List (Effect α Link Pass)) :
    (network.onWindow place f).1.outlets = network.outlets := by
  unfold onWindow
  split <;> rfl

/-- A resumption leaves the streams alone. -/
theorem outlets_onResumption (network : Network α) (place : Nat)
    (f : Resumption Link → Resumption Link × List (Effect α Link (Resumption.Work Link))) :
    (network.onResumption place f).1.outlets = network.outlets := by
  unfold onResumption
  split <;> rfl

/-- A scripted subscriber leaves the streams alone. -/
theorem outlets_hearProbe (network : Network α) (place : Nat) (delivery : Delivery α Link) :
    (network.hearProbe place delivery).1.outlets = network.outlets := by
  unfold hearProbe
  split <;> rfl

/-- A call leaves the streams alone. -/
theorem outlets_call (network : Network α) (order : Order) (link : Link) :
    (network.call order link).1.outlets = network.outlets := by
  cases link with
  | source place => exact outlets_onSource _ _ _
  | window place => exact outlets_onWindow _ _ _
  | switch place => exact outlets_onResumption _ _ _
  | tap place =>
      simp only [call, callTap]
      split <;> rfl
  | inert | hand place => rfl

/-- The work of a resumption leaves the streams alone. -/
theorem outlets_resume (network : Network α) (place : Nat) (work : Resumption.Work Link) :
    (network.resume place work).1.outlets = network.outlets := by
  cases work with
  | bind link => exact outlets_onResumption _ _ _
  | count => exact outlets_onResumption _ _ _
  | recover failure =>
      simp only [resume]
      split <;> rfl

/-- Following a recovery leaves the streams alone. -/
theorem outlets_follow (network : Network α) (place : Nat) (failure : Failure)
    (recovery : Recovery α (Action α)) :
    (network.follow place failure recovery).1.outlets = network.outlets := by
  unfold follow
  split
  · rfl
  · exact outlets_mention _ _
  · split <;> rfl

/-- Starting a signal by hand leaves the streams alone. -/
theorem outlets_signalByHand (network : Network α) (action : Action α) (name : String)
    (deliveries : List (Delivery α Link)) :
    (network.signalByHand action name deliveries).1.outlets = network.outlets := by
  unfold signalByHand
  split <;> rfl

/-- Finding a scripted link leaves the streams alone. -/
theorem outlets_tapOf (network : Network α) (name : String) (react : Reaction (Action α)) :
    (network.tapOf name react).1.outlets = network.outlets := by
  unfold tapOf
  split <;> rfl

/-! ## Streams that are let go -/

/-- Letting go of a receiver closes a stream, or fires nothing. -/
theorem outlet_letGo (receiver : Receiver) (h : network.outlets[index]? = some outlet) :
    (network.letGo receiver).outlets[index]? = some outlet ∨
      (network.letGo receiver).outlets[index]? =
        some { outlet with unit := outlet.unit.close } := by
  unfold letGo closeStream
  split
  next place _ =>
    split
    · exact .inl h
    · split
      next found hfound =>
        by_cases hplace : place = index
        · subst hplace
          rw [h] at hfound
          cases hfound
          right
          have hlt := (List.getElem?_eq_some_iff.1 h).1
          simp only
          split <;> exact List.getElem?_set_self hlt
        · left
          simp only
          split <;> exact (List.getElem?_set_ne hplace).trans h
      next => exact .inl h
  next => exact .inl h

/-- Letting go of a receiver, if there is one. -/
private theorem outlet_elim_letGo (receiver : Option Receiver)
    (h : network.outlets[index]? = some outlet) :
    (receiver.elim network network.letGo).outlets[index]? = some outlet ∨
      (receiver.elim network network.letGo).outlets[index]? =
        some { outlet with unit := outlet.unit.close } := by
  cases receiver with
  | none => exact .inl h
  | some receiver => exact outlet_letGo receiver h

/-- Letting go of a receiver makes no stream. -/
theorem length_outlets_letGo (network : Network α) (receiver : Receiver) :
    (network.letGo receiver).outlets.length = network.outlets.length := by
  unfold letGo closeStream
  split
  · split
    · rfl
    · split
      · simp only
        split <;> exact List.length_set
      · rfl
  · rfl

/-- Subscribing a receiver closes a stream, or fires nothing. -/
theorem outlet_subscribe (receiver : Receiver) (publisher : Publisher α (Action α))
    (h : network.outlets[index]? = some outlet) :
    (network.subscribe receiver publisher).1.outlets[index]? = some outlet ∨
      (network.subscribe receiver publisher).1.outlets[index]? =
        some { outlet with unit := outlet.unit.close } := by
  cases publisher with
  | items supply =>
      simp only [subscribe]
      split <;> exact .inl h
  | hand name =>
      simp only [subscribe]
      split
      · exact outlet_elim_letGo _ h
      · exact .inl h
  | deferred name => exact outlet_elim_letGo _ h
  | fail | named | takeLast | resume => exact .inl h

/-! ## One task -/

/-- The bridge of a stream makes a move. -/
def BridgeMoves (index : Nat) (outlet : Outlet α) (turns : List (Bridge.Turn α Link))
    (next : Network α) : Prop :=
  ∃ unit, next.outlets[index]? = some { outlet with unit } ∧ Bridge.Moves outlet.unit turns unit

/-- A task that leaves the streams alone. -/
theorem BridgeMoves.of_outlets_eq (h : network.outlets[index]? = some outlet)
    (hsame : next.outlets = network.outlets) : BridgeMoves index outlet [] next :=
  ⟨outlet.unit, by rw [hsame]; exact h, .stay⟩

/-- What is done about one stream moves its bridge, and leaves the others alone. -/
private theorem BridgeMoves.of_touch {place : Nat}
    (turns : Bridge α Link → List (Bridge.Turn α Link)) (h : network.outlets[index]? = some outlet)
    (hnone : network.outlets[place]? = none → next.outlets = network.outlets)
    (hsome : ∀ found, network.outlets[place]? = some found → ∃ unit,
      next.outlets = network.outlets.set place { found with unit } ∧
        Bridge.Moves found.unit (turns found.unit) unit) :
    BridgeMoves index outlet (if place = index then turns outlet.unit else []) next := by
  by_cases hplace : place = index
  · subst hplace
    obtain ⟨unit, hnext, hmoves⟩ := hsome outlet h
    rw [if_pos rfl]
    refine ⟨unit, ?_, hmoves⟩
    rw [hnext, List.getElem?_set_self (List.getElem?_eq_some_iff.1 h).1]
  · rw [if_neg hplace]
    refine ⟨outlet.unit, ?_, .stay⟩
    cases hfound : network.outlets[place]? with
    | none =>
        rw [hnone hfound]
        exact h
    | some found =>
        obtain ⟨unit, hnext, -⟩ := hsome found hfound
        rw [hnext, List.getElem?_set_ne hplace]
        exact h

/-- A signal to a bridge. -/
theorem bridgeMoves_hearBridge (h : network.outlets[index]? = some outlet) (place : Nat)
    (delivery : Delivery α Link) :
    BridgeMoves index outlet
      (if place = index then Bridge.Turn.ofHear delivery outlet.unit else [])
      (network.hearBridge place delivery).1 := by
  refine BridgeMoves.of_touch (Bridge.Turn.ofHear delivery) h ?_ ?_
  · intro hfound
    simp only [hearBridge, hfound]
  · intro found hfound
    refine ⟨_, ?_, .hear delivery⟩
    simp only [hearBridge, hfound]
    split <;> rfl

/-- A poll of a stream. -/
theorem bridgeMoves_poll (h : network.outlets[index]? = some outlet) (place : Nat) :
    BridgeMoves index outlet
      (if place = index then Bridge.Turn.ofPoll outlet.unit else [])
      (network.poll place).1 := by
  refine BridgeMoves.of_touch Bridge.Turn.ofPoll h ?_ ?_
  · intro hfound
    simp only [Network.poll, hfound]
  · intro found hfound
    refine ⟨_, ?_, .poll⟩
    simp only [Network.poll, hfound]
    rfl

/-- A stream that is dropped. -/
theorem bridgeMoves_drop (h : network.outlets[index]? = some outlet) (place : Nat) :
    BridgeMoves index outlet
      (if place = index then Bridge.Turn.ofDrop outlet.unit else [])
      (network.drop place).1 := by
  refine BridgeMoves.of_touch Bridge.Turn.ofDrop h ?_ ?_
  · intro hfound
    simp only [Network.drop, hfound]
  · intro found hfound
    refine ⟨_, ?_, .drop⟩
    simp only [Network.drop, hfound]
    rfl

/-- Letting go of the bridge of a stream shows in its channel, unless that was closed before. -/
private theorem bridgeMoves_of_close (h : network.outlets[index]? = some outlet)
    (hnext : next.outlets[index]? = some outlet ∨
      next.outlets[index]? = some { outlet with unit := outlet.unit.close }) :
    BridgeMoves index outlet
      (if network.isOpen index && !next.isOpen index then [.released] else []) next := by
  have hbefore : network.isOpen index = !outlet.unit.closed := by
    rw [isOpen, h]
    rfl
  rcases hnext with hsame | hclosed
  · have hafter : next.isOpen index = !outlet.unit.closed := by
      rw [isOpen, hsame]
      rfl
    refine ⟨outlet.unit, hsame, ?_⟩
    rw [hbefore, hafter, Bool.not_not, Bool.not_and_self, if_neg Bool.false_ne_true]
    exact .stay
  · have hafter : next.isOpen index = false := by
      rw [isOpen, hclosed]
      rfl
    refine ⟨outlet.unit.close, hclosed, ?_⟩
    rw [hbefore, hafter, Bool.not_false, Bool.and_true]
    cases hunit : outlet.unit.closed with
    | false => exact .release hunit
    | true =>
        have hclose : outlet.unit.close = { outlet.unit with armed := false } := by
          rw [Bridge.close, ← hunit]
        rw [hclose]
        exact .other false

/-- An action moves the bridge of a stream by polling it or dropping it. -/
theorem bridgeMoves_begin (h : network.outlets[index]? = some outlet) (action : Action α) :
    BridgeMoves index outlet (bridgeTurns index (.act action) network)
      (network.begin action).1 := by
  cases action with
  | define name publisher =>
      simp only [bridgeTurns, h]
      exact .of_outlets_eq h (outlets_mention network publisher)
  | subscribe name publisher initial react =>
      simp only [bridgeTurns, h]
      exact .of_outlets_eq h (outlets_mention network publisher)
  | order name order =>
      simp only [bridgeTurns, h, begin]
      split <;> exact .of_outlets_eq h rfl
  | next | nextAll | complete | error =>
      simp only [bridgeTurns, h, begin]
      exact .of_outlets_eq h (outlets_signalByHand _ _ _ _)
  | accept name link react =>
      simp only [bridgeTurns, h, begin]
      exact .of_outlets_eq h ((outlets_signalByHand _ _ _ _).trans (outlets_tapOf _ link react))
  | stream name publisher prefetch =>
      simp only [bridgeTurns, h]
      have hlt := (List.getElem?_eq_some_iff.1 h).1
      refine ⟨outlet.unit, ?_, .stay⟩
      rw [← outlets_mention network publisher] at h hlt
      exact (List.getElem?_append_left hlt).trans h
  | poll name =>
      simp only [bridgeTurns, h, begin]
      cases hplace : network.outletOf name with
      | none =>
          rw [if_neg (Option.some_ne_none index).symm]
          exact .of_outlets_eq h rfl
      | some place =>
          simp only [Option.some.injEq]
          exact bridgeMoves_poll h place
  | collect name most =>
      simp only [bridgeTurns, h, begin]
      split <;> exact .of_outlets_eq h rfl
  | drop name =>
      simp only [bridgeTurns, h, begin]
      cases hplace : network.outletOf name with
      | none =>
          rw [if_neg (Option.some_ne_none index).symm]
          exact .of_outlets_eq h rfl
      | some place =>
          simp only [Option.some.injEq]
          exact bridgeMoves_drop h place

/-- Giving a name to a stream drops the stream that the name meant. -/
theorem bridgeMoves_announce (h : network.outlets[index]? = some outlet) (name : String)
    (place : Nat) :
    BridgeMoves index outlet (bridgeTurns index (.announce name place) network)
      (network.announce name place).1 := by
  simp only [bridgeTurns, h, announce]
  cases hprevious : network.outletOf name with
  | none =>
      rw [if_neg (Option.some_ne_none index).symm]
      exact .of_outlets_eq h rfl
  | some previous =>
      simp only [Option.some.injEq]
      exact @bridgeMoves_drop α index { network with streams := (name, place) :: network.streams }
        outlet h previous

/-- Collecting polls a stream. -/
theorem bridgeMoves_collect (h : network.outlets[index]? = some outlet) (action : Action α)
    (place left : Nat) (answers : List (Poll α)) :
    BridgeMoves index outlet (bridgeTurns index (.collect action place left answers) network)
      (network.collect action place left answers).1 := by
  cases left with
  | zero =>
      simp only [bridgeTurns, h]
      exact .of_outlets_eq h rfl
  | succ left =>
      have hnext : (network.collect action place (left + 1) answers).1 =
          (network.poll place).1 := by
        simp only [collect]
        split <;> rfl
      rw [hnext]
      simp only [bridgeTurns, h]
      exact bridgeMoves_poll h place

/-- Every task is a move of the bridge of a stream that is there. -/
theorem bridgeMoves_perform (h : network.outlets[index]? = some outlet) (task : Task α) :
    BridgeMoves index outlet (bridgeTurns index task network) (perform task network).1 := by
  cases task with
  | act action =>
      have hlog : bridgeTurns index (.act action) (network.log (.called action)) =
          bridgeTurns index (.act action) network := by
        cases action <;> rfl
      rw [← hlog]
      exact @bridgeMoves_begin α index (network.log (.called action)) outlet h action
  | announce name place => exact bridgeMoves_announce h name place
  | collect action place left answers => exact bridgeMoves_collect h action place left answers
  | signal receiver delivery =>
      cases receiver with
      | bridge place =>
          simp only [bridgeTurns, h]
          exact bridgeMoves_hearBridge h place delivery
      | probe place =>
          simp only [bridgeTurns, h]
          exact .of_outlets_eq h (outlets_hearProbe network place delivery)
      | window place =>
          simp only [bridgeTurns, h]
          exact .of_outlets_eq h (outlets_onWindow network place _)
      | resumption place =>
          simp only [bridgeTurns, h]
          exact .of_outlets_eq h (outlets_onResumption network place _)
  | leave receiver =>
      simp only [bridgeTurns, h]
      exact bridgeMoves_of_close h
        (@outlet_letGo α index { network with hearing := network.hearing.erase receiver } outlet
          receiver h)
  | subscribe publisher receiver =>
      simp only [bridgeTurns, h]
      exact bridgeMoves_of_close h (outlet_subscribe receiver publisher h)
  | ret action result =>
      simp only [bridgeTurns, h]
      exact .of_outlets_eq h rfl
  | order link order =>
      simp only [bridgeTurns, h]
      exact .of_outlets_eq h (outlets_call network order link)
  | source place work =>
      simp only [bridgeTurns, h]
      exact .of_outlets_eq h (outlets_onSource network place _)
  | window place pass =>
      simp only [bridgeTurns, h]
      exact .of_outlets_eq h (outlets_onWindow network place _)
  | resumption place work =>
      simp only [bridgeTurns, h]
      exact .of_outlets_eq h (outlets_resume network place work)
  | recover place failure recovery =>
      simp only [bridgeTurns, h]
      exact .of_outlets_eq h (outlets_follow network place failure recovery)

/-! ## Runs -/

/-- Whether a task makes a stream. -/
def Task.makesStream : Task α → Bool
  | .act (.stream _ _ _) => true
  | _ => false

/-- A signal to a bridge makes no stream. -/
theorem length_outlets_hearBridge (network : Network α) (place : Nat)
    (delivery : Delivery α Link) :
    (network.hearBridge place delivery).1.outlets.length = network.outlets.length := by
  unfold hearBridge
  split
  · simp only
    split <;> exact List.length_set
  · rfl

/-- A poll makes no stream. -/
theorem length_outlets_poll (network : Network α) (place : Nat) :
    (network.poll place).1.outlets.length = network.outlets.length := by
  unfold Network.poll
  split
  · exact List.length_set
  · rfl

/-- Dropping a stream makes none. -/
theorem length_outlets_drop (network : Network α) (place : Nat) :
    (network.drop place).1.outlets.length = network.outlets.length := by
  unfold Network.drop
  split
  · exact List.length_set
  · rfl

/-- Subscribing makes no stream. -/
theorem length_outlets_subscribe (network : Network α) (receiver : Receiver)
    (publisher : Publisher α (Action α)) :
    (network.subscribe receiver publisher).1.outlets.length = network.outlets.length := by
  have helim : ∀ (next : Network α) (previous : Option Receiver),
      (previous.elim next next.letGo).outlets.length = next.outlets.length := by
    intro next previous
    cases previous with
    | none => rfl
    | some previous => exact length_outlets_letGo next previous
  cases publisher with
  | items supply =>
      simp only [subscribe]
      split <;> rfl
  | hand name =>
      simp only [subscribe]
      split
      · exact helim _ _
      · rfl
  | deferred name => exact helim _ _
  | fail | named | takeLast | resume => rfl

/-- No other task makes a stream. -/
theorem length_outlets_perform (h : task.makesStream = false) :
    (perform task network).1.outlets.length = network.outlets.length := by
  cases task with
  | act action =>
      cases action with
      | define name publisher | subscribe name publisher initial react =>
          exact congrArg List.length (outlets_mention _ publisher)
      | order name order =>
          simp only [perform, begin]
          split <;> rfl
      | next | nextAll | complete | error =>
          exact congrArg List.length (outlets_signalByHand _ _ _ _)
      | accept name link react =>
          exact congrArg List.length
            ((outlets_signalByHand _ _ _ _).trans (outlets_tapOf _ link react))
      | stream name publisher prefetch => exact absurd h.symm Bool.false_ne_true
      | poll name =>
          simp only [perform, begin]
          split
          · exact length_outlets_poll _ _
          · rfl
      | collect name most =>
          simp only [perform, begin]
          split <;> rfl
      | drop name =>
          simp only [perform, begin]
          split
          · exact length_outlets_drop _ _
          · rfl
  | ret action result => rfl
  | signal receiver delivery =>
      cases receiver with
      | probe place => exact congrArg List.length (outlets_hearProbe network place delivery)
      | window place => exact congrArg List.length (outlets_onWindow network place _)
      | resumption place => exact congrArg List.length (outlets_onResumption network place _)
      | bridge place => exact length_outlets_hearBridge network place delivery
  | order link order => exact congrArg List.length (outlets_call network order link)
  | subscribe publisher receiver => exact length_outlets_subscribe network receiver publisher
  | source place work => exact congrArg List.length (outlets_onSource network place _)
  | window place pass => exact congrArg List.length (outlets_onWindow network place _)
  | resumption place work => exact congrArg List.length (outlets_resume network place work)
  | recover place failure recovery =>
      exact congrArg List.length (outlets_follow network place failure recovery)
  | leave receiver =>
      exact length_outlets_letGo { network with hearing := network.hearing.erase receiver } receiver
  | announce name place =>
      simp only [perform, announce]
      split
      · exact length_outlets_drop _ _
      · rfl
  | collect action place left answers =>
      simp only [perform, Network.collect]
      split
      · rfl
      · split <;> exact length_outlets_poll network place

/-- The bridge at an index stands at the end of a course, or is not made yet. -/
def BridgeStands (index : Nat) (turns : List (Bridge.Turn α Link)) (network : Network α) : Prop :=
  (network.outlets[index]? = none ∧ turns = []) ∨
    ∃ outlet prefetch, network.outlets[index]? = some outlet ∧
      Bridge.Course prefetch turns outlet.unit

/-- A stream is made when it is asked for, and not before. -/
theorem bridgeStands_of_none (h : network.outlets[index]? = none) (task : Task α) :
    BridgeStands index (bridgeTurns index task network) (perform task network).1 := by
  have hle := List.getElem?_eq_none_iff.1 h
  cases hmakes : task.makesStream with
  | false =>
      have hturns : bridgeTurns index task network = [] := by
        cases task with
        | act action =>
            cases action with
            | stream => exact absurd hmakes.symm Bool.false_ne_true
            | _ => simp only [bridgeTurns, h]
        | _ => simp only [bridgeTurns, h]
      refine .inl ⟨List.getElem?_eq_none_iff.2 ?_, hturns⟩
      rw [length_outlets_perform hmakes]
      exact hle
  | true =>
      cases task with
      | act action =>
          cases action with
          | stream name publisher prefetch =>
              have hnext : (perform (.act (.stream name publisher prefetch)) network).1.outlets =
                  network.outlets ++ [{ name, unit := .ofPrefetch prefetch }] :=
                congrArg (· ++ _) (outlets_mention _ publisher)
              simp only [bridgeTurns, h]
              by_cases hindex : network.outlets.length = index
              · subst hindex
                rw [if_pos rfl]
                refine .inr ⟨{ name, unit := .ofPrefetch prefetch }, prefetch, ?_, .start⟩
                rw [hnext, List.getElem?_concat_length]
              · rw [if_neg hindex]
                refine .inl ⟨List.getElem?_eq_none_iff.2 ?_, rfl⟩
                rw [hnext, List.length_append, List.length_singleton]
                omega
          | _ => exact absurd hmakes Bool.false_ne_true
      | _ => exact absurd hmakes Bool.false_ne_true

/-- Every task takes the bridge at an index further on its course. -/
theorem BridgeStands.perform {turns : List (Bridge.Turn α Link)}
    (h : BridgeStands index turns network) (task : Task α) :
    BridgeStands index (turns ++ bridgeTurns index task network)
      (Network.perform task network).1 := by
  rcases h with ⟨hnone, rfl⟩ | ⟨outlet, prefetch, houtlet, hcourse⟩
  · exact bridgeStands_of_none hnone task
  · obtain ⟨unit, hunit, hmoves⟩ := bridgeMoves_perform houtlet task
    exact .inr ⟨{ outlet with unit }, prefetch, hunit, hcourse.step hmoves⟩

/-- Every run from a network without streams takes the bridge at an index through a course. -/
theorem bridgeStands_of_run {agenda : Agenda (Network α) (Task α)} (h : agenda.state.outlets = [])
    (index fuel : Nat) :
    BridgeStands index (bridgeCourse index fuel agenda)
      (Agenda.run Network.perform fuel agenda).state := by
  have hstart : BridgeStands index [] agenda.state := by
    refine .inl ⟨?_, rfl⟩
    rw [h, List.getElem?_nil]
  exact Agenda.invariant_observe hstart (fun _ _ task hstands => hstands.perform task) fuel

end Network

end Backpressure
