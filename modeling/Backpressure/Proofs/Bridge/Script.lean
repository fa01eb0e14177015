import Backpressure.Proofs.Bridge.Answers
import Backpressure.Proofs.Bridge.Record
import Backpressure.Proofs.Bridge.Release

/-!
# Streams that are driven directly

A stream over a publisher driven by hand, without operators in between, hears exactly what is
signalled by hand, and nothing comes between its polls and what they return: a request for more is
entered in a ledger and has no other effect. So every action is over before the next one begins, the
publisher remembers the stream throughout, and the answers are returned in the order in which the
stream gave them.

Main results:

- Theorem `Direct.perform` covers every task of such a script.
- Theorem `script_keeps_stream` shows that the stream is closed by a terminal signal, and in no
  other way.
- Theorem `script_is_answered` reads what the polls of a script return off its signals.
-/

namespace Backpressure

namespace Bridge

variable {α ι : Type} {turns : List (Turn α ι)}

/-! ## Signals and what they offer -/

/-- The items that a stream is to hand out for signals: those before the first terminal signal, and
then the failure if that signal was one. -/
def itemsOf : List (Signal α) → List (Item α)
  | [] | .complete :: _ => []
  | .subscribe :: rest => itemsOf rest
  | .next x :: rest => .value x :: itemsOf rest
  | .error failure :: _ => [.failed failure]

/-- A stream without a turn in which it is dropped is there. -/
theorem Turn.isDropped_eq_false (h : .dropped ∉ turns) : isDropped turns = false := by
  apply List.any_eq_false.2
  intro turn hmem hdrops
  cases turn with
  | dropped => exact h hmem
  | _ => exact Bool.noConfusion hdrops

/-- A stream that is neither dropped nor closed for want of a holder is closed by a terminal signal,
and is to hand out what was signalled before. -/
theorem Turn.offered_of_signals (hreleased : .released ∉ turns) (hdropped : .dropped ∉ turns) :
    isClosed turns = (signals turns).any Signal.isTerminal ∧
      offered turns = itemsOf (signals turns) := by
  induction turns with
  | nil => exact ⟨rfl, rfl⟩
  | cons turn turns ih =>
      obtain ⟨hclosed, hoffered⟩ := ih (fun hmem => hreleased (List.mem_cons_of_mem turn hmem))
        fun hmem => hdropped (List.mem_cons_of_mem turn hmem)
      have hcloses : isClosed (turn :: turns) = (turn.closes || isClosed turns) := rfl
      rw [hcloses, hclosed, offered, hoffered]
      cases turn with
      | heard delivery => cases delivery <;> exact ⟨rfl, rfl⟩
      | made | issued | polled => exact ⟨rfl, rfl⟩
      | released => exact absurd List.mem_cons_self hreleased
      | dropped => exact absurd List.mem_cons_self hdropped

end Bridge

namespace Network

variable {α : Type} {network : Network α} {task : Task α} {rest : List (Task α)} {up name : String}
  {turns : List (Bridge.Turn α Link)} {all : List (Signal α)}

/-! ## Scripts -/

/-- Whether an action signals by hand for one publisher, or polls the stream of a name. -/
def Action.isDirect (up name : String) : Action α → Bool
  | .next other _ | .nextAll other _ | .complete other | .error other _ => other = up
  | .poll other | .collect other _ => other = name
  | _ => false

/-- What an action by hand delivers. -/
def Action.deliveries : Action α → List (Delivery α Link)
  | .next _ x => [.next x]
  | .nextAll _ xs => xs.map .next
  | .complete _ => [.complete]
  | .error _ failure => [.error failure]
  | _ => []

/-- The signals that an action gives by hand. -/
def Action.signals (action : Action α) : List (Signal α) := action.deliveries.map Delivery.signal

/-- Whether a task belongs to a script of such actions. -/
def Task.isDirect (up name : String) : Task α → Bool
  | .act action => action.isDirect up name
  | .signal receiver delivery => receiver = .bridge 0 && delivery.signal.kind ≠ .subscribe
  | .order link _ => link = .hand 0
  | .leave receiver => receiver = .bridge 0
  | .collect _ index _ _ => index = 0
  | .ret _ _ => true
  | _ => false

/-- The signals that a task gives. -/
def Task.signals : Task α → List (Signal α)
  | .act action => action.signals
  | .signal _ delivery => [delivery.signal]
  | _ => []

/-- Whether a task polls, or begins to. -/
def Task.polls : Task α → Bool
  | .act (.poll _) | .act (.collect _ _) | .collect _ _ _ _ => true
  | _ => false

/-- A bound of the tasks that follow from a task, with that task itself. -/
def Task.effort : Task α → Nat
  | .act (.poll _) => 3
  | .act (.collect _ most) => 2 * most + 3
  | .act action => action.deliveries.length + 3
  | .collect _ _ left _ => 2 * left + 2
  | _ => 1

/-- No answer is held behind a task that polls. -/
def InOrder (tasks : List (Task α)) : Prop :=
  tasks.Pairwise fun task later => task.polls = true → later.held = []

/-- A stream is attached to the publisher driven by hand that a script signals for. -/
structure Attached (up name : String) (network : Network α) : Prop where
  hands : ∃ hand, network.hands = [hand] ∧ hand.name = up ∧ hand.subscriber = some (.bridge 0)
  outlets : ∃ unit, network.outlets = [{ name, unit }] ∧ unit.link = some (.hand 0)
  streams : network.streams = [(name, 0)]

/-- The publisher remembers the stream. -/
theorem Attached.remembers (h : Attached up name network) : network.Remembers up (.bridge 0) := by
  obtain ⟨hand, hhands, hname, hsubscriber⟩ := h.hands
  exact .inl ⟨hand, by rw [hhands]; exact List.mem_singleton_self hand, hname, hsubscriber⟩

/-- What is signalled by hand is signalled to the stream. -/
theorem Attached.subscriberOf (h : Attached up name network) :
    network.subscriberOf up = some (.bridge 0) := by
  obtain ⟨hand, hhands, hname, hsubscriber⟩ := h.hands
  simp [Network.subscriberOf, hhands, hname, hsubscriber]

/-- The stream is there, and has the link of its publisher. -/
theorem Attached.found (h : Attached up name network) :
    ∃ unit, network.outlets[0]? = some ⟨name, unit⟩ ∧ unit.link = some (.hand 0) := by
  obtain ⟨unit, houtlets, hlink⟩ := h.outlets
  exact ⟨unit, by rw [houtlets]; rfl, hlink⟩

/-- The name means the stream. -/
theorem Attached.outletOf (h : Attached up name network) : network.outletOf name = some 0 := by
  simp [Network.outletOf, h.streams]

/-- What a task of a script does to an attached stream. -/
structure Takes (up name : String) (task : Task α) (network : Network α) : Prop where
  attached : Attached up name (perform task network).1
  direct : ∀ added ∈ (perform task network).2, added.isDirect up name = true
  inOrder : InOrder (perform task network).2
  polls : task.polls = false → ∀ added ∈ (perform task network).2, added.polls = false
  signals : Bridge.Turn.signals (bridgeTurns 0 task network) ++
    (perform task network).2.flatMap Task.signals = task.signals
  dropped : .dropped ∉ bridgeTurns 0 task network
  effort : ((perform task network).2.map Task.effort).sum < task.effort

/-! ## Tasks of a script -/

/-- Tasks that do not poll, with whatever task behind them, keep the answers in order. -/
theorem inOrder_concat {front : List (Task α)} (h : ∀ task ∈ front, task.polls = false)
    (last : Task α) : InOrder (front ++ [last]) := by
  have hidle : ∀ task ∈ front, ∀ later : Task α, task.polls = true → later.held = [] := by
    intro task hmem later hpolls
    exact absurd ((h task hmem).symm.trans hpolls) Bool.false_ne_true
  apply List.pairwise_append.2
  refine ⟨?_, List.pairwise_singleton _ last, fun task hmem later _ => hidle task hmem later⟩
  exact List.pairwise_of_forall_mem_list fun task hmem later _ => hidle task hmem later

/-- An attached stream stays so when nothing but the trace and the signals under way changes. -/
theorem Attached.of_same {next : Network α} (h : Attached up name network)
    (hhands : next.hands = network.hands) (houtlets : next.outlets = network.outlets)
    (hstreams : next.streams = network.streams) : Attached up name next where
  hands := by rw [hhands]; exact h.hands
  outlets := by rw [houtlets]; exact h.outlets
  streams := by rw [hstreams]; exact h.streams

/-- An attached stream stays so when its bridge changes and keeps the link. -/
theorem Attached.set {unit : Bridge α Link} (h : Attached up name network)
    (hlink : unit.link = some (.hand 0)) :
    Attached up name { network with outlets := network.outlets.set 0 { name, unit } } where
  hands := h.hands
  outlets := by
    obtain ⟨_, houtlets, -⟩ := h.outlets
    exact ⟨unit, by rw [houtlets]; rfl, hlink⟩
  streams := h.streams

/-- A task that adds nothing. -/
theorem Takes.of_nil {next : Network α} (hperform : perform task network = (next, []))
    (hnext : Attached up name next)
    (hsignals : Bridge.Turn.signals (bridgeTurns 0 task network) = task.signals)
    (hdropped : .dropped ∉ bridgeTurns 0 task network) (heffort : 0 < task.effort) :
    Takes up name task network where
  attached := by rwa [hperform]
  direct := by rw [hperform]; exact fun _ hadded => (List.not_mem_nil hadded).elim
  inOrder := by rw [hperform]; exact .nil
  polls := by rw [hperform]; exact fun _ _ hadded => (List.not_mem_nil hadded).elim
  signals := by rw [hperform, hsignals]; exact List.append_nil _
  dropped := hdropped
  effort := by rwa [hperform]

/-- A task that adds short work, and then what ends it or goes on with it. -/
theorem Takes.of_concat {next : Network α} {front : List (Task α)} {last : Task α}
    (hperform : perform task network = (next, front ++ [last])) (hnext : Attached up name next)
    (hfront : ∀ added ∈ front,
      added.isDirect up name = true ∧ added.polls = false ∧ added.effort = 1)
    (hlast : last.isDirect up name = true ∧ (task.polls = false → last.polls = false))
    (hsignals : Bridge.Turn.signals (bridgeTurns 0 task network) ++
      (front ++ [last]).flatMap Task.signals = task.signals)
    (hdropped : .dropped ∉ bridgeTurns 0 task network)
    (heffort : front.length + last.effort < task.effort) : Takes up name task network := by
  have hsum : (front.map Task.effort).sum = front.length := by
    have hone : front.map Task.effort = front.map fun _ => 1 :=
      List.map_congr_left fun added hadded => (hfront added hadded).2.2
    rw [hone, List.map_const', List.sum_replicate_nat, Nat.mul_one]
  constructor
  · rwa [hperform]
  · rw [hperform]
    intro added hadded
    rcases List.mem_append.1 hadded with hmem | hmem
    · exact (hfront added hmem).1
    · rw [List.mem_singleton.1 hmem]
      exact hlast.1
  · rw [hperform]
    exact inOrder_concat (fun added hadded => (hfront added hadded).2.1) last
  · rw [hperform]
    intro htask added hadded
    rcases List.mem_append.1 hadded with hmem | hmem
    · exact (hfront added hmem).2.1
    · rw [List.mem_singleton.1 hmem]
      exact hlast.2 htask
  · rwa [hperform]
  · exact hdropped
  · rw [hperform, List.map_append, List.sum_append, hsum]
    exact heffort

/-- No action by hand hands over a link. -/
theorem kind_of_mem_deliveries {action : Action α} {delivery : Delivery α Link}
    (h : delivery ∈ action.deliveries) : delivery.signal.kind ≠ .subscribe := by
  cases action with
  | next | complete | error =>
      rw [List.mem_singleton.1 h]
      exact nofun
  | nextAll name xs =>
      obtain ⟨x, -, rfl⟩ := List.mem_map.1 h
      exact nofun
  | _ => exact (List.not_mem_nil h).elim

/-- An action by hand signals to the stream. -/
theorem Attached.takes_signals (h : Attached up name network) {action : Action α}
    (hbegin : ∀ network : Network α,
      network.begin action = network.signalByHand action up action.deliveries)
    (hturns : bridgeTurns 0 (.act action) network = [])
    (heffort : (Task.act action).effort = action.deliveries.length + 3) :
    Takes up name (.act action) network := by
  have hsubscriber : (network.log (.called action)).subscriberOf up = some (.bridge 0) :=
    h.subscriberOf
  have hperform : perform (.act action) network =
      ({ network.log (.called action) with hearing := .bridge 0 :: network.hearing },
        (action.deliveries.map (.signal (.bridge 0)) ++ [.leave (.bridge 0)]) ++
          [.ret action .done]) := by
    rw [perform, hbegin, signalByHand, hsubscriber, List.append_assoc]
    rfl
  apply Takes.of_concat hperform (h.of_same rfl rfl rfl)
  · intro added hadded
    rcases List.mem_append.1 hadded with hmem | hmem
    · obtain ⟨delivery, hdelivery, rfl⟩ := List.mem_map.1 hmem
      exact ⟨by simpa [Task.isDirect] using kind_of_mem_deliveries hdelivery, rfl, rfl⟩
    · rw [List.mem_singleton.1 hmem]
      exact ⟨rfl, rfl, rfl⟩
  · exact ⟨rfl, fun _ => rfl⟩
  · have hgiven : (action.deliveries.map (Task.signal (.bridge 0))).flatMap Task.signals =
        action.signals := by
      rw [List.flatMap_map]
      exact List.map_eq_flatMap.symm
    rw [hturns, List.flatMap_append, List.flatMap_append, hgiven]
    simp [Bridge.Turn.signals, Task.signals]
  · rw [hturns]
    exact List.not_mem_nil
  · rw [List.length_append, List.length_map, heffort]
    exact Nat.lt_succ_self _

/-- A poll keeps the stream attached, and asks the publisher for more at most once. -/
theorem Attached.poll (h : Attached up name network) :
    Attached up name (network.poll 0).1 ∧ ∃ orders : List Order,
      (network.poll 0).2.2 = orders.map (.order (.hand 0)) ∧ orders.length ≤ 1 := by
  obtain ⟨unit, hfound, hlink⟩ := h.found
  obtain ⟨hkept, hrefill⟩ := Bridge.poll_calls hlink
  simp only [Network.poll, hfound, setBridge]
  refine ⟨h.set hkept, ?_⟩
  cases hcall : unit.poll.2.2 with
  | none => exact ⟨[], rfl, Nat.zero_le 1⟩
  | some call =>
      obtain ⟨amount, rfl⟩ := hrefill call hcall
      exact ⟨[.request amount], rfl, Nat.le_refl 1⟩

/-- The turns of a poll hear no signal, and drop no stream. -/
theorem aside_ofPoll (unit : Bridge α Link) :
    Bridge.Turn.signals (Bridge.Turn.ofPoll unit) = [] ∧
      .dropped ∉ Bridge.Turn.ofPoll unit := by
  rw [Bridge.Turn.ofPoll]
  cases unit.poll.2.2 <;> simp [Bridge.Turn.signals, Bridge.Turn.signal?, Bridge.Turn.ofCall]

/-- A task that polls the stream. -/
theorem Attached.takes_poll {middle : Network α} (h : Attached up name middle) {last : Task α}
    (hperform : perform task network = ((middle.poll 0).1, (middle.poll 0).2.2 ++ [last]))
    (hturns : ∃ unit, bridgeTurns 0 task network = Bridge.Turn.ofPoll unit)
    (hpolls : task.polls = true) (hsignals : task.signals = [])
    (hlast : last.isDirect up name = true ∧ last.signals = [] ∧ last.effort + 1 < task.effort) :
    Takes up name task network := by
  obtain ⟨hdirect, hnone, heffort⟩ := hlast
  obtain ⟨hnext, orders, horders, hle⟩ := h.poll
  obtain ⟨unit, hunit⟩ := hturns
  obtain ⟨hheard, hdropped⟩ := aside_ofPoll unit
  rw [horders] at hperform
  apply Takes.of_concat hperform hnext
  · intro added hadded
    obtain ⟨order, -, rfl⟩ := List.mem_map.1 hadded
    exact ⟨rfl, rfl, rfl⟩
  · exact ⟨hdirect, fun hidle => absurd (hidle.symm.trans hpolls) Bool.false_ne_true⟩
  · have hgiven : (orders.map (Task.order (α := α) (.hand 0))).flatMap Task.signals = [] := by
      rw [List.flatMap_map]
      exact List.flatMap_eq_nil_iff.2 fun _ _ => rfl
    rw [hunit, hheard, hsignals, List.flatMap_append, hgiven, List.flatMap_singleton, hnone]
    rfl
  · rwa [hunit]
  · rw [List.length_map]
    omega

/-- A signal to the stream is heard, and no more. -/
theorem Attached.takes_signal (h : Attached up name network) {delivery : Delivery α Link}
    (hkind : delivery.signal.kind ≠ .subscribe) :
    Takes up name (.signal (.bridge 0) delivery) network := by
  obtain ⟨unit, hfound, hlink⟩ := h.found
  have hhear : (unit.hear delivery).1.link = some (.hand 0) ∧ (unit.hear delivery).2 = none := by
    cases delivery with
    | subscribe link => exact absurd rfl hkind
    | next x => exact ⟨by simp only [Bridge.hear, Bridge.send]; split <;> exact hlink, rfl⟩
    | error failure =>
        exact ⟨by simp only [Bridge.hear, Bridge.send, Bridge.close]; split <;> exact hlink, rfl⟩
    | complete => exact ⟨hlink, rfl⟩
  have hset := h.set hhear.1
  have hturns : bridgeTurns 0 (.signal (.bridge 0) delivery) network = [.heard delivery] := by
    simp only [bridgeTurns, hfound, if_pos, Bridge.Turn.ofHear, hhear.2]
    rfl
  have hnext : ∃ next, perform (.signal (.bridge 0) delivery) network = (next, []) ∧
      Attached up name next := by
    simp only [perform, deliver, hearBridge, hfound, setBridge, hhear.2]
    split
    · exact ⟨_, rfl, hset.of_same rfl rfl rfl⟩
    · exact ⟨_, rfl, hset⟩
  obtain ⟨next, hperform, hattached⟩ := hnext
  apply Takes.of_nil hperform hattached
  · rw [hturns]
    rfl
  · rw [hturns]
    simp
  · exact Nat.zero_lt_one

/-- The publisher enters a request in its ledger, and no more. -/
theorem Attached.callHand (h : Attached up name network) (order : Order) :
    Attached up name (network.callHand 0 order) := by
  obtain ⟨hand, hhands, hname, hsubscriber⟩ := h.hands
  refine ⟨⟨{ hand with ledger := hand.ledger.record order }, ?_, hname, hsubscriber⟩, h.outlets,
    h.streams⟩
  simp [Network.callHand, hhands]

/-- The end of a signal by hand lets no one go, since the publisher remembers the stream. -/
theorem Attached.leave (h : Attached up name network) :
    Attached up name (network.leave (.bridge 0)) := by
  let left : Network α := { network with hearing := network.hearing.erase (.bridge 0) }
  have hleft : Attached up name left := h.of_same rfl rfl rfl
  have hsame : left.letGo (.bridge 0) = left := by
    apply letGo_of_isHeld
    intro index hindex
    rw [isHeld, hleft.remembers.isHeldByHand hindex, Bool.true_or]
  rw [Network.leave, hsame]
  exact hleft

/-- A task that neither signals nor polls leaves the turns of the stream alone. -/
theorem Takes.of_quiet {next : Network α} (hperform : perform task network = (next, []))
    (hnext : Attached up name next)
    (hturns : ∀ turn ∈ bridgeTurns 0 task network, turn = .released) (hsignals : task.signals = [])
    (heffort : 0 < task.effort) : Takes up name task network := by
  apply Takes.of_nil hperform hnext _ _ heffort
  · rw [hsignals]
    apply List.filterMap_eq_nil_iff.2
    intro turn hmem
    rw [hturns turn hmem]
    rfl
  · intro hmem
    cases hturns _ hmem

/-- A task that gives way to one other task, which is to give the same signals. -/
theorem Takes.of_single {next : Network α} {last : Task α}
    (hperform : perform task network = (next, [last])) (hnext : Attached up name next)
    (hlast : last.isDirect up name = true ∧ (task.polls = false → last.polls = false))
    (hsignals : last.signals = task.signals) (hturns : bridgeTurns 0 task network = [])
    (heffort : last.effort < task.effort) : Takes up name task network := by
  have hfront : perform task network = (next, [] ++ [last]) := hperform
  apply Takes.of_concat hfront hnext
  · exact fun _ hadded => (List.not_mem_nil hadded).elim
  · exact hlast
  · rw [hturns, List.nil_append, List.flatMap_singleton, hsignals]
    rfl
  · rw [hturns]
    exact List.not_mem_nil
  · rwa [List.length_nil, Nat.zero_add]

/-- A poll of the stream by its name. -/
theorem Attached.takes_poll_action (h : Attached up name network) :
    Takes up name (.act (.poll name)) network := by
  obtain ⟨unit, hfound, -⟩ := h.found
  let action : Action α := .poll name
  let middle : Network α := network.log (.called action)
  have hmiddle : Attached up name middle := h.of_same rfl rfl rfl
  have hperform : perform (.act action) network = ((middle.poll 0).1,
      (middle.poll 0).2.2 ++ [.ret action (.polled (middle.poll 0).2.1)]) := by
    have hname : (network.log (.called action)).outletOf name = some 0 := h.outletOf
    simp only [perform, begin, hname, action, middle]
  have hturns : bridgeTurns 0 (.act action) network = Bridge.Turn.ofPoll unit := by
    simp only [action, bridgeTurns, hfound, h.outletOf, if_pos]
  exact hmiddle.takes_poll hperform ⟨unit, hturns⟩ rfl rfl ⟨rfl, rfl, Nat.lt_succ_self 2⟩

/-- An action that collects answers of the stream. -/
theorem Attached.takes_collect_action (h : Attached up name network) (most : Nat) :
    Takes up name (.act (.collect name most)) network := by
  obtain ⟨unit, hfound, -⟩ := h.found
  let action : Action α := .collect name most
  have hperform : perform (.act action) network =
      (network.log (.called action), [.collect action 0 most []]) := by
    have hname : (network.log (.called action)).outletOf name = some 0 := h.outletOf
    simp only [perform, begin, hname, action]
  apply Takes.of_single hperform (h.of_same rfl rfl rfl)
  · exact ⟨rfl, fun hidle => Bool.noConfusion hidle⟩
  · rfl
  · simp only [action, bridgeTurns, hfound]
  · exact Nat.lt_succ_self (2 * most + 2)

/-- A round of collecting: it goes on after an item, and has its last answer otherwise. -/
theorem Attached.takes_collect (h : Attached up name network) (action : Action α) (left : Nat)
    (answers : List (Poll α)) : Takes up name (.collect action 0 left answers) network := by
  obtain ⟨unit, hfound, -⟩ := h.found
  cases left with
  | zero =>
      have hperform : perform (.collect action 0 0 answers) network =
          (network, [.ret action (.collected answers)]) := rfl
      apply Takes.of_single hperform h
      · exact ⟨rfl, fun hidle => Bool.noConfusion hidle⟩
      · rfl
      · simp only [bridgeTurns, hfound]
      · exact Nat.lt_succ_self 1
  | succ left =>
      have hturns : bridgeTurns 0 (.collect action 0 (left + 1) answers) network =
          Bridge.Turn.ofPoll unit := by
        simp only [bridgeTurns, hfound, if_pos]
      obtain ⟨last, hperform, hdirect, hnone, hle⟩ : ∃ last,
          perform (.collect action 0 (left + 1) answers) network =
            ((network.poll 0).1, (network.poll 0).2.2 ++ [last]) ∧
          last.isDirect up name = true ∧ last.signals = [] ∧ last.effort ≤ 2 * left + 2 := by
        simp only [perform, Network.collect]
        split
        · exact ⟨_, rfl, rfl, rfl, Nat.le_refl _⟩
        · exact ⟨_, rfl, rfl, rfl, by simp only [Task.effort]; omega⟩
      have hless : last.effort + 1 < 2 * (left + 1) + 2 := by omega
      exact h.takes_poll hperform ⟨unit, hturns⟩ rfl rfl ⟨hdirect, hnone, hless⟩

/-- Every action of a script, with the stream attached. -/
theorem Attached.takes_act (h : Attached up name network) {action : Action α}
    (hdirect : action.isDirect up name = true) : Takes up name (.act action) network := by
  obtain ⟨unit, hfound, -⟩ := h.found
  cases action with
  | next other | nextAll other | complete other | error other =>
      obtain rfl : other = up := of_decide_eq_true hdirect
      apply h.takes_signals (fun _ => rfl)
      · simp only [bridgeTurns, hfound]
      · rfl
  | poll other =>
      obtain rfl : other = name := of_decide_eq_true hdirect
      exact h.takes_poll_action
  | collect other most =>
      obtain rfl : other = name := of_decide_eq_true hdirect
      exact h.takes_collect_action most
  | _ => exact absurd hdirect Bool.false_ne_true

/-- Every task of a script, with the stream attached. -/
theorem Attached.takes (h : Attached up name network) (hdirect : task.isDirect up name = true) :
    Takes up name task network := by
  obtain ⟨unit, hfound, -⟩ := h.found
  cases task with
  | act action => exact h.takes_act hdirect
  | ret action result =>
      have hperform : perform (.ret action result) network =
          (network.log (.returned action result), []) := rfl
      apply Takes.of_quiet hperform (h.of_same rfl rfl rfl) _ rfl Nat.zero_lt_one
      simp [bridgeTurns, hfound]
  | signal receiver delivery =>
      simp only [Task.isDirect, Bool.and_eq_true, decide_eq_true_eq] at hdirect
      obtain ⟨rfl, hkind⟩ := hdirect
      exact h.takes_signal hkind
  | order link order =>
      obtain rfl : link = .hand 0 := of_decide_eq_true hdirect
      have hperform : perform (.order (.hand 0) order) network =
          (network.callHand 0 order, []) := rfl
      apply Takes.of_quiet hperform (h.callHand order) _ rfl Nat.zero_lt_one
      simp [bridgeTurns, hfound]
  | leave receiver =>
      obtain rfl : receiver = .bridge 0 := of_decide_eq_true hdirect
      have hperform : perform (.leave (.bridge 0)) network =
          (network.leave (.bridge 0), []) := rfl
      apply Takes.of_quiet hperform h.leave _ rfl Nat.zero_lt_one
      simp only [bridgeTurns, hfound]
      split <;> simp
  | collect action index left answers =>
      obtain rfl : index = 0 := of_decide_eq_true hdirect
      exact h.takes_collect action left answers
  | _ => exact absurd hdirect Bool.false_ne_true

/-! ## The course of a script -/

/-- A script in its course, with the turns that its stream has taken so far, and all signals that it
gives in the end. -/
structure Direct (up name : String) (all : List (Signal α)) (turns : List (Bridge.Turn α Link))
    (agenda : Agenda (Network α) (Task α)) : Prop where
  attached : Attached up name agenda.state
  direct : ∀ task ∈ agenda.todo, task.isDirect up name = true
  inOrder : InOrder agenda.todo
  answers : agenda.state.recorded ++ held agenda.todo = Bridge.Turn.answers turns
  signals : Bridge.Turn.signals turns ++ agenda.todo.flatMap Task.signals = all
  released : .released ∉ turns
  dropped : .dropped ∉ turns

/-- A task that does not poll makes no polls. -/
theorem pollsOf_of_polls (h : task.polls = false) (network : Network α) :
    pollsOf task network = [] := by
  cases task with
  | act action => cases action <;> first | rfl | exact Bool.noConfusion h
  | collect => exact Bool.noConfusion h
  | _ => rfl

/-- All polls of a script reach its stream. -/
theorem Attached.answersOf_pollsOf (h : Attached up name network)
    (hdirect : task.isDirect up name = true) :
    answersOf 0 (pollsOf task network) = (pollsOf task network).map (·.2) := by
  obtain ⟨unit, hfound, -⟩ := h.found
  have hreaches : (network.pollAt (some 0)).1 = some 0 := by
    simp only [pollAt, Option.bind_some, hfound]
  have hall : ∀ poll ∈ pollsOf task network, poll.1 = some 0 := by
    intro poll hmem
    cases hpolls : task.polls with
    | false =>
        rw [pollsOf_of_polls hpolls] at hmem
        exact (List.not_mem_nil hmem).elim
    | true =>
        cases task with
        | act action =>
            cases action with
            | poll other =>
                obtain rfl : other = name := of_decide_eq_true hdirect
                rw [pollsOf, h.outletOf, List.mem_singleton] at hmem
                rw [hmem, hreaches]
            | collect other most =>
                obtain rfl : other = name := of_decide_eq_true hdirect
                rw [pollsOf, h.outletOf, if_neg (Option.some_ne_none 0)] at hmem
                exact (List.not_mem_nil hmem).elim
            | _ => exact Bool.noConfusion hpolls
        | collect action index left answers =>
            obtain rfl : index = 0 := of_decide_eq_true hdirect
            cases left with
            | zero => exact (List.not_mem_nil hmem).elim
            | succ left =>
                rw [pollsOf, List.mem_singleton] at hmem
                rw [hmem, hreaches]
        | _ => exact Bool.noConfusion hpolls
  rw [answersOf, List.filter_eq_self.2 fun poll hmem => decide_eq_true (hall poll hmem)]

/-- Every task of a script takes it further. -/
theorem Direct.perform (h : Direct up name all turns ⟨network, task :: rest⟩) :
    Direct up name all (turns ++ bridgeTurns 0 task network)
      ⟨(Network.perform task network).1, (Network.perform task network).2 ++ rest⟩ := by
  have hdirect : task.isDirect up name = true := h.direct task List.mem_cons_self
  have htakes : Takes up name task network := h.attached.takes hdirect
  obtain ⟨hheld, hrest⟩ := List.pairwise_cons.1 h.inOrder
  constructor
  · exact htakes.attached
  · intro later hmem
    rcases List.mem_append.1 hmem with hadded | hbehind
    · exact htakes.direct later hadded
    · exact h.direct later (List.mem_cons_of_mem task hbehind)
  · apply List.pairwise_append.2
    refine ⟨htakes.inOrder, hrest, fun added hadded later hlater hpolls => ?_⟩
    apply hheld later hlater
    -- Only a task that polls adds one that does.
    by_contra hidle
    rw [htakes.polls (Bool.eq_false_iff.2 hidle) added hadded] at hpolls
    exact Bool.false_ne_true hpolls
  · have hkept : pollsOf task network = [] ∨ held rest = [] := by
      cases hpolls : task.polls with
      | false => exact .inl (pollsOf_of_polls hpolls network)
      | true => exact .inr (List.flatMap_eq_nil_iff.2 fun later hmem => hheld later hmem hpolls)
    calc (Network.perform task network).1.recorded ++
          held ((Network.perform task network).2 ++ rest)
        = network.recorded ++ held (task :: rest) ++ (pollsOf task network).map (·.2) :=
          recorded_step hkept
      _ = Bridge.Turn.answers turns ++ Bridge.Turn.answers (bridgeTurns 0 task network) := by
          rw [h.answers, answers_turns, h.attached.answersOf_pollsOf hdirect]
      _ = Bridge.Turn.answers (turns ++ bridgeTurns 0 task network) :=
          (Bridge.Turn.answers_append _ _).symm
  · calc Bridge.Turn.signals (turns ++ bridgeTurns 0 task network) ++
          ((Network.perform task network).2 ++ rest).flatMap Task.signals
        = Bridge.Turn.signals turns ++ (Bridge.Turn.signals (bridgeTurns 0 task network) ++
            (Network.perform task network).2.flatMap Task.signals) ++
              rest.flatMap Task.signals := by
          rw [Bridge.Turn.signals_append, List.flatMap_append]
          simp only [List.append_assoc]
      _ = Bridge.Turn.signals turns ++ (task :: rest).flatMap Task.signals := by
          rw [htakes.signals, List.flatMap_cons, List.append_assoc]
      _ = all := h.signals
  · rw [List.mem_append]
    exact fun hmem => hmem.elim h.released (not_released htakes.attached.remembers rfl)
  · rw [List.mem_append]
    exact fun hmem => hmem.elim h.dropped htakes.dropped

/-- A script stays what it is throughout its course. -/
theorem Direct.run {agenda : Agenda (Network α) (Task α)} (h : Direct up name all turns agenda)
    (fuel : Nat) : Direct up name all (turns ++ bridgeCourse 0 fuel agenda)
      (Agenda.run Network.perform fuel agenda) := by
  let direct : List (Bridge.Turn α Link) → Agenda (Network α) (Task α) → Prop :=
    fun more => Direct up name all (turns ++ more)
  have hstart : direct [] agenda := by
    simp only [direct, List.append_nil]
    exact h
  have hall : direct (bridgeCourse 0 fuel agenda) (Agenda.run Network.perform fuel agenda) := by
    apply Agenda.invariant_seen hstart
    intro seen network task rest hbefore
    have hnext := Direct.perform hbefore
    rwa [List.append_assoc] at hnext
  exact hall

/-- A script comes to its end. -/
theorem Direct.settles {agenda : Agenda (Network α) (Task α)}
    (h : Direct up name all turns agenda) :
    ∃ final, Agenda.Settles Network.perform agenda.state agenda.todo final := by
  let effort : Agenda (Network α) (Task α) → Nat × Nat :=
    fun agenda => ((agenda.todo.map Task.effort).sum, 0)
  let direct : Agenda (Network α) (Task α) → Prop :=
    fun agenda => ∃ turns, Direct up name all turns agenda
  have hstep : ∀ (network : Network α) (task : Task α) (rest : List (Task α)),
      direct ⟨network, task :: rest⟩ →
      direct ⟨(Network.perform task network).1, (Network.perform task network).2 ++ rest⟩ ∧
        Prod.Lex (· < ·) (· < ·)
          (effort ⟨(Network.perform task network).1, (Network.perform task network).2 ++ rest⟩)
          (effort ⟨network, task :: rest⟩) := by
    rintro network task rest ⟨before, hbefore⟩
    refine ⟨⟨_, hbefore.perform⟩, Prod.Lex.left _ _ ?_⟩
    have hless := (hbefore.attached.takes (hbefore.direct task List.mem_cons_self)).effort
    rw [List.map_append, List.sum_append, List.map_cons, List.sum_cons]
    exact Nat.add_lt_add_right hless _
  have hstart : direct agenda := ⟨turns, h⟩
  exact Agenda.exists_settles hstep hstart

/-! ## Scripts from the start -/

variable {script : List (Action α)} (prefetch : UInt64)

/-- The agenda of a script that makes a stream over a publisher driven by hand before anything
else. -/
def streamScript (up name : String) (prefetch : UInt64) (script : List (Action α)) :
    Agenda (Network α) (Task α) :=
  ⟨{}, .act (.stream name (.hand up) prefetch) :: script.map .act⟩

/-- A stream over a publisher driven by hand is attached to it when its name is announced. -/
theorem exists_attached (up name : String) (prefetch : UInt64) (script : List (Action α)) :
    ∃ (network : Network α) (amount : UInt64),
      Agenda.run perform 5 (streamScript up name prefetch script) =
        ⟨network, .ret (.stream name (.hand up) prefetch) .done :: script.map .act⟩ ∧
      Attached up name network ∧ network.recorded = [] ∧
      bridgeCourse 0 5 (streamScript up name prefetch script) = [.made prefetch,
        .heard (.subscribe (.hand 0)), .issued (.hand 0) (.request amount)] := by
  let action : Action α := .stream name (.hand up) prefetch
  let unit : Bridge α Link := .ofPrefetch prefetch
  let made : Network α :=
    { hands := [{ name := up }], outlets := [{ name, unit }], trace := [.called action] }
  let remembered : Network α :=
    { made with hands := [{ name := up, subscriber := some (.bridge 0), subscribed := 1 }] }
  let linked : Network α :=
    { remembered with outlets := [{ name, unit := { unit with link := some (.hand 0) } }] }
  let asked : Network α := linked.callHand 0 (.request unit.prefetch)
  let announced : Network α := { asked with streams := [(name, 0)] }
  have hmade : perform (.act action) {} = (made,
      [.subscribe (.hand up) (.bridge 0), .announce name 0, .ret action .done]) := rfl
  have hremembered : perform (.subscribe (.hand up) (.bridge 0)) made =
      (remembered, [.signal (.bridge 0) (.subscribe (.hand 0))]) := by
    simp [perform, subscribe, made, remembered, subscribeHand]
  have hlinked : perform (.signal (.bridge 0) (.subscribe (.hand 0))) remembered =
      (linked, [.order (.hand 0) (.request unit.prefetch)]) := rfl
  have hasked : perform (.order (.hand 0) (.request unit.prefetch)) linked = (asked, []) := rfl
  have hannounced : perform (.announce name 0) asked = (announced, []) := rfl
  have hquiet : bridgeTurns 0 (.subscribe (.hand up) (.bridge 0)) made = [] := by
    simp only [bridgeTurns, hremembered]
    rfl
  refine ⟨announced, unit.prefetch, ?_, ⟨⟨_, rfl, rfl, rfl⟩, ⟨_, rfl, rfl⟩, rfl⟩, rfl, ?_⟩
  · simp only [streamScript, action, Agenda.run_succ_cons, Agenda.step_cons, hmade,
      List.cons_append, hremembered, hlinked, hasked, hannounced, List.nil_append]
    rfl
  · simp only [streamScript, action, bridgeCourse, Agenda.observe, Agenda.step_cons, hmade,
      List.cons_append, hremembered, hquiet, hlinked, hasked, List.nil_append]
    rfl

/-- A script is under way when its stream is attached. -/
theorem direct_streamScript (h : ∀ action ∈ script, action.isDirect up name = true) :
    Direct up name (.subscribe :: script.flatMap Action.signals)
      (bridgeCourse 0 5 (streamScript up name prefetch script))
      (Agenda.run perform 5 (streamScript up name prefetch script)) := by
  obtain ⟨network, amount, hrun, hattached, hrecorded, hturns⟩ :=
    exists_attached up name prefetch script
  rw [hrun, hturns]
  have hnone : ∀ action, (Task.act (α := α) action).held = [] := fun _ => rfl
  have hheld : held (script.map Task.act) = [] := held_map_eq_nil hnone script
  constructor
  · exact hattached
  · intro task hmem
    rcases List.mem_cons.1 hmem with rfl | hlater
    · rfl
    · obtain ⟨action, haction, rfl⟩ := List.mem_map.1 hlater
      exact h action haction
  · apply List.pairwise_cons.2
    refine ⟨fun task _ hpolls => Bool.noConfusion hpolls, ?_⟩
    apply List.pairwise_map.2
    exact List.pairwise_of_forall fun _ later _ => hnone later
  · rw [hrecorded, held_cons, hheld]
    rfl
  · rw [List.flatMap_cons, List.flatMap_map]
    rfl
  · simp
  · simp

/-- A script is under way from then on. -/
theorem direct_streamScript_run (h : ∀ action ∈ script, action.isDirect up name = true)
    (fuel : Nat) :
    Direct up name (.subscribe :: script.flatMap Action.signals)
      (bridgeCourse 0 (5 + fuel) (streamScript up name prefetch script))
      (Agenda.run perform (5 + fuel) (streamScript up name prefetch script)) := by
  have hrun := (direct_streamScript prefetch h).run fuel
  rw [bridgeCourse, Agenda.observe_add, Agenda.run_add]
  exact hrun

/-- A stream over a publisher driven by hand that is signalled by hand and polled, and not dropped,
is never closed for want of a holder: it is closed when the first terminal signal has been given,
and not before. -/
theorem script_keeps_stream (h : ∀ action ∈ script, action.isDirect up name = true) (fuel : Nat) :
    let turns := bridgeCourse 0 fuel (streamScript up name prefetch script)
    .released ∉ turns ∧ .dropped ∉ turns ∧
      Bridge.Turn.isClosed turns = (Bridge.Turn.signals turns).any Signal.isTerminal := by
  intro turns
  have hwithin : turns <+: bridgeCourse 0 (5 + fuel) (streamScript up name prefetch script) :=
    Agenda.observe_prefix (Nat.le_add_left fuel 5) _
  have hdirect := direct_streamScript_run prefetch h fuel
  have hreleased : .released ∉ turns := fun hmem => hdirect.released (hwithin.subset hmem)
  have hdropped : .dropped ∉ turns := fun hmem => hdirect.dropped (hwithin.subset hmem)
  exact ⟨hreleased, hdropped, (Bridge.Turn.offered_of_signals hreleased hdropped).1⟩

/-- A script that makes a stream over a publisher driven by hand, and then signals by hand and
polls the stream in any order, comes to its end. The answers of its polls are then on record in the
order in which they were given, and those that were at hand are the items signalled before the
first terminal signal, the failure if that was one, and then the end for ever. -/
theorem script_is_answered (h : ∀ action ∈ script, action.isDirect up name = true) :
    ∃ fuel final, Agenda.run perform fuel (streamScript up name prefetch script) = ⟨final, []⟩ ∧
      .released ∉ bridgeCourse 0 fuel (streamScript up name prefetch script) ∧
      final.recorded =
        Bridge.Turn.answers (bridgeCourse 0 fuel (streamScript up name prefetch script)) ∧
      ∃ count ends,
        final.recorded.filter Poll.isReady =
          ((Bridge.itemsOf (script.flatMap Action.signals)).take count).map .item ++
            List.replicate ends .ended ∧
        (ends ≠ 0 → (Bridge.itemsOf (script.flatMap Action.signals)).take count =
            Bridge.itemsOf (script.flatMap Action.signals) ∧
          (script.flatMap Action.signals).any Signal.isTerminal = true) := by
  obtain ⟨final, fuel, hrest⟩ := (direct_streamScript prefetch h).settles
  have hrun : Agenda.run perform (5 + fuel) (streamScript up name prefetch script) =
      ⟨final, []⟩ := by
    rw [Agenda.run_add]
    exact hrest
  have hdirect := direct_streamScript_run prefetch h fuel
  rw [hrun] at hdirect
  have hrecorded := hdirect.answers
  rw [held_nil, List.append_nil] at hrecorded
  refine ⟨5 + fuel, final, hrun, hdirect.released, hrecorded, ?_⟩
  obtain ⟨hclosed, hoffered⟩ :=
    Bridge.Turn.offered_of_signals hdirect.released hdirect.dropped
  have hsignals := hdirect.signals
  rw [List.flatMap_nil, List.append_nil] at hsignals
  rw [hsignals] at hclosed hoffered
  rcases @bridgeStands_of_run α (streamScript up name prefetch script) rfl 0 (5 + fuel) with
    ⟨-, hnone⟩ | ⟨outlet, prefetch, -, hcourse⟩
  · rw [hnone] at hsignals
    exact absurd hsignals (List.cons_ne_nil _ _).symm
  · obtain ⟨count, ends, hready, hends⟩ :=
      hcourse.faithful.ready (Bridge.Turn.isDropped_eq_false hdirect.dropped)
    rw [hoffered] at hready hends
    rw [hclosed] at hends
    rw [hrecorded]
    exact ⟨count, ends, hready, hends⟩

end Network

end Backpressure
