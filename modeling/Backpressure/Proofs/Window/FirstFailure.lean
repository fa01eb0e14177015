import Backpressure.Proofs.Window.HeldFailure
import Backpressure.Proofs.Window.Privacy

/-!
# The first failure wins

A window that holds failures back is subscribed first of all, and its feed is erratic: after its
subscription it signals items and failures in any order, whenever it likes, also from inside a
delivery of the window. At every moment of the run the window stands by what its feed has signalled,
by the tasks that belong to it, and by what its subscriber has heard.

Main results:

- Theorem `Holding.perform` covers every task, and theorem `holding_start` the subscription.
- Theorem `first_failure_wins` states what the subscriber has heard at every moment of a run, and
  what becomes of a later failure.
-/

namespace Backpressure.Network

open History

variable {α : Type} {index probe : Nat} {network next : Network α} {heard : List (Signal α)}
  {task : Task α} {tasks added rest : List (Task α)}

/-! ## What the feed signals -/

/-- The signal that a receiver hears of a task, if any. -/
def Task.heardBy (receiver : Receiver) : Task α → List (Signal α)
  | .signal other delivery => if other = receiver then [delivery.signal] else []
  | _ => []

/-- The signals that a receiver has heard in a run. -/
def heardBy (receiver : Receiver) (fuel : Nat) (agenda : Agenda (Network α) (Task α)) :
    List (Signal α) :=
  Agenda.observe (fun task _ => task.heardBy receiver) perform fuel agenda

/-! ## What a window has left to do -/

/-- The effect of a window that a task goes on with. -/
def Task.windowEffect? (index probe : Nat) : Task α → Option (Effect α Link Pass)
  | .window place pass => if place = index then some (.go pass) else none
  | .signal (.probe place) delivery => if place = probe then some (.signal delivery) else none
  | _ => none

/-- The effects that a window has left, among the tasks to be performed. -/
def effectsLeft (index probe : Nat) (tasks : List (Task α)) : List (Effect α Link Pass) :=
  tasks.filterMap (·.windowEffect? index probe)

/-- Tasks that do not belong to a window are no effects of it. -/
theorem windowEffect?_of_not_tied (h : task.isTied index probe = false) :
    task.windowEffect? index probe = none := by
  unfold Task.windowEffect?
  split
  · exact if_neg (of_decide_eq_false h)
  · exact if_neg (of_decide_eq_false h)
  · rfl

/-- Effects one after the other. -/
theorem effectsLeft_append (first second : List (Task α)) :
    effectsLeft index probe (first ++ second) =
      effectsLeft index probe first ++ effectsLeft index probe second :=
  List.filterMap_append

/-- A task that goes on with no effect of a window. -/
theorem effectsLeft_cons_of_none (h : task.windowEffect? index probe = none) :
    effectsLeft index probe (task :: tasks) = effectsLeft index probe tasks :=
  List.filterMap_cons_none h

/-- Tasks that do not belong to a window leave it nothing to do. -/
theorem effectsLeft_eq_nil (h : ∀ task ∈ tasks, task.isTied index probe = false) :
    effectsLeft index probe tasks = [] :=
  List.filterMap_eq_nil_iff.2 fun task htask => windowEffect?_of_not_tied (h task htask)

/-- The tasks that effects of a window become go on with them, but for its calls. -/
theorem effectsLeft_map_taskOf (effects : List (Effect α Link Pass)) :
    effectsLeft index probe (effects.map (taskOf (.probe probe) (.window index))) =
      Window.ownEffects effects := by
  rw [effectsLeft, List.filterMap_map, Window.ownEffects, ← List.filterMap_eq_filter]
  congr 1
  funext effect
  cases effect with
  | order link order => rfl
  | signal delivery | go pass => exact if_pos rfl

/-- A signal that a window has left is a task. -/
theorem mem_of_signal_mem_effectsLeft {delivery : Delivery α Link}
    (h : .signal delivery ∈ effectsLeft index probe tasks) :
    .signal (.probe probe) delivery ∈ tasks := by
  obtain ⟨task, htask, heffect⟩ := List.mem_filterMap.1 h
  unfold Task.windowEffect? at heffect
  split at heffect
  · split at heffect <;> cases heffect
  · split at heffect
    next heq =>
      cases heffect
      rwa [heq] at htask
    next => cases heffect
  · cases heffect

/-! ## Between two tasks -/

/-- Between two tasks a window that holds failures back stands by what its feed has signalled. If a
signal to its subscriber is to be delivered, it comes next, and no one subscribes the subscriber
again. -/
structure Holding (index probe : Nat) (heard : List (Signal α))
    (agenda : Agenda (Network α) (Task α)) : Prop where
  tied : Tied index probe agenda.state
  calm : ∀ publisher, .subscribe publisher (.probe probe) ∉ agenda.todo
  urgent : ∀ delivery, .signal (.probe probe) delivery ∉ agenda.todo.tail
  standing : ∃ stage, agenda.state.windows[index]? = some stage ∧
    stage.unit.Delaying (.window index) heard (effectsLeft index probe agenda.todo)
      (historyOf agenda.state probe)

/-- The window is above its subscriber. -/
theorem Tied.below (h : Tied index probe network) {stage : Stage (Window α Link)}
    (hstage : network.windows[index]? = some stage) : stage.below = .probe probe := by
  have habove := h.above
  rw [below?, hstage] at habove
  exact Option.some.inj habove

/-- Tasks that do not belong to the window leave its subscriber alone. -/
theorem Holding.calm_append (h : Holding index probe heard ⟨network, task :: rest⟩)
    (hadded : ∀ task ∈ added, task.isTied index probe = false) :
    (∀ publisher, .subscribe publisher (.probe probe) ∉ added ++ rest) ∧
      ∀ delivery, .signal (.probe probe) delivery ∉ (added ++ rest).tail := by
  constructor
  · intro publisher hmem
    rcases List.mem_append.1 hmem with hnew | hold
    · exact of_decide_eq_false (hadded _ hnew) rfl
    · exact h.calm publisher (List.mem_cons_of_mem _ hold)
  · intro delivery hmem
    rcases List.mem_append.1 (List.mem_of_mem_tail hmem) with hnew | hold
    · exact of_decide_eq_false (hadded _ hnew) rfl
    · exact h.urgent delivery hold

/-- A task that neither belongs to the window nor reaches it. -/
theorem Holding.other (h : Holding index probe heard ⟨network, task :: rest⟩)
    (htied : task.isTied index probe = false) (hreaches : task.reachesWindow index = false) :
    Holding index probe heard ⟨(perform task network).1, (perform task network).2 ++ rest⟩ := by
  obtain ⟨htogether, hadded⟩ := h.tied.perform htied hreaches
  obtain ⟨stage, hstage, hstands⟩ := h.standing
  obtain ⟨hcalm, hurgent⟩ := h.calm_append hadded
  have hwindow := h.tied.window_perform htied hreaches
  refine ⟨htogether, hcalm, hurgent, stage, hwindow.trans hstage, ?_⟩
  rw [effectsLeft_append, effectsLeft_eq_nil hadded, List.nil_append,
    historyOf_perform_other htied]
  rwa [effectsLeft_cons_of_none (windowEffect?_of_not_tied htied)] at hstands

/-- The window does something, and gives a signal first if it gives one. -/
theorem Holding.onWindow {later : List (Signal α)}
    {f : Window α Link → Window α Link × List (Effect α Link Pass)}
    (h : Holding index probe heard ⟨network, task :: rest⟩)
    (hlead : ∀ window, ∀ effect ∈ (f window).2.tail, effect.isSignal = false)
    (hstands : ∀ window : Window α Link,
      window.Delaying (.window index) heard (effectsLeft index probe (task :: rest))
        (historyOf network probe) →
      (f window).1.Delaying (.window index) later
        (Window.ownEffects (f window).2 ++ effectsLeft index probe rest)
        (historyOf network probe)) :
    Holding index probe later
      ⟨(network.onWindow index f).1, (network.onWindow index f).2 ++ rest⟩ := by
  obtain ⟨stage, hstage, hbefore⟩ := h.standing
  have hbelow := h.tied.below hstage
  have hlt := (List.getElem?_eq_some_iff.1 hstage).1
  have htied := h.tied.steady (steady_onWindow network index f) fun name => by
    unfold Network.onWindow
    split <;> exact id
  have hafter : network.onWindow index f =
      ({ network with
          windows := network.windows.set index { stage with unit := (f stage.unit).1 } },
        (f stage.unit).2.map (taskOf (.probe probe) (.window index))) := by
    simp only [Network.onWindow, hstage, hbelow]
  rw [hafter] at htied ⊢
  refine ⟨htied, fun publisher hmem => ?_, fun delivery hmem => ?_,
    { stage with unit := (f stage.unit).1 }, List.getElem?_set_self hlt, ?_⟩
  · rcases List.mem_append.1 hmem with hnew | hold
    · obtain ⟨effect, -, heffect⟩ := List.mem_map.1 hnew
      cases effect <;> cases heffect
    · exact h.calm publisher (List.mem_cons_of_mem _ hold)
  · have hcalm := hlead stage.unit
    rcases heffects : (f stage.unit).2 with _ | ⟨first, others⟩
    · rw [heffects] at hmem
      exact h.urgent delivery (List.mem_of_mem_tail hmem)
    · rw [heffects] at hmem hcalm
      rcases List.mem_append.1 hmem with hnew | hold
      · obtain ⟨effect, hothers, heffect⟩ := List.mem_map.1 hnew
        have hsilent := hcalm effect hothers
        cases effect with
        | signal => exact absurd hsilent.symm Bool.false_ne_true
        | order | go => cases heffect
      · exact h.urgent delivery hold
  · rw [effectsLeft_append, effectsLeft_map_taskOf]
    exact hstands stage.unit hbefore

/-- The subscriber hears the signal that comes next. -/
theorem Holding.tell {delivery : Delivery α Link}
    (h : Holding index probe heard ⟨network, .signal (.probe probe) delivery :: rest⟩) :
    Holding index probe heard
      ⟨(network.hearProbe probe delivery).1, (network.hearProbe probe delivery).2 ++ rest⟩ := by
  obtain ⟨htogether, hadded⟩ := h.tied.quietly (quietly_hearProbe network probe delivery)
  obtain ⟨stage, hstage, hstands⟩ := h.standing
  have hwindows : (network.hearProbe probe delivery).1.windows = network.windows :=
    @windows_perform _ network (.signal (.probe probe) delivery) rfl
  have hnext : effectsLeft index probe (.signal (.probe probe) delivery :: rest) =
      .signal delivery :: effectsLeft index probe rest := List.filterMap_cons_some (if_pos rfl)
  obtain ⟨hcalm, hurgent⟩ := h.calm_append hadded
  refine ⟨htogether, hcalm, hurgent, stage, ?_, ?_⟩
  · exact (congrArg (·[index]?) hwindows).trans hstage
  · rw [hnext] at hstands
    rw [effectsLeft_append, effectsLeft_eq_nil hadded, List.nil_append,
      historyOf_hearProbe h.tied.listens, if_pos rfl]
    exact hstands.tell

/-- The window hears a signal of its erratic feed. -/
theorem Holding.hear {delivery : Delivery α Link}
    (h : Holding index probe heard ⟨network, .signal (.window index) delivery :: rest⟩)
    (herratic : isErratic (heard ++ [delivery.signal]) = true) :
    Holding index probe (heard ++ [delivery.signal])
      ⟨(network.onWindow index (·.hear (.window index) delivery)).1,
        (network.onWindow index (·.hear (.window index) delivery)).2 ++ rest⟩ := by
  refine h.onWindow (fun window => Window.isSignal_tail_hear _ window delivery)
    fun window hstands => ?_
  rw [effectsLeft_cons_of_none rfl] at hstands
  exact hstands.hear (fun _ hmem => h.urgent _ (mem_of_signal_mem_effectsLeft hmem)) herratic

/-- The window takes a call. -/
theorem Holding.take {order : Order}
    (h : Holding index probe heard ⟨network, .order (.window index) order :: rest⟩) :
    Holding index probe heard ⟨(network.onWindow index (·.take order)).1,
      (network.onWindow index (·.take order)).2 ++ rest⟩ := by
  refine h.onWindow (fun window effect heffect => ?_) fun window hstands => ?_
  · exact Window.isSignal_take window order effect (List.mem_of_mem_tail heffect)
  · rw [effectsLeft_cons_of_none rfl] at hstands
    exact hstands.take order

/-- The window goes on with its pass. -/
theorem Holding.go {pass : Pass}
    (h : Holding index probe heard ⟨network, .window index pass :: rest⟩) :
    Holding index probe heard ⟨(network.onWindow index (·.go pass)).1,
      (network.onWindow index (·.go pass)).2 ++ rest⟩ := by
  have hnext : effectsLeft index probe (.window index pass :: rest) =
      .go pass :: effectsLeft index probe rest := List.filterMap_cons_some (if_pos rfl)
  refine h.onWindow (fun window => Window.isSignal_tail_go window pass) fun window hstands => ?_
  rw [hnext] at hstands
  exact hstands.go

/-- A task that does not reach a window lets it hear nothing. -/
theorem heardBy_of_not_reaches (h : task.reachesWindow index = false) :
    task.heardBy (.window index) = [] := by
  unfold Task.heardBy
  split
  · refine if_neg ?_
    rintro rfl
    exact of_decide_eq_false h rfl
  · rfl

/-- One more task. -/
theorem Holding.perform (h : Holding index probe heard ⟨network, task :: rest⟩)
    (herratic : isErratic (heard ++ task.heardBy (.window index)) = true) :
    Holding index probe (heard ++ task.heardBy (.window index))
      ⟨(perform task network).1, (perform task network).2 ++ rest⟩ := by
  cases htied : task.isTied index probe with
  | true =>
      unfold Task.isTied at htied
      split at htied
      next other delivery =>
        obtain rfl : other = probe := of_decide_eq_true htied
        rw [heardBy_of_not_reaches rfl, List.append_nil]
        exact h.tell
      next publisher other =>
        obtain rfl : other = probe := of_decide_eq_true htied
        exact absurd List.mem_cons_self (h.calm publisher)
      next other pass =>
        obtain rfl : other = index := of_decide_eq_true htied
        rw [heardBy_of_not_reaches rfl, List.append_nil]
        exact h.go
      next => exact absurd htied Bool.false_ne_true
  | false =>
      cases hreaches : task.reachesWindow index with
      | false =>
          rw [heardBy_of_not_reaches hreaches, List.append_nil]
          exact h.other htied hreaches
      | true =>
          unfold Task.reachesWindow at hreaches
          split at hreaches
          next other delivery =>
            obtain rfl : other = index := of_decide_eq_true hreaches
            have hnow : (Task.signal (.window other) delivery).heardBy (.window other) =
                [delivery.signal] := if_pos rfl
            rw [hnow] at herratic ⊢
            exact h.hear herratic
          next other order =>
            obtain rfl : other = index := of_decide_eq_true hreaches
            have hnone : (Task.order (.window other) order : Task α).heardBy (.window other) = [] :=
              rfl
            rw [hnone, List.append_nil]
            exact h.take
          next => exact absurd hreaches Bool.false_ne_true

/-- A failure that comes after the first one changes nothing. -/
theorem Holding.hear_error {failure : Failure}
    (h : Holding index probe heard ⟨network, .signal (.window index) (.error failure) :: rest⟩)
    (hfailed : (failure? heard).isSome = true) :
    Network.perform (.signal (.window index) (.error failure)) network = (network, []) := by
  obtain ⟨stage, hstage, hstands⟩ := h.standing
  have hset : stage.unit.drain.failure.isSet = true := by
    rw [FailureSlot.isSet]
    exact (congrArg Option.isSome hstands.held).trans hfailed
  have hsame : network.windows.set index stage = network.windows := by
    obtain ⟨hlt, rfl⟩ := List.getElem?_eq_some_iff.1 hstage
    exact List.set_getElem_self hlt
  simp only [Network.perform, deliver, Network.onWindow, hstage,
    Window.hear_error_again (.window index) failure hstands.delays hset, hsame, List.map_nil]

/-! ## The subscription -/

/-- A window that is put above a scripted subscriber to which no one signals yet. -/
theorem tied_of_joins (hjoins : Joins (.window index) (.probe probe) network next)
    (hfree : ∀ speaker, network.below? speaker ≠ some (.probe probe))
    (hunknown : ∀ name, ¬ network.Remembers name (.probe probe))
    (hknows : network.Knows (.probe probe)) : Tied index probe next where
  above := (hjoins.below _).trans (if_pos rfl)
  alone := fun speaker hbelow => by
    rw [hjoins.below] at hbelow
    split at hbelow
    next heq => exact heq
    next => exact absurd hbelow (hfree speaker)
  unknown := fun name hname => hunknown name (hjoins.remembers name _ hname)
  listens := hjoins.knows _ hknows

/-- A script that begins with the subscription to a window that holds failures back. -/
def heldBack (name : String) (count : Nat) (up : Publisher α (Action α)) (initial : UInt64)
    (react : Reaction (Action α)) (later : List (Action α)) : Agenda (Network α) (Task α) :=
  ⟨{}, .act (.subscribe name (.takeLast count true up) initial react) :: later.map .act⟩

/-- Once the window has been made, it waits for its feed. -/
theorem holding_start (name : String) (count : Nat) (up : Publisher α (Action α))
    (initial : UInt64) (react : Reaction (Action α)) (later : List (Action α)) :
    Holding 0 0 [] (Agenda.run Network.perform 2 (heldBack name count up initial react later)) := by
  let action : Action α := .subscribe name (.takeLast count true up) initial react
  let logged : Network α := ({} : Network α).log (.called action)
  obtain ⟨hands, deferreds, hmention⟩ := logged.exists_mention (.takeLast count true up)
  let begun : Network α :=
    { hands, deferreds, probes := [{ name, initial, react }], trace := [.called action] }
  let made : Network α :=
    { begun with windows := [begun.stage (.probe 0) (.ofSize count true)] }
  have hbegun : Network.perform (.act action) {} =
      (begun, [.subscribe (.takeLast count true (up.resolve begun.definitionOf)) (.probe 0),
        .ret action .done]) := by
    have hbegin : Network.perform (.act action) {} =
        logged.begin (.subscribe name (.takeLast count true up) initial react) := rfl
    rw [hbegin, begin, hmention]
    rfl
  have hrun : Agenda.run Network.perform 2 (heldBack name count up initial react later) =
      ⟨made, .subscribe (up.resolve begun.definitionOf) (.window 0) :: .ret action .done ::
        later.map .act⟩ := by
    rw [heldBack, Agenda.run_succ_cons, Agenda.step_cons, hbegun]
    rfl
  have hquietly := quietly_mention logged (.takeLast count true up)
  rw [hmention] at hquietly
  have hunknown : ∀ name, ¬ begun.Remembers name (.probe 0) := fun other hremembers => by
    rcases hquietly.remembers other _ hremembers with ⟨_, hmem, -⟩ | ⟨_, hmem, -⟩ <;>
      exact absurd hmem List.not_mem_nil
  have hfree : ∀ speaker, begun.below? speaker ≠ some (.probe 0) := fun speaker => by
    cases speaker <;> exact (Option.some_ne_none (Receiver.probe 0)).symm
  have hcalm : ∀ task ∈ (.ret action .done :: later.map .act : List (Task α)),
      task.isPlain = true := List.forall_mem_cons.2 ⟨rfl, isPlain_map_act later⟩
  have htasks : ∀ task ∈ (.subscribe (up.resolve begun.definitionOf) (.window 0) ::
      .ret action .done :: later.map .act : List (Task α)), task.isTied 0 0 = false :=
    List.forall_mem_cons.2 ⟨rfl, fun task htask => Task.isTied_of_isPlain (hcalm task htask)⟩
  rw [hrun]
  refine ⟨tied_of_joins (joins_window begun (.probe 0) _ rfl) hfree hunknown Nat.one_pos,
    fun publisher hmem => ?_, fun delivery hmem => ?_, _, rfl, ?_⟩
  · exact Bool.noConfusion (htasks _ hmem)
  · exact Bool.noConfusion (hcalm _ hmem)
  · rw [effectsLeft_eq_nil htasks]
    exact Window.delaying_ofSize (Link.window 0) count

/-! ## Runs -/

/-- At every moment after the window has been made it stands by what its feed has signalled, if that
is erratic. -/
theorem holding_run {agenda : Agenda (Network α) (Task α)} (hstart : Holding index probe [] agenda)
    {fuel : Nat} (herratic : isErratic (heardBy (.window index) fuel agenda) = true) :
    Holding index probe (heardBy (.window index) fuel agenda)
      (Agenda.run Network.perform fuel agenda) := by
  let invariant : List (Signal α) → Agenda (Network α) (Task α) → Prop :=
    fun heard agenda => isErratic heard = true → Holding index probe heard agenda
  have hrun : invariant (heardBy (.window index) fuel agenda)
      (Agenda.run Network.perform fuel agenda) := by
    refine Agenda.invariant_seen (fun _ => hstart) (fun heard network task rest h hnext => ?_) fuel
    exact (h (isErratic_of_append hnext)).perform hnext
  exact hrun herratic

/-- Before the window has been made nothing is signalled. -/
theorem silent_start (name : String) (count : Nat) (up : Publisher α (Action α))
    (initial : UInt64) (react : Reaction (Action α)) (later : List (Action α)) {fuel : Nat}
    (hfuel : fuel < 2) :
    let now := Agenda.run Network.perform fuel (heldBack name count up initial react later)
    historyOf now.state 0 = [] ∧ ∀ receiver delivery rest,
      now.todo ≠ .signal receiver delivery :: rest := by
  match fuel, hfuel with
  | 0, _ => exact ⟨rfl, nofun⟩
  | 1, _ =>
      let action : Action α := .subscribe name (.takeLast count true up) initial react
      have hsilent : historyOf (Network.perform (.act action) {}).1 0 = [] :=
        @historyOf_perform_other α 0 0 {} (.act action) rfl
      exact ⟨hsilent, nofun⟩

/-- From then on it stands by what its feed has signalled. -/
theorem holding_heldBack {name : String} {count : Nat} {up : Publisher α (Action α)}
    {initial : UInt64} {react : Reaction (Action α)} {later : List (Action α)} {fuel : Nat}
    (hfuel : 2 ≤ fuel)
    (herratic : isErratic (heardBy (.window 0) fuel
      (heldBack name count up initial react later)) = true) :
    Holding 0 0 (heardBy (.window 0) fuel (heldBack name count up initial react later))
      (Agenda.run Network.perform fuel (heldBack name count up initial react later)) := by
  obtain ⟨left, rfl⟩ := Nat.exists_eq_add_of_le hfuel
  have hstart := holding_start name count up initial react later
  -- Neither of the first two tasks is a signal.
  have hheard : heardBy (.window 0) (2 + left) (heldBack name count up initial react later) =
      heardBy (.window 0) left
        (Agenda.run Network.perform 2 (heldBack name count up initial react later)) := by
    rw [Nat.add_comm]
    rfl
  rw [hheard] at herratic
  rw [hheard, Agenda.run_add]
  exact holding_run hstart herratic

/-- A window holds failures back, and its feed signals its subscription first and from then on items
and failures in any order, but no completion; the subscriber, the publishers driven by hand and all
others may do what they like. At every moment what the subscriber has heard follows the grammar, so
that nothing follows a terminal signal, and a terminal signal is the first failure of the feed.
Another failure of the feed changes nothing: the network stays as it is, with the window and its
register and all records, and there is nothing more to do. -/
theorem first_failure_wins (name : String) (count : Nat) (up : Publisher α (Action α))
    (initial : UInt64) (react : Reaction (Action α)) (later : List (Action α)) (fuel : Nat)
    (herratic : isErratic (heardBy (.window 0) fuel
      (heldBack name count up initial react later)) = true) :
    let agenda := heldBack name count up initial react later
    let heard := heardBy (.window 0) fuel agenda
    let now := Agenda.run perform fuel agenda
    Grammatical (historyOf now.state 0) ∧
    (∀ signal ∈ historyOf now.state 0, signal.isTerminal = true →
      ∃ failure, signal = .error failure ∧ failure? heard = some failure) ∧
    ∀ failure rest, now.todo = .signal (.window 0) (.error failure) :: rest →
      (failure? heard).isSome = true → now.step perform = ⟨now.state, rest⟩ := by
  intro agenda heard now
  rcases Nat.lt_or_ge fuel 2 with hfuel | hfuel
  · obtain ⟨hhistory, htodo⟩ := silent_start name count up initial react later hfuel
    rw [hhistory]
    exact ⟨.inl rfl, fun _ hmem => absurd hmem List.not_mem_nil,
      fun failure rest hnext => absurd hnext (htodo _ _ rest)⟩
  · have hholding : Holding 0 0 heard now := holding_heldBack hfuel herratic
    obtain ⟨stage, -, hstands⟩ := hholding.standing
    refine ⟨hstands.grammatical, fun _ => hstands.failure_of_mem,
      fun failure rest hnext hfailed => ?_⟩
    generalize now = moment at hholding hnext ⊢
    obtain ⟨network, todo⟩ := moment
    obtain rfl : todo = _ := hnext
    rw [Agenda.step_cons, hholding.hear_error hfailed, List.nil_append]

/-- The feed fails, adds an item and fails again from inside the first delivery, and fails a third
time after the window has passed on its first failure. -/
theorem first_failure_wins_over_two :
    let react : Reaction (Action Nat) := Rule.reaction
      [{ on := .next, actions := [.next "up" 2, .error "up" (.stream "second")] }]
    let later : List (Action Nat) :=
      [.next "up" 1, .error "up" (.stream "first"), .error "up" (.stream "third")]
    let agenda := heldBack "probe" 1 (.hand "up") 2 react later
    let heard := heardBy (.window 0) 31 agenda
    let now := Agenda.run perform 31 agenda
    isErratic heard = true ∧
    values (historyOf now.state 0) = [1, 2] ∧ terminals (historyOf now.state 0) = 1 ∧
    Grammatical (historyOf now.state 0) ∧
    (∀ signal ∈ historyOf now.state 0, signal.isTerminal = true →
      ∃ failure, signal = .error failure ∧ failure? heard = some failure) ∧
    ∃ rest, now.todo = .signal (.window 0) (.error (.stream "third")) :: rest ∧
      now.step perform = ⟨now.state, rest⟩ := by
  intro react later agenda heard now
  have herratic : isErratic heard = true := by decide +kernel
  have hfailed : (failure? heard).isSome = true := by decide +kernel
  obtain ⟨hgrammatical, hterminal, hagain⟩ :=
    first_failure_wins "probe" 1 (.hand "up") 2 react later 31 herratic
  obtain ⟨rest, hnext⟩ : ∃ rest,
      now.todo = .signal (.window 0) (.error (.stream "third")) :: rest := by
    unfold now agenda later react
    exact ⟨_, rfl⟩
  exact ⟨herratic, by decide +kernel, by decide +kernel, hgrammatical, hterminal, rest, hnext,
    hagain _ rest hnext hfailed⟩

end Backpressure.Network
