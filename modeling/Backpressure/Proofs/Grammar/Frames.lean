import Backpressure.Proofs.Bridge.Course
import Backpressure.Proofs.Grammar.Order
import Backpressure.Proofs.Resumption.Projection

/-!
# What leaves the units as they stand

Most of what happens in a network concerns scripted participants and streams. It leaves every unit
in its place and as it stands, makes no publisher driven by hand remember anyone, and adds tasks
that are plain: they neither signal nor subscribe, and no unit has them under way as its work.

Main results:

- Theorem `quietly_begin` covers the actions that neither signal nor subscribe, and theorem
  `quietly_call` the calls on links that lead to no unit.
- Theorem `steady_onSource`, theorem `steady_onWindow` and theorem `steady_onResumption` show that
  a unit at work leaves the other ones alone.
-/

namespace Backpressure.Network

variable {α : Type} {network next : Network α} {speaker : Speaker} {receiver : Receiver}

/-! ## Plain tasks -/

/-- Whether a task neither signals nor subscribes, and is no unit's work. -/
def Task.isPlain : Task α → Bool
  | .signal _ _ | .subscribe _ _ | .window _ _ | .resumption _ (.recover _) | .recover _ _ _ =>
      false
  | _ => true

/-- A plain task is quiet. -/
theorem Task.isQuiet_of_isPlain {task : Task α} (h : task.isPlain = true) :
    task.isQuiet = true := by
  cases task with
  | signal | subscribe => exact absurd h Bool.false_ne_true
  | _ => rfl

/-- A plain task is no unit's work. -/
theorem Task.isWorkOf_of_isPlain {task : Task α} (h : task.isPlain = true) (speaker : Speaker) :
    task.isWorkOf speaker = false := by
  cases speaker with
  | hand | constant | source => rfl
  | window index =>
      cases task with
      | window => exact absurd h Bool.false_ne_true
      | _ => rfl
  | resumption index =>
      cases task with
      | recover => exact absurd h Bool.false_ne_true
      | resumption place work =>
          cases work with
          | recover => exact absurd h Bool.false_ne_true
          | bind | count => rfl
      | _ => rfl

/-- What happens leaves the units as they stand, and adds plain tasks. -/
structure Quietly (network : Network α) (outcome : Network α × List (Task α)) : Prop where
  steady : Steady none network outcome.1
  remembers : ∀ name receiver, outcome.1.Remembers name receiver →
    network.Remembers name receiver
  tasks : ∀ task ∈ outcome.2, task.isPlain = true

/-- Units that are not touched keep their places and stand as they did. -/
theorem Steady.of_units (hsources : next.sources = network.sources)
    (hwindows : next.windows = network.windows)
    (hresumptions : next.resumptions = network.resumptions)
    (hprobes : network.probes.length ≤ next.probes.length)
    (houtlets : network.outlets.length ≤ next.outlets.length) : Steady none network next where
  below := fun speaker => by
    cases speaker <;> simp only [below?, hsources, hwindows, hresumptions]
  knows := fun receiver hknows => by
    cases receiver with
    | probe => exact Nat.lt_of_lt_of_le hknows hprobes
    | bridge => exact Nat.lt_of_lt_of_le hknows houtlets
    | window | resumption => simpa only [Knows, hwindows, hresumptions] using hknows
  stands := fun speaker heard duties said _ hstands => by
    cases speaker with
    | hand | constant => trivial
    | source | window | resumption =>
        simpa only [UnitStands, hsources, hwindows, hresumptions] using hstands

/-- Nothing changes. -/
theorem Steady.refl (acting : Option Speaker) (network : Network α) :
    Steady acting network network :=
  ⟨fun _ => rfl, fun _ => id, fun _ _ _ _ _ => id⟩

/-- One change after another. -/
theorem Steady.trans {last : Network α} {acting : Option Speaker}
    (hfirst : Steady acting network next) (hsecond : Steady acting next last) :
    Steady acting network last where
  below := fun speaker => (hsecond.below speaker).trans (hfirst.below speaker)
  knows := fun receiver hknows => hsecond.knows receiver (hfirst.knows receiver hknows)
  stands := fun speaker heard duties said hacting hstands =>
    hsecond.stands speaker heard duties said hacting
      (hfirst.stands speaker heard duties said hacting hstands)

/-- What leaves every unit as it stands leaves the ones that are not at work as they stand. -/
theorem Steady.acting (h : Steady none network next) (acting : Option Speaker) :
    Steady acting network next where
  below := h.below
  knows := h.knows
  stands := fun speaker heard duties said _ =>
    h.stands speaker heard duties said (Option.some_ne_none speaker)

/-- Two networks with the same units, and as many streams. -/
theorem SameUnits.quietly (h : SameUnits network next)
    (houtlets : next.outlets.length = network.outlets.length) {tasks : List (Task α)}
    (htasks : ∀ task ∈ tasks, task.isPlain = true) : Quietly network (next, tasks) where
  steady := .of_units h.sources h.windows h.resumptions
    (Nat.le_of_eq (congrArg List.length h.probes).symm) (Nat.le_of_eq houtlets.symm)
  remembers := fun name receiver hremembers => by
    rw [Remembers, h.hands, h.deferreds] at hremembers
    exact hremembers
  tasks := htasks

/-- Nothing happens. -/
theorem quietly_refl (network : Network α) {tasks : List (Task α)}
    (htasks : ∀ task ∈ tasks, task.isPlain = true) : Quietly network (network, tasks) :=
  (SameUnits.refl network).quietly rfl htasks

/-- One thing after another. -/
theorem Quietly.trans {outcome : Network α × List (Task α)} {tasks : List (Task α)}
    (hfirst : Quietly network (next, tasks)) (hsecond : Quietly next outcome) :
    Quietly network outcome where
  steady := hfirst.steady.trans hsecond.steady
  remembers := fun name receiver hremembers =>
    hfirst.remembers name receiver (hsecond.remembers name receiver hremembers)
  tasks := hsecond.tasks

/-- More plain tasks may follow. -/
theorem Quietly.append {tasks more : List (Task α)} (h : Quietly network (next, tasks))
    (hmore : ∀ task ∈ more, task.isPlain = true) : Quietly network (next, tasks ++ more) where
  steady := h.steady
  remembers := h.remembers
  tasks := fun task htask => (List.mem_append.1 htask).elim (h.tasks task) (hmore task)

/-- Actions are plain. -/
theorem isPlain_map_act (actions : List (Action α)) :
    ∀ task ∈ actions.map Task.act, task.isPlain = true := by
  intro task htask
  obtain ⟨action, -, rfl⟩ := List.mem_map.1 htask
  rfl

/-- Recording an event. -/
theorem quietly_log (network : Network α) (event : Event α (Action α) (Result α)) :
    Quietly network (network.log event, []) :=
  (sameUnits_log network event).quietly rfl (by simp)

/-! ## Streams -/

/-- The call that a stream makes. -/
theorem quietly_setBridge (network : Network α) (index : Nat) (outlet : Outlet α)
    (unit : Bridge α Link) (call : Option (Call Link)) :
    Quietly network (network.setBridge index outlet unit call) := by
  have hsame : SameUnits network (network.setBridge index outlet unit call).1 :=
    ⟨rfl, rfl, rfl, rfl, rfl, rfl⟩
  refine hsame.quietly List.length_set fun task htask => ?_
  obtain ⟨call, -, rfl⟩ := List.mem_map.1 htask
  rfl

/-- A stream hears a signal. -/
theorem quietly_hearBridge (network : Network α) (index : Nat) (delivery : Delivery α Link) :
    Quietly network (network.hearBridge index delivery) := by
  unfold hearBridge
  split
  next outlet _ =>
    have hset := quietly_setBridge network index outlet (outlet.unit.hear delivery).1
      (outlet.unit.hear delivery).2
    simp only
    split
    · exact { hset.trans (quietly_log _ _) with tasks := hset.tasks }
    · exact hset
  next => exact quietly_refl network (by simp)

/-- A stream is polled. -/
theorem quietly_poll (network : Network α) (index : Nat) :
    Quietly network ((network.poll index).1, (network.poll index).2.2) := by
  unfold Network.poll
  split
  next outlet _ =>
    exact quietly_setBridge network index outlet outlet.unit.poll.1 outlet.unit.poll.2.2
  next => exact quietly_refl network (by simp)

/-- A stream is dropped. -/
theorem quietly_drop (network : Network α) (index : Nat) :
    Quietly network (network.drop index) := by
  unfold Network.drop
  split
  next outlet _ => exact quietly_setBridge network index outlet outlet.unit.drop.1 _
  next => exact quietly_refl network (by simp)

/-- A stream is announced. -/
theorem quietly_announce (network : Network α) (name : String) (index : Nat) :
    Quietly network (network.announce name index) := by
  have hnamed : SameUnits network
      { network with streams := (name, index) :: network.streams } :=
    ⟨rfl, rfl, rfl, rfl, rfl, rfl⟩
  have hquietly : Quietly network
      ({ network with streams := (name, index) :: network.streams }, []) :=
    hnamed.quietly rfl (by simp)
  unfold Network.announce
  split
  next previous _ => exact hquietly.trans (quietly_drop _ previous)
  next => exact hquietly

/-- The answers of a stream are collected. -/
theorem quietly_collect (network : Network α) (action : Action α) (index left : Nat)
    (answers : List (Poll α)) : Quietly network (network.collect action index left answers) := by
  cases left with
  | zero => exact quietly_refl network (by simp [Task.isPlain])
  | succ left =>
      simp only [Network.collect]
      split <;> exact (quietly_poll network index).append (by simp [Task.isPlain])

/-! ## Calls and actions -/

/-- The end of a signal by hand. -/
theorem quietly_leave (network : Network α) (receiver : Receiver) :
    Quietly network (network.leave receiver, []) := by
  have hleft : SameUnits network { network with hearing := network.hearing.erase receiver } :=
    ⟨rfl, rfl, rfl, rfl, rfl, rfl⟩
  exact (hleft.trans (sameUnits_letGo _ receiver)).quietly
    (length_outlets_letGo { network with hearing := network.hearing.erase receiver } receiver)
    (by simp)

/-- A call on a link that leads to no unit. -/
theorem quietly_call (network : Network α) (order : Order) (link : Link)
    (hlink : link.isUnit = false) : Quietly network (network.call order link) := by
  cases link with
  | source | window | switch => exact absurd hlink.symm Bool.false_ne_true
  | inert => exact quietly_refl network (by simp)
  | hand index =>
      refine ⟨.of_units rfl rfl rfl (Nat.le_refl _) (Nat.le_refl _), ?_, by simp [call]⟩
      intro name receiver
      refine Or.imp_left ?_
      rintro ⟨hand, hmem, hname, hsubscriber⟩
      obtain ⟨place, hplace⟩ := List.mem_iff_getElem?.1 hmem
      simp only [call, callHand, List.getElem?_modify] at hplace
      obtain ⟨before, hbefore, rfl⟩ := Option.map_eq_some_iff.1 hplace
      refine ⟨before, List.mem_of_getElem? hbefore, ?_, ?_⟩
      · rw [← hname]
        split <;> rfl
      · rw [← hsubscriber]
        split <;> rfl
  | tap index =>
      simp only [call, callTap]
      split
      next tap _ =>
        have htap : SameUnits network
            (({ network with taps := network.taps.set index (tap.take order) }).log
              (.ordered tap.name order)) := ⟨rfl, rfl, rfl, rfl, rfl, rfl⟩
        exact htap.quietly rfl (isPlain_map_act _)
      next => exact quietly_refl network (by simp)

/-- The publishers driven by hand that are made remember no one. -/
theorem quietly_mention (network : Network α) (publisher : Publisher α (Action α)) :
    Quietly network (network.mention publisher, []) := by
  have hhands : ∀ (names : List String) (network : Network α),
      Quietly network (names.foldl ensureHand network, []) := by
    intro names
    induction names with
    | nil => exact fun network => quietly_refl network (by simp)
    | cons name names ih =>
        intro network
        have hfirst : Quietly network (network.ensureHand name, []) := by
          unfold ensureHand
          split
          · exact quietly_refl network (by simp)
          · refine ⟨.of_units rfl rfl rfl (Nat.le_refl _) (Nat.le_refl _), ?_, by simp⟩
            intro other receiver
            refine Or.imp_left ?_
            rintro ⟨hand, hmem, hname, hsubscriber⟩
            rcases List.mem_append.1 hmem with hbefore | hnew
            · exact ⟨hand, hbefore, hname, hsubscriber⟩
            · rw [List.mem_singleton.1 hnew] at hsubscriber
              exact absurd hsubscriber (Option.some_ne_none receiver).symm
        exact hfirst.trans (ih _)
  have hdeferreds : ∀ (names : List String) (network : Network α),
      Quietly network (names.foldl ensureDeferred network, []) := by
    intro names
    induction names with
    | nil => exact fun network => quietly_refl network (by simp)
    | cons name names ih =>
        intro network
        have hfirst : Quietly network (network.ensureDeferred name, []) := by
          unfold ensureDeferred
          split
          · exact quietly_refl network (by simp)
          · refine ⟨.of_units rfl rfl rfl (Nat.le_refl _) (Nat.le_refl _), ?_, by simp⟩
            intro other receiver
            refine Or.imp_right ?_
            rintro ⟨deferred, hmem, hname, hsubscriber⟩
            rcases List.mem_append.1 hmem with hbefore | hnew
            · exact ⟨deferred, hbefore, hname, hsubscriber⟩
            · rw [List.mem_singleton.1 hnew] at hsubscriber
              exact absurd hsubscriber (Option.some_ne_none receiver).symm
        exact hfirst.trans (ih _)
  exact (hhands publisher.mentioned network).trans (hdeferreds publisher.mentionedDeferred _)

/-- Whether an action subscribes someone, or has a publisher driven by hand signal. -/
def Action.isLoud : Action α → Bool
  | .subscribe _ _ _ _ | .stream _ _ _ | .next _ _ | .nextAll _ _ | .complete _ | .error _ _
  | .accept _ _ _ => true
  | _ => false

/-- An action that neither subscribes nor signals. -/
theorem quietly_begin (network : Network α) {action : Action α} (h : action.isLoud = false) :
    Quietly network (network.begin action) := by
  cases action with
  | subscribe | stream | next | nextAll | complete | error | accept =>
      exact absurd h.symm Bool.false_ne_true
  | define name publisher =>
      have hdefined : SameUnits (network.mention publisher)
          (network.begin (.define name publisher)).1 := ⟨rfl, rfl, rfl, rfl, rfl, rfl⟩
      exact (quietly_mention network publisher).trans
        (hdefined.quietly rfl (by simp [Task.isPlain]))
  | order name order =>
      simp only [begin]
      split <;> exact quietly_refl network (by simp [Task.isPlain])
  | poll name =>
      simp only [begin]
      split
      · exact (quietly_poll network _).append (by simp [Task.isPlain])
      · exact quietly_refl network (by simp [Task.isPlain])
  | collect name most =>
      simp only [begin]
      split <;> exact quietly_refl network (by simp [Task.isPlain])
  | drop name =>
      simp only [begin]
      split
      · exact (quietly_drop network _).append (by simp [Task.isPlain])
      · exact quietly_refl network (by simp [Task.isPlain])

/-! ## Units at work -/

/-- A list whose element at one place is replaced by one that looks the same looks the same. -/
private theorem map_getElem?_set {β γ : Type} {f : β → γ} {xs : List β} {place : Nat} {x y : β}
    (hx : xs[place]? = some x) (hsame : f y = f x) (index : Nat) :
    ((xs.set place y)[index]?).map f = (xs[index]?).map f := by
  by_cases hindex : place = index
  · subst hindex
    rw [List.getElem?_set_self (List.getElem?_eq_some_iff.1 hx).1, hx, Option.map_some,
      Option.map_some, hsame]
  · rw [List.getElem?_set_ne hindex]

/-- A source at work leaves the other units alone. -/
theorem steady_onSource (network : Network α) (index : Nat)
    (f : Source α → Source α × List (Effect α Link Source.Work)) :
    Steady (some (.source index)) network (network.onSource index f).1 := by
  unfold onSource
  split
  next stage hstage =>
    refine ⟨fun speaker => ?_, fun receiver => ?_, fun speaker heard duties said hother => ?_⟩
    · cases speaker with
      | source place =>
          exact map_getElem?_set (f := fun stage => stage.below)
            (y := { stage with unit := (f stage.unit).1 }) hstage rfl place
      | _ => rfl
    · cases receiver <;> exact id
    · cases speaker with
      | source place =>
          have hplace : index ≠ place := fun heq => hother (by rw [heq])
          simp only [UnitStands, List.getElem?_set_ne hplace, imp_self]
      | _ => exact id
  next => exact .refl _ network

/-- A window at work leaves the other units alone. -/
theorem steady_onWindow (network : Network α) (index : Nat)
    (f : Window α Link → Window α Link × List (Effect α Link Pass)) :
    Steady (some (.window index)) network (network.onWindow index f).1 := by
  unfold onWindow
  split
  next stage hstage =>
    refine ⟨fun speaker => ?_, fun receiver => ?_, fun speaker heard duties said hother => ?_⟩
    · cases speaker with
      | window place =>
          exact map_getElem?_set (f := fun stage => stage.below)
            (y := { stage with unit := (f stage.unit).1 }) hstage rfl place
      | _ => rfl
    · cases receiver with
      | window place => simp only [Knows, List.length_set, imp_self]
      | _ => exact id
    · cases speaker with
      | window place =>
          have hplace : index ≠ place := fun heq => hother (by rw [heq])
          simp only [UnitStands, List.getElem?_set_ne hplace, imp_self]
      | _ => exact id
  next => exact .refl _ network

/-- A resumption at work leaves the other units alone. -/
theorem steady_onResumption (network : Network α) (index : Nat)
    (f : Resumption Link → Resumption Link × List (Effect α Link (Resumption.Work Link))) :
    Steady (some (.resumption index)) network (network.onResumption index f).1 := by
  unfold onResumption
  split
  next stage hstage =>
    refine ⟨fun speaker => ?_, fun receiver => ?_, fun speaker heard duties said hother => ?_⟩
    · cases speaker with
      | resumption place =>
          exact map_getElem?_set (f := fun stage : Resumed α => stage.below)
            (y := { stage with unit := (f stage.unit).1 }) hstage rfl place
      | _ => rfl
    · cases receiver with
      | resumption place => simp only [Knows, List.length_set, imp_self]
      | _ => exact id
    · cases speaker with
      | resumption place =>
          have hplace : index ≠ place := fun heq => hother (by rw [heq])
          simp only [UnitStands, List.getElem?_set_ne hplace, imp_self]
      | _ => exact id
  next => exact .refl _ network

/-! ## Receivers -/

/-- A scripted subscriber hears a signal. -/
theorem quietly_hearProbe (network : Network α) (index : Nat) (delivery : Delivery α Link) :
    Quietly network (network.hearProbe index delivery) := by
  unfold hearProbe
  split
  next probe _ =>
    refine ⟨.of_units rfl rfl rfl (Nat.le_of_eq List.length_set.symm) (Nat.le_refl _),
      fun _ _ => id, fun task htask => ?_⟩
    rcases List.mem_append.1 htask with hcall | hact
    · obtain ⟨call, -, rfl⟩ := List.mem_map.1 hcall
      rfl
    · exact isPlain_map_act _ task hact
  next => exact quietly_refl network (by simp)

/-- The unit that hears as a receiver is there if the receiver is. -/
theorem exists_below?_of_knows (hknows : network.Knows receiver)
    (hunit : receiver.unit? = some speaker) : ∃ below, network.below? speaker = some below := by
  cases receiver with
  | probe | bridge => exact absurd hunit (Option.some_ne_none speaker).symm
  | window index =>
      obtain rfl : Speaker.window index = speaker := Option.some.inj hunit
      exact ⟨_, congrArg (Option.map _) (List.getElem?_eq_getElem hknows)⟩
  | resumption index =>
      obtain rfl : Speaker.resumption index = speaker := Option.some.inj hunit
      exact ⟨_, congrArg (Option.map _) (List.getElem?_eq_getElem hknows)⟩

/-- The subscriber of a publisher driven by hand is remembered. -/
theorem remembers_of_subscriberOf {name : String}
    (h : network.subscriberOf name = some receiver) : network.Remembers name receiver := by
  unfold subscriberOf at h
  split at h
  next hand hfind =>
    have hname := List.find?_some hfind
    exact .inl ⟨hand, List.mem_of_find?_eq_some hfind, of_decide_eq_true hname, h⟩
  next =>
    obtain ⟨deferred, hfind, hsubscriber⟩ := Option.bind_eq_some_iff.1 h
    have hname := List.find?_some hfind
    exact .inr ⟨deferred, List.mem_of_find?_eq_some hfind, of_decide_eq_true hname, hsubscriber⟩

/-! ## Subscriptions -/

/-- Letting go of a receiver, if there is one. -/
private theorem quietly_elim_letGo (previous : Option Receiver) (network : Network α) :
    Quietly network (previous.elim network network.letGo, []) := by
  refine (sameUnits_elim_letGo previous network).quietly ?_ (by simp)
  cases previous with
  | none => rfl
  | some receiver => exact length_outlets_letGo network receiver

/-- A publisher driven by hand remembers its new subscriber, and nothing else happens to the
units. -/
theorem subscribeHand_spec {name : String} {index : Nat} {hand : Hand}
    (hindex : network.hands[index]? = some hand) (hname : hand.name = name)
    (receiver : Receiver) :
    Steady none network (network.subscribeHand index receiver) ∧
      ∀ other target, (network.subscribeHand index receiver).Remembers other target →
        network.Remembers other target ∨ other = name ∧ target = receiver := by
  have hletGo := quietly_elim_letGo (network.hands[index]?.bind (·.subscriber))
    { network with
      hands := network.hands.modify index fun hand =>
        { hand with subscriber := some receiver, subscribed := hand.subscribed + 1 } }
  have hmodified : Steady none network
      { network with
        hands := network.hands.modify index fun hand =>
          { hand with subscriber := some receiver, subscribed := hand.subscribed + 1 } } :=
    .of_units rfl rfl rfl (Nat.le_refl _) (Nat.le_refl _)
  refine ⟨hmodified.trans hletGo.steady, fun other target hremembers => ?_⟩
  rcases hletGo.remembers other target hremembers with ⟨found, hmem, hother, htarget⟩ | hdeferred
  · obtain ⟨place, hplace⟩ := List.mem_iff_getElem?.1 hmem
    simp only [List.getElem?_modify] at hplace
    obtain ⟨before, hbefore, rfl⟩ := Option.map_eq_some_iff.1 hplace
    by_cases hsame : index = place
    · subst hsame
      rw [hindex] at hbefore
      cases hbefore
      rw [if_pos rfl] at hother htarget
      exact .inr ⟨hother.symm.trans hname, (Option.some.inj htarget).symm⟩
    · rw [if_neg hsame] at hother htarget
      exact .inl (.inl ⟨before, List.mem_of_getElem? hbefore, hother, htarget⟩)
  · exact .inl (.inr hdeferred)

/-- A deferred publisher remembers its new subscriber, and nothing else happens to the units. -/
theorem subscribeDeferred_spec (network : Network α) (name : String) (receiver : Receiver) :
    Steady none network (network.subscribeDeferred name receiver) ∧
      ∀ other target, (network.subscribeDeferred name receiver).Remembers other target →
        network.Remembers other target ∨ other = name ∧ target = receiver := by
  have hletGo := quietly_elim_letGo
    ((network.deferreds.find? (·.name = name)).bind (·.subscriber))
    { network with
      deferreds := network.deferreds.map fun deferred =>
        if deferred.name = name then { deferred with subscriber := some receiver } else deferred }
  have hmapped : Steady none network
      { network with
        deferreds := network.deferreds.map fun deferred =>
          if deferred.name = name then { deferred with subscriber := some receiver }
          else deferred } :=
    .of_units rfl rfl rfl (Nat.le_refl _) (Nat.le_refl _)
  refine ⟨hmapped.trans hletGo.steady, fun other target hremembers => ?_⟩
  rcases hletGo.remembers other target hremembers with hhand | ⟨found, hmem, hother, htarget⟩
  · exact .inl (.inl hhand)
  · obtain ⟨before, hbefore, rfl⟩ := List.mem_map.1 hmem
    split at hother
    next hname =>
      rw [if_pos hname] at htarget
      exact .inr ⟨hother.symm.trans hname, (Option.some.inj htarget).symm⟩
    next hname =>
      rw [if_neg hname] at htarget
      exact .inl (.inr ⟨before, hbefore, hother, htarget⟩)

/-- A list after an addition, looked at in one place. -/
private theorem map_getElem?_concat {β γ : Type} (f : β → γ) (xs : List β) (x : β) (index : Nat) :
    ((xs ++ [x])[index]?).map f = if index = xs.length then some (f x) else (xs[index]?).map f := by
  split
  next h => rw [h, List.getElem?_concat_length, Option.map_some]
  next h =>
    rcases Nat.lt_or_gt_of_ne h with hlt | hgt
    · rw [List.getElem?_append_left hlt]
    · rw [List.getElem?_eq_none (Nat.le_of_lt hgt), List.getElem?_eq_none]
      rw [List.length_append, List.length_singleton]
      exact hgt

/-- What holds of what stands at a place holds there still after an addition elsewhere. -/
private theorem forall_getElem?_concat {β : Type} {P : β → Prop} {xs : List β} {x : β} {index : Nat}
    (hindex : index ≠ xs.length) (h : ∀ y, xs[index]? = some y → P y) :
    ∀ y, (xs ++ [x])[index]? = some y → P y := by
  intro y hy
  have hmap := map_getElem?_concat id xs x index
  rw [if_neg hindex, Option.map_id, id, id, hy] at hmap
  exact h y hmap.symm

/-- A source is put above a receiver. -/
theorem joins_source (network : Network α) (receiver : Receiver) (stage : Stage (Source α))
    (hbelow : stage.below = receiver) :
    Joins (.source network.sources.length) receiver network
      { network with sources := network.sources ++ [stage] } where
  isUnit := rfl
  isNew := congrArg (Option.map _) (List.getElem?_eq_none (Nat.le_refl _))
  below := fun other => by
    cases other with
    | source place =>
        simp only [below?, map_getElem?_concat, Speaker.source.injEq, hbelow]
    | _ => rfl
  knows := fun receiver => by cases receiver <;> exact id
  ear := fun ear hear => by cases ear <;> simp [Receiver.unit?] at hear
  remembers := fun _ _ => id
  stands := fun other heard duties said hother hstands => by
    cases other with
    | source place =>
        exact forall_getElem?_concat (fun heq => hother (congrArg _ heq)) hstands
    | _ => exact hstands

/-- A window is put above a receiver. -/
theorem joins_window (network : Network α) (receiver : Receiver)
    (stage : Stage (Window α Link)) (hbelow : stage.below = receiver) :
    Joins (.window network.windows.length) receiver network
      { network with windows := network.windows ++ [stage] } where
  isUnit := rfl
  isNew := congrArg (Option.map _) (List.getElem?_eq_none (Nat.le_refl _))
  below := fun other => by
    cases other with
    | window place =>
        simp only [below?, map_getElem?_concat, Speaker.window.injEq, hbelow]
    | _ => rfl
  knows := fun receiver hknows => by
    cases receiver with
    | window place =>
        exact Nat.lt_of_lt_of_le hknows (List.prefix_append _ [stage]).length_le
    | _ => exact hknows
  ear := fun ear hear => by
    cases ear with
    | window place =>
        obtain rfl : place = network.windows.length := by simpa [Receiver.unit?] using hear
        simp [Knows]
    | _ => simp [Receiver.unit?] at hear
  remembers := fun _ _ => id
  stands := fun other heard duties said hother hstands => by
    cases other with
    | window place =>
        exact forall_getElem?_concat (fun heq => hother (congrArg _ heq)) hstands
    | _ => exact hstands

/-- A resumption is put above a receiver. -/
theorem joins_resumption (network : Network α) (receiver : Receiver) (stage : Resumed α)
    (hbelow : stage.below = receiver) :
    Joins (.resumption network.resumptions.length) receiver network
      { network with resumptions := network.resumptions ++ [stage] } where
  isUnit := rfl
  isNew := congrArg (Option.map _) (List.getElem?_eq_none (Nat.le_refl _))
  below := fun other => by
    cases other with
    | resumption place =>
        simp only [below?, map_getElem?_concat, Speaker.resumption.injEq, hbelow]
    | _ => rfl
  knows := fun receiver hknows => by
    cases receiver with
    | resumption place =>
        exact Nat.lt_of_lt_of_le hknows (List.prefix_append _ [stage]).length_le
    | _ => exact hknows
  ear := fun ear hear => by
    cases ear with
    | resumption place =>
        obtain rfl : place = network.resumptions.length := by simpa [Receiver.unit?] using hear
        simp [Knows]
    | _ => simp [Receiver.unit?] at hear
  remembers := fun _ _ => id
  stands := fun other heard duties said hother hstands => by
    cases other with
    | resumption place =>
        exact forall_getElem?_concat (fun heq => hother (congrArg _ heq)) hstands
    | _ => exact hstands

/-! ## Places -/

/-- A task that subscribes no one leaves every unit above its receiver. -/
theorem below?_perform {task : Task α}
    (h : ∀ publisher receiver, task ≠ .subscribe publisher receiver) (speaker : Speaker) :
    (perform task network).1.below? speaker = network.below? speaker := by
  cases task with
  | subscribe publisher receiver => exact absurd rfl (h publisher receiver)
  | act action =>
      have hlog := quietly_log network (.called action)
      cases action with
      | define | order | poll | collect | drop =>
          exact (hlog.trans (quietly_begin _ rfl)).steady.below speaker
      | subscribe | stream => exact (hlog.trans (quietly_mention _ _)).steady.below speaker
      | next | nextAll | complete | error =>
          simp only [perform, begin, signalByHand]
          split <;> cases speaker <;> rfl
      | accept name link react =>
          have htap := sameUnits_tapOf (network.log (.called (.accept name link react))) link react
          simp only [perform, begin, signalByHand]
          split <;> cases speaker <;>
            simp only [below?, htap.sources, htap.windows, htap.resumptions] <;> rfl
  | ret action result => exact (quietly_log network _).steady.below speaker
  | signal receiver delivery =>
      cases receiver with
      | probe index => exact (quietly_hearProbe network index delivery).steady.below speaker
      | window index => exact (steady_onWindow network index _).below speaker
      | resumption index => exact (steady_onResumption network index _).below speaker
      | bridge index => exact (quietly_hearBridge network index delivery).steady.below speaker
  | order link order =>
      cases link with
      | source index => exact (steady_onSource network index _).below speaker
      | window index => exact (steady_onWindow network index _).below speaker
      | switch index => exact (steady_onResumption network index _).below speaker
      | inert => rfl
      | hand index => exact (quietly_call network order (.hand index) rfl).steady.below speaker
      | tap index => exact (quietly_call network order (.tap index) rfl).steady.below speaker
  | source index work => exact (steady_onSource network index _).below speaker
  | window index pass => exact (steady_onWindow network index _).below speaker
  | resumption index work =>
      cases work with
      | bind | count => exact (steady_onResumption network index _).below speaker
      | recover failure =>
          simp only [perform, resume]
          split
          · exact (quietly_log network _).steady.below speaker
          · rfl
  | recover index failure recovery =>
      simp only [perform, follow]
      split
      · rfl
      · exact (quietly_mention network _).steady.below speaker
      · split <;> rfl
  | leave receiver => exact (quietly_leave network receiver).steady.below speaker
  | announce name index => exact (quietly_announce network name index).steady.below speaker
  | collect action index left answers =>
      exact (quietly_collect network action index left answers).steady.below speaker

/-- A subscription puts a unit above the receiver that is subscribed, if any. -/
theorem below?_subscribe (network : Network α) (receiver : Receiver)
    (publisher : Publisher α (Action α)) (speaker : Speaker) :
    (network.subscribe receiver publisher).1.below? speaker = network.below? speaker ∨
      network.below? speaker = none ∧
        (network.subscribe receiver publisher).1.below? speaker = some receiver := by
  have hjoins : ∀ {other next}, Joins other receiver network next →
      next.below? speaker = network.below? speaker ∨
        network.below? speaker = none ∧ next.below? speaker = some receiver := by
    intro other next hjoins
    rw [hjoins.below]
    split
    next heq =>
      subst heq
      exact .inr ⟨hjoins.isNew, rfl⟩
    next => exact .inl rfl
  cases publisher with
  | items supply =>
      simp only [subscribe]
      split
      · exact .inl rfl
      · exact hjoins (joins_source network receiver _ rfl)
  | fail | named => exact .inl rfl
  | hand name =>
      simp only [subscribe]
      split
      next index hindex =>
        obtain ⟨hlt, hname, -⟩ := List.findIdx?_eq_some_iff_getElem.1 hindex
        exact .inl ((subscribeHand_spec (List.getElem?_eq_getElem hlt)
          (of_decide_eq_true hname) receiver).1.below speaker)
      next => exact .inl rfl
  | deferred name => exact .inl ((subscribeDeferred_spec network name receiver).1.below speaker)
  | takeLast => exact hjoins (joins_window network receiver _ rfl)
  | resume => exact hjoins (joins_resumption network receiver _ rfl)

/-! ## Scripted subscribers -/

/-- Making publishers driven by hand leaves the scripted subscribers alone. -/
theorem probes_mention (network : Network α) (publisher : Publisher α (Action α)) :
    (network.mention publisher).probes = network.probes := by
  obtain ⟨hands, deferreds, hmention⟩ := network.exists_mention publisher
  rw [hmention]

/-- A source leaves the scripted subscribers alone. -/
theorem probes_onSource (network : Network α) (index : Nat)
    (f : Source α → Source α × List (Effect α Link Source.Work)) :
    (network.onSource index f).1.probes = network.probes := by
  unfold onSource
  split <;> rfl

/-- A window leaves the scripted subscribers alone. -/
theorem probes_onWindow (network : Network α) (index : Nat)
    (f : Window α Link → Window α Link × List (Effect α Link Pass)) :
    (network.onWindow index f).1.probes = network.probes := by
  unfold onWindow
  split <;> rfl

/-- A resumption leaves the scripted subscribers alone. -/
theorem probes_onResumption (network : Network α) (index : Nat)
    (f : Resumption Link → Resumption Link × List (Effect α Link (Resumption.Work Link))) :
    (network.onResumption index f).1.probes = network.probes := by
  unfold onResumption
  split <;> rfl

/-- A call leaves the scripted subscribers alone. -/
theorem probes_call (network : Network α) (order : Order) (link : Link) :
    (network.call order link).1.probes = network.probes := by
  cases link with
  | source index => exact probes_onSource _ _ _
  | window index => exact probes_onWindow _ _ _
  | switch index => exact probes_onResumption _ _ _
  | tap index =>
      simp only [call, callTap]
      split <;> rfl
  | inert | hand index => rfl

/-- A poll leaves the scripted subscribers alone. -/
theorem probes_poll (network : Network α) (index : Nat) :
    (network.poll index).1.probes = network.probes := by
  unfold Network.poll
  split <;> rfl

/-- Dropping a stream leaves the scripted subscribers alone. -/
theorem probes_drop (network : Network α) (index : Nat) :
    (network.drop index).1.probes = network.probes := by
  unfold Network.drop
  split <;> rfl

/-- A signal by hand leaves the scripted subscribers alone until it is delivered. -/
theorem probes_signalByHand (network : Network α) (action : Action α) (name : String)
    (deliveries : List (Delivery α Link)) :
    (network.signalByHand action name deliveries).1.probes = network.probes := by
  unfold signalByHand
  split <;> rfl

/-- A subscription leaves the scripted subscribers alone. -/
theorem probes_subscribe (network : Network α) (receiver : Receiver)
    (publisher : Publisher α (Action α)) :
    (network.subscribe receiver publisher).1.probes = network.probes := by
  cases publisher with
  | items supply =>
      simp only [subscribe]
      split <;> rfl
  | hand name =>
      simp only [subscribe]
      split
      · exact (sameUnits_elim_letGo _ _).probes
      · rfl
  | deferred name => exact (sameUnits_elim_letGo _ _).probes
  | fail | named | takeLast | resume => rfl

/-- Following a recovery leaves the scripted subscribers alone. -/
theorem probes_follow (network : Network α) (index : Nat) (failure : Failure)
    (recovery : Recovery α (Action α)) :
    (network.follow index failure recovery).1.probes = network.probes := by
  unfold follow
  split
  · rfl
  · exact probes_mention _ _
  · split <;> rfl

/-- Whether a task makes a scripted subscriber, or lets one hear a signal. -/
def Task.concernsProbes : Task α → Bool
  | .act (.subscribe _ _ _ _) | .signal (.probe _) _ => true
  | _ => false

/-- Any other task leaves the scripted subscribers alone. -/
theorem probes_perform {task : Task α} (h : task.concernsProbes = false) :
    (perform task network).1.probes = network.probes := by
  cases task with
  | act action =>
      cases action with
      | subscribe => exact absurd h.symm Bool.false_ne_true
      | define name publisher | stream name publisher prefetch => exact probes_mention _ publisher
      | order name order =>
          simp only [perform, begin]
          split <;> rfl
      | next | nextAll | complete | error => exact probes_signalByHand _ _ _ _
      | accept name link react =>
          exact (probes_signalByHand _ _ _ _).trans (sameUnits_tapOf _ link react).probes
      | poll name =>
          simp only [perform, begin]
          split
          · exact probes_poll _ _
          · rfl
      | collect name most =>
          simp only [perform, begin]
          split <;> rfl
      | drop name =>
          simp only [perform, begin]
          split
          · exact probes_drop _ _
          · rfl
  | ret action result => rfl
  | signal receiver delivery =>
      cases receiver with
      | probe index => exact absurd h.symm Bool.false_ne_true
      | window index => exact probes_onWindow network index _
      | resumption index => exact probes_onResumption network index _
      | bridge index =>
          simp only [perform, deliver, hearBridge]
          split
          · split <;> rfl
          · rfl
  | order link order => exact probes_call network order link
  | subscribe publisher receiver => exact probes_subscribe network receiver publisher
  | source index work => exact probes_onSource network index _
  | window index pass => exact probes_onWindow network index _
  | resumption index work =>
      cases work with
      | bind | count => exact probes_onResumption network index _
      | recover failure =>
          simp only [perform, resume]
          split <;> rfl
  | recover index failure recovery => exact probes_follow network index failure recovery
  | leave receiver =>
      exact (sameUnits_letGo { network with hearing := network.hearing.erase receiver } _).probes
  | announce name index =>
      simp only [perform, announce]
      split
      · exact probes_drop _ _
      · rfl
  | collect action index left answers =>
      simp only [perform, Network.collect]
      split
      · rfl
      · split <;> exact probes_poll network index

/-- A scripted subscriber that is made has heard nothing. -/
theorem historyOf_concat {probe : Probe α Link (Action α)}
    (h : next.probes = network.probes ++ [probe]) (hnew : probe.history = []) (index : Nat) :
    historyOf next index = historyOf network index := by
  unfold historyOf
  rw [h, map_getElem?_concat]
  split
  next heq => rw [heq, List.getElem?_eq_none (Nat.le_refl _), Option.getD_some, hnew]; rfl
  next => rfl

/-- A scripted subscriber records what it hears. -/
theorem historyOf_hearProbe {index : Nat} (h : index < network.probes.length)
    (delivery : Delivery α Link) (other : Nat) :
    historyOf (network.hearProbe index delivery).1 other =
      if index = other then historyOf network other ++ [delivery.signal]
      else historyOf network other := by
  have hprobe := List.getElem?_eq_getElem h
  have hprobes : (network.hearProbe index delivery).1.probes =
      network.probes.set index (network.probes[index].hear delivery) := by
    simp only [hearProbe, hprobe, log]
  unfold historyOf
  rw [hprobes]
  split
  next heq =>
    subst heq
    rw [List.getElem?_set_self h, hprobe]
    rfl
  next hne => rw [List.getElem?_set_ne hne]

end Backpressure.Network
