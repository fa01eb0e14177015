import Backpressure.Network.Run

/-!
# What happens away from a resumption

A resumption above a scripted subscriber is the only one that signals to that subscriber. Tasks that
neither belong to the two nor reach the resumption leave both alone, and add no task that belongs to
them.

Main results:

- Theorem `aloof_begin` covers the actions, and theorem `aloof_perform` every task.
-/

namespace Backpressure.Network

variable {α : Type} {index probe : Nat} {network next last : Network α}

/-! ## Tasks of a resumption -/

/-- The tasks that belong to a resumption and its receiver. -/
def Task.isReserved (index probe : Nat) : Task α → Bool
  | .signal (.probe other) _ | .subscribe _ (.probe other) => other = probe
  | .resumption other _ | .recover other _ _ => other = index
  | _ => false

/-- Whether a task reaches a resumption from outside. -/
def Task.reaches (index : Nat) : Task α → Bool
  | .signal (.resumption other) _ | .order (.switch other) _ => other = index
  | _ => false

/-- No one but a resumption signals to its receiver. -/
structure Apart (index probe : Nat) (network : Network α) : Prop where
  sources : ∀ stage ∈ network.sources, stage.below ≠ .probe probe
  windows : ∀ stage ∈ network.windows, stage.below ≠ .probe probe
  resumptions : ∀ other stage, other ≠ index → network.resumptions[other]? = some stage →
    stage.below ≠ .probe probe
  hands : ∀ hand ∈ network.hands, hand.subscriber ≠ some (.probe probe)
  deferreds : ∀ deferred ∈ network.deferreds, deferred.subscriber ≠ some (.probe probe)

/-- What is done leaves a resumption and its receiver alone. -/
structure Aloof (index probe : Nat) (network : Network α)
    (outcome : Network α × List (Task α)) : Prop where
  unit : outcome.1.resumptions[index]? = network.resumptions[index]?
  listener : outcome.1.probes[probe]? = network.probes[probe]?
  apart : Apart index probe outcome.1
  tasks : ∀ task ∈ outcome.2, task.isReserved index probe = false

/-- More tasks that do not belong to a resumption may follow. -/
theorem Aloof.append {tasks : List (Task α)} (h : Aloof index probe network (next, tasks))
    {more : List (Task α)} (hmore : ∀ task ∈ more, task.isReserved index probe = false) :
    Aloof index probe network (next, tasks ++ more) where
  unit := h.unit
  listener := h.listener
  apart := h.apart
  tasks := fun task htask => (List.mem_append.1 htask).elim (h.tasks task) (hmore task)

/-! ## Networks with the same units -/

/-- Two networks have the same units, subscribers and publishers driven by hand. -/
structure SameUnits (network next : Network α) : Prop where
  sources : next.sources = network.sources
  windows : next.windows = network.windows
  resumptions : next.resumptions = network.resumptions
  probes : next.probes = network.probes
  hands : next.hands = network.hands
  deferreds : next.deferreds = network.deferreds

/-- A network has the same units as itself. -/
theorem SameUnits.refl (network : Network α) : SameUnits network network :=
  ⟨rfl, rfl, rfl, rfl, rfl, rfl⟩

/-- One change after another. -/
theorem SameUnits.trans (hfirst : SameUnits network next) (hsecond : SameUnits next last) :
    SameUnits network last where
  sources := hsecond.sources.trans hfirst.sources
  windows := hsecond.windows.trans hfirst.windows
  resumptions := hsecond.resumptions.trans hfirst.resumptions
  probes := hsecond.probes.trans hfirst.probes
  hands := hsecond.hands.trans hfirst.hands
  deferreds := hsecond.deferreds.trans hfirst.deferreds

/-- Who signals to whom depends on the units only. -/
theorem SameUnits.apart (h : SameUnits network next) (hapart : Apart index probe network) :
    Apart index probe next where
  sources := by rw [h.sources]; exact hapart.sources
  windows := by rw [h.windows]; exact hapart.windows
  resumptions := by rw [h.resumptions]; exact hapart.resumptions
  hands := by rw [h.hands]; exact hapart.hands
  deferreds := by rw [h.deferreds]; exact hapart.deferreds

/-- What keeps the units leaves a resumption alone. -/
theorem SameUnits.aloof (h : SameUnits network next) (hapart : Apart index probe network)
    {tasks : List (Task α)} (htasks : ∀ task ∈ tasks, task.isReserved index probe = false) :
    Aloof index probe network (next, tasks) where
  unit := congrArg (·[index]?) h.resumptions
  listener := congrArg (·[probe]?) h.probes
  apart := h.apart hapart
  tasks := htasks

/-- What leaves a resumption alone does so in any network with the same units. -/
theorem SameUnits.trans_aloof (h : SameUnits network next)
    {outcome : Network α × List (Task α)} (haloof : Aloof index probe next outcome) :
    Aloof index probe network outcome where
  unit := by rw [haloof.unit, h.resumptions]
  listener := by rw [haloof.listener, h.probes]
  apart := haloof.apart
  tasks := haloof.tasks

/-- Recording an event keeps the units. -/
theorem sameUnits_log (network : Network α) (event : Event α (Action α) (Result α)) :
    SameUnits network (network.log event) :=
  ⟨rfl, rfl, rfl, rfl, rfl, rfl⟩

/-- Letting go of a receiver keeps the units. -/
theorem sameUnits_letGo (network : Network α) (receiver : Receiver) :
    SameUnits network (network.letGo receiver) := by
  unfold letGo closeStream
  split
  · split
    · exact .refl network
    · split
      · simp only
        split <;> exact ⟨rfl, rfl, rfl, rfl, rfl, rfl⟩
      · exact .refl network
  · exact .refl network

/-- Letting go of a receiver, if there is one, keeps the units. -/
theorem sameUnits_elim_letGo (receiver : Option Receiver) (network : Network α) :
    SameUnits network (receiver.elim network network.letGo) := by
  cases receiver with
  | none => exact .refl network
  | some receiver => exact sameUnits_letGo network receiver

/-- Finding a scripted link keeps the units. -/
theorem sameUnits_tapOf (network : Network α) (name : String) (react : Reaction (Action α)) :
    SameUnits network (network.tapOf name react).1 := by
  unfold tapOf
  split <;> exact ⟨rfl, rfl, rfl, rfl, rfl, rfl⟩

/-! ## Units -/

/-- A list after a change at one place holds only what it held before, and the new element. -/
private theorem forall_mem_set {β : Type} {P : β → Prop} {xs : List β} {place : Nat} {x : β}
    (hxs : ∀ y ∈ xs, P y) (hx : P x) : ∀ y ∈ xs.set place x, P y := by
  intro y hy
  rcases List.mem_or_eq_of_mem_set hy with hmem | rfl
  · exact hxs y hmem
  · exact hx

/-- A list after one of its elements was modified holds only what it held before, modified or not. -/
private theorem forall_mem_modify {β : Type} {P : β → Prop} {xs : List β} {f : β → β}
    (hxs : ∀ y ∈ xs, P y) (hf : ∀ y, P y → P (f y)) (place : Nat) :
    ∀ y ∈ xs.modify place f, P y := by
  intro y hy
  obtain ⟨found, hfound⟩ := List.mem_iff_getElem?.1 hy
  rw [List.getElem?_modify] at hfound
  obtain ⟨x, hx, rfl⟩ := Option.map_eq_some_iff.1 hfound
  have hold := hxs x (List.mem_of_getElem? hx)
  split
  · exact hf x hold
  · exact hold

/-- A list after an addition holds only what it held before, and the new element. -/
private theorem forall_mem_concat {β : Type} {P : β → Prop} {xs : List β} {x : β}
    (hxs : ∀ y ∈ xs, P y) (hx : P x) : ∀ y ∈ xs ++ [x], P y :=
  List.forall_mem_append.2 ⟨hxs, List.forall_mem_singleton.2 hx⟩

/-- The effects of a unit above another receiver do not belong to a resumption. -/
private theorem isReserved_taskOf {κ : Type} {below : Receiver} {work : κ → Task α}
    (hbelow : below ≠ .probe probe) (hwork : ∀ own, (work own).isReserved index probe = false)
    (effects : List (Effect α Link κ)) :
    ∀ task ∈ effects.map (taskOf below work), task.isReserved index probe = false := by
  intro task htask
  obtain ⟨effect, -, rfl⟩ := List.mem_map.1 htask
  cases effect with
  | signal delivery =>
      cases below with
      | probe other => exact decide_eq_false fun heq => hbelow (congrArg Receiver.probe heq)
      | _ => rfl
  | order link order => rfl
  | go own => exact hwork own

/-- A source leaves a resumption alone. -/
theorem aloof_onSource (hapart : Apart index probe network) (place : Nat)
    (f : Source α → Source α × List (Effect α Link Source.Work)) :
    Aloof index probe network (network.onSource place f) := by
  unfold onSource
  split
  next stage hstage =>
    have hbelow := hapart.sources stage (List.mem_of_getElem? hstage)
    exact {
      unit := rfl
      listener := rfl
      apart := { hapart with sources := forall_mem_set hapart.sources hbelow }
      tasks := isReserved_taskOf hbelow (fun _ => rfl) _ }
  next => exact (SameUnits.refl network).aloof hapart (by simp)

/-- A window leaves a resumption alone. -/
theorem aloof_onWindow (hapart : Apart index probe network) (place : Nat)
    (f : Window α Link → Window α Link × List (Effect α Link Pass)) :
    Aloof index probe network (network.onWindow place f) := by
  unfold onWindow
  split
  next stage hstage =>
    have hbelow := hapart.windows stage (List.mem_of_getElem? hstage)
    exact {
      unit := rfl
      listener := rfl
      apart := { hapart with windows := forall_mem_set hapart.windows hbelow }
      tasks := isReserved_taskOf hbelow (fun _ => rfl) _ }
  next => exact (SameUnits.refl network).aloof hapart (by simp)

/-- Another resumption leaves a resumption alone. -/
theorem aloof_onResumption (hapart : Apart index probe network) {place : Nat}
    (hplace : place ≠ index)
    (f : Resumption Link → Resumption Link × List (Effect α Link (Resumption.Work Link))) :
    Aloof index probe network (network.onResumption place f) := by
  unfold onResumption
  split
  next stage hstage =>
    have hbelow := hapart.resumptions place stage hplace hstage
    have hwork : ∀ work, (Task.resumption place work : Task α).isReserved index probe = false :=
      fun _ => decide_eq_false hplace
    refine {
      unit := List.getElem?_set_ne hplace
      listener := rfl
      apart := { hapart with resumptions := ?_ }
      tasks := isReserved_taskOf hbelow hwork _ }
    intro other found hother hfound
    by_cases hsame : other = place
    · subst hsame
      rw [List.getElem?_set_self (List.getElem?_eq_some_iff.1 hstage).1] at hfound
      cases hfound
      exact hbelow
    · rw [List.getElem?_set_ne (Ne.symm hsame)] at hfound
      exact hapart.resumptions other found hother hfound
  next => exact (SameUnits.refl network).aloof hapart (by simp)

/-! ## Signals and calls -/

/-- Actions do not belong to a resumption. -/
theorem isReserved_map_act (actions : List (Action α)) :
    ∀ task ∈ actions.map Task.act, task.isReserved index probe = false := by
  intro task htask
  obtain ⟨action, -, rfl⟩ := List.mem_map.1 htask
  rfl

/-- Another scripted subscriber leaves a resumption alone. -/
theorem aloof_hearProbe (hapart : Apart index probe network) {place : Nat}
    (hplace : place ≠ probe) (delivery : Delivery α Link) :
    Aloof index probe network (network.hearProbe place delivery) := by
  unfold hearProbe
  split
  next listener hlistener =>
    refine {
      unit := rfl
      listener := List.getElem?_set_ne hplace
      apart := ⟨hapart.sources, hapart.windows, hapart.resumptions, hapart.hands,
        hapart.deferreds⟩
      tasks := ?_ }
    intro task htask
    rcases List.mem_append.1 htask with hcall | hact
    · obtain ⟨call, -, rfl⟩ := List.mem_map.1 hcall
      rfl
    · exact isReserved_map_act _ task hact
  next => exact (SameUnits.refl network).aloof hapart (by simp)

/-- The call that a stream makes does not belong to a resumption. -/
private theorem aloof_setBridge (hapart : Apart index probe network) (place : Nat)
    (outlet : Outlet α) (unit : Bridge α Link) (call : Option (Call Link)) :
    Aloof index probe network (network.setBridge place outlet unit call) := by
  refine SameUnits.aloof ?_ hapart ?_
  · exact ⟨rfl, rfl, rfl, rfl, rfl, rfl⟩
  · intro task htask
    obtain ⟨call, -, rfl⟩ := List.mem_map.1 htask
    rfl

/-- A stream that hears a signal leaves a resumption alone. -/
theorem aloof_hearBridge (hapart : Apart index probe network) (place : Nat)
    (delivery : Delivery α Link) : Aloof index probe network (network.hearBridge place delivery) := by
  unfold hearBridge
  split
  next outlet houtlet =>
    have hset := aloof_setBridge hapart place outlet (outlet.unit.hear delivery).1
      (outlet.unit.hear delivery).2
    simp only
    split
    · exact ⟨hset.unit, hset.listener, (sameUnits_log _ _).apart hset.apart, hset.tasks⟩
    · exact hset
  next => exact (SameUnits.refl network).aloof hapart (by simp)

/-- A signal to someone else leaves a resumption alone. -/
theorem aloof_deliver (hapart : Apart index probe network) (delivery : Delivery α Link)
    {receiver : Receiver} (hreceiver : receiver ≠ .probe probe)
    (hother : receiver ≠ .resumption index) :
    Aloof index probe network (network.deliver delivery receiver) := by
  cases receiver with
  | probe place =>
      exact aloof_hearProbe hapart (fun heq => hreceiver (congrArg Receiver.probe heq)) delivery
  | window place => exact aloof_onWindow hapart place (·.hear (.window place) delivery)
  | resumption place =>
      exact aloof_onResumption hapart (fun heq => hother (congrArg Receiver.resumption heq))
        (·.hear (.switch place) delivery)
  | bridge place => exact aloof_hearBridge hapart place delivery

/-- A call on another link leaves a resumption alone. -/
theorem aloof_call (hapart : Apart index probe network) (order : Order) {link : Link}
    (hlink : link ≠ .switch index) : Aloof index probe network (network.call order link) := by
  cases link with
  | inert => exact (SameUnits.refl network).aloof hapart (by simp)
  | source place => exact aloof_onSource hapart place (·.take order)
  | window place => exact aloof_onWindow hapart place (·.take order)
  | switch place =>
      exact aloof_onResumption hapart (fun heq => hlink (congrArg Link.switch heq)) (·.take order)
  | hand place =>
      have hhands := forall_mem_modify
        (f := fun hand => { hand with ledger := hand.ledger.record order }) hapart.hands
        (fun _ h => h) place
      exact ⟨rfl, rfl, { hapart with hands := hhands }, by simp [call]⟩
  | tap place =>
      simp only [call, callTap]
      split
      · refine SameUnits.aloof ?_ hapart (isReserved_map_act _)
        exact ⟨rfl, rfl, rfl, rfl, rfl, rfl⟩
      · exact (SameUnits.refl network).aloof hapart (by simp)

/-! ## Subscriptions -/

/-- Subscribing someone else to a publisher driven by hand leaves a resumption alone. -/
private theorem aloof_subscribeHand (hapart : Apart index probe network) (place : Nat)
    {receiver : Receiver} (hreceiver : receiver ≠ .probe probe) {tasks : List (Task α)}
    (htasks : ∀ task ∈ tasks, task.isReserved index probe = false) :
    Aloof index probe network (network.subscribeHand place receiver, tasks) := by
  have hhands := forall_mem_modify
    (f := fun hand =>
      { hand with subscriber := some receiver, subscribed := hand.subscribed + 1 }) hapart.hands
    (fun _ _ heq => hreceiver (Option.some.inj heq)) place
  have hsame := sameUnits_elim_letGo (network.hands[place]?.bind (·.subscriber))
    { network with
      hands := network.hands.modify place fun hand =>
        { hand with subscriber := some receiver, subscribed := hand.subscribed + 1 } }
  exact {
    unit := congrArg (·[index]?) hsame.resumptions
    listener := congrArg (·[probe]?) hsame.probes
    apart := hsame.apart { hapart with hands := hhands }
    tasks := htasks }

/-- Subscribing someone else to a deferred publisher leaves a resumption alone. -/
private theorem aloof_subscribeDeferred (hapart : Apart index probe network) (name : String)
    {receiver : Receiver} (hreceiver : receiver ≠ .probe probe) :
    Aloof index probe network (network.subscribeDeferred name receiver, []) := by
  have hsame := sameUnits_elim_letGo
    ((network.deferreds.find? (·.name = name)).bind (·.subscriber))
    { network with
      deferreds := network.deferreds.map fun deferred =>
        if deferred.name = name then { deferred with subscriber := some receiver } else deferred }
  refine {
    unit := congrArg (·[index]?) hsame.resumptions
    listener := congrArg (·[probe]?) hsame.probes
    apart := hsame.apart { hapart with deferreds := ?_ }
    tasks := fun _ h => (List.not_mem_nil h).elim }
  intro deferred hmem
  obtain ⟨before, hbefore, rfl⟩ := List.mem_map.1 hmem
  split
  · exact fun heq => hreceiver (Option.some.inj heq)
  · exact hapart.deferreds before hbefore

/-- Subscribing someone else leaves a resumption alone: what is put above another receiver signals
to that one. -/
theorem aloof_subscribe (hapart : Apart index probe network)
    (hunit : index < network.resumptions.length) {receiver : Receiver}
    (hreceiver : receiver ≠ .probe probe) (publisher : Publisher α (Action α)) :
    Aloof index probe network (network.subscribe receiver publisher) := by
  have hsignal : ∀ delivery : Delivery α Link,
      (Task.signal receiver delivery).isReserved index probe = false := by
    intro delivery
    cases receiver with
    | probe other => exact decide_eq_false fun heq => hreceiver (congrArg Receiver.probe heq)
    | _ => rfl
  cases publisher with
  | items supply =>
      simp only [subscribe]
      split
      · exact (SameUnits.refl network).aloof hapart (by simp [hsignal])
      · have hsources := forall_mem_concat
          (x := network.stage receiver ({ items := supply } : Source α)) hapart.sources hreceiver
        exact ⟨rfl, rfl, { hapart with sources := hsources }, by simp [hsignal]⟩
  | fail failure => exact (SameUnits.refl network).aloof hapart (by simp [hsignal])
  | hand name =>
      simp only [subscribe]
      split
      · exact aloof_subscribeHand hapart _ hreceiver (by simp [hsignal])
      · exact (SameUnits.refl network).aloof hapart (by simp)
  | deferred name => exact aloof_subscribeDeferred hapart name hreceiver
  | named name => exact (SameUnits.refl network).aloof hapart (by simp)
  | takeLast count delaysFailure up =>
      have hwindows := forall_mem_concat
        (x := network.stage receiver (Window.ofSize (α := α) (ι := Link) count delaysFailure))
        hapart.windows hreceiver
      exact ⟨rfl, rfl, { hapart with windows := hwindows }, by simp [subscribe, Task.isReserved]⟩
  | resume tag recover up =>
      refine ⟨List.getElem?_append_left hunit, rfl, { hapart with resumptions := ?_ },
        by simp [subscribe, Task.isReserved]⟩
      intro other stage hother hstage
      simp only [subscribe, List.getElem?_append] at hstage
      split at hstage
      · exact hapart.resumptions other stage hother hstage
      · rw [List.getElem?_singleton] at hstage
        split at hstage
        · cases hstage
          exact hreceiver
        · exact absurd hstage (by simp)

/-- The publishers driven by hand that an expression mentions have no subscriber yet. -/
theorem aloof_mention (hapart : Apart index probe network)
    (publisher : Publisher α (Action α)) :
    Aloof index probe network (network.mention publisher, []) := by
  have hhands : ∀ (names : List String) {network : Network α}, Apart index probe network →
      Aloof index probe network (names.foldl ensureHand network, []) := by
    intro names
    induction names with
    | nil => exact fun hapart => (SameUnits.refl _).aloof hapart (by simp)
    | cons name names ih =>
        intro network hapart
        rw [List.foldl_cons, ensureHand]
        split
        · exact ih hapart
        · have hnew := forall_mem_concat (x := ({ name } : Hand)) hapart.hands (by simp)
          have hlater := @ih { network with hands := network.hands ++ [{ name }] }
            { hapart with hands := hnew }
          exact ⟨hlater.unit, hlater.listener, hlater.apart, hlater.tasks⟩
  have hdeferreds : ∀ (names : List String) {network : Network α}, Apart index probe network →
      Aloof index probe network (names.foldl ensureDeferred network, []) := by
    intro names
    induction names with
    | nil => exact fun hapart => (SameUnits.refl _).aloof hapart (by simp)
    | cons name names ih =>
        intro network hapart
        rw [List.foldl_cons, ensureDeferred]
        split
        · exact ih hapart
        · have hnew := forall_mem_concat (x := ({ name } : Deferred)) hapart.deferreds (by simp)
          have hlater := @ih { network with deferreds := network.deferreds ++ [{ name }] }
            { hapart with deferreds := hnew }
          exact ⟨hlater.unit, hlater.listener, hlater.apart, hlater.tasks⟩
  have hfirst := hhands publisher.mentioned hapart
  have hsecond := hdeferreds publisher.mentionedDeferred hfirst.apart
  exact ⟨hsecond.unit.trans hfirst.unit, hsecond.listener.trans hfirst.listener, hsecond.apart,
    hsecond.tasks⟩

/-! ## Recoveries -/

/-- What another resumption does about a failure leaves a resumption alone. -/
theorem aloof_follow (hapart : Apart index probe network) {place : Nat} (hplace : place ≠ index)
    (failure : Failure) (recovery : Recovery α (Action α)) :
    Aloof index probe network (network.follow place failure recovery) := by
  unfold follow
  split
  next actions following =>
    refine (SameUnits.refl network).aloof hapart ?_
    intro task htask
    rcases List.mem_append.1 htask with hact | hlast
    · exact isReserved_map_act _ task hact
    · rw [List.mem_singleton.1 hlast]
      exact decide_eq_false hplace
  next publisher => exact (aloof_mention hapart publisher).append (by simp [Task.isReserved])
  next =>
    split
    next stage second hstage _ =>
      have hbelow := hapart.resumptions place stage hplace hstage
      refine (SameUnits.refl network).aloof hapart ?_
      intro task htask
      rw [List.mem_singleton.1 htask]
      cases hreceiver : stage.below with
      | probe other =>
          exact decide_eq_false fun heq =>
            hbelow (hreceiver.trans (congrArg Receiver.probe heq))
      | _ => rfl
    next => exact (SameUnits.refl network).aloof hapart (by simp)

/-- The work of another resumption leaves a resumption alone. -/
theorem aloof_resume (hapart : Apart index probe network) {place : Nat} (hplace : place ≠ index)
    (work : Resumption.Work Link) : Aloof index probe network (network.resume place work) := by
  cases work with
  | bind link => exact aloof_onResumption hapart hplace (·.bind link)
  | count => exact aloof_onResumption hapart hplace fun unit => (unit.count, [])
  | recover failure =>
      simp only [resume]
      split
      · exact (sameUnits_log network _).aloof hapart (by simp [Task.isReserved, hplace])
      · exact (SameUnits.refl network).aloof hapart (by simp)

/-! ## Streams -/

/-- A poll leaves a resumption alone. -/
theorem aloof_poll (hapart : Apart index probe network) (place : Nat) :
    Aloof index probe network ((network.poll place).1, (network.poll place).2.2) := by
  unfold poll
  split
  next outlet houtlet =>
    exact aloof_setBridge hapart place outlet outlet.unit.poll.1 outlet.unit.poll.2.2
  next => exact (SameUnits.refl network).aloof hapart (by simp)

/-- Dropping a stream leaves a resumption alone. -/
theorem aloof_drop (hapart : Apart index probe network) (place : Nat) :
    Aloof index probe network (network.drop place) := by
  unfold drop
  split
  next outlet houtlet => exact aloof_setBridge hapart place outlet outlet.unit.drop.1 _
  next => exact (SameUnits.refl network).aloof hapart (by simp)

/-- Giving a name to a stream leaves a resumption alone. -/
theorem aloof_announce (hapart : Apart index probe network) (name : String) (place : Nat) :
    Aloof index probe network (network.announce name place) := by
  have hnamed : SameUnits network
      { network with streams := (name, place) :: network.streams } :=
    ⟨rfl, rfl, rfl, rfl, rfl, rfl⟩
  unfold announce
  split
  next previous _ => exact hnamed.trans_aloof (aloof_drop (hnamed.apart hapart) previous)
  next => exact hnamed.aloof hapart (by simp)

/-- The end of a signal by hand leaves a resumption alone. -/
theorem aloof_leave (hapart : Apart index probe network) (receiver : Receiver) :
    Aloof index probe network (network.leave receiver, []) := by
  have hleft : SameUnits network { network with hearing := network.hearing.erase receiver } :=
    ⟨rfl, rfl, rfl, rfl, rfl, rfl⟩
  exact (hleft.trans (sameUnits_letGo _ receiver)).aloof hapart (by simp)

/-- Collecting leaves a resumption alone. -/
theorem aloof_collect (hapart : Apart index probe network) (action : Action α)
    (place left : Nat) (answers : List (Poll α)) :
    Aloof index probe network (network.collect action place left answers) := by
  cases left with
  | zero => exact (SameUnits.refl network).aloof hapart (by simp [Task.isReserved])
  | succ left =>
      simp only [collect]
      split <;> exact (aloof_poll hapart place).append (by simp [Task.isReserved])

/-! ## Actions -/

/-- A publisher driven by hand does not signal to the receiver of a resumption. -/
theorem Apart.subscriberOf_ne (hapart : Apart index probe network) {name : String}
    {receiver : Receiver} (h : network.subscriberOf name = some receiver) :
    receiver ≠ .probe probe := by
  rintro rfl
  unfold subscriberOf at h
  split at h
  next hand hfind => exact hapart.hands hand (List.mem_of_find?_eq_some hfind) h
  next =>
    obtain ⟨deferred, hfind, hsubscriber⟩ := Option.bind_eq_some_iff.1 h
    exact hapart.deferreds deferred (List.mem_of_find?_eq_some hfind) hsubscriber

/-- A signal by hand leaves a resumption alone. -/
theorem aloof_signalByHand (hapart : Apart index probe network) (action : Action α)
    (name : String) (deliveries : List (Delivery α Link)) :
    Aloof index probe network (network.signalByHand action name deliveries) := by
  unfold signalByHand
  split
  next receiver hsubscriber =>
    have hreceiver := hapart.subscriberOf_ne hsubscriber
    refine SameUnits.aloof ?_ hapart ?_
    · exact ⟨rfl, rfl, rfl, rfl, rfl, rfl⟩
    · intro task htask
      rcases List.mem_append.1 htask with hsignal | hlast
      · obtain ⟨delivery, -, rfl⟩ := List.mem_map.1 hsignal
        cases receiver with
        | probe other => exact decide_eq_false fun heq => hreceiver (congrArg Receiver.probe heq)
        | _ => rfl
      · rcases List.mem_cons.1 hlast with rfl | hret
        · rfl
        · rw [List.mem_singleton.1 hret]
          rfl
  next => exact (SameUnits.refl network).aloof hapart (by simp [Task.isReserved])

/-- An action leaves a resumption alone, except that its tasks may reach it later. -/
theorem aloof_begin (hapart : Apart index probe network)
    (hlistener : probe < network.probes.length) (action : Action α) :
    Aloof index probe network (network.begin action) := by
  cases action with
  | define name publisher =>
      have hmention := (aloof_mention hapart publisher).append
        (by simp [Task.isReserved] : ∀ task ∈ [Task.ret (.define name publisher) .done],
          task.isReserved index probe = false)
      have hsame : SameUnits (network.mention publisher)
          (network.begin (.define name publisher)).1 := ⟨rfl, rfl, rfl, rfl, rfl, rfl⟩
      exact ⟨hmention.unit, hmention.listener, hsame.apart hmention.apart, hmention.tasks⟩
  | subscribe name publisher initial react =>
      have hmention := aloof_mention hapart publisher
      have hstill : probe < (network.mention publisher).probes.length := by
        have hsome := List.getElem?_eq_getElem hlistener
        rw [← hmention.listener] at hsome
        exact (List.getElem?_eq_some_iff.1 hsome).1
      refine ⟨hmention.unit, (List.getElem?_append_left hstill).trans hmention.listener,
        ⟨hmention.apart.sources, hmention.apart.windows, hmention.apart.resumptions,
          hmention.apart.hands, hmention.apart.deferreds⟩, ?_⟩
      intro task htask
      rcases List.mem_cons.1 htask with rfl | hlast
      · exact decide_eq_false (Nat.ne_of_gt hstill)
      · rw [List.mem_singleton.1 hlast]
        rfl
  | stream name publisher prefetch =>
      have hmention := aloof_mention hapart publisher
      have hsame : SameUnits (network.mention publisher)
          (network.begin (.stream name publisher prefetch)).1 := ⟨rfl, rfl, rfl, rfl, rfl, rfl⟩
      exact ⟨hmention.unit, hmention.listener, hsame.apart hmention.apart,
        by simp [begin, Task.isReserved]⟩
  | order name order =>
      simp only [begin]
      split <;> exact (SameUnits.refl network).aloof hapart (by simp [Task.isReserved])
  | next | nextAll | complete | error => exact aloof_signalByHand hapart _ _ _
  | accept name link react =>
      have htap := sameUnits_tapOf network link react
      exact htap.trans_aloof (aloof_signalByHand (htap.apart hapart) _ _ _)
  | poll name =>
      simp only [begin]
      split
      · exact (aloof_poll hapart _).append (by simp [Task.isReserved])
      · exact (SameUnits.refl network).aloof hapart (by simp [Task.isReserved])
  | collect name most =>
      simp only [begin]
      split <;> exact (SameUnits.refl network).aloof hapart (by simp [Task.isReserved])
  | drop name =>
      simp only [begin]
      split
      · exact (aloof_drop hapart _).append (by simp [Task.isReserved])
      · exact (SameUnits.refl network).aloof hapart (by simp [Task.isReserved])

/-! ## All tasks -/

/-- A task that neither belongs to a resumption nor reaches it leaves it alone, and so do the tasks
that it adds, unless they reach the resumption. -/
theorem aloof_perform (hapart : Apart index probe network)
    (hunit : index < network.resumptions.length) (hlistener : probe < network.probes.length)
    {task : Task α} (hreserved : task.isReserved index probe = false)
    (hreaches : task.reaches index = false) :
    Aloof index probe network (perform task network) := by
  cases task with
  | act action =>
      have hlogged := sameUnits_log network (.called action)
      exact hlogged.trans_aloof (aloof_begin (hlogged.apart hapart) hlistener action)
  | ret action result => exact (sameUnits_log network _).aloof hapart (by simp)
  | signal receiver delivery =>
      refine aloof_deliver hapart delivery ?_ ?_
      · rintro rfl
        exact absurd hreserved (by simp [Task.isReserved])
      · rintro rfl
        exact absurd hreaches (by simp [Task.reaches])
  | order link order =>
      refine aloof_call hapart order ?_
      rintro rfl
      exact absurd hreaches (by simp [Task.reaches])
  | subscribe publisher receiver =>
      refine aloof_subscribe hapart hunit ?_ publisher
      rintro rfl
      exact absurd hreserved (by simp [Task.isReserved])
  | source place work => exact aloof_onSource hapart place (·.go work)
  | window place pass => exact aloof_onWindow hapart place (·.go pass)
  | resumption place work => exact aloof_resume hapart (of_decide_eq_false hreserved) work
  | recover place failure recovery =>
      exact aloof_follow hapart (of_decide_eq_false hreserved) failure recovery
  | leave receiver => exact aloof_leave hapart receiver
  | announce name place => exact aloof_announce hapart name place
  | collect action place left answers => exact aloof_collect hapart action place left answers

end Backpressure.Network
