import Backpressure.Proofs.Emission.Standing

/-!
# Subscriptions in their places

Any number of scripted subscribers may be subscribed to supplies of items, one after the other, and
may call their links whenever they want to: from the top, or when they hear a signal, be it their
own or that of another subscriber. Each subscription has a source of its own, and what its source
asks for stays among its own tasks.

Main results:

- Theorem `Arranged.does` lists what a task can do.
- Theorem `Arranged.perform` shows that sources, subscribers and tasks stay in their places.
-/

namespace Backpressure

/-- A supply with items that can be counted. -/
structure Supply.Proper {α : Type} (supply : Supply α) : Prop where
  filled : supply.toList ≠ []
  counted : supply.toList.length ≤ Demand.unbounded.toNat

namespace Network

variable {α : Type}

/-! ## Scripts -/

/-- A script whose reactions are calls on links. -/
def CallsOnly (react : Reaction (Action α)) : Prop :=
  ∀ kind number, ∀ action ∈ react kind number, ∃ name order, action = .order name order

/-- An action that subscribes to a supply of items, or by which a subscriber calls its link. -/
def IsScripted : Action α → Prop
  | .order _ _ => True
  | .subscribe _ (.items supply) _ react => supply.Proper ∧ CallsOnly react
  | _ => False

/-- The supply that an action subscribes to. -/
def Action.supply? : Action α → Option (Supply α)
  | .subscribe _ (.items supply) _ _ => some supply
  | _ => none

/-- The supplies that actions subscribe to, in order. -/
def supplies (actions : List (Action α)) : List (Supply α) := actions.filterMap Action.supply?

/-! ## Tasks -/

/-- The supply that a task is about to subscribe to. -/
def Task.supply? : Task α → Option (Supply α)
  | .act action => action.supply?
  | _ => none

/-- The supplies that are still to be subscribed to. -/
def awaited (tasks : List (Task α)) : List (Supply α) := tasks.filterMap Task.supply?

/-- Whether a task subscribes a receiver. -/
def Task.isSubscription : Task α → Bool
  | .subscribe _ _ => true
  | _ => false

/-- Whether a task cannot wait: it is a signal or a subscription. -/
def Task.isUrgent : Task α → Bool
  | .signal _ _ | .subscribe _ _ => true
  | _ => false

/-- The effect of the source at an index that a task goes on with. -/
def Task.effect? (index : Nat) : Task α → Option (Effect α Link Source.Work)
  | .source place work => if place = index then some (.go work) else none
  | .signal (.probe place) delivery => if place = index then some (.signal delivery) else none
  | _ => none

/-- The effects of the source at an index that are pending. -/
def pending (index : Nat) (tasks : List (Task α)) : List (Effect α Link Source.Work) :=
  tasks.filterMap (Task.effect? index)

variable {network next : Network α} {task : Task α} {tasks added rest : List (Task α)}
  {offered : List (Supply α)} {index : Nat}

/-- A signal to the subscriber at an index is an effect of the source there. -/
@[simp] theorem effect?_signal (index : Nat) (delivery : Delivery α Link) :
    (Task.signal (.probe index) delivery).effect? index = some (.signal delivery) := if_pos rfl

/-- So is the work of that source. -/
@[simp] theorem effect?_source (index : Nat) (work : Source.Work) :
    (Task.source index work : Task α).effect? index = some (.go work) := if_pos rfl

/-- What is pending starts with the effect that comes next. -/
theorem pending_cons {effect : Effect α Link Source.Work} (h : task.effect? index = some effect) :
    pending index (task :: tasks) = effect :: pending index tasks := List.filterMap_cons_some h

/-- What is pending in two stretches of tasks. -/
theorem pending_append (index : Nat) (first second : List (Task α)) :
    pending index (first ++ second) = pending index first ++ pending index second :=
  List.filterMap_append

/-- What is awaited in two stretches of tasks. -/
theorem awaited_append (first second : List (Task α)) :
    awaited (first ++ second) = awaited first ++ awaited second := List.filterMap_append

/-- The tasks of a source are its effects. -/
theorem pending_map_taskOf {effects : List (Effect α Link Source.Work)}
    (h : ∃ delivery later, effects = (delivery : Option (Delivery α Link)).toList.map .signal ++
      (later : Option Source.Work).toList.map .go) (place index : Nat) :
    pending index (effects.map (taskOf (.probe place) (.source place))) =
      if place = index then effects else [] := by
  obtain ⟨delivery, later, rfl⟩ := h
  by_cases hplace : place = index <;> cases delivery <;> cases later <;>
    simp [pending, Task.effect?, taskOf, hplace]

/-! ## Places -/

section

variable {β : Type} {P Q : Nat → β → Prop} {xs : List β} {x : β}

/-- Every element of a list fits its place. -/
def Placed (P : Nat → β → Prop) (xs : List β) : Prop := ∀ place x, xs[place]? = some x → P place x

/-- There is nothing to fit a place in an empty list. -/
theorem placed_nil : Placed P [] := fun _ _ h => by cases h

/-- One element is replaced by another one that fits its place. -/
theorem Placed.set (h : Placed P xs) {index : Nat} (hx : P index x) :
    Placed P (xs.set index x) := by
  intro place y hy
  by_cases hplace : index = place
  · subst hplace
    have hlt : index < xs.length := by
      simpa using (List.getElem?_eq_some_iff.1 hy).1
    rw [List.getElem?_set_self hlt, Option.some.injEq] at hy
    exact hy ▸ hx
  · rw [List.getElem?_set_ne hplace] at hy
    exact h place y hy

/-- One element is added at the end. -/
theorem Placed.concat (h : Placed P xs) (hx : P xs.length x) : Placed P (xs ++ [x]) := by
  intro place y hy
  rcases Nat.lt_trichotomy place xs.length with hlt | rfl | hgt
  · rw [List.getElem?_append_left hlt] at hy
    exact h place y hy
  · rw [List.getElem?_concat_length, Option.some.injEq] at hy
    exact hy ▸ hx
  · have hlt := (List.getElem?_eq_some_iff.1 hy).1
    rw [List.length_append, List.length_singleton] at hlt
    omega

/-- What fits its place fits it in a wider sense. -/
theorem Placed.imp (h : Placed P xs) (himp : ∀ place x, P place x → Q place x) : Placed Q xs :=
  fun place x hx => himp place x (h place x hx)

end

/-- A subscriber in its place: it only makes calls, and the link it received is that of its own
source. -/
structure Listening (sources index : Nat) (probe : Probe α Link (Action α)) : Prop where
  calls : CallsOnly probe.react
  link : ∀ link, probe.link = some link → link = .source index ∧ index < sources

/-- A task that fits to the sources that are there. -/
def Task.Fits (offered : List (Supply α)) (sources : Nat) : Task α → Prop
  | .act action => IsScripted action
  | .ret _ _ => True
  | .signal (.probe index) delivery =>
      index < sources ∧ ∀ link, delivery = .subscribe link → link = .source index
  | .order (.source index) _ => index < sources
  | .subscribe (.items supply) (.probe index) =>
      index = sources ∧ offered[index]? = some supply ∧ supply.Proper
  | .source index _ => index < sources
  | _ => False

/-- Sources, subscribers and tasks are in their places. -/
structure Arranged (offered : List (Supply α)) (agenda : Agenda (Network α) (Task α)) : Prop where
  listening : Placed (Listening agenda.state.sources.length) agenda.state.probes
  below : Placed (fun index stage => stage.below = .probe index) agenda.state.sources
  count : agenda.state.probes.length =
    agenda.state.sources.length + agenda.todo.countP Task.isSubscription
  fits : ∀ task ∈ agenda.todo, task.Fits offered agenda.state.sources.length
  later : ∀ task ∈ agenda.todo.tail, task.isUrgent = false
  planned : ∃ begun, begun.length = agenda.state.probes.length ∧
    offered = begun ++ awaited agenda.todo

/-- A task that can wait still fits when there are more sources. -/
theorem Task.Fits.mono {few many : Nat} (h : task.Fits offered few)
    (hpatient : task.isUrgent = false) (hle : few ≤ many) : task.Fits offered many := by
  cases task with
  | signal | subscribe => cases hpatient
  | act | ret => exact h
  | source => exact Nat.lt_of_lt_of_le h hle
  | order link order =>
      cases link with
      | source => exact Nat.lt_of_lt_of_le h hle
      | inert | window | switch | hand | tap => exact h
  | window | resumption | recover | leave | announce | collect => exact h

/-- Tasks that can wait subscribe no receiver. -/
theorem countP_of_patient (h : ∀ task ∈ tasks, task.isUrgent = false) :
    tasks.countP Task.isSubscription = 0 := by
  refine List.countP_eq_zero.2 fun task htask hsubscription => ?_
  have hpatient := h task htask
  cases task <;> contradiction

/-- There is one subscriber more than there are sources while one is being subscribed. -/
theorem Arranged.count_head (h : Arranged offered ⟨network, task :: rest⟩) :
    network.probes.length = network.sources.length + if task.isSubscription then 1 else 0 := by
  have hrest : rest.countP Task.isSubscription = 0 := countP_of_patient h.later
  have hcount := h.count
  rw [List.countP_cons, hrest, Nat.zero_add] at hcount
  exact hcount

/-- What a task does keeps everything in its place if it does so for what it changes. -/
theorem Arranged.move (h : Arranged offered ⟨network, task :: rest⟩)
    (hlistening : Placed (Listening next.sources.length) next.probes)
    (hbelow : Placed (fun index stage => stage.below = .probe index) next.sources)
    (hcount : next.probes.length = next.sources.length + added.countP Task.isSubscription)
    (hle : network.sources.length ≤ next.sources.length)
    (hfits : ∀ task ∈ added, task.Fits offered next.sources.length)
    (hlater : ∀ task ∈ added.tail, task.isUrgent = false)
    (hplanned : ∃ begun, begun.length = next.probes.length ∧
      offered = begun ++ (awaited added ++ awaited rest)) :
    Arranged offered ⟨next, added ++ rest⟩ := by
  have hpatient : ∀ task ∈ rest, task.isUrgent = false := h.later
  refine ⟨hlistening, hbelow, ?_, fun task htask => ?_, fun task htask => ?_, ?_⟩
  · rw [List.countP_append, countP_of_patient hpatient, hcount]
    rfl
  · rcases List.mem_append.1 htask with hadded | hrest
    · exact hfits task hadded
    · exact (h.fits task (List.mem_cons_of_mem _ hrest)).mono (hpatient task hrest) hle
  · rcases added with _ | ⟨first, added⟩
    · exact hpatient task (List.mem_of_mem_tail htask)
    · rcases List.mem_append.1 htask with hadded | hrest
      · exact hlater task hadded
      · exact hpatient task hrest
  · rw [awaited_append]
    exact hplanned

/-! ## What a task does -/

/-- Whether a task belongs to a call of a subscriber on its link. -/
def Task.isCall : Task α → Bool
  | .act (.order _ _) | .ret _ _ | .order _ _ => true
  | _ => false

/-- Calls on links are no effects of sources, and they subscribe to nothing. -/
theorem silent_of_calls (h : ∀ task ∈ added, task.isCall = true) :
    (∀ index, pending index added = []) ∧ awaited added = [] ∧
      added.countP Task.isSubscription = 0 ∧ ∀ task ∈ added, task.isUrgent = false := by
  have hone : ∀ task : Task α, task.isCall = true → (∀ index, task.effect? index = none) ∧
      task.supply? = none ∧ task.isSubscription = false ∧ task.isUrgent = false := by
    intro task hcall
    cases task with
    | act action => cases action <;> first | contradiction | exact ⟨fun _ => rfl, rfl, rfl, rfl⟩
    | ret | order => exact ⟨fun _ => rfl, rfl, rfl, rfl⟩
    | _ => contradiction
  refine ⟨fun index => ?_, ?_, ?_, fun task htask => (hone task (h task htask)).2.2.2⟩
  · exact List.filterMap_eq_nil_iff.2 fun task htask => (hone task (h task htask)).1 index
  · exact List.filterMap_eq_nil_iff.2 fun task htask => (hone task (h task htask)).2.1
  · refine List.countP_eq_zero.2 fun task htask => ?_
    rw [(hone task (h task htask)).2.2.1]
    decide

/-- What a task does in a network where everything is in its place. -/
inductive Does (network : Network α) : Task α → Network α → List (Task α) → Prop
  /-- A subscriber calls its link, or a call returns. -/
  | call {task : Task α} {next : Network α} {added : List (Task α)} (hcall : task.isCall = true)
      (hunordered : ∀ link order, task ≠ .order link order)
      (hsources : next.sources = network.sources) (hprobes : next.probes = network.probes)
      (hadded : ∀ task ∈ added, task.isCall = true)
      (horders : ∀ link order, .order link order ∈ added → ∃ index < network.sources.length,
        link = .source index) : Does network task next added
  /-- A subscriber is made. -/
  | enter {name : String} {supply : Supply α} {initial : UInt64} {react : Reaction (Action α)}
      {next : Network α} {action : Action α} (hsources : next.sources = network.sources)
      (hprobes : next.probes =
        network.probes ++ [{ name := name, initial := initial, react := react }]) :
      Does network (.act (.subscribe name (.items supply) initial react)) next
        [.subscribe (.items supply) (.probe network.probes.length), .ret action .done]
  /-- A source is made for the subscriber. -/
  | subscribe {supply : Supply α} {index : Nat} {next : Network α}
      (hsources : next.sources =
        network.sources ++ [{ below := .probe index, stream := none, unit := { items := supply } }])
      (hprobes : next.probes = network.probes) :
      Does network (.subscribe (.items supply) (.probe index)) next
        [.signal (.probe index) (.subscribe (.source network.sources.length))]
  /-- A subscriber hears a signal, and calls links. -/
  | hear {index : Nat} {delivery : Delivery α Link} {probe : Probe α Link (Action α)}
      {next : Network α} {added : List (Task α)} (hprobe : network.probes[index]? = some probe)
      (hsources : next.sources = network.sources)
      (hprobes : next.probes = network.probes.set index (probe.hear delivery))
      (hadded : ∀ task ∈ added, task.isCall = true)
      (horders : ∀ link order, .order link order ∈ added → link = .source index) :
      Does network (.signal (.probe index) delivery) next added
  /-- A source takes a call. -/
  | take {index : Nat} {order : Order} {stage : Stage (Source α)} {next : Network α}
      (hstage : network.sources[index]? = some stage)
      (hsources : next.sources =
        network.sources.set index { stage with unit := (stage.unit.take (ι := Link) order).1 })
      (hprobes : next.probes = network.probes) :
      Does network (.order (.source index) order) next
        ((stage.unit.take order).2.map (taskOf (.probe index) (.source index)))
  /-- A source goes on with its work. -/
  | go {index : Nat} {work : Source.Work} {stage : Stage (Source α)} {next : Network α}
      (hstage : network.sources[index]? = some stage)
      (hsources : next.sources =
        network.sources.set index { stage with unit := (stage.unit.go (ι := Link) work).1 })
      (hprobes : next.probes = network.probes) :
      Does network (.source index work) next
        ((stage.unit.go work).2.map (taskOf (.probe index) (.source index)))

/-- Sources are never taken away. -/
theorem Does.sources_le (h : Does network task next added) :
    network.sources.length ≤ next.sources.length := by
  cases h with
  | call _ _ hsources | enter hsources | hear _ hsources =>
      exact Nat.le_of_eq (congrArg List.length hsources).symm
  | subscribe hsources =>
      rw [hsources, List.length_append]
      exact Nat.le_add_right _ _
  | take _ hsources | go _ hsources => exact Nat.le_of_eq (by rw [hsources, List.length_set])

/-- Every task does one of these things. -/
theorem Arranged.does (h : Arranged offered ⟨network, task :: rest⟩) :
    Does network task (perform task network).1 (perform task network).2 := by
  have hfits := h.fits task List.mem_cons_self
  cases task with
  | window | resumption | recover | leave | announce | collect => exact hfits.elim
  | ret action result =>
      exact .call rfl (fun _ _ h => by cases h) rfl rfl (fun _ h => by cases h)
        (fun _ _ h => by cases h)
  | act action =>
      cases action with
      | order name order =>
          let logged := network.log (.called (.order name order))
          have hperform : perform (.act (.order name order)) network =
              logged.begin (.order name order) := rfl
          rw [hperform, begin]
          rcases hlink :
              ((logged.probeOf name).bind (logged.probes[·]?)).bind (·.link) with _ | link
          · exact .call rfl (fun _ _ h => by cases h) rfl rfl (by simp [Task.isCall]) (by simp)
          · obtain ⟨probe, hprobe, hreceived⟩ := Option.bind_eq_some_iff.1 hlink
            obtain ⟨index, -, hindex⟩ := Option.bind_eq_some_iff.1 hprobe
            obtain ⟨rfl, hlt⟩ := (h.listening index probe hindex).link link hreceived
            exact .call rfl (fun _ _ h => by cases h) rfl rfl (by simp [Task.isCall])
              (by simpa using hlt)
      | subscribe name publisher initial react =>
          cases publisher with
          | items supply => exact .enter rfl rfl
          | _ => exact hfits.elim
      | _ => exact hfits.elim
  | signal receiver delivery =>
      cases receiver with
      | probe index =>
          obtain ⟨hlt, hlink⟩ := hfits
          have hcount : network.probes.length = network.sources.length + _ := h.count
          have hprobe := List.getElem?_eq_getElem
            (Nat.lt_of_lt_of_le hlt (Nat.le.intro hcount.symm))
          have hperform : perform (.signal (.probe index) delivery) network =
              network.hearProbe index delivery := rfl
          simp only [hperform, hearProbe, hprobe]
          refine .hear hprobe rfl rfl (fun task htask => ?_) fun link order horder => ?_
          · rcases List.mem_append.1 htask with hopening | hanswer
            · obtain ⟨call, -, rfl⟩ := List.mem_map.1 hopening
              rfl
            · obtain ⟨action, haction, rfl⟩ := List.mem_map.1 hanswer
              obtain ⟨name, order, rfl⟩ := (h.listening index _ hprobe).calls _ _ action haction
              rfl
          · rcases List.mem_append.1 horder with hopening | hanswer
            · obtain ⟨call, hcall, hsame⟩ := List.mem_map.1 hopening
              cases hsame
              cases delivery with
              | subscribe other =>
                  refine .trans ?_ (hlink other rfl)
                  simp only [Probe.opening] at hcall
                  split at hcall
                  · simp at hcall
                  · simp at hcall
                    rw [hcall]
              | next | error | complete => simp [Probe.opening] at hcall
            · obtain ⟨action, -, hsame⟩ := List.mem_map.1 hanswer
              cases hsame
      | _ => exact hfits.elim
  | order link order =>
      cases link with
      | source index =>
          obtain ⟨⟨below, stream, unit⟩, hstage⟩ :
              ∃ stage, network.sources[index]? = some stage :=
            ⟨_, List.getElem?_eq_getElem hfits⟩
          obtain rfl : below = .probe index := h.below index _ hstage
          have htake : unit.take (ι := Link) order = ((unit.take order).1, (unit.take order).2) :=
            rfl
          rw [perform_order_source hstage htake]
          exact .take hstage rfl rfl
      | _ => exact hfits.elim
  | subscribe publisher receiver =>
      cases publisher with
      | items supply =>
          cases receiver with
          | probe index =>
              obtain ⟨-, -, hproper⟩ := hfits
              have hfilled : ¬ supply.isEmpty = true := fun hempty =>
                hproper.filled (Supply.isEmpty_iff.1 hempty)
              rw [perform, Network.subscribe, if_neg hfilled]
              exact .subscribe rfl rfl
          | _ => exact hfits.elim
      | _ => exact hfits.elim
  | source index work =>
      obtain ⟨⟨below, stream, unit⟩, hstage⟩ : ∃ stage, network.sources[index]? = some stage :=
        ⟨_, List.getElem?_eq_getElem hfits⟩
      obtain rfl : below = .probe index := h.below index _ hstage
      have hgo : unit.go (ι := Link) work = ((unit.go work).1, (unit.go work).2) := rfl
      rw [perform_source hstage hgo]
      exact .go hstage rfl rfl

/-- Subscribers stay in their places when there are more sources. -/
theorem Listening.mono {few many : Nat} {probe : Probe α Link (Action α)}
    (h : Listening few index probe) (hle : few ≤ many) : Listening many index probe where
  calls := h.calls
  link link hlink := (h.link link hlink).imp_right fun hlt => Nat.lt_of_lt_of_le hlt hle

/-- Calls fit when the links that are called are there. -/
theorem fits_of_calls {sources : Nat} (hcalls : ∀ task ∈ added, task.isCall = true)
    (horders : ∀ link order, .order link order ∈ added → ∃ index < sources,
      link = .source index) : ∀ task ∈ added, task.Fits offered sources := by
  intro task htask
  have hcall := hcalls task htask
  cases task with
  | act action => cases action <;> first | contradiction | trivial
  | ret => trivial
  | order link order =>
      obtain ⟨index, hlt, rfl⟩ := horders link order htask
      exact hlt
  | _ => contradiction

/-- The tasks of a source fit, and only the first of them can be urgent. -/
theorem fits_of_effects (offered : List (Supply α)) (index : Nat)
    {effects : List (Effect α Link Source.Work)} {sources : Nat}
    (h : ∃ delivery later, effects = (delivery : Option (Delivery α Link)).toList.map .signal ++
      (later : Option Source.Work).toList.map .go)
    (hlinks : ∀ link, .signal (.subscribe link) ∉ effects) (hlt : index < sources) :
    let tasks := effects.map (taskOf (.probe index) (.source index))
    (∀ task ∈ tasks, task.Fits offered sources) ∧
      (∀ task ∈ tasks.tail, task.isUrgent = false) ∧ awaited tasks = [] ∧
      tasks.countP Task.isSubscription = 0 := by
  obtain ⟨delivery, later, rfl⟩ := h
  have hsignal : ∀ signal, delivery = some signal → ∀ link, signal ≠ .subscribe link := by
    rintro signal rfl link rfl
    exact hlinks link List.mem_cons_self
  cases delivery <;> cases later <;>
    simp_all [taskOf, Task.Fits, Task.isUrgent, awaited, Task.supply?, Task.isSubscription]

/-- A task after which there are as many subscribers and sources as before. -/
theorem Arranged.stay (h : Arranged offered ⟨network, task :: rest⟩)
    (hself : task.supply? = none ∧ task.isSubscription = false)
    (hprobes : next.probes.length = network.probes.length)
    (hsources : next.sources.length = network.sources.length)
    (hlistening : Placed (Listening network.sources.length) next.probes)
    (hbelow : Placed (fun index stage => stage.below = .probe index) next.sources)
    (hfits : ∀ task ∈ added, task.Fits offered network.sources.length)
    (hlater : ∀ task ∈ added.tail, task.isUrgent = false)
    (hadded : awaited added = [] ∧ added.countP Task.isSubscription = 0) :
    Arranged offered ⟨next, added ++ rest⟩ := by
  have hcount := h.count_head
  obtain ⟨begun, hbegun, hplanned⟩ := h.planned
  rw [hself.2] at hcount
  rw [← hsources] at hlistening hfits
  refine h.move hlistening hbelow ?_ (Nat.le_of_eq hsources.symm) hfits hlater
    ⟨begun, hbegun.trans hprobes.symm, ?_⟩
  · rw [hprobes, hsources, hadded.2]
    exact hcount
  · rw [hplanned, hadded.1, awaited, List.filterMap_cons_none hself.1]
    rfl

/-- Who hears a signal stays in place. -/
theorem Listening.hear {sources : Nat} {probe : Probe α Link (Action α)}
    {delivery : Delivery α Link} (h : Listening sources index probe) (hlt : index < sources)
    (hlink : ∀ link, delivery = .subscribe link → link = .source index) :
    Listening sources index (probe.hear delivery) where
  calls := h.calls
  link link hreceived := by
    cases delivery with
    | subscribe other =>
        obtain rfl : other = link := Option.some.inj hreceived
        exact ⟨hlink other rfl, hlt⟩
    | next | error | complete => exact h.link link hreceived

/-- Every task keeps everything in its place. -/
theorem Arranged.perform (h : Arranged offered ⟨network, task :: rest⟩) :
    Arranged offered ⟨(perform task network).1, (perform task network).2 ++ rest⟩ := by
  have hdoes := h.does
  have hfits : task.Fits offered network.sources.length := h.fits task List.mem_cons_self
  have hlistening : Placed (Listening network.sources.length) network.probes := h.listening
  have hbelow : Placed (fun index stage => stage.below = .probe index) network.sources := h.below
  have hcount := h.count_head
  obtain ⟨begun, hbegun, hplanned⟩ := h.planned
  generalize (Network.perform task network).1 = next,
    (Network.perform task network).2 = added at hdoes ⊢
  cases hdoes with
  | call hcall hunordered hsources hprobes hadded horders =>
      obtain ⟨-, hawaited, hnone, hpatient⟩ := silent_of_calls hadded
      have hself : task.supply? = none ∧ task.isSubscription = false := by
        cases task with
        | act action => cases action <;> first | contradiction | exact ⟨rfl, rfl⟩
        | ret | order => exact ⟨rfl, rfl⟩
        | _ => contradiction
      exact h.stay hself (congrArg List.length hprobes) (congrArg List.length hsources)
        (hprobes ▸ hlistening) (hsources ▸ hbelow) (fits_of_calls hadded horders)
        (fun task htask => hpatient task (List.mem_of_mem_tail htask)) ⟨hawaited, hnone⟩
  | @hear index delivery probe next added hprobe hsources hprobes hadded horders =>
      obtain ⟨-, hawaited, hnone, hpatient⟩ := silent_of_calls hadded
      obtain ⟨hlt, hlink⟩ := hfits
      refine h.stay ⟨rfl, rfl⟩ (by rw [hprobes, List.length_set]) (congrArg List.length hsources)
        ?_ (hsources ▸ hbelow)
        (fits_of_calls hadded fun link order horder => ⟨_, hlt, horders link order horder⟩)
        (fun task htask => hpatient task (List.mem_of_mem_tail htask)) ⟨hawaited, hnone⟩
      rw [hprobes]
      exact hlistening.set ((hlistening index probe hprobe).hear hlt hlink)
  | @take index order stage next hstage hsources hprobes =>
      obtain ⟨later, heffects⟩ := Source.effects_take (ι := Link) stage.unit order
      obtain ⟨hadded, hlater, hnone⟩ := fits_of_effects offered index
        ⟨none, later, heffects⟩ (fun link => by rw [heffects]; simp) hfits
      refine h.stay ⟨rfl, rfl⟩ (congrArg List.length hprobes) (by rw [hsources, List.length_set])
        (hprobes ▸ hlistening) ?_ hadded hlater hnone
      rw [hsources]
      exact hbelow.set (hbelow index stage hstage)
  | @go index work stage next hstage hsources hprobes =>
      obtain ⟨delivery, later, heffects, hlinks⟩ := Source.effects_go (ι := Link) stage.unit work
      obtain ⟨hadded, hlater, hnone⟩ := fits_of_effects offered index
        ⟨delivery, later, heffects⟩ hlinks hfits
      refine h.stay ⟨rfl, rfl⟩ (congrArg List.length hprobes) (by rw [hsources, List.length_set])
        (hprobes ▸ hlistening) ?_ hadded hlater hnone
      rw [hsources]
      exact hbelow.set (hbelow index stage hstage)
  | @enter name supply initial react next action hsources hprobes =>
      obtain ⟨hproper, hcalls⟩ := hfits
      have hsame : network.probes.length = network.sources.length := hcount
      have hawaited : offered = (begun ++ [supply]) ++ awaited rest := by
        rw [hplanned, List.append_assoc]
        rfl
      have hsupply : offered[network.probes.length]? = some supply := by
        rw [hawaited, ← hbegun, List.getElem?_append_left (by simp), List.getElem?_concat_length]
      refine h.move ?_ (hsources ▸ hbelow) ?_
        (Nat.le_of_eq (congrArg List.length hsources).symm) (fun task htask => ?_)
        (fun task htask => ?_) ⟨begun ++ [supply], ?_, hawaited⟩
      · rw [hprobes, hsources]
        exact hlistening.concat ⟨hcalls, fun link hlink => by cases hlink⟩
      · rw [hprobes, hsources, List.length_append, hsame]
        rfl
      · simp only [List.mem_cons, List.not_mem_nil, or_false] at htask
        rcases htask with rfl | rfl
        · rw [hsources]
          exact ⟨hsame, hsupply, hproper⟩
        · trivial
      · obtain rfl := List.mem_singleton.1 htask
        rfl
      · rw [hprobes, List.length_append, List.length_append, hbegun]
        rfl
  | @subscribe supply index next hsources hprobes =>
      obtain ⟨rfl, hsupply, hproper⟩ := hfits
      have hsame : network.probes.length = network.sources.length + 1 := hcount
      have hlength : next.sources.length = network.sources.length + 1 := by
        rw [hsources, List.length_append]
        rfl
      refine h.move ?_ ?_ ?_ (by rw [hlength]; exact Nat.le_succ _) (fun task htask => ?_)
        (fun task htask => by cases htask) ⟨begun, hprobes ▸ hbegun, hplanned⟩
      · rw [hprobes, hlength]
        exact hlistening.imp fun _ _ hprobe => hprobe.mono (Nat.le_succ _)
      · rw [hsources]
        exact hbelow.concat rfl
      · rw [hprobes, hlength, hsame]
        rfl
      · obtain rfl := List.mem_singleton.1 htask
        rw [hlength]
        exact ⟨Nat.lt_succ_self _, fun link hlink => by cases hlink; rfl⟩

end Network

end Backpressure
