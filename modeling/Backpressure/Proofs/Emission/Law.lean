import Backpressure.Proofs.Emission.Settling
import Backpressure.Proofs.Emission.Subscriptions

/-!
# The law of emission

A subscriber to a supply of items hears exactly as many items as it has asked for, in order, and
completion directly after the last one, until it cancels. It hears them one at a time, and each of
any number of subscriptions obeys this law by itself, however their calls are interleaved and
nested.

Main results:

- Theorem `exists_moment` shows that every action comes to its end.
- Theorem `next_has_returned` shows that an item is heard before another signal of the subscription
  is delivered.
- Theorem `Attends.served` reads off what a subscriber has heard, and theorem `supplies_are_emitted`
  states the law.
-/

namespace Backpressure.Network

variable {α : Type} {actions : List (Action α)} {network next : Network α} {task : Task α}
  {added rest : List (Task α)} {offered : List (Supply α)} {index : Nat}
  {seen : List (Happening α)}

/-! ## Moments -/

/-- A moment of the run that performs actions in a new network. -/
def moment (actions : List (Action α)) (fuel : Nat) : Agenda (Network α) (Task α) :=
  Agenda.run perform fuel ⟨{}, actions.map .act⟩

/-- What has happened to the subscription at an index by that moment. -/
def happened (index : Nat) (actions : List (Action α)) (fuel : Nat) : List (Happening α) :=
  Agenda.observe (happenings index) perform fuel ⟨{}, actions.map .act⟩

/-- Every action comes to its end, with the next ones still to be performed. -/
theorem exists_moment {before later : List (Action α)}
    (hscripted : ∀ action ∈ before ++ later, IsScripted action) :
    ∃ fuel, (moment (before ++ later) fuel).todo = later.map .act ∧
      (moment (before ++ later) fuel).state.probes.length = (supplies before).length := by
  obtain ⟨final, hsettles⟩ := (attends_run hscripted 0 0).arranged.settles
  have hactions : (before ++ later).map Task.act = before.map .act ++ later.map .act :=
    List.map_append
  obtain ⟨middle, fuel, hfuel⟩ := Agenda.exists_leads_behind (hactions ▸ hsettles)
  have hmoment : moment (before ++ later) fuel = ⟨middle, later.map .act⟩ := by
    rw [moment, hactions]
    exact hfuel
  obtain ⟨begun, hbegun, hplanned⟩ := (attends_run hscripted 0 fuel).arranged.planned
  refine ⟨fuel, congrArg Agenda.todo hmoment, ?_⟩
  have hawaited : awaited (later.map Task.act) = supplies later := by
    rw [awaited, List.filterMap_map]
    rfl
  rw [supplies, List.filterMap_append, ← moment, hmoment, hawaited] at hplanned
  have hsplit : supplies before = begun := List.append_cancel_right hplanned
  rw [hsplit]
  exact hbegun.symm

/-! ## One item at a time -/

/-- A task that is no effect of the subscription's source brings no signal to its subscriber. -/
theorem Does.silent (h : Does network task next added) (hlt : index < network.sources.length)
    (hfits : task.Fits offered network.sources.length) (hother : task.effect? index = none)
    (delivery : Delivery α Link) : .signal delivery ∉ pending index added := by
  cases h with
  | call hcall hunordered hsources hprobes hadded horders =>
      rw [(silent_of_calls hadded).1]
      exact List.not_mem_nil
  | hear hprobe hsources hprobes hadded horders =>
      rw [(silent_of_calls hadded).1]
      exact List.not_mem_nil
  | enter hsources hprobes => exact List.not_mem_nil
  | subscribe hsources hprobes =>
      have hplace := hfits.1
      simp only [pending, Task.effect?, List.filterMap_cons, List.filterMap_nil,
        if_neg (Nat.ne_of_gt (hplace.symm ▸ hlt))]
      exact List.not_mem_nil
  | @take place order stage next hstage hsources hprobes =>
      obtain ⟨later, heffects⟩ := Source.effects_take (ι := Link) stage.unit order
      rw [pending_map_taskOf ⟨none, later, heffects⟩]
      split
      · rw [heffects]
        simp
      · exact List.not_mem_nil
  | @go place work stage next hstage hsources hprobes =>
      obtain ⟨signal, later, heffects, -⟩ := Source.effects_go (ι := Link) stage.unit work
      have hplace : place ≠ index := by
        rintro rfl
        simp [Task.effect?] at hother
      rw [pending_map_taskOf ⟨signal, later, heffects⟩, if_neg hplace]
      exact List.not_mem_nil

/-- A delivery to the subscriber at an index has not returned: the rest of the agenda waits, and
nothing before it is an effect of the subscriber's own source. -/
structure Suspended (index : Nat) (rest : List (Task α)) (agenda : Agenda (Network α) (Task α)) :
    Prop where
  there : index < agenda.state.sources.length
  before : ∃ inner, agenda.todo = inner ++ rest ∧ pending index inner = []

/-- A delivery of an item suspends what its source has still to do. -/
theorem Attends.suspend {x : α}
    (h : Attends offered index seen ⟨network, .signal (.probe index) (.next x) :: rest⟩) :
    Suspended index rest ⟨(Network.perform (.signal (.probe index) (.next x)) network).1,
      (Network.perform (.signal (.probe index) (.next x)) network).2 ++ rest⟩ ∧
    ∃ work, pending index rest = [.go work] := by
  have hlt : index < network.sources.length := (h.arranged.fits _ List.mem_cons_self).1
  have hdoes := h.arranged.does
  constructor
  · refine ⟨Nat.lt_of_lt_of_le hlt hdoes.sources_le, _, rfl, ?_⟩
    generalize (Network.perform (.signal (.probe index) (.next x)) network).1 = next,
      (Network.perform (.signal (.probe index) (.next x)) network).2 = added at hdoes ⊢
    cases hdoes with
    | call hcall => cases hcall
    | hear hprobe hsources hprobes hadded horders => exact (silent_of_calls hadded).1 index
  · obtain ⟨supply, -, -, hstanding⟩ := h.standing _ (List.getElem?_eq_getElem hlt)
    rw [pending_cons (effect?_signal index (.next x))] at hstanding
    exact hstanding.after_next

/-- It stays suspended until the delivery returns. -/
theorem Attends.stay_suspended {inner : List (Task α)} {work : Source.Work}
    (h : Attends offered index seen ⟨network, task :: (inner ++ rest)⟩)
    (hlt : index < network.sources.length) (hinner : pending index (task :: inner) = [])
    (hrest : pending index rest = [.go work]) :
    Suspended index rest ⟨(Network.perform task network).1,
      (Network.perform task network).2 ++ (inner ++ rest)⟩ := by
  have hdoes := h.arranged.does
  have hthere := Nat.lt_of_lt_of_le hlt hdoes.sources_le
  obtain ⟨htask, hnone⟩ : task.effect? index = none ∧ pending index inner = [] := by
    rw [pending, List.filterMap_eq_nil_iff, List.forall_mem_cons] at hinner
    exact ⟨hinner.1, List.filterMap_eq_nil_iff.2 hinner.2⟩
  refine ⟨hthere, _, (List.append_assoc _ _ _).symm, ?_⟩
  -- The source has work pending already, so that the task can only have added a signal to it.
  obtain ⟨supply, -, -, hstanding⟩ := h.perform.standing _ (List.getElem?_eq_getElem hthere)
  rw [← List.append_assoc, pending_append, hrest] at hstanding
  refine hstanding.alone fun delivery => ?_
  rw [pending_append, hnone, List.append_nil]
  exact hdoes.silent hlt (h.arranged.fits task List.mem_cons_self) htask delivery

/-- When a signal is delivered to a subscriber, every item that it has heard before has been dealt
with: the delivery of that item has returned. -/
theorem next_has_returned (hscripted : ∀ action ∈ actions, IsScripted action) {first second : Nat}
    {x : α} {delivery : Delivery α Link} {later : List (Task α)} (hlt : first < second)
    (hfirst : (moment actions first).todo = .signal (.probe index) (.next x) :: rest)
    (hsecond : (moment actions second).todo = .signal (.probe index) delivery :: later) :
    ∃ between, first < between ∧ between ≤ second ∧ (moment actions between).todo = rest := by
  have hnow : moment actions first = ⟨_, .signal (.probe index) (.next x) :: rest⟩ :=
    congrArg (Agenda.mk _) hfirst
  have hstart := attends_run hscripted index first
  rw [← moment, hnow] at hstart
  obtain ⟨hsuspended, work, hrest⟩ := hstart.suspend
  -- From moment to moment the delivery stays suspended, unless it has returned at one of them.
  have hcourse : ∀ fuel, first < fuel →
      (∃ between, first < between ∧ between ≤ fuel ∧ (moment actions between).todo = rest) ∨
        Suspended index rest (moment actions fuel) := by
    intro fuel hafter
    induction fuel, hafter using Nat.le_induction with
    | base =>
        refine .inr ?_
        rw [moment, Agenda.run_succ, ← moment, hnow]
        exact hsuspended
    | succ fuel hafter ih =>
        rcases ih with ⟨between, hlower, hupper, htodo⟩ | ⟨hthere, inner, htodo, hinner⟩
        · exact .inl ⟨between, hlower, Nat.le_succ_of_le hupper, htodo⟩
        · rcases inner with _ | ⟨task, inner⟩
          · exact .inl ⟨fuel, hafter, Nat.le_succ fuel, htodo⟩
          · have hattends := attends_run hscripted index fuel
            have hmoment : moment actions fuel = ⟨_, task :: (inner ++ rest)⟩ :=
              congrArg (Agenda.mk _) htodo
            rw [← moment, hmoment] at hattends
            refine .inr ?_
            rw [moment, Agenda.run_succ, ← moment, hmoment]
            exact hattends.stay_suspended hthere hinner hrest
  rcases hcourse second hlt with hreturned | ⟨hthere, inner, htodo, hinner⟩
  · exact hreturned
  · rw [hsecond] at htodo
    rcases inner with _ | ⟨task, inner⟩
    · exact ⟨second, hlt, Nat.le_refl second, hsecond.trans htodo⟩
    · obtain ⟨rfl, -⟩ := List.cons.inj htodo
      simp [pending, Task.effect?] at hinner

/-! ## What was heard -/

/-- A task that has still to bring something about for the subscription at an index. -/
def Task.Concerns (index : Nat) : Task α → Prop
  | .source place _ | .signal (.probe place) _ | .subscribe _ (.probe place) => place = index
  | _ => False

/-- What a subscriber to a supply has heard in the course of events, with tasks still to be
performed. When none of them concerns it, it has heard exactly what it has asked for on the link
that it owns. -/
structure Served (supply : Supply α) (index : Nat) (tasks : List (Task α))
    (events : List (Happening α)) (probe : Probe α Link (Action α)) : Prop where
  hears : probe.history = heard events
  owns : probe.link = some (.source index) ∨ probe.link = none ∧ heard events = []
  within : heard events <+: Meaning.upTo { items := supply.toList } (demand 0 events)
  silence : heard (afterCancel events) = []
  exactly : (∀ task ∈ tasks, ¬ task.Concerns index) → afterCancel events = [] →
    heard events = Meaning.upTo { items := supply.toList } (demand 0 events)

/-- When no task concerns a subscriber, its source is there and has nothing more to do. -/
theorem Arranged.idle {agenda : Agenda (Network α) (Task α)} (h : Arranged offered agenda)
    (hthere : index < agenda.state.probes.length)
    (hidle : ∀ task ∈ agenda.todo, ¬ task.Concerns index) :
    index < agenda.state.sources.length ∧ pending index agenda.todo = [] := by
  constructor
  · rcases agenda with ⟨network, _ | ⟨task, rest⟩⟩
    · exact Nat.lt_of_lt_of_eq hthere h.count
    · have hcount := h.count_head
      have hfits := h.fits task List.mem_cons_self
      have hother := hidle task List.mem_cons_self
      simp only at hthere hcount hfits ⊢
      cases task with
      | subscribe publisher receiver =>
          cases publisher with
          | items supply =>
              cases receiver with
              | probe place =>
                  have hplace : place = network.sources.length := hfits.1
                  have hne : place ≠ index := hother
                  simp only [Task.isSubscription, if_true] at hcount
                  omega
              | _ => exact hfits.elim
          | _ => exact hfits.elim
      | _ => exact Nat.lt_of_lt_of_eq hthere hcount
  · refine List.filterMap_eq_nil_iff.2 fun task htask => ?_
    have hother := hidle task htask
    cases task with
    | source place work => exact if_neg hother
    | signal receiver delivery =>
        cases receiver with
        | probe place => exact if_neg hother
        | window | resumption | bridge => rfl
    | _ => rfl

/-- What a subscriber has heard, read off the standing of its source. -/
theorem Attends.served {agenda : Agenda (Network α) (Task α)} {probe : Probe α Link (Action α)}
    (h : Attends offered index seen agenda) (hprobe : agenda.state.probes[index]? = some probe) :
    ∃ supply, offered[index]? = some supply ∧ Served supply index agenda.todo seen probe := by
  have hthere : index < agenda.state.probes.length := (List.getElem?_eq_some_iff.1 hprobe).1
  have hlistening := h.arranged.listening index probe hprobe
  obtain ⟨hhistory, hunlinked⟩ := h.records probe hprobe
  have howns : probe.link = some (.source index) ∨ probe.link = none ∧ heard seen = [] := by
    rcases hlink : probe.link with _ | link
    · exact .inr ⟨rfl, hunlinked hlink⟩
    · exact .inl (congrArg some (hlistening.link link hlink).1)
  by_cases hsource : index < agenda.state.sources.length
  · obtain ⟨supply, hsupply, hproper, hstanding⟩ :=
      h.standing _ (List.getElem?_eq_getElem hsource)
    obtain ⟨hwithin, hsilence⟩ := hstanding.bounds hproper.filled
    refine ⟨supply, hsupply, hhistory, howns, hwithin, hsilence, fun hidle => ?_⟩
    rw [(h.arranged.idle hthere hidle).2] at hstanding
    exact hstanding.delivers.exactly
  · -- The subscriber has not been given its source yet, and has heard nothing.
    obtain ⟨begun, hbegun, hplanned⟩ := h.arranged.planned
    have hoffered : index < offered.length := by
      rw [hplanned, List.length_append]
      omega
    have hseen : seen = [] := h.early (Nat.not_lt.1 hsource)
    refine ⟨_, List.getElem?_eq_getElem hoffered, hhistory, howns, ?_, ?_, ?_⟩
    · rw [hseen]
      exact List.nil_prefix
    · rw [hseen]
      rfl
    · exact fun hidle => absurd (h.arranged.idle hthere hidle).1 hsource

/-! ## The law -/

/-- Subscribers to supplies may ask for items and cancel whenever they want to, from the top or when
they hear something, and may call the links of each other. Every action comes to its end. At any
time each subscriber has heard no more than it has asked for, in order, and nothing since it
cancelled; when nothing more is to be done for it, it has heard exactly the items that it has asked
for, and completion directly after the last one. While it hears an item no other signal of its
subscription is delivered. -/
theorem supplies_are_emitted {actions : List (Action α)}
    (hscripted : ∀ action ∈ actions, IsScripted action) :
    (∀ before later, actions = before ++ later → ∃ fuel,
      (moment actions fuel).todo = later.map .act ∧
        (moment actions fuel).state.probes.length = (supplies before).length) ∧
    (∀ fuel index probe, (moment actions fuel).state.probes[index]? = some probe →
      ∃ supply, (supplies actions)[index]? = some supply ∧
        Served supply index (moment actions fuel).todo (happened index actions fuel) probe) ∧
    ∀ first second index x rest delivery later, first < second →
      (moment actions first).todo = .signal (.probe index) (.next x) :: rest →
      (moment actions second).todo = .signal (.probe index) delivery :: later →
      ∃ between, first < between ∧ between ≤ second ∧ (moment actions between).todo = rest := by
  refine ⟨fun before later hsplit => ?_, fun fuel index probe hprobe => ?_, ?_⟩
  · subst hsplit
    exact exists_moment hscripted
  · exact (attends_run hscripted index fuel).served hprobe
  · exact fun first second index x rest delivery later => next_has_returned hscripted

/-- Two subscribers to one supply. While the first one hears an item it asks for the other one,
which asks for the first one in turn; while it hears its last item it cancels, and is not
completed. -/
theorem supplies_are_emitted_to_nested_subscribers :
    let supply : Supply Nat := .list [7, 8, 9]
    let first : Reaction (Action Nat) := fun kind number =>
      if kind = .next ∧ number = 0 then [.order "other" (.request 2), .order "one" (.request 1)]
      else if kind = .next ∧ number = 2 then [.order "one" .cancel]
      else []
    let second : Reaction (Action Nat) := fun kind number =>
      if kind = .next ∧ number = 1 then [.order "one" (.request 0xFFFFFFFFFFFFFFFF)] else []
    let actions : List (Action Nat) :=
      [.subscribe "one" (.items supply) 0 first, .subscribe "other" (.items supply) 0 second,
        .order "one" (.request 1), .order "other" (.request 1)]
    (∀ action ∈ actions, IsScripted action) ∧ (moment actions 80).todo = [] ∧
      (moment actions 80).state.probes.map (·.history) =
        [[.subscribe, .next 7, .next 8, .next 9],
          [.subscribe, .next 7, .next 8, .next 9, .complete]] ∧
      ∀ index probe, (moment actions 80).state.probes[index]? = some probe →
        ∃ supply, (supplies actions)[index]? = some supply ∧
          Served supply index (moment actions 80).todo (happened index actions 80) probe := by
  intro supply first second actions
  have hproper : supply.Proper := ⟨List.cons_ne_nil _ _, by decide⟩
  have hfirst : CallsOnly first := by
    intro kind number action haction
    simp only [first] at haction
    split at haction
    · rcases List.mem_cons.1 haction with rfl | haction
      · exact ⟨_, _, rfl⟩
      · exact ⟨_, _, List.mem_singleton.1 haction⟩
    · split at haction
      · exact ⟨_, _, List.mem_singleton.1 haction⟩
      · cases haction
  have hsecond : CallsOnly second := by
    intro kind number action haction
    simp only [second] at haction
    split at haction
    · exact ⟨_, _, List.mem_singleton.1 haction⟩
    · cases haction
  have hscripted : ∀ action ∈ actions, IsScripted action := by
    simp only [actions, List.forall_mem_cons]
    exact ⟨⟨hproper, hfirst⟩, ⟨hproper, hsecond⟩, trivial, trivial, List.forall_mem_nil _⟩
  refine ⟨hscripted, ?_, by simp only [actions, first, second]; cbv, fun index probe => ?_⟩
  · exact List.isEmpty_iff.1 (by decide +kernel)
  · exact (supplies_are_emitted hscripted).2.1 80 index probe

end Backpressure.Network
