import Backpressure.Proofs.Pipeline.Resumption
import Backpressure.Proofs.Resumption.Course
import Backpressure.Proofs.Resumption.Privacy

/-!
# Courses in a run

The tasks that a network performs, with the tasks that they add, show what happens at one of its
resumptions. As long as the feeds of the resumption signal serially, every run takes it through a
course.

Main results:

- Theorem `moves_of_perform` sees every task as a move of the resumption.
- Theorem `course_of_run` sees every run as a course of the resumption.
-/

namespace Backpressure.Network

variable {α : Type} {index probe : Nat} {network next : Network α} {task : Task α}
  {rest added : List (Task α)} {recover : Failure → Recovery α (Action α)}
  {unit changed : Resumption Link} {standing : Standing α}

/-! ## What a run shows of a resumption -/

/-- The duty of a resumption that a task is, when the resumption stands above a scripted
subscriber. -/
def duty? (index probe : Nat) : Task α → Option (Duty α)
  | .signal (.probe other) delivery => if other = probe then some (.tell delivery) else none
  | .resumption other work => if other = index then some (.ofWork work) else none
  | .recover other failure recovery =>
      if other = index then some (.decide failure recovery) else none
  | _ => none

/-- The duties of a resumption among several tasks. -/
def dutiesOf (index probe : Nat) (tasks : List (Task α)) : List (Duty α) :=
  tasks.filterMap (duty? index probe)

/-- Whether a duty of a resumption is what is done next. -/
def isPoised (index probe : Nat) (tasks : List (Task α)) : Bool :=
  (tasks.head?.bind (duty? index probe)).isSome

/-- What a task of a resumption says to it, or that it does; other tasks are none of its own. -/
def occurrence? (index : Nat) : Task α → Option (List (Turn α))
  | .signal (.resumption other) delivery =>
      if other = index then some [.heard delivery] else none
  | .order (.switch other) order => if other = index then some [.taken order] else none
  | .resumption other (.bind _) => if other = index then some [] else none
  | .resumption other .count => if other = index then some [.returned] else none
  | .resumption other (.recover failure) =>
      if other = index then some [.consulted failure] else none
  | _ => none

/-- The call that a task makes. -/
def issue? : Task α → Option (Turn α)
  | .order link order => some (.issued link order)
  | _ => none

/-- The turns of a resumption that a task takes, with the calls among the tasks that it added. -/
def turnsOf (index : Nat) (performed : Task α × List (Task α)) : List (Turn α) :=
  match occurrence? index performed.1 with
  | some turns => turns ++ performed.2.filterMap issue?
  | none => []

/-- The turns of a resumption in a record of a run. -/
def turnsIn (index : Nat) (record : List (Task α × List (Task α))) : List (Turn α) :=
  record.flatMap (turnsOf index)

/-- Whether a task is a signal of a feed of a resumption. -/
def Task.isFed (index : Nat) : Task α → Bool
  | .signal (.resumption other) _ => other = index
  | _ => false

/-- The feeds of a resumption signal serially: none of them signals while the resumption is in the
middle of a call. -/
def Serial (index probe : Nat) (agenda : Agenda (Network α) (Task α)) : Prop :=
  agenda.todo.head?.any (·.isFed index) = true → dutiesOf index probe agenda.todo.tail = []

/-- Whether the feeds of a resumption signal serially can be decided. -/
instance (index probe : Nat) (agenda : Agenda (Network α) (Task α)) :
    Decidable (Serial index probe agenda) :=
  inferInstanceAs (Decidable (_ → _))

/-- The turns of a record that grows. -/
theorem turnsIn_concat (index : Nat) (record : List (Task α × List (Task α)))
    (performed : Task α × List (Task α)) :
    turnsIn index (record ++ [performed]) = turnsIn index record ++ turnsOf index performed := by
  rw [turnsIn, List.flatMap_append, List.flatMap_singleton, turnsIn]

/-- The duties of tasks in a row. -/
theorem dutiesOf_append (index probe : Nat) (first second : List (Task α)) :
    dutiesOf index probe (first ++ second) =
      dutiesOf index probe first ++ dutiesOf index probe second :=
  List.filterMap_append

/-- The duties of a task in front of others. -/
theorem dutiesOf_cons (index probe : Nat) (task : Task α) (rest : List (Task α)) :
    dutiesOf index probe (task :: rest) =
      (duty? index probe task).toList ++ dutiesOf index probe rest := by
  rw [dutiesOf, List.filterMap_cons]
  split
  next h => simp [h, dutiesOf]
  next duty h => simp [h, dutiesOf]

/-! ## Reserved tasks -/

/-- A task that does not belong to a resumption is no duty of it. -/
theorem duty?_of_not_reserved (h : task.isReserved index probe = false) :
    duty? index probe task = none := by
  cases task with
  | signal receiver delivery =>
      cases receiver with
      | probe other => exact if_neg (of_decide_eq_false h)
      | _ => rfl
  | resumption other work => exact if_neg (of_decide_eq_false h)
  | recover other failure recovery => exact if_neg (of_decide_eq_false h)
  | _ => rfl

/-- Tasks that do not belong to a resumption are no duties of it. -/
theorem dutiesOf_of_not_reserved (h : ∀ task ∈ added, task.isReserved index probe = false) :
    dutiesOf index probe added = [] :=
  List.filterMap_eq_nil_iff.2 fun task htask => duty?_of_not_reserved (h task htask)

/-- The tasks that belong to a resumption and its receiver. -/
theorem isReserved_iff : task.isReserved index probe = true ↔
    (∃ delivery, task = .signal (.probe probe) delivery) ∨
      (∃ publisher, task = .subscribe publisher (.probe probe)) ∨
      (∃ work, task = .resumption index work) ∨
      ∃ failure recovery, task = .recover index failure recovery := by
  cases task with
  | signal receiver delivery => cases receiver <;> simp [Task.isReserved]
  | subscribe publisher receiver => cases receiver <;> simp [Task.isReserved]
  | _ => simp [Task.isReserved]

/-- The tasks that reach a resumption from outside. -/
theorem reaches_iff : task.reaches index = true ↔
    (∃ delivery, task = .signal (.resumption index) delivery) ∨
      ∃ order, task = .order (.switch index) order := by
  cases task with
  | signal receiver delivery => cases receiver <;> simp [Task.reaches]
  | order link order => cases link <;> simp [Task.reaches]
  | _ => simp [Task.reaches]

/-- A task that neither belongs to a resumption nor reaches it takes no turn of it. -/
theorem turnsOf_other (hreserved : task.isReserved index probe = false)
    (hreaches : task.reaches index = false) : turnsOf index (task, added) = [] := by
  have hnone : occurrence? index task = none := by
    cases task with
    | signal receiver delivery =>
        cases receiver with
        | resumption other => exact if_neg (of_decide_eq_false hreaches)
        | _ => rfl
    | order link order =>
        cases link with
        | switch other => exact if_neg (of_decide_eq_false hreaches)
        | _ => rfl
    | resumption other work =>
        cases work <;> exact if_neg (of_decide_eq_false hreserved)
    | _ => rfl
  simp only [turnsOf, hnone]

/-! ## Effects -/

/-- The duties among the effects of a resumption. -/
theorem dutiesOf_effects (index probe : Nat)
    (effects : List (Effect α Link (Resumption.Work Link))) :
    dutiesOf index probe (effects.map (taskOf (.probe probe) (.resumption index))) =
      effects.filterMap Duty.ofEffect? := by
  have hsame : duty? index probe ∘ taskOf (.probe probe) (.resumption index) =
      (Duty.ofEffect? : _ → Option (Duty α)) := by
    funext effect
    cases effect <;> simp [taskOf, duty?, Duty.ofEffect?]
  rw [dutiesOf, List.filterMap_map, hsame]

/-- The calls among the effects of a resumption. -/
theorem issues_effects (index probe : Nat)
    (effects : List (Effect α Link (Resumption.Work Link))) :
    (effects.map (taskOf (.probe probe) (.resumption index))).filterMap issue? =
      effects.filterMap Turn.ofEffect? := by
  have hsame : issue? ∘ taskOf (.probe probe) (.resumption index) =
      (Turn.ofEffect? : _ → Option (Turn α)) := by
    funext effect
    cases effect <;> rfl
  rw [List.filterMap_map, hsame]

/-- The effects of a resumption subscribe nobody. -/
theorem subscribe_not_mem_effects (index probe : Nat)
    (effects : List (Effect α Link (Resumption.Work Link))) (publisher : Publisher α (Action α))
    (receiver : Receiver) :
    .subscribe publisher receiver ∉
      effects.map (taskOf (.probe probe) (Task.resumption index)) := by
  intro hmem
  obtain ⟨effect, -, heffect⟩ := List.mem_map.1 hmem
  cases effect <;> simp [taskOf] at heffect

/-- A call that a switch asks for is no duty. -/
theorem duties_call (answer : Switch Link × Option (Call Link)) (unit : Resumption Link) :
    (unit.call (α := α) answer).2.filterMap Duty.ofEffect? = [] := by
  refine List.filterMap_eq_nil_iff.2 fun effect heffect => ?_
  obtain ⟨call, -, rfl⟩ := List.mem_map.1 heffect
  rfl

/-- Whatever a resumption hears leaves it a duty that is done next, and makes it call nobody. -/
theorem hear_effects (index probe : Nat) (unit : Resumption Link) (delivery : Delivery α Link)
    (rest : List (Task α)) :
    isPoised index probe ((unit.hear (.switch index) delivery).2.map
        (taskOf (.probe probe) (.resumption index)) ++ rest) = true ∧
      (unit.hear (.switch index) delivery).2.filterMap Turn.ofEffect? = [] := by
  cases delivery with
  | subscribe link =>
      cases hresumed : unit.resumed <;>
        simp [Resumption.hear, hresumed, isPoised, taskOf, duty?, Turn.ofEffect?]
  | error failure =>
      cases hresumed : unit.resumed <;>
        simp [Resumption.hear, hresumed, isPoised, taskOf, duty?, Turn.ofEffect?]
  | next x => simp [Resumption.hear, isPoised, taskOf, duty?, Turn.ofEffect?]
  | complete => simp [Resumption.hear, isPoised, taskOf, duty?, Turn.ofEffect?]

/-! ## One task -/

/-- A run has come to a standing of a resumption. -/
structure Stands (index probe : Nat) (recover : Failure → Recovery α (Action α))
    (agenda : Agenda (Network α) (Task α)) (standing : Standing α) : Prop where
  unit : ResumptionAt agenda.state index (.probe probe) recover standing.unit
  listener : ∃ listener, agenda.state.probes[probe]? = some listener ∧
    listener.history = standing.history
  apart : Apart index probe agenda.state
  taken : ∀ publisher, .subscribe publisher (.probe probe) ∉ agenda.todo
  duties : dutiesOf index probe agenda.todo = standing.duties
  poised : isPoised index probe agenda.todo = standing.poised

/-- What changes one resumption does not let anyone else signal to its receiver. -/
theorem OnlyResumption.apart (h : OnlyResumption index network next)
    (hapart : Apart index probe network) : Apart index probe next where
  sources := by rw [h.source]; exact hapart.sources
  windows := by rw [h.window]; exact hapart.windows
  resumptions := fun other stage hother hstage =>
    hapart.resumptions other stage hother (by rw [← h.resumption other hother]; exact hstage)
  hands := by rw [h.hands]; exact hapart.hands
  deferreds := by rw [h.deferreds]; exact hapart.deferreds

/-- The resumption does something, and its effects come next. -/
theorem Stands.act (h : Stands index probe recover ⟨network, task :: rest⟩ standing)
    (f : Resumption Link → Resumption Link × List (Effect α Link (Resumption.Work Link)))
    (hperform : perform task network = network.onResumption index f) :
    ∃ next, perform task network =
        (next, (f standing.unit).2.map (taskOf (.probe probe) (.resumption index))) ∧
      Stands index probe recover
        ⟨next, (f standing.unit).2.map (taskOf (.probe probe) (.resumption index)) ++ rest⟩
        ⟨(f standing.unit).1, standing.history,
          (f standing.unit).2.filterMap Duty.ofEffect? ++ dutiesOf index probe rest,
          isPoised index probe
            ((f standing.unit).2.map (taskOf (.probe probe) (.resumption index)) ++ rest)⟩ := by
  obtain ⟨next, hact, honly, hseat⟩ := h.unit.change (f := f) rfl
  refine ⟨next, hperform.trans hact, ?_⟩
  exact {
    unit := hseat
    listener := by rw [honly.probes]; exact h.listener
    apart := honly.apart h.apart
    taken := fun publisher hmem => (List.mem_append.1 hmem).elim
      (subscribe_not_mem_effects index probe _ publisher _)
      (fun hrest => h.taken publisher (List.mem_cons_of_mem _ hrest))
    duties := by rw [dutiesOf_append, dutiesOf_effects]
    poised := rfl }

/-- What leaves the resumption alone leaves its standing as it is, without the duty that was
done. -/
theorem Stands.keep (h : Stands index probe recover ⟨network, task :: rest⟩ standing)
    (haloof : Aloof index probe network (next, added)) :
    Stands index probe recover ⟨next, added ++ rest⟩
      ⟨standing.unit, standing.history, dutiesOf index probe rest,
        isPoised index probe (added ++ rest)⟩ where
  unit := by
    obtain ⟨stage, hstage, hrest⟩ := h.unit
    exact ⟨stage, haloof.unit.trans hstage, hrest⟩
  listener := by
    obtain ⟨listener, hlistener, hhistory⟩ := h.listener
    exact ⟨listener, haloof.listener.trans hlistener, hhistory⟩
  apart := haloof.apart
  taken := fun publisher hmem => (List.mem_append.1 hmem).elim
    (fun hadded => Bool.false_ne_true
      ((haloof.tasks _ hadded).symm.trans (decide_eq_true rfl)))
    (fun hrest => h.taken publisher (List.mem_cons_of_mem _ hrest))
  duties := by rw [dutiesOf_append, dutiesOf_of_not_reserved haloof.tasks, List.nil_append]
  poised := rfl

/-- A task that comes next is the first duty. -/
theorem Stands.poised_of_duty (h : Stands index probe recover ⟨network, task :: rest⟩ standing)
    {duty : Duty α} (hduty : duty? index probe task = some duty) :
    standing = ⟨standing.unit, standing.history, duty :: dutiesOf index probe rest, true⟩ := by
  have hduties := h.duties
  have hpoised := h.poised
  rw [dutiesOf_cons, hduty] at hduties
  simp only [isPoised, List.head?_cons, Option.bind_some, hduty, Option.isSome_some] at hpoised
  rcases standing with ⟨unit, history, all, poised⟩
  simp only at hduties hpoised
  rw [← hduties, ← hpoised]
  rfl

/-- A task that is no duty leaves the duties as they are. -/
theorem Stands.not_poised (h : Stands index probe recover ⟨network, task :: rest⟩ standing)
    (hduty : duty? index probe task = none) :
    standing = ⟨standing.unit, standing.history, dutiesOf index probe rest, false⟩ := by
  have hduties := h.duties
  have hpoised := h.poised
  rw [dutiesOf_cons, hduty] at hduties
  simp only [isPoised, List.head?_cons, Option.bind_some, hduty, Option.isSome_none] at hpoised
  rcases standing with ⟨unit, history, all, poised⟩
  simp only at hduties hpoised
  rw [← hduties, ← hpoised]
  rfl

/-- Performing the next task is a move of the resumption. -/
def Advances (index probe : Nat) (recover : Failure → Recovery α (Action α))
    (network : Network α) (task : Task α) (rest : List (Task α)) (standing : Standing α) : Prop :=
  ∃ after, Moves index recover standing (turnsOf index (task, (perform task network).2)) after ∧
    Stands index probe recover
      ⟨(perform task network).1, (perform task network).2 ++ rest⟩ after

/-- Something happens elsewhere. -/
theorem Stands.other (h : Stands index probe recover ⟨network, task :: rest⟩ standing)
    (hreserved : task.isReserved index probe = false) (hreaches : task.reaches index = false) :
    Advances index probe recover network task rest standing := by
  obtain ⟨listener, hlistener, -⟩ := h.listener
  have haloof := aloof_perform h.apart h.unit.lt_length
    (List.getElem?_eq_some_iff.1 hlistener).1 hreserved hreaches
  refine ⟨_, ?_, h.keep haloof⟩
  rw [turnsOf_other hreserved hreaches, h.not_poised (duty?_of_not_reserved hreserved)]
  exact .other _

/-- A feed signals. -/
theorem Stands.hear {delivery : Delivery α Link}
    (h : Stands index probe recover
      ⟨network, .signal (.resumption index) delivery :: rest⟩ standing)
    (hserial : dutiesOf index probe rest = []) :
    Advances index probe recover network (.signal (.resumption index) delivery) rest standing := by
  obtain ⟨next, hperform, hstands⟩ := h.act (fun unit => unit.hear (.switch index) delivery) rfl
  obtain ⟨hpoised, hissues⟩ := hear_effects index probe standing.unit delivery rest
  rw [hpoised, hserial, List.append_nil] at hstands
  refine ⟨_, ?_, by rw [hperform]; exact hstands⟩
  have hturns : turnsOf index (.signal (.resumption index) delivery,
      (perform (.signal (.resumption index) delivery) network).2) = [.heard delivery] := by
    rw [hperform]
    simp only [turnsOf, occurrence?, if_pos, issues_effects]
    exact congrArg (.heard delivery :: ·) hissues
  have hstanding := h.not_poised rfl
  rw [hserial] at hstanding
  rw [hturns, hstanding]
  exact .hear delivery

/-- The receiver calls. -/
theorem Stands.take {order : Order}
    (h : Stands index probe recover ⟨network, .order (.switch index) order :: rest⟩ standing) :
    Advances index probe recover network (.order (.switch index) order) rest standing := by
  obtain ⟨next, hperform, hstands⟩ := h.act (fun unit => unit.take order) rfl
  have hduties : (standing.unit.take (α := α) order).2.filterMap Duty.ofEffect? = [] :=
    duties_call _ _
  rw [hduties, List.nil_append] at hstands
  refine ⟨_, ?_, by rw [hperform]; exact hstands⟩
  have hturns : turnsOf index (.order (.switch index) order,
      (perform (.order (.switch index) order) network).2) =
      .taken order :: (standing.unit.take order).2.filterMap Turn.ofEffect? := by
    rw [hperform]
    simp only [turnsOf, occurrence?, if_pos, issues_effects]
    rfl
  rw [hturns, h.not_poised rfl]
  exact .take order _

/-- The receiver hears a signal. -/
theorem Stands.tell {delivery : Delivery α Link}
    (h : Stands index probe recover ⟨network, .signal (.probe probe) delivery :: rest⟩ standing) :
    Advances index probe recover network (.signal (.probe probe) delivery) rest standing := by
  obtain ⟨listener, hlistener, hhistory⟩ := h.listener
  obtain ⟨hlt, -⟩ := List.getElem?_eq_some_iff.1 hlistener
  have hperform : perform (.signal (.probe probe) delivery) network =
      (({ network with probes := network.probes.set probe (listener.hear delivery) }).log
        (.heard listener.name delivery.signal),
        (listener.opening delivery).toList.map (fun call => Task.order call.1 call.2) ++
          (listener.answer delivery).map Task.act) := by
    simp only [perform, deliver, hearProbe, hlistener]
  have hadded : ∀ task ∈ (perform (.signal (.probe probe) delivery) network).2,
      task.isReserved index probe = false := by
    intro task htask
    rw [hperform] at htask
    rcases List.mem_append.1 htask with hcall | hact
    · obtain ⟨call, -, rfl⟩ := List.mem_map.1 hcall
      rfl
    · exact isReserved_map_act _ task hact
  refine ⟨⟨standing.unit, standing.history ++ [delivery.signal], dutiesOf index probe rest,
    isPoised index probe ((perform (.signal (.probe probe) delivery) network).2 ++ rest)⟩, ?_, ?_⟩
  · have hduty : duty? index probe (.signal (.probe probe) delivery) = some (.tell delivery) :=
      if_pos rfl
    rw [h.poised_of_duty hduty]
    exact .tell delivery _
  · exact {
      unit := by rw [hperform]; exact h.unit
      listener := ⟨listener.hear delivery, by rw [hperform]; exact List.getElem?_set_self hlt,
        by rw [Probe.history_hear, hhistory]⟩
      apart := by
        rw [hperform]
        exact ⟨h.apart.sources, h.apart.windows, h.apart.resumptions, h.apart.hands,
          h.apart.deferreds⟩
      taken := fun publisher hmem => (List.mem_append.1 hmem).elim
        (fun hnew => Bool.false_ne_true ((hadded _ hnew).symm.trans (decide_eq_true rfl)))
        (fun hrest => h.taken publisher (List.mem_cons_of_mem _ hrest))
      duties := by rw [dutiesOf_append, dutiesOf_of_not_reserved hadded, List.nil_append]
      poised := rfl }

/-- Another duty takes the place of the one that was done. -/
theorem Stands.replace (h : Stands index probe recover ⟨network, task :: rest⟩ standing)
    {duty : Duty α} {instead : Task α} (hinstead : duty? index probe instead = some duty)
    (hseat : ResumptionAt next index (.probe probe) recover standing.unit)
    (hprobes : next.probes = network.probes) (hapart : Apart index probe next) :
    Stands index probe recover ⟨next, [instead] ++ rest⟩
      ⟨standing.unit, standing.history, duty :: dutiesOf index probe rest, true⟩ where
  unit := hseat
  listener := by rw [hprobes]; exact h.listener
  apart := hapart
  taken := by
    intro publisher hmem
    rcases List.mem_cons.1 hmem with rfl | hrest
    · cases hinstead
    · exact h.taken publisher (List.mem_cons_of_mem _ hrest)
  duties := by
    rw [List.singleton_append, dutiesOf_cons, hinstead]
    rfl
  poised := by
    rw [List.singleton_append, isPoised, List.head?_cons, Option.bind_some, hinstead]
    rfl

/-- The resumption goes on with its own work. -/
theorem Stands.work {work : Resumption.Work Link}
    (h : Stands index probe recover ⟨network, .resumption index work :: rest⟩ standing) :
    Advances index probe recover network (.resumption index work) rest standing := by
  have hduty : duty? index probe (.resumption index work : Task α) = some (.ofWork work) :=
    if_pos rfl
  cases work with
  | bind link =>
      obtain ⟨next, hperform, hstands⟩ := h.act (fun unit => unit.bind link) rfl
      have hduties : (standing.unit.bind (α := α) link).2.filterMap Duty.ofEffect? = [] :=
        duties_call _ _
      rw [hduties, List.nil_append] at hstands
      refine ⟨_, ?_, by rw [hperform]; exact hstands⟩
      have hturns : turnsOf index (.resumption index (.bind link),
          (perform (.resumption index (.bind link)) network).2) =
          (standing.unit.bind link).2.filterMap Turn.ofEffect? := by
        rw [hperform]
        simp only [turnsOf, occurrence?, if_pos, issues_effects, List.nil_append]
      rw [hturns, h.poised_of_duty hduty]
      exact .bind link _
  | count =>
      obtain ⟨next, hperform, hstands⟩ := h.act (fun unit => (unit.count, [])) rfl
      refine ⟨_, ?_, by rw [hperform]; exact hstands⟩
      have hturns : turnsOf index (.resumption index .count,
          (perform (.resumption index .count) network).2) = [.returned] := by
        rw [hperform]
        simp only [turnsOf, occurrence?, if_pos, List.map_nil, List.filterMap_nil,
          List.append_nil]
      rw [hturns, h.poised_of_duty hduty]
      exact .count _
  | recover failure =>
      obtain ⟨next, hperform, honly, hseat⟩ := h.unit.ask failure
      refine ⟨⟨standing.unit, standing.history,
        .decide failure (recover failure) :: dutiesOf index probe rest, true⟩, ?_, ?_⟩
      · have hturns : turnsOf index (.resumption index (.recover failure),
            (perform (.resumption index (.recover failure)) network).2) =
            [.consulted failure] := by
          rw [hperform]
          simp only [turnsOf, occurrence?, if_pos]
          rfl
        rw [hturns, h.poised_of_duty hduty]
        exact .consult failure
      · rw [hperform]
        exact h.replace (if_pos rfl) hseat honly.probes (honly.apart h.apart)

/-- The resumption follows its recovery. -/
theorem Stands.decide {failure : Failure} {recovery : Recovery α (Action α)}
    (h : Stands index probe recover
      ⟨network, .recover index failure recovery :: rest⟩ standing) :
    Advances index probe recover network (.recover index failure recovery) rest standing := by
  have hduty : duty? index probe (.recover index failure recovery) =
      some (.decide failure recovery) := if_pos rfl
  have hfails : ∀ second, recovery.failure? = some second →
      Advances index probe recover network (.recover index failure recovery) rest standing := by
    intro second hsecond
    have hperform := h.unit.follow_fails hsecond failure
    refine ⟨⟨standing.unit, standing.history,
      .tell (.error (failure.join second)) :: dutiesOf index probe rest, true⟩, ?_, ?_⟩
    · rw [h.poised_of_duty hduty]
      exact .fail hsecond
    · rw [hperform]
      exact h.replace (if_pos rfl) h.unit rfl h.apart
  cases recovery with
  | «to» publisher =>
      have haloof := (aloof_mention h.apart publisher).append
        (by simp [Task.isReserved] : ∀ task ∈
          [Task.subscribe ((network.mention publisher).resolve publisher) (.resumption index)],
          task.isReserved index probe = false)
      refine ⟨_, ?_, h.keep haloof⟩
      rw [h.poised_of_duty hduty]
      exact .subscribe
  | perform actions following =>
      have hacts : dutiesOf index probe (actions.map Task.act) = [] :=
        dutiesOf_of_not_reserved (isReserved_map_act actions)
      have hdecide : duty? index probe (.recover index failure following) =
          some (.decide failure following) := if_pos rfl
      refine ⟨⟨standing.unit, standing.history,
        .decide failure following :: dutiesOf index probe rest,
        isPoised index probe
          (actions.map Task.act ++ [.recover index failure following] ++ rest)⟩, ?_, ?_⟩
      · rw [h.poised_of_duty hduty]
        exact .postpone _
      · exact {
          unit := h.unit
          listener := h.listener
          apart := h.apart
          taken := fun publisher hmem => by
            rcases List.mem_append.1 hmem with hadded | hrest
            · simp [perform, follow] at hadded
            · exact h.taken publisher (List.mem_cons_of_mem _ hrest)
          duties := by
            simp only [perform, follow]
            rw [dutiesOf_append, dutiesOf_append, hacts, dutiesOf_cons, hdecide]
            rfl
          poised := rfl }
  | nothing => exact hfails _ rfl
  | error second => exact hfails _ rfl
  | panic message => cases message <;> exact hfails _ rfl

/-- Every task is a move of the resumption, as long as its feeds signal serially. -/
theorem moves_of_perform (h : Stands index probe recover ⟨network, task :: rest⟩ standing)
    (hserial : Serial index probe ⟨network, task :: rest⟩) :
    Advances index probe recover network task rest standing := by
  rcases hreserved : task.isReserved index probe with _ | _
  · rcases hreaches : task.reaches index with _ | _
    · exact h.other hreserved hreaches
    · obtain ⟨delivery, rfl⟩ | ⟨order, rfl⟩ := reaches_iff.1 hreaches
      · exact h.hear (hserial (decide_eq_true rfl))
      · exact h.take
  · obtain ⟨delivery, rfl⟩ | ⟨publisher, rfl⟩ | ⟨work, rfl⟩ | ⟨failure, recovery, rfl⟩ :=
      isReserved_iff.1 hreserved
    · exact h.tell
    · exact (h.taken publisher List.mem_cons_self).elim
    · exact h.work
    · exact h.decide

/-! ## Runs -/

/-- Every run is a course of a resumption, as long as the feeds of that one signal serially. -/
theorem course_of_run {agenda : Agenda (Network α) (Task α)}
    (hstart : Stands index probe recover agenda {}) {fuel : Nat}
    (hserial : ∀ moment < fuel, Serial index probe (Agenda.run perform moment agenda)) :
    ∃ standing, Course index recover (turnsIn index (Agenda.record perform fuel agenda)) standing ∧
      Stands index probe recover (Agenda.run perform fuel agenda) standing := by
  let invariant (past : List (Task α × List (Task α))) (now : Agenda (Network α) (Task α)) : Prop :=
    ∃ standing, Course index recover (turnsIn index past) standing ∧
      Stands index probe recover now standing
  have hbegin : invariant [] agenda := ⟨{}, .start, hstart⟩
  refine Agenda.invariant_record hbegin ?_ hserial
  rintro past state task rest hnow ⟨standing, hcourse, hstands⟩
  obtain ⟨after, hmoves, hafter⟩ := moves_of_perform hstands hnow
  exact ⟨after, by rw [turnsIn_concat]; exact hcourse.step hmoves, hafter⟩

/-- A network in which a scripted subscriber subscribes a resumption first of all, and then goes on
with a script. -/
def opened (name : String) (tag : Option String) (recover : Failure → Recovery α (Action α))
    (up : Publisher α (Action α)) (initial : UInt64) (react : Reaction (Action α))
    (script : List (Action α)) : Agenda (Network α) (Task α) :=
  ⟨{}, .act (.subscribe name (.resume tag recover up) initial react) :: script.map .act⟩

/-- What the scripted subscriber at an index has heard. -/
def historyOf (network : Network α) (index : Nat) : List (Signal α) :=
  (network.probes[index]?.map (·.history)).getD []

/-- What a run shows of the resumption that was subscribed first of all. -/
structure Shows (recover : Failure → Recovery α (Action α)) (turns : List (Turn α))
    (agenda : Agenda (Network α) (Task α)) (standing : Standing α) : Prop where
  course : Course 0 recover turns standing
  listener : historyOf agenda.state 0 = standing.history
  duties : dutiesOf 0 0 agenda.todo = standing.duties
  poised : isPoised 0 0 agenda.todo = standing.poised

/-- Nothing in an empty network signals to anyone. -/
theorem apart_empty : Apart index probe ({} : Network α) where
  sources := fun _ h => (List.not_mem_nil h).elim
  windows := fun _ h => (List.not_mem_nil h).elim
  resumptions := fun _ _ _ h => by simp at h
  hands := fun _ h => (List.not_mem_nil h).elim
  deferreds := fun _ h => (List.not_mem_nil h).elim

/-- The first subscriber of a network is made, and then its resumption. -/
theorem leads_opened (name : String) (tag : Option String)
    (recover : Failure → Recovery α (Action α)) (up : Publisher α (Action α)) (initial : UInt64)
    (react : Reaction (Action α)) (script : List (Action α)) :
    ∃ (made seated : Network α) (feed : Publisher α (Action α)) (tasks : List (Task α)),
      tasks = .ret (.subscribe name (.resume tag recover up) initial react) .done ::
        script.map .act ∧
      perform (.act (.subscribe name (.resume tag recover up) initial react)) {} =
        (made, [.subscribe (.resume tag recover feed) (.probe 0),
          .ret (.subscribe name (.resume tag recover up) initial react) .done]) ∧
      made.probes = [{ name, initial, react }] ∧
      perform (.subscribe (.resume tag recover feed) (.probe 0)) made =
        (seated, [.subscribe feed (.resumption 0)]) ∧
      Stands 0 0 recover ⟨seated, .subscribe feed (.resumption 0) :: tasks⟩ {} := by
  let first : Action α := .subscribe name (.resume tag recover up) initial react
  let mentioned : Network α := (({} : Network α).log (.called first)).mention (.resume tag recover up)
  let made : Network α := { mentioned with probes := [{ name, initial, react }] }
  have hmentioned : Aloof 0 0 (({} : Network α).log (.called first)) (mentioned, []) :=
    aloof_mention ((sameUnits_log {} _).apart apart_empty) _
  have hprobes : mentioned.probes = [] :=
    List.eq_nil_of_length_eq_zero (Nat.le_zero.1 (List.getElem?_eq_none_iff.1 hmentioned.listener))
  have hresumptions : mentioned.resumptions = [] :=
    List.eq_nil_of_length_eq_zero (Nat.le_zero.1 (List.getElem?_eq_none_iff.1 hmentioned.unit))
  have hmade : perform (.act first) {} =
      (made, [.subscribe (.resume tag recover (up.resolve mentioned.definitionOf)) (.probe 0),
        .ret first .done]) := by
    have hindex : mentioned.probes.length = 0 := congrArg List.length hprobes
    show (({ mentioned with probes := mentioned.probes ++ [{ name, initial, react }] } : Network α),
      [Task.subscribe _ (.probe mentioned.probes.length), _]) = _
    rw [hindex, hprobes]
    rfl
  let seated : Network α :=
    { made with resumptions := [{ toStage := made.stage (.probe 0) {}, tag, recover }] }
  have hseated : perform (.subscribe
      (.resume tag recover (up.resolve mentioned.definitionOf)) (.probe 0)) made =
      (seated, [.subscribe (up.resolve mentioned.definitionOf) (.resumption 0)]) := by
    have hindex : made.resumptions.length = 0 := congrArg List.length hresumptions
    show (({ made with resumptions := made.resumptions ++
        [{ toStage := made.stage (.probe 0) {}, tag, recover }] } : Network α),
      [Task.subscribe _ (.resumption made.resumptions.length)]) = _
    rw [hindex, show made.resumptions = [] from hresumptions]
    rfl
  have hscript : ∀ task ∈ (script.map Task.act : List (Task α)), task.isReserved 0 0 = false :=
    isReserved_map_act script
  refine ⟨made, seated, _, _, rfl, hmade, rfl, hseated, ?_⟩
  exact {
    unit := ⟨_, rfl, rfl, rfl, rfl⟩
    listener := ⟨_, rfl, rfl⟩
    apart := {
      sources := hmentioned.apart.sources
      windows := hmentioned.apart.windows
      resumptions := fun other stage hother hstage => by
        rw [List.getElem?_singleton, if_neg hother] at hstage
        exact absurd hstage (by simp)
      hands := hmentioned.apart.hands
      deferreds := hmentioned.apart.deferreds }
    taken := fun publisher hmem => by simp at hmem
    duties := by
      rw [dutiesOf_cons, dutiesOf_cons, dutiesOf_of_not_reserved hscript]
      rfl
    poised := rfl }

/-- Every run of a network takes the resumption that was subscribed first of all through a course,
as long as the feeds of that one signal serially. -/
theorem course_of_opened (name : String) (tag : Option String)
    (recover : Failure → Recovery α (Action α)) (up : Publisher α (Action α)) (initial : UInt64)
    (react : Reaction (Action α)) (script : List (Action α)) {fuel : Nat}
    (hserial : ∀ moment < fuel, Serial 0 0
      (Agenda.run perform moment (opened name tag recover up initial react script))) :
    ∃ standing, Shows recover
      (turnsIn 0 (Agenda.record perform fuel (opened name tag recover up initial react script)))
      (Agenda.run perform fuel (opened name tag recover up initial react script)) standing := by
  have hscript : dutiesOf 0 0 (script.map Task.act : List (Task α)) = [] :=
    dutiesOf_of_not_reserved (isReserved_map_act script)
  obtain ⟨made, seated, feed, tasks, rfl, hmade, hprobes, hseated, hstands⟩ :=
    leads_opened name tag recover up initial react script
  let ready : Agenda (Network α) (Task α) :=
    ⟨seated, .subscribe feed (.resumption 0) ::
      .ret (.subscribe name (.resume tag recover up) initial react) .done :: script.map .act⟩
  have hrun : ∀ moment, Agenda.run perform (moment + 2)
      (opened name tag recover up initial react script) =
      Agenda.run perform moment ready := by
    intro moment
    rw [opened, Agenda.run_succ_cons, Agenda.step_cons, hmade, List.cons_append,
      Agenda.run_succ_cons, Agenda.step_cons, hseated]
    rfl
  have hrecord : ∀ moment, turnsIn 0 (Agenda.record perform (moment + 2)
      (opened name tag recover up initial react script)) =
      turnsIn 0 (Agenda.record perform moment ready) := by
    intro moment
    rw [opened, Agenda.record, Agenda.step_cons, hmade, List.cons_append, Agenda.record,
      Agenda.step_cons, hseated]
    rfl
  rcases fuel with _ | _ | fuel
  · exact ⟨{}, .start, rfl, hscript, by cases script <;> rfl⟩
  · have hfirst : Agenda.run perform (0 + 1) (opened name tag recover up initial react script) =
        ⟨made, .subscribe (.resume tag recover feed) (.probe 0) ::
          .ret (.subscribe name (.resume tag recover up) initial react) .done ::
          script.map .act⟩ := by
      rw [opened, Agenda.run_succ_cons, Agenda.step_cons, hmade]
      rfl
    rw [hfirst]
    refine ⟨{}, .start, ?_, ?_, rfl⟩
    · rw [historyOf, hprobes]
      rfl
    · rw [dutiesOf_cons, dutiesOf_cons, hscript]
      rfl
  · rw [hrun, hrecord]
    obtain ⟨standing, hcourse, hlast⟩ := course_of_run hstands fun moment hmoment => by
      rw [← hrun]
      exact hserial (moment + 2) (Nat.add_lt_add_right hmoment 2)
    obtain ⟨listener, hlistener, hhistory⟩ := hlast.listener
    refine ⟨standing, hcourse, ?_, hlast.duties, hlast.poised⟩
    rw [historyOf, hlistener]
    exact hhistory

end Backpressure.Network
