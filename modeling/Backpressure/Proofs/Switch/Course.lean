import Backpressure.Proofs.Agenda
import Backpressure.Proofs.Switch.Operations
import Backpressure.Switch.Bench

/-!
# The course of a switch

An operation on a switch may call a feed, and the feed may answer with further operations before the
call returns. As long as the call is made right after its operation, all this happens one after the
other: the course of a switch is the list of its operations, each followed by the call that it
makes. On the bench that is so, however the operations are nested: a call that a switch asks for is
always the next task.

Main results:

- Theorem `course_split` cuts a course at one of its operations.
- Theorem `takeWhile_course` ends a course before the next binding.
- Theorem `turned_perform` states what one task does with the switch and the scripted links.
- Theorem `turns_eq` states that every run on the bench follows the course of its operations, and
  that every scripted link receives the calls on it.
-/

namespace Backpressure.Switch

variable {ι : Type}

/-! ## Turns -/

/-- One turn in the course of a switch. -/
inductive Turn (ι : Type) where
  /-- The switch is operated. -/
  | operation (operation : Operation ι)
  /-- The switch makes a call. -/
  | call (call : Call ι)
  deriving DecidableEq

namespace Turn

/-- The operation of a turn. -/
def operation? : Turn ι → Option (Operation ι)
  | .operation done => some done
  | .call _ => none

/-- The call of a turn. -/
def call? : Turn ι → Option (Call ι)
  | .operation _ => none
  | .call made => some made

/-- Whether a turn binds a feed. -/
def isBind : Turn ι → Bool
  | .operation done => done.isBind
  | .call _ => false

end Turn

/-- The operations of a course, in order. -/
def operationsIn (turns : List (Turn ι)) : List (Operation ι) := turns.filterMap Turn.operation?

/-- The calls of a course, in order. -/
def callsIn (turns : List (Turn ι)) : List (Call ι) := turns.filterMap Turn.call?

/-- The orders that calls give to one feed, in order. -/
def ordersTo [DecidableEq ι] (link : ι) (calls : List (Call ι)) : List Order :=
  calls.filterMap fun call => if call.1 = link then some call.2 else none

/-- The course of a series of operations: each is followed by the call that it makes. -/
def course (switch : Switch ι) : List (Operation ι) → List (Turn ι)
  | [] => []
  | operation :: later =>
      .operation operation :: (switch.operate operation).2.toList.map .call ++
        (switch.operate operation).1.course later

variable {switch : Switch ι} {first second : List (Turn ι)} {operation : Operation ι}
  {operations : List (Operation ι)}

/-- The operations of two stretches of a course. -/
@[simp] theorem operationsIn_append (first second : List (Turn ι)) :
    operationsIn (first ++ second) = operationsIn first ++ operationsIn second :=
  List.filterMap_append

/-- The calls of two stretches of a course. -/
@[simp] theorem callsIn_append (first second : List (Turn ι)) :
    callsIn (first ++ second) = callsIn first ++ callsIn second :=
  List.filterMap_append

/-- Calls are no operations. -/
@[simp] theorem operationsIn_map_call (calls : List (Call ι)) :
    operationsIn (calls.map .call) = [] := by
  induction calls with
  | nil => rfl
  | cons call calls ih => exact ih

/-- The calls of a stretch that has only calls. -/
@[simp] theorem callsIn_map_call (calls : List (Call ι)) : callsIn (calls.map .call) = calls := by
  induction calls with
  | nil => rfl
  | cons call calls ih => exact congrArg (call :: ·) ih

/-- A call is made in a course where there is a turn for it. -/
theorem mem_callsIn {turns : List (Turn ι)} {call : Call ι} :
    call ∈ callsIn turns ↔ .call call ∈ turns := by
  rw [callsIn, List.mem_filterMap]
  constructor
  · rintro ⟨_ | other, hmem, hcall⟩
    · cases hcall
    · cases hcall
      exact hmem
  · exact fun h => ⟨_, h, rfl⟩

/-- An operation is done in a course where there is a turn for it. -/
theorem mem_operationsIn {turns : List (Turn ι)} :
    operation ∈ operationsIn turns ↔ .operation operation ∈ turns := by
  rw [operationsIn, List.mem_filterMap]
  constructor
  · rintro ⟨other | _, hmem, hoperation⟩
    · cases hoperation
      exact hmem
    · cases hoperation
  · exact fun h => ⟨_, h, rfl⟩

/-- Without a cancellation in a stretch of a course none of its operations cancels. -/
theorem isCancel_of_not_mem {turns : List (Turn ι)} (h : .operation .cancel ∉ turns) :
    ∀ operation ∈ operationsIn turns, operation.isCancel = false := by
  intro operation hmem
  rw [mem_operationsIn] at hmem
  cases operation with
  | cancel => exact absurd hmem h
  | request amount | emitted count | bind link => rfl

/-- An order is given to a feed when the call is made. -/
theorem mem_ordersTo [DecidableEq ι] {link : ι} {order : Order} {calls : List (Call ι)} :
    order ∈ ordersTo link calls ↔ (link, order) ∈ calls := by
  rw [ordersTo, List.mem_filterMap]
  constructor
  · rintro ⟨⟨other, asked⟩, hmem, hsome⟩
    split at hsome
    next hsame =>
      cases hsame
      cases hsome
      exact hmem
    next => cases hsome
  · exact fun h => ⟨_, h, if_pos rfl⟩

/-- The orders that two series of calls give to one feed. -/
theorem ordersTo_append [DecidableEq ι] (link : ι) (first second : List (Call ι)) :
    ordersTo link (first ++ second) = ordersTo link first ++ ordersTo link second :=
  List.filterMap_append

/-! ## Courses -/

/-- The operations of a course are those that it is the course of. -/
@[simp] theorem operationsIn_course (switch : Switch ι) (operations : List (Operation ι)) :
    operationsIn (switch.course operations) = operations := by
  induction operations generalizing switch with
  | nil => rfl
  | cons operation operations ih =>
      rw [course, List.cons_append]
      refine congrArg (operation :: ·) ?_
      rw [← operationsIn, operationsIn_append, operationsIn_map_call, ih, List.nil_append]

/-- The calls of a course are those that its operations make. -/
@[simp] theorem callsIn_course (switch : Switch ι) (operations : List (Operation ι)) :
    callsIn (switch.course operations) = switch.calls operations := by
  induction operations generalizing switch with
  | nil => rfl
  | cons operation operations ih =>
      rw [course, List.cons_append, calls, ← ih,
        ← callsIn_map_call (switch.operate operation).2.toList, ← callsIn_append, callsIn_map_call]
      rfl

/-- The course of two series of operations. -/
theorem course_append (switch : Switch ι) (before later : List (Operation ι)) :
    switch.course (before ++ later) =
      switch.course before ++ (switch.after before).course later := by
  induction before generalizing switch with
  | nil => rfl
  | cons operation before ih =>
      rw [List.cons_append, course, ih, course, List.append_assoc]
      rfl

/-- A course is cut at one of its operations into the course before it, the call that it makes, and
the course after it. -/
theorem course_split (h : switch.course operations = first ++ .operation operation :: second) :
    let reached := switch.after (operationsIn first)
    operations = operationsIn first ++ operation :: operationsIn second ∧
      first = switch.course (operationsIn first) ∧
      second = (reached.operate operation).2.toList.map .call ++
        (reached.operate operation).1.course (operationsIn second) := by
  induction operations generalizing switch first with
  | nil => exact absurd h.symm (List.append_ne_nil_of_right_ne_nil first (List.cons_ne_nil _ _))
  | cons head operations ih =>
      rw [course, List.cons_append] at h
      rcases first with _ | ⟨turn, first⟩
      · rw [List.nil_append, List.cons.injEq, Turn.operation.injEq] at h
        obtain ⟨rfl, rfl⟩ := h
        have hlater : operationsIn ((switch.operate head).2.toList.map .call ++
            (switch.operate head).1.course operations) = operations := by simp
        exact ⟨congrArg (head :: ·) hlater.symm, rfl, by rw [hlater]; rfl⟩
      · rw [List.cons_append, List.cons.injEq] at h
        obtain ⟨rfl, h⟩ := h
        -- the operation is not among the calls of the one before
        obtain ⟨middle, rfl, hmiddle⟩ : ∃ middle,
            first = (switch.operate head).2.toList.map .call ++ middle ∧
              (switch.operate head).1.course operations =
                middle ++ .operation operation :: second := by
          rcases List.append_eq_append_iff.1 h with ⟨middle, hfirst, hrest⟩ | ⟨calls, hcalls, hrest⟩
          · exact ⟨middle, hfirst, hrest⟩
          · rcases calls with _ | ⟨turn, calls⟩
            · exact ⟨[], by simpa using hcalls.symm, by simpa using hrest.symm⟩
            · rw [List.cons_append, List.cons.injEq] at hrest
              have hmem : turn ∈ (switch.operate head).2.toList.map Turn.call := by
                rw [hcalls]
                exact List.mem_append_right _ List.mem_cons_self
              obtain ⟨call, -, hcall⟩ := List.mem_map.1 hmem
              rw [← hrest.1] at hcall
              cases hcall
        obtain ⟨hoperations, hbefore, hafter⟩ := ih hmiddle
        have hhead : operationsIn (.operation head ::
            ((switch.operate head).2.toList.map .call ++ middle)) =
              head :: operationsIn middle := by
          refine congrArg (head :: ·) ?_
          rw [← operationsIn, operationsIn_append, operationsIn_map_call, List.nil_append]
        rw [hhead]
        refine ⟨congrArg (head :: ·) hoperations, ?_, hafter⟩
        rw [course, List.cons_append, ← hbefore]

/-- Calls do not bind. -/
theorem takeWhile_calls_append (calls : List (Call ι)) (turns : List (Turn ι)) :
    (calls.map Turn.call ++ turns).takeWhile (fun turn => !turn.isBind) =
      calls.map .call ++ turns.takeWhile fun turn => !turn.isBind := by
  refine List.takeWhile_append_of_pos fun turn hturn => ?_
  obtain ⟨call, -, rfl⟩ := List.mem_map.1 hturn
  rfl

/-- Up to the next binding, a course is that of the operations before it. -/
theorem takeWhile_course (switch : Switch ι) (operations : List (Operation ι)) :
    (switch.course operations).takeWhile (fun turn => !turn.isBind) =
      switch.course (operations.takeWhile fun operation => !operation.isBind) := by
  induction operations generalizing switch with
  | nil => rfl
  | cons operation operations ih =>
      rw [course, List.cons_append, List.takeWhile_cons, List.takeWhile_cons]
      have hsame : (Turn.operation operation).isBind = operation.isBind := rfl
      rw [hsame]
      split
      · rw [takeWhile_calls_append, ih, course, List.cons_append]
      · rfl

/-- Only feeds that are bound are called. -/
theorem bound_of_mem_calls {call : Call ι} (h : call ∈ switch.calls operations) :
    switch.current = some call.1 ∨ call.1 ∈ bound operations := by
  induction operations generalizing switch with
  | nil => exact absurd h List.not_mem_nil
  | cons operation operations ih =>
      have hcons : bound (operation :: operations) =
          operation.bound?.toList ++ bound operations := by
        cases hbound : operation.bound? <;> simp [bound, hbound]
      rw [hcons, List.mem_append]
      rw [calls, List.mem_append] at h
      have hoperation : (call ∈ (switch.operate operation).2.toList ∨
          (switch.operate operation).1.current = some call.1) →
            switch.current = some call.1 ∨ call.1 ∈ operation.bound?.toList := by
        obtain ⟨current, outstanding, cancelled⟩ := switch
        cases operation <;> cases cancelled <;> cases current <;>
          simp [operate, request, cancel, bind, emitted, Operation.bound?] <;> grind
      rcases h with hnow | hlater
      · exact (hoperation (.inl hnow)).imp_right .inl
      · rcases ih hlater with hcurrent | hbound
        · exact (hoperation (.inr hcurrent)).imp_right .inl
        · exact .inr (.inr hbound)

/-! ## The bench -/

variable {α : Type}

/-- The call on a feed that a task is about to make. -/
def Task.call? : Task α → Option (Call Feed)
  | .order feed asked => some (feed, asked)
  | _ => none

/-- The calls on feeds that tasks are about to make. -/
def coming (tasks : List (Task α)) : List (Call Feed) := tasks.filterMap Task.call?

/-- What the first of several tasks is about to call, and what the others are. -/
theorem coming_cons (task : Task α) (rest : List (Task α)) :
    coming (task :: rest) = task.call?.toList ++ coming rest := by
  cases h : task.call? <;> simp [coming, h]

/-- The calls that two stretches of tasks are about to make. -/
theorem coming_append (first second : List (Task α)) :
    coming (first ++ second) = coming first ++ coming second :=
  List.filterMap_append

/-- Actions that are still to be performed are no calls on feeds. -/
theorem coming_map_act (actions : List (Action α)) : coming (actions.map Task.act) = [] :=
  List.filterMap_eq_nil_iff.2 fun task htask => by
    obtain ⟨action, -, rfl⟩ := List.mem_map.1 htask
    rfl

namespace Bench

/-- What a task shows of the switch: the operation on it, or the call that it makes. -/
def turnOf : Task α → Bench α → List (Turn Feed)
  | .act (.bind name react), bench => [.operation (.bind (.tap (bench.tapOf name react).2))]
  | .act .bindInert, _ => [.operation (.bind .inert)]
  | .act (.emitted count), _ => [.operation (.emitted count)]
  | .demand (.request amount), _ => [.operation (.request amount)]
  | .demand .cancel, _ => [.operation .cancel]
  | .order feed order, _ => [.call (feed, order)]
  | _, _ => []

/-- A fresh switch on the bench, with the actions that are to be performed. -/
def fresh (name : String) (initial : UInt64) (react : Reaction (Action α))
    (actions : List (Action α)) : Agenda (Bench α) (Task α) :=
  ⟨{ probe := { name, initial, react } }, actions.map .act⟩

/-- The course of the switch in a run, up to the call that it is about to make. -/
def turns (start : Agenda (Bench α) (Task α)) (fuel : Nat) : List (Turn Feed) :=
  Agenda.observe turnOf perform fuel start ++
    (coming (Agenda.run perform fuel start).todo).map .call

/-- The orders that the scripted link at an index has received. -/
def ordersAt (bench : Bench α) (index : Nat) : List Order :=
  bench.taps[index]?.elim [] (·.ledger.orders)

/-- The call that a task shows is the one that it is about to make. -/
theorem callsIn_turnOf (task : Task α) (bench : Bench α) :
    callsIn (turnOf task bench) = task.call?.toList := by
  cases task with
  | act action => cases action <;> rfl
  | demand order => cases order <;> rfl
  | ret | signal | order => rfl

/-- What a task does with the switch and with the scripted links: it operates the switch once at
most, and the call that this asks for comes next, or it makes a call. -/
structure Turned (task : Task α) (bench : Bench α) (next : Bench α) (added : List (Task α)) :
    Prop where
  switch : next.switch = bench.switch.after (operationsIn (turnOf task bench))
  course : turnOf task bench ++ (coming added).map .call =
    task.call?.toList.map .call ++ bench.switch.course (operationsIn (turnOf task bench))
  later : coming added.tail = []
  taps : bench.taps.length ≤ next.taps.length
  bound : ∀ index, .tap index ∈ bound (operationsIn (turnOf task bench)) →
    index < next.taps.length
  orders : (∀ index order, (.tap index, order) ∈ callsIn (turnOf task bench) →
    index < bench.taps.length) → ∀ index, next.ordersAt index =
      bench.ordersAt index ++ ordersTo (.tap index) (callsIn (turnOf task bench))

/-- Tasks that do not concern the switch. -/
theorem turned_of_silent {task : Task α} {bench next : Bench α} {added : List (Task α)}
    (hturn : turnOf task bench = []) (hcall : task.call? = none) (hadded : coming added = [])
    (hswitch : next.switch = bench.switch) (htaps : next.taps = bench.taps) :
    Turned task bench next added where
  switch := by rw [hturn]; exact hswitch
  course := by rw [hturn, hcall, hadded]; rfl
  later := by
    rcases added with _ | ⟨first, added⟩
    · rfl
    · rw [coming_cons] at hadded
      exact (List.append_eq_nil_iff.1 hadded).2
  taps := Nat.le_of_eq (congrArg List.length htaps.symm)
  bound index hindex := by rw [hturn] at hindex; exact absurd hindex List.not_mem_nil
  orders _ index := by rw [hturn, ordersAt, htaps, ← ordersAt]; exact (List.append_nil _).symm

/-- An operation on the switch, with the call that it asks for as the next task. -/
theorem turned_of_operate {task : Task α} {bench next : Bench α} {operation : Operation Feed}
    {added : List (Task α)} (hturn : turnOf task bench = [.operation operation])
    (hcall : task.call? = none) (hswitch : next.switch = (bench.switch.operate operation).1)
    (hcoming : coming added = (bench.switch.operate operation).2.toList)
    (hlater : coming added.tail = [])
    (htaps : bench.taps.length ≤ next.taps.length)
    (hbound : ∀ index, operation = .bind (.tap index) → index < next.taps.length)
    (horders : ∀ index, next.ordersAt index = bench.ordersAt index) :
    Turned task bench next added where
  switch := by rw [hturn]; exact hswitch
  course := by
    rw [hturn, hcall, hcoming]
    exact (List.append_nil _).symm
  later := hlater
  taps := htaps
  bound index hindex := by
    rw [hturn] at hindex
    refine hbound index ?_
    cases operation with
    | bind link => exact congrArg Operation.bind (List.mem_singleton.1 hindex).symm
    | request amount | cancel | emitted count => exact absurd hindex List.not_mem_nil
  orders _ index := by
    rw [hturn, horders]
    exact (List.append_nil _).symm

/-- The call that an operation asks for is all that it leaves to be done. -/
theorem coming_follow (bench : Bench α) (answer : Switch Feed × Option (Call Feed)) :
    coming (bench.follow answer).2 = answer.2.toList := by
  rcases answer with ⟨switch, _ | call⟩ <;> rfl

/-- The call that an operation asks for comes before the return of the action. -/
theorem coming_begun (bench : Bench α) (answer : Switch Feed × Option (Call Feed))
    (action : Action α) :
    coming ((bench.follow answer).2 ++ [Task.ret action .done]) = answer.2.toList := by
  rw [coming_append, coming_follow]
  exact List.append_nil _

/-- Behind the call that an operation asks for there is no other one. -/
theorem later_begun (bench : Bench α) (answer : Switch Feed × Option (Call Feed))
    (action : Action α) :
    coming ((bench.follow answer).2 ++ [Task.ret action .done]).tail = [] := by
  rcases answer with ⟨switch, _ | call⟩ <;> rfl

/-- Which link is looked up depends on the links alone. -/
theorem index_tapOf (bench : Bench α) (name : String) (react : Reaction (Action α)) :
    (bench.tapOf name react).2 =
      (bench.taps.findIdx? (·.name = name)).getD bench.taps.length := by
  unfold tapOf
  cases bench.taps.findIdx? (·.name = name) <;> rfl

/-- Looking up a scripted link changes no link that is there, and gives one that is there. -/
theorem taps_tapOf (bench : Bench α) (name : String) (react : Reaction (Action α)) :
    bench.taps.length ≤ (bench.tapOf name react).1.taps.length ∧
      (bench.tapOf name react).2 < (bench.tapOf name react).1.taps.length ∧
      (bench.tapOf name react).1.switch = bench.switch ∧
      ∀ index, (bench.tapOf name react).1.ordersAt index = bench.ordersAt index := by
  unfold tapOf
  split
  next index hindex =>
    exact ⟨Nat.le_refl _, (List.findIdx?_eq_some_iff_getElem.1 hindex).1, rfl, fun _ => rfl⟩
  next =>
    refine ⟨by simp, by simp, rfl, fun index => ?_⟩
    simp only [ordersAt, List.getElem?_append]
    split
    next => rfl
    next hindex =>
      rw [List.getElem?_eq_none (Nat.le_of_not_lt hindex)]
      cases index - bench.taps.length <;> rfl

/-- Every action operates the switch once at most, and leaves the links as they are. -/
theorem turned_act (bench : Bench α) (action : Action α) :
    Turned (.act action) bench (perform (.act action) bench).1
      (perform (.act action) bench).2 := by
  cases action with
  | start | next | error | complete | request | cancel =>
      exact turned_of_silent rfl rfl rfl rfl rfl
  | order order =>
      refine turned_of_silent rfl rfl ?_ ?_ ?_ <;>
        cases hlink : bench.probe.link <;> simp [perform, begin, log, hlink] <;> rfl
  | emitted count =>
      exact turned_of_operate rfl rfl rfl rfl rfl (Nat.le_refl _) (fun _ h => by cases h)
        fun _ => rfl
  | bindInert =>
      let logged := bench.log (.called .bindInert)
      exact turned_of_operate rfl rfl rfl (coming_begun logged _ _) (later_begun logged _ _)
        (Nat.le_refl _) (fun _ h => by cases h) fun _ => rfl
  | bind name react =>
      let logged := bench.log (.called (.bind name react))
      obtain ⟨htaps, hindex, hswitch, horders⟩ := taps_tapOf logged name react
      have hturn : turnOf (.act (.bind name react)) bench =
          [.operation (.bind (.tap (logged.tapOf name react).2))] := by
        rw [index_tapOf, turnOf, index_tapOf]
        rfl
      refine turned_of_operate hturn rfl ?_ ?_ (later_begun (logged.tapOf name react).1 _ _)
        htaps ?_ horders
      · change ((logged.tapOf name react).1.switch.bind _).1 = _
        rw [hswitch]
        rfl
      · change coming (((logged.tapOf name react).1.follow ((logged.tapOf name react).1.switch.bind
          (.tap (logged.tapOf name react).2))).2 ++ [.ret _ .done]) = _
        rw [coming_begun, hswitch]
        rfl
      · rintro index ⟨⟩
        exact hindex

/-- A call is entered in the record of the link that it is made on, if that is a scripted one. -/
theorem turned_order (bench : Bench α) (feed : Feed) (order : Order) :
    Turned (.order feed order) bench (bench.call order feed).1 (bench.call order feed).2 := by
  have hcourse : ∀ {added : List (Task α)}, coming added = [] →
      turnOf (.order feed order) bench ++ (coming added).map .call =
        [.call (feed, order)] ++ bench.switch.course [] := fun hadded => by rw [hadded]; rfl
  cases feed with
  | inert =>
      exact {
        switch := rfl
        course := hcourse rfl
        later := rfl
        taps := Nat.le_refl _
        bound := fun _ hindex => absurd hindex List.not_mem_nil
        orders := fun _ _ => (List.append_nil _).symm }
  | tap index =>
      rcases htap : bench.taps[index]? with _ | tap
      · have hcall : bench.call order (.tap index) = (bench, []) := by simp only [call, htap]
        rw [hcall]
        exact {
          switch := rfl
          course := hcourse rfl
          later := rfl
          taps := Nat.le_refl _
          bound := fun _ hindex => absurd hindex List.not_mem_nil
          orders := fun hknown => absurd (hknown index order List.mem_cons_self)
            (Nat.not_lt.2 (List.getElem?_eq_none_iff.1 htap)) }
      · have hcall : bench.call order (.tap index) =
            ({ bench with taps := bench.taps.set index (tap.take order) }.log
              (.ordered tap.name order), (tap.answer order).map .act) := by
          simp only [call, htap]
        rw [hcall]
        exact {
          switch := rfl
          course := hcourse (coming_map_act _)
          later := by
            rw [← List.map_tail]
            exact coming_map_act _
          taps := by simp [log]
          bound := fun _ hindex => absurd hindex List.not_mem_nil
          orders := fun _ other => by
            obtain ⟨hlt, hget⟩ := List.getElem?_eq_some_iff.1 htap
            by_cases hother : index = other
            · subst hother
              simp [ordersAt, log, hlt, hget, turnOf, callsIn, Turn.call?, ordersTo]
            · simp [ordersAt, log, hother, turnOf, callsIn, Turn.call?, ordersTo] }

/-- What every task does with the switch and with the scripted links. -/
theorem turned_perform (task : Task α) (bench : Bench α) :
    Turned task bench (perform task bench).1 (perform task bench).2 := by
  cases task with
  | act action => exact turned_act bench action
  | ret action result => exact turned_of_silent rfl rfl rfl rfl rfl
  | signal delivery =>
      refine turned_of_silent rfl rfl ?_ rfl rfl
      have hopening : coming ((bench.probe.opening delivery).toList.map
          fun call => Task.demand (α := α) call.2) = [] := by
        cases bench.probe.opening delivery <;> rfl
      exact (coming_append _ _).trans (by rw [hopening, coming_map_act]; rfl)
  | demand order =>
      have hlater : coming (bench.follow (bench.switch.take order)).2.tail = [] := by
        cases h : (bench.switch.take order).2 <;> simp [follow, h, coming]
      cases order with
      | request amount | cancel =>
          exact turned_of_operate rfl rfl rfl (coming_follow _ _) hlater (Nat.le_refl _)
            (fun _ h => by cases h) fun _ => rfl
  | order feed order => exact turned_order bench feed order

/-! ## Runs -/

variable {start : Agenda (Bench α) (Task α)} {seen : List (Turn Feed)}

/-- What was seen of a fresh switch is the course of its operations but for the call that comes
next, and every scripted link has received the calls on it. -/
structure Followed (seen : List (Turn Feed)) (agenda : Agenda (Bench α) (Task α)) : Prop where
  course : seen ++ (coming agenda.todo).map .call = ({} : Switch Feed).course (operationsIn seen)
  switch : agenda.state.switch = ({} : Switch Feed).after (operationsIn seen)
  later : coming agenda.todo.tail = []
  bound : ∀ index, .tap index ∈ bound (operationsIn seen) → index < agenda.state.taps.length
  orders : ∀ index, agenda.state.ordersAt index = ordersTo (.tap index) (callsIn seen)

/-- Nothing was seen of a switch before the first action. -/
theorem followed_fresh (name : String) (initial : UInt64) (react : Reaction (Action α))
    (actions : List (Action α)) : Followed [] (fresh name initial react actions) where
  course := by rw [fresh, coming_map_act]; rfl
  switch := rfl
  later := by rw [fresh, ← List.map_tail]; exact coming_map_act _
  bound _ hindex := absurd hindex List.not_mem_nil
  orders _ := rfl

/-- Every task follows the course. -/
theorem followed_step {bench : Bench α} {task : Task α} {rest : List (Task α)}
    (h : Followed seen ⟨bench, task :: rest⟩) :
    Followed (seen ++ turnOf task bench)
      ⟨(perform task bench).1, (perform task bench).2 ++ rest⟩ := by
  have hturned := turned_perform task bench
  generalize perform task bench = performed at hturned ⊢
  obtain ⟨next, added⟩ := performed
  have hrest : coming rest = [] := h.later
  have hcoming : coming (task :: rest) = task.call?.toList := by
    rw [coming_cons, hrest, List.append_nil]
  have hcourse := h.course
  rw [hcoming] at hcourse
  refine ⟨?_, ?_, ?_, fun index hindex => ?_, fun index => ?_⟩
  · rw [coming_append, hrest, List.append_nil, List.append_assoc, hturned.course,
      ← List.append_assoc, hcourse, operationsIn_append, course_append, ← h.switch]
  · rw [operationsIn_append, after_append, ← h.switch]
    exact hturned.switch
  · rcases added with _ | ⟨first, added⟩
    · rcases rest with _ | ⟨second, rest⟩
      · rfl
      · rw [coming_cons] at hrest
        exact (List.append_eq_nil_iff.1 hrest).2
    · have hadded : coming added = [] := hturned.later
      refine (coming_append added rest).trans ?_
      rw [hadded, hrest]
      rfl
  · rw [operationsIn_append, Switch.bound, List.filterMap_append, List.mem_append] at hindex
    rcases hindex with hbefore | hnow
    · exact Nat.lt_of_lt_of_le (h.bound index hbefore) hturned.taps
    · exact hturned.bound index hnow
  · rw [callsIn_append, ordersTo_append, ← h.orders]
    refine hturned.orders (fun called order hcalled => h.bound called ?_) index
    -- a call that is made now is already part of the course
    have hmem : (.tap called, order) ∈ callsIn (seen ++ task.call?.toList.map .call) := by
      rw [callsIn_append, callsIn_map_call, ← callsIn_turnOf task bench]
      exact List.mem_append_right _ hcalled
    rw [hcourse, callsIn_course] at hmem
    exact (bound_of_mem_calls hmem).resolve_left (by simp)

/-- Every run on the bench follows the course of its operations. -/
theorem followed_run (hstart : Followed [] start) (fuel : Nat) :
    Followed (Agenda.observe turnOf perform fuel start) (Agenda.run perform fuel start) :=
  Agenda.invariant_seen hstart (fun _ _ _ _ => followed_step) fuel

/-- At every moment of a run the turns of the switch are the course of its operations, the switch
is what they make of it, and the scripted links have received the calls on them. -/
theorem turns_eq (name : String) (initial : UInt64) (react : Reaction (Action α))
    (actions : List (Action α)) (fuel : Nat) :
    let start := fresh name initial react actions
    let bench := (Agenda.run perform fuel start).state
    turns start fuel = ({} : Switch Feed).course (operationsIn (turns start fuel)) ∧
      bench.switch = ({} : Switch Feed).after (operationsIn (turns start fuel)) ∧
      ∀ index, bench.ordersAt index ++
          ordersTo (.tap index) (coming (Agenda.run perform fuel start).todo) =
        ordersTo (.tap index) (callsIn (turns start fuel)) := by
  intro start bench
  have h := followed_run (followed_fresh name initial react actions) fuel
  have hoperations : operationsIn (turns start fuel) =
      operationsIn (Agenda.observe turnOf perform fuel start) := by
    rw [turns, operationsIn_append, operationsIn_map_call, List.append_nil]
  refine ⟨?_, ?_, fun index => ?_⟩
  · rw [hoperations, ← h.course]
    rfl
  · rw [hoperations]
    exact h.switch
  · rw [turns, callsIn_append, callsIn_map_call, ordersTo_append]
    exact congrArg (· ++ _) (h.orders index)

end Bench

end Backpressure.Switch
