import Backpressure.Proofs.Switch.Course

/-!
# Cancelling a switch

The first cancellation of a switch lets its current feed go and cancels it. From then on the switch
asks for nothing any more, and every feed that is still bound is cancelled by its binding. This is
so although the feeds may operate the switch from inside the calls on them: a feed that is cancelled
may cancel again, ask for items or bind another feed before the call returns.

Main results:

- Theorem `course_of_cancelled` states the course of a cancelled switch.
- Theorem `course_after_cancel` states the course of a switch from its first cancellation on.
- Theorem `cancelled_for_good` states what this means for every run on the bench, and for the feeds.
-/

namespace Backpressure.Switch

variable {ι : Type} {switch : Switch ι} {operations : List (Operation ι)}
  {first second : List (Turn ι)}

/-! ## Courses after a cancellation -/

/-- What a cancelled switch does about an operation: it cancels the feed that is bound. -/
def closing (operation : Operation ι) : List (Turn ι) :=
  .operation operation :: operation.bound?.toList.map fun link => .call (link, .cancel)

/-- The course of a cancelled switch. -/
theorem course_of_cancelled (hcancelled : switch.cancelled = true)
    (operations : List (Operation ι)) : switch.course operations = operations.flatMap closing := by
  induction operations generalizing switch with
  | nil => rfl
  | cons operation operations ih =>
      have hlater := @ih (switch.operate operation).1
        (by rw [operate_of_cancelled hcancelled]; exact hcancelled)
      rw [course, hlater, operate_of_cancelled hcancelled, List.flatMap_cons]
      cases operation <;> rfl

/-- From the first cancellation on: the feed that was bound last is cancelled, and then every feed
that is bound. -/
theorem course_after_cancel (hkeeps : .operation .cancel ∉ first)
    (h : ({} : Switch ι).course operations = first ++ .operation .cancel :: second) :
    second = (bound (operationsIn first)).getLast?.toList.map (fun link => .call (link, .cancel)) ++
      (operationsIn second).flatMap closing := by
  obtain ⟨-, -, hsecond⟩ := course_split h
  rw [after_fresh (isCancel_of_not_mem hkeeps)] at hsecond
  refine hsecond.trans ?_
  rw [course_of_cancelled (by rfl)]
  cases (bound (operationsIn first)).getLast? <;> rfl

/-- The calls that a cancelled switch makes. -/
theorem callsIn_closing (operations : List (Operation ι)) :
    callsIn (operations.flatMap closing) =
      (bound operations).map fun link => (link, .cancel) := by
  induction operations with
  | nil => rfl
  | cons operation operations ih =>
      rw [List.flatMap_cons, callsIn_append, ih]
      cases operation <;> rfl

/-- From the first cancellation on all calls cancel: the feed that was bound last, and then every
feed that is bound. -/
theorem callsIn_after_cancel (hkeeps : .operation .cancel ∉ first)
    (h : ({} : Switch ι).course operations = first ++ .operation .cancel :: second) :
    callsIn second = ((bound (operationsIn first)).getLast?.toList ++
      bound (operationsIn second)).map fun link => (link, .cancel) := by
  refine (congrArg callsIn (course_after_cancel hkeeps h)).trans ?_
  rw [callsIn_append, callsIn_closing, List.map_append]
  cases (bound (operationsIn first)).getLast? <;> rfl

/-- How often a feed is cancelled when all of several feeds are. -/
theorem count_cancel [DecidableEq ι] (link : ι) (links : List ι) :
    (ordersTo link (links.map fun link => (link, .cancel))).count .cancel = links.count link := by
  induction links with
  | nil => rfl
  | cons other links ih =>
      rw [List.count_cons, ← ih]
      by_cases hsame : other = link <;> simp [ordersTo, hsame]

/-! ## Runs -/

namespace Bench

variable {α : Type}

/-- On every run, however the operations are nested, nothing is cancelled before the first
cancellation. That one lets go of the feed that was bound last and cancels it, right away and once,
and then every feed that is bound is cancelled by its binding. Nothing else is called any more, the
switch stays cancelled, and what is outstanding changes by deliveries alone. -/
theorem cancelled_for_good (name : String) (initial : UInt64) (react : Reaction (Action α))
    (actions : List (Action α)) (fuel : Nat) :
    let start := fresh name initial react actions
    let moment := Agenda.run perform fuel start
    let switch := moment.state.switch
    let turns := turns start fuel
    (∀ index, moment.state.ordersAt index ++ ordersTo (.tap index) (coming moment.todo) =
      ordersTo (.tap index) (callsIn turns)) ∧
    (.operation .cancel ∉ turns → switch.cancelled = false ∧
      switch.current = (bound (operationsIn turns)).getLast? ∧
      ∀ link, .call (link, .cancel) ∉ turns) ∧
    ∀ first second, turns = first ++ .operation .cancel :: second →
      .operation .cancel ∉ first →
        let current := (bound (operationsIn first)).getLast?
        let later := operationsIn second
        (∀ link, .call (link, .cancel) ∉ first) ∧
        second = current.toList.map (fun link => .call (link, .cancel)) ++
          later.flatMap closing ∧
        (∀ link amount, .call (link, .request amount) ∉ second) ∧
        (∀ link, (ordersTo link (callsIn turns)).count .cancel =
          (if current = some link then 1 else 0) + (bound later).count link) ∧
        switch = { current := none, cancelled := true, outstanding :=
          (deliveries later).foldl Demand.produced (owed (operationsIn first)) } := by
  intro start moment switch turns
  obtain ⟨hcourse, hswitch, horders⟩ := turns_eq name initial react actions fuel
  have huncalled : ∀ {first : List (Turn Feed)}, .operation .cancel ∉ first →
      first = ({} : Switch Feed).course (operationsIn first) →
      ∀ link, .call (link, .cancel) ∉ first := by
    intro first hkeeps hfirst link hcall
    rw [← mem_callsIn, hfirst, callsIn_course] at hcall
    exact cancel_not_mem_calls rfl (isCancel_of_not_mem hkeeps) link hcall
  refine ⟨horders, fun hkeeps => ?_, fun first second hsplit hkeeps => ?_⟩
  · have hnow : switch =
        { current := (bound (operationsIn turns)).getLast?
          outstanding := owed (operationsIn turns) } :=
      hswitch.trans (after_fresh (isCancel_of_not_mem hkeeps))
    exact ⟨by rw [hnow], by rw [hnow], huncalled hkeeps hcourse⟩
  · have hcut := hcourse.symm.trans hsplit
    obtain ⟨hoperations, hfirst, -⟩ := course_split hcut
    have hsecond := course_after_cancel hkeeps hcut
    intro current later
    have hnone := huncalled hkeeps hfirst
    have hcalls : callsIn second =
        (current.toList ++ bound later).map fun link => (link, .cancel) :=
      callsIn_after_cancel hkeeps hcut
    refine ⟨hnone, hsecond, fun link amount hcall => ?_, fun link => ?_, ?_⟩
    · rw [← mem_callsIn, hcalls, List.mem_map] at hcall
      obtain ⟨other, -, hother⟩ := hcall
      cases hother
    · have hall : callsIn turns = callsIn first ++ callsIn second := by
        rw [hsplit, callsIn_append]
        rfl
      have hbefore : (ordersTo link (callsIn first)).count .cancel = 0 := by
        rw [List.count_eq_zero, mem_ordersTo, mem_callsIn]
        exact hnone link
      rw [hall, ordersTo_append, List.count_append, hbefore, hcalls, count_cancel,
        List.count_append, Nat.zero_add]
      cases current <;> simp [List.count_singleton]
    · refine hswitch.trans ?_
      have hkept := isCancel_of_not_mem hkeeps
      rw [hoperations, after_append, after_fresh hkept]
      exact after_of_cancelled rfl later

/-- A feed cancels from inside the call that asks it for items, and when it is cancelled it cancels
again, asks for more and binds another feed. That one and a late one are cancelled by their
bindings, and the feed that was replaced before is not. -/
theorem cancelled_for_good_from_inside :
    let quiet : Reaction (Action Nat) := fun _ _ => []
    let react : Reaction (Action Nat) := fun kind _ =>
      if kind = .cancel then [.cancel, .request 5, .bind "other" quiet] else [.cancel]
    let actions : List (Action Nat) :=
      [.request 3, .bind "replaced" quiet, .bind "last" react, .bind "late" quiet, .emitted 1]
    let start := fresh "below" 0 react actions
    let bench := (Agenda.run perform 30 start).state
    (∃ first second, turns start 30 = first ++ .operation .cancel :: second ∧
      .operation .cancel ∉ first ∧ .operation .cancel ∈ second) ∧
    (List.range 4).map bench.ordersAt =
      [[.request 3], [.request 3, .cancel], [.cancel], [.cancel]] ∧
    bench.switch = { current := none, outstanding := 2, cancelled := true } := by
  intro quiet react actions start bench
  let first : List (Turn Feed) := [.operation (.request 3), .operation (.bind (.tap 0)),
    .call (.tap 0, .request 3), .operation (.bind (.tap 1)), .call (.tap 1, .request 3)]
  let second : List (Turn Feed) := [.call (.tap 1, .cancel), .operation .cancel,
    .operation (.request 5), .operation (.bind (.tap 2)), .call (.tap 2, .cancel),
    .operation (.bind (.tap 3)), .call (.tap 3, .cancel), .operation (.emitted 1)]
  have hturns : turns start 30 = first ++ .operation .cancel :: second := by
    decide +kernel
  have hkeeps : .operation .cancel ∉ first := by
    decide
  have hidle : coming (Agenda.run perform 30 start).todo = [] := by
    decide +kernel
  obtain ⟨horders, -, hafter⟩ := cancelled_for_good "below" 0 react actions 30
  obtain ⟨-, -, -, -, hswitch⟩ := hafter first second hturns hkeeps
  have hreceived : ∀ index, bench.ordersAt index =
      ordersTo (.tap index) (callsIn (first ++ .operation .cancel :: second)) := by
    intro index
    rw [← hturns, ← horders, hidle]
    exact (List.append_nil _).symm
  have hleft : (deliveries (operationsIn second)).foldl Demand.produced
      (owed (operationsIn first)) = 2 := by
    decide
  have hnow : bench.switch =
      { current := none, cancelled := true,
        outstanding := (deliveries (operationsIn second)).foldl Demand.produced
          (owed (operationsIn first)) } := by
    with_reducible exact hswitch
  rw [hleft] at hnow
  refine ⟨⟨first, second, hturns, hkeeps, by decide⟩, ?_, hnow⟩
  simp only [List.map_congr_left fun index _ => hreceived index]
  rfl

end Bench

end Backpressure.Switch
