import Backpressure.Proofs.Switch.Course

/-!
# Demand that is carried over

A subscriber asks a switch for items, and the feeds change behind its back. What it is still owed
goes to each new feed when that one is bound, and whatever it asks for later goes to the feed that
is the current one then. Nothing is lost and nothing is asked for twice, although a feed that is
asked for items may itself bind another one, or ask for more, before the call returns.

Main results:

- Theorem `calls_of_binding` states what a feed is asked for from its binding to the next one.
- Theorem `demand_is_carried_over` states this of every run on the bench that does not cancel,
  together with what is outstanding.
-/

namespace Backpressure.Switch

variable {ι : Type} {operations : List (Operation ι)} {first second : List (Turn ι)} {link : ι}

/-! ## Stretches of a course -/

/-- Operations up to the next binding do not bind. -/
theorem isBind_of_mem_takeWhile {operation : Operation ι}
    (h : operation ∈ operations.takeWhile fun operation => !operation.isBind) :
    operation.isBind = false := by
  have hmem := List.all_eq_true.1 (List.all_takeWhile (l := operations)) operation h
  simpa using hmem

/-- Before the first binding no feed is called. -/
theorem calls_before_binding (operations : List (Operation ι)) :
    callsIn ((({} : Switch ι).course operations).takeWhile fun turn => !turn.isBind) = [] := by
  rw [takeWhile_course, callsIn_course]
  refine List.eq_nil_iff_forall_not_mem.2 fun call hcall => ?_
  rcases bound_of_mem_calls hcall with hcurrent | hbound
  · cases hcurrent
  · obtain ⟨operation, hmem, hlink⟩ := List.mem_filterMap.1 hbound
    have hunbound := isBind_of_mem_takeWhile hmem
    cases operation with
    | bind link => cases hunbound
    | request amount | cancel | emitted count => cases hlink

/-- From its binding to the next one a feed is asked for what is outstanding when it is bound, and
then for every amount that is asked for, and no other feed is called. -/
theorem calls_of_binding (hkeeps : ∀ operation ∈ operations, operation.isCancel = false)
    (h : ({} : Switch ι).course operations = first ++ .operation (.bind link) :: second) :
    let during := second.takeWhile fun turn => !turn.isBind
    callsIn during =
      ((if owed (operationsIn first) = 0 then [] else [owed (operationsIn first)]) ++
        requests (operationsIn during)).map fun amount => (link, .request amount) := by
  intro during
  obtain ⟨hoperations, -, hsecond⟩ := course_split h
  rw [hoperations] at hkeeps
  rw [after_fresh fun operation hmem => hkeeps operation (List.mem_append_left _ hmem)] at hsecond
  generalize owed (operationsIn first) = amount at hsecond ⊢
  -- the feed is asked for what is outstanding, and is the current one from then on
  let bound : Switch ι := { current := some link, outstanding := amount }
  let later := (operationsIn second).takeWhile fun operation => !operation.isBind
  have hduring : during =
      (if amount = 0 then none else some (link, .request amount)).toList.map .call ++
        bound.course later := by
    rw [← takeWhile_course, ← takeWhile_calls_append]
    exact congrArg (List.takeWhile _) hsecond
  have hlater : ∀ operation ∈ later, operation.isCancel = false ∧ operation.isBind = false := by
    refine fun operation hmem => ⟨hkeeps operation ?_, isBind_of_mem_takeWhile hmem⟩
    exact List.mem_append_right _ (List.mem_cons_of_mem _ ((List.takeWhile_subset _) hmem))
  rw [hduring, callsIn_append, callsIn_map_call, callsIn_course, operationsIn_append,
    operationsIn_map_call, operationsIn_course, calls_of_bound rfl rfl hlater, List.nil_append,
    List.map_append]
  split <;> rfl

/-! ## Runs -/

namespace Bench

variable {α : Type}

/-- What was done with a switch at one moment stays done. -/
theorem operationsIn_turns_mono {earlier later : Nat} (h : earlier ≤ later)
    (start : Agenda (Bench α) (Task α)) :
    operationsIn (turns start earlier) <+: operationsIn (turns start later) := by
  simp only [turns, operationsIn_append, operationsIn_map_call, List.append_nil]
  exact (Agenda.observe_prefix h start).filterMap _

/-- On every run without a cancellation, however the operations are nested, each feed is asked for
what is outstanding when it is bound and for what is asked for until the next one is, and for
nothing else; a request for nothing is never made. What is outstanding is what was asked for less
what was delivered, and it is unbounded for ever once it is so. -/
theorem demand_is_carried_over (name : String) (initial : UInt64) (react : Reaction (Action α))
    (actions : List (Action α)) (fuel : Nat)
    (hkeeps : .operation .cancel ∉ turns (fresh name initial react actions) fuel) :
    let start := fresh name initial react actions
    let moment := fun fuel => Agenda.run perform fuel start
    let outstanding := fun fuel => (moment fuel).state.switch.outstanding
    let done := fun fuel => operationsIn (turns start fuel)
    (callsIn ((turns start fuel).takeWhile fun turn => !turn.isBind) = [] ∧
      ∀ first link second, turns start fuel = first ++ .operation (.bind link) :: second →
        let during := second.takeWhile fun turn => !turn.isBind
        callsIn during =
          ((if owed (operationsIn first) = 0 then [] else [owed (operationsIn first)]) ++
            requests (operationsIn during)).map fun amount => (link, .request amount)) ∧
    (∀ index, (moment fuel).state.ordersAt index ++
        ordersTo (.tap index) (coming (moment fuel).todo) =
      ordersTo (.tap index) (callsIn (turns start fuel))) ∧
    (∀ link, .call (link, .request 0) ∉ turns start fuel) ∧
    outstanding fuel = owed (done fuel) ∧
    (Covered (done fuel) → ¬ Unlimited (done fuel) →
      (outstanding fuel).toNat + delivered (done fuel) = requested (done fuel)) ∧
    ∀ earlier ≤ fuel,
      (Covered (done earlier) → Unlimited (done earlier) → outstanding fuel = Demand.unbounded) ∧
      (outstanding earlier = Demand.unbounded → outstanding fuel = Demand.unbounded) := by
  intro start moment outstanding done
  obtain ⟨hcourse, -, horders⟩ := turns_eq name initial react actions fuel
  have howed : ∀ earlier ≤ fuel, outstanding earlier = owed (done earlier) := by
    intro earlier hle
    obtain ⟨-, hswitch, -⟩ := turns_eq name initial react actions earlier
    refine (congrArg Switch.outstanding hswitch).trans ?_
    rw [after_fresh fun operation hmem => isCancel_of_not_mem hkeeps operation
      ((operationsIn_turns_mono hle start).subset hmem)]
  refine ⟨⟨?_, fun first link second hsplit => ?_⟩, horders, fun link hcall => ?_,
    howed fuel (Nat.le_refl fuel), fun hcovered hlimited => ?_, fun earlier hle => ?_⟩
  · rw [hcourse]
    exact calls_before_binding _
  · exact calls_of_binding (isCancel_of_not_mem hkeeps) (hcourse.symm.trans hsplit)
  · rw [← mem_callsIn, hcourse, callsIn_course] at hcall
    exact request_zero_not_mem_calls _ _ _ hcall
  · rw [howed fuel (Nat.le_refl fuel)]
    exact toNat_owed hcovered hlimited
  · obtain ⟨later, hlater⟩ := operationsIn_turns_mono hle start
    rw [howed fuel (Nat.le_refl fuel), howed earlier hle]
    have hdone : done fuel = done earlier ++ later := hlater.symm
    rw [hdone]
    exact ⟨fun hcovered hreached => owed_of_unlimited hcovered hreached later,
      fun howed => owed_append_of_unbounded howed later⟩

/-- The first feed asks for more from inside the call that issues what is outstanding to it, and
binds a second feed there. That one is bound with all that is outstanding by then, and the late
request reaches it alone. -/
theorem demand_is_carried_over_when_bound_from_inside :
    let react : Reaction (Action Nat) := fun _ number =>
      if number = 0 then [.request 2, .bind "second" fun _ _ => [], .request 0, .request 5] else []
    let actions : List (Action Nat) := [.request 3, .bind "first" react, .emitted 4]
    let start := fresh "below" 0 react actions
    let bench := (Agenda.run perform 30 start).state
    .operation .cancel ∉ turns start 30 ∧
      bench.ordersAt 0 = [.request 3, .request 2] ∧
      bench.ordersAt 1 = [.request 5, .request 5] ∧
      bench.switch.outstanding = 6 := by
  intro react actions start bench
  have hturns : turns start 30 = [.operation (.request 3), .operation (.bind (.tap 0)),
      .call (.tap 0, .request 3), .operation (.request 2), .call (.tap 0, .request 2),
      .operation (.bind (.tap 1)), .call (.tap 1, .request 5), .operation (.request 0),
      .operation (.request 5), .call (.tap 1, .request 5), .operation (.emitted 4)] := by
    decide +kernel
  have hkeeps : .operation .cancel ∉ turns start 30 := by
    rw [hturns]
    decide
  have hidle : coming (Agenda.run perform 30 start).todo = [] := by
    decide +kernel
  have hcovered : Covered (operationsIn (turns start 30)) := by
    rw [hturns]
    decide
  have hlimited : ¬ Unlimited (operationsIn (turns start 30)) := by
    rw [hturns]
    decide
  obtain ⟨-, horders, -, -, hbalance, -⟩ :=
    demand_is_carried_over "below" 0 react actions 30 hkeeps
  have hreceived : ∀ index, bench.ordersAt index =
      ordersTo (.tap index) (callsIn (turns start 30)) := by
    intro index
    rw [← horders, hidle]
    exact (List.append_nil _).symm
  have hleft : bench.switch.outstanding.toNat + delivered (operationsIn (turns start 30)) =
      requested (operationsIn (turns start 30)) := by
    with_reducible exact hbalance hcovered hlimited
  rw [hturns] at hreceived hleft
  exact ⟨hkeeps, hreceived 0, hreceived 1, UInt64.toNat.inj (Nat.add_right_cancel hleft)⟩

end Bench

end Backpressure.Switch
