/-!
# Agendas

Calls that call each other back are run as data. An agenda is a state together with the tasks still
to be performed, the next one first. Performing a task changes the state and may put further tasks
in front of the rest, so that the tasks behind a call are exactly what remains to be done when
the call returns.

Main results:

- Theorem `run_add` shows that a run may be cut anywhere.
- Theorem `invariant_run` lifts what every task preserves to every point of a run.
- Theorem `settles_append` and theorem `settles_unique` show that tasks settle one after the other,
  and that they settle in one way only.
-/

namespace Backpressure

/-- A state with the tasks still to be performed, the next one first. -/
structure Agenda (σ τ : Type) where
  state : σ
  todo : List τ

namespace Agenda

variable {σ τ : Type}

/-- How a task is performed: the state after it, and the tasks it puts in front of the rest. -/
abbrev Performer (σ τ : Type) := τ → σ → σ × List τ

/-- Nothing is left to be done. -/
def isIdle (agenda : Agenda σ τ) : Bool := agenda.todo.isEmpty

/-- Perform the next task; an idle agenda stays as it is. -/
def step (perform : Performer σ τ) : Agenda σ τ → Agenda σ τ
  | ⟨state, []⟩ => ⟨state, []⟩
  | ⟨state, task :: rest⟩ =>
      let (next, added) := perform task state
      ⟨next, added ++ rest⟩

/-- Perform tasks until the agenda is idle, at most as many as the fuel allows. -/
def run (perform : Performer σ τ) : Nat → Agenda σ τ → Agenda σ τ
  | 0, agenda => agenda
  | fuel + 1, agenda => if agenda.isIdle then agenda else run perform fuel (agenda.step perform)

/-- The tasks lead from one state to another with nothing left to be done. -/
def Settles (perform : Performer σ τ) (state : σ) (tasks : List τ) (final : σ) : Prop :=
  ∃ fuel, run perform fuel ⟨state, tasks⟩ = ⟨final, []⟩

/-! ## Runs -/

/-- Performing the next task keeps the others behind what it adds. -/
@[simp] theorem step_cons (perform : Performer σ τ) (state : σ) (task : τ) (rest : List τ) :
    step perform ⟨state, task :: rest⟩ =
      ⟨(perform task state).1, (perform task state).2 ++ rest⟩ := rfl

/-- An idle agenda does not move. -/
@[simp] theorem run_idle (perform : Performer σ τ) (fuel : Nat) (state : σ) :
    run perform fuel ⟨state, []⟩ = ⟨state, []⟩ := by
  cases fuel <;> rfl

/-- A run with a task at hand performs it and goes on. -/
@[simp] theorem run_succ_cons (perform : Performer σ τ) (fuel : Nat) (state : σ) (task : τ)
    (rest : List τ) :
    run perform (fuel + 1) ⟨state, task :: rest⟩ =
      run perform fuel (step perform ⟨state, task :: rest⟩) := rfl

/-- A run may be cut anywhere. -/
theorem run_add (perform : Performer σ τ) (first second : Nat) (agenda : Agenda σ τ) :
    run perform (first + second) agenda = run perform second (run perform first agenda) := by
  induction first generalizing agenda with
  | zero => rw [Nat.zero_add, run]
  | succ first ih =>
      rcases agenda with ⟨state, _ | ⟨task, rest⟩⟩
      · rw [run_idle, run_idle, run_idle]
      · rw [Nat.succ_add, run_succ_cons, run_succ_cons, ih]

/-- What holds at the start and is kept by every task holds at every point of a run. -/
theorem invariant_run {perform : Performer σ τ} {invariant : Agenda σ τ → Prop}
    (hstep : ∀ agenda, invariant agenda → invariant (agenda.step perform))
    (fuel : Nat) {agenda : Agenda σ τ} (hstart : invariant agenda) :
    invariant (run perform fuel agenda) := by
  induction fuel generalizing agenda with
  | zero => exact hstart
  | succ fuel ih =>
      rw [run]
      split
      · exact hstart
      · exact ih (hstep agenda hstart)

/-- An idle agenda is settled. -/
theorem settles_nil (perform : Performer σ τ) (state : σ) : Settles perform state [] state :=
  ⟨0, rfl⟩

/-- The tasks settle when the next one is performed and what then remains settles. -/
theorem settles_cons {perform : Performer σ τ} {state final : σ} {task : τ} {rest : List τ}
    (h : Settles perform (perform task state).1 ((perform task state).2 ++ rest) final) :
    Settles perform state (task :: rest) final := by
  obtain ⟨fuel, hfuel⟩ := h
  exact ⟨fuel + 1, by rw [run_succ_cons, step_cons, hfuel]⟩

/-- As long as the tasks in front are not done, the tasks behind them are not touched. -/
theorem run_append {perform : Performer σ τ} {fuel : Nat} {state final : σ}
    {tasks left : List τ} (rest : List τ)
    (h : run perform fuel ⟨state, tasks⟩ = ⟨final, left⟩) :
    ∃ used, run perform used ⟨state, tasks ++ rest⟩ = ⟨final, left ++ rest⟩ := by
  induction fuel generalizing state tasks with
  | zero =>
      rw [run, Agenda.mk.injEq] at h
      obtain ⟨rfl, rfl⟩ := h
      exact ⟨0, rfl⟩
  | succ fuel ih =>
      rcases tasks with _ | ⟨task, tasks⟩
      · rw [run_idle, Agenda.mk.injEq] at h
        obtain ⟨rfl, rfl⟩ := h
        exact ⟨0, rfl⟩
      · rw [run_succ_cons, step_cons] at h
        obtain ⟨used, hused⟩ := ih h
        refine ⟨used + 1, ?_⟩
        rw [List.cons_append, run_succ_cons, step_cons, ← List.append_assoc, hused]

/-- Tasks settle one after the other: the tasks in front are done before those behind them. -/
theorem settles_append {perform : Performer σ τ} {state middle final : σ}
    {first second : List τ} (hfirst : Settles perform state first middle)
    (hsecond : Settles perform middle second final) :
    Settles perform state (first ++ second) final := by
  obtain ⟨fuel, hfuel⟩ := hfirst
  obtain ⟨more, hmore⟩ := hsecond
  obtain ⟨used, hused⟩ := run_append second hfuel
  exact ⟨used + more, by rw [run_add, hused, List.nil_append, hmore]⟩

/-- Tasks settle in one way only. -/
theorem settles_unique {perform : Performer σ τ} {state first second : σ} {tasks : List τ}
    (hfirst : Settles perform state tasks first) (hsecond : Settles perform state tasks second) :
    first = second := by
  obtain ⟨fuel, hfuel⟩ := hfirst
  obtain ⟨more, hmore⟩ := hsecond
  have hleft := run_add perform fuel more ⟨state, tasks⟩
  have hright := run_add perform more fuel ⟨state, tasks⟩
  rw [hfuel, run_idle] at hleft
  rw [hmore, run_idle, Nat.add_comm, hleft] at hright
  exact congrArg Agenda.state hright

end Agenda

end Backpressure
