import Backpressure.Agenda
import Mathlib.Data.List.Induction

/-!
# How an agenda goes on

An agenda leads to another one when performing tasks takes it there. Statements about calls are
stated in this form: the tasks that a call starts lead to a point where something is heard outside,
with tasks left that go on when the outside has returned, or they lead to nothing left at all.

Main results:

- Theorem `Leads.append` shows that the tasks behind those under consideration stay as they are.
- Theorem `Leads.settles` ends a chain of agendas in a settled one.
- Theorem `exists_settles` settles tasks that leave less and less to be done, and theorem
  `exists_leads_behind` finds the point at which the tasks in front are done.
- Theorem `exists_run_behind` finds the first such point of a run, when there is less and less to be
  done in front.
- Theorem `record_succ` adds one more task to the record of a run, and theorem `invariant_record`
  lifts what every task preserves to every point of a run together with its record.
- Theorem `invariant_seen` does the same for what is seen of a run from one place.
- Theorem `throughout_append` goes through a history entry by entry.
-/

namespace Backpressure

namespace Agenda

variable {σ τ : Type} {perform : Performer σ τ}

/-- Performing tasks takes one agenda to another. -/
def Leads (perform : Performer σ τ) (first last : Agenda σ τ) : Prop :=
  ∃ fuel, run perform fuel first = last

namespace Leads

/-- Performing nothing. -/
theorem refl (agenda : Agenda σ τ) : Leads perform agenda agenda := ⟨0, rfl⟩

/-- One stretch after another. -/
theorem trans {first second third : Agenda σ τ} (hfirst : Leads perform first second)
    (hsecond : Leads perform second third) : Leads perform first third := by
  obtain ⟨fuel, rfl⟩ := hfirst
  obtain ⟨more, rfl⟩ := hsecond
  exact ⟨fuel + more, run_add perform fuel more first⟩

/-- The next task, and what follows it. -/
theorem head {state next : σ} {task : τ} {added rest : List τ} {last : Agenda σ τ}
    (hperform : perform task state = (next, added))
    (h : Leads perform ⟨next, added ++ rest⟩ last) :
    Leads perform ⟨state, task :: rest⟩ last := by
  obtain ⟨fuel, rfl⟩ := h
  refine ⟨fuel + 1, ?_⟩
  rw [run_succ_cons, step_cons, hperform]

/-- The next task alone. -/
theorem single {state next : σ} {task : τ} {added : List τ}
    (hperform : perform task state = (next, added)) (rest : List τ) :
    Leads perform ⟨state, task :: rest⟩ ⟨next, added ++ rest⟩ :=
  head hperform (refl _)

/-- A task with nothing behind it. -/
theorem only {state next : σ} {task : τ} {added : List τ}
    (hperform : perform task state = (next, added)) :
    Leads perform ⟨state, [task]⟩ ⟨next, added⟩ := by
  have h := single hperform []
  rwa [List.append_nil] at h

/-- The next task, when it adds nothing. -/
theorem drop {state next : σ} {task : τ} (hperform : perform task state = (next, []))
    (rest : List τ) : Leads perform ⟨state, task :: rest⟩ ⟨next, rest⟩ :=
  single hperform rest

/-- The tasks behind those that are performed stay as they are. -/
theorem append {state next : σ} {tasks left : List τ} (rest : List τ)
    (h : Leads perform ⟨state, tasks⟩ ⟨next, left⟩) :
    Leads perform ⟨state, tasks ++ rest⟩ ⟨next, left ++ rest⟩ := by
  obtain ⟨fuel, hfuel⟩ := h
  exact run_append rest hfuel

/-- Tasks that are done, with all that follows from them, give way to the tasks behind them. -/
theorem allDone {state next : σ} {tasks rest : List τ} {last : Agenda σ τ}
    (htasks : Leads perform ⟨state, tasks⟩ ⟨next, []⟩)
    (h : Leads perform ⟨next, rest⟩ last) : Leads perform ⟨state, tasks ++ rest⟩ last :=
  (htasks.append rest).trans h

/-- One task that is done, with all that follows from it. -/
theorem done {state next : σ} {task : τ} {rest : List τ} {last : Agenda σ τ}
    (htask : Leads perform ⟨state, [task]⟩ ⟨next, []⟩)
    (h : Leads perform ⟨next, rest⟩ last) : Leads perform ⟨state, task :: rest⟩ last :=
  htask.allDone h

/-- A chain of agendas that ends with nothing left settles. -/
theorem settles {state final : σ} {tasks : List τ}
    (h : Leads perform ⟨state, tasks⟩ ⟨final, []⟩) : Settles perform state tasks final := h

end Leads

/-! ## Settling -/

/-- Tasks settle when there is less to be done after each of them, by a rank of two numbers, the
first of which counts for more. -/
theorem exists_settles {invariant : Agenda σ τ → Prop} {rank : Agenda σ τ → Nat × Nat}
    (hstep : ∀ state task rest, invariant ⟨state, task :: rest⟩ →
      invariant ⟨(perform task state).1, (perform task state).2 ++ rest⟩ ∧
        Prod.Lex (· < ·) (· < ·)
          (rank ⟨(perform task state).1, (perform task state).2 ++ rest⟩)
          (rank ⟨state, task :: rest⟩))
    {agenda : Agenda σ τ} (h : invariant agenda) :
    ∃ final, Settles perform agenda.state agenda.todo final := by
  have hwell := InvImage.wf rank (Prod.lex Nat.lt_wfRel Nat.lt_wfRel).wf
  induction agenda using hwell.induction with
  | _ agenda ih =>
      rcases agenda with ⟨state, _ | ⟨task, rest⟩⟩
      · exact ⟨state, settles_nil perform state⟩
      · obtain ⟨hnext, hless⟩ := hstep state task rest h
        obtain ⟨final, hsettles⟩ := ih _ hless hnext
        exact ⟨final, settles_cons hsettles⟩

/-- On their way to rest, the tasks in front give way to the tasks behind them. -/
theorem exists_leads_behind {state final : σ} {first rest : List τ}
    (h : Settles perform state (first ++ rest) final) :
    ∃ middle, Leads perform ⟨state, first ++ rest⟩ ⟨middle, rest⟩ := by
  obtain ⟨fuel, hfuel⟩ := h
  induction fuel generalizing state first with
  | zero =>
      rw [run, Agenda.mk.injEq, List.append_eq_nil_iff] at hfuel
      obtain ⟨rfl, rfl, rfl⟩ := hfuel
      exact ⟨state, .refl _⟩
  | succ fuel ih =>
      rcases first with _ | ⟨task, first⟩
      · exact ⟨state, .refl _⟩
      · rw [List.cons_append, run_succ_cons, step_cons, ← List.append_assoc] at hfuel
        obtain ⟨middle, hmiddle⟩ := ih hfuel
        rw [List.append_assoc] at hmiddle
        exact ⟨middle, .head rfl hmiddle⟩

/-! ## Records -/

/-- The tasks that are performed within the fuel, each with the tasks it added. -/
def record (perform : Performer σ τ) : Nat → Agenda σ τ → List (τ × List τ)
  | 0, _ => []
  | _ + 1, ⟨_, []⟩ => []
  | fuel + 1, ⟨state, task :: rest⟩ =>
      (task, (perform task state).2) :: record perform fuel (step perform ⟨state, task :: rest⟩)

/-- One more step of a run. -/
theorem run_succ (fuel : Nat) (agenda : Agenda σ τ) :
    run perform (fuel + 1) agenda = (run perform fuel agenda).step perform := by
  rw [run_add]
  rcases run perform fuel agenda with ⟨state, _ | ⟨task, rest⟩⟩ <;> rfl

/-- A run that has come to rest performs nothing more. -/
theorem record_succ_idle {fuel : Nat} {agenda : Agenda σ τ} {state : σ}
    (h : run perform fuel agenda = ⟨state, []⟩) :
    record perform (fuel + 1) agenda = record perform fuel agenda := by
  induction fuel generalizing agenda with
  | zero =>
      obtain rfl : agenda = ⟨state, []⟩ := h
      rfl
  | succ fuel ih =>
      rcases agenda with ⟨start, _ | ⟨task, rest⟩⟩
      · rfl
      · rw [run_succ_cons] at h
        rw [record, ih h, record]

/-- The record of a run grows by the next task. -/
theorem record_succ {fuel : Nat} {agenda : Agenda σ τ} {state : σ} {task : τ} {rest : List τ}
    (h : run perform fuel agenda = ⟨state, task :: rest⟩) :
    record perform (fuel + 1) agenda =
      record perform fuel agenda ++ [(task, (perform task state).2)] := by
  induction fuel generalizing agenda with
  | zero =>
      obtain rfl : agenda = ⟨state, task :: rest⟩ := h
      rfl
  | succ fuel ih =>
      rcases agenda with ⟨start, _ | ⟨first, later⟩⟩
      · rw [run_idle] at h
        injection h with _ htodo
        exact absurd htodo (List.cons_ne_nil task rest).symm
      · rw [run_succ_cons] at h
        rw [record, ih h, record, List.cons_append]

/-- What holds at the start and is kept by every task holds at every point of a run, together with
what was performed so far. A condition on the points of the run before may be used. -/
theorem invariant_record {invariant : List (τ × List τ) → Agenda σ τ → Prop}
    {condition : Agenda σ τ → Prop} {agenda : Agenda σ τ} (hstart : invariant [] agenda)
    (hstep : ∀ past state task rest, condition ⟨state, task :: rest⟩ →
      invariant past ⟨state, task :: rest⟩ →
      invariant (past ++ [(task, (perform task state).2)])
        ⟨(perform task state).1, (perform task state).2 ++ rest⟩)
    {fuel : Nat} (hcondition : ∀ moment < fuel, condition (run perform moment agenda)) :
    invariant (record perform fuel agenda) (run perform fuel agenda) := by
  induction fuel with
  | zero => exact hstart
  | succ fuel ih =>
      have hnow := hcondition fuel (Nat.lt_succ_self fuel)
      have hbefore := ih fun moment hmoment => hcondition moment (Nat.lt_succ_of_lt hmoment)
      rw [run_succ]
      rcases hrun : run perform fuel agenda with ⟨state, _ | ⟨task, rest⟩⟩
      · rw [record_succ_idle hrun]
        rwa [hrun] at hbefore
      · rw [record_succ hrun]
        rw [hrun] at hbefore hnow
        exact hstep _ _ _ _ hnow hbefore

/-! ## Stretches of a run -/

/-- On a run, tasks in front of others give way to them when there is less to be done in front after
each of their tasks, by a rank of two numbers, the first of which counts for more. The others are
then all that is left, for the first time. -/
theorem exists_run_behind {agenda : Agenda σ τ} {rest : List τ} {invariant : Agenda σ τ → Prop}
    {rank : Agenda σ τ → Nat × Nat}
    (hstep : ∀ fuel state task front,
      run perform fuel agenda = ⟨state, task :: front ++ rest⟩ →
      (∀ earlier ≤ fuel, (run perform earlier agenda).todo ≠ rest) →
      invariant ⟨state, task :: front⟩ →
      invariant ⟨(perform task state).1, (perform task state).2 ++ front⟩ ∧
        Prod.Lex (· < ·) (· < ·)
          (rank ⟨(perform task state).1, (perform task state).2 ++ front⟩)
          (rank ⟨state, task :: front⟩))
    {front : List τ} (hfront : agenda.todo = front ++ rest)
    (h : invariant ⟨agenda.state, front⟩) :
    ∃ fuel final, run perform fuel agenda = ⟨final, rest⟩ ∧ invariant ⟨final, []⟩ ∧
      ∀ earlier < fuel, (run perform earlier agenda).todo ≠ rest := by
  have hwell := InvImage.wf rank (Prod.lex Nat.lt_wfRel Nat.lt_wfRel).wf
  suffices hrun : ∀ (current : Agenda σ τ) (fuel : Nat),
      run perform fuel agenda = ⟨current.state, current.todo ++ rest⟩ →
      (∀ earlier < fuel, (run perform earlier agenda).todo ≠ rest) → invariant current →
      ∃ fuel final, run perform fuel agenda = ⟨final, rest⟩ ∧ invariant ⟨final, []⟩ ∧
        ∀ earlier < fuel, (run perform earlier agenda).todo ≠ rest by
    exact hrun ⟨agenda.state, front⟩ 0 (by rw [← hfront]; rfl) (fun _ hearlier => by omega) h
  intro current
  induction current using hwell.induction with
  | _ current ih =>
      intro fuel hcurrent hbefore hinvariant
      rcases current with ⟨state, _ | ⟨task, left⟩⟩
      · exact ⟨fuel, state, hcurrent, hinvariant, hbefore⟩
      · have hunder : ∀ earlier ≤ fuel, (run perform earlier agenda).todo ≠ rest := by
          intro earlier hearlier
          rcases Nat.lt_or_eq_of_le hearlier with hlt | rfl
          · exact hbefore earlier hlt
          · rw [hcurrent]
            exact mt List.append_left_eq_self.1 (List.cons_ne_nil task left)
        obtain ⟨hnext, hless⟩ := hstep fuel state task left hcurrent hunder hinvariant
        refine ih _ hless (fuel + 1) ?_ (fun earlier hearlier => ?_) hnext
        · rw [run_succ, hcurrent, List.append_assoc]
          rfl
        · exact hunder earlier (Nat.le_of_lt_succ hearlier)

/-! ## Views -/

variable {ε : Type} {see : τ → σ → List ε}

/-- What is seen of a run, when each task shows something in the state in which it is performed. -/
def observe (see : τ → σ → List ε) (perform : Performer σ τ) : Nat → Agenda σ τ → List ε
  | 0, _ => []
  | _ + 1, ⟨_, []⟩ => []
  | fuel + 1, ⟨state, task :: rest⟩ =>
      see task state ++ observe see perform fuel (step perform ⟨state, task :: rest⟩)

/-- A run that has come to rest shows nothing more. -/
theorem observe_succ_idle {fuel : Nat} {agenda : Agenda σ τ} {state : σ}
    (h : run perform fuel agenda = ⟨state, []⟩) :
    observe see perform (fuel + 1) agenda = observe see perform fuel agenda := by
  induction fuel generalizing agenda with
  | zero =>
      obtain rfl : agenda = ⟨state, []⟩ := h
      rfl
  | succ fuel ih =>
      rcases agenda with ⟨start, _ | ⟨task, rest⟩⟩
      · rfl
      · rw [run_succ_cons] at h
        rw [observe, ih h, observe]

/-- What is seen of a run grows by what the next task shows. -/
theorem observe_succ {fuel : Nat} {agenda : Agenda σ τ} {state : σ} {task : τ} {rest : List τ}
    (h : run perform fuel agenda = ⟨state, task :: rest⟩) :
    observe see perform (fuel + 1) agenda = observe see perform fuel agenda ++ see task state := by
  induction fuel generalizing agenda with
  | zero =>
      obtain rfl : agenda = ⟨state, task :: rest⟩ := h
      rw [observe, observe, observe, List.append_nil, List.nil_append]
  | succ fuel ih =>
      rcases agenda with ⟨start, _ | ⟨first, later⟩⟩
      · rw [run_idle] at h
        injection h with _ htodo
        exact absurd htodo (List.cons_ne_nil task rest).symm
      · rw [run_succ_cons] at h
        rw [observe, ih h, observe, List.append_assoc]

/-- What is seen of two stretches of a run. -/
theorem observe_add (first second : Nat) (agenda : Agenda σ τ) :
    observe see perform (first + second) agenda =
      observe see perform first agenda ++
        observe see perform second (run perform first agenda) := by
  induction second with
  | zero => rw [Nat.add_zero, observe, List.append_nil]
  | succ second ih =>
      rcases hrun : run perform (first + second) agenda with ⟨state, _ | ⟨task, rest⟩⟩
      · have hsecond : run perform second (run perform first agenda) = ⟨state, []⟩ := by
          rw [← run_add, hrun]
        rw [← Nat.add_assoc, observe_succ_idle hrun, observe_succ_idle hsecond, ih]
      · have hsecond : run perform second (run perform first agenda) = ⟨state, task :: rest⟩ := by
          rw [← run_add, hrun]
        rw [← Nat.add_assoc, observe_succ hrun, observe_succ hsecond, ih, List.append_assoc]

/-- What was seen of a run stays seen. -/
theorem observe_prefix {earlier later : Nat} (h : earlier ≤ later) (agenda : Agenda σ τ) :
    observe see perform earlier agenda <+: observe see perform later agenda := by
  induction h with
  | refl => exact List.prefix_rfl
  | @step later _ ih =>
      refine ih.trans ?_
      rcases hrun : run perform later agenda with ⟨state, _ | ⟨task, rest⟩⟩
      · exact (observe_succ_idle hrun).symm ▸ List.prefix_rfl
      · exact (observe_succ hrun).symm ▸ List.prefix_append _ _

/-- What holds at the start and is kept by every task holds at every point of a run, together with
what was seen so far. -/
theorem invariant_seen {invariant : List ε → Agenda σ τ → Prop} {agenda : Agenda σ τ}
    (hstart : invariant [] agenda)
    (hstep : ∀ seen state task rest, invariant seen ⟨state, task :: rest⟩ →
      invariant (seen ++ see task state)
        ⟨(perform task state).1, (perform task state).2 ++ rest⟩) (fuel : Nat) :
    invariant (observe see perform fuel agenda) (run perform fuel agenda) := by
  induction fuel with
  | zero => exact hstart
  | succ fuel ih =>
      rw [run_succ]
      rcases hrun : run perform fuel agenda with ⟨state, _ | ⟨task, rest⟩⟩
      · rw [observe_succ_idle hrun]
        rwa [hrun] at ih
      · rw [observe_succ hrun]
        rw [hrun] at ih
        exact hstep _ _ _ _ ih

/-- The same for what the tasks keep of the state alone. -/
theorem invariant_observe {invariant : List ε → σ → Prop} {agenda : Agenda σ τ}
    (hstart : invariant [] agenda.state)
    (hstep : ∀ seen state task, invariant seen state →
      invariant (seen ++ see task state) (perform task state).1) (fuel : Nat) :
    invariant (observe see perform fuel agenda) (run perform fuel agenda).state := by
  let lifted : List ε → Agenda σ τ → Prop := fun seen agenda => invariant seen agenda.state
  have hlifted : lifted (observe see perform fuel agenda) (run perform fuel agenda) :=
    invariant_seen hstart (fun seen state task _ => hstep seen state task) fuel
  exact hlifted

end Agenda

/-! ## Histories -/

section

variable {ε : Type} {P : List ε → ε → Prop}

/-- Each entry of a history stands in a relation to the entries before it. -/
def Throughout (P : List ε → ε → Prop) (history : List ε) : Prop :=
  ∀ before entry after, history = before ++ entry :: after → P before entry

/-- An empty history has no entries. -/
theorem throughout_nil : Throughout P [] := fun before entry after h =>
  absurd h (List.append_ne_nil_of_right_ne_nil before (List.cons_ne_nil entry after)).symm

/-- The last entry of a history comes after all others. -/
theorem throughout_concat {history : List ε} {entry : ε} :
    Throughout P (history ++ [entry]) ↔ Throughout P history ∧ P history entry := by
  constructor
  · intro h
    refine ⟨fun before other after hsplit => ?_, h history entry [] rfl⟩
    exact h before other (after ++ [entry]) (by rw [hsplit, List.append_assoc]; rfl)
  · rintro ⟨hhistory, hentry⟩ before other after hsplit
    rcases List.eq_nil_or_concat after with rfl | ⟨middle, last, rfl⟩
    · obtain ⟨rfl, hsame⟩ := List.append_inj' hsplit rfl
      rw [← List.singleton_inj.1 hsame]
      exact hentry
    · rw [List.concat_eq_append, ← List.cons_append, ← List.append_assoc] at hsplit
      exact hhistory before other middle (List.append_inj' hsplit rfl).1

/-- The entries of a history are gone through from the first one on. -/
theorem throughout_append {first second : List ε} :
    Throughout P (first ++ second) ↔
      Throughout P first ∧ Throughout (fun before => P (first ++ before)) second := by
  induction second using List.reverseRecOn with
  | nil => simp [throughout_nil]
  | append_singleton second entry ih =>
      rw [← List.append_assoc, throughout_concat, ih, throughout_concat, and_assoc]

/-- Going through a history from the first entry on decides a decidable relation. -/
instance decidableThroughout [∀ before entry, Decidable (P before entry)] (history : List ε) :
    Decidable (Throughout P history) :=
  decidable_of_iff (∀ place, (h : place < history.length) → P (history.take place) history[place])
    ⟨fun h before entry after hsplit => by
        subst hsplit
        simpa using h before.length (by simp),
      fun h place hlt => h _ _ (history.drop (place + 1)) (by simp)⟩

end

/-! ## Pasts -/

namespace Agenda

variable {σ τ : Type} {perform : Performer σ τ}

/-- The tasks that are performed within the fuel. -/
def past (perform : Performer σ τ) (fuel : Nat) (agenda : Agenda σ τ) : List τ :=
  (record perform fuel agenda).map Prod.fst

/-- A run that has come to rest performs nothing more. -/
theorem past_succ_idle {fuel : Nat} {agenda : Agenda σ τ} {state : σ}
    (h : run perform fuel agenda = ⟨state, []⟩) :
    past perform (fuel + 1) agenda = past perform fuel agenda := by
  rw [past, record_succ_idle h, past]

/-- The past of a run grows by the next task. -/
theorem past_succ {fuel : Nat} {agenda : Agenda σ τ} {state : σ} {task : τ} {rest : List τ}
    (h : run perform fuel agenda = ⟨state, task :: rest⟩) :
    past perform (fuel + 1) agenda = past perform fuel agenda ++ [task] := by
  rw [past, record_succ h, List.map_append]
  rfl

end Agenda

end Backpressure
