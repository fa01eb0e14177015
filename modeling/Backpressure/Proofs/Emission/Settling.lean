import Backpressure.Proofs.Agenda
import Backpressure.Proofs.Emission.Places

/-!
# Subscriptions to supplies come to rest

Scripted subscribers may call their links whenever they hear something, and the links of others
too, so that emissions are nested in each other to any depth. A run comes to rest nevertheless. What
counts first is how much can still be signalled: the items that are left and the completions that
are due, with the signals that are on their way. A task that does not diminish it leaves less to be
done than there was, as a call weighs more than the work that it starts.

Main results:

- Theorem `Source.take_spends` and theorem `Source.go_spends` weigh the effects of a source.
- Theorem `Arranged.descends` weighs a task against the tasks it adds, and theorem
  `Arranged.settles` concludes that every run comes to rest.
-/

namespace Backpressure

namespace Source

variable {α ι : Type}

/-- How much a source can still signal. Each signal counts twice: before it is on its way, and until
it has been heard. -/
def worth (source : Source α) : Nat :=
  2 * source.items.toList.length + if source.done then 0 else 2

/-- How much there is to be done about work before it signals something or ends. -/
def Work.weight : Work → Nat
  | .finish => 1
  | .emit goal emitted => if goal = Demand.unbounded ∨ emitted ≠ goal then 2 else 3

/-- Work is never heavy. -/
theorem Work.weight_le (work : Work) : work.weight ≤ 3 := by
  cases work with
  | finish => decide
  | emit goal emitted =>
      simp only [Work.weight]
      split <;> decide

/-- A call spends nothing. -/
theorem take_spends (source : Source α) (order : Order) :
    (source.take (ι := ι) order).1.worth ≤ source.worth := by
  cases order with
  | cancel => exact Nat.le_add_right _ _
  | request amount =>
      simp only [take]
      split <;> exact Nat.le_refl _

/-- A turn of work spends a signal, or it leaves lighter work, or none. -/
theorem go_spends (source : Source α) (work : Work) :
    (∃ delivery later, (source.go (ι := ι) work).2 =
        .signal delivery :: (later : Option Work).toList.map .go ∧
      (source.go (ι := ι) work).1.worth + 2 = source.worth) ∨
    (source.go (ι := ι) work).1.worth = source.worth ∧
      ∃ later, (source.go (ι := ι) work).2 = (later : Option Work).toList.map .go ∧
        later.elim 0 Work.weight < work.weight := by
  cases work with
  | finish =>
      simp only [go]
      split
      · exact .inr ⟨rfl, none, rfl, by decide⟩
      next hactive => exact .inl ⟨.complete, none, rfl, by simp [worth, hactive]⟩
  | emit goal emitted =>
      simp only [go, emit]
      split
      next hready =>
        have hweight : (Work.emit goal emitted).weight = 2 := if_pos (by simpa using hready)
        rw [hweight]
        split
        · exact .inr ⟨rfl, none, rfl, by decide⟩
        · split
          · exact .inr ⟨rfl, some .finish, rfl, by decide⟩
          next hfront =>
            refine .inl ⟨.next _, some _, rfl, ?_⟩
            simp only [worth, Supply.toList_of_uncons? hfront, List.length_cons]
            omega
      next hmet =>
        have hweight : (Work.emit goal emitted).weight = 3 := if_neg (by simpa using hmet)
        rw [hweight]
        split
        · exact .inr ⟨rfl, none, rfl, by decide⟩
        next hraised =>
          have hready : (Work.emit source.requested emitted).weight = 2 :=
            if_pos (.inr (Ne.symm hraised))
          exact .inr ⟨rfl, some _, rfl, by rw [Option.elim_some, hready]; decide⟩

end Source

namespace Network

variable {α : Type}

/-- How much can still be signalled because of a task. -/
def Task.worth : Task α → Nat
  | .signal _ _ => 1
  | .subscribe (.items supply) _ => 2 * supply.toList.length + 4
  | .act (.subscribe _ (.items supply) _ _) => 2 * supply.toList.length + 5
  | _ => 0

/-- How much there is to be done about a task before something is signalled. -/
def Task.weight : Task α → Nat
  | .act (.order _ _) => 6
  | .order _ _ => 4
  | .source _ work => work.weight
  | .ret _ _ => 1
  | _ => 0

/-- How much all sources together can still signal. -/
def worth (network : Network α) : Nat := (network.sources.map (·.unit.worth)).sum

/-- How much is left to be done: what can still be signalled, and the tasks before that. -/
def rank (agenda : Agenda (Network α) (Task α)) : Nat × Nat :=
  (agenda.state.worth + (agenda.todo.map Task.worth).sum, (agenda.todo.map Task.weight).sum)

variable {network next : Network α} {task : Task α} {added rest : List (Task α)}
  {offered : List (Supply α)} {index : Nat} {stage : Stage (Source α)}

/-- Less can be signalled afterwards. -/
theorem rank_lt_of_worth
    (h : next.worth + (added.map Task.worth).sum < network.worth + task.worth) :
    Prod.Lex (· < ·) (· < ·) (rank ⟨next, added ++ rest⟩) (rank ⟨network, task :: rest⟩) := by
  refine .left _ _ ?_
  simp only [List.map_append, List.sum_append, List.map_cons, List.sum_cons]
  omega

/-- No more can be signalled afterwards, and there is less to be done before that. -/
theorem rank_lt_of_weight
    (hworth : next.worth + (added.map Task.worth).sum ≤ network.worth + task.worth)
    (hweight : (added.map Task.weight).sum < task.weight) :
    Prod.Lex (· < ·) (· < ·) (rank ⟨next, added ++ rest⟩) (rank ⟨network, task :: rest⟩) := by
  rw [Prod.lex_def]
  simp only [rank, List.map_append, List.sum_append, List.map_cons, List.sum_cons]
  omega

/-- The sources are worth the same as long as they do not change. -/
theorem worth_congr (hsources : next.sources = network.sources) : next.worth = network.worth := by
  rw [worth, hsources, worth]

/-- The sources are worth as much more or less as the one that changes. -/
theorem worth_set {unit : Source α} (hstage : network.sources[index]? = some stage)
    (hsources : next.sources = network.sources.set index { stage with unit := unit }) :
    next.worth + stage.unit.worth = network.worth + unit.worth := by
  rw [worth, hsources, worth]
  clear hsources
  generalize network.sources = sources at hstage ⊢
  induction sources generalizing index with
  | nil => cases hstage
  | cons first sources ih =>
      cases index with
      | zero =>
          cases hstage
          simp only [List.set_cons_zero, List.map_cons, List.sum_cons]
          omega
      | succ index =>
          have hrest := @ih index hstage
          simp only [List.set_cons_succ, List.map_cons, List.sum_cons]
          omega

/-- A call on a link signals nothing by itself. -/
theorem worth_of_call (hcall : task.isCall = true) : task.worth = 0 := by
  cases task with
  | act action => cases action <;> first | contradiction | rfl
  | ret | order => rfl
  | _ => contradiction

/-- Neither do any number of calls. -/
theorem sum_worth_of_calls (h : ∀ task ∈ added, task.isCall = true) :
    (added.map Task.worth).sum = 0 := by
  induction added with
  | nil => rfl
  | cons task added ih =>
      rw [List.map_cons, List.sum_cons, worth_of_call (h task List.mem_cons_self), Nat.zero_add]
      exact ih fun other hother => h other (List.mem_cons_of_mem task hother)

/-- A call weighs more than the task on its link, together with its return. -/
theorem weight_perform_call (hcall : task.isCall = true)
    (hunordered : ∀ link order, task ≠ .order link order) (network : Network α) :
    ((perform task network).2.map Task.weight).sum < task.weight := by
  cases task with
  | act action =>
      cases action with
      | order name order =>
          simp only [perform, begin]
          split <;> simp [Task.weight]
      | _ => contradiction
  | ret => exact Nat.one_pos
  | order link order => exact absurd rfl (hunordered link order)
  | _ => contradiction

/-- Every task leaves less to be done. -/
theorem Arranged.descends (h : Arranged offered ⟨network, task :: rest⟩) :
    Prod.Lex (· < ·) (· < ·)
      (rank ⟨(Network.perform task network).1, (Network.perform task network).2 ++ rest⟩)
      (rank ⟨network, task :: rest⟩) := by
  have hdoes := h.does
  have hlighter := fun hcall hunordered => @weight_perform_call _ task hcall hunordered network
  generalize (Network.perform task network).1 = next,
    (Network.perform task network).2 = added at hdoes hlighter ⊢
  cases hdoes with
  | call hcall hunordered hsources hprobes hadded horders =>
      refine rank_lt_of_weight ?_ (hlighter hcall hunordered)
      rw [worth_congr hsources, sum_worth_of_calls hadded]
      exact Nat.le_add_right _ _
  | enter hsources hprobes =>
      refine rank_lt_of_worth ?_
      rw [worth_congr hsources]
      simp [Task.worth]
  | subscribe hsources hprobes =>
      refine rank_lt_of_worth ?_
      simp [worth, hsources, Task.worth, Source.worth]
      omega
  | hear hprobe hsources hprobes hadded horders =>
      refine rank_lt_of_worth ?_
      rw [worth_congr hsources, sum_worth_of_calls hadded]
      exact Nat.lt_succ_self _
  | @take index order stage next hstage hsources hprobes =>
      have hworth := worth_set hstage hsources
      have hspent := stage.unit.take_spends (ι := Link) order
      obtain ⟨later, heffects⟩ := Source.effects_take (ι := Link) stage.unit order
      refine rank_lt_of_weight ?_ ?_ <;> rw [heffects]
      · cases later <;> simp [Task.worth, taskOf] <;> omega
      · rcases later with _ | work
        · simp [Task.weight]
        · simpa [Task.weight, taskOf] using Nat.lt_succ_of_le work.weight_le
  | @go index work stage next hstage hsources hprobes =>
      have hworth := worth_set hstage hsources
      rcases stage.unit.go_spends (ι := Link) work with
        ⟨delivery, later, heffects, hspent⟩ | ⟨hspent, later, heffects, hlight⟩
      · refine rank_lt_of_worth ?_
        rw [heffects]
        cases later <;> simp [Task.worth, taskOf] <;> omega
      · refine rank_lt_of_weight ?_ ?_ <;> rw [heffects]
        · cases later <;> simp [Task.worth, taskOf] <;> omega
        · cases later <;> simpa [Task.weight, taskOf] using hlight

/-- Everything comes to rest. -/
theorem Arranged.settles {agenda : Agenda (Network α) (Task α)} (h : Arranged offered agenda) :
    ∃ final, Agenda.Settles Network.perform agenda.state agenda.todo final :=
  @Agenda.exists_settles _ _ _ (Arranged offered) rank
    (fun _ _ _ hnow => ⟨hnow.perform, hnow.descends⟩) agenda h

end Network

end Backpressure
