import Backpressure.Proofs.Resumption.Carryover

/-!
# Resumptions that were cancelled

A cancellation from below reaches the current feed of a resumption, and every feed that is bound
later is cancelled at once. So no feed is asked for anything any more. Signals take another way:
they are forwarded without a look at the switch, and a failure of the first feed is still put
before the recovery. What the feeds signal after the cancellation, and what comes of a failed
recovery, is heard below as if nobody had cancelled.

Main results:

- Theorem `Moves.cancelled` and theorem `Moves.cancels` show that only cancellations are issued from
  a cancellation on.
- Theorem `cancelled_resumption_forwards` states what is still heard when the first feed fails after
  the cancellation.
-/

namespace Backpressure.Network

variable {α : Type} {index : Nat} {recover : Failure → Recovery α (Action α)}
  {turns more before after : List (Turn α)} {standing next : Standing α}

/-! ## What is issued -/

/-- The call that a switch asks for is what a resumption issues. -/
theorem calls_ofEffect? (answer : Switch Link × Option (Call Link)) (unit : Resumption Link) :
    Turn.calls ((unit.call (α := α) answer).2.filterMap Turn.ofEffect?) = answer.2.toList := by
  rcases answer with ⟨switch, _ | ⟨link, order⟩⟩ <;> rfl

/-- A call on a resumption that was cancelled issues nothing. -/
theorem calls_take_of_cancelled {unit : Resumption Link} (h : unit.switch.cancelled = true)
    (order : Order) :
    Turn.calls (α := α) ((unit.take order).2.filterMap Turn.ofEffect?) = [] := by
  rw [Resumption.take, calls_ofEffect?]
  cases order <;> simp [Switch.take, Switch.request, Switch.cancel, h]

/-- A cancellation issues nothing but itself. -/
theorem calls_cancel (unit : Resumption Link) :
    ∀ call ∈ Turn.calls (α := α) ((unit.take .cancel).2.filterMap Turn.ofEffect?),
      call.2 = .cancel := by
  intro call hcall
  rw [Resumption.take, calls_ofEffect?, Switch.take, Switch.call_cancel] at hcall
  split at hcall
  · exact (List.not_mem_nil hcall).elim
  · obtain ⟨link, -, rfl⟩ := by simpa using hcall
    rfl

/-- A resumption that was cancelled stays so, and issues nothing but cancellations. -/
theorem Moves.cancelled (h : Moves index recover standing more next)
    (hcancelled : standing.unit.switch.cancelled = true) :
    next.unit.switch.cancelled = true ∧ ∀ call ∈ Turn.calls more, call.2 = .cancel := by
  have hnone : ∀ call ∈ Turn.calls ([] : List (Turn α)), call.2 = .cancel :=
    fun _ hcall => (List.not_mem_nil hcall).elim
  cases h with
  | hear delivery =>
      exact ⟨(congrArg Switch.cancelled (switch_hear (.switch index) delivery)).trans hcancelled,
        hnone⟩
  | @take unit history duties order poised =>
      refine ⟨Switch.cancelled_mono hcancelled order, ?_⟩
      rw [show Turn.calls (.taken order :: _) = _ from calls_take_of_cancelled hcancelled order]
      exact hnone
  | @bind unit history duties link poised =>
      have hbind : unit.switch.bind link = (unit.switch, some (link, .cancel)) := by
        rw [Switch.bind, if_pos hcancelled]
      rw [Resumption.bind, calls_ofEffect?, hbind]
      exact ⟨hcancelled, by simp⟩
  | count poised =>
      refine ⟨?_, hnone⟩
      show (Resumption.count _).switch.cancelled = true
      unfold Resumption.count
      split <;> exact hcancelled
  | _ => exact ⟨hcancelled, hnone⟩

/-- A move that takes a cancellation issues nothing but cancellations, and leaves the resumption
cancelled. -/
theorem Moves.cancels (h : Moves index recover standing more next)
    (hcancel : .taken .cancel ∈ more) :
    next.unit.switch.cancelled = true ∧ ∀ call ∈ Turn.calls more, call.2 = .cancel := by
  have hissued : ∀ effects : List (Effect α Link (Resumption.Work Link)),
      .taken .cancel ∉ effects.filterMap Turn.ofEffect? := by
    intro effects hmem
    obtain ⟨effect, -, heffect⟩ := List.mem_filterMap.1 hmem
    cases effect <;> cases heffect
  cases h with
  | @take unit history duties order poised =>
      obtain rfl : order = .cancel := by
        rcases List.mem_cons.1 hcancel with heq | hlater
        · exact (Turn.taken.inj heq).symm
        · exact (hissued _ hlater).elim
      refine ⟨?_, calls_cancel unit⟩
      show (unit.switch.cancel).1.cancelled = true
      unfold Switch.cancel
      split
      next hdone => exact hdone
      next => rfl
  | bind link poised => exact (hissued _ hcancel).elim
  | hear delivery => simp at hcancel
  | count poised => simp at hcancel
  | consult failure => simp at hcancel
  | _ => exact (List.not_mem_nil hcancel).elim

/-- From a cancellation on a course issues nothing but cancellations. -/
theorem cancelled_of_course (hcourse : Course index recover turns standing)
    (hcancel : turns = before ++ .taken .cancel :: after) :
    standing.unit.switch.cancelled = true ∧ ∀ call ∈ Turn.calls after, call.2 = .cancel := by
  induction hcourse generalizing after with
  | start => exact absurd hcancel.symm (List.append_ne_nil_of_right_ne_nil _ (List.cons_ne_nil _ _))
  | @step turns more standing next earlier moves ih =>
      have hnow : ∀ front, more = front ++ .taken .cancel :: after →
          next.unit.switch.cancelled = true ∧ ∀ call ∈ Turn.calls after, call.2 = .cancel := by
        rintro front rfl
        obtain ⟨hnext, hcalls⟩ := moves.cancels (by simp)
        refine ⟨hnext, fun call hcall => hcalls call ?_⟩
        rw [Turn.calls_append]
        exact List.mem_append_right _ hcall
      -- Either the move takes the cancellation, or the cancellation came before it.
      obtain ⟨front, -, hmore⟩ | ⟨back, hturns, hback⟩ := List.append_eq_append_iff.1 hcancel
      · exact hnow front hmore
      · rcases back with _ | ⟨turn, back⟩
        · exact hnow [] hback.symm
        · rw [List.cons_append, List.cons.injEq] at hback
          obtain ⟨rfl, rfl⟩ := hback
          obtain ⟨hstanding, hcalls⟩ := ih hturns
          obtain ⟨hnext, hlater⟩ := moves.cancelled hstanding
          refine ⟨hnext, fun call hcall => ?_⟩
          rw [Turn.calls_append] at hcall
          exact (List.mem_append.1 hcall).elim (hcalls call) (hlater call)

/-! ## What is still heard -/

/-- When the first feed fails after its receiver has cancelled, the receiver hears of it all the
same: first the items that the feed goes on to signal, and then both failures as one when the
recovery fails too, and otherwise whatever the second feed signals. All that the cancellation
changes is that no feed is asked for anything any more, and that every feed that is bound is
cancelled. -/
theorem cancelled_resumption_forwards (name : String) (tag : Option String)
    (recover : Failure → Recovery α (Action α)) (up : Publisher α (Action α)) (initial : UInt64)
    (react : Reaction (Action α)) (script : List (Action α)) {fuel : Nat}
    (hserial : ∀ moment < fuel, Serial 0 0
      (Agenda.run perform moment (opened name tag recover up initial react script)))
    {before after : List (Turn α)}
    (hcancel : turnsIn 0
        (Agenda.record perform fuel (opened name tag recover up initial react script)) =
      before ++ .taken .cancel :: after)
    {xs ys : List α} {failure : Failure} {second : List (Signal α)}
    (hfeeds : Feeds recover (announced (xs ++ ys) ++ [.error failure]) second)
    (hbefore : Turn.signals before = announced xs)
    (hafter : Turn.signals after = ys.map .next ++ .error failure :: second)
    (hidle : ∀ duty ∈ dutiesOf 0 0
        (Agenda.run perform fuel (opened name tag recover up initial react script)).todo,
      duty.isSilent = true) :
    let final := Agenda.run perform fuel (opened name tag recover up initial react script)
    (∀ call ∈ Turn.calls after, call.2 = .cancel) ∧
      (∀ other, (recover failure).decision.failure? = some other →
        historyOf final.state 0 = announced (xs ++ ys) ++ [.error (.composite [failure, other])]) ∧
      ((recover failure).decision.failure? = none →
        historyOf final.state 0 = announced (xs ++ ys) ++ second.tail) := by
  obtain ⟨standing, hcourse, hhistory, hduties, -⟩ :=
    course_of_opened name tag recover up initial react script hserial
  have hheard : Turn.signals (turnsIn 0
      (Agenda.record perform fuel (opened name tag recover up initial react script))) =
      announced (xs ++ ys) ++ [.error failure] ++ second := by
    calc Turn.signals (turnsIn 0
          (Agenda.record perform fuel (opened name tag recover up initial react script)))
        = Turn.signals before ++ Turn.signals after := by
          rw [hcancel, Turn.signals_append]
          rfl
      _ = announced xs ++ (ys.map .next ++ .error failure :: second) := by
          rw [hbefore, hafter]
      _ = announced (xs ++ ys) ++ [.error failure] ++ second := by
          simp [announced]
  rw [hduties] at hidle
  obtain ⟨-, hwhole⟩ := (progress_of_course hcourse hfeeds hheard).told
  obtain ⟨hforwarded, -⟩ := hwhole hidle
  refine ⟨(cancelled_of_course hcourse hcancel).2, fun other hother => ?_, fun hnone => ?_⟩
  · rw [hhistory, hforwarded, forwarded_ending hother]
  · rw [hhistory, hforwarded, forwarded_resuming hnone]

/-- A feed that signals an item after it was cancelled and fails then, and a recovery that gives a
failing publisher. -/
theorem cancelled_resumption_forwards_second_failure :
    let recover : Failure → Recovery Nat (Action Nat) := fun _ => .to (.fail (.stream "again"))
    let script : List (Action Nat) :=
      [.next "up" 1, .order "probe" .cancel, .next "up" 2, .error "up" (.stream "down")]
    let start := opened "probe" none recover (.hand "up") 2 (fun _ _ => []) script
    let before : List (Turn Nat) :=
      [.heard (.subscribe (.hand 0)), .taken (.request 2), .issued (.hand 0) (.request 2),
        .heard (.next 1), .returned]
    let after : List (Turn Nat) :=
      [.issued (.hand 0) .cancel, .heard (.next 2), .returned, .heard (.error (.stream "down")),
        .consulted (.stream "down"), .heard (.subscribe .inert), .issued .inert .cancel,
        .heard (.error (.stream "again"))]
    let second : List (Signal Nat) := [.subscribe, .error (.stream "again")]
    let final := Agenda.run perform 50 start
    ((∀ moment < 50, Serial 0 0 (Agenda.run perform moment start)) ∧
      turnsIn 0 (Agenda.record perform 50 start) = before ++ .taken .cancel :: after ∧
      Feeds recover (announced ([1] ++ [2]) ++ [.error (.stream "down")]) second ∧
      Turn.signals before = announced [1] ∧
      Turn.signals after = [2].map .next ++ .error (.stream "down") :: second ∧
      ∀ duty ∈ dutiesOf 0 0 final.todo, duty.isSilent = true) ∧
    (∀ call ∈ Turn.calls after, call.2 = .cancel) ∧
      (∀ other, (recover (.stream "down")).decision.failure? = some other →
        historyOf final.state 0 =
          announced ([1] ++ [2]) ++ [.error (.composite [.stream "down", other])]) ∧
      ((recover (.stream "down")).decision.failure? = none →
        historyOf final.state 0 = announced ([1] ++ [2]) ++ second.tail) := by
  intro recover script start before after second final
  have hserial : ∀ moment < 50, Serial 0 0 (Agenda.run perform moment start) := by
    decide +kernel
  have hcancel : turnsIn 0 (Agenda.record perform 50 start) =
      before ++ .taken .cancel :: after := by
    show turnsIn 0 (Agenda.record perform 50 start) = _
    cbv
  have hfeeds : Feeds recover (announced ([1] ++ [2]) ++ [.error (.stream "down")]) second := {
    starts := .inr ⟨[1, 2], [.error (.stream "down")], rfl, .inr (.inr ⟨_, rfl⟩)⟩
    resumes := .inr ⟨⟨[], [.error (.stream "again")], rfl, .inr (.inr ⟨_, rfl⟩)⟩, .stream "down",
      .fail (.stream "again"), rfl, rfl⟩ }
  have hnone : dutiesOf 0 0 final.todo = [] := by decide +kernel
  have hidle : ∀ duty ∈ dutiesOf 0 0 final.todo, duty.isSilent = true := by
    rw [hnone]
    exact fun _ hduty => (List.not_mem_nil hduty).elim
  exact ⟨⟨hserial, hcancel, hfeeds, rfl, rfl, hidle⟩,
    cancelled_resumption_forwards "probe" none recover (.hand "up") 2 (fun _ _ => []) script hserial
      hcancel hfeeds rfl rfl hidle⟩

/-- A subscriber of a resumption cancels, and hears the failure of the feed together with that of
the recovery after that. -/
theorem composite_heard_after_cancellation :
    ∃ final : Network Nat,
      Agenda.Settles perform {} [
        .act (.subscribe "probe" (.resume none (fun _ => .nothing) (.hand "up")) 3 fun _ _ => []),
        .act (.order "probe" .cancel), .act (.error "up" (.stream "down"))] final ∧
      historyOf final 0 = [.subscribe, .error (.composite [.stream "down",
        .protocol "recovery function produced no publisher"])] :=
  ⟨_, ⟨30, rfl⟩, rfl⟩

end Backpressure.Network
