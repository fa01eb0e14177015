import Backpressure.Proofs.Resumption.Projection
import Mathlib.Data.List.Permutation

/-!
# What a resumption forwards

A resumption forwards all that its first feed signals, except a failure of it. That one is put
before the recovery, once, and either the second feed takes the place of the first one, or the
receiver hears of both failures. The invariant of a course is how far it has come, together with
what the receiver is still to be told.

Main results:

- Theorem `progress_of_course` finds the progress of every course.
- Theorem `resumption_forwards` states what the receiver of a resumption has heard at every moment
  of a run.
-/

namespace Backpressure

variable {α : Type}

/-- A subscription and items, as a publisher signals them before its end. -/
def announced (xs : List α) : List (Signal α) := .subscribe :: xs.map .next

/-- In front of the last signal of a well-formed history nothing has ended yet. -/
theorem wellFormed_concat {front : List (Signal α)} {signal : Signal α}
    (h : WellFormed (front ++ [signal])) :
    (front = [] ∧ signal = .subscribe) ∨
      ∃ xs, front = announced xs ∧ signal ≠ .subscribe := by
  obtain ⟨xs, ending, heq, hending⟩ := h
  have hlast : ∀ last : Signal α, last ≠ .subscribe →
      front ++ [signal] = announced xs ++ [last] →
      ∃ xs, front = announced xs ∧ signal ≠ .subscribe := by
    intro last hne hsplit
    obtain ⟨hfront, hsignal⟩ := List.append_inj' hsplit rfl
    rw [List.singleton_inj] at hsignal
    exact ⟨xs, hfront, hsignal ▸ hne⟩
  rcases hending with rfl | rfl | ⟨failure, rfl⟩
  · rcases List.eq_nil_or_concat xs with rfl | ⟨ys, y, rfl⟩
    · have honly : front ++ [signal] = [] ++ [.subscribe] := heq
      obtain ⟨hfront, hsignal⟩ := List.append_inj' honly rfl
      exact .inl ⟨hfront, List.singleton_inj.1 hsignal⟩
    · refine .inr ?_
      rw [List.append_nil, List.concat_eq_append, List.map_append, ← List.cons_append] at heq
      obtain ⟨hfront, hsignal⟩ := List.append_inj' heq rfl
      exact ⟨ys, hfront, by rw [List.singleton_inj.1 hsignal]; exact fun h => nomatch h⟩
  · exact .inr (hlast .complete (fun h => nomatch h) heq)
  · exact .inr (hlast (.error failure) (fun h => nomatch h) heq)

/-- A subscription and items are a well-formed history. -/
theorem wellFormed_announced (xs : List α) : WellFormed (announced xs) :=
  ⟨xs, [], by rw [announced, List.append_nil], .inl rfl⟩

/-- The history in front of the last signal is empty or well-formed. -/
theorem wellFormed_of_concat {front : List (Signal α)} {signal : Signal α}
    (h : WellFormed (front ++ [signal])) : front = [] ∨ WellFormed front := by
  obtain ⟨hfront, -⟩ | ⟨xs, rfl, -⟩ := wellFormed_concat h
  · exact .inl hfront
  · exact .inr (wellFormed_announced xs)

/-- A subscription and items hold no failure. -/
theorem failure?_announced (xs : List α) : History.failure? (announced xs) = none := by
  refine List.findSome?_eq_none_iff.2 fun signal hsignal => ?_
  rcases List.mem_cons.1 hsignal with rfl | hitem
  · rfl
  · obtain ⟨x, -, rfl⟩ := List.mem_map.1 hitem
    rfl

/-- The failure that ends a history after items is its first one. -/
theorem failure?_announced_error (xs : List α) (failure : Failure) :
    History.failure? (announced xs ++ [.error failure]) = some failure := by
  rw [History.failure?, List.findSome?_append, ← History.failure?, failure?_announced]
  rfl

/-- What a recovery decides in the end. -/
def Recovery.decision {σ : Type} : Recovery α σ → Recovery α σ
  | .perform _ next => next.decision
  | recovery => recovery

namespace Network

/-! ## Feeds and what is forwarded -/

/-- What the receiver of a resumption is to hear when its feeds have signalled so much. A failure
of the first feed gives way to what the second feed signals after its subscription, or is held
together with the failure of the recovery as the two causes of one. -/
def forwarded (recover : Failure → Recovery α (Action α)) (first second : List (Signal α)) :
    List (Signal α) :=
  match first.getLast? with
  | some (.error failure) =>
      match (recover failure).decision.failure? with
      | some other => first.dropLast ++ [.error (.composite [failure, other])]
      | none => first.dropLast ++ second.tail
  | _ => first

/-- The feeds of a resumption are well-formed. The second one is there only after the first one has
failed and the recovery has given a publisher. -/
structure Feeds (recover : Failure → Recovery α (Action α)) (first second : List (Signal α)) :
    Prop where
  starts : first = [] ∨ WellFormed first
  resumes : second = [] ∨ WellFormed second ∧ ∃ failure publisher,
    first.getLast? = some (.error failure) ∧ (recover failure).decision = .to publisher

variable {index : Nat} {recover : Failure → Recovery α (Action α)} {first second : List (Signal α)}
  {turns : List (Turn α)} {standing : Standing α}

/-- The feeds before the latest signal of the first one. -/
theorem Feeds.before_first {signal : Signal α} (h : Feeds recover (first ++ [signal]) []) :
    Feeds recover first [] where
  starts := by
    rcases h.starts with hnil | hformed
    · exact absurd hnil (List.append_ne_nil_of_right_ne_nil _ (List.cons_ne_nil _ _))
    · exact wellFormed_of_concat hformed
  resumes := .inl rfl

/-- The feeds before the latest signal of the second one, which is its subscription exactly if it is
the first of them. -/
theorem Feeds.before_second {signal : Signal α} (h : Feeds recover first (second ++ [signal])) :
    Feeds recover first second ∧ (second = [] ↔ signal = .subscribe) ∧
      ∃ failure publisher, first.getLast? = some (.error failure) ∧
        (recover failure).decision = .to publisher := by
  rcases h.resumes with hnil | ⟨hformed, hresumed⟩
  · exact absurd hnil (List.append_ne_nil_of_right_ne_nil _ (List.cons_ne_nil _ _))
  · refine ⟨⟨h.starts, ?_⟩, ?_, hresumed⟩
    · exact (wellFormed_of_concat hformed).imp_right fun hbefore => ⟨hbefore, hresumed⟩
    · obtain ⟨rfl, rfl⟩ | ⟨xs, rfl, hne⟩ := wellFormed_concat hformed
      · exact ⟨fun _ => rfl, fun _ => rfl⟩
      · exact ⟨fun hnil => absurd hnil (List.cons_ne_nil _ _), fun hsignal => absurd hsignal hne⟩

/-- The latest signal is one of the first feed, or one of the second. -/
theorem signals_split {signals : List (Signal α)} {signal : Signal α}
    (hfeeds : Feeds recover first second) (h : signals ++ [signal] = first ++ second) :
    (∃ front, first = front ++ [signal] ∧ second = [] ∧ signals = front ++ [] ∧
        Feeds recover front []) ∨
      ∃ front, second = front ++ [signal] ∧ signals = first ++ front ∧
        Feeds recover first front ∧ (front = [] ↔ signal = .subscribe) ∧
        ∃ failure publisher, first.getLast? = some (.error failure) ∧
          (recover failure).decision = .to publisher := by
  rcases List.eq_nil_or_concat second with rfl | ⟨front, last, rfl⟩
  · rw [List.append_nil] at h
    subst h
    exact .inl ⟨signals, rfl, rfl, (List.append_nil _).symm, hfeeds.before_first⟩
  · rw [List.concat_eq_append, ← List.append_assoc] at h
    obtain ⟨hsignals, hlast⟩ := List.append_inj' h rfl
    rw [List.singleton_inj] at hlast
    subst hlast
    rw [List.concat_eq_append] at hfeeds ⊢
    exact .inr ⟨front, rfl, hsignals, hfeeds.before_second⟩

/-! ## Progress -/

/-- What the receiver is still to be told. -/
def untold (duties : List (Duty α)) : List (Signal α) := duties.filterMap Duty.told?

/-- Whether a duty concerns the recovery. -/
def Duty.asks : Duty α → Bool
  | .consult _ | .decide _ _ => true
  | .tell _ | .bind _ | .count => false

/-- How far a course has come. -/
inductive Progress (recover : Failure → Recovery α (Action α)) :
    List (Signal α) → List (Signal α) → List Failure → Standing α → Prop
  /-- The first feed has not failed. -/
  | starting {first : List (Signal α)} {standing : Standing α}
      (unresumed : standing.unit.resumed = false) (unfailed : History.failure? first = none)
      (calm : ∀ duty ∈ standing.duties, duty.asks = false)
      (told : standing.history ++ untold standing.duties = first) :
      Progress recover first [] [] standing
  /-- The recovery is to be asked about a failure. -/
  | asking {xs : List α} {failure : Failure} {unit : Resumption Link} {poised : Bool}
      (resumed : unit.resumed = true) :
      Progress recover (announced xs ++ [.error failure]) [] []
        ⟨unit, announced xs, [.consult failure], poised⟩
  /-- The recovery has not decided yet. -/
  | deciding {xs : List α} {failure : Failure} {recovery : Recovery α (Action α)}
      {unit : Resumption Link} {poised : Bool} (resumed : unit.resumed = true)
      (same : recovery.decision = (recover failure).decision) :
      Progress recover (announced xs ++ [.error failure]) [] [failure]
        ⟨unit, announced xs, [.decide failure recovery], poised⟩
  /-- The recovery has failed. -/
  | ending {xs : List α} {failure other : Failure} {standing : Standing α}
      (resumed : standing.unit.resumed = true)
      (fails : (recover failure).decision.failure? = some other)
      (calm : ∀ duty ∈ standing.duties, duty.asks = false)
      (told : standing.history ++ untold standing.duties =
        announced xs ++ [.error (.composite [failure, other])]) :
      Progress recover (announced xs ++ [.error failure]) [] [failure] standing
  /-- The recovery has given a publisher. -/
  | resuming {xs : List α} {failure : Failure} {second : List (Signal α)}
      {publisher : Publisher α (Action α)} {standing : Standing α}
      (resumed : standing.unit.resumed = true)
      (subscribes : (recover failure).decision = .to publisher)
      (calm : ∀ duty ∈ standing.duties, duty.asks = false)
      (told : standing.history ++ untold standing.duties = announced xs ++ second.tail) :
      Progress recover (announced xs ++ [.error failure]) second [failure] standing

variable {asked : List Failure} {unit changed : Resumption Link} {history : List (Signal α)}
  {duties : List (Duty α)} {duty : Duty α} {poised : Bool}

/-- A duty in front of others is told in front of them. -/
theorem untold_cons (duty : Duty α) (duties : List (Duty α)) :
    untold (duty :: duties) = duty.told?.toList ++ untold duties := by
  rw [untold, List.filterMap_cons]
  split
  next h => simp [h, untold]
  next signal h => simp [h, untold]

/-- A change of the switch is no progress. -/
theorem Progress.keep (h : Progress recover first second asked ⟨unit, history, duties, poised⟩)
    (hresumed : changed.resumed = unit.resumed) (poised : Bool) :
    Progress recover first second asked ⟨changed, history, duties, poised⟩ := by
  cases h with
  | starting unresumed unfailed calm told =>
      exact .starting (hresumed.trans unresumed) unfailed calm told
  | asking resumed => exact .asking (hresumed.trans resumed)
  | deciding resumed same => exact .deciding (hresumed.trans resumed) same
  | ending resumed fails calm told => exact .ending (hresumed.trans resumed) fails calm told
  | resuming resumed subscribes calm told =>
      exact .resuming (hresumed.trans resumed) subscribes calm told

/-- A duty that does not concern the recovery is done. -/
theorem Progress.done
    (h : Progress recover first second asked ⟨unit, history, duty :: duties, poised⟩)
    (hduty : duty.asks = false) (hresumed : changed.resumed = unit.resumed) (poised : Bool) :
    Progress recover first second asked
      ⟨changed, history ++ duty.told?.toList, duties, poised⟩ := by
  have htold : history ++ duty.told?.toList ++ untold duties = history ++ untold (duty :: duties) := by
    rw [untold_cons, List.append_assoc]
  cases h with
  | starting unresumed unfailed calm told =>
      exact .starting (hresumed.trans unresumed) unfailed
        (fun other hother => calm other (List.mem_cons_of_mem _ hother)) (htold.trans told)
  | asking resumed => exact Bool.noConfusion hduty
  | deciding resumed same => exact Bool.noConfusion hduty
  | ending resumed fails calm told =>
      exact .ending (hresumed.trans resumed) fails
        (fun other hother => calm other (List.mem_cons_of_mem _ hother)) (htold.trans told)
  | resuming resumed subscribes calm told =>
      exact .resuming (hresumed.trans resumed) subscribes
        (fun other hother => calm other (List.mem_cons_of_mem _ hother)) (htold.trans told)

/-- The recovery is asked. -/
theorem Progress.consult {failure : Failure}
    (h : Progress recover first second asked
      ⟨unit, history, .consult failure :: duties, poised⟩) (poised : Bool) :
    Progress recover first second (asked ++ [failure])
      ⟨unit, history, .decide failure (recover failure) :: duties, poised⟩ := by
  cases h with
  | starting unresumed unfailed calm told =>
      exact Bool.noConfusion (calm _ List.mem_cons_self)
  | asking resumed => exact .deciding resumed rfl
  | ending resumed fails calm told => exact Bool.noConfusion (calm _ List.mem_cons_self)
  | resuming resumed subscribes calm told => exact Bool.noConfusion (calm _ List.mem_cons_self)

/-- A recovery that is to be followed is the one for the failure of the first feed, and nothing else
is left to be done. -/
theorem Progress.of_decide {failure : Failure} {recovery : Recovery α (Action α)}
    (h : Progress recover first second asked
      ⟨unit, history, .decide failure recovery :: duties, poised⟩) :
    ∃ xs, first = announced xs ++ [.error failure] ∧ second = [] ∧ asked = [failure] ∧
      history = announced xs ∧ duties = [] ∧ unit.resumed = true ∧
      recovery.decision = (recover failure).decision := by
  cases h with
  | starting unresumed unfailed calm told =>
      exact Bool.noConfusion (calm _ List.mem_cons_self)
  | deciding resumed same => exact ⟨_, rfl, rfl, rfl, rfl, rfl, resumed, same⟩
  | ending resumed fails calm told => exact Bool.noConfusion (calm _ List.mem_cons_self)
  | resuming resumed subscribes calm told => exact Bool.noConfusion (calm _ List.mem_cons_self)

/-- A recovery that has failed is what it decides. -/
theorem decision_of_failure? {σ : Type} {recovery : Recovery α σ} {failure : Failure}
    (h : recovery.failure? = some failure) : recovery.decision = recovery := by
  cases recovery with
  | perform actions next => exact absurd h (by simp [Recovery.failure?])
  | _ => rfl

/-- A signal that is no failure leaves a history without failures. -/
theorem failure?_concat {signals : List (Signal α)} {signal : Signal α}
    (hsignals : History.failure? signals = none) (hsignal : signal.failure? = none) :
    History.failure? (signals ++ [signal]) = none := by
  rw [History.failure?, List.findSome?_append, ← History.failure?, hsignals, Option.none_or,
    List.findSome?_singleton, hsignal]

/-- The duties that a signal leaves. -/
def dutiesAfter (self : Link) (unit : Resumption Link) (delivery : Delivery α Link) :
    List (Duty α) :=
  (unit.hear self delivery).2.filterMap Duty.ofEffect?

/-- A signal that is not put before the recovery is forwarded, unless it is a second
subscription. -/
theorem hear_calm (self : Link) (unit : Resumption Link) {delivery : Delivery α Link}
    (h : unit.resumed = true ∨ delivery.signal.failure? = none) :
    (unit.hear self delivery).1 = unit ∧
      (∀ duty ∈ dutiesAfter self unit delivery, duty.asks = false) ∧
      (unit.resumed = false ∨ delivery.signal ≠ .subscribe →
        untold (dutiesAfter self unit delivery) = [delivery.signal]) ∧
      (unit.resumed = true → delivery.signal = .subscribe →
        untold (dutiesAfter self unit delivery) = []) := by
  cases delivery with
  | subscribe link =>
      cases hresumed : unit.resumed <;>
        simp [dutiesAfter, Resumption.hear, hresumed, Duty.ofEffect?, Duty.ofWork, Duty.asks,
          untold, Duty.told?, Delivery.signal]
  | next x =>
      simp [dutiesAfter, Resumption.hear, Duty.ofEffect?, Duty.ofWork, Duty.asks, untold,
        Duty.told?, Delivery.signal]
  | error failure =>
      have hresumed : unit.resumed = true := h.resolve_right (Option.some_ne_none failure)
      simp [dutiesAfter, Resumption.hear, hresumed, Duty.ofEffect?, Duty.asks, untold,
        Duty.told?, Delivery.signal]
  | complete =>
      simp [dutiesAfter, Resumption.hear, Duty.ofEffect?, Duty.asks, untold, Duty.told?,
        Delivery.signal]

/-- Nothing follows a failure of the first feed. -/
theorem Feeds.failure_last {xs : List α} {failure : Failure} {signal : Signal α}
    (h : Feeds recover (announced xs ++ [.error failure] ++ [signal]) []) : False := by
  have hformed := h.starts.resolve_left
    (List.append_ne_nil_of_right_ne_nil _ (List.cons_ne_nil _ _))
  obtain ⟨hnil, -⟩ | ⟨ys, heq, -⟩ := wellFormed_concat hformed
  · exact List.append_ne_nil_of_right_ne_nil _ (List.cons_ne_nil _ _) hnil
  · have hnone := failure?_announced ys
    rw [← heq, failure?_announced_error] at hnone
    cases hnone

/-- A history without failures does not end in one. -/
theorem getLast?_ne_error (h : History.failure? first = none) (failure : Failure) :
    first.getLast? ≠ some (.error failure) := by
  intro hlast
  obtain ⟨front, rfl⟩ := List.getLast?_eq_some_iff.1 hlast
  rw [History.failure?, List.findSome?_append, List.findSome?_singleton,
    Option.or_eq_none_iff] at h
  cases h.2

/-- As long as the first feed may signal, it has not failed and the resumption has not resumed. -/
theorem Progress.unresumed {signal : Signal α}
    (h : Progress recover first second asked standing)
    (hfeeds : Feeds recover (first ++ [signal]) []) :
    standing.unit.resumed = false ∧ History.failure? first = none := by
  cases h with
  | starting unresumed unfailed calm told => exact ⟨unresumed, unfailed⟩
  | asking resumed => exact hfeeds.failure_last.elim
  | deciding resumed same => exact hfeeds.failure_last.elim
  | ending resumed fails calm told => exact hfeeds.failure_last.elim
  | resuming resumed subscribes calm told => exact hfeeds.failure_last.elim

/-- After a failure of the first feed the resumption has resumed. -/
theorem Progress.resumed {failure : Failure} (h : Progress recover first second asked standing)
    (hfailure : first.getLast? = some (.error failure)) : standing.unit.resumed = true := by
  cases h with
  | starting unresumed unfailed calm told => exact (getLast?_ne_error unfailed _ hfailure).elim
  | asking resumed => exact resumed
  | deciding resumed same => exact resumed
  | ending resumed fails calm told => exact resumed
  | resuming resumed subscribes calm told => exact resumed

/-- The first feed signals. -/
theorem Progress.hear_first {delivery : Delivery α Link} (self : Link)
    (h : Progress recover first [] asked ⟨unit, history, [], false⟩)
    (hfeeds : Feeds recover (first ++ [delivery.signal]) []) :
    Progress recover (first ++ [delivery.signal]) [] asked
      ⟨(unit.hear self delivery).1, history, dutiesAfter self unit delivery, true⟩ := by
  have hformed : WellFormed (first ++ [delivery.signal]) := hfeeds.starts.resolve_left
    (List.append_ne_nil_of_right_ne_nil _ (List.cons_ne_nil _ _))
  generalize hduties : ([] : List (Duty α)) = duties at h
  cases h with
  | starting unresumed unfailed calm told =>
      subst hduties
      rw [show untold ([] : List (Duty α)) = [] from rfl, List.append_nil] at told
      obtain rfl : history = first := told
      have hunresumed : unit.resumed = false := unresumed
      cases hfailure : delivery.signal.failure? with
      | none =>
          obtain ⟨hunit, hcalm, htold, -⟩ := hear_calm self unit (.inr hfailure)
          rw [hunit]
          exact .starting unresumed (failure?_concat unfailed hfailure) hcalm
            (congrArg (history ++ ·) (htold (.inl hunresumed)))
      | some failure =>
          obtain rfl : delivery = .error failure := by
            cases delivery with
            | error other => exact congrArg Delivery.error (Option.some_inj.1 hfailure)
            | _ => cases hfailure
          have hhear : unit.hear (α := α) self (.error failure) =
              ({ unit with resumed := true }, [.go (.recover failure)]) := by
            simp [Resumption.hear, hunresumed]
          obtain ⟨-, hsignal⟩ | ⟨xs, rfl, -⟩ := wellFormed_concat hformed
          · cases hsignal
          · rw [dutiesAfter, hhear]
            exact .asking rfl
  | asking resumed => cases hduties
  | deciding resumed same => cases hduties
  | ending resumed fails calm told => exact hfeeds.failure_last.elim
  | resuming resumed subscribes calm told => exact hfeeds.failure_last.elim

/-- The second feed signals; its subscription is not forwarded. -/
theorem Progress.hear_second {delivery : Delivery α Link} (self : Link)
    (h : Progress recover first second asked ⟨unit, history, [], false⟩)
    (hstart : second = [] ↔ delivery.signal = .subscribe) {failure : Failure}
    {publisher : Publisher α (Action α)} (hfailure : first.getLast? = some (.error failure))
    (hdecision : (recover failure).decision = .to publisher) :
    Progress recover first (second ++ [delivery.signal]) asked
      ⟨(unit.hear self delivery).1, history, dutiesAfter self unit delivery, true⟩ := by
  generalize hduties : ([] : List (Duty α)) = duties at h
  cases h with
  | starting unresumed unfailed calm told => exact (getLast?_ne_error unfailed _ hfailure).elim
  | asking resumed => cases hduties
  | deciding resumed same => cases hduties
  | @ending xs other _ _ resumed fails calm told =>
      rw [List.getLast?_concat, Option.some_inj, Signal.error.injEq] at hfailure
      rw [hfailure, hdecision] at fails
      cases fails
  | resuming resumed subscribes calm told =>
      subst hduties
      rw [show untold ([] : List (Duty α)) = [] from rfl, List.append_nil] at told
      have hresumed : unit.resumed = true := resumed
      obtain ⟨hunit, hcalm, hitem, hopening⟩ := hear_calm self unit (.inl hresumed)
      rw [hunit]
      refine .resuming resumed subscribes hcalm ?_
      by_cases hsignal : delivery.signal = .subscribe
      · obtain rfl := hstart.2 hsignal
        show history ++ untold _ = _
        rw [hopening hresumed hsignal, List.append_nil]
        exact told
      · show history ++ untold _ = _
        rw [hitem (.inr hsignal), List.tail_append_of_ne_nil (fun hnil => hsignal (hstart.1 hnil)),
          ← List.append_assoc]
        exact congrArg (· ++ [delivery.signal]) told

/-! ## Courses -/

/-- A move that hears no feed goes on with the duties. -/
theorem Progress.move {more : List (Turn α)} {next : Standing α}
    (h : Progress recover first second asked standing)
    (hmoves : Moves index recover standing more next) (hquiet : Turn.signals more = []) :
    Progress recover first second (asked ++ Turn.consultations more) next := by
  cases hmoves with
  | other poised =>
      rw [show Turn.consultations ([] : List (Turn α)) = [] from rfl, List.append_nil]
      exact h.keep rfl poised
  | hear delivery => cases hquiet
  | @take unit history duties order poised =>
      rw [show Turn.consultations (.taken order :: _) = _ from Turn.consultations_ofEffect? _,
        List.append_nil]
      have htake : (unit.take (α := α) order).1.resumed = unit.resumed := rfl
      exact h.keep htake poised
  | tell delivery poised =>
      rw [show Turn.consultations ([] : List (Turn α)) = [] from rfl, List.append_nil]
      exact h.done rfl rfl poised
  | @bind unit history duties link poised =>
      rw [Turn.consultations_ofEffect?, List.append_nil]
      have hbind : (unit.bind (α := α) link).1.resumed = unit.resumed := rfl
      have hdone := h.done rfl hbind poised
      rwa [show (Duty.bind link : Duty α).told?.toList = [] from rfl, List.append_nil] at hdone
  | @count unit history duties poised =>
      rw [show Turn.consultations [(.returned : Turn α)] = [] from rfl, List.append_nil]
      have hcount : unit.count.resumed = unit.resumed := by
        unfold Resumption.count
        split <;> rfl
      have hdone := h.done rfl hcount poised
      rwa [show (Duty.count : Duty α).told?.toList = [] from rfl, List.append_nil] at hdone
  | consult failure => exact h.consult true
  | postpone poised =>
      obtain ⟨xs, rfl, rfl, rfl, rfl, rfl, hresumed, hsame⟩ := h.of_decide
      exact .deciding hresumed hsame
  | subscribe =>
      obtain ⟨xs, rfl, rfl, rfl, rfl, rfl, hresumed, hsame⟩ := h.of_decide
      exact .resuming hresumed hsame.symm (fun _ hduty => (List.not_mem_nil hduty).elim) rfl
  | fail hfails =>
      obtain ⟨xs, rfl, rfl, rfl, rfl, rfl, hresumed, hsame⟩ := h.of_decide
      rw [decision_of_failure? hfails] at hsame
      refine .ending hresumed (hsame ▸ hfails) ?_ rfl
      intro duty hduty
      rw [List.mem_singleton.1 hduty]
      rfl

/-- Every course makes progress: what its feeds have signalled says how far it has come. -/
theorem progress_of_course (hcourse : Course index recover turns standing)
    (hfeeds : Feeds recover first second) (hheard : Turn.signals turns = first ++ second) :
    Progress recover first second (Turn.consultations turns) standing := by
  induction hcourse generalizing first second with
  | start =>
      obtain ⟨rfl, rfl⟩ := List.append_eq_nil_iff.1 hheard.symm
      exact .starting rfl rfl (fun _ hduty => (List.not_mem_nil hduty).elim) rfl
  | @step turns more standing next before moves ih =>
      rw [Turn.signals_append] at hheard
      rw [Turn.consultations_append]
      obtain ⟨unit, history, delivery, rfl, rfl, rfl⟩ | hquiet := moves.hears_or_not
      · rw [show Turn.consultations [.heard delivery] = [] from rfl, List.append_nil]
        obtain ⟨front, rfl, rfl, hbefore, hfront⟩ |
          ⟨front, rfl, hbefore, hfront, hstart, failure, publisher, hfailure, hdecision⟩ :=
          signals_split hfeeds hheard
        · exact (ih hfront hbefore).hear_first (.switch index) hfeeds
        · exact (ih hfront hbefore).hear_second (.switch index) hstart hfailure hdecision
      · rw [hquiet, List.append_nil] at hheard
        exact (ih hfeeds hheard).move moves hquiet

/-! ## What has been forwarded -/

/-- What a failed recovery leaves to be forwarded. -/
theorem forwarded_ending {xs : List α} {failure other : Failure}
    (h : (recover failure).decision.failure? = some other) (second : List (Signal α)) :
    forwarded recover (announced xs ++ [.error failure]) second =
      announced xs ++ [.error (.composite [failure, other])] := by
  simp only [forwarded, List.getLast?_concat, h, List.dropLast_concat]

/-- What a recovery with a publisher leaves to be forwarded. -/
theorem forwarded_resuming {xs : List α} {failure : Failure}
    (h : (recover failure).decision.failure? = none) (second : List (Signal α)) :
    forwarded recover (announced xs ++ [.error failure]) second = announced xs ++ second.tail := by
  simp only [forwarded, List.getLast?_concat, h, List.dropLast_concat]

/-- A first feed that has not failed is forwarded unchanged. -/
theorem forwarded_starting (h : History.failure? first = none) (second : List (Signal α)) :
    forwarded recover first second = first := by
  unfold forwarded
  split
  next failure hlast => exact (getLast?_ne_error h failure hlast).elim
  next => rfl

/-- The items of a first feed that has failed are forwarded, whatever the recovery decides. -/
theorem announced_prefix_forwarded (xs : List α) (failure : Failure) (second : List (Signal α)) :
    announced xs <+: forwarded recover (announced xs ++ [.error failure]) second := by
  cases hother : (recover failure).decision.failure? with
  | some other =>
      rw [forwarded_ending hother]
      exact List.prefix_append _ _
  | none =>
      rw [forwarded_resuming hother]
      exact List.prefix_append _ _

/-- What is forwarded is well-formed, as the feeds are. -/
theorem wellFormed_forwarded (h : Feeds recover first second) :
    forwarded recover first second = [] ∨ WellFormed (forwarded recover first second) := by
  rcases h.starts with rfl | ⟨xs, ending, rfl, hending⟩
  · exact .inl rfl
  refine .inr ?_
  have hwhole : .subscribe :: (xs.map .next ++ ending) = announced xs ++ ending := rfl
  rw [hwhole]
  obtain rfl | rfl | ⟨failure, rfl⟩ := hending
  · rw [List.append_nil, forwarded_starting (failure?_announced xs)]
    exact wellFormed_announced xs
  · rw [forwarded_starting (failure?_concat (failure?_announced xs) rfl)]
    exact ⟨xs, [.complete], rfl, .inr (.inl rfl)⟩
  · cases hother : (recover failure).decision.failure? with
    | some other =>
        rw [forwarded_ending hother]
        exact ⟨xs, [.error (.composite [failure, other])], rfl, .inr (.inr ⟨_, rfl⟩)⟩
    | none =>
        rw [forwarded_resuming hother]
        obtain rfl | ⟨⟨ys, ending, rfl, hending⟩, -⟩ := h.resumes
        · rw [List.tail_nil, List.append_nil]
          exact wellFormed_announced xs
        · refine ⟨xs ++ ys, ending, ?_, hending⟩
          rw [List.tail_cons, announced, List.cons_append, List.map_append, List.append_assoc]

/-- Nothing is left to be told when only silent duties are left. -/
theorem untold_of_silent (h : ∀ duty ∈ duties, duty.isSilent = true) : untold duties = [] := by
  refine List.filterMap_eq_nil_iff.2 fun duty hduty => ?_
  have hsilent := h duty hduty
  cases duty with
  | tell delivery => cases hsilent
  | _ => rfl

/-- How far a course has come says what the receiver has heard and what the recovery was asked. -/
theorem Progress.told (h : Progress recover first second asked standing) :
    (standing.history <+: forwarded recover first second ∧
        asked <+: (History.failure? first).toList) ∧
      ((∀ duty ∈ standing.duties, duty.isSilent = true) →
        standing.history = forwarded recover first second ∧
          asked = (History.failure? first).toList) := by
  have hcalm : ∀ {told : List (Signal α)},
      standing.history ++ untold standing.duties = told →
      standing.history <+: told ∧
        ((∀ duty ∈ standing.duties, duty.isSilent = true) → standing.history = told) := by
    rintro told rfl
    refine ⟨List.prefix_append _ _, fun hsilent => ?_⟩
    rw [untold_of_silent hsilent, List.append_nil]
  cases h with
  | starting unresumed unfailed calm told =>
      obtain ⟨hlead, hwhole⟩ := hcalm told
      rw [forwarded_starting unfailed, unfailed]
      exact ⟨⟨hlead, List.prefix_rfl⟩, fun hsilent => ⟨hwhole hsilent, rfl⟩⟩
  | @asking xs failure unit poised resumed =>
      refine ⟨⟨announced_prefix_forwarded xs failure _, List.nil_prefix⟩, fun hsilent => ?_⟩
      cases hsilent _ List.mem_cons_self
  | @deciding xs failure recovery unit poised resumed same =>
      rw [failure?_announced_error]
      refine ⟨⟨announced_prefix_forwarded xs failure _, List.prefix_rfl⟩, fun hsilent => ?_⟩
      cases hsilent _ List.mem_cons_self
  | ending resumed fails calm told =>
      obtain ⟨hlead, hwhole⟩ := hcalm told
      rw [forwarded_ending fails, failure?_announced_error]
      exact ⟨⟨hlead, List.prefix_rfl⟩, fun hsilent => ⟨hwhole hsilent, rfl⟩⟩
  | resuming resumed subscribes calm told =>
      obtain ⟨hlead, hwhole⟩ := hcalm told
      rw [forwarded_resuming (by rw [subscribes]; rfl), failure?_announced_error]
      exact ⟨⟨hlead, List.prefix_rfl⟩, fun hsilent => ⟨hwhole hsilent, rfl⟩⟩

/-! ## The law -/

/-- As long as the feeds of a resumption signal serially, and each of them follows the grammar, its
receiver hears what it forwards, and its recovery is asked once about a failure of the first feed.
At any moment both may lack only what the resumption is still about to do. -/
theorem resumption_forwards (name : String) (tag : Option String)
    (recover : Failure → Recovery α (Action α)) (up : Publisher α (Action α)) (initial : UInt64)
    (react : Reaction (Action α)) (script : List (Action α)) {fuel : Nat}
    (hserial : ∀ moment < fuel, Serial 0 0
      (Agenda.run perform moment (opened name tag recover up initial react script)))
    {first second : List (Signal α)} (hfeeds : Feeds recover first second)
    (hheard : Turn.signals (turnsIn 0
        (Agenda.record perform fuel (opened name tag recover up initial react script))) =
      first ++ second) :
    let final := Agenda.run perform fuel (opened name tag recover up initial react script)
    let asked := Turn.consultations (turnsIn 0
      (Agenda.record perform fuel (opened name tag recover up initial react script)))
    (forwarded recover first second = [] ∨ WellFormed (forwarded recover first second)) ∧
      (historyOf final.state 0 <+: forwarded recover first second ∧
        asked <+: (History.failure? first).toList) ∧
      ((∀ duty ∈ dutiesOf 0 0 final.todo, duty.isSilent = true) →
        historyOf final.state 0 = forwarded recover first second ∧
          asked = (History.failure? first).toList) := by
  obtain ⟨standing, hcourse, hhistory, hduties, -⟩ :=
    course_of_opened name tag recover up initial react script hserial
  have htold := (progress_of_course hcourse hfeeds hheard).told
  rw [← hhistory, ← hduties] at htold
  exact ⟨wellFormed_forwarded hfeeds, htold⟩

/-- One item and a failure, a recovery that asks for one item more before it decides, and then one
item of a second publisher. -/
theorem resumption_forwards_of_two_feeds :
    let recover : Failure → Recovery Nat (Action Nat) := fun _ =>
      .perform [.order "probe" (.request 1)] (.to (.hand "second"))
    let react : Reaction (Action Nat) :=
      Rule.reaction [{ on := .next, actions := [.order "probe" (.request 1)] }]
    let script : List (Action Nat) :=
      [.next "first" 1, .error "first" (.stream "down"), .next "second" 2, .complete "second"]
    let start := opened "probe" none recover (.hand "first") 1 react script
    let first : List (Signal Nat) := [.subscribe, .next 1, .error (.stream "down")]
    let second : List (Signal Nat) := [.subscribe, .next 2, .complete]
    (∀ moment < 45, Serial 0 0 (Agenda.run perform moment start)) ∧
      Feeds recover first second ∧
      Turn.signals (turnsIn 0 (Agenda.record perform 45 start)) = first ++ second ∧
      historyOf (Agenda.run perform 45 start).state 0 = [.subscribe, .next 1, .next 2, .complete] ∧
      Turn.consultations (turnsIn 0 (Agenda.record perform 45 start)) = [.stream "down"] := by
  intro recover react script start first second
  have hserial : ∀ moment < 45, Serial 0 0 (Agenda.run perform moment start) := by
    decide +kernel
  have hfeeds : Feeds recover first second := {
    starts := .inr ⟨[1], [.error (.stream "down")], rfl, .inr (.inr ⟨_, rfl⟩)⟩
    resumes := .inr ⟨⟨[2], [.complete], rfl, .inr (.inl rfl)⟩, .stream "down", .hand "second", rfl,
      rfl⟩ }
  have hheard : Turn.signals (turnsIn 0 (Agenda.record perform 45 start)) = first ++ second := by
    cbv
  obtain ⟨-, -, hwhole⟩ := resumption_forwards "probe" none recover (.hand "first") 1 react script
    hserial hfeeds hheard
  have hnone : dutiesOf 0 0 (Agenda.run perform 45 start).todo = [] := by decide +kernel
  have hsilent : ∀ duty ∈ dutiesOf 0 0 (Agenda.run perform 45 start).todo,
      duty.isSilent = true := by
    rw [hnone]
    exact fun _ hduty => (List.not_mem_nil hduty).elim
  obtain ⟨hhistory, hasked⟩ := hwhole hsilent
  have hforwarded : forwarded recover first second =
      [.subscribe, .next 1, .next 2, .complete] := rfl
  have hfailure : (History.failure? first).toList = [.stream "down"] := rfl
  exact ⟨hserial, hfeeds, hheard, hhistory.trans hforwarded, hasked.trans hfailure⟩

end Network

end Backpressure
