import Backpressure.Proofs.Custody.Attendance

/-!
# What is asked of a cancelled link

A receiver that has cancelled its link asks for nothing on it any more. A window is the exception:
it hands its own link down before it asks its feed for everything, and asks even if it is cancelled
in between.

Main results:

- Theorem `Called.perform` follows the calls on a link from one task to the next.
- Theorem `cancelled_links_are_left_alone` states which calls are made on the link of a publisher
  driven by hand.
-/

namespace Backpressure.Network

variable {α : Type} {network next : Network α} {events : List (Voiced α)}
  {past todo rest added : List (Task α)} {voice : Option Speaker} {task : Task α}
  {receiver : Receiver} {link : Link}

/-! ## The calls on one link -/

/-- Nothing is asked for after a cancellation. -/
def Restrained (orders : List Order) : Prop :=
  orders.Pairwise fun earlier later => earlier = .cancel → later = .cancel

/-- Whether nothing is asked for after a cancellation can be decided. -/
instance decidableRestrained (orders : List Order) : Decidable (Restrained orders) :=
  inferInstanceAs (Decidable (orders.Pairwise _))

/-- A cancellation may follow. -/
theorem Restrained.cancel {orders : List Order} (h : Restrained orders) :
    Restrained (orders ++ [.cancel]) :=
  List.pairwise_append.2 ⟨h, List.pairwise_singleton _ _, fun _ _ _ hlater _ =>
    List.mem_singleton.1 hlater⟩

/-- A request may follow if nothing was cancelled. -/
theorem Restrained.request {orders : List Order} (h : Restrained orders)
    (hcancel : .cancel ∉ orders) (order : Order) : Restrained (orders ++ [order]) :=
  List.pairwise_append.2 ⟨h, List.pairwise_singleton _ _, fun _ hearlier _ _ heq =>
    absurd (heq ▸ hearlier) hcancel⟩

/-- What comes before others is restrained if all of them are. -/
theorem restrained_of_append {orders before after : List Order} (heq : before ++ after = orders)
    (h : Restrained orders) : Restrained before := by
  subst heq
  exact (List.pairwise_append.1 h).1

/-- What comes before others of two calls is restrained, unless it is both. -/
theorem restrained_or_eq {before after : List Order} {first second : Order}
    (h : before ++ after = [first, second]) :
    Restrained before ∨ before = [first, second] := by
  rcases before with _ | ⟨one, _ | ⟨two, others⟩⟩
  · exact .inl List.Pairwise.nil
  · exact .inl (List.pairwise_singleton _ _)
  · refine .inr ?_
    simp only [List.cons_append, List.cons.injEq, List.append_eq_nil_iff] at h
    rw [h.1, h.2.1, h.2.2.1]

/-- What calls are made on a link that a receiver keeps. What is still to be done counts as done. -/
inductive Called (past todo : List (Task α)) (receiver : Receiver) (link : Link) : Prop
  /-- The receiver is no window. Only the next task may be one of the calls that are still to be
  made. -/
  | calm (keeper : ∀ index, receiver ≠ .window index) (tail : callsOn link todo.tail = [])
      (calls : Restrained (callsOn link (past ++ todo)))
  /-- The receiver is a window. -/
  | window (index : Nat) (keeper : receiver = .window index)
      (calls : callsOn link (past ++ todo) ∈ [[.request Demand.unbounded],
        [.cancel, .request Demand.unbounded], [.request Demand.unbounded, .cancel]])

/-- A link that is not cancelled by what is done and still to be done. -/
theorem not_mem_of_cancelsOn_eq_zero {tasks : List (Task α)} (h : cancelsOn link tasks = 0) :
    .cancel ∉ callsOn link tasks :=
  List.count_eq_zero.1 h

/-- Calls that are made at once come after all others, if no other is left to be made. -/
theorem Makes.callsOn_append {call : Option Order} (h : Makes link call added)
    (hrest : callsOn link rest = []) :
    callsOn link (past ++ [task] ++ (added ++ rest)) =
        callsOn link (past ++ task :: rest) ++ call.toList ∧
      callsOn link (added ++ rest).tail = [] := by
  constructor
  · have hsplit : past ++ task :: rest = past ++ [task] ++ rest := List.append_cons past task rest
    rw [hsplit]
    simp only [Network.callsOn_append, hrest, h.1, List.append_nil]
  · cases added with
    | nil =>
        refine List.eq_nil_iff_forall_not_mem.2 fun order horder => ?_
        have hmem := mem_callsOn.2 (List.mem_of_mem_tail (mem_callsOn.1 horder))
        rw [List.nil_append, hrest] at hmem
        exact List.not_mem_nil hmem
    | cons first others =>
        have htail := h.2
        rw [List.cons_append, List.tail_cons, Network.callsOn_append, hrest, List.append_nil]
        exact htail

/-- Tasks that call no one change nothing about the calls. -/
theorem Makes.callsOn_none (h : Makes link none added) :
    callsOn link (past ++ [task] ++ (added ++ rest)) = callsOn link (past ++ task :: rest) := by
  have hsplit : past ++ task :: rest = past ++ [task] ++ rest := List.append_cons past task rest
  rw [hsplit]
  simp only [Network.callsOn_append, h.1, Option.toList_none, List.nil_append]

/-- The only request of a window is followed by the cancellation, or put after it. -/
theorem cancel_around_request {before after : List Order} {amount : UInt64}
    (h : before ++ after = [.request amount]) :
    before ++ .cancel :: after ∈ [[.request amount], [.cancel, .request amount],
      [.request amount, .cancel]] := by
  rcases List.append_eq_singleton_iff.1 h with ⟨rfl, rfl⟩ | ⟨rfl, rfl⟩ <;> simp

/-- The calls on a link after one more task. -/
theorem Called.perform (h : Called past (task :: rest) receiver link)
    (hkept : Kept past (task :: rest) network receiver link)
    (htraced : Traced past network (task :: rest)) (hkeeper : ∀ index, receiver ≠ .probe index)
    (htakers : takersOf link past = [receiver])
    (hfresh : ∀ other, task ≠ .signal other (.subscribe link)) :
    Called (past ++ [task]) ((Network.perform task network).2 ++ rest) receiver link := by
  have hdeals := deals_perform htraced hkeeper htakers hfresh
  cases h with
  | calm keeper tail calls =>
      have hadds : ∀ call : Option Order, Makes link call (Network.perform task network).2 →
          (∀ order ∈ call, order ≠ .cancel → cancelsOn link (past ++ task :: rest) = 0) →
          Called (past ++ [task]) ((Network.perform task network).2 ++ rest) receiver link := by
        intro call hmakes hactive
        have hrest : callsOn link rest = [] := tail
        obtain ⟨hcalls, htail⟩ := hmakes.callsOn_append hrest
        refine .calm keeper htail ?_
        rw [hcalls]
        cases call with
        | none =>
            rw [Option.toList_none, List.append_nil]
            exact calls
        | some order =>
            cases order with
            | cancel => exact calls.cancel
            | request amount =>
                exact calls.request (not_mem_of_cancelsOn_eq_zero
                  (hactive _ rfl fun heq => nomatch heq)) _
      cases hdeals with
      | rests _ _ _ hmakes | turns _ _ _ _ _ _ hmakes =>
          exact hadds none hmakes fun _ hnone => nomatch hnone
      | asks amount _ _ hholds _ _ hmakes =>
          refine hadds _ hmakes fun _ _ _ => ?_
          cases hkept with
          | held _ _ cancels => exact cancels
          | due _ feed | turned _ feed | gone _ feed => exact absurd hholds feed
      | binds call hbound _ _ _ _ hmakes =>
          refine hadds _ hmakes fun _ _ _ => ?_
          have hpos : 0 < (task :: rest).countP (Task.binds receiver link) :=
            List.countP_pos_iff.2 ⟨task, List.mem_cons_self, hbound⟩
          cases hkept with
          | due _ _ cancels => exact cancels
          | held unbound | turned unbound | gone unbound => omega
      | refuses _ _ _ _ hmakes =>
          exact hadds _ hmakes fun _ hcancel hother =>
            absurd (Option.mem_some.1 hcancel).symm hother
      | ends _ _ _ _ hmakes =>
          refine hadds _ hmakes fun order horder hother => absurd ?_ hother
          split at horder
          · exact (Option.mem_some.1 horder).symm
          · cases horder
  | window index keeper calls =>
      subst keeper
      have hunbound : ∀ {other : Task α}, other.binds (.window index) link = false := by
        intro other
        cases other with
        | resumption place work =>
            cases work with
            | bind => simp [Task.binds]
            | count | recover => rfl
        | _ => rfl
      cases hdeals with
      | rests _ _ _ hmakes | turns _ _ _ _ _ _ hmakes =>
          refine .window index rfl ?_
          rw [hmakes.callsOn_none]
          exact calls
      | asks _ hasker => exact absurd rfl (hasker index)
      | binds _ hbound | refuses hbound =>
          exact absurd (hunbound.symm.trans hbound) Bool.false_ne_true
      | ends _ _ _ _ hmakes =>
          refine .window index rfl ?_
          split at hmakes
          next hholds =>
            cases hkept with
            | held _ _ cancels =>
                have hbefore : callsOn link (past ++ [task]) ++ callsOn link rest =
                    [.request Demand.unbounded] := by
                  rw [← callsOn_append, List.append_assoc, List.singleton_append]
                  have hnone := not_mem_of_cancelsOn_eq_zero cancels
                  simp only [List.mem_cons, List.not_mem_nil, or_false] at calls
                  rcases calls with heq | heq | heq
                  · exact heq
                  · exact absurd (by simp [heq]) hnone
                  · exact absurd (by simp [heq]) hnone
                rw [callsOn_append, callsOn_append link _ rest, hmakes.1]
                exact cancel_around_request hbefore
            | due _ feed | turned _ feed | gone _ feed => exact absurd hholds feed
          next =>
            rw [hmakes.callsOn_none]
            exact calls

/-- The calls on a link once a receiver was handed it. -/
theorem called_of_handed (h : Traced past network (.signal receiver (.subscribe link) :: rest))
    (hkeeper : ∀ index, receiver ≠ .probe index) (hknows : network.Knows receiver)
    (htakers : takersOf link past = []) :
    Called (past ++ [.signal receiver (.subscribe link)])
      ((perform (.signal receiver (.subscribe link)) network).2 ++ rest) receiver link := by
  have hnone : callsOn link (past ++ .signal receiver (.subscribe link) :: rest) = [] :=
    List.eq_nil_iff_forall_not_mem.2 fun order horder =>
      h.not_order_mem htakers order (mem_callsOn.1 horder)
  have hrest : callsOn link rest = [] := by
    rw [← List.singleton_append, callsOn_append, callsOn_append] at hnone
    exact (List.append_eq_nil_iff.1 (List.append_eq_nil_iff.1 hnone).2).2
  have hcalm : ∀ call : Option Order, (∀ index, receiver ≠ .window index) →
      Makes link call (perform (.signal receiver (.subscribe link)) network).2 →
      Called (past ++ [.signal receiver (.subscribe link)])
        ((perform (.signal receiver (.subscribe link)) network).2 ++ rest) receiver link := by
    intro call hother hmakes
    obtain ⟨hcalls, htail⟩ := hmakes.callsOn_append hrest
    refine .calm hother htail ?_
    rw [hcalls, hnone, List.nil_append]
    cases call with
    | none => exact List.Pairwise.nil
    | some order => exact List.pairwise_singleton _ _
  cases handles_perform (.signal receiver (.subscribe link)) network with
  | aside hidle => exact absurd hknows hidle
  | enlist henlists => cases henlists
  | offer hoffers => cases hoffers
  | release hreleases => cases hreleases
  | ask _ hidle => exact absurd hknows hidle
  | meet => exact absurd rfl (hkeeper _)
  | @take index link below _ _ _ hadds =>
      refine .window index rfl ?_
      rw [← List.singleton_append, callsOn_append] at hnone
      rw [callsOn_append, callsOn_append, (List.append_eq_nil_iff.1 hnone).1, callsOn_append, hrest,
        hadds.callsOn link]
      simp [callsOn]
  | pass below _ _ _ hadds =>
      exact hcalm none (fun _ => by simp) (makes_none hadds fun _ => by simp)
  | renew _ _ _ hadds =>
      exact hcalm none (fun _ => by simp) (makes_none hadds fun _ => by simp)
  | @welcome index link amount _ _ _ hadds =>
      exact hcalm (some (.request amount)) (fun _ => by simp) (makes_of_beginsWith hadds)
  | @shut index link _ _ _ _ hadds =>
      exact hcalm (some .cancel) (fun _ => by simp) (makes_of_beginsWith hadds)

/-! ## Runs -/

/-- At a point of a run, every link of a publisher driven by hand that was handed to one receiver
only is kept there, unless that one is a scripted subscriber. -/
structure Guarded (events : List (Voiced α)) (agenda : Agenda (Network α) (Voiced α)) : Prop where
  traced : Traced (events.map Prod.snd) agenda.state (agenda.todo.map Prod.snd)
  recording : Recording (events.map Prod.snd) agenda.state (agenda.todo.map Prod.snd)
  attended : Attended events agenda.state (agenda.todo.map Prod.snd)
  kept : ∀ receiver link, (∀ index, receiver ≠ .probe index) → link.isByHand = true →
    takersOf link (events.map Prod.snd) = [receiver] →
    Kept (events.map Prod.snd) (agenda.todo.map Prod.snd) agenda.state receiver link ∧
      Called (events.map Prod.snd) (agenda.todo.map Prod.snd) receiver link

/-- Links are kept after one more task. -/
theorem Guarded.perform {event : Voiced α} {left : List (Voiced α)}
    (h : Guarded events ⟨network, event :: left⟩)
    (hproper : Proper events ⟨network, event :: left⟩) (hspoken : isWellSpoken events event) :
    Guarded (events ++ [event]) (Agenda.step performVoiced ⟨network, event :: left⟩) := by
  obtain ⟨voice, task⟩ := event
  have htraced : Traced (events.map Prod.snd) network (task :: left.map Prod.snd) := h.traced
  have hheard : ∀ receiver link, task = .signal receiver (.subscribe link) →
      network.Knows receiver ∧ lineOf receiver events = [] := by
    rintro receiver link rfl
    exact hproper.handed hspoken
  have hpast : (events ++ [(voice, task)]).map Prod.snd = events.map Prod.snd ++ [task] :=
    List.map_append
  have htodo := todo_step network voice task left
  refine ⟨?_, ?_, ?_, fun receiver link hkeeper hlink htakers => ?_⟩
  · rw [hpast, htodo]
    exact htraced.perform fun receiver link htask => (hheard receiver link htask).1
  · rw [hpast, htodo]
    exact h.recording.perform htraced
  · rw [htodo]
    exact Attended.perform h.attended htraced.fronts
  · rw [hpast] at htakers ⊢
    rw [htodo]
    rcases takersOf_concat htakers with ⟨hbefore, rfl⟩ | ⟨hbefore, hfresh⟩
    · obtain ⟨hknows, hline⟩ := hheard receiver link rfl
      refine ⟨kept_of_handed htraced hkeeper hknows hbefore fun index hindex => ?_,
        called_of_handed htraced hkeeper hknows hbefore⟩
      subst hindex
      exact (h.attended.handed index link hlink List.mem_cons_self).resolve_right (absurd hline)
    · obtain ⟨hkept, hcalled⟩ := h.kept receiver link hkeeper hlink hbefore
      exact ⟨hkept.perform htraced hkeeper hbefore hfresh,
        hcalled.perform hkept htraced hkeeper hbefore hfresh⟩

/-- Before anything has happened no link was handed over. -/
theorem guarded_launch (script : List (Action α)) : Guarded [] (launch script) := by
  have hquiet : ∀ task ∈ (launch script).todo.map Prod.snd, task.isLinked = false := by
    rw [launch, map_snd_voiced]
    exact isLinked_map_act script
  exact ⟨traced_nil hquiet, recording_nil hquiet, attended_nil hquiet,
    fun receiver link _ _ htakers => absurd htakers.symm (List.cons_ne_nil _ _)⟩

/-- Links are kept at every point of a run. -/
theorem guarded_run {script : List (Action α)} {fuel : Nat}
    (h : Throughout isWellSpoken (performed fuel (launch script))) :
    Guarded (performed fuel (launch script)) (Agenda.run performVoiced fuel (launch script)) :=
  invariant_performed (fun _ _ => id) (guarded_launch script)
    (fun _ _ _ _ hspoken hproper hguarded => hguarded.perform hproper hspoken) h

/-- **Cancelled links are left alone.** If the publishers driven by hand signal in keeping with the
grammar, and one of them has handed out a link once, to a unit or to a stream, then at every point
of a run nothing was asked for on that link after it was cancelled. The one exception is the link of
a window that was cancelled before the window asked its feed for everything: it was cancelled once,
and asked for everything once after that. -/
theorem cancelled_links_are_left_alone (script : List (Action α)) (fuel : Nat) (link : Link)
    (receiver : Receiver) (h : Throughout isWellSpoken (performed fuel (launch script)))
    (hlink : link.isByHand = true) (hkeeper : ∀ index, receiver ≠ .probe index)
    (htakers : takersOf link (Agenda.past perform fuel ⟨{}, script.map .act⟩) = [receiver]) :
    let agenda := Agenda.run perform fuel ⟨{}, script.map .act⟩
    Restrained (agenda.state.ordersOf link) ∨
      (∃ index, receiver = .window index) ∧
        agenda.state.ordersOf link = [.cancel, .request Demand.unbounded] := by
  intro agenda
  have herase : erase (Agenda.run performVoiced fuel (launch script)) = agenda :=
    erase_run script fuel
  have hguarded := guarded_run h
  have hpast := map_snd_performed script fuel
  rw [← hpast] at htakers
  have horders : agenda.state.ordersOf link =
      callsOn link ((performed fuel (launch script)).map Prod.snd) := by
    rw [← herase]
    exact hguarded.recording.recorded link hlink
  obtain ⟨-, hcalled⟩ := hguarded.kept receiver link hkeeper hlink htakers
  rw [horders]
  cases hcalled with
  | calm _ _ calls =>
      rw [callsOn_append] at calls
      exact .inl (restrained_of_append rfl calls)
  | window index keeper calls =>
      rw [callsOn_append] at calls
      simp only [List.mem_cons, List.not_mem_nil, or_false] at calls
      rcases calls with hcalls | hcalls | hcalls
      · exact .inl (restrained_of_append hcalls (List.pairwise_singleton _ _))
      · rcases restrained_or_eq hcalls with hrestrained | hall
        · exact .inl hrestrained
        · exact .inr ⟨⟨index, keeper⟩, hall⟩
      · refine .inl (restrained_of_append hcalls ?_)
        exact Restrained.cancel (List.pairwise_singleton _ (Order.request Demand.unbounded))

/-- A resumption above a window is cancelled while its feed is being bound, and cancels the feed
without asking for anything. -/
theorem cancelled_links_are_left_alone_by_resumption :
    let react : Reaction (Action Nat) :=
      Rule.reaction [{ on := .subscribe, actions := [.order "out" .cancel] }]
    let publisher : Publisher Nat (Action Nat) :=
      .takeLast 2 false (.resume none (fun _ => .nothing) (.deferred "up"))
    let script : List (Action Nat) :=
      [.subscribe "out" publisher 3 react, .accept "up" "link" fun _ _ => [],
        .order "out" (.request 1)]
    let agenda := Agenda.run perform 40 ⟨{}, script.map .act⟩
    (Throughout isWellSpoken (performed 40 (launch script)) ∧
      (Link.tap 0).isByHand = true ∧ (∀ index, Receiver.resumption 0 ≠ .probe index) ∧
      takersOf (.tap 0) (Agenda.past perform 40 ⟨{}, script.map .act⟩) = [.resumption 0] ∧
      agenda.state.ordersOf (.tap 0) = [.cancel]) ∧
    (Restrained (agenda.state.ordersOf (.tap 0)) ∨
      (∃ index, Receiver.resumption 0 = .window index) ∧
        agenda.state.ordersOf (.tap 0) = [.cancel, .request Demand.unbounded]) := by
  intro react publisher script agenda
  have hspoken : Throughout isWellSpoken (performed 40 (launch script)) := by decide +kernel
  have hkeeper : ∀ index, Receiver.resumption 0 ≠ .probe index := fun _ => nofun
  have htakers : takersOf (.tap 0) (Agenda.past perform 40 ⟨{}, script.map .act⟩) =
      [.resumption 0] := by decide +kernel
  have horders : agenda.state.ordersOf (.tap 0) = [.cancel] := by decide +kernel
  exact ⟨⟨hspoken, rfl, hkeeper, htakers, horders⟩,
    cancelled_links_are_left_alone script 40 (.tap 0) (.resumption 0) hspoken rfl hkeeper htakers⟩

/-- A window is cancelled when it hands down its link, cancels the link of its feed, and asks its
feed for everything after that. -/
theorem window_asks_after_cancellation :
    ∃ final : Network Nat,
      Agenda.Settles perform {} [.act (.subscribe "out" (.takeLast 2 false (.hand "up")) 0
        (Rule.reaction [{ on := .subscribe, actions := [.order "out" .cancel] }]))] final ∧
      final.ordersOf (.hand 0) = [.cancel, .request Demand.unbounded] ∧
      ¬ Restrained (final.ordersOf (.hand 0)) :=
  ⟨_, ⟨20, rfl⟩, rfl, by decide⟩

end Backpressure.Network
