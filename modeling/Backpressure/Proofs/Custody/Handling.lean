import Backpressure.Proofs.Custody.Links

/-!
# What tasks do about links

Every task either leaves the links alone or does one of the few things that can be done about them.
What is proved about links from here on is proved for each of these things, and not for each task.

Main results:

- Theorem `handles_act` covers the actions, theorem `handles_call` the calls and theorem
  `handles_subscribe` the subscriptions.
- Theorem `handles_perform` covers every task.
-/

namespace Backpressure.Network

variable {α : Type} {network next : Network α} {task : Task α} {receiver : Receiver}
  {index : Nat}

/-! ## Signals -/

/-- A window hears a signal. -/
theorem handles_hearWindow (network : Network α) (index : Nat) (delivery : Delivery α Link) :
    Handles network (perform (.signal (.window index) delivery) network).1
      (perform (.signal (.window index) delivery) network).2
      (.signal (.window index) delivery) := by
  cases delivery with
  | next x =>
      exact handles_onWindow (f := (·.hear (.window index) (.next x))) rfl trivial
        (fun _ => ⟨rfl, rfl⟩) fun _ _ _ heffect => absurd heffect List.not_mem_nil
  | error failure =>
      exact handles_onWindow (f := (·.hear (.window index) (.error failure))) rfl trivial
        (fun window => feed_fail window failure)
        fun window below => isLinked_fail window failure below
  | complete =>
      exact handles_onWindow (f := (·.hear (.window index) .complete)) rfl trivial
        (fun _ => ⟨rfl, rfl⟩) fun _ below => isLinked_terminate _ _ below
  | subscribe link =>
      cases hstage : network.windows[index]? with
      | none =>
          have hperform : perform (.signal (.window index) (.subscribe link)) network =
              (network, []) := by
            simp only [perform, deliver, onWindow, hstage]
          rw [hperform]
          refine .aside ?_ rfl rfl (beginsWith_self [])
          exact Nat.not_lt.2 (List.getElem?_eq_none_iff.1 hstage)
      | some stage =>
          obtain ⟨hfeeds, hcancelled⟩ := feedOf_onWindow hstage
            (·.hear (.window index) (.subscribe link))
          obtain ⟨-, hdone⟩ := feedOf_window hstage
          refine .take stage.below ?_ hfeeds ?_ ?_
          · simp only [below?, hstage, Option.map_some]
          · refine hcancelled.trans ?_
            simp only [Window.hear]
            rw [← hdone, Function.update_eq_self]
          · simp only [perform, deliver, onWindow, hstage]
            exact beginsWith_self _

/-- A resumption hears a signal. -/
theorem handles_hearResumption (network : Network α) (index : Nat) (delivery : Delivery α Link) :
    Handles network (perform (.signal (.resumption index) delivery) network).1
      (perform (.signal (.resumption index) delivery) network).2
      (.signal (.resumption index) delivery) := by
  cases delivery with
  | next x =>
      refine handles_onResumption (f := (·.hear (.switch index) (.next x))) rfl trivial
        (fun _ => ⟨rfl, rfl⟩) fun _ _ effect heffect => ?_
      rcases List.mem_cons.1 heffect with rfl | heffect
      · rfl
      · obtain rfl := List.mem_singleton.1 heffect
        rfl
  | error failure =>
      refine handles_onResumption (f := (·.hear (.switch index) (.error failure))) rfl trivial
        (fun resumption => ?_) fun resumption _ effect heffect => ?_
      · simp only [Resumption.hear]
        split <;> exact ⟨rfl, rfl⟩
      · simp only [Resumption.hear] at heffect
        split at heffect <;> obtain rfl := List.mem_singleton.1 heffect <;> rfl
  | complete =>
      refine handles_onResumption (f := (·.hear (.switch index) .complete)) rfl trivial
        (fun _ => ⟨rfl, rfl⟩) fun _ _ effect heffect => ?_
      obtain rfl := List.mem_singleton.1 heffect
      rfl
  | subscribe link =>
      cases hstage : network.resumptions[index]? with
      | none =>
          have hperform : perform (.signal (.resumption index) (.subscribe link)) network =
              (network, []) := by
            simp only [perform, deliver, onResumption, hstage]
          rw [hperform]
          refine .aside ?_ rfl rfl (beginsWith_self [])
          exact Nat.not_lt.2 (List.getElem?_eq_none_iff.1 hstage)
      | some stage =>
          obtain ⟨hfeeds, hcancelled⟩ := feedOf_onResumption hstage
            (·.hear (.switch index) (.subscribe link))
          obtain ⟨hfeed, hdone⟩ := feedOf_resumption hstage
          simp only [Resumption.hear] at hfeeds hcancelled
          rw [← hfeed, Function.update_eq_self] at hfeeds
          rw [← hdone, Function.update_eq_self] at hcancelled
          cases hresumed : stage.unit.resumed with
          | true =>
              refine .renew (by simp [hstage, hresumed]) hfeeds hcancelled ?_
              simp only [perform, deliver, onResumption, hstage, Resumption.hear, hresumed]
              exact beginsWith_self _
          | false =>
              refine .pass stage.below (by simp only [below?, hstage, Option.map_some]) hfeeds
                hcancelled ?_
              simp only [perform, deliver, onResumption, hstage, Resumption.hear, hresumed]
              exact beginsWith_self _

/-- A signal that hands over no link leaves the link of a bridge alone. -/
theorem feed_hearBridge (bridge : Bridge α Link) {delivery : Delivery α Link}
    (h : (Task.signal receiver delivery).isLinked = false) :
    (bridge.hear delivery).1.feed = bridge.feed ∧
      (bridge.hear delivery).1.dropped = bridge.dropped ∧ (bridge.hear delivery).2 = none := by
  cases delivery with
  | subscribe link => exact absurd h.symm Bool.false_ne_true
  | complete => exact ⟨rfl, rfl, rfl⟩
  | next x | error failure =>
      simp only [Bridge.hear, Bridge.close, Bridge.send]
      cases bridge.closed <;> exact ⟨rfl, rfl, trivial⟩

/-- A stream hears a signal. -/
theorem handles_hearBridge (network : Network α) (index : Nat) (delivery : Delivery α Link) :
    Handles network (perform (.signal (.bridge index) delivery) network).1
      (perform (.signal (.bridge index) delivery) network).2
      (.signal (.bridge index) delivery) := by
  cases houtlet : network.outlets[index]? with
  | none =>
      have hperform : perform (.signal (.bridge index) delivery) network = (network, []) := by
        simp only [perform, deliver, hearBridge, houtlet]
      rw [hperform]
      refine .aside ?_ rfl rfl (beginsWith_self [])
      cases delivery with
      | subscribe link => exact Nat.not_lt.2 (List.getElem?_eq_none_iff.1 houtlet)
      | _ => trivial
  | some outlet =>
      obtain ⟨hfeed, hdropped⟩ := feedOf_bridge houtlet
      obtain ⟨hfeeds, hcancelled⟩ := feedOf_setBridge houtlet (outlet.unit.hear delivery).1
        (outlet.unit.hear delivery).2
      -- The waker that may be fired is only recorded.
      have hnext : (perform (.signal (.bridge index) delivery) network).1.feedOf =
            Function.update network.feedOf (.bridge index) (outlet.unit.hear delivery).1.feed ∧
          (perform (.signal (.bridge index) delivery) network).1.isCancelled =
            Function.update network.isCancelled (.bridge index)
              (outlet.unit.hear delivery).1.dropped := by
        simp only [perform, deliver, hearBridge, houtlet]
        split <;> exact ⟨hfeeds, hcancelled⟩
      have hadded : (perform (.signal (.bridge index) delivery) network).2 =
          (outlet.unit.hear delivery).2.toList.map fun call => .order call.1 call.2 := by
        simp only [perform, deliver, hearBridge, houtlet, setBridge]
      cases hlinked : (Task.signal (.bridge index) delivery).isLinked with
      | false =>
          obtain ⟨hsame, hstill, hcall⟩ := feed_hearBridge outlet.unit hlinked
          rw [hsame, ← hfeed, Function.update_eq_self] at hnext
          rw [hstill, ← hdropped, Function.update_eq_self] at hnext
          rw [hcall] at hadded
          refine .aside ?_ hnext.1 hnext.2 (hadded ▸ beginsWith_self [])
          cases delivery with
          | subscribe link => exact absurd hlinked.symm Bool.false_ne_true
          | _ => trivial
      | true =>
          cases delivery with
          | subscribe link =>
              have hopen : network.isOpen index = !outlet.unit.closed := by
                rw [isOpen, houtlet]
                rfl
              have hafter : (outlet.unit.hear (.subscribe link)).1.feed =
                  if network.isCancelled (.bridge index) then none else some link := by
                rw [hdropped]
                rfl
              rw [hafter] at hnext
              have hstill : (outlet.unit.hear (.subscribe link)).1.dropped =
                  network.isCancelled (.bridge index) := hdropped.symm
              rw [hstill, Function.update_eq_self] at hnext
              cases hclosed : outlet.unit.closed with
              | false =>
                  refine .welcome outlet.unit.prefetch (by rw [hopen, hclosed]; rfl) hnext.1
                    hnext.2 ?_
                  rw [hadded]
                  simp only [Bridge.hear, hclosed]
                  exact beginsWith_self _
              | true =>
                  refine .shut (List.getElem?_eq_some_iff.1 houtlet).1
                    (by rw [hopen, hclosed]; rfl) hnext.1 hnext.2 ?_
                  rw [hadded]
                  simp only [Bridge.hear, hclosed]
                  exact beginsWith_self _
          | next | error | complete => exact absurd hlinked Bool.false_ne_true

/-- A scripted subscriber hears a signal. -/
theorem handles_hearProbe (network : Network α) (index : Nat) (delivery : Delivery α Link) :
    Handles network (perform (.signal (.probe index) delivery) network).1
      (perform (.signal (.probe index) delivery) network).2 (.signal (.probe index) delivery) := by
  cases hprobe : network.probes[index]? with
  | none =>
      have hperform : perform (.signal (.probe index) delivery) network = (network, []) := by
        simp only [perform, deliver, hearProbe, hprobe]
      rw [hperform]
      refine .aside ?_ rfl rfl (beginsWith_self [])
      cases delivery with
      | subscribe link => exact Nat.not_lt.2 (List.getElem?_eq_none_iff.1 hprobe)
      | _ => trivial
  | some probe =>
      obtain ⟨hlt, -⟩ := List.getElem?_eq_some_iff.1 hprobe
      have hfeed : network.feedOf (.probe index) = probe.link := by simp [feedOf, hprobe]
      have hfeeds : (perform (.signal (.probe index) delivery) network).1.feedOf =
          Function.update network.feedOf (.probe index) (probe.linkAfter delivery) := by
        simp only [perform, deliver, hearProbe, hprobe]
        funext receiver
        by_cases h : receiver = .probe index
        · subst h
          simp [feedOf, log, hlt, Probe.hear]
        · rw [Function.update_of_ne h]
          cases receiver with
          | probe other =>
              simp only [feedOf, log]
              rw [List.getElem?_set_ne fun heq => h (congrArg Receiver.probe heq.symm)]
          | _ => rfl
      have hcancelled : (perform (.signal (.probe index) delivery) network).1.isCancelled =
          network.isCancelled := by
        simp only [perform, deliver, hearProbe, hprobe]
        funext receiver
        cases receiver <;> rfl
      have hadded : (perform (.signal (.probe index) delivery) network).2 =
          (probe.opening delivery).toList.map (fun call => Task.order call.1 call.2) ++
            (probe.answer delivery).map Task.act := by
        simp only [perform, deliver, hearProbe, hprobe]
      cases delivery with
      | subscribe link =>
          refine .meet (if probe.initial = 0 then [] else [.request probe.initial]) hlt hfeeds
            hcancelled ?_ ?_
          · split
            · exact .inl rfl
            · exact .inr ⟨_, rfl⟩
          · rw [hadded]
            refine ⟨(probe.answer (.subscribe link)).map Task.act, ?_, isLinked_map_act _⟩
            simp only [Probe.opening]
            split <;> rfl
      | next | error | complete =>
          have hsame : probe.linkAfter (.complete) = network.feedOf (.probe index) := hfeed.symm
          refine .aside trivial ?_ hcancelled (beginsWith_nil.2 ?_)
          · rw [hfeeds]
            exact (congrArg _ hsame).trans (Function.update_eq_self _ _)
          · rw [hadded]
            exact isLinked_map_act _

/-! ## Calls -/

/-- A window takes a call. -/
theorem handles_callWindow (network : Network α) (index : Nat) (order : Order) :
    Handles network (perform (.order (.window index) order) network).1
      (perform (.order (.window index) order) network).2 (.order (.window index) order) := by
  cases order with
  | request amount =>
      refine handles_onWindow (f := (·.take (.request amount))) rfl trivial
        (fun _ => ⟨rfl, rfl⟩) fun _ _ effect heffect => ?_
      obtain ⟨pass, -, rfl⟩ := List.mem_map.1 heffect
      rfl
  | cancel =>
      cases hstage : network.windows[index]? with
      | none =>
          have hperform : perform (.order (.window index) .cancel) network = (network, []) := by
            simp only [perform, Network.call, onWindow, hstage]
          rw [hperform]
          refine .aside (fun receiver hlink hknows => ?_) rfl rfl (beginsWith_self [])
          cases receiver <;> cases hlink
          exact absurd hknows (Nat.not_lt.2 (List.getElem?_eq_none_iff.1 hstage))
      | some stage =>
          obtain ⟨hfeeds, hcancelled⟩ := feedOf_onWindow hstage (·.take .cancel)
          obtain ⟨hfeed, hdone⟩ := feedOf_window hstage
          cases hbefore : stage.unit.cancelled with
          | true =>
              have htake : stage.unit.take .cancel = (stage.unit, []) := by
                simp only [Window.take, hbefore, if_true]
              rw [htake, ← hfeed, Function.update_eq_self] at hfeeds
              rw [htake, ← hdone, Function.update_eq_self] at hcancelled
              refine .aside (fun receiver hlink _ => ?_) hfeeds hcancelled ?_
              · cases receiver <;> cases hlink
                exact hdone.trans hbefore
              · simp only [perform, Network.call, onWindow, hstage, htake]
                exact beginsWith_self []
          | false =>
              have htake : stage.unit.take .cancel =
                  ({ stage.unit with cancelled := true, feed := none },
                    stage.unit.feed.toList.map fun link => .order link .cancel) := by
                simp only [Window.take, hbefore, if_false, Bool.false_eq_true]
              rw [htake] at hfeeds hcancelled
              refine .release (.cancel rfl) (hdone.trans hbefore) hfeeds hcancelled ?_
              simp only [perform, Network.call, onWindow, hstage, htake]
              rw [hfeed, List.map_map]
              exact beginsWith_self _

/-- A resumption takes a call. -/
theorem handles_callResumption (network : Network α) (index : Nat) (order : Order) :
    Handles network (perform (.order (.switch index) order) network).1
      (perform (.order (.switch index) order) network).2 (.order (.switch index) order) := by
  cases hstage : network.resumptions[index]? with
  | none =>
      have hperform : perform (.order (.switch index) order) network = (network, []) := by
        simp only [perform, Network.call, onResumption, hstage]
      rw [hperform]
      refine .aside ?_ rfl rfl (beginsWith_self [])
      cases order with
      | request amount => trivial
      | cancel =>
          intro receiver hlink hknows
          cases receiver <;> cases hlink
          exact absurd hknows (Nat.not_lt.2 (List.getElem?_eq_none_iff.1 hstage))
  | some stage =>
      obtain ⟨hfeeds, hcancelled⟩ := feedOf_onResumption hstage (·.take order)
      obtain ⟨hfeed, hdone⟩ := feedOf_resumption hstage
      have hadded : (perform (.order (.switch index) order) network).2 =
          (stage.unit.switch.take order).2.toList.map fun call => .order call.1 call.2 := by
        simp only [perform, Network.call, onResumption, hstage, Resumption.take, Resumption.call,
          List.map_map]
        rfl
      cases order with
      | request amount =>
          by_cases hnone : (decide (amount = 0) || stage.unit.switch.cancelled) = true
          · have htake : stage.unit.switch.take (.request amount) = (stage.unit.switch, none) := by
              rw [Switch.take, Switch.request, if_pos hnone]
            simp only [Resumption.take, Resumption.call, htake] at hfeeds hcancelled
            rw [← hfeed, Function.update_eq_self] at hfeeds
            rw [← hdone, Function.update_eq_self] at hcancelled
            rw [htake] at hadded
            exact .aside trivial hfeeds hcancelled (hadded ▸ beginsWith_self [])
          · have htake : stage.unit.switch.take (.request amount) =
                ({ stage.unit.switch with
                    outstanding := Demand.add stage.unit.switch.outstanding amount },
                  stage.unit.switch.current.map fun link => (link, .request amount)) := by
              rw [Switch.take, Switch.request, if_neg hnone]
            simp only [Resumption.take, Resumption.call, htake] at hfeeds hcancelled
            rw [← hfeed, Function.update_eq_self] at hfeeds
            rw [← hdone, Function.update_eq_self] at hcancelled
            rw [htake] at hadded
            have hactive : stage.unit.switch.cancelled = false :=
              Bool.eq_false_iff.2 fun hyes => hnone (by rw [hyes, Bool.or_true])
            cases hcurrent : stage.unit.switch.current with
            | none =>
                rw [hcurrent] at hadded
                exact .aside trivial hfeeds hcancelled (hadded ▸ beginsWith_self [])
            | some link =>
                rw [hcurrent] at hadded
                refine .ask amount trivial (by simp) (hfeed.trans hcurrent) (hdone.trans hactive)
                  hfeeds hcancelled ?_
                rw [hadded]
                exact beginsWith_self [.order link (.request amount)]
      | cancel =>
          cases hbefore : stage.unit.switch.cancelled with
          | true =>
              have htake : stage.unit.switch.take .cancel = (stage.unit.switch, none) := by
                simp only [Switch.take, Switch.cancel, hbefore, if_true]
              simp only [Resumption.take, Resumption.call, htake] at hfeeds hcancelled
              rw [← hfeed, Function.update_eq_self] at hfeeds
              rw [← hdone, Function.update_eq_self] at hcancelled
              rw [htake] at hadded
              refine .aside (fun receiver hlink _ => ?_) hfeeds hcancelled
                (hadded ▸ beginsWith_self [])
              cases receiver <;> cases hlink
              exact hdone.trans hbefore
          | false =>
              have htake : stage.unit.switch.take .cancel =
                  ({ stage.unit.switch with cancelled := true, current := none },
                    stage.unit.switch.current.map fun link => (link, .cancel)) := by
                simp only [Switch.take, Switch.cancel, hbefore, if_false, Bool.false_eq_true]
              simp only [Resumption.take, Resumption.call, htake] at hfeeds hcancelled
              rw [htake] at hadded
              refine .release (.cancel rfl) (hdone.trans hbefore) hfeeds hcancelled ?_
              rw [hadded, hfeed]
              cases stage.unit.switch.current <;> exact beginsWith_self _

/-- A link is called. -/
theorem handles_call (network : Network α) (link : Link) (order : Order) :
    Handles network (perform (.order link order) network).1
      (perform (.order link order) network).2 (.order link order) := by
  have hidle : (∀ receiver : Receiver, receiver.link? ≠ some link) →
      network.IsIdle (.order link order) := by
    intro hnone
    cases order with
    | request amount => trivial
    | cancel => exact fun receiver hlink => absurd hlink (hnone receiver)
  cases link with
  | window index => exact handles_callWindow network index order
  | switch index => exact handles_callResumption network index order
  | inert =>
      exact .aside (hidle fun receiver hlink => by cases receiver <;> cases hlink) rfl rfl
        (beginsWith_self [])
  | source index =>
      refine handles_onSource (f := (·.take order)) rfl
        (hidle fun receiver hlink => by cases receiver <;> cases hlink)
        fun source below effect heffect => ?_
      cases order with
      | cancel => exact absurd heffect List.not_mem_nil
      | request amount =>
          simp only [Source.take] at heffect
          split at heffect
          · exact absurd heffect List.not_mem_nil
          · simp only at heffect
            split at heffect
            · obtain rfl := List.mem_singleton.1 heffect
              rfl
            · exact absurd heffect List.not_mem_nil
  | hand index =>
      refine .aside (hidle fun receiver hlink => by cases receiver <;> cases hlink) ?_ ?_
        (beginsWith_self []) <;> funext receiver <;> cases receiver <;> rfl
  | tap index =>
      have hlinks : ∀ receiver : Receiver, receiver.link? ≠ some (.tap index) :=
        fun receiver hlink => by cases receiver <;> cases hlink
      simp only [perform, Network.call, callTap]
      split
      next tap _ =>
        refine .aside (hidle hlinks) ?_ ?_ (beginsWith_nil.2 (isLinked_map_act _)) <;>
          funext receiver <;> cases receiver <;> rfl
      next => exact .aside (hidle hlinks) rfl rfl (beginsWith_self [])

/-- A resumption goes on with its work. -/
theorem handles_resume (network : Network α) (index : Nat) (work : Resumption.Work Link) :
    Handles network (perform (.resumption index work) network).1
      (perform (.resumption index work) network).2 (.resumption index work) := by
  cases work with
  | count =>
      refine handles_onResumption (f := fun unit => (unit.count, [])) rfl trivial
        (fun resumption => ?_) fun _ _ _ heffect => absurd heffect List.not_mem_nil
      unfold Resumption.count
      split <;> exact ⟨rfl, rfl⟩
  | recover failure =>
      simp only [perform, resume]
      split
      · exact .aside trivial (feedOf_congr rfl rfl rfl rfl).1 (feedOf_congr rfl rfl rfl rfl).2
          (beginsWith_nil.2 (by simp [Task.isLinked]))
      · exact .aside trivial rfl rfl (beginsWith_self [])
  | bind link =>
      cases hstage : network.resumptions[index]? with
      | none =>
          have hperform : perform (.resumption index (.bind link)) network = (network, []) := by
            simp only [perform, resume, onResumption, hstage]
          rw [hperform]
          refine .aside ?_ rfl rfl (beginsWith_self [])
          exact Nat.not_lt.2 (List.getElem?_eq_none_iff.1 hstage)
      | some stage =>
          obtain ⟨hfeeds, hcancelled⟩ := feedOf_onResumption hstage (·.bind link)
          obtain ⟨hfeed, hdone⟩ := feedOf_resumption hstage
          have hadded : (perform (.resumption index (.bind link)) network).2 =
              (stage.unit.switch.bind link).2.toList.map fun call => .order call.1 call.2 := by
            simp only [perform, resume, onResumption, hstage, Resumption.bind, Resumption.call,
              List.map_map]
            rfl
          cases hbefore : stage.unit.switch.cancelled with
          | true =>
              have hbind : stage.unit.switch.bind link =
                  (stage.unit.switch, some (link, .cancel)) := by
                rw [Switch.bind, if_pos hbefore]
              simp only [Resumption.bind, Resumption.call, hbind] at hfeeds hcancelled
              rw [← hfeed, Function.update_eq_self] at hfeeds
              rw [← hdone, Function.update_eq_self] at hcancelled
              refine .refuse (hdone.trans hbefore) hfeeds hcancelled ?_
              rw [hadded, hbind]
              exact beginsWith_self _
          | false =>
              have hbind : stage.unit.switch.bind link =
                  ({ stage.unit.switch with current := some link },
                    if stage.unit.switch.outstanding = 0 then none
                    else some (link, .request stage.unit.switch.outstanding)) := by
                rw [Switch.bind, if_neg (by rw [hbefore]; exact Bool.false_ne_true)]
              simp only [Resumption.bind, Resumption.call, hbind] at hfeeds hcancelled
              rw [← hdone, Function.update_eq_self] at hcancelled
              refine .bind (if stage.unit.switch.outstanding = 0 then []
                else [.request stage.unit.switch.outstanding]) (hdone.trans hbefore) hfeeds
                hcancelled ?_ ?_
              · split
                · exact .inl rfl
                · exact .inr ⟨_, rfl⟩
              · rw [hadded, hbind]
                simp only
                split <;> exact beginsWith_self _

/-! ## Subscriptions -/

/-- What is added to a list without what is looked for is not found. -/
private theorem getElem?_append_of_none {β γ : Type} {xs ys : List β} {f : β → Option γ}
    {p : β → Bool} (h : ∀ y ∈ ys, f y = none ∧ p y = false) (place : Nat) :
    (xs ++ ys)[place]?.bind f = xs[place]?.bind f ∧
      (xs ++ ys)[place]?.any p = xs[place]?.any p := by
  rw [List.getElem?_append]
  split
  next => exact ⟨rfl, rfl⟩
  next hge =>
    rw [List.getElem?_eq_none (Nat.not_lt.1 hge)]
    cases hy : ys[place - xs.length]? with
    | none => exact ⟨rfl, rfl⟩
    | some y => exact h y (List.mem_of_getElem? hy)

/-- Everyone keeps what he holds when units are added that hold nothing. -/
theorem feedOf_attach {windows : List (Stage (Window α Link))} {resumptions : List (Resumed α)}
    (hprobes : next.probes = network.probes) (houtlets : next.outlets = network.outlets)
    (hwindows : next.windows = network.windows ++ windows)
    (hresumptions : next.resumptions = network.resumptions ++ resumptions)
    (hfresh : ∀ stage ∈ windows, stage.unit.feed = none ∧ stage.unit.cancelled = false)
    (hnew : ∀ stage ∈ resumptions, stage.unit.switch.current = none ∧
      stage.unit.switch.cancelled = false) :
    next.feedOf = network.feedOf ∧ next.isCancelled = network.isCancelled := by
  constructor <;> funext receiver <;> cases receiver <;>
    simp only [feedOf, isCancelled, hprobes, houtlets, hwindows, hresumptions,
      getElem?_append_of_none hfresh, getElem?_append_of_none hnew]

/-- Letting go of a receiver, if there is one, changes nothing about links. -/
theorem feedOf_elim_letGo (previous : Option Receiver) (network : Network α) :
    (previous.elim network network.letGo).feedOf = network.feedOf ∧
      (previous.elim network network.letGo).isCancelled = network.isCancelled := by
  cases previous with
  | none => exact ⟨rfl, rfl⟩
  | some receiver => exact feedOf_letGo network receiver

/-- A receiver is subscribed. -/
theorem handles_subscribe (network : Network α) (publisher : Publisher α (Action α))
    (receiver : Receiver) :
    Handles network (perform (.subscribe publisher receiver) network).1
      (perform (.subscribe publisher receiver) network).2 (.subscribe publisher receiver) := by
  cases publisher with
  | items supply =>
      simp only [perform, Network.subscribe]
      split
      · exact .offer (.items (.inl rfl)) rfl rfl ⟨[.signal receiver .complete], rfl, by
          simp [Task.isLinked]⟩
      · exact .offer (.items (.inr ⟨_, rfl⟩)) (feedOf_congr rfl rfl rfl rfl).1
          (feedOf_congr rfl rfl rfl rfl).2 (beginsWith_self _)
  | fail failure =>
      exact .offer .fail rfl rfl ⟨[.signal receiver (.error failure)], rfl, by
        simp [Task.isLinked]⟩
  | hand name =>
      simp only [perform, Network.subscribe]
      split
      next index hindex =>
        have hsame := feedOf_elim_letGo (network.hands[index]?.bind (·.subscriber))
          { network with
            hands := network.hands.modify index fun hand =>
              { hand with subscriber := some receiver, subscribed := hand.subscribed + 1 } }
        have hhands := @feedOf_congr α network { network with
            hands := network.hands.modify index fun hand =>
              { hand with subscriber := some receiver, subscribed := hand.subscribed + 1 } }
          rfl rfl rfl rfl
        exact .offer (.hand hindex) (hsame.1.trans hhands.1) (hsame.2.trans hhands.2)
          (beginsWith_self _)
      next => exact .aside trivial rfl rfl (beginsWith_self [])
  | deferred name =>
      have hsame := feedOf_elim_letGo
        ((network.deferreds.find? (·.name = name)).bind (·.subscriber))
        { network with
          deferreds := network.deferreds.map fun deferred =>
            if deferred.name = name then { deferred with subscriber := some receiver }
            else deferred }
      have hdeferreds := @feedOf_congr α network { network with
          deferreds := network.deferreds.map fun deferred =>
            if deferred.name = name then { deferred with subscriber := some receiver }
            else deferred } rfl rfl rfl rfl
      exact .aside trivial (hsame.1.trans hdeferreds.1) (hsame.2.trans hdeferreds.2)
        (beginsWith_self [])
  | named name => exact .aside trivial rfl rfl (beginsWith_self [])
  | takeLast count delaysFailure up =>
      have hsame := @feedOf_attach α network
        (network.subscribe receiver (.takeLast count delaysFailure up)).1
        [network.stage receiver (.ofSize count delaysFailure)] [] rfl rfl rfl
        (List.append_nil _).symm
        (fun stage hstage => by rw [List.mem_singleton.1 hstage]; exact ⟨rfl, rfl⟩)
        (fun _ hstage => absurd hstage List.not_mem_nil)
      exact .enlist .takeLast hsame.1 hsame.2 (beginsWith_self _)
  | resume tag recover up =>
      have hsame := @feedOf_attach α network
        (network.subscribe receiver (.resume tag recover up)).1 []
        [{ toStage := network.stage receiver {}, tag, recover }] rfl rfl
        (List.append_nil _).symm rfl (fun _ hstage => absurd hstage List.not_mem_nil)
        (fun stage hstage => by rw [List.mem_singleton.1 hstage]; exact ⟨rfl, rfl⟩)
      exact .enlist .resume hsame.1 hsame.2 (beginsWith_self _)

/-- A recovery is followed. -/
theorem handles_follow (network : Network α) (index : Nat) (failure : Failure)
    (recovery : Recovery α (Action α)) :
    Handles network (perform (.recover index failure recovery) network).1
      (perform (.recover index failure recovery) network).2 (.recover index failure recovery) := by
  simp only [perform, follow]
  split
  next actions later =>
    refine .aside trivial rfl rfl (beginsWith_nil.2 fun task htask => ?_)
    rcases List.mem_append.1 htask with hact | hlast
    · exact isLinked_map_act actions task hact
    · rw [List.mem_singleton.1 hlast]
      rfl
  next publisher =>
    obtain ⟨hands, deferreds, hmention⟩ := network.exists_mention publisher
    refine .enlist .follow ?_ ?_ (beginsWith_self _)
    · rw [hmention]
      exact (feedOf_congr rfl rfl rfl rfl).1
    · rw [hmention]
      exact (feedOf_congr rfl rfl rfl rfl).2
  next =>
    split
    · exact .aside trivial rfl rfl (beginsWith_nil.2 (by simp [Task.isLinked]))
    · exact .aside trivial rfl rfl (beginsWith_self [])

/-! ## Streams -/

/-- A poll leaves the link of a bridge alone, and asks for items on it at most. -/
theorem feed_poll (bridge : Bridge α Link) :
    bridge.poll.1.feed = bridge.feed ∧ bridge.poll.1.dropped = bridge.dropped ∧
      (bridge.poll.2.2 = none ∨ ∃ link amount,
        bridge.poll.2.2 = some (link, .request amount) ∧ bridge.feed = some link ∧
          bridge.dropped = false) := by
  unfold Bridge.poll
  split
  next => exact ⟨rfl, rfl, .inl rfl⟩
  next hthere =>
    have hdropped : bridge.dropped = false := Bool.eq_false_iff.2 hthere
    split
    next x rest _ =>
      simp only [Bridge.consume]
      split
      · refine ⟨rfl, rfl, ?_⟩
        cases hlink : bridge.link with
        | none => exact .inl rfl
        | some link =>
            exact .inr ⟨link, _, rfl, by rw [Bridge.feed, if_neg hthere, hlink], hdropped⟩
      · exact ⟨rfl, rfl, .inl rfl⟩
    next => exact ⟨rfl, rfl, .inl rfl⟩
    next => split <;> exact ⟨rfl, rfl, .inl rfl⟩

/-- A stream is polled. -/
theorem handles_poll (middle : Network α) (index : Nat) (more : List (Task α))
    (hnext : (perform task network).1 = (middle.poll index).1)
    (hadded : (perform task network).2 = (middle.poll index).2.2 ++ more)
    (hmiddle : middle.feedOf = network.feedOf ∧ middle.isCancelled = network.isCancelled)
    (hidle : network.IsIdle task) (hmore : ∀ task ∈ more, task.isLinked = false) :
    Handles network (perform task network).1 (perform task network).2 task := by
  rw [hnext, hadded]
  cases houtlet : middle.outlets[index]? with
  | none =>
      simp only [Network.poll, houtlet]
      exact .aside hidle hmiddle.1 hmiddle.2 (beginsWith_nil.2 hmore)
  | some outlet =>
      obtain ⟨hfeed, hdropped⟩ := feedOf_bridge houtlet
      obtain ⟨hfeeds, hcancelled⟩ := feedOf_setBridge houtlet outlet.unit.poll.1
        outlet.unit.poll.2.2
      obtain ⟨hsame, hstill, hcall⟩ := feed_poll outlet.unit
      rw [hsame, ← hfeed, Function.update_eq_self, hmiddle.1] at hfeeds
      rw [hstill, ← hdropped, Function.update_eq_self, hmiddle.2] at hcancelled
      rw [hmiddle.1] at hfeed
      rw [hmiddle.2] at hdropped
      simp only [Network.poll, houtlet]
      rcases hcall with hnone | ⟨link, amount, hsome, hlink, hthere⟩
      · refine .aside hidle hfeeds hcancelled ?_
        simp only [setBridge, hnone]
        exact beginsWith_nil.2 hmore
      · refine .ask amount hidle (by simp) (hfeed.trans hlink) (hdropped.trans hthere) hfeeds
          hcancelled ?_
        simp only [setBridge, hsome]
        exact ⟨more, rfl, hmore⟩

/-- A stream is dropped. -/
theorem handles_drop (middle : Network α) (index : Nat) (more : List (Task α))
    (hnext : (perform task network).1 = (middle.drop index).1)
    (hadded : (perform task network).2 = (middle.drop index).2 ++ more)
    (hmiddle : middle.feedOf = network.feedOf ∧ middle.isCancelled = network.isCancelled)
    (houtlets : middle.outlets = network.outlets)
    (hidle : (network.Knows (.bridge index) → network.isCancelled (.bridge index) = true) →
      network.IsIdle task)
    (hreleases : Releases network task (.bridge index))
    (hmore : ∀ task ∈ more, task.isLinked = false) :
    Handles network (perform task network).1 (perform task network).2 task := by
  rw [hnext, hadded]
  cases houtlet : middle.outlets[index]? with
  | none =>
      simp only [Network.drop, houtlet]
      refine .aside (hidle fun hknows => ?_) hmiddle.1 hmiddle.2 (beginsWith_nil.2 hmore)
      rw [houtlets] at houtlet
      exact absurd hknows (Nat.not_lt.2 (List.getElem?_eq_none_iff.1 houtlet))
  | some outlet =>
      obtain ⟨hfeed, hdropped⟩ := feedOf_bridge houtlet
      obtain ⟨hfeeds, hcancelled⟩ := feedOf_setBridge houtlet outlet.unit.drop.1
        outlet.unit.drop.2
      simp only [Network.drop, houtlet]
      cases hbefore : outlet.unit.dropped with
      | true =>
          have hdrop : outlet.unit.drop = (outlet.unit, none) := by
            rw [Bridge.drop, if_pos hbefore]
          rw [hdrop, ← hfeed, Function.update_eq_self, hmiddle.1] at hfeeds
          rw [hdrop, ← hdropped, Function.update_eq_self, hmiddle.2] at hcancelled
          rw [hdrop]
          refine .aside (hidle fun _ => ?_) hfeeds hcancelled (beginsWith_nil.2 hmore)
          rw [← hmiddle.2]
          exact hdropped.trans hbefore
      | false =>
          have hdrop : outlet.unit.drop =
              ({ outlet.unit with closed := true, queue := .empty, dropped := true },
                outlet.unit.link.map fun link => (link, .cancel)) := by
            rw [Bridge.drop, if_neg (by rw [hbefore]; exact Bool.false_ne_true)]
          have hlink : network.feedOf (.bridge index) = outlet.unit.link := by
            rw [← hmiddle.1, hfeed, Bridge.feed, hbefore]
            rfl
          rw [hdrop, hmiddle.1] at hfeeds
          rw [hdrop, hmiddle.2] at hcancelled
          rw [hdrop]
          refine .release hreleases ?_ hfeeds hcancelled ?_
          · rw [← hmiddle.2]
            exact hdropped.trans hbefore
          · rw [hlink]
            refine ⟨more, ?_, hmore⟩
            simp only [setBridge]
            cases outlet.unit.link <;> rfl

/-! ## Actions -/

/-- A participant is added who holds nothing. -/
theorem feedOf_join {probes : List (Probe α Link (Action α))} {outlets : List (Outlet α)}
    (hwindows : next.windows = network.windows)
    (hresumptions : next.resumptions = network.resumptions)
    (hprobes : next.probes = network.probes ++ probes)
    (houtlets : next.outlets = network.outlets ++ outlets)
    (hfresh : ∀ probe ∈ probes, probe.link = none)
    (hnew : ∀ outlet ∈ outlets, outlet.unit.feed = none ∧ outlet.unit.dropped = false) :
    next.feedOf = network.feedOf ∧ next.isCancelled = network.isCancelled := by
  have hprobe := @getElem?_append_of_none _ _ network.probes probes (·.link) (fun _ => false)
    fun probe hmem => ⟨hfresh probe hmem, rfl⟩
  constructor <;> funext receiver <;> cases receiver <;>
    simp only [feedOf, isCancelled, hwindows, hresumptions, hprobes, houtlets, hprobe,
      getElem?_append_of_none hnew]

/-- A publisher driven by hand signals without handing over a link. -/
theorem handles_signalByHand {action : Action α} {name : String}
    {deliveries : List (Delivery α Link)}
    (hperform : perform (.act action) network =
      (network.log (.called action)).signalByHand action name deliveries)
    (hidle : network.IsIdle (.act action))
    (hquiet : ∀ receiver, ∀ delivery ∈ deliveries,
      (Task.signal receiver delivery).isLinked = false) :
    Handles network (perform (.act action) network).1 (perform (.act action) network).2
      (.act action) := by
  rw [hperform, signalByHand]
  split
  next receiver _ =>
    refine .aside hidle (feedOf_congr rfl rfl rfl rfl).1 (feedOf_congr rfl rfl rfl rfl).2
      (beginsWith_nil.2 fun task htask => ?_)
    rcases List.mem_append.1 htask with hsignal | hlast
    · obtain ⟨delivery, hdelivery, rfl⟩ := List.mem_map.1 hsignal
      exact hquiet receiver delivery hdelivery
    · simp only [List.mem_cons, List.not_mem_nil, or_false] at hlast
      rcases hlast with rfl | rfl <;> rfl
  next =>
    exact .aside hidle (feedOf_congr rfl rfl rfl rfl).1 (feedOf_congr rfl rfl rfl rfl).2
      (beginsWith_nil.2 (by simp [Task.isLinked]))

/-- An action is begun. -/
theorem handles_act (network : Network α) (action : Action α) :
    Handles network (perform (.act action) network).1 (perform (.act action) network).2
      (.act action) := by
  have hquiet : ∀ tasks : List (Task α), (∀ task ∈ tasks, task.isLinked = false) →
      network.IsIdle (.act action) → ∀ next : Network α,
      next.feedOf = network.feedOf ∧ next.isCancelled = network.isCancelled →
      Handles network next tasks (.act action) := fun tasks htasks hidle next hnext =>
    .aside hidle hnext.1 hnext.2 (beginsWith_nil.2 htasks)
  cases action with
  | define name publisher =>
      obtain ⟨hands, deferreds, hmention⟩ :=
        (network.log (.called (.define name publisher))).exists_mention publisher
      simp only [perform, begin, hmention]
      exact hquiet _ (by simp [Task.isLinked]) trivial _ (feedOf_congr rfl rfl rfl rfl)
  | subscribe name publisher initial react =>
      obtain ⟨hands, deferreds, hmention⟩ :=
        (network.log (.called (.subscribe name publisher initial react))).exists_mention publisher
      have hjoin := @feedOf_join α network
        (perform (.act (.subscribe name publisher initial react)) network).1
        [{ name, initial, react }] [] (by simp only [perform, begin, hmention]; rfl)
        (by simp only [perform, begin, hmention]; rfl)
        (by simp only [perform, begin, hmention]; rfl)
        (by simp only [perform, begin, hmention]; exact (List.append_nil _).symm)
        (fun probe hprobe => by rw [List.mem_singleton.1 hprobe])
        (fun _ houtlet => absurd houtlet List.not_mem_nil)
      have hadded : (perform (.act (.subscribe name publisher initial react)) network).2 =
          [.subscribe ((network.mention publisher).resolve publisher)
            (.probe network.probes.length)] ++
            [.ret (.subscribe name publisher initial react) .done] := by
        obtain ⟨hands', deferreds', hmention'⟩ := network.exists_mention publisher
        simp only [perform, begin, hmention, hmention', List.singleton_append]
        rfl
      exact .enlist .subscribe hjoin.1 hjoin.2 ⟨_, hadded, by simp [Task.isLinked]⟩
  | stream name publisher prefetch =>
      obtain ⟨hands, deferreds, hmention⟩ :=
        (network.log (.called (.stream name publisher prefetch))).exists_mention publisher
      have hjoin := @feedOf_join α network
        (perform (.act (.stream name publisher prefetch)) network).1
        [] [{ name, unit := .ofPrefetch prefetch }] (by simp only [perform, begin, hmention]; rfl)
        (by simp only [perform, begin, hmention]; rfl)
        (by simp only [perform, begin, hmention]; exact (List.append_nil _).symm)
        (by simp only [perform, begin, hmention]; rfl)
        (fun _ hprobe => absurd hprobe List.not_mem_nil)
        (fun outlet houtlet => by rw [List.mem_singleton.1 houtlet]; exact ⟨rfl, rfl⟩)
      have hadded : (perform (.act (.stream name publisher prefetch)) network).2 =
          [.subscribe ((network.mention publisher).resolve publisher)
            (.bridge network.outlets.length)] ++
            [.announce name network.outlets.length,
              .ret (.stream name publisher prefetch) .done] := by
        obtain ⟨hands', deferreds', hmention'⟩ := network.exists_mention publisher
        simp only [perform, begin, hmention, hmention', List.singleton_append]
        rfl
      exact .enlist .stream hjoin.1 hjoin.2 ⟨_, hadded, by simp [Task.isLinked]⟩
  | order name order =>
      have hfeed : ∀ index, network.feedOf (.probe index) =
          (network.probes[index]?).bind (·.link) := fun _ => rfl
      have hfound : (((network.log (.called (.order name order))).probeOf name).bind
          ((network.log (.called (.order name order))).probes[·]?) |>.bind (·.link)) =
          (network.probeOf name).bind fun index => network.feedOf (.probe index) := by
        rw [Option.bind_assoc]
        rfl
      simp only [perform, begin, hfound]
      split
      next link hlink =>
        obtain ⟨index, hindex, hholds⟩ := Option.bind_eq_some_iff.1 hlink
        exact .call hindex hholds (feedOf_congr rfl rfl rfl rfl).1 (feedOf_congr rfl rfl rfl rfl).2
          ⟨_, rfl, by simp [Task.isLinked]⟩
      next hnone =>
        refine hquiet _ (by simp [Task.isLinked]) (fun index hindex => ?_) _
          (feedOf_congr rfl rfl rfl rfl)
        rw [hindex] at hnone
        exact hnone
  | next name x => exact handles_signalByHand rfl trivial (by simp [Task.isLinked])
  | nextAll name xs =>
      refine handles_signalByHand rfl trivial fun receiver delivery hdelivery => ?_
      obtain ⟨x, -, rfl⟩ := List.mem_map.1 hdelivery
      rfl
  | complete name => exact handles_signalByHand rfl trivial (by simp [Task.isLinked])
  | error name failure => exact handles_signalByHand rfl trivial (by simp [Task.isLinked])
  | accept name link react =>
      have hsame : ((network.log (.called (.accept name link react))).tapOf link react).2 =
          (network.tapOf link react).2 := by
        simp only [tapOf, log]
        split <;> rfl
      have hlists : ∀ {γ : Type} (list : Network α → γ),
          (∀ taps, list { network.log (.called (.accept name link react)) with taps } =
            list network) →
          list ((network.log (.called (.accept name link react))).tapOf link react).1 =
            list network := by
        intro γ list hlist
        unfold tapOf
        split
        · exact hlist network.taps
        · exact hlist _
      have hsubscriber := hlists (·.subscriberOf name) fun _ => rfl
      have hfeeds : ∀ hearing : List Receiver,
          ({ ((network.log (.called (.accept name link react))).tapOf link react).1 with
            hearing } : Network α).feedOf = network.feedOf ∧
          ({ ((network.log (.called (.accept name link react))).tapOf link react).1 with
            hearing } : Network α).isCancelled = network.isCancelled := fun hearing =>
        feedOf_congr (hlists (·.probes) fun _ => rfl) (hlists (·.windows) fun _ => rfl)
          (hlists (·.resumptions) fun _ => rfl) (hlists (·.outlets) fun _ => rfl)
      simp only [perform, begin, signalByHand, hsubscriber, hsame]
      cases hreceiver : network.subscriberOf name with
      | none => exact hquiet _ (by simp [Task.isLinked]) trivial _ (hfeeds _)
      | some receiver =>
          exact .offer (.accept hreceiver) (hfeeds _).1 (hfeeds _).2
            ⟨_, rfl, by simp [Task.isLinked]⟩
  | poll name =>
      cases houtlet : (network.log (.called (.poll name))).outletOf name with
      | none =>
          simp only [perform, begin, houtlet]
          exact hquiet _ (by simp [Task.isLinked]) trivial _ (feedOf_congr rfl rfl rfl rfl)
      | some index =>
          exact handles_poll (network.log (.called (.poll name))) index
            [.ret (.poll name) (.polled ((network.log (.called (.poll name))).poll index).2.1)]
            (by simp only [perform, begin, houtlet]) (by simp only [perform, begin, houtlet])
            (feedOf_congr rfl rfl rfl rfl) trivial (by simp [Task.isLinked])
  | collect name most =>
      simp only [perform, begin]
      split <;> exact hquiet _ (by simp [Task.isLinked]) trivial _ (feedOf_congr rfl rfl rfl rfl)
  | drop name =>
      cases houtlet : (network.log (.called (.drop name))).outletOf name with
      | none =>
          simp only [perform, begin, houtlet]
          refine hquiet _ (by simp [Task.isLinked]) (fun index hindex => ?_) _
            (feedOf_congr rfl rfl rfl rfl)
          cases houtlet.symm.trans hindex
      | some index =>
          refine handles_drop (network.log (.called (.drop name))) index [.ret (.drop name) .done]
            (by simp only [perform, begin, houtlet]) (by simp only [perform, begin, houtlet])
            (feedOf_congr rfl rfl rfl rfl) rfl (fun hdone other hother => ?_) (.drop houtlet)
            (by simp [Task.isLinked])
          cases houtlet.symm.trans hother
          exact hdone

/-- What every task does about links. -/
theorem handles_perform (task : Task α) (network : Network α) :
    Handles network (perform task network).1 (perform task network).2 task := by
  cases task with
  | act action => exact handles_act network action
  | ret action result =>
      exact .aside trivial (feedOf_congr rfl rfl rfl rfl).1 (feedOf_congr rfl rfl rfl rfl).2
        (beginsWith_self [])
  | signal receiver delivery =>
      cases receiver with
      | probe index => exact handles_hearProbe network index delivery
      | window index => exact handles_hearWindow network index delivery
      | resumption index => exact handles_hearResumption network index delivery
      | bridge index => exact handles_hearBridge network index delivery
  | order link order => exact handles_call network link order
  | subscribe publisher receiver => exact handles_subscribe network publisher receiver
  | source index work =>
      refine handles_onSource (f := (·.go work)) rfl trivial fun source below effect heffect => ?_
      cases work with
      | finish =>
          simp only [Source.go] at heffect
          split at heffect
          · exact absurd heffect List.not_mem_nil
          · obtain rfl := List.mem_singleton.1 heffect
            rfl
      | emit goal emitted =>
          simp only [Source.go, Source.emit] at heffect
          split at heffect
          · split at heffect
            · exact absurd heffect List.not_mem_nil
            · split at heffect
              · obtain rfl := List.mem_singleton.1 heffect
                rfl
              · simp only [List.mem_cons, List.not_mem_nil, or_false] at heffect
                rcases heffect with rfl | rfl <;> rfl
          · split at heffect
            · exact absurd heffect List.not_mem_nil
            · obtain rfl := List.mem_singleton.1 heffect
              rfl
  | window index pass =>
      exact handles_onWindow (f := (·.go pass)) rfl trivial (fun _ => ⟨rfl, rfl⟩)
        fun window below => isLinked_go window pass below
  | resumption index work => exact handles_resume network index work
  | recover index failure recovery => exact handles_follow network index failure recovery
  | leave receiver =>
      have hleft := feedOf_letGo { network with hearing := network.hearing.erase receiver } receiver
      have hsame := @feedOf_congr α network
        { network with hearing := network.hearing.erase receiver } rfl rfl rfl rfl
      exact .aside trivial (hleft.1.trans hsame.1) (hleft.2.trans hsame.2) (beginsWith_self [])
  | announce name place =>
      cases houtlet : network.outletOf name with
      | none =>
          simp only [perform, announce, houtlet]
          exact .aside trivial (feedOf_congr rfl rfl rfl rfl).1 (feedOf_congr rfl rfl rfl rfl).2
            (beginsWith_self [])
      | some index =>
          exact handles_drop { network with streams := (name, place) :: network.streams } index []
            (by simp only [perform, announce, houtlet])
            (by simp only [perform, announce, houtlet, List.append_nil])
            (feedOf_congr rfl rfl rfl rfl) rfl (fun _ => trivial) (.announce houtlet) (by simp)
  | collect action index left answers =>
      cases left with
      | zero =>
          exact .aside trivial rfl rfl
            (beginsWith_nil.2 (by simp [perform, Network.collect, Task.isLinked]))
      | succ left =>
          have hnext : (perform (.collect action index (left + 1) answers) network).1 =
              (network.poll index).1 := by
            simp only [perform, Network.collect]
            split <;> rfl
          obtain ⟨more, hadded, hmore⟩ : ∃ more,
              (perform (.collect action index (left + 1) answers) network).2 =
                (network.poll index).2.2 ++ more ∧ ∀ task ∈ more, task.isLinked = false := by
            simp only [perform, Network.collect]
            split
            · exact ⟨_, rfl, by simp [Task.isLinked]⟩
            · exact ⟨_, rfl, by simp [Task.isLinked]⟩
          exact handles_poll network index more hnext hadded ⟨rfl, rfl⟩ trivial hmore

end Backpressure.Network
