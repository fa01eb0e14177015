import Backpressure.Proofs.Custody.Descent

/-!
# The lower end of a chain

At the lower end of a chain stands a scripted subscriber, which cancels the link that it was handed,
or a stream, which is dropped. Either can only be done by an action under its own name, and only
after the subscriber was handed its link, or the stream was announced.

Main results:

- Theorem `cancel_of_mem` says who cancels a link: a scripted subscriber by an action, or a receiver
  that is no scripted subscriber and was handed that link.
- Theorem `SubscriberEnd.perform` and theorem `StreamEnd.perform` follow the two kinds of ends
  through every task.
-/

namespace Backpressure.Network

variable {α : Type} {network next : Network α} {past todo rest added : List (Task α)}
  {task : Task α} {up name : String} {bottom receiver : Receiver} {link : Link} {index : Nat}

/-! ## One thing before another -/

/-- One of two things comes last, or both have happened before. -/
theorem sublist_pair_concat {β : Type} {first second last : β} {xs : List β} :
    [first, second].Sublist (xs ++ [last]) ↔
      [first, second].Sublist xs ∨ first ∈ xs ∧ second = last := by
  rw [List.sublist_append_iff]
  constructor
  · rintro ⟨front, back, heq, hfront, hback⟩
    rcases List.sublist_singleton.1 hback with rfl | rfl
    · rw [List.append_nil] at heq
      exact .inl (heq ▸ hfront)
    · have hsplit : [first] ++ [second] = front ++ [last] := heq
      obtain ⟨rfl, hlast⟩ := List.append_inj' hsplit rfl
      exact .inr ⟨List.singleton_sublist.1 hfront, List.singleton_inj.1 hlast⟩
  · rintro (hboth | ⟨hfirst, rfl⟩)
    · exact ⟨_, [], (List.append_nil _).symm, hboth, List.nil_sublist _⟩
    · exact ⟨[first], [second], rfl, List.singleton_sublist.2 hfirst, List.Sublist.refl _⟩

/-- Whether something that passes one test comes before something that passes another one. -/
def comesBefore {β : Type} (first second : β → Bool) : List β → Bool
  | [] => false
  | x :: xs => first x && xs.any second || comesBefore first second xs

/-- What comes before something else is found by going through a list. -/
theorem comesBefore_eq_true {β : Type} {first second : β → Bool} {xs : List β} :
    comesBefore first second xs = true ↔
      ∃ x y, first x = true ∧ second y = true ∧ [x, y].Sublist xs := by
  induction xs with
  | nil => simp [comesBefore]
  | cons z zs ih =>
      simp only [comesBefore, Bool.or_eq_true, Bool.and_eq_true, List.any_eq_true, ih]
      constructor
      · rintro (⟨hz, y, hmem, hy⟩ | ⟨x, y, hx, hy, hboth⟩)
        · exact ⟨z, y, hz, hy, (List.singleton_sublist.2 hmem).cons_cons z⟩
        · exact ⟨x, y, hx, hy, hboth.cons z⟩
      · rintro ⟨x, y, hx, hy, hboth⟩
        rcases List.sublist_cons_iff.1 hboth with hlater | ⟨_, heq, hmem⟩
        · exact .inr ⟨x, y, hx, hy, hlater⟩
        · injection heq with hfirst hsecond
          subst hfirst hsecond
          exact .inl ⟨hx, y, List.singleton_sublist.1 hmem, hy⟩

/-! ## Who cancels a link -/

/-- A link is cancelled by a scripted subscriber that holds it, or by a receiver of another kind
that was handed it. -/
theorem cancel_of_mem (h : Traced past network (task :: rest))
    (hmem : .order link .cancel ∈ (perform task network).2) :
    (∃ name index, task = .act (.order name .cancel) ∧ network.probeOf name = some index ∧
        network.feedOf (.probe index) = some link) ∨
      ∃ receiver, (∀ index, receiver ≠ .probe index) ∧
        .signal receiver (.subscribe link) ∈ past ++ [task] := by
  have hfront : ∀ {front : List (Task α)}, BeginsWith front (perform task network).2 →
      .order link .cancel ∈ front := fun hadds => hadds.mem hmem rfl
  have hself : task ∈ past ++ [task] := List.mem_append_right _ (List.mem_singleton_self _)
  -- A request is no cancellation.
  have hrequest : ∀ {other : Link} {orders : List Order},
      (orders = [] ∨ ∃ amount, orders = [.request amount]) →
      .order link .cancel ∉ orders.map (Task.order (α := α) other) := by
    rintro other orders (rfl | ⟨amount, rfl⟩) <;> simp
  cases handles_perform task network with
  | aside _ _ _ hadds | enlist _ _ _ hadds | offer _ _ _ hadds | take _ _ _ _ hadds
  | pass _ _ _ _ hadds | renew _ _ _ hadds | welcome _ _ _ _ hadds | ask _ _ _ _ _ _ _ hadds =>
      have hnone := hfront hadds
      simp at hnone
  | bind _ _ _ _ hrequests hadds | meet _ _ _ _ hrequests hadds =>
      exact absurd (hfront hadds) (hrequest hrequests)
  | refuse _ _ _ hadds =>
      injection List.mem_singleton.1 (hfront hadds) with hlink
      subst hlink
      have hfounded := h.founded _ (List.mem_append_right past List.mem_cons_self)
      exact .inr ⟨_, by simp, List.mem_append_left _ hfounded⟩
  | shut _ _ _ _ hadds =>
      injection List.mem_singleton.1 (hfront hadds) with hlink
      subst hlink
      exact .inr ⟨_, by simp, hself⟩
  | call hnamed hholds _ _ hadds =>
      injection List.mem_singleton.1 (hfront hadds) with hlink horder
      subst hlink horder
      exact .inl ⟨_, _, rfl, hnamed, hholds⟩
  | @release _ place hreleases _ _ _ hadds =>
      obtain ⟨held, hheld, heq⟩ := List.mem_map.1 (hfront hadds)
      injection heq with hlink
      subst hlink
      refine .inr ⟨place, ?_, List.mem_append_left _ (h.feeds _ _ (Option.mem_toList.1 hheld))⟩
      rintro index rfl
      cases hreleases with
      | cancel hown => cases hown

/-! ## Scripted subscribers -/

/-- The names of the scripted subscribers stay as they are, unless one is made. -/
theorem probeNames_perform (h : task.isFurther up = true) :
    (perform task network).1.probes.map (·.name) = network.probes.map (·.name) := by
  by_cases hconcerns : task.concernsProbes = false
  · rw [probes_perform hconcerns]
  · cases task with
    | act action =>
        cases action with
        | subscribe => cases h
        | _ => exact absurd rfl hconcerns
    | signal receiver delivery =>
        cases receiver with
        | probe index =>
            simp only [perform, deliver, hearProbe]
            split
            next probe hprobe =>
              obtain ⟨hlt, heq⟩ := List.getElem?_eq_some_iff.1 hprobe
              refine List.ext_getElem? fun place => ?_
              simp only [log, List.getElem?_map, List.getElem?_set]
              split
              next hplace =>
                subst hplace
                simp [hlt, heq, Probe.hear]
              next => rfl
            next => rfl
        | window | resumption | bridge => exact absurd rfl hconcerns
    | _ => exact absurd rfl hconcerns

/-- The scripted subscriber that a name means, if there is only one. -/
theorem probeOf_eq_some {other : String} (h : network.probes.map (·.name) = [name]) :
    network.probeOf other = some index ↔ other = name ∧ index = 0 := by
  obtain ⟨probe, hprobes, rfl⟩ := List.map_eq_singleton_iff.1 h
  by_cases hname : probe.name = other
  · simp [probeOf, lastIndex?, hprobes, hname, eq_comm]
  · simp [probeOf, lastIndex?, hprobes, hname, Ne.symm hname]

/-- A scripted subscriber that holds a link goes on holding one. -/
theorem feedOf_probe_perform (h : network.feedOf (.probe index) ≠ none) :
    (perform task network).1.feedOf (.probe index) ≠ none := by
  have hsame : (perform task network).1.feedOf = network.feedOf →
      (perform task network).1.feedOf (.probe index) ≠ none := fun heq => by rwa [heq]
  have hother : ∀ {place held}, place ≠ .probe index →
      (perform task network).1.feedOf = Function.update network.feedOf place held →
      (perform task network).1.feedOf (.probe index) ≠ none := by
    intro place held hplace heq
    rwa [heq, Function.update_of_ne (Ne.symm hplace)]
  cases handles_perform task network with
  | aside _ heq | enlist _ heq | offer _ heq | pass _ _ heq | renew _ heq | refuse _ heq
  | call _ _ heq | ask _ _ _ _ _ heq => exact hsame heq
  | take _ _ heq | bind _ _ heq | welcome _ _ heq | shut _ _ heq => exact hother (by simp) heq
  | @meet place _ _ _ heq =>
      rw [heq, Function.update_apply]
      split
      · exact Option.some_ne_none _
      · exact h
  | release hreleases _ heq =>
      refine hother ?_ heq
      rintro rfl
      cases hreleases with
      | cancel hown => cases hown

/-- Whether an expression begins with an operator. -/
def isOperator : Publisher α (Action α) → Bool
  | .takeLast _ _ _ | .resume _ _ _ => true
  | _ => false

/-- A scripted subscriber that was handed a link under a name has cancelled it. -/
def HasCancelled (name : String) (past : List (Task α)) : Prop :=
  ∃ link, [.signal (.probe 0) (.subscribe link), .act (.order name .cancel)].Sublist past

/-- Whether a task hands a link to a receiver. -/
def Task.hands (receiver : Receiver) : Task α → Bool
  | .signal other (.subscribe _) => other = receiver
  | _ => false

/-- Whether a scripted subscriber cancels by a task. -/
def Task.cancels (name : String) : Task α → Bool
  | .act (.order other .cancel) => other = name
  | _ => false

/-- A link is handed over by a signal. -/
theorem hands_eq_true :
    task.hands receiver = true ↔ ∃ link, task = .signal receiver (.subscribe link) := by
  constructor
  · intro h
    cases task with
    | signal other delivery =>
        cases delivery with
        | subscribe link => exact ⟨link, by rw [of_decide_eq_true h]⟩
        | next | error | complete => cases h
    | _ => cases h
  · rintro ⟨link, rfl⟩
    exact decide_eq_true rfl

/-- A scripted subscriber cancels by an action. -/
theorem cancels_eq_true : task.cancels name = true ↔ task = .act (.order name .cancel) := by
  constructor
  · intro h
    cases task with
    | act action =>
        cases action with
        | order other order =>
            cases order with
            | cancel => rw [of_decide_eq_true h]
            | request => cases h
        | _ => cases h
    | _ => cases h
  · rintro rfl
    exact decide_eq_true rfl

/-- Whether a scripted subscriber has cancelled can be decided. -/
instance decidableHasCancelled (name : String) (past : List (Task α)) :
    Decidable (HasCancelled name past) :=
  decidable_of_iff (comesBefore (Task.hands (.probe 0)) (Task.cancels name) past = true) <| by
    simp only [comesBefore_eq_true, hands_eq_true, cancels_eq_true, HasCancelled]
    constructor
    · rintro ⟨_, _, ⟨link, rfl⟩, rfl, hboth⟩
      exact ⟨link, hboth⟩
    · rintro ⟨link, hboth⟩
      exact ⟨_, _, ⟨link, rfl⟩, rfl, hboth⟩

/-- A cancellation is not undone. -/
theorem HasCancelled.concat (h : HasCancelled name past) (task : Task α) :
    HasCancelled name (past ++ [task]) :=
  h.imp fun _ hboth => sublist_pair_concat.2 (.inl hboth)

/-- A scripted subscriber at the lower end of a chain with an operator above it. -/
structure SubscriberEnd (name : String) (past : List (Task α)) (network : Network α)
    (todo : List (Task α)) : Prop where
  names : network.probes.map (·.name) = [name]
  holds : ∀ link, .signal (.probe 0) (.subscribe link) ∈ past →
    network.feedOf (.probe 0) ≠ none
  covered : ∀ name index, ¬ network.Remembers name (.probe index)
  building : ∀ publisher index, .subscribe publisher (.probe index) ∈ todo →
    isOperator publisher = true
  calls : HasCancelled name past → ∃ link, .signal (.probe 0) (.subscribe link) ∈ past ∧
    .order link .cancel ∈ past ++ todo
  called : ∀ (upper : Receiver) own, upper.link? = some own →
    .signal (.probe 0) (.subscribe own) ∈ past → .order own .cancel ∈ past ++ todo →
    HasCancelled name past

/-- A scripted subscriber at the lower end of a chain after one more task. -/
theorem SubscriberEnd.perform (h : SubscriberEnd name past network (task :: rest))
    (htraced : Traced past network (task :: rest))
    (hlaid : Laid up (.probe 0) network (task :: rest))
    (htask : task.isFurther up = true) (hfair : task.announced = [] → network.IsFair task)
    (hfresh : ∀ receiver link, task = .signal receiver (.subscribe link) →
      ∀ other, .signal receiver (.subscribe other) ∉ past) :
    SubscriberEnd name (past ++ [task]) (Network.perform task network).1
      ((Network.perform task network).2 ++ rest) where
  names := (probeNames_perform htask).trans h.names
  holds := fun link hmem => by
    rcases List.mem_append.1 hmem with hbefore | hnow
    · exact feedOf_probe_perform (h.holds link hbefore)
    · obtain rfl := List.mem_singleton.1 hnow
      cases handles_perform (.signal (.probe 0) (.subscribe link)) network with
      | aside hidle => exact absurd hlaid.there hidle
      | enlist henlists => cases henlists
      | offer hoffers => cases hoffers
      | release hreleases => cases hreleases
      | ask _ hidle => exact absurd hlaid.there hidle
      | meet _ _ heq =>
          rw [heq, Function.update_self]
          exact Option.some_ne_none link
  covered := fun found index hnext => by
    rcases (retains_perform task network).remembers found _ hnext with hbefore | rfl | rfl
    · exact h.covered found index hbefore
    · exact Bool.false_ne_true (h.building _ index List.mem_cons_self)
    · exact Bool.false_ne_true (h.building _ index List.mem_cons_self)
  building := fun publisher index hmem => by
    rcases List.mem_append.1 hmem with hadded | hleft
    · obtain ⟨above, below, rfl⟩ := exists_subscribe_of_mem htask hfair hadded
      generalize hplace : Receiver.probe index = place at hadded
      cases enlists_of_mem hadded <;> cases hplace
    · exact absurd (htraced.fronts _ hleft).symm Bool.false_ne_true
  calls := by
    rintro ⟨link, hboth⟩
    rcases sublist_pair_concat.1 hboth with hbefore | ⟨hmem, rfl⟩
    · obtain ⟨held, hhanded, hcall⟩ := h.calls ⟨link, hbefore⟩
      exact ⟨held, List.mem_append_left _ hhanded, mem_perform.2 (.inl hcall)⟩
    · have hholds := h.holds link hmem
      have hnamed : network.probeOf name = some 0 := (probeOf_eq_some h.names).2 ⟨rfl, rfl⟩
      cases handles_perform (.act (.order name .cancel)) network with
      | aside hidle => exact absurd (hidle 0 hnamed) hholds
      | enlist henlists => cases henlists
      | offer hoffers => cases hoffers
      | release hreleases => cases hreleases
      | ask _ hidle => exact absurd (hidle 0 hnamed) hholds
      | @call _ _ index held hfound hheld _ _ hadds =>
          obtain rfl := (probeOf_eq_some h.names).1 hfound |>.2
          obtain ⟨others, heq, -⟩ := hadds
          refine ⟨held, List.mem_append_left _ (htraced.feeds _ _ hheld), mem_perform.2 (.inr ?_)⟩
          rw [heq]
          exact List.mem_cons_self
  called := fun upper own hown hmem hcall => by
    have hfounded : ∀ {receiver}, .signal receiver (.subscribe own) ∈ past ++ task :: rest →
        .signal (.probe 0) (.subscribe own) ∈ past ++ task :: rest → receiver = .probe 0 := by
      intro receiver hfirst hsecond
      obtain ⟨-, speaker, hspeaker, hplace⟩ := htraced.founded _ hfirst upper hown
      obtain ⟨-, second, hagain, hother⟩ := htraced.founded _ hsecond upper hown
      obtain rfl := Option.some_inj.1 (hspeaker.symm.trans hagain)
      exact Option.some_inj.1 (hplace.symm.trans hother)
    have hall : ∀ {found : Task α}, found ∈ past ++ [task] → found ∈ past ++ task :: rest := by
      intro found hfound
      rw [List.append_cons]
      exact List.mem_append_left _ hfound
    have hhanded := hall hmem
    rcases mem_perform.1 hcall with hbefore | hadded
    · rcases List.mem_append.1 hmem with hearlier | hnow
      · exact (h.called upper own hown hearlier hbefore).concat task
      · -- The link was handed to the subscriber before, or no one could have called on it.
        obtain ⟨target, htarget⟩ := htraced.founded _ hbefore
        have heq := hfounded (List.mem_append_left _ htarget) hhanded
        exact absurd (heq ▸ htarget) (hfresh _ _ (List.mem_singleton.1 hnow).symm own)
    · rcases cancel_of_mem htraced hadded with ⟨other, index, rfl, hnamed, hheld⟩ |
        ⟨receiver, hreceiver, htaken⟩
      · obtain ⟨rfl, rfl⟩ := (probeOf_eq_some h.names).1 hnamed
        exact ⟨own, sublist_pair_concat.2 (.inr ⟨htraced.feeds _ _ hheld, rfl⟩)⟩
      · exact absurd (hfounded (hall htaken) hhanded) (hreceiver 0)

/-! ## Streams -/

/-- A subscription closes no stream, if no publisher driven by hand has a subscriber yet. -/
theorem isOpen_subscribe_of_free {publisher : Publisher α (Action α)}
    (h : ∀ name other, ¬ network.Remembers name other) :
    (network.subscribe receiver publisher).1.isOpen index = network.isOpen index := by
  cases publisher with
  | items supply =>
      simp only [subscribe]
      split <;> rfl
  | hand name =>
      simp only [subscribe]
      split
      next place hplace =>
        obtain ⟨hlt, hname, -⟩ := List.findIdx?_eq_some_iff_getElem.1 hplace
        have hfree : network.hands[place].subscriber = none :=
          Option.eq_none_iff_forall_not_mem.2 fun other hother =>
            h name other (.inl ⟨_, List.getElem_mem hlt, of_decide_eq_true hname, hother⟩)
        simp only [subscribeHand, List.getElem?_eq_getElem hlt, Option.bind_some, hfree]
        rfl
      next => rfl
  | deferred name =>
      have hfree : (network.deferreds.find? (·.name = name)).bind (·.subscriber) = none := by
        refine Option.eq_none_iff_forall_not_mem.2 fun other hother => ?_
        obtain ⟨deferred, hdeferred, hsubscriber⟩ := Option.bind_eq_some_iff.1 hother
        have hname := List.find?_some hdeferred
        exact h name other (.inr ⟨deferred, List.mem_of_find?_eq_some hdeferred,
          of_decide_eq_true hname, hsubscriber⟩)
      simp only [subscribe, subscribeDeferred, hfree]
      rfl
  | fail | named | takeLast | resume => rfl

/-- No stream is closed for want of a holder, if someone is let go only while he is remembered, and
subscribed only before anyone is. -/
theorem not_released_of_isFair (hfair : task.announced = [] → network.IsFair task)
    (hfree : ∀ publisher receiver, task = .subscribe publisher receiver →
      ∀ name other, ¬ network.Remembers name other) :
    .released ∉ bridgeTurns index task network := by
  intro hreleased
  obtain ⟨hopen, hclosed, hcause⟩ := isOpen_of_released hreleased
  have hsame : (perform task network).1.isOpen index = network.isOpen index := by
    rcases hcause with ⟨receiver, rfl⟩ | ⟨publisher, receiver, rfl⟩
    · obtain ⟨name, hremembers⟩ := hfair rfl
      let left : Network α := { network with hearing := network.hearing.erase receiver }
      have hleft : left.letGo receiver = left := letGo_of_isHeld fun place hplace => by
        have hheld : left.isHeldByHand place = true := Remembers.isHeldByHand hremembers hplace
        rw [isHeld, hheld, Bool.true_or]
      have hnext : (perform (.leave receiver) network).1 = left := hleft
      rw [hnext]
      rfl
    · exact isOpen_subscribe_of_free (hfree publisher receiver rfl)
  rw [hopen, hclosed] at hsame
  exact Bool.false_ne_true hsame

/-- A stream was dropped under a name that was announced for it. -/
def HasDropped (name : String) (past : List (Task α)) : Prop :=
  [.announce name 0, .act (.drop name)].Sublist past

/-- Whether a task announces the first stream under a name. -/
def Task.announces (name : String) : Task α → Bool
  | .announce other 0 => other = name
  | _ => false

/-- Whether a task drops the stream that a name means. -/
def Task.drops (name : String) : Task α → Bool
  | .act (.drop other) => other = name
  | _ => false

/-- A stream is announced by a task. -/
theorem announces_eq_true : task.announces name = true ↔ task = .announce name 0 := by
  constructor
  · intro h
    cases task with
    | announce other index =>
        cases index with
        | zero => rw [of_decide_eq_true h]
        | succ => cases h
    | _ => cases h
  · rintro rfl
    exact decide_eq_true rfl

/-- A stream is dropped by an action. -/
theorem drops_eq_true : task.drops name = true ↔ task = .act (.drop name) := by
  constructor
  · intro h
    cases task with
    | act action =>
        cases action with
        | drop other => rw [of_decide_eq_true h]
        | _ => cases h
    | _ => cases h
  · rintro rfl
    exact decide_eq_true rfl

/-- Whether a stream was dropped can be decided. -/
instance decidableHasDropped (name : String) (past : List (Task α)) :
    Decidable (HasDropped name past) :=
  decidable_of_iff (comesBefore (Task.announces name) (Task.drops name) past = true) <| by
    simp only [comesBefore_eq_true, announces_eq_true, drops_eq_true, HasDropped,
      exists_and_left, exists_eq_left]

/-- A stream at the lower end of a chain. -/
structure StreamEnd (name : String) (events : List (Voiced α)) (network : Network α)
    (todo : List (Task α)) : Prop where
  announces : (events.map Prod.snd ++ todo).flatMap Task.announced = [(name, 0)]
  streams : network.streams = (events.map Prod.snd).flatMap Task.announced
  dropped : network.isCancelled (.bridge 0) = true ↔ HasDropped name (events.map Prod.snd)
  subscribed : ∀ publisher index, .subscribe publisher (.bridge index) ∈ todo → network.Unbroken 0
  unbroken : network.Unbroken 0 ∨ lineOf (.bridge 0) events ≠ []

/-- The stream that a name means, once one was announced under it. -/
theorem StreamEnd.outletOf_eq_some {events : List (Voiced α)} {other : String}
    (h : StreamEnd name events network todo) :
    network.outletOf other = some index ↔
      (other = name ∧ index = 0) ∧ .announce name 0 ∈ events.map Prod.snd := by
  have hall := h.announces
  rw [List.flatMap_append] at hall
  rcases List.append_eq_singleton_iff.1 hall with ⟨hpast, -⟩ | ⟨hpast, -⟩
  · have hnone : .announce name 0 ∉ events.map Prod.snd := fun hmem => by
      have hnil := List.flatMap_eq_nil_iff.1 hpast _ hmem
      cases hnil
    simp [outletOf, h.streams, hpast, hnone]
  · have hmem : .announce name 0 ∈ events.map Prod.snd := by
      obtain ⟨found, hfound, hentry⟩ := List.mem_flatMap.1 (hpast ▸ List.mem_singleton_self _)
      cases found with
      | announce => cases List.mem_singleton.1 hentry; exact hfound
      | _ => cases hentry
    rw [and_iff_left hmem]
    by_cases hname : name = other
    · simp [outletOf, h.streams, hpast, hname, eq_comm]
    · simp [outletOf, h.streams, hpast, hname, Ne.symm hname]

/-- A stream at the lower end of a chain after one more task. -/
theorem StreamEnd.perform {events : List (Voiced α)} {voice : Option Speaker}
    (h : StreamEnd name events network (task :: rest)) (hknows : network.Knows (.bridge 0))
    (htask : task.isFurther up = true) (hfair : task.announced = [] → network.IsFair task)
    (hsmooth : Smooth task.announced network (Network.perform task network))
    (hfree : ∀ publisher receiver, task = .subscribe publisher receiver →
      ∀ name other, ¬ network.Remembers name other)
    (hrest : ∀ other ∈ rest, other.isHanding = false) :
    StreamEnd name (events ++ [(voice, task)]) (Network.perform task network).1
      ((Network.perform task network).2 ++ rest) where
  announces := by
    have hadded : (Network.perform task network).2.flatMap Task.announced = [] :=
      List.flatMap_eq_nil_iff.2 fun other hother => (hsmooth.tasks other hother).announced
    have hbefore := h.announces
    simpa [List.flatMap_append, hadded] using hbefore
  streams := by
    have hall := h.announces
    rw [hsmooth.streams, h.streams, List.map_append, List.flatMap_append]
    simp only [List.flatMap_append, List.flatMap_cons] at hall
    rcases List.append_eq_singleton_iff.1 hall with ⟨hpast, -⟩ | ⟨-, hlater⟩
    · simp [hpast]
    · simp [(List.append_eq_nil_iff.1 hlater).1]
  dropped := by
    rw [List.map_append]
    constructor
    · intro hcancelled
      by_cases hbefore : network.isCancelled (.bridge 0) = true
      · exact sublist_pair_concat.2 (.inl (h.dropped.1 hbefore))
      · have hsame : (Network.perform task network).1.isCancelled ≠ network.isCancelled :=
          fun heq => hbefore (heq ▸ hcancelled)
        cases handles_perform task network with
        | aside _ _ heq | enlist _ _ heq | offer _ _ heq | take _ _ _ heq | pass _ _ _ heq
        | renew _ _ heq | bind _ _ _ heq | refuse _ _ heq | welcome _ _ _ heq | shut _ _ _ heq
        | meet _ _ _ heq | call _ _ _ heq | ask _ _ _ _ _ _ heq => exact absurd heq hsame
        | @release _ place hreleases _ _ heq =>
            obtain rfl : place = .bridge 0 := by
              by_contra hplace
              rw [heq, Function.update_of_ne (Ne.symm hplace)] at hcancelled
              exact hbefore hcancelled
            cases hreleases with
            | cancel hown => cases hown
            | drop hfound =>
                obtain ⟨⟨rfl, -⟩, hmem⟩ := h.outletOf_eq_some.1 hfound
                exact sublist_pair_concat.2 (.inr ⟨hmem, rfl⟩)
            | @announce other index _ hfound =>
                -- A stream that was announced is not announced again.
                obtain ⟨-, hmem⟩ := h.outletOf_eq_some.1 hfound
                have hcount := congrArg List.length h.announces
                have hpos : 0 < ((events.map Prod.snd).flatMap Task.announced).length :=
                  List.length_pos_of_mem (List.mem_flatMap.2 ⟨_, hmem, List.mem_singleton_self _⟩)
                simp only [List.flatMap_append, List.flatMap_cons, Task.announced,
                  List.length_append, List.length_singleton] at hcount
                omega
    · intro hdropped
      rcases sublist_pair_concat.1 hdropped with hbefore | ⟨hmem, heq⟩
      · exact isCancelled_perform (h.dropped.2 hbefore)
      · obtain rfl : .act (.drop name) = task := heq
        have hfound : network.outletOf name = some 0 := h.outletOf_eq_some.2 ⟨⟨rfl, rfl⟩, hmem⟩
        cases handles_perform (.act (.drop name)) network with
        | aside hidle _ heq | ask _ hidle _ _ _ _ heq =>
            rw [heq]
            exact hidle 0 hfound hknows
        | enlist henlists => cases henlists
        | offer hoffers => cases hoffers
        | release hreleases _ _ heq =>
            cases hreleases with
            | drop hother =>
                obtain rfl := Option.some_inj.1 (hfound.symm.trans hother)
                rw [heq, Function.update_self]
  subscribed := fun publisher index hmem => by
    rcases List.mem_append.1 hmem with hadded | hleft
    · obtain ⟨above, below, rfl⟩ := exists_subscribe_of_mem htask hfair hadded
      generalize hplace : Receiver.bridge index = place at hadded
      cases enlists_of_mem hadded <;> cases hplace
    · exact absurd (hrest _ hleft).symm Bool.false_ne_true
  unbroken := by
    have hkept : .released ∉ bridgeTurns 0 task network := not_released_of_isFair hfair hfree
    by_cases hother : ∀ publisher, task ≠ .subscribe publisher (.bridge 0)
    · exact stays_unbroken h.unbroken hother hkept
    · obtain ⟨publisher, htask⟩ := not_forall_not.1 hother
      have hbefore := h.subscribed publisher 0 (htask ▸ List.mem_cons_self)
      exact .inl (hbefore.perform (fun delivery heq => by rw [htask] at heq; cases heq) hkept)

end Backpressure.Network
