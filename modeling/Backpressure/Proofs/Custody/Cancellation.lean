import Backpressure.Proofs.Custody.Ends

/-!
# How a cancellation reaches the publisher

A cancellation goes up a chain from one operator to the next. An operator that holds its link
cancels it at once. One that is cancelled before it has bound its link cancels it on binding. Either
way the link is cancelled once, however often the receiver at the lower end cancels.

Main results:

- Theorem `Chained.perform` collects what every task preserves about a chain.
- Theorem `Chained.quits_of_isCancelled` and theorem `Chained.isCancelled_of_quits` follow a
  cancellation down and up the chain.
- Theorem `cancellation_reaches_publisher_once` states how often the link of the publisher is
  cancelled.
-/

namespace Backpressure.Network

variable {α : Type} {network : Network α} {events : List (Voiced α)}
  {past todo rest : List (Task α)} {voice : Option Speaker} {task : Task α} {up name : String}
  {receiver : Receiver} {link : Link} {publisher : Publisher α (Action α)}
  {later : List (Action α)} {fuel : Nat}

/-! ## The lower end -/

/-- What stands at the lower end of a chain. -/
inductive Downstream (α : Type) where
  | subscriber (initial : UInt64) (react : Reaction (Action α))
  | stream (prefetch : UInt64)

namespace Downstream

/-- The action by which a chain is set up. -/
def opening (name : String) (publisher : Publisher α (Action α)) : Downstream α → Action α
  | .subscriber initial react => .subscribe name publisher initial react
  | .stream prefetch => .stream name publisher prefetch

/-- The receiver at the lower end of a chain that is set up first of all. -/
def bottom : Downstream α → Receiver
  | .subscriber _ _ => .probe 0
  | .stream _ => .bridge 0

/-- Whether someone stands below an operator or is a stream. -/
def tops (publisher : Publisher α (Action α)) : Downstream α → Bool
  | .subscriber _ _ => isOperator publisher
  | .stream _ => true

/-- The lower end has cancelled: a scripted subscriber has cancelled the link that it was handed, or
a stream was dropped. -/
def Quits (name : String) (past : List (Task α)) : Downstream α → Prop
  | .subscriber _ _ => HasCancelled name past
  | .stream _ => HasDropped name past

/-- Whether the lower end has cancelled can be decided. -/
instance decidableQuits (name : String) (past : List (Task α)) :
    (downstream : Downstream α) → Decidable (downstream.Quits name past)
  | .subscriber _ _ => decidableHasCancelled name past
  | .stream _ => decidableHasDropped name past

/-- What holds of the lower end at a point of a run. -/
def Ends (name : String) (events : List (Voiced α)) (network : Network α)
    (todo : List (Task α)) : Downstream α → Prop
  | .subscriber _ _ => SubscriberEnd name (events.map Prod.snd) network todo
  | .stream _ => StreamEnd name events network todo

end Downstream

variable {downstream : Downstream α}

/-! ## Chains -/

/-- At a point of a run, the publisher of a name drives a chain that was set up first of all and
leads down to the receiver at the lower end. -/
structure Chained (up name : String) (downstream : Downstream α) (events : List (Voiced α))
    (network : Network α) (todo : List (Task α)) : Prop where
  traced : Traced (events.map Prod.snd) network todo
  recording : Recording (events.map Prod.snd) network todo
  laid : Laid up downstream.bottom network todo
  faultless : Faultless network
  fair : ∀ task ∈ todo, task.announced = [] → network.IsFair task
  passed : Passed downstream.bottom (events.map Prod.snd) network todo
  heeded : Heeded events
  revoked : Revoked (events.map Prod.snd) network
  kept : ∀ receiver link, (∀ index, receiver ≠ .probe index) →
    takersOf link (events.map Prod.snd) = [receiver] →
    Kept (events.map Prod.snd) todo network receiver link
  ended : downstream.Ends name events network todo

/-- A task that sets up nothing new goes without a failure. -/
theorem Chained.smooth (h : Chained up name downstream events network (task :: rest))
    (htask : task.isFurther up = true) :
    Smooth task.announced network (Network.perform task network) := by
  refine smooth_perform h.faultless (h.fair task List.mem_cons_self) ?_ ?_ ?_
  · rintro other publisher prefetch rfl
    cases htask
  · rintro other failure rfl
    refine Option.eq_none_iff_forall_not_mem.2 fun receiver hreceiver => ?_
    have hname := (h.laid.crown other receiver (remembers_of_subscriberOf hreceiver)).1
    exact of_decide_eq_true htask hname
  · rintro publisher receiver rfl
    obtain ⟨hdriver, -, -, hnone⟩ := h.laid.building publisher receiver List.mem_cons_self
    refine ⟨?_, hnone⟩
    rintro failure rfl
    cases hdriver

/-- A chain goes on being one after one more task that sets up nothing new, if a receiver that is
handed a link has heard nothing before. -/
theorem Chained.perform (h : Chained up name downstream events network (task :: rest))
    (htask : task.isFurther up = true)
    (hheard : ∀ receiver link, task = .signal receiver (.subscribe link) →
      network.Knows receiver ∧ lineOf receiver events = []) :
    Chained up name downstream (events ++ [(voice, task)]) (Network.perform task network).1
      ((Network.perform task network).2 ++ rest) := by
  have hfair : task.announced = [] → network.IsFair task := h.fair task List.mem_cons_self
  have hsmooth := h.smooth htask
  have hpast : (events ++ [(voice, task)]).map Prod.snd = events.map Prod.snd ++ [task] :=
    List.map_append
  have hhanded : ∀ receiver link, task = .signal receiver (.subscribe link) →
      ∀ other, .signal receiver (.subscribe other) ∉ events.map Prod.snd :=
    fun receiver link heq other hmem =>
      h.heeded.heard receiver other hmem (hheard receiver link heq).2
  refine ⟨?_, ?_, h.laid.perform htask hfair h.traced.fronts, hsmooth.faultless, ?_, ?_, ?_, ?_, ?_,
    ?_⟩
  · rw [hpast]
    exact h.traced.perform fun receiver link heq => (hheard receiver link heq).1
  · rw [hpast]
    exact h.recording.perform h.traced
  · intro other hother hquiet
    rcases List.mem_append.1 hother with hadded | hleft
    · exact hsmooth.tasks other hadded
    · exact (h.fair other (List.mem_cons_of_mem _ hleft) hquiet).mono hsmooth.remembers
  · rw [hpast]
    exact h.passed.perform h.traced h.laid h.faultless htask hfair hsmooth
  · refine h.heeded.perform (fun receiver link heq => (hheard receiver link heq).2) ?_
    rintro publisher receiver rfl link hmem
    exact h.passed.unbuilt publisher receiver receiver link List.mem_cons_self
      (List.mem_append_left _ hmem)
  · rw [hpast]
    exact h.revoked.perform h.traced
  · intro receiver link hkeeper htakers
    rw [hpast] at htakers ⊢
    rcases takersOf_concat htakers with ⟨hbefore, rfl⟩ | ⟨hbefore, hfresh⟩
    · obtain ⟨hknows, hline⟩ := hheard receiver link rfl
      refine kept_of_handed h.traced hkeeper hknows hbefore fun index hindex => ?_
      -- The stream is the one at the lower end, which is open before it has heard something.
      subst hindex
      have hend := (h.passed.reached _ link
        (List.mem_append_right _ List.mem_cons_self)).eq_of_unit?_eq_none rfl
      cases downstream with
      | subscriber => cases hend
      | stream =>
          cases hend
          exact h.ended.unbroken.resolve_right (absurd hline)
    · exact (h.kept receiver link hkeeper hbefore).perform h.traced hkeeper hbefore hfresh
  · cases downstream with
    | subscriber initial react =>
        have hended := SubscriberEnd.perform h.ended h.traced h.laid htask hfair hhanded
        rwa [← hpast] at hended
    | stream prefetch =>
        refine StreamEnd.perform h.ended h.laid.there htask hfair hsmooth ?_ h.traced.fronts
        intro publisher receiver heq
        exact (h.laid.building publisher receiver (heq ▸ List.mem_cons_self)).2.2.2

/-! ## Up and down a chain -/

/-- A link that is cancelled now and then is cancelled by a call. -/
theorem order_cancel_mem (h : cancelsOn link past ≠ 0) : .order link .cancel ∈ past :=
  mem_callsOn.1 (List.count_pos_iff.1 (Nat.pos_of_ne_zero h))

/-- A receiver that keeps a link which was cancelled was cancelled itself. -/
theorem Kept.isCancelled (h : Kept past todo network receiver link)
    (hcancel : .order link .cancel ∈ past) : network.isCancelled receiver = true := by
  have hpos : 0 < cancelsOn link (past ++ todo) :=
    List.count_pos_iff.2 (mem_callsOn.2 (List.mem_append_left _ hcancel))
  cases h with
  | due _ _ cancels | held _ _ cancels | turned _ _ cancels => omega
  | gone _ _ cancelled => exact cancelled

/-- A task about links was performed if none is left to be done. -/
theorem mem_past_of_isLinked (hquiet : ∀ task ∈ todo, task.isLinked = false)
    (h : task ∈ past ++ todo) (hlinked : task.isLinked = true) : task ∈ past :=
  (List.mem_append.1 h).resolve_right fun hmem =>
    Bool.false_ne_true ((hquiet task hmem).symm.trans hlinked)

/-- A receiver that was cancelled and was handed one link has cancelled it when nothing about links
is left to be done. -/
theorem Kept.cancelsOn_eq_one (h : Kept past todo network receiver link)
    (hquiet : ∀ task ∈ todo, task.isLinked = false) (hlinks : linksTo receiver past = [link])
    (hcancelled : network.isCancelled receiver = true) : cancelsOn link past = 1 := by
  cases h with
  | due bound =>
      obtain ⟨task, hmem, hbinds⟩ := List.countP_pos_iff.1 (bound ▸ Nat.one_pos)
      exact absurd ((hquiet task hmem).symm.trans (isLinked_of_binds hbinds)) Bool.false_ne_true
  | held _ _ _ active => exact absurd ((active hlinks).symm.trans hcancelled) Bool.false_ne_true
  | turned _ _ _ others => exact absurd hlinks others
  | gone _ _ _ cancels =>
      have hnone : cancelsOn link todo = 0 := by
        by_contra hsome
        exact Bool.false_ne_true (hquiet _ (order_cancel_mem hsome)).symm
      rwa [cancelsOn_append, hnone] at cancels

/-- No one above the lower end of a chain is cancelled before the lower end has cancelled. -/
theorem Chained.quits_of_isCancelled (h : Chained up name downstream events network todo)
    (hdown : network.DownTo downstream.bottom receiver)
    (hkeeper : ∀ index, receiver ≠ .probe index)
    (hcancelled : network.isCancelled receiver = true) :
    downstream.Quits name (events.map Prod.snd) := by
  induction hdown with
  | here =>
      cases downstream with
      | subscriber => exact absurd rfl (hkeeper 0)
      | stream => exact h.ended.dropped.1 hcancelled
  | @above upper below speaker ear place down ih =>
      obtain ⟨own, hown⟩ := exists_link?_of_unit? ear
      have horder := h.traced.cancelled upper own hown hcancelled
      obtain ⟨target, htarget⟩ := h.traced.founded _ (List.mem_append_left _ horder)
      obtain ⟨-, second, hsecond, hplace⟩ :=
        h.traced.founded _ (List.mem_append_left _ htarget) upper hown
      obtain rfl := Option.some_inj.1 (ear.symm.trans hsecond)
      obtain rfl := Option.some_inj.1 (place.symm.trans hplace)
      by_cases hprobe : ∃ index, below = .probe index
      · obtain ⟨index, rfl⟩ := hprobe
        have hend := down.eq_of_unit?_eq_none rfl
        cases downstream with
        | stream => cases hend
        | subscriber =>
            cases hend
            exact h.ended.called upper own hown htarget (List.mem_append_left _ horder)
      · have hbelow := not_exists.1 hprobe
        have htakers := h.passed.takersOf_eq h.traced h.laid h.heeded (.inr ⟨upper, hown⟩) htarget
        exact ih hbelow ((h.kept below own hbelow htakers).isCancelled horder)

/-- When nothing about links is left to be done after the lower end of a chain has cancelled,
everyone above it who was handed a link is cancelled. -/
theorem Chained.isCancelled_of_quits (h : Chained up name downstream events network todo)
    (hquiet : ∀ task ∈ todo, task.isLinked = false)
    (hquits : downstream.Quits name (events.map Prod.snd))
    (hdown : network.DownTo downstream.bottom receiver)
    (hkeeper : ∀ index, receiver ≠ .probe index)
    (hmem : .signal receiver (.subscribe link) ∈ events.map Prod.snd) :
    network.isCancelled receiver = true := by
  induction hdown generalizing link with
  | here =>
      cases downstream with
      | subscriber => exact absurd rfl (hkeeper 0)
      | stream => exact h.ended.dropped.2 hquits
  | @above upper below speaker ear place down ih =>
      obtain ⟨own, hown⟩ := exists_link?_of_unit? ear
      have hbelow : .signal below (.subscribe own) ∈ events.map Prod.snd :=
        mem_past_of_isLinked hquiet
          (h.passed.passed upper own speaker below link hown ear place hmem) rfl
      have horder : .order own .cancel ∈ events.map Prod.snd := by
        by_cases hprobe : ∃ index, below = .probe index
        · obtain ⟨index, rfl⟩ := hprobe
          have hend := down.eq_of_unit?_eq_none rfl
          cases downstream with
          | stream => cases hend
          | subscriber =>
              cases hend
              obtain ⟨held, hheld, hcall⟩ := h.ended.calls hquits
              have hsame : [held] = [own] :=
                (h.heeded.linksTo_eq hheld).symm.trans (h.heeded.linksTo_eq hbelow)
              exact List.singleton_inj.1 hsame ▸ mem_past_of_isLinked hquiet hcall rfl
        · have hplace := not_exists.1 hprobe
          have htakers := h.passed.takersOf_eq h.traced h.laid h.heeded (.inr ⟨upper, hown⟩) hbelow
          have hcancels := (h.kept below own hplace htakers).cancelsOn_eq_one hquiet
            (h.heeded.linksTo_eq hbelow) (ih hplace hbelow)
          exact order_cancel_mem (hcancels ▸ Nat.one_ne_zero)
      exact h.revoked upper own hown (h.traced.known upper link hmem) horder

/-- The receiver that a publisher driven by hand hands its link to is an operator or a stream. -/
theorem Chained.taker (h : Chained up name downstream events network todo)
    (hlink : link.isByHand = true)
    (hmem : .signal receiver (.subscribe link) ∈ events.map Prod.snd) :
    ∀ index, receiver ≠ .probe index := by
  rintro index rfl
  have hend := (h.passed.reached _ link (List.mem_append_left _ hmem)).eq_of_unit?_eq_none rfl
  obtain ⟨found, hfound⟩ := h.passed.offered _ link hlink (List.mem_append_left _ hmem)
  cases downstream with
  | stream => cases hend
  | subscriber => exact h.ended.covered found index hfound

/-- How often the link of a publisher driven by hand was cancelled at a point of a run. -/
theorem Chained.cancels (h : Chained up name downstream events network todo)
    (hlink : link.isByHand = true)
    (hmem : .signal receiver (.subscribe link) ∈ events.map Prod.snd) :
    cancelsOn link (events.map Prod.snd) ≤ 1 ∧
      (¬ downstream.Quits name (events.map Prod.snd) →
        cancelsOn link (events.map Prod.snd) = 0) ∧
      ((∀ task ∈ todo, task.isLinked = false) → downstream.Quits name (events.map Prod.snd) →
        cancelsOn link (events.map Prod.snd) = 1) := by
  have hkeeper := h.taker hlink hmem
  have hdown := h.passed.reached receiver link (List.mem_append_left _ hmem)
  have hkept := h.kept receiver link hkeeper
    (h.passed.takersOf_eq h.traced h.laid h.heeded (.inl hlink) hmem)
  refine ⟨?_, fun hquits => ?_, fun hquiet hquits => ?_⟩
  · have hall : cancelsOn link (events.map Prod.snd ++ todo) ≤ 1 := by
      cases hkept with
      | due _ _ cancels | held _ _ cancels | turned _ _ cancels | gone _ _ _ cancels => omega
    rw [cancelsOn_append] at hall
    omega
  · by_contra hsome
    exact hquits (h.quits_of_isCancelled hdown hkeeper
      (hkept.isCancelled (order_cancel_mem hsome)))
  · exact hkept.cancelsOn_eq_one hquiet (h.heeded.linksTo_eq hmem)
      (h.isCancelled_of_quits hquiet hquits hdown hkeeper hmem)

/-! ## Setting up a chain -/

/-- What is left to be done after a chain was set up. -/
def Downstream.closing (name : String) (publisher : Publisher α (Action α)) :
    Downstream α → List (Task α)
  | .subscriber initial react => [.ret (.subscribe name publisher initial react) .done]
  | .stream prefetch => [.announce name 0, .ret (.stream name publisher prefetch) .done]

/-- What stands at the lower end of a chain that was just set up. -/
def Downstream.Stands (name : String) (network : Network α) : Downstream α → Prop
  | .subscriber _ _ => network.probes.map (·.name) = [name]
  | .stream _ => network.streams = [] ∧ network.isCancelled (.bridge 0) = false ∧
      network.Unbroken 0

/-- A network in which a chain was just set up, and no operator stands anywhere. -/
structure Bare (name : String) (downstream : Downstream α) (network : Network α) : Prop where
  windows : network.windows = []
  resumptions : network.resumptions = []
  places : ∀ speaker, network.below? speaker = none
  free : ∀ name receiver, ¬ network.Remembers name receiver
  knows : network.Knows downstream.bottom
  stands : downstream.Stands name network

/-- A chain is set up first of all. -/
theorem perform_opening (name : String) (publisher : Publisher α (Action α))
    (downstream : Downstream α) :
    ∃ network, perform (.act (downstream.opening name publisher)) {} =
        (network, .subscribe publisher downstream.bottom :: downstream.closing name publisher) ∧
      Bare name downstream network := by
  obtain ⟨hands, deferreds, hmention⟩ := (({} : Network α).log
    (.called (downstream.opening name publisher))).exists_mention publisher
  have hfree : ∀ found receiver, ¬ Remembers ((({} : Network α).log
      (.called (downstream.opening name publisher))).mention publisher) found receiver := by
    intro found receiver hnext
    rcases (quietly_mention _ publisher).remembers found receiver hnext with
      ⟨_, hmem, -⟩ | ⟨_, hmem, -⟩ <;> exact absurd hmem List.not_mem_nil
  rw [hmention] at hfree
  cases downstream with
  | subscriber initial react =>
      simp only [Downstream.opening] at hmention hfree
      simp only [Downstream.opening, perform, begin, hmention]
      rw [resolve_of_definitions_eq_nil rfl]
      exact ⟨_, rfl, rfl, rfl, fun speaker => by cases speaker <;> rfl, hfree, Nat.one_pos, rfl⟩
  | stream prefetch =>
      simp only [Downstream.opening] at hmention hfree
      simp only [Downstream.opening, perform, begin, hmention]
      rw [resolve_of_definitions_eq_nil rfl]
      exact ⟨_, rfl, rfl, rfl, fun speaker => by cases speaker <;> rfl, hfree, Nat.one_pos, rfl,
        rfl, rfl⟩

/-- What is left to be done besides the first subscription is not about links, and is fair unless it
announces a stream. -/
theorem isFair_closing (downstream : Downstream α) (name : String)
    (publisher : Publisher α (Action α)) (later : List (Action α)) (network : Network α) :
    ∀ task ∈ downstream.closing name publisher ++ later.map .act,
      task.isLinked = false ∧ (task.announced = [] → network.IsFair task) := by
  intro task htask
  rcases List.mem_append.1 htask with hclosing | hact
  · cases downstream <;>
      simp only [Downstream.closing, List.mem_cons, List.not_mem_nil, or_false] at hclosing
    · subst hclosing
      exact ⟨rfl, fun _ => trivial⟩
    · rcases hclosing with rfl | rfl
      · exact ⟨rfl, fun hnone => absurd hnone (List.cons_ne_nil _ _)⟩
      · exact ⟨rfl, fun _ => trivial⟩
  · exact ⟨isLinked_map_act later task hact, fun _ => isFair_map_act later task hact⟩

/-- What holds of the lower end of a chain that was just set up. -/
theorem Bare.ends {opening : Action α} (h : Bare name downstream network)
    (htops : downstream.tops publisher = true) :
    downstream.Ends name [(voice, .act opening)] network
      (.subscribe publisher downstream.bottom ::
        (downstream.closing name publisher ++ later.map .act)) := by
  have hshort : ∀ {first second : Task α}, ¬ [first, second].Sublist [.act opening] :=
    fun hboth => absurd hboth.length_le (by simp)
  cases downstream with
  | subscriber initial react =>
      refine ⟨h.stands, fun link hmem => ?_, fun found index => h.free found _,
        fun other index hmem => ?_, fun ⟨link, hboth⟩ => absurd hboth hshort,
        fun upper own _ hmem => ?_⟩
      · simp at hmem
      · rcases List.mem_cons.1 hmem with heq | hother
        · injection heq with hpublisher
          rw [hpublisher]
          exact htops
        · have hquiet := (isFair_closing _ _ _ _ network _ hother).1
          exact absurd hquiet.symm Bool.false_ne_true
      · simp at hmem
  | stream prefetch =>
      obtain ⟨hstreams, hactive, hunbroken⟩ := h.stands
      have hnone : (later.map Task.act).flatMap Task.announced = [] :=
        List.flatMap_eq_nil_iff.2 fun task htask => by
          have hfair : network.IsFair task := isFair_map_act later task htask
          exact hfair.announced
      refine ⟨?_, hstreams, ⟨fun hcancelled => ?_, fun hboth => absurd hboth hshort⟩,
        fun _ _ _ => hunbroken, .inl hunbroken⟩
      · simp [Downstream.closing, Task.announced, hnone]
      · exact absurd (hactive.symm.trans hcancelled) Bool.false_ne_true

/-- A chain that was just set up. -/
theorem Bare.chained {opening : Action α} (h : Bare name downstream network)
    (htraced : Traced [.act opening] network (.subscribe publisher downstream.bottom ::
      (downstream.closing name publisher ++ later.map .act)))
    (hrecording : Recording [.act opening] network (.subscribe publisher downstream.bottom ::
      (downstream.closing name publisher ++ later.map .act)))
    (hdriver : publisher.driver? = some up) (htops : downstream.tops publisher = true) :
    Chained up name downstream [(voice, .act opening)] network
      (.subscribe publisher downstream.bottom ::
        (downstream.closing name publisher ++ later.map .act)) := by
  have hothers := isFair_closing downstream name publisher later network
  have hunplaced : ∀ {speaker receiver}, network.below? speaker ≠ some receiver := by
    intro speaker receiver hplace
    rw [h.places] at hplace
    cases hplace
  have hsilent : ∀ receiver link, .signal receiver (.subscribe link) ∉
      [.act opening] ++ .subscribe publisher downstream.bottom ::
        (downstream.closing name publisher ++ later.map .act) := by
    intro receiver link hmem
    simp only [List.cons_append, List.nil_append, List.mem_cons, reduceCtorEq, false_or] at hmem
    exact Bool.false_ne_true (hothers _ hmem).1.symm
  have hunheard : ∀ receiver link,
      .signal receiver (.subscribe link) ∉ [Task.act opening] := fun _ _ => by simp
  refine ⟨htraced, hrecording, ?_, ?_, ?_, ?_, ?_, ?_, fun _ _ _ htakers => ?_, h.ends htops⟩
  · refine ⟨h.knows, fun _ _ hplace => absurd hplace hunplaced,
      fun _ _ _ hplace => absurd hplace hunplaced,
      fun name receiver hnext => absurd hnext (h.free name receiver),
      fun name _ receiver _ hnext => absurd hnext (h.free name receiver),
      fun other receiver hmem => ?_⟩
    rcases List.mem_cons.1 hmem with heq | hother
    · injection heq with hpublisher hreceiver
      rw [hpublisher, hreceiver]
      exact ⟨hdriver, .here, fun _ => hunplaced, h.free⟩
    · exact absurd (hothers _ hother).1.symm Bool.false_ne_true
  · exact ⟨fun _ hstage => absurd (h.windows ▸ hstage) List.not_mem_nil,
      fun _ hstage => absurd (h.resumptions ▸ hstage) List.not_mem_nil⟩
  · intro task hmem
    rcases List.mem_cons.1 hmem with rfl | hother
    · exact fun _ => trivial
    · exact (hothers task hother).2
  · exact ⟨fun receiver link hmem => absurd hmem (hsilent receiver link),
      fun receiver link _ hmem => absurd hmem (hsilent receiver link),
      fun upper _ _ _ link _ _ _ hmem => absurd hmem (hunheard upper link),
      fun _ _ receiver link _ => hsilent receiver link⟩
  · exact ⟨fun receiver link hmem => absurd hmem (hunheard receiver link), fun _ => Nat.zero_le _⟩
  · intro receiver own _ _ hmem
    simp at hmem
  · cases htakers

/-! ## Runs -/

/-- A chain is to be set up next, or was set up before. -/
def Launched (up name : String) (downstream : Downstream α) (publisher : Publisher α (Action α))
    (later : List (Action α)) (events : List (Voiced α))
    (agenda : Agenda (Network α) (Voiced α)) : Prop :=
  events = [] ∧ agenda = launch (downstream.opening name publisher :: later) ∨
    events ≠ [] ∧ Chained up name downstream events agenda.state (agenda.todo.map Prod.snd)

/-- A chain after one more task that keeps to the grammar and, unless it is the first one, sets up
nothing new. -/
theorem Launched.perform {event : Voiced α} {left : List (Voiced α)}
    (h : Launched up name downstream publisher later events ⟨network, event :: left⟩)
    (hdriver : publisher.driver? = some up) (htops : downstream.tops publisher = true)
    (hproper : Proper events ⟨network, event :: left⟩) (hspoken : isWellSpoken events event)
    (hfurther : events ≠ [] → event.2.isFurther up = true) :
    Launched up name downstream publisher later (events ++ [event])
      (Agenda.step performVoiced ⟨network, event :: left⟩) := by
  obtain ⟨voice, task⟩ := event
  refine .inr ⟨List.append_ne_nil_of_right_ne_nil _ (List.cons_ne_nil _ _), ?_⟩
  rw [todo_step, Agenda.step_cons]
  rcases h with ⟨rfl, hlaunch⟩ | ⟨hbefore, hchained⟩
  · injection hlaunch with hnetwork hall
    injection hall with hevent hleft
    injection hevent with _ htask
    subst hnetwork htask hleft
    obtain ⟨next, hperform, hbare⟩ := perform_opening name publisher downstream
    have hquiet : ∀ task ∈ (Task.act (downstream.opening name publisher) :: later.map .act),
        task.isLinked = false := isLinked_map_act (downstream.opening name publisher :: later)
    have htraced := (traced_nil hquiet).perform fun _ _ heq => by cases heq
    have hrecording := (recording_nil hquiet).perform (traced_nil hquiet)
    have hlater := map_snd_voiced none (later.map Task.act)
    simp only [performVoiced, hperform, voiced] at htraced hrecording hlater ⊢
    rw [hlater]
    exact hbare.chained htraced hrecording hdriver htops
  · refine hchained.perform (hfurther hbefore) ?_
    rintro receiver link rfl
    exact hproper.handed hspoken

/-- A chain at every point of a run. -/
theorem launched_run (hdriver : publisher.driver? = some up)
    (htops : downstream.tops publisher = true)
    (hspoken : Throughout isWellSpoken
      (performed fuel (launch (downstream.opening name publisher :: later))))
    (hfurther : ∀ task ∈ ((performed fuel (launch (downstream.opening name publisher :: later))).map
      Prod.snd).tail, task.isFurther up = true) :
    Launched up name downstream publisher later
      (performed fuel (launch (downstream.opening name publisher :: later)))
      (Agenda.run performVoiced fuel (launch (downstream.opening name publisher :: later))) := by
  have hboth : Throughout (fun before event => isWellSpoken before event ∧
      (before ≠ [] → event.2.isFurther up = true))
      (performed fuel (launch (downstream.opening name publisher :: later))) := by
    intro before event after hsplit
    refine ⟨hspoken before event after hsplit, fun hbefore => hfurther event.2 ?_⟩
    obtain ⟨first, others, rfl⟩ := List.exists_cons_of_ne_nil hbefore
    rw [hsplit]
    simp
  exact invariant_performed (fun _ _ => And.left) (.inl ⟨rfl, rfl⟩)
    (fun _ _ _ _ hevent hproper hlaunched =>
      hlaunched.perform hdriver htops hproper hevent.1 hevent.2) hboth

/-- **A cancellation reaches the publisher once.** A chain of operators is put over one publisher
driven by hand, a scripted subscriber or a stream stands below it, and nothing else is subscribed.
If the publisher signals in keeping with the grammar and does not fail, then at every point of a run
the link that it has handed out was cancelled at most once, and not at all before the subscriber has
cancelled or the stream was dropped. Once that has happened and no more links are to be handed over,
bound or called, the link was cancelled exactly once, however often the lower end has cancelled, and
whether or not the operators had bound their links by then. -/
theorem cancellation_reaches_publisher_once (up name : String)
    (publisher : Publisher α (Action α)) (downstream : Downstream α) (later : List (Action α))
    (fuel : Nat) (link : Link) (hdriver : publisher.driver? = some up)
    (htops : downstream.tops publisher = true)
    (hspoken : Throughout isWellSpoken
      (performed fuel (launch (downstream.opening name publisher :: later))))
    (hfurther : ∀ task ∈ (Agenda.past perform fuel
      ⟨{}, (downstream.opening name publisher :: later).map .act⟩).tail, task.isFurther up = true)
    (hlink : link.isByHand = true)
    (hhanded : ∃ receiver, .signal receiver (.subscribe link) ∈ Agenda.past perform fuel
      ⟨{}, (downstream.opening name publisher :: later).map .act⟩) :
    let start : Agenda (Network α) (Task α) :=
      ⟨{}, (downstream.opening name publisher :: later).map .act⟩
    let past := Agenda.past perform fuel start
    let agenda := Agenda.run perform fuel start
    let cancels := (agenda.state.ordersOf link).count .cancel
    cancels ≤ 1 ∧ (¬ downstream.Quits name past → cancels = 0) ∧
      ((∀ task ∈ agenda.todo, task.isLinked = false) → downstream.Quits name past →
        cancels = 1) := by
  intro start past agenda cancels
  let labelled := Agenda.run performVoiced fuel
    (launch (downstream.opening name publisher :: later))
  have hpast : (performed fuel (launch (downstream.opening name publisher :: later))).map Prod.snd =
      past := map_snd_performed _ fuel
  have herase : erase labelled = agenda := erase_run _ fuel
  have hstate : labelled.state = agenda.state := congrArg Agenda.state herase
  have htodo : labelled.todo.map Prod.snd = agenda.todo := congrArg Agenda.todo herase
  change ∀ task ∈ past.tail, task.isFurther up = true at hfurther
  change ∃ receiver, .signal receiver (.subscribe link) ∈ past at hhanded
  rw [← hpast] at hfurther hhanded
  obtain ⟨receiver, hmem⟩ := hhanded
  rcases launched_run hdriver htops hspoken hfurther with ⟨hnone, -⟩ | ⟨-, hchained⟩
  · rw [hnone] at hmem
    exact absurd hmem List.not_mem_nil
  · have hrecorded : agenda.state.ordersOf link = callsOn link past := by
      rw [← hstate, ← hpast]
      exact hchained.recording.recorded link hlink
    have hall := hchained.cancels hlink hmem
    rw [hpast, htodo, cancelsOn, ← hrecorded] at hall
    exact hall

/-- A scripted subscriber below a window and a resumption cancels while the link of the window is
being handed down, and again at the end. -/
theorem cancellation_reaches_publisher_once_from_within :
    let react : Reaction (Action Nat) :=
      Rule.reaction [{ on := .subscribe, actions := [.order "out" .cancel] }]
    let publisher : Publisher Nat (Action Nat) :=
      .takeLast 2 false (.resume none (fun _ => .nothing) (.deferred "up"))
    let downstream : Downstream Nat := .subscriber 3 react
    let later : List (Action Nat) :=
      [.accept "up" "link" fun _ _ => [], .order "out" .cancel]
    let start : Agenda (Network Nat) (Task Nat) :=
      ⟨{}, (downstream.opening "out" publisher :: later).map .act⟩
    let past := Agenda.past perform 40 start
    let agenda := Agenda.run perform 40 start
    let cancels := (agenda.state.ordersOf (.tap 0)).count .cancel
    (publisher.driver? = some "up" ∧ downstream.tops publisher = true ∧
      Throughout isWellSpoken
        (performed 40 (launch (downstream.opening "out" publisher :: later))) ∧
      (∀ task ∈ past.tail, task.isFurther "up" = true) ∧ (Link.tap 0).isByHand = true ∧
      (∃ receiver, .signal receiver (.subscribe (.tap 0)) ∈ past) ∧
      (∀ task ∈ agenda.todo, task.isLinked = false) ∧ downstream.Quits "out" past) ∧
    cancels = 1 := by
  intro react publisher downstream later start past agenda cancels
  have hspoken : Throughout isWellSpoken
      (performed 40 (launch (downstream.opening "out" publisher :: later))) := by decide +kernel
  have hfurther : ∀ task ∈ past.tail, task.isFurther "up" = true :=
    List.all_eq_true.1 (by decide +kernel)
  have htakers : takersOf (.tap 0) past = [.resumption 0] := by decide +kernel
  have hhanded : .signal (.resumption 0) (.subscribe (.tap 0)) ∈ past :=
    mem_takersOf.1 (htakers ▸ List.mem_singleton_self _)
  have hquiet : ∀ task ∈ agenda.todo, task.isLinked = false := by
    have hrest : agenda.todo = [] := List.isEmpty_iff.1 (by decide +kernel)
    simp [hrest]
  have hquits : downstream.Quits "out" past := by decide +kernel
  have hcancels := cancellation_reaches_publisher_once "up" "out" publisher downstream later 40
    (.tap 0) rfl rfl hspoken hfurther rfl ⟨_, hhanded⟩
  exact ⟨⟨rfl, rfl, hspoken, hfurther, rfl, ⟨_, hhanded⟩, hquiet, hquits⟩,
    hcancels.2.2 hquiet hquits⟩

/-- A publisher that completes before it hands out its link closes the stream below it, which then
cancels the link although it was not dropped. And without an operator in between every cancellation
of a scripted subscriber is one on the link of the publisher. -/
theorem cancels_of_completed_stream_and_bare_subscriber :
    (let publisher : Publisher Nat (Action Nat) := .resume none (fun _ => .nothing) (.deferred "up")
      let downstream : Downstream Nat := .stream 4
      let later : List (Action Nat) := [.complete "up", .accept "up" "link" fun _ _ => []]
      let start : Agenda (Network Nat) (Task Nat) :=
        ⟨{}, (downstream.opening "out" publisher :: later).map .act⟩
      let past := Agenda.past perform 40 start
      let agenda := Agenda.run perform 40 start
      (publisher.driver? = some "up" ∧ downstream.tops publisher = true ∧
        (∀ task ∈ past.tail, task.isFurther "up" = true) ∧ (Link.tap 0).isByHand = true ∧
        (∃ receiver, .signal receiver (.subscribe (.tap 0)) ∈ past) ∧
        ∀ task ∈ agenda.todo, task.isLinked = false) ∧
      ¬ Throughout isWellSpoken
          (performed 40 (launch (downstream.opening "out" publisher :: later))) ∧
      ¬ downstream.Quits "out" past ∧ (agenda.state.ordersOf (.tap 0)).count .cancel = 1) ∧
    let publisher : Publisher Nat (Action Nat) := .deferred "up"
    let downstream : Downstream Nat := .subscriber 0 fun _ _ => []
    let later : List (Action Nat) :=
      [.accept "up" "link" fun _ _ => [], .order "out" .cancel, .order "out" .cancel]
    let start : Agenda (Network Nat) (Task Nat) :=
      ⟨{}, (downstream.opening "out" publisher :: later).map .act⟩
    let past := Agenda.past perform 40 start
    let agenda := Agenda.run perform 40 start
    (publisher.driver? = some "up" ∧
      Throughout isWellSpoken
        (performed 40 (launch (downstream.opening "out" publisher :: later))) ∧
      (∀ task ∈ past.tail, task.isFurther "up" = true) ∧ (Link.tap 0).isByHand = true ∧
      (∃ receiver, .signal receiver (.subscribe (.tap 0)) ∈ past) ∧
      (∀ task ∈ agenda.todo, task.isLinked = false) ∧ downstream.Quits "out" past) ∧
    downstream.tops publisher = false ∧ (agenda.state.ordersOf (.tap 0)).count .cancel = 2 := by
  constructor
  · intro publisher downstream later start past agenda
    have htakers : takersOf (.tap 0) past = [.resumption 0] := by decide +kernel
    have hhanded : .signal (.resumption 0) (.subscribe (.tap 0)) ∈ past :=
      mem_takersOf.1 (htakers ▸ List.mem_singleton_self _)
    have hfurther : ∀ task ∈ past.tail, task.isFurther "up" = true :=
      List.all_eq_true.1 (by decide +kernel)
    have hquiet : ∀ task ∈ agenda.todo, task.isLinked = false := by
      have hrest : agenda.todo = [] := List.isEmpty_iff.1 (by decide +kernel)
      simp [hrest]
    exact ⟨⟨rfl, rfl, hfurther, rfl, ⟨_, hhanded⟩, hquiet⟩, by decide +kernel, by decide +kernel,
      by decide +kernel⟩
  · intro publisher downstream later start past agenda
    have htakers : takersOf (.tap 0) past = [.probe 0] := by decide +kernel
    have hhanded : .signal (.probe 0) (.subscribe (.tap 0)) ∈ past :=
      mem_takersOf.1 (htakers ▸ List.mem_singleton_self _)
    have hfurther : ∀ task ∈ past.tail, task.isFurther "up" = true :=
      List.all_eq_true.1 (by decide +kernel)
    have hquiet : ∀ task ∈ agenda.todo, task.isLinked = false := by
      have hrest : agenda.todo = [] := List.isEmpty_iff.1 (by decide +kernel)
      simp [hrest]
    exact ⟨⟨rfl, by decide +kernel, hfurther, rfl, ⟨_, hhanded⟩, hquiet, by decide +kernel⟩, rfl,
      by decide +kernel⟩

end Backpressure.Network
