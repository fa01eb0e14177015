import Backpressure.Proofs.Custody.Handling

/-!
# Where links come from

A link is handed over by a signal. Whoever holds a link or calls on one was handed it before, and a
unit hands down its own link once it was handed one itself. So every link in a network can be
followed back to the publisher that offered it.

Main results:

- Theorem `retains_perform` shows that units keep their places, and who is remembered by whom.
- Theorem `Traced.perform` follows links back to where they were handed over.
-/

namespace Backpressure.Network

variable {α : Type} {network next : Network α} {past todo rest added front : List (Task α)}
  {task : Task α} {receiver other : Receiver} {link own : Link} {index : Nat}

/-! ## Places and memories -/

/-- Units keep their places, receivers are there for good, and only a subscription makes a
publisher driven by hand remember someone. -/
structure Retains (network : Network α) (task : Task α) (next : Network α) : Prop where
  below : ∀ speaker receiver, network.below? speaker = some receiver →
    next.below? speaker = some receiver
  fresh : ∀ speaker receiver, next.below? speaker = some receiver →
    network.below? speaker = some receiver ∨
      network.below? speaker = none ∧ ∃ publisher, task = .subscribe publisher receiver
  knows : ∀ receiver, network.Knows receiver → next.Knows receiver
  remembers : ∀ name receiver, next.Remembers name receiver → network.Remembers name receiver ∨
    task = .subscribe (.hand name) receiver ∨ task = .subscribe (.deferred name) receiver

/-- What leaves the places alone retains them. -/
theorem Steady.retains {acting : Option Speaker} (h : Steady acting network next)
    (hremembers : ∀ name receiver, next.Remembers name receiver →
      network.Remembers name receiver) : Retains network task next where
  below := fun speaker _ hbelow => (h.below speaker).trans hbelow
  fresh := fun speaker _ hbelow => .inl ((h.below speaker).symm.trans hbelow)
  knows := h.knows
  remembers := fun name receiver hnext => .inl (hremembers name receiver hnext)

/-- What happens quietly retains the places. -/
theorem Quietly.retains {outcome : Network α × List (Task α)} (h : Quietly network outcome) :
    Retains network task outcome.1 :=
  h.steady.retains h.remembers

/-- What has the same units, and as many streams, retains the places. -/
theorem SameUnits.retains (h : SameUnits network next)
    (houtlets : next.outlets.length = network.outlets.length) : Retains network task next :=
  (h.quietly houtlets fun _ htask => absurd htask List.not_mem_nil :
    Quietly network (next, [])).retains

/-- A unit that joins takes a place above a receiver that is subscribed. -/
theorem Joins.retains {speaker : Speaker} {publisher : Publisher α (Action α)}
    (h : Joins speaker receiver network next) :
    Retains network (.subscribe publisher receiver) next where
  below := fun place target hbelow => by
    rw [h.below]
    split
    next heq =>
      rw [heq, h.isNew] at hbelow
      cases hbelow
    next => exact hbelow
  fresh := fun place target hbelow => by
    rw [h.below] at hbelow
    split at hbelow
    next heq =>
      cases hbelow
      exact .inr ⟨heq ▸ h.isNew, publisher, rfl⟩
    next => exact .inl hbelow
  knows := h.knows
  remembers := fun name target hnext => .inl (h.remembers name target hnext)

/-- A subscription retains the places. -/
theorem retains_subscribe (network : Network α) (publisher : Publisher α (Action α))
    (receiver : Receiver) :
    Retains network (.subscribe publisher receiver)
      (perform (.subscribe publisher receiver) network).1 := by
  have hnothing : Retains network (.subscribe publisher receiver) network :=
    (Steady.refl none network).retains fun _ _ => id
  cases publisher with
  | items supply =>
      simp only [perform, Network.subscribe]
      split
      · exact hnothing
      · exact (joins_source network receiver _ rfl).retains
  | fail | named => exact hnothing
  | hand name =>
      simp only [perform, Network.subscribe]
      split
      next place hplace =>
        obtain ⟨hlt, hname, -⟩ := List.findIdx?_eq_some_iff_getElem.1 hplace
        obtain ⟨hsteady, hremembers⟩ := subscribeHand_spec (List.getElem?_eq_getElem hlt)
          (of_decide_eq_true hname) receiver
        refine ⟨fun speaker _ hbelow => (hsteady.below speaker).trans hbelow,
          fun speaker _ hbelow => .inl ((hsteady.below speaker).symm.trans hbelow), hsteady.knows,
          fun found target hnext => ?_⟩
        exact (hremembers found target hnext).imp_right fun hnew => .inl (by rw [hnew.1, hnew.2])
      next => exact hnothing
  | deferred name =>
      obtain ⟨hsteady, hremembers⟩ := subscribeDeferred_spec network name receiver
      refine ⟨fun speaker _ hbelow => (hsteady.below speaker).trans hbelow,
        fun speaker _ hbelow => .inl ((hsteady.below speaker).symm.trans hbelow), hsteady.knows,
        fun found target hnext => ?_⟩
      exact (hremembers found target hnext).imp_right fun hnew => .inr (by rw [hnew.1, hnew.2])
  | takeLast => exact (joins_window network receiver _ rfl).retains
  | resume => exact (joins_resumption network receiver _ rfl).retains

/-- Retaining the places, one thing after another. -/
theorem Retains.trans {last : Network α} (hfirst : Retains network task next)
    (hsecond : ∀ task, Retains next task last) : Retains network task last where
  below := fun speaker receiver hbelow =>
    (hsecond task).below speaker receiver (hfirst.below speaker receiver hbelow)
  fresh := fun speaker receiver hbelow => by
    -- No subscription is the second thing that happens.
    rcases (hsecond (.leave receiver)).fresh speaker receiver hbelow with hbefore | ⟨-, _, heq⟩
    · exact hfirst.fresh speaker receiver hbefore
    · cases heq
  knows := fun receiver hknows => (hsecond task).knows receiver (hfirst.knows receiver hknows)
  remembers := fun name receiver hnext => by
    rcases (hsecond (.leave receiver)).remembers name receiver hnext with hbefore | heq | heq
    · exact hfirst.remembers name receiver hbefore
    · cases heq
    · cases heq

/-- An action retains the places. -/
theorem retains_act (network : Network α) (action : Action α) :
    Retains network (.act action) (perform (.act action) network).1 := by
  have hlog : ∀ task, Retains network task (network.log (.called action)) := fun task =>
    (quietly_log network (.called action)).retains
  have hhand : ∀ {middle : Network α} (name : String) (deliveries : List (Delivery α Link)),
      Retains network (.act action) middle →
      Retains network (.act action) (middle.signalByHand action name deliveries).1 := by
    intro middle name deliveries hmiddle
    refine hmiddle.trans fun task => ?_
    unfold signalByHand
    split
    · exact SameUnits.retains ⟨rfl, rfl, rfl, rfl, rfl, rfl⟩ rfl
    · exact (Steady.refl none middle).retains fun _ _ => id
  cases action with
  | define | order | poll | collect | drop =>
      exact (hlog _).trans fun task => (quietly_begin _ rfl).retains
  | subscribe name publisher initial react | stream name publisher prefetch =>
      refine ((hlog _).trans fun task => (quietly_mention _ publisher).retains).trans
        fun task => ?_
      exact Steady.retains (.of_units rfl rfl rfl (by simp [perform, begin])
        (by simp [perform, begin])) fun _ _ => id
  | next | nextAll | complete | error => exact hhand _ _ (hlog _)
  | accept name link react =>
      refine hhand _ _ ((hlog _).trans fun task => ?_)
      exact (sameUnits_tapOf _ link react).retains
        (congrArg List.length (outlets_tapOf _ link react))

/-- Every task retains the places. -/
theorem retains_perform (task : Task α) (network : Network α) :
    Retains network task (perform task network).1 := by
  have hnothing : Retains network task network :=
    (Steady.refl none network).retains fun _ _ => id
  have hsource : ∀ index (f : Source α → Source α × List (Effect α Link Source.Work)),
      Retains network task (network.onSource index f).1 := fun index f =>
    (steady_onSource network index f).retains fun name target => by
      unfold onSource
      split <;> exact id
  have hwindow : ∀ index (f : Window α Link → Window α Link × List (Effect α Link Pass)),
      Retains network task (network.onWindow index f).1 := fun index f =>
    (steady_onWindow network index f).retains fun name target => by
      unfold onWindow
      split <;> exact id
  have hresumption : ∀ index
      (f : Resumption Link → Resumption Link × List (Effect α Link (Resumption.Work Link))),
      Retains network task (network.onResumption index f).1 := fun index f =>
    (steady_onResumption network index f).retains fun name target => by
      unfold onResumption
      split <;> exact id
  cases task with
  | act action => exact retains_act network action
  | ret action result => exact (quietly_log network _).retains
  | signal receiver delivery =>
      cases receiver with
      | probe index => exact (quietly_hearProbe network index delivery).retains
      | window index => exact hwindow index _
      | resumption index => exact hresumption index _
      | bridge index => exact (quietly_hearBridge network index delivery).retains
  | order link order =>
      cases link with
      | source index => exact hsource index _
      | window index => exact hwindow index _
      | switch index => exact hresumption index _
      | inert => exact hnothing
      | hand index => exact (quietly_call network order (.hand index) rfl).retains
      | tap index => exact (quietly_call network order (.tap index) rfl).retains
  | subscribe publisher receiver => exact retains_subscribe network publisher receiver
  | source index work => exact hsource index _
  | window index pass => exact hwindow index _
  | resumption index work =>
      cases work with
      | bind | count => exact hresumption index _
      | recover failure =>
          simp only [perform, resume]
          split
          · exact (quietly_log network _).retains
          · exact hnothing
  | recover index failure recovery =>
      simp only [perform, follow]
      split
      · exact hnothing
      · exact (quietly_mention network _).retains
      · split <;> exact hnothing
  | leave receiver => exact (quietly_leave network receiver).retains
  | announce name index => exact (quietly_announce network name index).retains
  | collect action index left answers =>
      exact (quietly_collect network action index left answers).retains

/-! ## Where links come from -/

/-- Whether a task subscribes a receiver or hands it a link. -/
def Task.isHanding : Task α → Bool
  | .subscribe _ _ | .signal _ (.subscribe _) => true
  | _ => false

/-- A task has its ground in what was performed before: a receiver hands down its own link once it
was handed one itself, calls are made on links that were handed over, and a resumption binds links
that it was handed. -/
def Founded (past : List (Task α)) (network : Network α) : Task α → Prop
  | .signal receiver (.subscribe link) => ∀ upper : Receiver, upper.link? = some link →
      (∃ other, .signal upper (.subscribe other) ∈ past) ∧
        ∃ speaker, upper.unit? = some speaker ∧ network.below? speaker = some receiver
  | .order link _ => ∃ receiver, .signal receiver (.subscribe link) ∈ past
  | .resumption index (.bind link) => .signal (.resumption index) (.subscribe link) ∈ past
  | _ => True

/-- Everything about links can be followed back to where they were handed over. Only the next task
may hand over a link. -/
structure Traced (past : List (Task α)) (network : Network α) (todo : List (Task α)) : Prop where
  known : ∀ receiver link, .signal receiver (.subscribe link) ∈ past → network.Knows receiver
  feeds : ∀ receiver link, network.feedOf receiver = some link →
    .signal receiver (.subscribe link) ∈ past
  founded : ∀ task ∈ past ++ todo, Founded past network task
  cancelled : ∀ receiver own, receiver.link? = some own → network.isCancelled receiver = true →
    .order own .cancel ∈ past
  fronts : ∀ task ∈ todo.tail, task.isHanding = false

/-- A link is handed down by one receiver. -/
theorem link?_unique (h : receiver.link? = some own) (hother : other.link? = some own) :
    receiver = other := by
  cases receiver <;> cases h <;> cases other <;> cases hother <;> rfl

/-- A task about links is among the first that are added. -/
theorem BeginsWith.mem (h : BeginsWith front added) (hmem : task ∈ added)
    (hlinked : task.isLinked = true) : task ∈ front := by
  obtain ⟨others, rfl, hothers⟩ := h
  refine (List.mem_append.1 hmem).resolve_right fun hother => ?_
  exact Bool.false_ne_true ((hothers task hother).symm.trans hlinked)

/-- What has its ground keeps it. -/
theorem Founded.mono {performed : Task α} (h : Founded past network task)
    (hretains : Retains network performed next) (later : List (Task α)) :
    Founded (past ++ later) next task := by
  cases task with
  | signal receiver delivery =>
      cases delivery with
      | subscribe link =>
          intro upper hupper
          obtain ⟨⟨handed, hhanded⟩, speaker, hspeaker, hbelow⟩ := h upper hupper
          exact ⟨⟨handed, List.mem_append_left _ hhanded⟩, speaker, hspeaker,
            hretains.below speaker receiver hbelow⟩
      | next | error | complete => trivial
  | order link order =>
      obtain ⟨receiver, hreceiver⟩ := h
      exact ⟨receiver, List.mem_append_left _ hreceiver⟩
  | resumption index work =>
      cases work with
      | bind link => exact List.mem_append_left _ h
      | count | recover => trivial
  | _ => trivial

/-- A task that is not about links needs no ground. -/
theorem founded_of_not_isLinked (h : task.isLinked = false) : Founded past network task := by
  cases task with
  | order => exact absurd h.symm Bool.false_ne_true
  | signal receiver delivery =>
      cases delivery with
      | subscribe => exact absurd h.symm Bool.false_ne_true
      | next | error | complete => trivial
  | resumption index work =>
      cases work with
      | bind => exact absurd h.symm Bool.false_ne_true
      | count | recover => trivial
  | _ => trivial

/-- A task that is not about links hands over none. -/
theorem isHanding_of_not_isLinked (h : task.isLinked = false) : task.isHanding = false := by
  cases task with
  | subscribe => exact h
  | signal receiver delivery => cases delivery <;> exact h
  | _ => rfl

/-- Links can be followed back after one more task, if they can at the receivers that it concerns
and in the tasks that it adds. -/
theorem Traced.step (h : Traced past network (task :: rest)) (hretains : Retains network task next)
    (hheard : ∀ receiver link, task = .signal receiver (.subscribe link) → network.Knows receiver)
    (hadds : BeginsWith front added)
    (hfeeds : ∀ receiver link, next.feedOf receiver = some link →
      network.feedOf receiver = some link ∨ .signal receiver (.subscribe link) ∈ past ++ [task])
    (hcancelled : ∀ receiver own, receiver.link? = some own → next.isCancelled receiver = true →
      network.isCancelled receiver = true ∨ task = .order own .cancel)
    (hfront : ∀ other ∈ front, Founded (past ++ [task]) next other)
    (htail : ∀ other ∈ front.tail, other.isHanding = false) :
    Traced (past ++ [task]) next (added ++ rest) where
  known := fun receiver link hmem => hretains.knows receiver <| by
    rcases List.mem_append.1 hmem with hpast | hnow
    · exact h.known receiver link hpast
    · exact hheard receiver link (List.mem_singleton.1 hnow).symm
  feeds := fun receiver link hlink => (hfeeds receiver link hlink).elim
    (fun hbefore => List.mem_append_left _ (h.feeds receiver link hbefore)) id
  founded := by
    obtain ⟨others, rfl, hothers⟩ := hadds
    intro found hfound
    have hold : found ∈ past ++ task :: rest → Founded (past ++ [task]) next found :=
      fun hmem => (h.founded found hmem).mono hretains [task]
    simp only [List.mem_append, List.mem_cons, List.not_mem_nil, or_false] at hfound hold
    rcases hfound with (hpast | rfl) | (hfirst | hother) | hrest
    · exact hold (.inl hpast)
    · exact hold (.inr (.inl rfl))
    · exact hfront found hfirst
    · exact founded_of_not_isLinked (hothers found hother)
    · exact hold (.inr (.inr hrest))
  cancelled := fun receiver own hown hlater => by
    rcases hcancelled receiver own hown hlater with hbefore | rfl
    · exact List.mem_append_left _ (h.cancelled receiver own hown hbefore)
    · exact List.mem_append_right _ (List.mem_singleton_self _)
  fronts := by
    obtain ⟨others, rfl, hothers⟩ := hadds
    have hrest : ∀ other ∈ others ++ rest, other.isHanding = false := fun other hmem =>
      (List.mem_append.1 hmem).elim (fun hother => isHanding_of_not_isLinked (hothers other hother))
        fun hlater => h.fronts other hlater
    intro other hother
    rw [List.append_assoc] at hother
    rcases front with _ | ⟨first, front⟩
    · exact hrest other (List.mem_of_mem_tail hother)
    · exact (List.mem_append.1 hother).elim (htail other) (hrest other)

/-- A receiver that takes hold of a link holds nothing else. -/
theorem feedOf_update {held : Option Link} {place : Receiver}
    (hnext : next.feedOf = Function.update network.feedOf place held)
    (hheld : ∀ link, held = some link → .signal place (.subscribe link) ∈ past) :
    ∀ receiver link, next.feedOf receiver = some link →
      network.feedOf receiver = some link ∨ .signal receiver (.subscribe link) ∈ past := by
  intro receiver link hlink
  rw [hnext] at hlink
  by_cases hreceiver : receiver = place
  · subst hreceiver
    rw [Function.update_self] at hlink
    exact .inr (hheld link hlink)
  · rw [Function.update_of_ne hreceiver] at hlink
    exact .inl hlink

/-- The link that a publisher offers leads to no receiver. -/
theorem Offers.not_link? (h : Offers network task receiver link) (upper : Receiver) :
    upper.link? ≠ some link := by
  intro hupper
  cases h with
  | accept | hand | fail => cases upper <;> cases hupper
  | items hlink =>
      obtain rfl | ⟨index, rfl⟩ := hlink
      · cases upper <;> cases hupper
      · cases upper <;> cases hupper

/-- Who is to be subscribed was enlisted. -/
theorem enlists_of_mem {publisher : Publisher α (Action α)}
    (h : .subscribe publisher receiver ∈ (perform task network).2) :
    Enlists network task publisher receiver := by
  have hfront : ∀ {front : List (Task α)}, BeginsWith front (perform task network).2 →
      .subscribe publisher receiver ∈ front := fun hadds => hadds.mem h rfl
  cases handles_perform task network with
  | enlist henlists _ _ hadds =>
      have hmem := List.mem_singleton.1 (hfront hadds)
      injection hmem with hpublisher hreceiver
      rw [hpublisher, hreceiver]
      exact henlists
  | aside _ _ _ hadds | offer _ _ _ hadds | take _ _ _ _ hadds | pass _ _ _ _ hadds
  | renew _ _ _ hadds | bind _ _ _ _ _ hadds | refuse _ _ _ hadds | welcome _ _ _ _ hadds
  | shut _ _ _ _ hadds | meet _ _ _ _ _ hadds | call _ _ _ _ hadds | ask _ _ _ _ _ _ _ hadds
  | release _ _ _ _ hadds =>
      have hmem := hfront hadds
      simp at hmem

/-- Who is to be handed a link is offered it by a publisher, or by a unit that was handed one. -/
theorem offers_of_mem (h : .signal receiver (.subscribe link) ∈ (perform task network).2) :
    Offers network task receiver link ∨ ∃ upper other speaker,
      task = .signal upper (.subscribe other) ∧ upper.link? = some link ∧
        upper.unit? = some speaker ∧ network.below? speaker = some receiver := by
  have hfront : ∀ {front : List (Task α)}, BeginsWith front (perform task network).2 →
      .signal receiver (.subscribe link) ∈ front := fun hadds => hadds.mem h rfl
  cases handles_perform task network with
  | offer hoffers _ _ hadds =>
      have hmem := List.mem_singleton.1 (hfront hadds)
      injection hmem with hreceiver hdelivery
      injection hdelivery with hlink
      rw [hreceiver, hlink]
      exact .inl hoffers
  | take below hbelow _ _ hadds | pass below hbelow _ _ hadds =>
      have hmem := hfront hadds
      simp only [List.mem_cons, List.not_mem_nil, or_false, reduceCtorEq] at hmem
      injection hmem with hreceiver hdelivery
      injection hdelivery with hlink
      rw [hreceiver, hlink]
      exact .inr ⟨_, _, _, rfl, rfl, rfl, hbelow⟩
  | aside _ _ _ hadds | enlist _ _ _ hadds | renew _ _ _ hadds | bind _ _ _ _ _ hadds
  | refuse _ _ _ hadds | welcome _ _ _ _ hadds | shut _ _ _ _ hadds | meet _ _ _ _ _ hadds
  | call _ _ _ _ hadds | ask _ _ _ _ _ _ _ hadds | release _ _ _ _ hadds =>
      have hmem := hfront hadds
      simp at hmem

/-- Links can be followed back after every task, if those who are handed one are there. -/
theorem Traced.perform (h : Traced past network (task :: rest))
    (hheard : ∀ receiver link, task = .signal receiver (.subscribe link) →
      network.Knows receiver) :
    Traced (past ++ [task]) (Network.perform task network).1
      ((Network.perform task network).2 ++ rest) := by
  have hretains := retains_perform task network
  have hself : task ∈ past ++ [task] := List.mem_append_right _ (List.mem_singleton_self _)
  have hnow : Founded past network task :=
    h.founded task (List.mem_append_right _ List.mem_cons_self)
  have hfed : ∀ {receiver link}, network.feedOf receiver = some link →
      .signal receiver (.subscribe link) ∈ past ++ [task] :=
    fun hlink => List.mem_append_left _ (h.feeds _ _ hlink)
  -- Most tasks leave all feeds alone, and cancel no one.
  have hfeeds : (Network.perform task network).1.feedOf = network.feedOf →
      ∀ receiver link, (Network.perform task network).1.feedOf receiver = some link →
        network.feedOf receiver = some link ∨
          .signal receiver (.subscribe link) ∈ past ++ [task] :=
    fun heq receiver link hlink => .inl (by rwa [heq] at hlink)
  have hcancelled : (Network.perform task network).1.isCancelled = network.isCancelled →
      ∀ receiver own, receiver.link? = some own →
        (Network.perform task network).1.isCancelled receiver = true →
        network.isCancelled receiver = true ∨ task = .order own .cancel :=
    fun heq receiver own _ hlater => .inl (by rwa [heq] at hlater)
  -- Calls are made on links that were handed over.
  have horders : ∀ {link} (orders : List Order),
      (∃ receiver, .signal receiver (.subscribe link) ∈ past ++ [task]) →
      (∀ found ∈ orders.map (Task.order link),
          Founded (past ++ [task]) (Network.perform task network).1 found) ∧
        ∀ found ∈ (orders.map (Task.order (α := α) link)).tail, found.isHanding = false := by
    intro link orders hlink
    have hmap : ∀ found ∈ orders.map (Task.order (α := α) link),
        ∃ order, found = .order link order := by
      intro found hfound
      obtain ⟨order, -, rfl⟩ := List.mem_map.1 hfound
      exact ⟨order, rfl⟩
    refine ⟨fun found hfound => ?_, fun found hfound => ?_⟩
    · obtain ⟨order, rfl⟩ := hmap found hfound
      exact hlink
    · obtain ⟨order, rfl⟩ := hmap found (List.mem_of_mem_tail hfound)
      rfl
  -- A receiver hands down its own link.
  have hdown : ∀ {upper below : Receiver} {speaker : Speaker} {own link : Link},
      upper.link? = some own → upper.unit? = some speaker →
      network.below? speaker = some below → task = .signal upper (.subscribe link) →
      Founded (past ++ [task]) (Network.perform task network).1
        (.signal below (.subscribe own)) := by
    intro upper below speaker own link hown hspeaker hbelow htask other hother
    obtain rfl := link?_unique hown hother
    exact ⟨⟨link, htask ▸ hself⟩, speaker, hspeaker, hretains.below speaker below hbelow⟩
  have hnone : ∀ found ∈ ([] : List (Task α)), found.isHanding = false :=
    fun _ hfound => absurd hfound List.not_mem_nil
  cases handles_perform task network with
  | aside _ hsame hstill hadds =>
      exact h.step hretains hheard hadds (hfeeds hsame) (hcancelled hstill)
        (fun _ hfound => absurd hfound List.not_mem_nil) hnone
  | enlist _ hsame hstill hadds =>
      refine h.step hretains hheard hadds (hfeeds hsame) (hcancelled hstill)
        (fun found hfound => ?_) hnone
      rw [List.mem_singleton.1 hfound]
      trivial
  | offer hoffers hsame hstill hadds =>
      refine h.step hretains hheard hadds (hfeeds hsame) (hcancelled hstill)
        (fun found hfound => ?_) hnone
      rw [List.mem_singleton.1 hfound]
      exact fun upper hupper => absurd hupper (hoffers.not_link? upper)
  | take below hbelow hupdate hstill hadds =>
      refine h.step hretains hheard hadds
        (feedOf_update hupdate fun link hlink => (Option.some_inj.1 hlink) ▸ hself)
        (hcancelled hstill) (fun found hfound => ?_) fun found hfound => ?_
      · rcases List.mem_cons.1 hfound with rfl | hfound
        · exact hdown rfl rfl hbelow rfl
        · exact (horders [_] ⟨_, hself⟩).1 found hfound
      · rw [List.mem_singleton.1 hfound]
        rfl
  | pass below hbelow hsame hstill hadds =>
      refine h.step hretains hheard hadds (hfeeds hsame) (hcancelled hstill)
        (fun found hfound => ?_) fun found hfound => ?_
      · rcases List.mem_cons.1 hfound with rfl | hfound
        · exact hdown rfl rfl hbelow rfl
        · rw [List.mem_singleton.1 hfound]
          exact hself
      · rw [List.mem_singleton.1 hfound]
        rfl
  | renew _ hsame hstill hadds =>
      refine h.step hretains hheard hadds (hfeeds hsame) (hcancelled hstill)
        (fun found hfound => ?_) hnone
      rw [List.mem_singleton.1 hfound]
      exact hself
  | bind orders _ hupdate hstill _ hadds =>
      have hmade := horders orders ⟨_, List.mem_append_left _ hnow⟩
      exact h.step hretains hheard hadds
        (feedOf_update hupdate fun link hlink =>
          (Option.some_inj.1 hlink) ▸ List.mem_append_left _ hnow)
        (hcancelled hstill) hmade.1 hmade.2
  | refuse _ hsame hstill hadds =>
      have hmade := horders [.cancel] ⟨_, List.mem_append_left _ hnow⟩
      exact h.step hretains hheard hadds (hfeeds hsame) (hcancelled hstill) hmade.1 hmade.2
  | welcome amount _ hupdate hstill hadds =>
      have hmade := horders [.request amount] ⟨_, hself⟩
      refine h.step hretains hheard hadds (feedOf_update hupdate fun link hlink => ?_)
        (hcancelled hstill) hmade.1 hmade.2
      split at hlink
      · cases hlink
      · exact (Option.some_inj.1 hlink) ▸ hself
  | shut _ _ hupdate hstill hadds =>
      have hmade := horders [.cancel] ⟨_, hself⟩
      refine h.step hretains hheard hadds (feedOf_update hupdate fun link hlink => ?_)
        (hcancelled hstill) hmade.1 hmade.2
      split at hlink
      · cases hlink
      · exact (Option.some_inj.1 hlink) ▸ hself
  | meet orders _ hupdate hstill _ hadds =>
      have hmade := horders orders ⟨_, hself⟩
      exact h.step hretains hheard hadds
        (feedOf_update hupdate fun link hlink => (Option.some_inj.1 hlink) ▸ hself)
        (hcancelled hstill) hmade.1 hmade.2
  | @call _ order _ _ _ holds hsame hstill hadds =>
      have hmade := horders [order] ⟨_, hfed holds⟩
      exact h.step hretains hheard hadds (hfeeds hsame) (hcancelled hstill) hmade.1 hmade.2
  | ask amount _ _ holds _ hsame hstill hadds =>
      have hmade := horders [.request amount] ⟨_, hfed holds⟩
      exact h.step hretains hheard hadds (hfeeds hsame) (hcancelled hstill) hmade.1 hmade.2
  | @release _ place hreleases _ hupdate hstill hadds =>
      have hmade : (∀ found ∈ (network.feedOf place).toList.map (Task.order (α := α) · .cancel),
          Founded (past ++ [task]) (Network.perform task network).1 found) ∧
          ∀ found ∈ ((network.feedOf place).toList.map (Task.order (α := α) · .cancel)).tail,
            found.isHanding = false := by
        cases hheld : network.feedOf place with
        | none => exact ⟨fun _ hfound => absurd hfound List.not_mem_nil, hnone⟩
        | some link => exact horders [.cancel] ⟨_, hfed hheld⟩
      refine h.step hretains hheard hadds
        (feedOf_update hupdate fun link hlink => absurd hlink (Option.some_ne_none link).symm)
        (fun receiver own hown hlater => ?_) hmade.1 hmade.2
      rw [hstill] at hlater
      by_cases hreceiver : receiver = place
      · subst hreceiver
        refine .inr ?_
        cases hreleases with
        | cancel hlink =>
            cases hown.symm.trans hlink
            rfl
        | drop | announce => cases hown
      · rw [Function.update_of_ne hreceiver] at hlater
        exact .inl hlater

/-- Before anything has happened there are no links. -/
theorem traced_nil (h : ∀ task ∈ todo, task.isLinked = false) :
    Traced [] ({} : Network α) todo where
  known := fun _ _ hmem => absurd hmem List.not_mem_nil
  feeds := fun receiver link hlink => by cases receiver <;> cases hlink
  founded := fun task htask => founded_of_not_isLinked (h task htask)
  cancelled := fun receiver own _ hcancelled => by cases receiver <;> cases hcancelled
  fronts := fun task htask => isHanding_of_not_isLinked (h task (List.mem_of_mem_tail htask))

end Backpressure.Network
