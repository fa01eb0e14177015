import Backpressure.Proofs.Custody.Layout

/-!
# How a link goes down a chain

The publisher of a chain hands its link to the receiver that it remembers. Every operator that was
handed a link hands its own one down, at once and to the receiver below it. So every receiver of a
chain is handed one link, and every link is handed to one receiver.

Main results:

- Theorem `Passed.perform` shows that operators hand their links down, and theorem `Heeded.perform`
  that every receiver is handed one link only.
- Theorem `Passed.takersOf_eq` finds the one receiver that was handed a link.
- Theorem `Revoked.perform` shows that an operator whose link was cancelled is cancelled.
-/

namespace Backpressure.Network

variable {α : Type} {network next : Network α} {past todo rest added : List (Task α)}
  {task : Task α} {up : String} {bottom receiver other upper : Receiver} {speaker : Speaker}
  {link own : Link}

/-! ## One more task -/

/-- What is done or still to be done after one more task. -/
theorem mem_perform {found : Task α} : found ∈ past ++ [task] ++ (added ++ rest) ↔
    found ∈ past ++ task :: rest ∨ found ∈ added := by
  simp only [List.mem_append, List.mem_cons, List.not_mem_nil, or_false]
  tauto

/-- A task that subscribes someone hands over no link. -/
theorem not_signal_of_subscribe {publisher : Publisher α (Action α)}
    (h : .subscribe publisher receiver ∈ (perform task network).2) :
    .signal other (.subscribe link) ∉ (perform task network).2 := by
  intro hsignal
  have hfront : ∀ {front : List (Task α)}, BeginsWith front (perform task network).2 →
      .subscribe publisher receiver ∈ front ∧ .signal other (.subscribe link) ∈ front :=
    fun hadds => ⟨hadds.mem h rfl, hadds.mem hsignal rfl⟩
  cases handles_perform task network with
  | enlist _ _ _ hadds =>
      have hboth := hfront hadds
      simp at hboth
  | aside _ _ _ hadds | offer _ _ _ hadds | take _ _ _ _ hadds | pass _ _ _ _ hadds
  | renew _ _ _ hadds | bind _ _ _ _ _ hadds | refuse _ _ _ hadds | welcome _ _ _ _ hadds
  | shut _ _ _ _ hadds | meet _ _ _ _ _ hadds | call _ _ _ _ hadds | ask _ _ _ _ _ _ _ hadds
  | release _ _ _ _ hadds =>
      have hmem := (hfront hadds).1
      simp at hmem

/-- An operator that was handed a link hands its own one down, unless it has resumed. -/
theorem signal_mem_perform {below : Receiver} (hown : upper.link? = some own)
    (hspeaker : upper.unit? = some speaker) (hplace : network.below? speaker = some below)
    (hfaultless : Faultless network) :
    .signal below (.subscribe own) ∈
      (perform (.signal upper (.subscribe link)) network).2 := by
  have hfirst : ∀ {front : List (Task α)} {found : Task α},
      BeginsWith (found :: front) (perform (.signal upper (.subscribe link)) network).2 →
      found ∈ (perform (.signal upper (.subscribe link)) network).2 := by
    rintro front found ⟨others, heq, -⟩
    rw [heq]
    exact List.mem_cons_self
  cases handles_perform (.signal upper (.subscribe link)) network with
  | aside hidle => exact absurd (knows_of_below? hspeaker hplace) hidle
  | enlist henlists => cases henlists
  | offer hoffers => cases hoffers
  | release hreleases => cases hreleases
  | ask _ hidle => exact absurd (knows_of_below? hspeaker hplace) hidle
  | meet | welcome | shut => cases hown
  | take target htarget _ _ hadds | pass target htarget _ _ hadds =>
      cases hown
      cases hspeaker
      obtain rfl := Option.some_inj.1 (hplace.symm.trans htarget)
      exact hfirst hadds
  | renew hresumed =>
      obtain ⟨stage, hstage, hunit⟩ := Option.any_eq_true _ _ |>.1 hresumed
      rw [hfaultless.resumptions stage (List.mem_of_getElem? hstage)] at hunit
      cases hunit

/-! ## From one receiver to the next -/

/-- Links of a publisher driven by hand go to a receiver that is remembered, and operators hand
their own links down, so that links are handed to receivers of the chain only. Nothing is handed
over while someone is still to be subscribed. -/
structure Passed (bottom : Receiver) (past : List (Task α)) (network : Network α)
    (todo : List (Task α)) : Prop where
  reached : ∀ receiver link, .signal receiver (.subscribe link) ∈ past ++ todo →
    network.DownTo bottom receiver
  offered : ∀ receiver link, link.isByHand = true →
    .signal receiver (.subscribe link) ∈ past ++ todo →
    ∃ name, network.Remembers name receiver
  passed : ∀ upper own speaker below link, upper.link? = some own → upper.unit? = some speaker →
    network.below? speaker = some below → .signal upper (.subscribe link) ∈ past →
    .signal below (.subscribe own) ∈ past ++ todo
  unbuilt : ∀ publisher receiver other link, .subscribe publisher receiver ∈ todo →
    .signal other (.subscribe link) ∉ past ++ todo

/-- Links go down a chain after one more task, if that one sets up nothing new, goes without a
failure, and is the only one that may subscribe someone. -/
theorem Passed.perform {names : List (String × Nat)}
    (h : Passed bottom past network (task :: rest))
    (htraced : Traced past network (task :: rest)) (hlaid : Laid up bottom network (task :: rest))
    (hfaultless : Faultless network) (htask : task.isFurther up = true)
    (hfair : task.announced = [] → network.IsFair task)
    (hsmooth : Smooth names network (Network.perform task network)) :
    Passed bottom (past ++ [task]) (Network.perform task network).1
      ((Network.perform task network).2 ++ rest) where
  reached := fun receiver link hmem => by
    have hdown : network.DownTo bottom receiver := by
      rcases mem_perform.1 hmem with hbefore | hadded
      · exact h.reached receiver link hbefore
      · rcases offers_of_mem hadded with hoffers | ⟨_, _, speaker, _, _, _, hplace⟩
        · cases hoffers with
          | accept hsubscriber =>
              exact (hlaid.crown _ receiver (remembers_of_subscriberOf hsubscriber)).2.1
          | hand | items | fail => exact (hlaid.building _ receiver List.mem_cons_self).2.1
        · exact hlaid.places speaker receiver hplace
    exact hdown.mono (retains_perform task network).below
  offered := fun receiver link hlink hmem => by
    rcases mem_perform.1 hmem with hbefore | hadded
    · exact (h.offered receiver link hlink hbefore).imp fun name => hsmooth.remembers name receiver
    · rcases offers_of_mem hadded with hoffers | ⟨upper, _, _, _, hown, -⟩
      · cases hoffers with
        | @accept name _ _ _ hsubscriber =>
            exact ⟨name, hsmooth.remembers _ _ (remembers_of_subscriberOf hsubscriber)⟩
        | @hand name _ _ hfind => exact ⟨name, remembers_subscribe_hand hfind receiver⟩
        | items hlinks => obtain rfl | ⟨_, rfl⟩ := hlinks <;> cases hlink
        | fail => cases hlink
      · cases upper <;> cases hown <;> cases hlink
  passed := fun upper own speaker below link hown hspeaker hplace hmem => by
    refine mem_perform.2 ?_
    rcases List.mem_append.1 hmem with hbefore | hnow
    · -- A unit that was handed a link was there before, and has kept its place.
      refine .inl (h.passed upper own speaker below link hown hspeaker ?_ hbefore)
      rcases (retains_perform task network).fresh speaker below hplace with hsame | ⟨hnone, -⟩
      · exact hsame
      · obtain ⟨_, hsome⟩ := exists_below?_of_knows (htraced.known upper link hbefore) hspeaker
        rw [hnone] at hsome
        cases hsome
    · obtain rfl := List.mem_singleton.1 hnow
      refine .inr (signal_mem_perform hown hspeaker ?_ hfaultless)
      rw [← hplace]
      exact (below?_perform (by simp) speaker).symm
  unbuilt := fun publisher receiver other link hmem hsignal => by
    rcases List.mem_append.1 hmem with hadded | hleft
    · obtain ⟨above, below, rfl⟩ := exists_subscribe_of_mem htask hfair hadded
      rcases mem_perform.1 hsignal with hbefore | hnow
      · exact h.unbuilt above below other link List.mem_cons_self hbefore
      · exact not_signal_of_subscribe hadded hnow
    · exact Bool.false_ne_true (htraced.fronts _ hleft).symm

/-- A link of a chain is handed to one receiver. -/
theorem Passed.taker_unique (h : Passed bottom past network todo)
    (htraced : Traced past network todo) (hlaid : Laid up bottom network todo)
    (hlink : link.isByHand = true ∨ ∃ upper : Receiver, upper.link? = some link)
    (hfirst : .signal receiver (.subscribe link) ∈ past)
    (hsecond : .signal other (.subscribe link) ∈ past) : receiver = other := by
  have hfounded : ∀ {target}, .signal target (.subscribe link) ∈ past →
      Founded past network (.signal target (.subscribe link)) :=
    fun hmem => htraced.founded _ (List.mem_append_left _ hmem)
  rcases hlink with hbyhand | ⟨upper, hupper⟩
  · obtain ⟨name, hname⟩ := h.offered receiver link hbyhand (List.mem_append_left _ hfirst)
    obtain ⟨_, hother⟩ := h.offered other link hbyhand (List.mem_append_left _ hsecond)
    exact hlaid.alone _ _ _ _ hname hother
  · obtain ⟨-, speaker, hspeaker, hbelow⟩ := hfounded hfirst upper hupper
    obtain ⟨-, second, hagain, hplace⟩ := hfounded hsecond upper hupper
    obtain rfl := Option.some_inj.1 (hspeaker.symm.trans hagain)
    exact Option.some_inj.1 (hbelow.symm.trans hplace)

/-! ## One link for each receiver -/

/-- A receiver that was handed a link has heard something since it was subscribed, and was handed
no other one. -/
structure Heeded (events : List (Voiced α)) : Prop where
  heard : ∀ receiver link, .signal receiver (.subscribe link) ∈ events.map Prod.snd →
    lineOf receiver events ≠ []
  once : ∀ receiver, (linksTo receiver (events.map Prod.snd)).length ≤ 1

/-- Receivers are handed one link after one more task, if only those are handed one that have heard
nothing, and no one is subscribed who was handed one. -/
theorem Heeded.perform {events : List (Voiced α)} {voice : Option Speaker} (h : Heeded events)
    (hhanded : ∀ receiver link, task = .signal receiver (.subscribe link) →
      lineOf receiver events = [])
    (hunbuilt : ∀ publisher receiver, task = .subscribe publisher receiver →
      ∀ link, .signal receiver (.subscribe link) ∉ events.map Prod.snd) :
    Heeded (events ++ [(voice, task)]) := by
  have hpast : (events ++ [(voice, task)]).map Prod.snd = events.map Prod.snd ++ [task] :=
    List.map_append
  constructor
  · intro receiver link hmem
    rw [hpast] at hmem
    rcases List.mem_append.1 hmem with hbefore | hnow
    · have hline := h.heard receiver link hbefore
      cases task with
      | signal target delivery =>
          by_cases htarget : target = receiver
          · rw [htarget, lineOf_signal_self]
            exact List.append_ne_nil_of_right_ne_nil _ (List.cons_ne_nil _ _)
          · rwa [lineOf_signal_of_ne htarget]
      | subscribe publisher target =>
          have htarget : target ≠ receiver := by
            rintro rfl
            exact hunbuilt publisher target rfl link hbefore
          rwa [lineOf_subscribe_of_ne htarget]
      | _ => rwa [lineOf_quiet _ rfl]
    · rw [← List.mem_singleton.1 hnow, lineOf_signal_self]
      exact List.append_ne_nil_of_right_ne_nil _ (List.cons_ne_nil _ _)
  · intro receiver
    rw [hpast, linksTo_append, List.length_append]
    by_cases hnow : ∃ link, task = .signal receiver (.subscribe link)
    · obtain ⟨link, rfl⟩ := hnow
      have hnone : linksTo receiver (events.map Prod.snd) = [] := by
        refine List.eq_nil_iff_forall_not_mem.2 fun before hmem => ?_
        exact h.heard receiver before (mem_linksTo.1 hmem) (hhanded receiver link rfl)
      rw [hnone, List.length_nil, Nat.zero_add]
      simp [linksTo]
    · have hnone : linksTo receiver [task] = [] := by
        refine List.eq_nil_iff_forall_not_mem.2 fun link hmem => hnow ⟨link, ?_⟩
        exact (List.mem_singleton.1 (mem_linksTo.1 hmem)).symm
      rw [hnone, List.length_nil, Nat.add_zero]
      exact h.once receiver

/-- A receiver that was handed a link was handed no other one. -/
theorem Heeded.linksTo_eq {events : List (Voiced α)} (h : Heeded events)
    (hmem : .signal receiver (.subscribe link) ∈ events.map Prod.snd) :
    linksTo receiver (events.map Prod.snd) = [link] := by
  have hlink := mem_linksTo.2 hmem
  have honce := h.once receiver
  rcases hlinks : linksTo receiver (events.map Prod.snd) with _ | ⟨first, _ | ⟨second, others⟩⟩
  · rw [hlinks] at hlink
    exact absurd hlink List.not_mem_nil
  · rw [hlinks, List.mem_singleton] at hlink
    rw [hlink]
  · rw [hlinks] at honce
    simp at honce

/-- A link that was handed to one receiver only, which was handed no other one, has one taker. -/
theorem takersOf_eq_singleton (hlinks : linksTo receiver past = [link])
    (htakers : ∀ other, .signal other (.subscribe link) ∈ past → other = receiver) :
    takersOf link past = [receiver] := by
  have hcount : (takersOf link past).length =
      ((linksTo receiver past).filter (· = link)).length := by
    clear hlinks
    induction past with
    | nil => rfl
    | cons first past ih =>
        have hrest := ih fun other hother => htakers other (List.mem_cons_of_mem _ hother)
        have hhead : ∀ other, first = .signal other (.subscribe link) → other = receiver :=
          fun other heq => htakers other (heq ▸ List.mem_cons_self)
        cases first with
        | signal target delivery =>
            cases delivery with
            | subscribe handed =>
                by_cases hlink : handed = link
                · subst hlink
                  obtain rfl := hhead target rfl
                  simpa [takersOf, linksTo] using hrest
                · by_cases htarget : target = receiver
                  · simpa [takersOf, linksTo, hlink, htarget] using hrest
                  · simpa [takersOf, linksTo, hlink, htarget] using hrest
            | next | error | complete => exact hrest
        | _ => exact hrest
  rw [hlinks] at hcount
  obtain ⟨found, hfound⟩ := List.length_eq_one_iff.1 (hcount.trans (by simp))
  have hmem : found ∈ takersOf link past := by
    rw [hfound]
    exact List.mem_singleton_self _
  rw [hfound, htakers found (mem_takersOf.1 hmem)]

/-- The one receiver that was handed a link of a chain. -/
theorem Passed.takersOf_eq {events : List (Voiced α)}
    (h : Passed bottom (events.map Prod.snd) network todo)
    (htraced : Traced (events.map Prod.snd) network todo) (hlaid : Laid up bottom network todo)
    (hheeded : Heeded events)
    (hlink : link.isByHand = true ∨ ∃ upper : Receiver, upper.link? = some link)
    (hmem : .signal receiver (.subscribe link) ∈ events.map Prod.snd) :
    takersOf link (events.map Prod.snd) = [receiver] :=
  takersOf_eq_singleton (hheeded.linksTo_eq hmem) fun _ hother =>
    h.taker_unique htraced hlaid hlink hother hmem

/-! ## Cancelled operators -/

/-- Who was cancelled stays so. -/
theorem isCancelled_perform (h : network.isCancelled receiver = true) :
    (perform task network).1.isCancelled receiver = true := by
  have hsame : (perform task network).1.isCancelled = network.isCancelled →
      (perform task network).1.isCancelled receiver = true := fun heq => by rwa [heq]
  cases handles_perform task network with
  | aside _ _ heq | enlist _ _ heq | offer _ _ heq | take _ _ _ heq | pass _ _ _ heq
  | renew _ _ heq | bind _ _ _ heq | refuse _ _ heq | welcome _ _ _ heq | shut _ _ _ heq
  | meet _ _ _ heq | call _ _ _ heq | ask _ _ _ _ _ _ heq => exact hsame heq
  | release _ _ _ heq =>
      rw [heq, Function.update_apply]
      split
      · rfl
      · exact h

/-- An operator whose link was cancelled is cancelled. -/
def Revoked (past : List (Task α)) (network : Network α) : Prop :=
  ∀ receiver own, receiver.link? = some own → network.Knows receiver →
    .order own .cancel ∈ past → network.isCancelled receiver = true

/-- Operators whose links were cancelled are cancelled after one more task. -/
theorem Revoked.perform (h : Revoked past network)
    (htraced : Traced past network (task :: rest)) :
    Revoked (past ++ [task]) (Network.perform task network).1 := by
  intro receiver own hown hknows hmem
  -- An operator is there before a call is made on its link.
  have hthere : .order own .cancel ∈ past ++ task :: rest → network.Knows receiver := by
    intro horder
    obtain ⟨below, hbelow⟩ := htraced.founded _ horder
    obtain ⟨⟨other, hother⟩, -⟩ :=
      htraced.founded _ (List.mem_append_left _ hbelow) receiver hown
    exact htraced.known receiver other hother
  rcases List.mem_append.1 hmem with hbefore | hnow
  · exact isCancelled_perform
      (h receiver own hown (hthere (List.mem_append_left _ hbefore)) hbefore)
  · obtain rfl := List.mem_singleton.1 hnow
    have hbefore := hthere (List.mem_append_right _ List.mem_cons_self)
    cases handles_perform (.order own .cancel) network with
    | aside hidle _ heq =>
        rw [heq]
        exact hidle receiver hown hbefore
    | enlist henlists => cases henlists
    | offer hoffers => cases hoffers
    | ask _ hidle _ _ _ _ heq =>
        rw [heq]
        exact hidle receiver hown hbefore
    | release hreleases _ _ heq =>
        cases hreleases with
        | cancel hlink =>
            obtain rfl := link?_unique hown hlink
            rw [heq, Function.update_self]

end Backpressure.Network
