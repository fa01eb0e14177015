import Backpressure.Proofs.Grammar.Runs
import Mathlib.Data.List.Permutation

/-!
# The first subscription of a chain

A chain of operators over a first publisher is subscribed from below upwards, and its subscription
is handed down again when the first publisher calls. Until that one has called, the scripted
subscriber has heard nothing; once it has called and its subscription was handed down, what the
scripted subscriber has heard is well formed at every moment.

Main results:

- Theorem `Path.perform` shows that a chain that hears nothing stays as it is, theorem `Path.build`
  puts one operator more on it, and theorem `Path.tell` hands a subscription down by one receiver.
- Theorem `Outset.perform` covers every task of a run.
- Theorem `chain_is_grammatical` reads off what the scripted subscriber hears.
-/

namespace Backpressure.Network

open History

variable {α : Type} {network next : Network α} {events todo rest : List (Voiced α)}
  {event : Voiced α} {voice : Option Speaker} {speaker other : Speaker}
  {receiver target crown : Receiver} {lower : List Receiver}

/-! ## Chains -/

/-- The receiver that is subscribed to the first publisher of a chain, when so many windows and
resumptions are there and the chain is put above a receiver. -/
def crownOf : Nat → Nat → Receiver → Publisher α (Action α) → Receiver
  | windows, resumptions, _, .takeLast _ _ up =>
      crownOf (windows + 1) resumptions (.window windows) up
  | windows, resumptions, _, .resume _ _ up =>
      crownOf windows (resumptions + 1) (.resumption resumptions) up
  | _, _, receiver, _ => receiver

/-- A receiver leads down to the first scripted subscriber, over receivers of which each is served
by the unit above it only. None of them has heard anything. -/
inductive Path (events : List (Voiced α)) (network : Network α) : Receiver → List Receiver → Prop
  | probe (hline : lineOf (.probe 0) events = []) : Path events network (.probe 0) []
  | unit {speaker : Speaker} {ear below : Receiver} {lower : List Receiver}
      (hear : ear.unit? = some speaker) (hbelow : network.below? speaker = some below)
      (hline : lineOf ear events = []) (hsaid : saidBy speaker below events = [])
      (hserves : ∀ other, Serves events network other below → other = speaker)
      (hpath : Path events network below lower) : Path events network ear (below :: lower)

/-- The receiver at the upper end of a path has heard nothing. -/
theorem Path.line (h : Path events network receiver lower) : lineOf receiver events = [] := by
  cases h with
  | probe hline => exact hline
  | unit _ _ hline => exact hline

/-- The scripted subscriber at the lower end of a path has heard nothing. -/
theorem Path.lineOf_probe (h : Path events network receiver lower) :
    lineOf (.probe 0) events = [] := by
  induction h with
  | probe hline => exact hline
  | unit _ _ _ _ _ _ ih => exact ih

/-- A receiver leads down in one way only. -/
theorem Path.unique {others : List Receiver} (h : Path events network receiver lower)
    (hother : Path events network receiver others) : lower = others := by
  induction h generalizing others with
  | probe =>
      cases hother with
      | probe => rfl
      | unit hear => cases hear
  | unit hear hbelow _ _ _ _ ih =>
      cases hother with
      | probe => cases hear
      | unit hotherEar hotherBelow _ _ _ hpath =>
          cases hear.symm.trans hotherEar
          cases hbelow.symm.trans hotherBelow
          rw [ih hpath]

/-- What is on a path leads down itself, over what is below it. -/
theorem Path.of_mem (h : Path events network receiver lower) (hmem : target ∈ lower) :
    ∃ others, Path events network target others ∧ others.length < lower.length := by
  induction h with
  | probe => exact absurd hmem List.not_mem_nil
  | @unit _ _ below lower _ _ _ _ _ hpath ih =>
      rcases List.mem_cons.1 hmem with rfl | hmem
      · exact ⟨lower, hpath, Nat.lt_succ_self _⟩
      · obtain ⟨others, hothers, hlt⟩ := ih hmem
        exact ⟨others, hothers, Nat.lt_succ_of_lt hlt⟩

/-- A path does not come back. -/
theorem Path.not_mem (h : Path events network receiver lower) : receiver ∉ lower := by
  intro hmem
  obtain ⟨others, hothers, hlt⟩ := h.of_mem hmem
  rw [h.unique hothers] at hlt
  exact Nat.lt_irrefl _ hlt

/-- No one on a path has heard anything. -/
theorem Path.line_of_mem (h : Path events network receiver lower)
    (hmem : target ∈ receiver :: lower) : lineOf target events = [] := by
  rcases List.mem_cons.1 hmem with rfl | hbelow
  · exact h.line
  · obtain ⟨others, hothers, -⟩ := h.of_mem hbelow
    exact hothers.line

/-- What is on a path is served by a unit above it, which has said nothing, and which hears as a
receiver on the path. -/
theorem Path.server (h : Path events network receiver lower) (hmem : target ∈ lower) :
    ∃ speaker ear, ear.unit? = some speaker ∧ network.below? speaker = some target ∧
      lineOf ear events = [] ∧ saidBy speaker target events = [] ∧
      (∀ other, Serves events network other target → other = speaker) ∧
      ear ∈ receiver :: lower := by
  induction h with
  | probe => exact absurd hmem List.not_mem_nil
  | @unit speaker ear below lower hear hbelow hline hsaid hserves hpath ih =>
      rcases List.mem_cons.1 hmem with rfl | hmem
      · exact ⟨speaker, ear, hear, hbelow, hline, hsaid, hserves, List.mem_cons_self⟩
      · obtain ⟨above, upper, habove⟩ := ih hmem
        exact ⟨above, upper, habove.1, habove.2.1, habove.2.2.1, habove.2.2.2.1,
          habove.2.2.2.2.1, List.mem_cons_of_mem _ habove.2.2.2.2.2⟩

/-- A line stays empty until its receiver hears a signal. -/
theorem lineOf_concat_eq_nil (h : lineOf receiver events = [])
    (hsignal : ∀ voice delivery, event ≠ (voice, .signal receiver delivery)) :
    lineOf receiver (events ++ [event]) = [] := by
  obtain ⟨voice, task⟩ := event
  cases task with
  | signal other delivery =>
      rw [lineOf_signal_of_ne, h]
      rintro rfl
      exact hsignal voice delivery rfl
  | subscribe publisher other =>
      by_cases hother : other = receiver
      · rw [hother, lineOf_subscribe_self]
      · rw [lineOf_subscribe_of_ne hother, h]
  | _ => rw [lineOf_quiet _ rfl, h]

/-- A speech stays empty until its receiver hears a signal. -/
theorem saidBy_concat_eq_nil (h : saidBy speaker receiver events = [])
    (hsignal : ∀ voice delivery, event ≠ (voice, .signal receiver delivery)) :
    saidBy speaker receiver (events ++ [event]) = [] := by
  obtain ⟨voice, task⟩ := event
  cases task with
  | signal other delivery =>
      rw [saidBy_signal_of_ne, h]
      rintro ⟨-, rfl⟩
      exact hsignal voice delivery rfl
  | subscribe publisher other =>
      by_cases hother : speaker.speaksFor publisher = true ∧ other = receiver
      · rw [hother.2, saidBy_subscribe_self hother.1]
      · rw [saidBy_subscribe_of_ne hother, h]
  | _ => rw [saidBy_quiet _ _ rfl, h]

/-- A path stays as it is when no one on it hears anything. -/
theorem Path.keep (h : Path events network receiver lower)
    (hsignal : ∀ voice target delivery, event = (voice, .signal target delivery) →
      target ∉ receiver :: lower)
    (hbelow : ∀ speaker target, network.below? speaker = some target →
      next.below? speaker = some target)
    (hserves : ∀ speaker target, target ∈ lower →
      Serves (events ++ [event]) next speaker target → Serves events network speaker target) :
    Path (events ++ [event]) next receiver lower := by
  induction h with
  | probe hline =>
      refine .probe (lineOf_concat_eq_nil hline fun voice delivery heq => ?_)
      exact hsignal voice _ delivery heq List.mem_cons_self
  | @unit speaker ear below lower hear hbelow' hline hsaid hserved hpath ih =>
      refine .unit hear (hbelow _ _ hbelow')
        (lineOf_concat_eq_nil hline fun voice delivery heq => ?_)
        (saidBy_concat_eq_nil hsaid fun voice delivery heq => ?_) (fun other hother => ?_)
        (ih ?_ ?_)
      · exact hsignal voice _ delivery heq List.mem_cons_self
      · exact hsignal voice _ delivery heq (List.mem_cons_of_mem _ List.mem_cons_self)
      · exact hserved other (hserves other below List.mem_cons_self hother)
      · exact fun voice target delivery heq hmem =>
          hsignal voice target delivery heq (List.mem_cons_of_mem _ hmem)
      · exact fun speaker target hmem => hserves speaker target (List.mem_cons_of_mem _ hmem)

/-- No one below the upper end of a path is subscribed. -/
theorem Path.not_subscribed {publisher : Publisher α (Action α)}
    (h : Path events network receiver lower)
    (horder : Orderly events network ((voice, .subscribe publisher target) :: todo)) :
    target ∉ lower := by
  intro hmem
  obtain ⟨speaker, ear, -, hbelow, -, hsaid, -⟩ := h.server hmem
  cases horder with
  | settled hsettled => exact hsettled.calm voice publisher target List.mem_cons_self
  | subscribing _ _ _ hfree =>
      have hclosed := hfree speaker (.inl hbelow)
      rw [hsaid] at hclosed
      cases hclosed

/-- A path stays as it is when a task is performed that is no signal to anyone on it. -/
theorem Path.perform {task : Task α} (h : Path events network receiver lower)
    (horder : Orderly events network ((voice, task) :: todo))
    (hsignal : ∀ target delivery, task = .signal target delivery → target ∉ receiver :: lower) :
    Path (events ++ [(voice, task)]) (perform task network).1 receiver lower := by
  have hspoken : ∀ found target delivery, (voice, task) = (found, .signal target delivery) →
      target ∉ receiver :: lower := by
    rintro found target delivery heq
    exact hsignal target delivery (congrArg Prod.snd heq)
  by_cases hsubscribes : ∃ publisher target, task = .subscribe publisher target
  · obtain ⟨publisher, target, rfl⟩ := hsubscribes
    have hnot := h.not_subscribed horder
    refine h.keep hspoken (fun speaker below hbelow => ?_) fun speaker below hmem hserves => ?_
    · rcases below?_subscribe network target publisher speaker with hsame | ⟨hnone, -⟩
      · exact hsame.trans hbelow
      · exact absurd (hnone.symm.trans hbelow) (Option.some_ne_none below).symm
    · have hne : target ≠ below := by
        rintro rfl
        exact hnot hmem
      rcases serves_subscribe.1 hserves with (hbelow | hevent) | ⟨heq, -⟩
      · rcases below?_subscribe network target publisher speaker with hsame | ⟨-, hnew⟩
        · exact .inl (hsame.symm.trans hbelow)
        · exact absurd (Option.some.inj (hnew.symm.trans hbelow)) hne
      · exact .inr hevent
      · exact absurd heq hne
  · have hbelow : ∀ speaker,
        (Network.perform task network).1.below? speaker = network.below? speaker :=
      below?_perform fun publisher target heq => hsubscribes ⟨publisher, target, heq⟩
    refine h.keep hspoken (fun speaker below hplace => (hbelow speaker).trans hplace)
      fun speaker below _ hserves => ?_
    rw [serves_concat fun found publisher target heq =>
      hsubscribes ⟨publisher, target, congrArg Prod.snd heq⟩] at hserves
    unfold Serves at hserves ⊢
    rwa [hbelow] at hserves

/-! ## Signals on a chain -/

/-- A signal that is left to be delivered comes from someone who serves its receiver. -/
theorem Orderly.serves_of_signal {delivery : Delivery α Link} (h : Orderly events network todo)
    (hmem : (voice, .signal receiver delivery) ∈ todo) :
    ∃ speaker, voice = some speaker ∧ Serves events network speaker receiver := by
  have hleft : ∀ {left : List (Voiced α)}, InTurn events network left →
      (voice, .signal receiver delivery) ∈ left →
      ∃ speaker, voice = some speaker ∧ Serves events network speaker receiver := by
    intro left hturn hin
    obtain ⟨speaker, hvoice, -, hserves⟩ := hturn.voices _ _ _ hin
    exact ⟨speaker, hvoice, hserves⟩
  cases h with
  | settled hsettled => exact hleft hsettled hmem
  | speaking hsettled _ hbelow =>
      rcases List.mem_cons.1 hmem with heq | hrest
      · simp only [Prod.mk.injEq, Task.signal.injEq] at heq
        obtain ⟨rfl, rfl, -⟩ := heq
        exact ⟨_, rfl, .inl hbelow⟩
      · exact hleft hsettled hrest
  | subscribing hsettled =>
      exact hleft hsettled ((List.mem_cons.1 hmem).resolve_left fun heq => by cases heq)

/-- A unit that answers without a signal signals to no one. -/
theorem not_signal_mem_map {κ : Type} {effects : List (Effect α Link κ)} {work : κ → Task α}
    {below : Receiver} {delivery : Delivery α Link}
    (hsilent : ∀ effect ∈ effects, effect.isSignal = false)
    (hwork : ∀ own, work own ≠ .signal receiver delivery) :
    .signal receiver delivery ∉ effects.map (taskOf below work) := by
  intro hmem
  obtain ⟨effect, heffect, htask⟩ := List.mem_map.1 hmem
  cases effect with
  | signal => exact absurd (hsilent _ heffect).symm Bool.false_ne_true
  | order => cases htask
  | go own => exact hwork own htask

/-- A window that answers without a signal signals to no one. -/
theorem not_signal_mem_onWindow {index : Nat} {delivery : Delivery α Link}
    {f : Window α Link → Window α Link × List (Effect α Link Pass)}
    (hsilent : ∀ window, ∀ effect ∈ (f window).2, effect.isSignal = false) :
    .signal receiver delivery ∉ (network.onWindow index f).2 := by
  unfold onWindow
  split
  next stage _ => exact not_signal_mem_map (hsilent stage.unit) fun _ heq => by cases heq
  next => exact List.not_mem_nil

/-- A resumption that answers without a signal signals to no one. -/
theorem not_signal_mem_onResumption {index : Nat} {delivery : Delivery α Link}
    {f : Resumption Link → Resumption Link × List (Effect α Link (Resumption.Work Link))}
    (hsilent : ∀ resumption, ∀ effect ∈ (f resumption).2, effect.isSignal = false) :
    .signal receiver delivery ∉ (network.onResumption index f).2 := by
  unfold onResumption
  split
  next stage _ => exact not_signal_mem_map (hsilent stage.unit) fun _ heq => by cases heq
  next => exact List.not_mem_nil

/-- An operator signals when it hears a signal or goes on with its work. -/
theorem hears_or_isWorkOf {task : Task α} {ear : Receiver} {delivery : Delivery α Link}
    (hear : ear.unit? = some speaker) (hspeaker : speakerOf network task = some speaker)
    (hmem : .signal receiver delivery ∈ (Network.perform task network).2) :
    (∃ heard, task = .signal ear heard) ∨ task.isWorkOf speaker = true := by
  cases task with
  | signal other heard =>
      cases other with
      | probe | bridge => exact absurd hspeaker (Option.some_ne_none speaker).symm
      | window index =>
          have hother : (Receiver.window index).unit? = some speaker := hspeaker
          exact .inl ⟨heard, by rw [unit?_unique hear hother]⟩
      | resumption index =>
          have hother : (Receiver.resumption index).unit? = some speaker := hspeaker
          exact .inl ⟨heard, by rw [unit?_unique hear hother]⟩
  | window | recover =>
      obtain rfl := Option.some.inj hspeaker
      exact .inr (decide_eq_true rfl)
  | resumption index work =>
      obtain rfl := Option.some.inj hspeaker
      cases work with
      | recover => exact .inr (decide_eq_true rfl)
      | bind =>
          exact absurd hmem (not_signal_mem_onResumption fun resumption =>
            Resumption.isSignal_call _ resumption)
      | count => exact absurd hmem (not_signal_mem_onResumption fun _ => List.forall_mem_nil _)
  | order link order =>
      cases link with
      | window =>
          exact absurd hmem (not_signal_mem_onWindow fun window => window.isSignal_take order)
      | switch =>
          exact absurd hmem (not_signal_mem_onResumption fun resumption =>
            Resumption.isSignal_call _ resumption)
      | source =>
          obtain rfl := Option.some.inj hspeaker
          cases ear <;> cases hear
      | inert | hand | tap => exact absurd hspeaker (Option.some_ne_none speaker).symm
  | source =>
      obtain rfl := Option.some.inj hspeaker
      cases ear <;> cases hear
  | act action =>
      cases action <;>
        first
        | exact absurd hspeaker (Option.some_ne_none speaker).symm
        | (obtain rfl := Option.some.inj hspeaker; cases ear <;> cases hear)
  | subscribe publisher other =>
      cases publisher with
      | items supply =>
          simp only [speakerOf, Option.some.injEq] at hspeaker
          subst hspeaker
          split at hear <;> cases ear <;> cases hear
      | hand | fail =>
          obtain rfl := Option.some.inj hspeaker
          cases ear <;> cases hear
      | deferred | named | takeLast | resume =>
          exact absurd hspeaker (Option.some_ne_none speaker).symm
  | ret | leave | announce | collect => exact absurd hspeaker (Option.some_ne_none speaker).symm

/-- An operator that has heard nothing has no work under way. -/
theorem Orderly.isWorkOf_of_silent {ear : Receiver}
    (h : Orderly events network (event :: todo)) (hear : ear.unit? = some speaker)
    (hline : lineOf ear events = []) : event.2.isWorkOf speaker = false := by
  by_contra hnot
  have hwork : event.2.isWorkOf speaker = true := Bool.of_not_eq_false hnot
  obtain ⟨hquiet, hunit⟩ : event.2.isQuiet = true ∧ speaker.isUnit = true := by
    obtain ⟨voice, task⟩ := event
    cases ear <;> cases hear <;> cases task <;>
      first
      | exact ⟨rfl, rfl⟩
      | exact absurd hwork Bool.false_ne_true
  obtain ⟨below, hbelow⟩ := h.exists_below? hquiet hunit hwork
  obtain ⟨heard, said, hheard, -, hstands⟩ := (h.of_isQuiet hquiet).2 speaker below hbelow
  obtain rfl : Parse.silent = heard := by
    have hsilent := hheard ear hear
    rw [hline] at hsilent
    exact Option.some.inj hsilent
  rw [workOf_cons_of_isWorkOf hwork] at hstands
  cases ear with
  | probe | bridge => exact absurd hear (Option.some_ne_none speaker).symm
  | window index =>
      obtain rfl := Option.some.inj hear
      obtain ⟨stage, hstage, -⟩ := Option.map_eq_some_iff.1 hbelow
      cases hstands stage hstage
  | resumption index =>
      obtain rfl := Option.some.inj hear
      obtain ⟨stage, hstage, -⟩ := Option.map_eq_some_iff.1 hbelow
      cases hstands stage hstage

/-- As long as no one on a path hears anything, no one below its upper end is signalled to. -/
theorem Path.not_signalled {task : Task α} {delivery : Delivery α Link}
    (h : Path events network receiver lower)
    (horder : Orderly events network ((voice, task) :: todo))
    (hnext : Orderly (events ++ [(voice, task)]) (Network.perform task network).1
      (voiced (speakerOf network task) (Network.perform task network).2 ++ todo))
    (hsignal : ∀ target delivery, task = .signal target delivery → target ∉ receiver :: lower)
    (hmem : .signal target delivery ∈ (Network.perform task network).2) : target ∉ lower := by
  intro htarget
  obtain ⟨speaker, ear, hear, -, -, -, hserves, hthere⟩ :=
    (h.perform horder hsignal).server htarget
  have hvoiced : (speakerOf network task, Task.signal target delivery) ∈
      voiced (speakerOf network task) (Network.perform task network).2 ++ todo :=
    List.mem_append_left _ (List.mem_map.2 ⟨_, hmem, rfl⟩)
  -- Only the unit above can have signalled, and it has neither heard anything nor work to do.
  obtain ⟨other, hspeaker, hother⟩ := hnext.serves_of_signal hvoiced
  obtain rfl := hserves other hother
  rcases hears_or_isWorkOf hear hspeaker hmem with ⟨heard, rfl⟩ | hwork
  · exact hsignal ear heard rfl hthere
  · rw [horder.isWorkOf_of_silent hear (h.line_of_mem hthere)] at hwork
    exact Bool.false_ne_true hwork

/-- An operator that has heard and said nothing hands a subscription on at once. -/
theorem exists_handed {ear below : Receiver} {duties : Nat}
    (hear : ear.unit? = some speaker) (hbelow : network.below? speaker = some below)
    (hstands : network.UnitStands .silent duties .silent speaker) (link : Link) :
    ∃ handed tasks, (Network.perform (.signal ear (.subscribe link)) network).2 =
      .signal below (.subscribe handed) :: tasks := by
  cases ear with
  | probe | bridge => exact absurd hear (Option.some_ne_none speaker).symm
  | window index =>
      obtain rfl := Option.some.inj hear
      obtain ⟨stage, hstage, rfl⟩ := Option.map_eq_some_iff.1 hbelow
      simp only [Network.perform, Network.deliver, Network.onWindow, hstage]
      exact ⟨_, _, rfl⟩
  | resumption index =>
      obtain rfl := Option.some.inj hear
      obtain ⟨stage, hstage, rfl⟩ := Option.map_eq_some_iff.1 hbelow
      have hfirst : stage.unit.resumed = false := by
        cases hstands stage hstage with
        | first hresumed => exact hresumed
      simp only [Network.perform, Network.deliver, Network.onResumption, hstage, Resumption.hear,
        hfirst]
      exact ⟨_, _, rfl⟩

/-! ## The first subscription -/

/-- The receiver at the upper end of a chain has been subscribed by the first publisher. -/
def HasBegun (crown : Receiver) (events : List (Voiced α)) : Prop :=
  ∃ voice link, (voice, .signal crown (.subscribe link)) ∈ events

/-- How far the first subscription of a chain has come. The chain is built from below upwards, waits
for its first publisher, and hands the subscription of that one down. -/
inductive Outset (crown : Receiver) (events : List (Voiced α)) (network : Network α) :
    List (Voiced α) → Prop
  | building {voice : Option Speaker} {publisher : Publisher α (Action α)} {receiver : Receiver}
      {lower : List Receiver} {rest : List (Voiced α)}
      (hcrown : crownOf network.windows.length network.resumptions.length receiver publisher =
        crown)
      (hpath : Path events network receiver lower)
      (hfree : ∀ speaker, ¬ Serves events network speaker receiver)
      (hbegun : ¬ HasBegun crown events) :
      Outset crown events network ((voice, .subscribe publisher receiver) :: rest)
  | waiting {lower : List Receiver} {todo : List (Voiced α)}
      (hpath : Path events network crown lower)
      (hsilent : ∀ voice target delivery, (voice, .signal target delivery) ∈ todo →
        target ∉ lower)
      (hbegun : ¬ HasBegun crown events) : Outset crown events network todo
  | telling {voice : Option Speaker} {link : Link} {receiver : Receiver} {lower : List Receiver}
      {rest : List (Voiced α)} (hpath : Path events network receiver lower)
      (hspoken : isWellSpoken events (voice, .signal receiver (.subscribe link)))
      (hbegun : HasBegun crown events) :
      Outset crown events network ((voice, .signal receiver (.subscribe link)) :: rest)
  | told {todo : List (Voiced α)} (hline : lineOf (.probe 0) events ≠ [])
      (hbegun : HasBegun crown events) : Outset crown events network todo

/-- What has happened stays so. -/
theorem HasBegun.concat (h : HasBegun crown events) (event : Voiced α) :
    HasBegun crown (events ++ [event]) :=
  h.imp fun _ => Exists.imp fun _ hmem => List.mem_append_left _ hmem

/-- The first publisher begins by a signal to the upper end of the chain. -/
theorem not_hasBegun_concat (h : ¬ HasBegun crown events)
    (hsignal : ∀ voice delivery, event ≠ (voice, .signal crown delivery)) :
    ¬ HasBegun crown (events ++ [event]) := by
  rintro ⟨voice, link, hmem⟩
  rcases List.mem_append.1 hmem with hbefore | hlast
  · exact h ⟨voice, link, hbefore⟩
  · exact hsignal voice _ (List.mem_singleton.1 hlast).symm

/-- What a scripted subscriber has heard is not forgotten. -/
theorem Orderly.lineOf_probe_ne_nil {index : Nat} {task : Task α}
    (h : Orderly events network ((voice, task) :: todo))
    (hline : lineOf (.probe index) events ≠ []) :
    lineOf (.probe index) (events ++ [(voice, task)]) ≠ [] := by
  cases task with
  | signal other delivery =>
      by_cases hother : other = .probe index
      · subst hother
        rw [lineOf_signal_self]
        exact List.concat_ne_nil _ _
      · rwa [lineOf_signal_of_ne hother]
  | subscribe publisher other =>
      by_cases hother : other = .probe index
      · cases h with
        | settled hsettled => exact absurd List.mem_cons_self (hsettled.calm _ publisher other)
        | subscribing _ _ _ _ hfirst => exact absurd (hother ▸ hfirst index hother) hline
      · rwa [lineOf_subscribe_of_ne hother]
  | _ => rwa [lineOf_quiet _ rfl]

/-- Operators are no publishers driven by hand. -/
theorem isWellSpoken_of_unit? (hear : receiver.unit? = some speaker) (network : Network α)
    (delivery : Delivery α Link) (before : List (Voiced α)) (task : Task α) :
    isWellSpoken before (speakerOf network (.signal receiver delivery), task) := by
  cases receiver with
  | probe | bridge => exact absurd hear (Option.some_ne_none speaker).symm
  | window | resumption => trivial

/-- A subscription is handed down by one receiver. -/
theorem Path.tell {link : Link} {below : Receiver}
    (h : Path events network receiver (below :: lower))
    (hproper : Proper events ⟨network, (voice, .signal receiver (.subscribe link)) :: todo⟩)
    (hspoken : isWellSpoken events (voice, .signal receiver (.subscribe link))) :
    ∃ handed tasks,
      (Network.perform (.signal receiver (.subscribe link)) network).2 =
        .signal below (.subscribe handed) :: tasks ∧
      isWellSpoken (events ++ [(voice, .signal receiver (.subscribe link))])
        (speakerOf network (.signal receiver (.subscribe link)),
          .signal below (.subscribe handed)) ∧
      Path (events ++ [(voice, .signal receiver (.subscribe link))])
        (Network.perform (.signal receiver (.subscribe link)) network).1 below lower := by
  have hnot := h.not_mem
  cases h with
  | @unit speaker _ _ _ hear hbelow hline hsaid hserves hpath =>
      obtain ⟨teller, rfl, hheard⟩ := hproper.orderly.heard hproper.fits hspoken
      obtain ⟨target, before, now, said, hnow, hasked, hstands⟩ := hheard.asked hear
      obtain rfl : below = target := Option.some.inj (hbelow.symm.trans hasked.below)
      obtain rfl : Parse.silent = before := by
        cases before with
        | silent => rfl
        | opened | closed => exact absurd hnow (Option.some_ne_none now).symm
      have hquiet : saidBy speaker below
          (events ++ [(some teller, .signal receiver (.subscribe link))]) = [] := by
        refine saidBy_concat_eq_nil hsaid fun found delivery heq => hnot ?_
        simp only [Prod.mk.injEq, Task.signal.injEq] at heq
        rw [heq.2.1]
        exact List.mem_cons_self
      obtain rfl : Parse.silent = said := by
        have hsays := hasked.said
        rw [hquiet] at hsays
        exact Option.some.inj hsays
      -- A unit that has been silent on both sides hands its first subscription on first of all.
      obtain ⟨handed, tasks, htasks⟩ := exists_handed hear hbelow hstands link
      refine ⟨handed, tasks, htasks, isWellSpoken_of_unit? hear _ _ _ _, ?_⟩
      refine hpath.perform hproper.orderly fun target delivery heq hmem => hnot ?_
      rw [(Task.signal.inj heq).1]
      exact hmem

/-- A subscription that is handed down is heard by the scripted subscriber, or is handed on. -/
theorem Path.hand {link : Link} (h : Path events network receiver lower)
    (hproper : Proper events ⟨network, (voice, .signal receiver (.subscribe link)) :: todo⟩)
    (hspoken : isWellSpoken events (voice, .signal receiver (.subscribe link)))
    (hbegun : HasBegun crown (events ++ [(voice, .signal receiver (.subscribe link))])) :
    Outset crown (events ++ [(voice, .signal receiver (.subscribe link))])
      (Network.perform (.signal receiver (.subscribe link)) network).1
      (voiced (speakerOf network (.signal receiver (.subscribe link)))
        (Network.perform (.signal receiver (.subscribe link)) network).2 ++ todo) := by
  cases lower with
  | nil =>
      cases h with
      | probe =>
          refine .told ?_ hbegun
          rw [lineOf_signal_self]
          exact List.concat_ne_nil _ _
  | cons below lower =>
      obtain ⟨handed, tasks, htasks, hnext, hpath⟩ := h.tell hproper hspoken
      rw [htasks]
      exact .telling hpath hnext hbegun

/-- Whatever happens while a chain waits for its first publisher. -/
theorem Path.wait {task : Task α} (h : Path events network crown lower)
    (hproper : Proper events ⟨network, (voice, task) :: todo⟩)
    (hspoken : isWellSpoken events (voice, task))
    (hsilent : ∀ found target delivery,
      (found, .signal target delivery) ∈ (voice, task) :: todo → target ∉ lower)
    (hbegun : ¬ HasBegun crown events) :
    Outset crown (events ++ [(voice, task)]) (Network.perform task network).1
      (voiced (speakerOf network task) (Network.perform task network).2 ++ todo) := by
  by_cases hcrown : ∃ delivery, task = .signal crown delivery
  · -- The first signal to the upper end of the chain can only be its subscription.
    obtain ⟨delivery, rfl⟩ := hcrown
    obtain ⟨_, _, hheard⟩ := hproper.orderly.heard hproper.fits hspoken
    obtain ⟨before, now, hbefore, hnow⟩ := hheard.line
    obtain rfl : Parse.silent = before := by
      rw [h.line] at hbefore
      exact Option.some.inj hbefore
    obtain ⟨link, rfl, -⟩ := Parse.next?_silent_delivery hnow
    exact h.hand hproper hspoken
      ⟨voice, link, List.mem_append_right _ (List.mem_singleton_self _)⟩
  · have hsignal : ∀ target delivery, task = .signal target delivery →
        target ∉ crown :: lower := by
      rintro target delivery rfl hmem
      rcases List.mem_cons.1 hmem with rfl | hlower
      · exact hcrown ⟨delivery, rfl⟩
      · exact hsilent voice target delivery List.mem_cons_self hlower
    have hnext := hproper.orderly.perform hproper.fits hspoken
    refine .waiting (h.perform hproper.orderly hsignal) (fun found target delivery hmem => ?_)
      (not_hasBegun_concat hbegun fun found delivery heq =>
        hcrown ⟨delivery, congrArg Prod.snd heq⟩)
    rcases List.mem_append.1 hmem with hadded | hrest
    · exact h.not_signalled hproper.orderly hnext hsignal (mem_of_mem_voiced hadded).2
    · exact hsilent found target delivery (List.mem_cons_of_mem _ hrest)

/-- An operator is put at the upper end of a path, where no one serves it yet. -/
theorem Path.attach {publisher : Publisher α (Action α)} {ear : Receiver}
    (h : Path events network receiver lower)
    (horder : Orderly events network ((voice, .subscribe publisher receiver) :: todo))
    (hfree : ∀ other, ¬ Serves events network other receiver)
    (hpublisher : ∀ other : Speaker, other.speaksFor publisher = false)
    (hear : ear.unit? = some speaker)
    (hjoins : Joins speaker receiver network (network.subscribe receiver publisher).1) :
    Path (events ++ [(voice, .subscribe publisher receiver)])
        (network.subscribe receiver publisher).1 ear (receiver :: lower) ∧
      ∀ other, ¬ Serves (events ++ [(voice, .subscribe publisher receiver)])
        (network.subscribe receiver publisher).1 other ear := by
  have hbegins := horder.begin
  have hnew := (hjoins.ear ear hear).1
  have hstill : ∀ other, ¬ Serves (events ++ [(voice, .subscribe publisher receiver)]) network
      other receiver := by
    intro other hserves
    rcases serves_subscribe.1 hserves with hbefore | ⟨-, hspeaks⟩
    · exact hfree other hbefore
    · rw [hpublisher other] at hspeaks
      exact Bool.false_ne_true hspeaks
  have hsilent := (hbegins.settled.fresh speaker hjoins.isUnit hjoins.isNew).2 receiver
  refine ⟨.unit hear ((hjoins.below _).trans (if_pos rfl)) (hbegins.settled.unheard ear hnew)
    hsilent (fun other hserves => ?_) (h.perform horder fun _ _ heq => by cases heq),
    fun other hserves => ?_⟩
  · exact ((hjoins.serves.1 hserves).resolve_left (hstill other)).1
  · rcases hjoins.serves.1 hserves with hbefore | ⟨-, rfl⟩
    · exact hnew (hbegins.settled.known other ear hbefore)
    · exact hnew hbegins.knows

/-- A publisher signals at first to the receiver that is subscribed to it. -/
theorem eq_of_signal_mem_subscribe {publisher : Publisher α (Action α)}
    {delivery : Delivery α Link}
    (hmem : .signal target delivery ∈ (network.subscribe receiver publisher).2) :
    target = receiver := by
  cases publisher with
  | items supply =>
      simp only [Network.subscribe] at hmem
      split at hmem
      · simp only [List.mem_cons, Task.signal.injEq, List.not_mem_nil, or_false] at hmem
        exact hmem.elim And.left And.left
      · exact (Task.signal.inj (List.mem_singleton.1 hmem)).1
  | fail =>
      simp only [Network.subscribe, List.mem_cons, Task.signal.injEq, List.not_mem_nil,
        or_false] at hmem
      exact hmem.elim And.left And.left
  | hand name =>
      simp only [Network.subscribe] at hmem
      split at hmem
      · exact (Task.signal.inj (List.mem_singleton.1 hmem)).1
      · exact absurd hmem List.not_mem_nil
  | deferred | named => exact absurd hmem List.not_mem_nil
  | takeLast | resume => cases List.mem_singleton.1 hmem

/-- No one below the upper end of a path has signals left to be delivered. -/
theorem Path.not_left {delivery : Delivery α Link} (h : Path events network receiver lower)
    (hturn : InTurn events network todo) (hmem : (voice, .signal target delivery) ∈ todo) :
    target ∉ lower := by
  intro htarget
  obtain ⟨speaker, ear, -, hbelow, -, -, hserves, -⟩ := h.server htarget
  obtain ⟨other, -, hunit, hother⟩ := hturn.voices voice target delivery hmem
  rw [hserves other hother, isUnit_of_below? hbelow] at hunit
  exact Bool.false_ne_true hunit.symm

/-- A chain is built by one receiver, or waits for its first publisher. -/
theorem Path.build {publisher : Publisher α (Action α)} (h : Path events network receiver lower)
    (horder : Orderly events network ((voice, .subscribe publisher receiver) :: todo))
    (hcrown : crownOf network.windows.length network.resumptions.length receiver publisher = crown)
    (hfree : ∀ other, ¬ Serves events network other receiver)
    (hbegun : ¬ HasBegun crown events) :
    Outset crown (events ++ [(voice, .subscribe publisher receiver)])
      (Network.perform (.subscribe publisher receiver) network).1
      (voiced (speakerOf network (.subscribe publisher receiver))
        (Network.perform (.subscribe publisher receiver) network).2 ++ todo) := by
  have hstill : ¬ HasBegun crown (events ++ [(voice, .subscribe publisher receiver)]) :=
    not_hasBegun_concat hbegun fun _ _ heq => by cases heq
  have hrest : InTurn events network todo := by
    cases horder with
    | settled hsettled => exact absurd List.mem_cons_self (hsettled.calm voice publisher receiver)
    | subscribing hsettled => exact hsettled
  have hbase : receiver = crown → Outset crown (events ++ [(voice, .subscribe publisher receiver)])
      (Network.perform (.subscribe publisher receiver) network).1
      (voiced (speakerOf network (.subscribe publisher receiver))
        (Network.perform (.subscribe publisher receiver) network).2 ++ todo) := by
    rintro rfl
    refine .waiting (h.perform horder fun _ _ heq => by cases heq)
      (fun found target delivery hmem => ?_) hstill
    rcases List.mem_append.1 hmem with hadded | hleft
    · rw [eq_of_signal_mem_subscribe (mem_of_mem_voiced hadded).2]
      exact h.not_mem
    · exact h.not_left hrest hleft
  -- An operator moves the upper end of the chain up by one; any other publisher is the first one.
  cases publisher with
  | items | fail | hand | deferred | named => exact hbase hcrown
  | takeLast count delaysFailure up =>
      have hjoins : Joins (.window network.windows.length) receiver network
          (network.subscribe receiver (.takeLast count delaysFailure up)).1 :=
        joins_window network receiver _ rfl
      have hear : (Receiver.window network.windows.length).unit? =
          some (.window network.windows.length) := rfl
      obtain ⟨hpath, hunserved⟩ :=
        h.attach horder hfree (fun other => by cases other <;> rfl) hear hjoins
      refine .building ?_ hpath hunserved hstill
      rw [← hcrown]
      simp only [Network.perform, Network.subscribe, List.length_append, List.length_singleton,
        crownOf]
  | resume tag recover up =>
      have hjoins : Joins (.resumption network.resumptions.length) receiver network
          (network.subscribe receiver (.resume tag recover up)).1 :=
        joins_resumption network receiver _ rfl
      have hear : (Receiver.resumption network.resumptions.length).unit? =
          some (.resumption network.resumptions.length) := rfl
      obtain ⟨hpath, hunserved⟩ :=
        h.attach horder hfree (fun other => by cases other <;> rfl) hear hjoins
      refine .building ?_ hpath hunserved hstill
      rw [← hcrown]
      simp only [Network.perform, Network.subscribe, List.length_append, List.length_singleton,
        crownOf]

/-- The first subscription of a chain goes on by one task. -/
theorem Outset.perform {task : Task α} (h : Outset crown events network ((voice, task) :: todo))
    (hproper : Proper events ⟨network, (voice, task) :: todo⟩)
    (hspoken : isWellSpoken events (voice, task)) :
    Outset crown (events ++ [(voice, task)]) (Network.perform task network).1
      (voiced (speakerOf network task) (Network.perform task network).2 ++ todo) := by
  cases h with
  | building hcrown hpath hfree hbegun =>
      exact hpath.build hproper.orderly hcrown hfree hbegun
  | waiting hpath hsilent hbegun => exact hpath.wait hproper hspoken hsilent hbegun
  | telling hpath _ hbegun => exact hpath.hand hproper hspoken (hbegun.concat _)
  | told hline hbegun => exact .told (hproper.orderly.lineOf_probe_ne_nil hline) (hbegun.concat _)

/-! ## Runs -/

/-- A subscription is handed down from receiver to receiver, and a scripted subscriber hears it
before anything else happens. -/
inductive HandsDown (index : Nat) : Agenda (Network α) (Task α) → Prop
  | arrives {network : Network α} {link : Link} {rest : List (Task α)} :
      HandsDown index ⟨network, .signal (.probe index) (.subscribe link) :: rest⟩
  | passes {network : Network α} {receiver : Receiver} {link : Link} {rest : List (Task α)}
      (h : HandsDown index
        (Agenda.step perform ⟨network, .signal receiver (.subscribe link) :: rest⟩)) :
      HandsDown index ⟨network, .signal receiver (.subscribe link) :: rest⟩

/-- A subscription that was signalled to the upper end of a path is handed down all of it. -/
theorem Path.handsDown {link : Link} (h : Path events network receiver lower)
    (hproper : Proper events ⟨network, (voice, .signal receiver (.subscribe link)) :: todo⟩)
    (hspoken : isWellSpoken events (voice, .signal receiver (.subscribe link))) :
    HandsDown 0 (erase ⟨network, (voice, .signal receiver (.subscribe link)) :: todo⟩) := by
  induction lower generalizing events network receiver voice link todo with
  | nil =>
      cases h with
      | probe => exact .arrives
  | cons below lower ih =>
      obtain ⟨handed, tasks, htasks, hhanded, hpath⟩ := h.tell hproper hspoken
      have hnext := hproper.perform hspoken
      refine .passes ?_
      have herase := erase_step
        (⟨network, (voice, .signal receiver (.subscribe link)) :: todo⟩ :
          Agenda (Network α) (Voiced α))
      rw [Agenda.step_cons, performVoiced, htasks] at hnext herase
      exact herase ▸ ih hpath hnext hhanded

/-- An expression without definitions stays as it is. -/
theorem resolve_of_definitions_eq_nil (h : network.definitions = [])
    (publisher : Publisher α (Action α)) : network.resolve publisher = publisher := by
  have hnone : network.definitionOf = fun _ => none := by
    funext name
    rw [definitionOf, h]
    rfl
  rw [Network.resolve, hnone]
  fun_induction Publisher.resolve _ publisher with
  | case1 => rfl
  | case2 _ _ _ ih | case3 _ _ _ ih => rw [ih]
  | case4 => rfl

variable {name : String} {publisher : Publisher α (Action α)} {initial : UInt64}
  {react : Kind → Nat → List (Action α)} {script later : List (Action α)} {fuel : Nat}

/-- A chain is to be built above the scripted subscriber that is made first of all. -/
theorem outset_launch (hscript : script = .subscribe name publisher initial react :: later) :
    Outset (crownOf 0 0 (.probe 0) publisher) (performed 1 (launch script))
      (Agenda.run performVoiced 1 (launch script)).state
      (Agenda.run performVoiced 1 (launch script)).todo := by
  subst hscript
  obtain ⟨hands, deferreds, hmention⟩ := (({} : Network α).log
    (.called (.subscribe name publisher initial react))).exists_mention publisher
  simp only [launch, List.map_cons, voiced, Agenda.run, Agenda.step_cons,
    performVoiced, Network.perform, begin, hmention, List.cons_append]
  rw [resolve_of_definitions_eq_nil rfl]
  refine .building rfl (.probe rfl) ?_ ?_
  · rintro speaker (hbelow | ⟨_, _, hmem, -⟩)
    · cases speaker <;> cases hbelow
    · cases List.mem_singleton.1 hmem
  · rintro ⟨_, _, hmem⟩
    cases List.mem_singleton.1 hmem

/-- The first subscription of a chain at every point of a run. -/
theorem outset_run (hscript : script = .subscribe name publisher initial react :: later)
    (h : Throughout isWellSpoken (performed (fuel + 1) (launch script))) :
    Outset (crownOf 0 0 (.probe 0) publisher) (performed (fuel + 1) (launch script))
      (Agenda.run performVoiced (fuel + 1) (launch script)).state
      (Agenda.run performVoiced (fuel + 1) (launch script)).todo := by
  induction fuel with
  | zero => exact outset_launch hscript
  | succ fuel ih =>
      rw [Agenda.run_succ]
      rcases hrun : Agenda.run performVoiced (fuel + 1) (launch script) with
        ⟨network, _ | ⟨⟨voice, task⟩, rest⟩⟩
      · rw [performed_succ_idle hrun] at h ⊢
        have hbefore := ih h
        rwa [hrun] at hbefore
      · rw [performed_succ hrun] at h ⊢
        obtain ⟨hbefore, hspoken⟩ := throughout_concat.1 h
        have houtset := ih hbefore
        have hproper := proper_run hbefore
        rw [hrun] at houtset hproper
        exact houtset.perform hproper hspoken

/-- What a scripted subscriber at the lower end of a chain has heard. -/
theorem Outset.line (h : Outset crown events network todo)
    (hproper : Proper events ⟨network, todo⟩) :
    (¬ HasBegun crown events → lineOf (.probe 0) events = []) ∧
      (HasBegun crown events → lineOf (.probe 0) events ≠ [] ∨
        lineOf (.probe 0) events = [] ∧ HandsDown 0 (erase ⟨network, todo⟩)) := by
  cases h with
  | building _ hpath _ hbegun | waiting hpath _ hbegun =>
      exact ⟨fun _ => hpath.lineOf_probe, fun hnow => absurd hnow hbegun⟩
  | telling hpath hspoken hbegun =>
      exact ⟨fun hnot => absurd hbegun hnot, fun _ =>
        .inr ⟨hpath.lineOf_probe, hpath.handsDown hproper hspoken⟩⟩
  | told hline hbegun => exact ⟨fun hnot => absurd hbegun hnot, fun _ => .inl hline⟩

/-- What a scripted subscriber at the lower end of a chain has heard at every point of a run. -/
theorem line_run (hscript : script = .subscribe name publisher initial react :: later)
    (h : Throughout isWellSpoken (performed fuel (launch script))) :
    (¬ HasBegun (crownOf 0 0 (.probe 0) publisher) (performed fuel (launch script)) →
        lineOf (.probe 0) (performed fuel (launch script)) = []) ∧
      (HasBegun (crownOf 0 0 (.probe 0) publisher) (performed fuel (launch script)) →
        lineOf (.probe 0) (performed fuel (launch script)) ≠ [] ∨
          lineOf (.probe 0) (performed fuel (launch script)) = [] ∧
            HandsDown 0 (erase (Agenda.run performVoiced fuel (launch script)))) := by
  cases fuel with
  | zero => exact ⟨fun _ => rfl, fun ⟨_, _, hmem⟩ => absurd hmem List.not_mem_nil⟩
  | succ fuel => exact (outset_run hscript h).line (proper_run h)

/-- **Chains keep to the grammar.** If the publishers driven by hand signal in keeping with the
grammar, in the order in which the calls are entered, then at every point of a run every scripted
subscriber has heard a history that has not begun or is well formed. The one at the lower end of
the chain that was subscribed first has heard nothing until the first publisher of the chain
subscribes it. From then on its history is well formed, as soon as that subscription, which goes on
before anything else, has come down to it. -/
theorem chain_is_grammatical (name : String) (publisher : Publisher α (Action α)) (initial : UInt64)
    (react : Kind → Nat → List (Action α)) (later : List (Action α)) (fuel : Nat)
    (h : Throughout isWellSpoken
      (performed fuel (launch (.subscribe name publisher initial react :: later)))) :
    let script : List (Action α) := .subscribe name publisher initial react :: later
    let agenda := Agenda.run perform fuel ⟨{}, script.map .act⟩
    let begun := HasBegun (crownOf 0 0 (.probe 0) publisher) (performed fuel (launch script))
    (∀ index, Grammatical (historyOf agenda.state index)) ∧
      (¬ begun → historyOf agenda.state 0 = []) ∧
      (begun → WellFormed (historyOf agenda.state 0) ∨
        historyOf agenda.state 0 = [] ∧ HandsDown 0 agenda) := by
  intro script agenda begun
  have herase : erase (Agenda.run performVoiced fuel (launch script)) = agenda :=
    erase_run script fuel
  have hproper : Proper (performed fuel (launch script))
      (Agenda.run performVoiced fuel (launch script)) := proper_run h
  have hgrammatical : ∀ index, Grammatical (historyOf agenda.state index) := fun index => by
    rw [← herase]
    exact hproper.grammatical index
  have hhistory : historyOf agenda.state 0 =
      lineOf (.probe 0) (performed fuel (launch script)) := by
    rw [← herase]
    exact hproper.recorded 0
  have hscript : script = .subscribe name publisher initial react :: later := rfl
  obtain ⟨hbefore, hafter⟩ := line_run hscript h
  rw [herase] at hafter
  refine ⟨hgrammatical, fun hnot => hhistory.trans (hbefore hnot), fun hbegun => ?_⟩
  rcases hafter hbegun with hheard | ⟨hnothing, hdown⟩
  · exact .inl ((hgrammatical 0).resolve_left fun heq => hheard (hhistory.symm.trans heq))
  · exact .inr ⟨hhistory.trans hnothing, hdown⟩

/-- The feed of a window fails, and its fallback terminates the window in its place. -/
theorem chain_is_grammatical_with_fallback :
    let publisher : Publisher Nat (Action Nat) :=
      .takeLast 1 true (.resume none (fun _ => .to (.items (.list [7]))) (.deferred "up"))
    let script : List (Action Nat) :=
      [.subscribe "out" publisher 2 fun _ _ => [], .accept "up" "link" fun _ _ => [],
        .next "up" 1, .error "up" (.stream "down")]
    let agenda := Agenda.run perform 60 ⟨{}, script.map .act⟩
    let begun := HasBegun (crownOf 0 0 (.probe 0) publisher) (performed 60 (launch script))
    (Throughout isWellSpoken (performed 60 (launch script)) ∧
      historyOf agenda.state 0 = [.subscribe, .next 7, .complete]) ∧
    (∀ index, Grammatical (historyOf agenda.state index)) ∧
      (¬ begun → historyOf agenda.state 0 = []) ∧
      (begun → WellFormed (historyOf agenda.state 0) ∨
        historyOf agenda.state 0 = [] ∧ HandsDown 0 agenda) := by
  intro publisher script agenda begun
  have hspoken : Throughout isWellSpoken (performed 60 (launch script)) := by
    decide +kernel
  have hhistory : historyOf agenda.state 0 = [.subscribe, .next 7, .complete] := by
    show historyOf (Agenda.run perform 60 ⟨{}, script.map .act⟩).state 0 = _
    cbv
  exact ⟨⟨hspoken, hhistory⟩, chain_is_grammatical "out" publisher 2 _ _ 60 hspoken⟩

end Backpressure.Network
