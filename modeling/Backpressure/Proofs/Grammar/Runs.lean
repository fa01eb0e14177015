import Backpressure.Proofs.Grammar.Steps
import Backpressure.Proofs.Resumption.Projection

/-!
# Runs in which everyone keeps to the grammar

If the publishers driven by hand keep to the grammar, so do all units, and what a receiver has heard
since it was last subscribed follows the grammar at every moment of a run. A scripted subscriber is
subscribed once, so that this is all it has ever heard.

Main results:

- Theorem `Heard.deliver` covers signals, theorem `Orderly.subscribe` subscriptions, and theorem
  `Orderly.act` actions.
- Theorem `Proper.perform` covers every task, and theorem `proper_run` every run.
-/

namespace Backpressure.Network

open History

variable {α : Type} {network next : Network α} {events todo rest : List (Voiced α)}
  {event : Voiced α} {voice : Option Speaker} {speaker other : Speaker} {receiver : Receiver}

/-! ## Signals -/

/-- A receiver has heard a signal that the grammar allows. The unit that is to hear it, if there is
one, has not answered yet. -/
structure Heard (events : List (Voiced α)) (network : Network α) (todo : List (Voiced α))
    (speaker : Speaker) (receiver : Receiver) (delivery : Delivery α Link) : Prop where
  settled : InTurn (events ++ [(some speaker, .signal receiver delivery)]) network todo
  knows : network.Knows receiver
  line : ∃ before now, parse (lineOf receiver events) = some before ∧
    before.next? delivery.signal.kind = some now
  others : ∀ other, receiver.unit? ≠ some other →
    Sound (events ++ [(some speaker, .signal receiver delivery)]) network todo other
  listener : ∀ other, receiver.unit? = some other →
    other ≠ speaker ∧ Sound events network todo other

/-- A signal is no unit's work. -/
theorem isWorkOf_signal {delivery : Delivery α Link} (speaker : Speaker) :
    (Task.signal receiver delivery).isWorkOf speaker = false := by
  cases speaker <;> rfl

/-- A publisher without items goes on with what it has said. -/
theorem Fits.next? {delivery : Delivery α Link}
    (h : Fits events ((some .constant, .signal receiver delivery) :: todo)) :
    ∃ said now, parse (saidBy .constant receiver events) = some said ∧
      said.next? delivery.signal.kind = some now := by
  have hfits := h receiver
  have hfirst : constantsTo receiver ((some .constant, .signal receiver delivery) :: todo) =
      delivery.signal :: constantsTo receiver todo := by
    simp [constantsTo]
  rw [hfirst] at hfits
  exact exists_of_parseFrom_cons hfits

/-- A signal that comes next is one that the grammar allows. -/
theorem Orderly.heard {delivery : Delivery α Link}
    (h : Orderly events network ((voice, .signal receiver delivery) :: todo))
    (hfits : Fits events ((voice, .signal receiver delivery) :: todo))
    (hspoken : isWellSpoken events (voice, .signal receiver delivery)) :
    ∃ speaker, voice = some speaker ∧ Heard events network todo speaker receiver delivery := by
  cases h with
  | @speaking speaker _ _ _ heard said now hsettled hothers hbelow hheard hsaid hnow hstands =>
      have hserves : Serves events network speaker receiver := .inl hbelow
      have hself : receiver.unit? ≠ some speaker := hsettled.downward speaker receiver hbelow
      refine ⟨speaker, rfl, hsettled.deliver hserves hsaid hnow, hsettled.known _ _ hserves,
        ⟨said, now, (hsettled.parse_line hserves hsaid hnow).1, hnow⟩, fun other hother => ?_,
        fun other hother => ?_⟩
      · by_cases hsame : other = speaker
        · subst hsame
          intro target htarget
          rw [hbelow] at htarget
          cases htarget
          refine ⟨heard, now, fun ear hear => ?_, ?_, hstands⟩
          · rw [lineOf_signal_of_ne]
            · exact hheard ear hear
            · rintro rfl
              exact hself hear
          · rw [saidBy_signal_self, parse_concat, hsaid]
            exact hnow
        · exact (hothers other hsame).deliver hsame hother
      · have hne : other ≠ speaker := by
          rintro rfl
          exact hself hother
        exact ⟨hne, hothers other hne⟩
  | settled hsettled hunits =>
      obtain ⟨speaker, rfl, hunit, hserves⟩ :=
        hsettled.voices voice receiver delivery List.mem_cons_self
      have hrest := hsettled.tail
      obtain ⟨said, now, hsaid, hnow⟩ : ∃ said now,
          parse (saidBy speaker receiver events) = some said ∧
            said.next? delivery.signal.kind = some now := by
        cases speaker with
        | source | window | resumption => exact absurd hunit.symm Bool.false_ne_true
        | constant => exact hfits.next?
        | hand name =>
            obtain ⟨last, hlast⟩ := Option.isSome_iff_exists.1 (grammatical_iff.1 hspoken)
            obtain ⟨said, hsaid, hnow⟩ := parse_of_concat hlast
            exact ⟨said, last, hsaid, hnow⟩
      refine ⟨speaker, rfl, hrest.deliver hserves hsaid hnow, hsettled.known _ _ hserves,
        ⟨said, now, (hrest.parse_line hserves hsaid hnow).1, hnow⟩, fun other hother => ?_,
        fun other hother => ?_⟩
      · by_cases hsame : other = speaker
        · subst hsame
          exact sound_of_not_isUnit hunit
        · exact ((hunits other).tail (isWorkOf_signal other)).deliver hsame hother
      · refine ⟨?_, (hunits other).tail (isWorkOf_signal other)⟩
        rintro rfl
        cases receiver <;> cases hother <;> exact Bool.false_ne_true hunit.symm

/-- The unit that is to hear a signal is asked to. -/
theorem Heard.asked {delivery : Delivery α Link}
    (h : Heard events network todo speaker receiver delivery)
    (hunit : receiver.unit? = some other) :
    ∃ below before now said, before.next? delivery.signal.kind = some now ∧
      Asked (events ++ [(some speaker, .signal receiver delivery)]) network todo other below now
        said ∧
      network.UnitStands before (workOf other todo) said other := by
  obtain ⟨below, hbelow⟩ := exists_below?_of_knows h.knows hunit
  obtain ⟨hother, hsound⟩ := h.listener other hunit
  obtain ⟨heard, said, hheard, hsaid, hstands⟩ := hsound below hbelow
  obtain ⟨before, now, hbefore, hnow⟩ := h.line
  obtain rfl : heard = before := Option.some.inj ((hheard receiver hunit).symm.trans hbefore)
  refine ⟨below, heard, now, said, hnow, ⟨h.settled, fun third hthird => ?_, hbelow,
    fun ear hear => ?_, ?_⟩, hstands⟩
  · exact h.others third fun heq => hthird (Option.some.inj (heq.symm.trans hunit))
  · obtain rfl := unit?_unique hear hunit
    rw [lineOf_signal_self, parse_concat, hbefore]
    exact hnow
  · rw [saidBy_signal_of_ne fun heq => hother (Option.some.inj heq.1).symm]
    exact hsaid

/-- A signal is delivered to someone who is no unit. -/
theorem Heard.calmly {delivery : Delivery α Link} {outcome : Network α × List (Task α)}
    (h : Heard events network todo speaker receiver delivery) (hunit : receiver.unit? = none)
    (houtcome : Quietly network outcome) :
    Orderly (events ++ [(some speaker, .signal receiver delivery)]) outcome.1
      (voiced voice outcome.2 ++ todo) := by
  have hothers := fun other => h.others other fun heq =>
    Option.some_ne_none other (heq.symm.trans hunit)
  obtain ⟨hafter, hstill⟩ := h.settled.calmly hothers houtcome
  exact .settled hafter hstill

/-- A signal is delivered. -/
theorem Heard.deliver {delivery : Delivery α Link}
    (h : Heard events network todo speaker receiver delivery) :
    Orderly (events ++ [(some speaker, .signal receiver delivery)])
      (network.deliver delivery receiver).1
      (voiced (speakerOf network (.signal receiver delivery))
        (network.deliver delivery receiver).2 ++ todo) := by
  cases receiver with
  | probe index => exact h.calmly rfl (quietly_hearProbe network index delivery)
  | bridge index => exact h.calmly rfl (quietly_hearBridge network index delivery)
  | window index =>
      obtain ⟨below, before, now, said, hnow, hasked, hstands⟩ := h.asked rfl
      exact hasked.onWindow (fun window hwindow => hwindow.hear _ hnow) hstands
  | resumption index =>
      obtain ⟨below, before, now, said, hnow, hasked, hstands⟩ := h.asked rfl
      exact hasked.onResumption (fun resumption hresumption => hresumption.hear _ hnow) hstands

/-! ## Subscriptions -/

/-- A receiver has begun anew, and everyone who could still signal to it has told the end, except
the one who speaks for its new publisher. -/
structure Begun (events : List (Voiced α)) (network : Network α) (todo : List (Voiced α))
    (publisher : Publisher α (Action α)) (receiver : Receiver) : Prop where
  settled : InTurn events network todo
  units : ∀ speaker, Sound events network todo speaker
  knows : network.Knows receiver
  line : lineOf receiver events = []
  free : ∀ speaker, speaker.speaksFor publisher = false →
    Serves events network speaker receiver →
    parse (saidBy speaker receiver events) = some .closed
  serves : ∀ speaker, speaker.speaksFor publisher = true → Serves events network speaker receiver

/-- A receiver that is subscribed begins anew. -/
theorem Orderly.begin {publisher : Publisher α (Action α)}
    (h : Orderly events network ((voice, .subscribe publisher receiver) :: todo)) :
    Begun (events ++ [(voice, .subscribe publisher receiver)]) network todo publisher receiver := by
  cases h with
  | settled h => exact absurd List.mem_cons_self (h.calm voice publisher receiver)
  | subscribing hsettled hothers hknows hfree hfirst hunit =>
      refine ⟨hsettled.subscribe hknows hfree, fun speaker => ?_, hknows,
        lineOf_subscribe_self _ _ _ _, fun speaker hspeaks hserves => ?_, fun speaker hspeaks =>
          serves_subscribe.2 (.inr ⟨rfl, hspeaks⟩)⟩
      · by_cases hself : receiver.unit? = some speaker
        · intro below hbelow
          obtain ⟨said, hsaid, hstands⟩ := hunit speaker below hself hbelow
          refine ⟨.silent, said, fun ear hear => ?_, ?_, hstands⟩
          · obtain rfl := unit?_unique hear hself
            rw [lineOf_subscribe_self]
            rfl
          · rw [saidBy_subscribe_of_ne]
            · exact hsaid
            · rw [speaksFor_of_isUnit (isUnit_of_below? hbelow)]
              simp
        · exact (hothers speaker hself).subscribe hself
      · rw [saidBy_subscribe_of_ne (by rw [hspeaks]; simp)]
        rw [serves_subscribe, hspeaks] at hserves
        exact hfree speaker (hserves.resolve_right (by simp))

/-- Someone who is no unit is about to signal to a receiver that he serves. -/
theorem InTurn.speak {tasks : List (Task α)} (h : InTurn events network todo)
    (hunits : ∀ speaker, Sound events network todo speaker) (hunit : speaker.isUnit = false)
    (hserves : Serves events network speaker receiver)
    (htasks : ∀ task ∈ tasks, task.isPlain = true ∨ ∃ delivery, task = .signal receiver delivery) :
    Orderly events network (voiced (some speaker) tasks ++ todo) := by
  have hwork : ∀ other, workOf other (voiced (some speaker) tasks) = 0 := by
    refine fun other => workOf_eq_zero fun task htask => ?_
    rcases htasks task htask with hplain | ⟨delivery, rfl⟩
    · exact Task.isWorkOf_of_isPlain hplain other
    · exact isWorkOf_signal other
  refine .settled (h.add (fun found target delivery hmem => ?_)
    (fun found publisher target hmem => ?_) fun other _ => hwork other) fun other =>
      (hunits other).add (hwork other)
  · obtain ⟨rfl, htask⟩ := mem_of_mem_voiced hmem
    rcases htasks _ htask with hplain | ⟨_, heq⟩
    · exact absurd hplain Bool.false_ne_true
    · obtain ⟨rfl, -⟩ := Task.signal.inj heq
      exact ⟨speaker, rfl, hunit, hserves⟩
  · rcases htasks _ (mem_of_mem_voiced hmem).2 with hplain | ⟨_, heq⟩
    · exact absurd hplain Bool.false_ne_true
    · cases heq

/-- A unit is put above a receiver that has begun anew. -/
theorem Begun.attach {publisher : Publisher α (Action α)}
    (h : Begun events network todo publisher receiver)
    (hpublisher : ∀ speaker : Speaker, speaker.speaksFor publisher = false)
    (hjoins : Joins speaker receiver network next) :
    InTurn events next todo ∧ (∀ other, other ≠ speaker → Sound events next todo other) ∧
      workOf speaker todo = 0 ∧ parse (saidBy speaker receiver events) = some .silent := by
  obtain ⟨hwork, hsaid⟩ := h.settled.fresh speaker hjoins.isUnit hjoins.isNew
  refine ⟨h.settled.attach hjoins h.knows h.line fun other hserves =>
    h.free other (hpublisher other) hserves, fun other hother =>
      (h.units other).attach hjoins hother, hwork, ?_⟩
  rw [hsaid]
  rfl

/-- A unit that is put above a receiver is subscribed itself. -/
theorem Begun.operator {publisher up : Publisher α (Action α)} {ear : Receiver}
    (h : Begun events network todo publisher receiver)
    (hpublisher : ∀ speaker : Speaker, speaker.speaksFor publisher = false)
    (hjoins : Joins speaker receiver network next) (hear : ear.unit? = some speaker)
    (hstands : next.UnitStands .silent 0 .silent speaker) :
    Orderly events next ((voice, .subscribe up ear) :: todo) := by
  obtain ⟨hsettled, hothers, hwork, hsaid⟩ := h.attach hpublisher hjoins
  have hnew := hjoins.ear ear hear
  refine .subscribing hsettled (fun other hother => ?_) hnew.2 (fun other hserves => ?_)
    (fun index heq => ?_) fun other below hunit hbelow => ?_
  · refine hothers other ?_
    rintro rfl
    exact hother hear
  · -- No one has signalled to a unit that was not there.
    rcases hjoins.serves.1 hserves with hbefore | ⟨-, rfl⟩
    · exact absurd (h.settled.known other ear hbefore) hnew.1
    · exact absurd h.knows hnew.1
  · subst heq
    exact absurd hear (Option.some_ne_none speaker).symm
  · obtain rfl : speaker = other := Option.some.inj (hear.symm.trans hunit)
    rw [hjoins.below, if_pos rfl] at hbelow
    cases hbelow
    exact ⟨.silent, hsaid, by rw [hwork]; exact hstands⟩

/-- A source that is put above a receiver subscribes it at once. -/
theorem Begun.source {supply : Supply α}
    (h : Begun events network todo (.items supply) receiver) (hitems : supply.isEmpty = false) :
    Orderly events
      { network with sources := network.sources ++ [network.stage receiver { items := supply }] }
      ((some (.source network.sources.length),
        .signal receiver (.subscribe (.source network.sources.length))) :: todo) := by
  have hpublisher : ∀ speaker : Speaker,
      speaker.speaksFor (.items supply : Publisher α (Action α)) = false := by
    intro speaker
    cases speaker with
    | constant => exact hitems
    | _ => rfl
  have hjoins := joins_source network receiver
    (network.stage receiver ({ items := supply } : Source α)) rfl
  obtain ⟨hsettled, hothers, -, hsaid⟩ := h.attach hpublisher hjoins
  have hheard : ∀ ear : Receiver, ear.unit? = some (.source network.sources.length) →
      parse (lineOf ear events) = some .silent := by
    intro ear hear
    cases ear <;> cases hear
  refine .speaking hsettled hothers ((hjoins.below _).trans (if_pos rfl)) hheard hsaid rfl ?_
  intro stage hstage
  rw [List.getElem?_concat_length] at hstage
  cases hstage
  exact .opened

/-- A publisher driven by hand is given a subscriber. -/
theorem Begun.hand {publisher : Publisher α (Action α)} {name : String} {tasks : List (Task α)}
    (h : Begun events network todo publisher receiver)
    (hname : (Speaker.hand name).speaksFor publisher = true)
    (hnext : Steady none network next ∧ ∀ other target, next.Remembers other target →
      network.Remembers other target ∨ other = name ∧ target = receiver)
    (htasks : ∀ task ∈ tasks, task.isPlain = true ∨ ∃ delivery, task = .signal receiver delivery) :
    Orderly events next (voiced (some (.hand name)) tasks ++ todo) := by
  have hserves := h.serves (.hand name) hname
  have hsettled : InTurn events next todo := by
    refine h.settled.steady hnext.1 fun other target hremembers => ?_
    rcases hnext.2 other target hremembers with hbefore | ⟨rfl, rfl⟩
    · exact h.settled.hands other target hbefore
    · exact hserves
  have hstill : ∀ speaker, Sound events next todo speaker := fun speaker =>
    (h.units speaker).steady hnext.1 (Option.some_ne_none speaker)
  exact hsettled.speak hstill rfl (hnext.1.serves.2 hserves) htasks

/-- A receiver is subscribed. -/
theorem Orderly.subscribe {publisher : Publisher α (Action α)}
    (h : Orderly events network ((voice, .subscribe publisher receiver) :: todo)) :
    Orderly (events ++ [(voice, .subscribe publisher receiver)])
      (network.subscribe receiver publisher).1
      (voiced (speakerOf network (.subscribe publisher receiver))
        (network.subscribe receiver publisher).2 ++ todo) := by
  have hbegun := h.begin
  cases publisher with
  | named name => exact .settled hbegun.settled hbegun.units
  | fail failure =>
      simp only [Network.subscribe, speakerOf]
      exact hbegun.settled.speak hbegun.units rfl (hbegun.serves .constant rfl) (by simp)
  | items supply =>
      simp only [Network.subscribe, speakerOf]
      split
      next hempty =>
        exact hbegun.settled.speak hbegun.units rfl (hbegun.serves .constant hempty) (by simp)
      next hitems => exact hbegun.source (Bool.eq_false_iff.2 hitems)
  | hand name =>
      simp only [Network.subscribe, speakerOf]
      split
      next index hindex =>
        obtain ⟨hlt, hname, -⟩ := List.findIdx?_eq_some_iff_getElem.1 hindex
        exact hbegun.hand (decide_eq_true rfl) (subscribeHand_spec (List.getElem?_eq_getElem hlt)
          (of_decide_eq_true hname) receiver) (by simp)
      next => exact .settled hbegun.settled hbegun.units
  | deferred name =>
      have hdeferred := hbegun.hand (decide_eq_true rfl)
        (subscribeDeferred_spec network name receiver) (List.forall_mem_nil _)
      exact hdeferred
  | takeLast count delaysFailure up =>
      refine hbegun.operator (fun speaker => by cases speaker <;> rfl)
        (joins_window network receiver _ rfl) rfl fun stage hstage => ?_
      simp only [Network.subscribe, List.getElem?_concat_length, Option.some.injEq] at hstage
      subst hstage
      exact Window.stands_ofSize count delaysFailure
  | resume tag recover up =>
      refine hbegun.operator (fun speaker => by cases speaker <;> rfl)
        (joins_resumption network receiver _ rfl) rfl fun stage hstage => ?_
      simp only [Network.subscribe, List.getElem?_concat_length, Option.some.injEq] at hstage
      subst hstage
      exact .first rfl

/-! ## Actions -/

/-- A publisher driven by hand signals to its subscriber, which it serves. -/
theorem InTurn.signalByHand (h : InTurn events network todo)
    (hunits : ∀ speaker, Sound events network todo speaker) (action : Action α) (name : String)
    (deliveries : List (Delivery α Link)) :
    Orderly events (network.signalByHand action name deliveries).1
      (voiced (some (.hand name)) (network.signalByHand action name deliveries).2 ++ todo) := by
  unfold Network.signalByHand
  split
  next receiver hsubscriber =>
    have hserves := h.hands name receiver (remembers_of_subscriberOf hsubscriber)
    have hheld : Steady none network { network with hearing := receiver :: network.hearing } :=
      .of_units rfl rfl rfl (Nat.le_refl _) (Nat.le_refl _)
    refine (h.steady hheld h.hands).speak
      (fun speaker => (hunits speaker).steady hheld (Option.some_ne_none speaker)) rfl
      (hheld.serves.2 hserves) fun task htask => ?_
    rcases List.mem_append.1 htask with hsignal | hlast
    · obtain ⟨delivery, -, rfl⟩ := List.mem_map.1 hsignal
      exact .inr ⟨delivery, rfl⟩
    · rcases List.mem_cons.1 hlast with rfl | hret
      · exact .inl rfl
      · rw [List.mem_singleton.1 hret]
        exact .inl rfl
  next =>
    obtain ⟨hafter, hstill⟩ := h.calmly hunits (quietly_refl network
      (by simp [Task.isPlain] : ∀ task ∈ [Task.ret action (.misused .noSubscriber)],
        task.isPlain = true))
    exact .settled hafter hstill

/-- A publisher driven by hand is told to signal. -/
theorem Orderly.signalByHand (h : Orderly events network (event :: todo))
    (hplain : event.2.isPlain = true) (hnext : Quietly network (next, [])) (action : Action α)
    (name : String) (deliveries : List (Delivery α Link)) :
    Orderly (events ++ [event]) (next.signalByHand action name deliveries).1
      (voiced (some (.hand name)) (next.signalByHand action name deliveries).2 ++ todo) := by
  obtain ⟨hsettled, hunits⟩ := h.of_isPlain hplain
  refine InTurn.signalByHand ?_ (fun speaker => (hunits speaker).steady hnext.steady
    (Option.some_ne_none speaker)) action name deliveries
  exact hsettled.steady hnext.steady fun other target hremembers =>
    hsettled.hands other target (hnext.remembers other target hremembers)

/-- A participant is made and subscribed. -/
theorem Orderly.admit {publisher : Publisher α (Action α)} {tasks : List (Task α)}
    (h : Orderly events network (event :: todo)) (hplain : event.2.isPlain = true)
    (hnext : Quietly network (next, tasks)) (hunit : receiver.unit? = none)
    (hnew : ¬ network.Knows receiver) (hknows : next.Knows receiver) :
    Orderly (events ++ [event]) next
      ((voice, .subscribe publisher receiver) :: (voiced voice tasks ++ todo)) := by
  obtain ⟨hsettled, hunits⟩ := h.of_isPlain hplain
  obtain ⟨hafter, hstill⟩ := hsettled.calmly hunits hnext
  refine .subscribing hafter (fun other _ => hstill other) hknows (fun speaker hserves => ?_)
    (fun _ _ => hsettled.unheard receiver hnew) fun speaker _ heq => ?_
  · exact absurd (hsettled.known speaker receiver (hnext.steady.serves.1 hserves)) hnew
  · exact absurd (hunit.symm.trans heq) (Option.some_ne_none speaker).symm

/-- A list is shorter than it is with one more element. -/
private theorem length_lt_concat {β : Type} (xs : List β) (x : β) :
    xs.length < (xs ++ [x]).length := by
  rw [List.length_append]
  exact Nat.lt_succ_self _

/-- An action begins. -/
theorem Orderly.act {action : Action α}
    (h : Orderly events network ((voice, .act action) :: todo)) :
    Orderly (events ++ [(voice, .act action)]) (perform (.act action) network).1
      (voiced (speakerOf network (.act action)) (perform (.act action) network).2 ++ todo) := by
  have hlog := quietly_log network (.called action)
  have hquiet : action.isLoud = false → Quietly network (perform (.act action) network) :=
    fun hquiet => hlog.trans (quietly_begin _ hquiet)
  cases action with
  | define | order | poll | collect | drop => exact h.calmly rfl (hquiet rfl)
  | next | nextAll | complete | error => exact h.signalByHand rfl hlog _ _ _
  | accept name link react =>
      have htap : ∀ logged : Network α, Quietly logged ((logged.tapOf link react).1, []) :=
        fun logged => (sameUnits_tapOf logged link react).quietly
          (congrArg List.length (outlets_tapOf logged link react)) (by simp)
      exact h.signalByHand rfl (hlog.trans (htap _)) _ _ _
  | subscribe name publisher initial react =>
      have hmention := hlog.trans (quietly_mention _ publisher)
      have hmade : ∀ mentioned : Network α, Quietly mentioned
          ({ mentioned with probes := mentioned.probes ++ [{ name, initial, react }] },
            [.ret (.subscribe name publisher initial react) .done]) := fun mentioned =>
        ⟨.of_units rfl rfl rfl (List.prefix_append _ _).length_le (Nat.le_refl _), fun _ _ => id,
          by simp [Task.isPlain]⟩
      refine h.admit rfl (hmention.trans (hmade _)) rfl (fun hknows => ?_) ?_
      · exact Nat.lt_irrefl _ (hmention.steady.knows (.probe _) hknows)
      · exact length_lt_concat _ _
  | stream name publisher prefetch =>
      have hmention := hlog.trans (quietly_mention _ publisher)
      have hmade : ∀ mentioned : Network α, Quietly mentioned
          ({ mentioned with
              outlets := mentioned.outlets ++ [{ name, unit := .ofPrefetch prefetch }] },
            [.announce name mentioned.outlets.length,
              .ret (.stream name publisher prefetch) .done]) := fun mentioned =>
        ⟨.of_units rfl rfl rfl (Nat.le_refl _) (List.prefix_append _ _).length_le, fun _ _ => id,
          by simp [Task.isPlain]⟩
      refine h.admit rfl (hmention.trans (hmade _)) rfl (fun hknows => ?_) ?_
      · exact Nat.lt_irrefl _ (hmention.steady.knows (.bridge _) hknows)
      · exact length_lt_concat _ _

/-! ## All tasks -/

/-- A task is performed. -/
theorem Orderly.perform {task : Task α} (h : Orderly events network ((voice, task) :: todo))
    (hfits : Fits events ((voice, task) :: todo)) (hspoken : isWellSpoken events (voice, task)) :
    Orderly (events ++ [(voice, task)]) (perform task network).1
      (voiced (speakerOf network task) (perform task network).2 ++ todo) := by
  cases task with
  | act action => exact h.act
  | ret action result => exact h.calmly rfl (quietly_log network _)
  | signal receiver delivery =>
      obtain ⟨speaker, rfl, hheard⟩ := h.heard hfits hspoken
      exact hheard.deliver
  | order link order =>
      cases link with
      | inert => exact h.calmly rfl (quietly_call network order .inert rfl)
      | hand index => exact h.calmly rfl (quietly_call network order (.hand index) rfl)
      | tap index => exact h.calmly rfl (quietly_call network order (.tap index) rfl)
      | source index => exact h.onSource rfl fun source said hstands => hstands.take order
      | window index => exact h.callWindow
      | switch index =>
          exact h.onResumption rfl fun resumption heard said duties hstands =>
            ⟨said, hstands.call _, .nothing (Resumption.isSignal_call _ resumption)⟩
  | subscribe publisher receiver => exact h.subscribe
  | source index work => exact h.onSource rfl fun source said hstands => hstands.go work
  | window index pass => exact h.goWindow
  | resumption index work =>
      cases work with
      | bind link =>
          exact h.onResumption rfl fun resumption heard said duties hstands =>
            ⟨said, hstands.call _, .nothing (Resumption.isSignal_call _ resumption)⟩
      | count =>
          exact h.onResumption rfl fun resumption heard said duties hstands =>
            ⟨said, hstands.count, speaks_nil said⟩
      | recover failure => exact h.askRecovery
  | recover index failure recovery => exact h.follow
  | leave receiver => exact h.calmly rfl (quietly_leave network receiver)
  | announce name index => exact h.calmly rfl (quietly_announce network name index)
  | collect action index left answers =>
      exact h.calmly rfl (quietly_collect network action index left answers)

/-! ## Publishers without items -/

/-- What is left to be said by tasks one after the other. -/
theorem constantsTo_append (receiver : Receiver) (first second : List (Voiced α)) :
    constantsTo receiver (first ++ second) =
      constantsTo receiver first ++ constantsTo receiver second :=
  List.filterMap_append

/-- The calls of others are not those of a publisher without items. -/
theorem constantsTo_voiced (h : voice ≠ some .constant) (receiver : Receiver)
    (tasks : List (Task α)) : constantsTo receiver (voiced voice tasks) = [] := by
  refine List.filterMap_eq_nil_iff.2 fun event hevent => ?_
  obtain ⟨rfl, -⟩ := mem_of_mem_voiced hevent
  obtain ⟨_ | speaker, task⟩ := event
  · rfl
  · cases speaker with
    | constant => exact absurd rfl h
    | _ => rfl

/-- Only a subscription is a call of a publisher without items. -/
theorem speakerOf_ne_constant {task : Task α}
    (h : ∀ publisher receiver, task = .subscribe publisher receiver →
      Speaker.constant.speaksFor publisher = false) (network : Network α) :
    speakerOf network task ≠ some .constant := by
  cases task with
  | act action => cases action <;> simp [speakerOf]
  | signal receiver => cases receiver <;> simp [speakerOf]
  | order link => cases link <;> simp [speakerOf]
  | subscribe publisher receiver =>
      have hpublisher := h publisher receiver rfl
      cases publisher with
      | items supply =>
          have hitems : supply.isEmpty = false := hpublisher
          simp [speakerOf, hitems]
      | fail => exact absurd hpublisher.symm Bool.false_ne_true
      | _ => simp [speakerOf]
  | _ => simp [speakerOf]

/-- A task that is no signal leaves what publishers without items have to say as it is. -/
theorem constantsTo_cons_of_ne {task : Task α}
    (h : ∀ receiver delivery, task ≠ .signal receiver delivery) (voice : Option Speaker)
    (receiver : Receiver) (todo : List (Voiced α)) :
    constantsTo receiver ((voice, task) :: todo) = constantsTo receiver todo := by
  refine List.filterMap_cons_none ?_
  cases voice with
  | none => rfl
  | some speaker =>
      cases speaker with
      | constant =>
          cases task with
          | signal other delivery => exact absurd rfl (h other delivery)
          | _ => rfl
      | _ => rfl

/-- What a publisher without items has left to say are signals to one that it serves. -/
theorem InTurn.serves_of_constantsTo (h : InTurn events network todo)
    (hleft : constantsTo receiver todo ≠ []) : Serves events network .constant receiver := by
  obtain ⟨signal, hmem⟩ := List.exists_mem_of_ne_nil _ hleft
  obtain ⟨⟨voice, task⟩, hevent, hsignal⟩ := List.mem_filterMap.1 hmem
  split at hsignal
  next other delivery heq =>
    rw [Prod.mk.injEq] at heq
    obtain ⟨rfl, rfl⟩ := heq
    split at hsignal
    next hother =>
      subst hother
      obtain ⟨speaker, hspeaker, -, hserves⟩ := h.voices _ _ _ hevent
      obtain rfl := Option.some.inj hspeaker
      exact hserves
    next => exact absurd hsignal (Option.some_ne_none signal).symm
  next => exact absurd hsignal (Option.some_ne_none signal).symm

/-- A publisher without items has nothing more to say to those who were told the end. -/
theorem Fits.constantsTo_eq_nil {publisher : Publisher α (Action α)}
    (h : Fits events ((voice, .subscribe publisher receiver) :: todo))
    (horder : Orderly events network ((voice, .subscribe publisher receiver) :: todo)) :
    constantsTo receiver todo = [] := by
  have hfits := h receiver
  rw [constantsTo_cons_of_ne (fun _ _ heq => by cases heq)] at hfits
  cases horder with
  | settled hsettled => exact absurd List.mem_cons_self (hsettled.calm voice publisher receiver)
  | subscribing hsettled _ _ hfree =>
      by_contra hleft
      obtain ⟨signal, rest, hcons⟩ := List.exists_cons_of_ne_nil hleft
      rw [hfree .constant (hsettled.serves_of_constantsTo hleft), hcons] at hfits
      obtain ⟨said, now, hsaid, hnow⟩ := exists_of_parseFrom_cons hfits
      cases hsaid
      exact Parse.next?_closed_ne hnow

/-- What a publisher without items says follows the grammar. -/
theorem parse_constantsTo_subscribe {publisher : Publisher α (Action α)}
    (h : Speaker.constant.speaksFor publisher = true) (network : Network α) (receiver : Receiver) :
    (parse (constantsTo receiver (voiced (speakerOf network (.subscribe publisher receiver))
      (network.subscribe receiver publisher).2))).isSome = true := by
  cases publisher with
  | items supply =>
      have hitems : supply.isEmpty = true := h
      simp [speakerOf, Network.subscribe, hitems, voiced, constantsTo, parse, parseFrom,
        Delivery.signal, Signal.kind, Parse.next?]
  | fail failure =>
      simp [speakerOf, Network.subscribe, voiced, constantsTo, parse, parseFrom,
        Delivery.signal, Signal.kind, Parse.next?]
  | _ => exact absurd h Bool.false_ne_true

/-- A publisher without items signals to its subscriber only. -/
theorem constantsTo_subscribe_of_ne {publisher : Publisher α (Action α)} {target : Receiver}
    (h : receiver ≠ target) (network : Network α) :
    constantsTo target (voiced (speakerOf network (.subscribe publisher receiver))
      (network.subscribe receiver publisher).2) = [] := by
  cases publisher with
  | items supply =>
      simp only [Network.subscribe]
      split
      · simp [speakerOf, voiced, constantsTo, *]
      next hitems => simp [speakerOf, voiced, constantsTo, hitems]
  | hand name => exact constantsTo_voiced (by simp [speakerOf]) _ _
  | _ => simp [speakerOf, Network.subscribe, voiced, constantsTo, h]

/-- Publishers without items go on with what they have said. -/
theorem Fits.perform {task : Task α} (h : Fits events ((voice, task) :: todo))
    (horder : Orderly events network ((voice, task) :: todo)) :
    Fits (events ++ [(voice, task)])
      (voiced (speakerOf network task) (perform task network).2 ++ todo) := by
  intro target
  rw [constantsTo_append]
  have htarget := h target
  cases task with
  | signal receiver delivery =>
      rw [constantsTo_voiced (speakerOf_ne_constant (fun _ _ heq => by cases heq) network),
        List.nil_append]
      by_cases hsaid : voice = some .constant ∧ receiver = target
      · obtain ⟨rfl, rfl⟩ := hsaid
        rw [saidBy_signal_self, parse_concat]
        have hfirst : constantsTo receiver ((some .constant, .signal receiver delivery) :: todo) =
            delivery.signal :: constantsTo receiver todo := List.filterMap_cons_some (if_pos rfl)
        rw [hfirst] at htarget
        exact htarget
      · rw [saidBy_signal_of_ne hsaid]
        have hnone : constantsTo target ((voice, .signal receiver delivery) :: todo) =
            constantsTo target todo := by
          refine List.filterMap_cons_none ?_
          cases voice with
          | none => rfl
          | some speaker =>
              cases speaker with
              | constant => exact if_neg fun heq => hsaid ⟨rfl, heq⟩
              | _ => rfl
        rw [hnone] at htarget
        exact htarget
  | subscribe publisher receiver =>
      rw [constantsTo_cons_of_ne (fun _ _ heq => by cases heq)] at htarget
      by_cases hreceiver : receiver = target
      · subst hreceiver
        cases hspeaks : Speaker.constant.speaksFor publisher with
        | true =>
            rw [saidBy_subscribe_self hspeaks, h.constantsTo_eq_nil horder, List.append_nil]
            exact parse_constantsTo_subscribe hspeaks network receiver
        | false =>
            rw [saidBy_subscribe_of_ne (by simp [hspeaks]), constantsTo_voiced, List.nil_append]
            · exact htarget
            · refine speakerOf_ne_constant (fun _ _ heq => ?_) network
              cases heq
              exact hspeaks
      · rw [saidBy_subscribe_of_ne (fun heq => hreceiver heq.2)]
        have hnone : constantsTo target (voiced (speakerOf network (.subscribe publisher receiver))
            (Network.perform (.subscribe publisher receiver) network).2) = [] :=
          constantsTo_subscribe_of_ne hreceiver network
        rw [hnone, List.nil_append]
        exact htarget
  | _ =>
      rw [constantsTo_voiced (speakerOf_ne_constant (fun _ _ heq => by cases heq) network),
        List.nil_append, saidBy_quiet _ _ rfl]
      rw [constantsTo_cons_of_ne (fun _ _ heq => by cases heq)] at htarget
      exact htarget

/-! ## What scripted subscribers have heard -/

/-- What a scripted subscriber has heard is what it has heard since it was last subscribed. -/
def Recorded (events : List (Voiced α)) (network : Network α) : Prop :=
  ∀ index, historyOf network index = lineOf (.probe index) events

/-- A task is performed: a scripted subscriber hears what is signalled to it, and is subscribed only
once. -/
theorem Recorded.perform {task : Task α} (h : Recorded events network)
    (horder : Orderly events network ((voice, task) :: todo))
    (hfits : Fits events ((voice, task) :: todo)) (hspoken : isWellSpoken events (voice, task)) :
    Recorded (events ++ [(voice, task)]) (perform task network).1 := by
  intro index
  have hsame : task.concernsProbes = false →
      historyOf (Network.perform task network).1 index = historyOf network index := by
    intro hconcerns
    unfold historyOf
    rw [probes_perform hconcerns]
  cases task with
  | act action =>
      rw [lineOf_quiet _ rfl, ← h index]
      cases action with
      | subscribe name publisher initial react =>
          exact historyOf_concat (congrArg (· ++ _) (probes_mention _ publisher)) rfl index
      | _ => exact hsame rfl
  | signal receiver delivery =>
      obtain ⟨speaker, rfl, hheard⟩ := horder.heard hfits hspoken
      cases receiver with
      | probe place =>
          rw [show (Network.perform (.signal (.probe place) delivery) network).1 =
            (network.hearProbe place delivery).1 from rfl, historyOf_hearProbe hheard.knows]
          split
          next heq => rw [heq, lineOf_signal_self, h index]
          next hne =>
            rw [lineOf_signal_of_ne (fun heq => hne (Receiver.probe.inj heq)), h index]
      | window | resumption | bridge =>
          rw [lineOf_signal_of_ne (by simp), hsame rfl, h index]
  | subscribe publisher receiver =>
      rw [hsame rfl, h index]
      by_cases hreceiver : receiver = .probe index
      · cases horder with
        | settled hsettled => exact absurd List.mem_cons_self (hsettled.calm _ publisher receiver)
        | subscribing _ _ _ _ hfirst =>
            subst hreceiver
            rw [lineOf_subscribe_self, hfirst index rfl]
      · rw [lineOf_subscribe_of_ne hreceiver]
  | _ => rw [hsame rfl, h index, lineOf_quiet _ rfl]

/-! ## Runs -/

/-- Everything at a point of a run follows the grammar. -/
structure Proper (events : List (Voiced α)) (agenda : Agenda (Network α) (Voiced α)) : Prop where
  orderly : Orderly events agenda.state agenda.todo
  fits : Fits events agenda.todo
  recorded : Recorded events agenda.state

/-- One more task. -/
theorem Proper.perform (h : Proper events ⟨network, event :: todo⟩)
    (hspoken : isWellSpoken events event) :
    Proper (events ++ [event]) (Agenda.step performVoiced ⟨network, event :: todo⟩) where
  orderly := h.orderly.perform h.fits hspoken
  fits := h.fits.perform h.orderly
  recorded := h.recorded.perform h.orderly h.fits hspoken

/-- A run performs nothing more when nothing is left to be done. -/
theorem performed_succ_idle {fuel : Nat} {agenda : Agenda (Network α) (Voiced α)}
    (h : Agenda.run performVoiced fuel agenda = ⟨network, []⟩) :
    performed (fuel + 1) agenda = performed fuel agenda :=
  Agenda.observe_succ_idle h

/-- A run performs the next task. -/
theorem performed_succ {fuel : Nat} {agenda : Agenda (Network α) (Voiced α)}
    (h : Agenda.run performVoiced fuel agenda = ⟨network, event :: todo⟩) :
    performed (fuel + 1) agenda = performed fuel agenda ++ [event] :=
  Agenda.observe_succ h

/-- A script that is to be performed on an empty network. -/
def launch (script : List (Action α)) : Agenda (Network α) (Voiced α) :=
  ⟨{}, voiced none (script.map .act)⟩

/-- A run of a script without its labels. -/
theorem erase_run (script : List (Action α)) (fuel : Nat) :
    erase (Agenda.run performVoiced fuel (launch script)) =
      Agenda.run perform fuel ⟨{}, script.map .act⟩ := by
  rw [run_performVoiced, erase, launch, map_snd_voiced]

/-- Before anything has happened. -/
theorem proper_launch (script : List (Action α)) : Proper [] (launch script) where
  orderly := by
    have hserves : ∀ speaker receiver, ¬ Serves [] ({} : Network α) speaker receiver := by
      rintro speaker receiver (hbelow | ⟨_, _, hmem, -⟩)
      · cases speaker <;> simp [below?] at hbelow
      · exact absurd hmem List.not_mem_nil
    refine .settled ⟨fun _ => rfl, fun speaker receiver h => absurd h (hserves speaker receiver),
      fun voice receiver delivery hmem => ?_, fun voice publisher receiver hmem => ?_,
      fun name receiver h => ?_, fun speaker receiver h => absurd h (hserves speaker receiver),
      fun _ _ => rfl, fun speaker _ _ => ⟨?_, fun _ => rfl⟩, fun speaker receiver h => ?_⟩
      fun speaker receiver h => absurd (.inl h) (hserves speaker receiver)
    · exact absurd (isPlain_map_act script _ (mem_of_mem_voiced hmem).2) Bool.false_ne_true
    · exact absurd (isPlain_map_act script _ (mem_of_mem_voiced hmem).2) Bool.false_ne_true
    · rcases h with ⟨_, hmem, -⟩ | ⟨_, hmem, -⟩ <;> exact absurd hmem List.not_mem_nil
    · exact workOf_eq_zero fun task htask =>
        Task.isWorkOf_of_isPlain (isPlain_map_act script task htask) speaker
    · exact absurd (.inl h) (hserves speaker receiver)
  fits := fun receiver => by
    rw [launch, constantsTo_voiced (Option.some_ne_none Speaker.constant).symm]
    rfl
  recorded := fun _ => rfl

/-- If the publishers driven by hand are well spoken, everything follows the grammar at every point
of a run. -/
theorem proper_run {script : List (Action α)} {fuel : Nat}
    (h : Throughout isWellSpoken (performed fuel (launch script))) :
    Proper (performed fuel (launch script)) (Agenda.run performVoiced fuel (launch script)) := by
  induction fuel with
  | zero => exact proper_launch script
  | succ fuel ih =>
      rw [Agenda.run_succ]
      rcases hrun : Agenda.run performVoiced fuel (launch script) with
        ⟨network, _ | ⟨event, rest⟩⟩
      · rw [performed_succ_idle hrun] at h ⊢
        have hproper := ih h
        rwa [hrun] at hproper
      · rw [performed_succ hrun] at h ⊢
        obtain ⟨hbefore, hspoken⟩ := throughout_concat.1 h
        have hproper := ih hbefore
        rw [hrun] at hproper
        exact hproper.perform hspoken

/-- What holds before a run and is kept by every task holds at every point of the run. That
everything follows the grammar may be used, as long as the condition on the tasks says so. -/
theorem invariant_performed {invariant : List (Voiced α) → Agenda (Network α) (Voiced α) → Prop}
    {condition : List (Voiced α) → Voiced α → Prop} {script : List (Action α)} {fuel : Nat}
    (hspoken : ∀ before event, condition before event → isWellSpoken before event)
    (hstart : invariant [] (launch script))
    (hstep : ∀ before network event rest, condition before event →
      Proper before ⟨network, event :: rest⟩ → invariant before ⟨network, event :: rest⟩ →
      invariant (before ++ [event]) (Agenda.step performVoiced ⟨network, event :: rest⟩))
    (h : Throughout condition (performed fuel (launch script))) :
    invariant (performed fuel (launch script)) (Agenda.run performVoiced fuel (launch script)) := by
  induction fuel with
  | zero => exact hstart
  | succ fuel ih =>
      rw [Agenda.run_succ]
      rcases hrun : Agenda.run performVoiced fuel (launch script) with
        ⟨network, _ | ⟨event, rest⟩⟩
      · rw [performed_succ_idle hrun] at h ⊢
        have hbefore := ih h
        rwa [hrun] at hbefore
      · rw [performed_succ hrun] at h ⊢
        obtain ⟨hthen, hnow⟩ := throughout_concat.1 h
        have hproper := proper_run fun before event after hsplit =>
          hspoken before event (hthen before event after hsplit)
        have hbefore := ih hthen
        rw [hrun] at hbefore hproper
        exact hstep _ _ _ _ hnow hproper hbefore

/-- A run performs the same tasks without labels. -/
theorem map_snd_performed (script : List (Action α)) (fuel : Nat) :
    (performed fuel (launch script)).map Prod.snd =
      Agenda.past perform fuel ⟨{}, script.map .act⟩ := by
  induction fuel with
  | zero => rfl
  | succ fuel ih =>
      have hsame := erase_run script fuel
      rcases hrun : Agenda.run performVoiced fuel (launch script) with
        ⟨network, _ | ⟨event, rest⟩⟩
      · rw [hrun] at hsame
        rw [performed_succ_idle hrun, ih, Agenda.past_succ_idle hsame.symm]
      · rw [hrun] at hsame
        rw [performed_succ hrun, List.map_append, ih, Agenda.past_succ hsame.symm]
        rfl

/-- What a scripted subscriber has heard follows the grammar. -/
theorem Proper.grammatical {agenda : Agenda (Network α) (Voiced α)} (h : Proper events agenda)
    (index : Nat) : Grammatical (historyOf agenda.state index) := by
  rw [h.recorded index, grammatical_iff]
  rcases agenda with ⟨network, todo⟩
  have horder := h.orderly
  cases horder with
  | settled hsettled | speaking hsettled | subscribing hsettled => exact hsettled.lines _

end Backpressure.Network
