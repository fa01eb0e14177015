import Backpressure.Proofs.Grammar.Units
import Backpressure.Proofs.Grammar.Voices

/-!
# One speaker at a time

A receiver may have had several speakers: a resumption is subscribed a second time when its first
feed has failed. At any moment at most one of them has not told the end yet, and what that one has
said is what the receiver has heard since it was last subscribed. Each unit stands in one of its
ways between what it has heard and what it has said.

Main results:

- Theorem `InTurn.deliver` and theorem `Sound.deliver` cover a signal.
- Theorem `InTurn.subscribe` covers a subscription, and theorem `InTurn.attach` a unit that is made
  for it.
- Theorem `InTurn.pass`, theorem `InTurn.steady` and theorem `InTurn.add` cover everything else.
-/

namespace Backpressure.Network

open History

variable {α : Type} {network next : Network α} {events todo rest added : List (Voiced α)}
  {event : Voiced α} {voice : Option Speaker} {speaker other : Speaker} {receiver : Receiver}

/-! ## Places -/

/-- The receiver below a unit. -/
def below? (network : Network α) : Speaker → Option Receiver
  | .source index => network.sources[index]?.map (·.below)
  | .window index => network.windows[index]?.map (·.below)
  | .resumption index => network.resumptions[index]?.map (·.below)
  | .hand _ | .constant => none

/-- A receiver is there. -/
def Knows (network : Network α) : Receiver → Prop
  | .probe index => index < network.probes.length
  | .window index => index < network.windows.length
  | .resumption index => index < network.resumptions.length
  | .bridge index => index < network.outlets.length

/-- The unit that hears as a receiver. -/
def Receiver.unit? : Receiver → Option Speaker
  | .window index => some (.window index)
  | .resumption index => some (.resumption index)
  | .probe _ | .bridge _ => none

/-- A unit hears as one receiver. -/
theorem unit?_unique {first second : Receiver} (hfirst : first.unit? = some speaker)
    (hsecond : second.unit? = some speaker) : first = second := by
  cases speaker <;> cases first <;> cases second <;> simp_all [Receiver.unit?]

/-- A publisher driven by hand remembers a receiver. -/
def Remembers (network : Network α) (name : String) (receiver : Receiver) : Prop :=
  (∃ hand ∈ network.hands, hand.name = name ∧ hand.subscriber = some receiver) ∨
    ∃ deferred ∈ network.deferreds, deferred.name = name ∧ deferred.subscriber = some receiver

/-- How a unit stands. -/
def UnitStands (network : Network α) (heard : Parse) (duties : Nat) (said : Parse) :
    Speaker → Prop
  | .source index => ∀ stage, network.sources[index]? = some stage → stage.unit.Stands said
  | .window index => ∀ stage, network.windows[index]? = some stage →
      stage.unit.Stands heard duties said
  | .resumption index => ∀ stage, network.resumptions[index]? = some stage →
      stage.unit.Stands heard duties said
  | .hand _ | .constant => True

/-- Whether a task is work that a unit has under way. -/
def Task.isWorkOf : Speaker → Task α → Bool
  | .window index, .window other _ => other = index
  | .resumption index, .resumption other (.recover _)
  | .resumption index, .recover other _ _ => other = index
  | _, _ => false

/-- How much work a unit has under way. -/
def workOf (speaker : Speaker) (todo : List (Voiced α)) : Nat :=
  todo.countP (·.2.isWorkOf speaker)

/-- Someone may signal to a receiver: a unit above it, or one who speaks for a publisher to which it
was subscribed. -/
def Serves (events : List (Voiced α)) (network : Network α) (speaker : Speaker)
    (receiver : Receiver) : Prop :=
  network.below? speaker = some receiver ∨
    ∃ voice publisher, (voice, .subscribe publisher receiver) ∈ events ∧
      speaker.speaksFor publisher = true

/-! ## The order of speakers -/

/-- At most one speaker of a receiver has not told the end yet, and what that one has said is what
the receiver has heard. Only those who serve a receiver have signals to it left to be delivered, and
none of these is a unit. -/
structure InTurn (events : List (Voiced α)) (network : Network α) (todo : List (Voiced α)) :
    Prop where
  lines : ∀ receiver, (parse (lineOf receiver events)).isSome = true
  turns : ∀ speaker receiver, Serves events network speaker receiver →
    parse (saidBy speaker receiver events) = some .closed ∨
      parse (saidBy speaker receiver events) = parse (lineOf receiver events) ∧
        ∀ other, other ≠ speaker → Serves events network other receiver →
          parse (saidBy other receiver events) = some .closed
  voices : ∀ voice receiver delivery, (voice, .signal receiver delivery) ∈ todo →
    ∃ speaker, voice = some speaker ∧ speaker.isUnit = false ∧
      Serves events network speaker receiver
  calm : ∀ voice publisher receiver, (voice, .subscribe publisher receiver) ∉ todo
  hands : ∀ name receiver, network.Remembers name receiver →
    Serves events network (.hand name) receiver
  known : ∀ speaker receiver, Serves events network speaker receiver → network.Knows receiver
  unheard : ∀ receiver, ¬ network.Knows receiver → lineOf receiver events = []
  fresh : ∀ speaker, speaker.isUnit = true → network.below? speaker = none →
    workOf speaker todo = 0 ∧ ∀ receiver, saidBy speaker receiver events = []
  downward : ∀ speaker receiver, network.below? speaker = some receiver →
    receiver.unit? ≠ some speaker

/-- A unit stands between what it has heard and what it has said. -/
def Sound (events : List (Voiced α)) (network : Network α) (todo : List (Voiced α))
    (speaker : Speaker) : Prop :=
  ∀ receiver, network.below? speaker = some receiver →
    ∃ heard said, (∀ ear : Receiver, ear.unit? = some speaker →
        parse (lineOf ear events) = some heard) ∧
      parse (saidBy speaker receiver events) = some said ∧
      network.UnitStands heard (workOf speaker todo) said speaker

/-- The signals to a receiver that publishers without items have left to be delivered. -/
def constantsTo (receiver : Receiver) (todo : List (Voiced α)) : List (Signal α) :=
  todo.filterMap fun
    | (some .constant, .signal other delivery) =>
        if other = receiver then some delivery.signal else none
    | _ => none

/-- What publishers without items have left to say goes on with what they have said. -/
def Fits (events todo : List (Voiced α)) : Prop :=
  ∀ receiver, (parseFrom (parse (saidBy .constant receiver events))
    (constantsTo receiver todo)).isSome = true

/-- Everything but the unit that is at work keeps its place and stands as it did. -/
structure Steady (acting : Option Speaker) (network next : Network α) : Prop where
  below : ∀ speaker, next.below? speaker = network.below? speaker
  knows : ∀ receiver, network.Knows receiver → next.Knows receiver
  stands : ∀ speaker heard duties said, some speaker ≠ acting →
    network.UnitStands heard duties said speaker → next.UnitStands heard duties said speaker

/-! ## Serving -/

/-- Only a unit has a place above a receiver. -/
theorem isUnit_of_below? (h : network.below? speaker = some receiver) :
    speaker.isUnit = true := by
  cases speaker with
  | hand | constant => exact absurd h (Option.some_ne_none receiver).symm
  | source | window | resumption => rfl

/-- A unit serves the receiver below it, and no other. -/
theorem serves_unit (hunit : speaker.isUnit = true) :
    Serves events network speaker receiver ↔ network.below? speaker = some receiver := by
  refine ⟨fun h => h.resolve_right ?_, .inl⟩
  rintro ⟨voice, publisher, -, hspeaks⟩
  rw [speaksFor_of_isUnit hunit publisher] at hspeaks
  exact Bool.false_ne_true hspeaks

/-- A task that subscribes no one changes nothing about who serves whom. -/
theorem serves_concat
    (h : ∀ voice publisher receiver, event ≠ (voice, .subscribe publisher receiver)) :
    Serves (events ++ [event]) network speaker receiver ↔
      Serves events network speaker receiver := by
  unfold Serves
  simp only [List.mem_append, List.mem_singleton]
  refine or_congr_right ⟨?_, ?_⟩
  · rintro ⟨voice, publisher, hmem | hlast, hspeaks⟩
    · exact ⟨voice, publisher, hmem, hspeaks⟩
    · exact absurd hlast.symm (h voice publisher receiver)
  · rintro ⟨voice, publisher, hmem, hspeaks⟩
    exact ⟨voice, publisher, .inl hmem, hspeaks⟩

/-- A receiver that is subscribed is served by the one who speaks for the publisher. -/
theorem serves_subscribe {publisher : Publisher α (Action α)} {target : Receiver} :
    Serves (events ++ [(voice, .subscribe publisher target)]) network speaker receiver ↔
      Serves events network speaker receiver ∨
        target = receiver ∧ speaker.speaksFor publisher = true := by
  unfold Serves
  rw [or_assoc]
  refine or_congr_right ⟨?_, ?_⟩
  · rintro ⟨found, expression, hmem, hspeaks⟩
    rcases List.mem_append.1 hmem with hbefore | hlast
    · exact .inl ⟨found, expression, hbefore, hspeaks⟩
    · have heq := List.mem_singleton.1 hlast
      simp only [Prod.mk.injEq, Task.subscribe.injEq] at heq
      obtain ⟨-, rfl, rfl⟩ := heq
      exact .inr ⟨rfl, hspeaks⟩
  · rintro (⟨found, expression, hmem, hspeaks⟩ | ⟨rfl, hspeaks⟩)
    · exact ⟨found, expression, List.mem_append_left _ hmem, hspeaks⟩
    · exact ⟨voice, publisher, List.mem_append_right _ (List.mem_singleton_self _), hspeaks⟩

/-- Who serves whom depends on the places only. -/
theorem Steady.serves {acting : Option Speaker} (h : Steady acting network next) :
    Serves events next speaker receiver ↔ Serves events network speaker receiver := by
  rw [Serves, Serves, h.below]

/-! ## Quiet tasks -/

/-- A task that neither signals nor subscribes subscribes no one. -/
theorem ne_subscribe_of_isQuiet (h : event.2.isQuiet = true) (voice : Option Speaker)
    (publisher : Publisher α (Action α)) (receiver : Receiver) :
    event ≠ (voice, .subscribe publisher receiver) := by
  rintro rfl
  exact Bool.false_ne_true h

/-- What comes after the next task is in order as well. -/
theorem InTurn.tail (h : InTurn events network (event :: todo)) :
    InTurn events network todo where
  lines := h.lines
  turns := h.turns
  voices := fun voice receiver delivery hmem =>
    h.voices voice receiver delivery (List.mem_cons_of_mem _ hmem)
  calm := fun voice publisher receiver hmem =>
    h.calm voice publisher receiver (List.mem_cons_of_mem _ hmem)
  hands := h.hands
  known := h.known
  unheard := h.unheard
  fresh := fun speaker hunit hbelow => by
    obtain ⟨hwork, hsaid⟩ := h.fresh speaker hunit hbelow
    refine ⟨List.countP_eq_zero.2 fun event hevent => ?_, hsaid⟩
    exact List.countP_eq_zero.1 hwork event (List.mem_cons_of_mem _ hevent)
  downward := h.downward

/-- A quiet task is performed. -/
theorem InTurn.pass (h : InTurn events network todo) (hquiet : event.2.isQuiet = true) :
    InTurn (events ++ [event]) network todo := by
  have hserves := fun speaker receiver =>
    @serves_concat α network events event speaker receiver (ne_subscribe_of_isQuiet hquiet)
  exact {
    lines := fun receiver => by
      rw [lineOf_quiet receiver hquiet]
      exact h.lines receiver
    turns := fun speaker receiver => by
      simp only [hserves, saidBy_quiet _ _ hquiet, lineOf_quiet _ hquiet]
      exact h.turns speaker receiver
    voices := fun voice receiver delivery hmem => by
      simp only [hserves]
      exact h.voices voice receiver delivery hmem
    calm := h.calm
    hands := fun name receiver hremembers => (hserves _ _).2 (h.hands name receiver hremembers)
    known := fun speaker receiver hserved => h.known speaker receiver ((hserves _ _).1 hserved)
    unheard := fun receiver hknows => by
      rw [lineOf_quiet receiver hquiet]
      exact h.unheard receiver hknows
    fresh := fun speaker hunit hbelow => by
      refine (h.fresh speaker hunit hbelow).imp_right fun hsaid receiver => ?_
      rw [saidBy_quiet _ _ hquiet]
      exact hsaid receiver
    downward := h.downward }

/-- What happens to the network does not disturb the order. -/
theorem InTurn.steady {acting : Option Speaker} (h : InTurn events network todo)
    (hsteady : Steady acting network next)
    (hhands : ∀ name receiver, next.Remembers name receiver →
      Serves events network (.hand name) receiver) : InTurn events next todo where
  lines := h.lines
  turns := fun speaker receiver => by
    simp only [hsteady.serves]
    exact h.turns speaker receiver
  voices := fun voice receiver delivery hmem => by
    simp only [hsteady.serves]
    exact h.voices voice receiver delivery hmem
  calm := h.calm
  hands := fun name receiver hholds => hsteady.serves.2 (hhands name receiver hholds)
  known := fun speaker receiver hserved =>
    hsteady.knows receiver (h.known speaker receiver (hsteady.serves.1 hserved))
  unheard := fun receiver hknows => h.unheard receiver (mt (hsteady.knows receiver) hknows)
  fresh := fun speaker hunit hbelow => h.fresh speaker hunit ((hsteady.below speaker) ▸ hbelow)
  downward := fun speaker receiver hbelow =>
    h.downward speaker receiver ((hsteady.below speaker) ▸ hbelow)

/-- Tasks are added that leave the order as it is. -/
theorem InTurn.add (h : InTurn events network todo)
    (hvoices : ∀ voice receiver delivery, (voice, .signal receiver delivery) ∈ added →
      ∃ speaker, voice = some speaker ∧ speaker.isUnit = false ∧
        Serves events network speaker receiver)
    (hplain : ∀ voice publisher receiver, (voice, .subscribe publisher receiver) ∉ added)
    (hwork : ∀ speaker, network.below? speaker = none → workOf speaker added = 0) :
    InTurn events network (added ++ todo) where
  lines := h.lines
  turns := h.turns
  voices := fun voice receiver delivery hmem =>
    (List.mem_append.1 hmem).elim (hvoices voice receiver delivery)
      (h.voices voice receiver delivery)
  calm := fun voice publisher receiver hmem =>
    (List.mem_append.1 hmem).elim (hplain voice publisher receiver)
      (h.calm voice publisher receiver)
  hands := h.hands
  known := h.known
  unheard := h.unheard
  fresh := fun speaker hunit hbelow => by
    obtain ⟨hold, hsaid⟩ := h.fresh speaker hunit hbelow
    refine ⟨?_, hsaid⟩
    rw [workOf, List.countP_append]
    exact Nat.add_eq_zero_iff.2 ⟨hwork speaker hbelow, hold⟩
  downward := h.downward

/-! ## Signals -/

/-- The one who may go on with what he has said is the one whom the receiver has heard. -/
theorem InTurn.parse_line {kind : Kind} {said now : Parse} (h : InTurn events network todo)
    (hserves : Serves events network speaker receiver)
    (hsaid : parse (saidBy speaker receiver events) = some said)
    (hnow : said.next? kind = some now) :
    parse (lineOf receiver events) = some said ∧
      ∀ other, other ≠ speaker → Serves events network other receiver →
        parse (saidBy other receiver events) = some .closed := by
  rcases h.turns speaker receiver hserves with hclosed | ⟨hline, hothers⟩
  · rw [hsaid] at hclosed
    cases hclosed
    exact absurd hnow Parse.next?_closed_ne
  · exact ⟨hline.symm.trans hsaid, hothers⟩

/-- A signal is delivered that goes on with what its speaker has said. -/
theorem InTurn.deliver {delivery : Delivery α Link} {said now : Parse}
    (h : InTurn events network todo) (hserves : Serves events network speaker receiver)
    (hsaid : parse (saidBy speaker receiver events) = some said)
    (hnow : said.next? delivery.signal.kind = some now) :
    InTurn (events ++ [(some speaker, .signal receiver delivery)]) network todo := by
  obtain ⟨hline, hothers⟩ := h.parse_line hserves hsaid hnow
  have hserved := fun other target =>
    @serves_concat α network events (some speaker, .signal receiver delivery) other target
      (fun _ _ _ heq => by simp at heq)
  have hlast : parse (lineOf receiver (events ++ [(some speaker, .signal receiver delivery)])) =
      some now := by
    rw [lineOf_signal_self, parse_concat, hline]
    exact hnow
  exact {
    lines := fun target => by
      by_cases htarget : receiver = target
      · subst htarget
        rw [hlast]
        rfl
      · rw [lineOf_signal_of_ne htarget]
        exact h.lines target
    turns := fun other target => by
      simp only [hserved]
      intro hother
      by_cases htarget : receiver = target
      · subst htarget
        -- Only the speaker himself goes on; all others have told the end.
        have hrest : ∀ third, third ≠ speaker → Serves events network third receiver →
            parse (saidBy third receiver
              (events ++ [(some speaker, .signal receiver delivery)])) = some .closed := by
          intro third hthird hserves
          rw [saidBy_signal_of_ne fun heq => hthird (Option.some.inj heq.1).symm]
          exact hothers third hthird hserves
        by_cases hspeaker : other = speaker
        · subst hspeaker
          refine .inr ⟨?_, hrest⟩
          rw [hlast, saidBy_signal_self, parse_concat, hsaid]
          exact hnow
        · exact .inl (hrest other hspeaker hother)
      · simp only [saidBy_signal_of_ne fun heq => htarget heq.2, lineOf_signal_of_ne htarget]
        exact h.turns other target hother
    voices := fun voice target delivery hmem => by
      simp only [hserved]
      exact h.voices voice target delivery hmem
    calm := h.calm
    hands := fun name target hremembers => (hserved _ _).2 (h.hands name target hremembers)
    known := fun other target hother => h.known other target ((hserved _ _).1 hother)
    unheard := fun target hknows => by
      have htarget : receiver ≠ target := by
        rintro rfl
        exact hknows (h.known speaker receiver hserves)
      rw [lineOf_signal_of_ne htarget]
      exact h.unheard target hknows
    fresh := fun other hunit hbelow => by
      obtain ⟨hwork, hnothing⟩ := h.fresh other hunit hbelow
      refine ⟨hwork, fun target => ?_⟩
      have hother : speaker ≠ other := by
        rintro rfl
        rw [(serves_unit hunit).1 hserves] at hbelow
        exact Option.some_ne_none receiver hbelow
      rw [saidBy_signal_of_ne fun heq => hother (Option.some.inj heq.1)]
      exact hnothing target
    downward := h.downward }

/-! ## Subscriptions -/

/-- A receiver is subscribed all of whose speakers have told the end. -/
theorem InTurn.subscribe {publisher : Publisher α (Action α)}
    (h : InTurn events network todo) (hknows : network.Knows receiver)
    (hfree : ∀ speaker, Serves events network speaker receiver →
      parse (saidBy speaker receiver events) = some .closed) :
    InTurn (events ++ [(voice, .subscribe publisher receiver)]) network todo := by
  have hmono : ∀ {other target}, Serves events network other target →
      Serves (events ++ [(voice, .subscribe publisher receiver)]) network other target :=
    fun hserves => serves_subscribe.2 (.inl hserves)
  exact {
    lines := fun target => by
      by_cases htarget : receiver = target
      · subst htarget
        rw [lineOf_subscribe_self]
        rfl
      · rw [lineOf_subscribe_of_ne htarget]
        exact h.lines target
    turns := fun other target hother => by
      rw [serves_subscribe] at hother
      by_cases htarget : receiver = target
      · subst htarget
        have hrest : ∀ third, third.speaksFor publisher = false →
            Serves (events ++ [(voice, .subscribe publisher receiver)]) network third receiver →
            parse (saidBy third receiver
              (events ++ [(voice, .subscribe publisher receiver)])) = some .closed := by
          intro third hthird hserves
          rw [serves_subscribe, hthird] at hserves
          rw [saidBy_subscribe_of_ne (by rw [hthird]; simp)]
          exact hfree third (hserves.resolve_right (by simp))
        cases hspeaks : other.speaksFor publisher with
        | false => exact .inl (hrest other hspeaks (serves_subscribe.2 hother))
        | true =>
            refine .inr ⟨?_, fun third hthird => hrest third ?_⟩
            · rw [saidBy_subscribe_self hspeaks, lineOf_subscribe_self]
            · exact Bool.eq_false_iff.2 fun heq => hthird (speaksFor_unique heq hspeaks)
      · have hsame : ∀ third, saidBy third target
            (events ++ [(voice, .subscribe publisher receiver)]) = saidBy third target events :=
          fun third => saidBy_subscribe_of_ne (fun heq => htarget heq.2) voice
        have hold : ∀ {third}, Serves (events ++ [(voice, .subscribe publisher receiver)])
            network third target → Serves events network third target :=
          fun hserves => (serves_subscribe.1 hserves).resolve_right fun heq => htarget heq.1
        rw [lineOf_subscribe_of_ne htarget]
        simp only [hsame]
        exact (h.turns other target (hold (serves_subscribe.2 hother))).imp_right fun hturn =>
          ⟨hturn.1, fun third hthird hserves => hturn.2 third hthird (hold hserves)⟩
    voices := fun voice target delivery hmem =>
      (h.voices voice target delivery hmem).imp fun _ hspeaker =>
        ⟨hspeaker.1, hspeaker.2.1, hmono hspeaker.2.2⟩
    calm := h.calm
    hands := fun name target hremembers => hmono (h.hands name target hremembers)
    known := fun other target hother => by
      rcases serves_subscribe.1 hother with hserves | ⟨rfl, -⟩
      · exact h.known other target hserves
      · exact hknows
    unheard := fun target hunknown => by
      have htarget : receiver ≠ target := by
        rintro rfl
        exact hunknown hknows
      rw [lineOf_subscribe_of_ne htarget]
      exact h.unheard target hunknown
    fresh := fun other hunit hbelow => by
      obtain ⟨hwork, hnothing⟩ := h.fresh other hunit hbelow
      refine ⟨hwork, fun target => ?_⟩
      rw [saidBy_subscribe_of_ne (by rw [speaksFor_of_isUnit hunit]; simp)]
      exact hnothing target
    downward := h.downward }

/-- A unit is put above a receiver. -/
structure Joins (speaker : Speaker) (receiver : Receiver) (network next : Network α) : Prop where
  isUnit : speaker.isUnit = true
  isNew : network.below? speaker = none
  below : ∀ other, next.below? other =
    if other = speaker then some receiver else network.below? other
  knows : ∀ receiver, network.Knows receiver → next.Knows receiver
  ear : ∀ ear : Receiver, ear.unit? = some speaker → ¬ network.Knows ear ∧ next.Knows ear
  remembers : ∀ name receiver, next.Remembers name receiver → network.Remembers name receiver
  stands : ∀ other heard duties said, other ≠ speaker →
    network.UnitStands heard duties said other → next.UnitStands heard duties said other

/-- A unit that joins serves the receiver below it. -/
theorem Joins.serves {target : Receiver} (h : Joins speaker receiver network next) :
    Serves events next other target ↔
      Serves events network other target ∨ other = speaker ∧ receiver = target := by
  unfold Serves
  rw [h.below, or_right_comm]
  refine or_congr_left ?_
  by_cases hother : other = speaker
  · subst hother
    rw [if_pos rfl, h.isNew]
    simp
  · rw [if_neg hother]
    simp [hother]

/-- A unit is put above a receiver that has begun anew. -/
theorem InTurn.attach (h : InTurn events network todo)
    (hjoins : Joins speaker receiver network next) (hknows : network.Knows receiver)
    (hline : lineOf receiver events = [])
    (hfree : ∀ other, Serves events network other receiver →
      parse (saidBy other receiver events) = some .closed) : InTurn events next todo where
  lines := h.lines
  turns := fun other target hother => by
    have hsaid := (h.fresh speaker hjoins.isUnit hjoins.isNew).2
    rcases hjoins.serves.1 hother with hserves | ⟨rfl, rfl⟩
    · by_cases htarget : receiver = target
      · subst htarget
        exact .inl (hfree other hserves)
      · refine (h.turns other target hserves).imp_right fun hturn => ⟨hturn.1, ?_⟩
        intro third hthird hserved
        exact hturn.2 third hthird
          ((hjoins.serves.1 hserved).resolve_right fun heq => htarget heq.2)
    · refine .inr ⟨by rw [hsaid, hline], fun third hthird hserved => ?_⟩
      exact hfree third ((hjoins.serves.1 hserved).resolve_right fun heq => hthird heq.1)
  voices := fun voice target delivery hmem =>
    (h.voices voice target delivery hmem).imp fun _ hspeaker =>
      ⟨hspeaker.1, hspeaker.2.1, hjoins.serves.2 (.inl hspeaker.2.2)⟩
  calm := h.calm
  hands := fun name target hremembers =>
    hjoins.serves.2 (.inl (h.hands name target (hjoins.remembers name target hremembers)))
  known := fun other target hother => by
    rcases hjoins.serves.1 hother with hserves | ⟨-, rfl⟩
    · exact hjoins.knows target (h.known other target hserves)
    · exact hjoins.knows receiver hknows
  unheard := fun target hunknown => h.unheard target (mt (hjoins.knows target) hunknown)
  fresh := fun other hunit hbelow => by
    rw [hjoins.below] at hbelow
    split at hbelow
    · exact absurd hbelow (Option.some_ne_none receiver)
    · exact h.fresh other hunit hbelow
  downward := fun other target hbelow => by
    rw [hjoins.below] at hbelow
    split at hbelow
    next hother =>
      subst hother
      cases hbelow
      exact fun hear => (hjoins.ear receiver hear).1 hknows
    next => exact h.downward other target hbelow

/-! ## Units -/

/-- What changes neither what a unit has heard and said nor its work changes nothing about how it
stands. -/
theorem Sound.transfer {later left : List (Voiced α)} (h : Sound events network todo speaker)
    (hbelow : next.below? speaker = network.below? speaker)
    (hheard : ∀ ear : Receiver, ear.unit? = some speaker → lineOf ear later = lineOf ear events)
    (hsaid : ∀ receiver, saidBy speaker receiver later = saidBy speaker receiver events)
    (hwork : workOf speaker left = workOf speaker todo)
    (hstands : ∀ heard duties said, network.UnitStands heard duties said speaker →
      next.UnitStands heard duties said speaker) : Sound later next left speaker := by
  intro receiver hreceiver
  rw [hbelow] at hreceiver
  obtain ⟨heard, said, hears, hsays, hunit⟩ := h receiver hreceiver
  refine ⟨heard, said, fun ear hear => ?_, ?_, ?_⟩
  · rw [hheard ear hear]
    exact hears ear hear
  · rw [hsaid]
    exact hsays
  · rw [hwork]
    exact hstands _ _ _ hunit

/-- Work of other units is none of a unit's. -/
theorem workOf_cons_of_not (h : event.2.isWorkOf speaker = false) :
    workOf speaker (event :: todo) = workOf speaker todo := by
  rw [workOf, List.countP_cons_of_neg (by rw [h]; exact Bool.false_ne_true), workOf]

/-- Work of a unit counts. -/
theorem workOf_cons_of_isWorkOf (h : event.2.isWorkOf speaker = true) :
    workOf speaker (event :: todo) = workOf speaker todo + 1 :=
  List.countP_cons_of_pos h

/-- Tasks one after the other. -/
theorem workOf_append (first second : List (Voiced α)) :
    workOf speaker (first ++ second) = workOf speaker first + workOf speaker second :=
  List.countP_append

/-- Only units stand anywhere. -/
theorem sound_of_not_isUnit (h : speaker.isUnit = false) : Sound events network todo speaker :=
  fun _ hbelow => absurd (h.symm.trans (isUnit_of_below? hbelow)) Bool.false_ne_true

/-- The next task is none of a unit's work. -/
theorem Sound.tail (h : Sound events network (event :: todo) speaker)
    (hwork : event.2.isWorkOf speaker = false) : Sound events network todo speaker :=
  h.transfer rfl (fun _ _ => rfl) (fun _ => rfl) (workOf_cons_of_not hwork).symm fun _ _ _ => id

/-- A quiet task leaves a unit as it stands. -/
theorem Sound.pass (h : Sound events network todo speaker) (hquiet : event.2.isQuiet = true) :
    Sound (events ++ [event]) network todo speaker :=
  h.transfer rfl (fun ear _ => lineOf_quiet ear hquiet)
    (fun receiver => saidBy_quiet speaker receiver hquiet) rfl fun _ _ _ => id

/-- A unit that is not at work stands as it did. -/
theorem Sound.steady {acting : Option Speaker} (h : Sound events network todo speaker)
    (hsteady : Steady acting network next) (hacting : some speaker ≠ acting) :
    Sound events next todo speaker :=
  h.transfer (hsteady.below speaker) (fun _ _ => rfl) (fun _ => rfl) rfl
    fun heard duties said => hsteady.stands speaker heard duties said hacting

/-- Tasks that are no work of a unit leave it as it stands. -/
theorem Sound.add (h : Sound events network todo speaker) (hwork : workOf speaker added = 0) :
    Sound events network (added ++ todo) speaker :=
  h.transfer rfl (fun _ _ => rfl) (fun _ => rfl) (by rw [workOf_append, hwork, Nat.zero_add])
    fun _ _ _ => id

/-- A signal between others leaves a unit as it stands. -/
theorem Sound.deliver {delivery : Delivery α Link} (h : Sound events network todo other)
    (hspeaker : other ≠ speaker) (hreceiver : receiver.unit? ≠ some other) :
    Sound (events ++ [(some speaker, .signal receiver delivery)]) network todo other := by
  refine h.transfer rfl (fun ear hear => ?_) (fun target => ?_) rfl fun _ _ _ => id
  · refine lineOf_signal_of_ne ?_ _ _
    rintro rfl
    exact hreceiver hear
  · exact saidBy_signal_of_ne (fun heq => hspeaker (Option.some.inj heq.1).symm) _

/-- A subscription of someone else leaves a unit as it stands. -/
theorem Sound.subscribe {publisher : Publisher α (Action α)}
    (h : Sound events network todo speaker) (hreceiver : receiver.unit? ≠ some speaker) :
    Sound (events ++ [(voice, .subscribe publisher receiver)]) network todo speaker := by
  intro target htarget
  have hunit := isUnit_of_below? htarget
  refine h.transfer rfl (fun ear hear => ?_) (fun target => ?_) rfl (fun _ _ _ => id)
    target htarget
  · refine lineOf_subscribe_of_ne ?_ _ _
    rintro rfl
    exact hreceiver hear
  · exact saidBy_subscribe_of_ne (by rw [speaksFor_of_isUnit hunit]; simp) _

/-- A unit that joins leaves the others as they stand. -/
theorem Sound.attach (h : Sound events network todo other)
    (hjoins : Joins speaker receiver network next) (hother : other ≠ speaker) :
    Sound events next todo other :=
  h.transfer (by rw [hjoins.below, if_neg hother]) (fun _ _ => rfl) (fun _ => rfl) rfl
    fun heard duties said => hjoins.stands other heard duties said hother

end Backpressure.Network
