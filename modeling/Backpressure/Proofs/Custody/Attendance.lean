import Backpressure.Proofs.Bridge.Release
import Backpressure.Proofs.Custody.Ledgers
import Backpressure.Proofs.Grammar.Chains

/-!
# Streams that are attended

A stream that a publisher driven by hand can still subscribe is not closed before it has heard
something, unless it is dropped: as long as the publisher remembers the stream or a unit of its
pipeline, the stream is held.

Main results:

- Theorem `Unbroken.perform` shows that a stream that is held stays open until it is dropped.
- Theorem `Attended.perform` covers every task of a run.
-/

namespace Backpressure.Network

variable {α : Type} {network next : Network α} {events : List (Voiced α)}
  {todo rest : List (Task α)} {voice : Option Speaker} {task : Task α} {receiver target : Receiver}
  {index : Nat} {name : String}

/-! ## Streams that are held -/

/-- A stream is open unless it was dropped. -/
def Unbroken (network : Network α) (index : Nat) : Prop :=
  network.isOpen index = !network.isCancelled (.bridge index)

/-- Only a signal to a bridge is heard there. -/
theorem exists_signal_of_heard {delivery : Delivery α Link}
    (h : .heard delivery ∈ bridgeTurns index task network) :
    task = .signal (.bridge index) delivery := by
  have hcall : ∀ call : Option (Call Link), .heard delivery ∉ Bridge.Turn.ofCall (α := α) call := by
    intro call hmem
    obtain ⟨_, -, heq⟩ := List.mem_map.1 hmem
    cases heq
  unfold bridgeTurns at h
  split at h
  · split at h
    · split at h
      · cases List.mem_singleton.1 h
      · exact absurd h List.not_mem_nil
    · exact absurd h List.not_mem_nil
  · split at h
    next place heard =>
      split at h
      next hplace =>
        rcases List.mem_cons.1 h with heq | hmem
        · cases heq
          rw [hplace]
        · exact absurd hmem (hcall _)
      next => exact absurd h List.not_mem_nil
    all_goals first
      | exact absurd h List.not_mem_nil
      | split at h
        · simp [Bridge.Turn.ofPoll, Bridge.Turn.ofDrop, hcall] at h
        · exact absurd h List.not_mem_nil

/-- A poll leaves the channel as it is. -/
theorem closed_poll (bridge : Bridge α Link) : bridge.poll.1.closed = bridge.closed := by
  unfold Bridge.poll
  split
  · rfl
  · split
    · simp only [Bridge.consume]
      split <;> rfl
    · rfl
    · split <;> rfl

/-- A stream that was open unless it was dropped stays so, if it hears nothing and is not closed for
want of a holder. -/
theorem Unbroken.perform (h : network.Unbroken index)
    (hsilent : ∀ delivery, task ≠ .signal (.bridge index) delivery)
    (hkept : .released ∉ bridgeTurns index task network) :
    (Network.perform task network).1.Unbroken index := by
  cases houtlet : network.outlets[index]? with
  | none => simp [Unbroken, isOpen, isCancelled, houtlet] at h
  | some outlet =>
      have hunit : outlet.unit.closed = outlet.unit.dropped := by
        simpa [Unbroken, isOpen, isCancelled, houtlet] using h
      obtain ⟨unit, hnext, hmoves⟩ := bridgeMoves_perform houtlet task
      have hgoal : unit.closed = unit.dropped → (Network.perform task network).1.Unbroken index :=
        fun hboth => by simp [Unbroken, isOpen, isCancelled, hnext, hboth]
      generalize hturns : bridgeTurns index task network = turns at hmoves hkept
      cases hmoves with
      | other => exact hgoal hunit
      | poll =>
          refine hgoal ((closed_poll outlet.unit).trans (hunit.trans ?_))
          exact (feed_poll outlet.unit).2.1.symm
      | hear delivery =>
          have hheard : .heard delivery ∈ bridgeTurns index task network := by
            rw [hturns]
            exact List.mem_cons_self
          exact absurd (exists_signal_of_heard hheard) (hsilent delivery)
      | release => exact absurd (List.mem_singleton_self _) hkept
      | drop =>
          refine hgoal ?_
          unfold Bridge.drop
          split
          · exact hunit
          · rfl

/-- A stream that was open unless it was dropped, or has heard something, still is so, if no one is
subscribed for it again and it is not closed for want of a holder. -/
theorem stays_unbroken (h : network.Unbroken index ∨ lineOf (.bridge index) events ≠ [])
    (hother : ∀ publisher, task ≠ .subscribe publisher (.bridge index))
    (hkept : .released ∉ bridgeTurns index task network) :
    (perform task network).1.Unbroken index ∨
      lineOf (.bridge index) (events ++ [(voice, task)]) ≠ [] := by
  by_cases hheard : ∃ delivery, task = .signal (.bridge index) delivery
  · obtain ⟨delivery, rfl⟩ := hheard
    rw [lineOf_signal_self]
    exact .inr (List.append_ne_nil_of_right_ne_nil _ (List.cons_ne_nil _ _))
  · have hsilent : ∀ delivery, task ≠ .signal (.bridge index) delivery := fun delivery heq =>
      hheard ⟨delivery, heq⟩
    refine h.imp (fun hunbroken => hunbroken.perform hsilent hkept) fun hline => ?_
    have hsame : lineOf (.bridge index) (events ++ [(voice, task)]) =
        lineOf (.bridge index) events := by
      cases task with
      | signal receiver delivery =>
          refine lineOf_signal_of_ne ?_ _ _
          rintro rfl
          exact hsilent delivery rfl
      | subscribe publisher receiver =>
          refine lineOf_subscribe_of_ne ?_ _ _
          rintro rfl
          exact hother publisher rfl
      | _ => exact lineOf_quiet _ rfl
    rwa [hsame]

/-- A publisher driven by hand remembers who was subscribed to it last. -/
theorem remembers_subscribe_hand
    (h : network.hands.findIdx? (·.name = name) = some index) (receiver : Receiver) :
    (network.subscribe receiver (.hand name)).1.Remembers name receiver := by
  obtain ⟨hlt, hname, -⟩ := List.findIdx?_eq_some_iff_getElem.1 h
  simp only [Network.subscribe, h, Remembers, subscribeHand, (sameUnits_elim_letGo _ _).hands]
  refine .inl ⟨{ network.hands[index] with
    subscriber := some receiver, subscribed := network.hands[index].subscribed + 1 },
    List.mem_of_getElem? (i := index) ?_, of_decide_eq_true hname, rfl⟩
  simp [List.getElem?_eq_getElem hlt]

/-! ## Streams on their own -/

/-- A receiver that is handed a link is there, and has heard nothing since it was subscribed. -/
theorem Proper.handed {link : Link} {left : List (Voiced α)}
    (h : Proper events ⟨network, (voice, .signal receiver (.subscribe link)) :: left⟩)
    (hspoken : isWellSpoken events (voice, .signal receiver (.subscribe link))) :
    network.Knows receiver ∧ lineOf receiver events = [] := by
  obtain ⟨_, _, hheard⟩ := h.orderly.heard h.fits hspoken
  obtain ⟨before, now, hbefore, hnow⟩ := hheard.line
  refine ⟨hheard.knows, ?_⟩
  cases before with
  | silent => exact History.parse_eq_some_iff.1 hbefore
  | opened | closed => exact absurd hnow (Option.some_ne_none now).symm

/-- A stream that is subscribed to a publisher driven by hand without operators in between is open
before it has heard something, unless it was dropped. -/
structure Attended (events : List (Voiced α)) (network : Network α) (todo : List (Task α)) :
    Prop where
  remembered : ∀ name index, network.Remembers name (.bridge index) →
    network.Unbroken index ∨ lineOf (.bridge index) events ≠ []
  subscribed : ∀ publisher index, .subscribe publisher (.bridge index) ∈ todo →
    network.Unbroken index
  handed : ∀ index link, link.isByHand = true →
    .signal (.bridge index) (.subscribe link) ∈ todo →
    network.Unbroken index ∨ lineOf (.bridge index) events ≠ []

/-- A stream that was just made is open. -/
theorem unbroken_stream {publisher : Publisher α (Action α)} {prefetch : UInt64} :
    (perform (.act (.stream name publisher prefetch)) network).1.Unbroken
      network.outlets.length := by
  have hnext : (perform (.act (.stream name publisher prefetch)) network).1.outlets =
      network.outlets ++ [{ name, unit := .ofPrefetch prefetch }] :=
    congrArg (· ++ _) (outlets_mention _ publisher)
  simp [Unbroken, isOpen, isCancelled, hnext, Bridge.ofPrefetch]

/-- Streams are attended after one more task, if only that one was to subscribe someone or to hand
over a link. -/
theorem Attended.perform (h : Attended events network (task :: rest))
    (hrest : ∀ other ∈ rest, other.isHanding = false) :
    Attended (events ++ [(voice, task)]) (Network.perform task network).1
      ((Network.perform task network).2 ++ rest) := by
  have hretains := retains_perform task network
  have hold : ∀ name index, (Network.perform task network).1.Remembers name (.bridge index) →
      (∀ publisher, task ≠ .subscribe publisher (.bridge index)) →
      network.Remembers name (.bridge index) := by
    intro name index hnext hother
    rcases hretains.remembers name _ hnext with hbefore | rfl | rfl
    · exact hbefore
    · exact absurd rfl (hother _)
    · exact absurd rfl (hother _)
  have hnew : ∀ publisher index, task = .subscribe publisher (.bridge index) →
      .released ∉ bridgeTurns index task network →
      (Network.perform task network).1.Unbroken index := by
    rintro publisher index rfl hkept
    exact (h.subscribed publisher index List.mem_cons_self).perform (fun _ heq => nomatch heq) hkept
  refine ⟨fun name index hnext => ?_, fun publisher index hmem => ?_,
    fun index link hlink hmem => ?_⟩
  · by_cases hother : ∀ publisher, task ≠ .subscribe publisher (.bridge index)
    · have hbefore := hold name index hnext hother
      exact stays_unbroken (h.remembered name index hbefore) hother
        (not_released hnext rfl)
    · obtain ⟨publisher, htask⟩ := not_forall_not.1 hother
      exact .inl (hnew publisher index htask (not_released hnext rfl))
  · rcases List.mem_append.1 hmem with hadded | hlater
    · generalize hreceiver : Receiver.bridge index = receiver at hadded
      cases enlists_of_mem hadded with
      | stream =>
          injection hreceiver with hindex
          rw [hindex]
          exact unbroken_stream
      | subscribe | takeLast | resume | follow => cases hreceiver
    · exact absurd (hrest _ hlater).symm Bool.false_ne_true
  · rcases List.mem_append.1 hmem with hadded | hlater
    · generalize hreceiver : Receiver.bridge index = receiver at hadded
      rcases offers_of_mem hadded with hoffers | ⟨upper, other, _, _, hown, -⟩
      · cases hoffers with
        | accept hsubscriber =>
            subst hreceiver
            refine stays_unbroken (h.remembered _ index (remembers_of_subscriberOf hsubscriber))
              (fun _ heq => nomatch heq) fun hreleased => ?_
            obtain ⟨-, -, ⟨_, heq⟩ | ⟨_, _, heq⟩⟩ := isOpen_of_released hreleased <;> cases heq
        | hand hfind =>
            subst hreceiver
            exact .inl (hnew _ index rfl
              (not_released (remembers_subscribe_hand hfind _) rfl))
        | items hlinks => obtain rfl | ⟨_, rfl⟩ := hlinks <;> cases hlink
        | fail => cases hlink
      · cases upper <;> cases hown <;> cases hlink
    · exact absurd (hrest _ hlater).symm Bool.false_ne_true

/-- Before anything has happened there are no streams. -/
theorem attended_nil (h : ∀ task ∈ todo, task.isLinked = false) :
    Attended [] ({} : Network α) todo where
  remembered := fun _ _ hremembers => by
    rcases hremembers with ⟨_, hmem, -⟩ | ⟨_, hmem, -⟩ <;> exact absurd hmem List.not_mem_nil
  subscribed := fun _ _ hmem => absurd (h _ hmem).symm Bool.false_ne_true
  handed := fun _ _ _ hmem => absurd (h _ hmem).symm Bool.false_ne_true

end Backpressure.Network
