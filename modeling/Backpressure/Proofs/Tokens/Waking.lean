import Mathlib.Data.List.Induction
import Backpressure.Proofs.Tokens.Registration

/-!
# Whom a cancellation wakes

What was done so far says which tokens and futures belong together, which families were cancelled
and which futures were dropped. Together with the answers that the futures got, it says what every
further operation answers and whom it wakes, for any notifier that obeys its laws.

Main results:

- Definition `Awaits`: the latest poll of a future was answered with "pending", and the future was
  not dropped since.
- Theorem `matches_run` is the invariant of all runs: the flags are the families that were
  cancelled, and the futures that hold a listener of a live family are those that await it.
- Theorem `waiters_are_woken_once` puts the answers and the wakes of all operations together.
-/

namespace Backpressure.Room

open TokenRoom (Action Answer)

/-! ## What was done so far -/

/-- Who belongs to which family, and what was cancelled and dropped. -/
structure History where
  /-- The family of each token. -/
  tokens : List Nat := [0]
  /-- The family of each future. -/
  futures : List Nat := []
  /-- How many families there are. -/
  families : Nat := 1
  /-- The families of the tokens that were cancelled. -/
  cancelled : List Nat := []
  /-- The futures that were dropped. -/
  dropped : List Nat := []

/-- The family of a token. -/
def History.familyOf (past : History) (token : Nat) : Nat := past.tokens.getD token 0

/-- One more operation. -/
def History.after (past : History) : Action → History
  | .fresh =>
      { past with tokens := past.tokens ++ [past.families], families := past.families + 1 }
  | .clone token => { past with tokens := past.tokens ++ [past.familyOf token] }
  | .cancel token => { past with cancelled := past.familyOf token :: past.cancelled }
  | .wait token => { past with futures := past.futures ++ [past.familyOf token] }
  | .drop i => if i < past.futures.length then { past with dropped := i :: past.dropped } else past
  | .isCancelled _ | .poll _ => past

/-- What a series of operations says. -/
def history (actions : List Action) : History := actions.foldl .after {}

/-- What the last of several operations adds. -/
theorem history_concat (actions : List Action) (action : Action) :
    history (actions ++ [action]) = (history actions).after action := by
  rw [history, List.foldl_concat]
  rfl

/-- Who awaits after one more operation with its answer. -/
def awaitsAfter (awaits : Nat → Prop) (action : Action) (answer : Answer) (i : Nat) : Prop :=
  (action = .poll i ∧ answer = .pending) ∨ (action ≠ .poll i ∧ action ≠ .drop i ∧ awaits i)

/-- An operation that is neither a poll nor a drop leaves it open who awaits. -/
theorem awaitsAfter_eq {action : Action} (hpoll : ∀ i, action ≠ .poll i)
    (hdrop : ∀ i, action ≠ .drop i) (awaits : Nat → Prop) (answer : Answer) :
    awaitsAfter awaits action answer = awaits := by
  funext i
  simp [awaitsAfter, hpoll i, hdrop i]

/-- Who awaits after a poll. -/
theorem awaitsAfter_poll (awaits : Nat → Prop) (i j : Nat) (answer : Answer) :
    awaitsAfter awaits (.poll i) answer j ↔
      (j = i ∧ answer = .pending) ∨ (j ≠ i ∧ awaits j) := by
  simp [awaitsAfter, eq_comm]

/-- Who awaits after a drop. -/
theorem awaitsAfter_drop (awaits : Nat → Prop) (i j : Nat) (answer : Answer) :
    awaitsAfter awaits (.drop i) answer j ↔ j ≠ i ∧ awaits j := by
  simp [awaitsAfter, eq_comm]

/-! ## What the room knows of it -/

variable {ν : Type} [Notifier ν]

/-- A room has the flags, the members and the listeners that were given. -/
structure Matches (past : History) (awaits : Nat → Prop) (room : Room ν) : Prop where
  sound : Sound room
  tokens : room.tokens = past.tokens
  families : room.families.length = past.families
  futures : room.waiters.map Waiter.family = past.futures
  cancelled : ∀ family, room.cancelled family = decide (family ∈ past.cancelled)
  dropped_lt : ∀ i ∈ past.dropped, i < room.waiters.length
  dropped : ∀ i waiter, room.waiters[i]? = some waiter → waiter.dropped = decide (i ∈ past.dropped)
  awaits_lt : ∀ i, awaits i → i < room.waiters.length
  awaits : ∀ i waiter, room.waiters[i]? = some waiter → room.cancelled waiter.family = false →
    (waiter.listener.isSome = true ↔ awaits i)

namespace Matches

variable {past : History} {awaits : Nat → Prop} {room : Room ν}

/-- The family of a token is the one that it was given. -/
theorem familyOf_eq (h : Matches past awaits room) (token : Nat) :
    room.familyOf token = past.familyOf token := by
  rw [Room.familyOf, h.tokens, History.familyOf]

/-- The family of a future is the one that it was given. -/
theorem futures_getElem? (h : Matches past awaits room) (i : Nat) :
    past.futures[i]? = room.waiters[i]?.map Waiter.family := by
  rw [← h.futures, List.getElem?_map]

/-- There are as many futures as were made. -/
theorem length_futures (h : Matches past awaits room) :
    past.futures.length = room.waiters.length := by
  rw [← h.futures, List.length_map]

/-- A program starts with nothing done. -/
theorem start [LawfulNotifier ν] : Matches {} (fun _ => False) ({} : Room ν) where
  sound := .fresh
  tokens := rfl
  families := rfl
  futures := rfl
  cancelled family := by cases family <;> rfl
  dropped_lt _ hdropped := absurd hdropped List.not_mem_nil
  dropped _ _ hnone := absurd hnone (by simp)
  awaits_lt _ hawaits := hawaits.elim
  awaits _ _ hnone := absurd hnone (by simp)

/-- A token of a new family. -/
theorem freshToken (h : Matches past awaits room) :
    Matches (past.after .fresh) awaits (room.step .fresh).1 := by
  have hcancelled : ∀ family, (room.step .fresh).1.cancelled family = room.cancelled family :=
    fun family => congrArg Family.cancelled (Sound.shared_concat room _ family)
  exact {
    sound := h.sound.freshToken
    tokens := by
      change room.tokens ++ [room.families.length] = past.tokens ++ [past.families]
      rw [h.tokens, h.families]
    families := by
      change (room.families ++ [Family.fresh]).length = past.families + 1
      rw [List.length_append, h.families]
      rfl
    futures := h.futures
    cancelled := fun family => (hcancelled family).trans (h.cancelled family)
    dropped_lt := h.dropped_lt
    dropped := h.dropped
    awaits_lt := h.awaits_lt
    awaits := fun i waiter hi hlive => h.awaits i waiter hi ((hcancelled _).symm.trans hlive) }

/-- A token of an old family. -/
theorem cloneToken (h : Matches past awaits room) (token : Nat) :
    Matches (past.after (.clone token)) awaits (room.step (.clone token)).1 where
  sound := h.sound.cloneToken token
  tokens := by
    change room.tokens ++ [room.familyOf token] = past.tokens ++ [past.familyOf token]
    rw [h.tokens, h.familyOf_eq]
  families := h.families
  futures := h.futures
  cancelled := h.cancelled
  dropped_lt := h.dropped_lt
  dropped := h.dropped
  awaits_lt := h.awaits_lt
  awaits := h.awaits

/-- A future that was not polled yet awaits nothing. -/
theorem newWaiter (h : Matches past awaits room) (token : Nat) :
    Matches (past.after (.wait token)) awaits (room.step (.wait token)).1 := by
  let waiter : Waiter := { family := room.familyOf token }
  have hlt : ∀ {P : Nat → Prop}, (∀ i, P i → i < room.waiters.length) →
      ∀ i, P i → i < (room.waiters ++ [waiter]).length := by
    intro P hlt i hi
    rw [List.length_append]
    exact Nat.lt_succ_of_lt (hlt i hi)
  exact {
    sound := h.sound.newWaiter token
    tokens := h.tokens
    families := h.families
    futures := by
      change (room.waiters ++ [waiter]).map Waiter.family =
        past.futures ++ [past.familyOf token]
      rw [List.map_append, h.futures, ← h.familyOf_eq]
      rfl
    cancelled := h.cancelled
    dropped_lt := hlt h.dropped_lt
    dropped := fun i waiter hi => by
      rcases Sound.waiter_concat_iff.mp hi with hold | ⟨rfl, rfl⟩
      · exact h.dropped i waiter hold
      · exact (decide_eq_false fun hmem => Nat.lt_irrefl _ (h.dropped_lt _ hmem)).symm
    awaits_lt := hlt h.awaits_lt
    awaits := fun i waiter hi hlive => by
      rcases Sound.waiter_concat_iff.mp hi with hold | ⟨rfl, rfl⟩
      · exact h.awaits i waiter hold hlive
      · exact iff_of_false Bool.false_ne_true fun hawaits =>
          Nat.lt_irrefl _ (h.awaits_lt _ hawaits) }

/-- A cancellation sets the flag of its family. -/
theorem cancelToken [LawfulNotifier ν] (h : Matches past awaits room) (token : Nat) :
    Matches (past.after (.cancel token)) awaits (room.step (.cancel token)).1 := by
  have hfamily := h.familyOf_eq token
  have hafter : past.after (.cancel token) =
      { past with cancelled := room.familyOf token :: past.cancelled } := by
    rw [hfamily]
    rfl
  rw [hafter]
  cases hflag : room.cancelled (room.familyOf token) with
  | true =>
      have hstep : (room.step (.cancel token)).1 = room :=
        congrArg Prod.fst (Sound.cancelFamily_of_cancelled hflag)
      have hmem : room.familyOf token ∈ past.cancelled :=
        of_decide_eq_true ((h.cancelled _).symm.trans hflag)
      rw [hstep]
      refine { h with cancelled := fun family => (h.cancelled family).trans ?_ }
      refine decide_eq_decide.mpr (List.mem_cons.trans (or_iff_right_of_imp ?_)).symm
      rintro rfl
      exact hmem
  | false =>
      obtain ⟨shared, woken, hshared, hcancel, hsound, -⟩ :=
        h.sound.cancelFamily_of_live (h.sound.familyOf_lt token) hflag
      have hstep : (room.step (.cancel token)).1 =
          { room with families := room.families.set (room.familyOf token) shared } :=
        congrArg Prod.fst hcancel
      have hcancelled : ∀ family,
          (room.step (.cancel token)).1.cancelled family =
            decide (family ∈ room.familyOf token :: past.cancelled) := by
        intro family
        rw [hstep, Room.cancelled, shared_set (h.sound.familyOf_lt token)]
        by_cases heq : family = room.familyOf token
        · simp [heq, hshared]
        · rw [if_neg heq, ← Room.cancelled, h.cancelled]
          simp [heq]
      have hkept : ∀ family, (room.step (.cancel token)).1.cancelled family = false →
          room.cancelled family = false := by
        intro family hfalse
        rw [hcancelled, decide_eq_false_iff_not, List.mem_cons, not_or] at hfalse
        rw [h.cancelled]
        exact decide_eq_false hfalse.2
      exact {
        sound := by
          rw [hcancel] at hsound
          rw [hstep]
          exact hsound
        tokens := by
          rw [hstep]
          exact h.tokens
        families := by
          rw [hstep]
          exact List.length_set.trans h.families
        futures := by
          rw [hstep]
          exact h.futures
        cancelled := hcancelled
        dropped_lt := by
          rw [hstep]
          exact h.dropped_lt
        dropped := by
          rw [hstep]
          exact h.dropped
        awaits_lt := by
          rw [hstep]
          exact h.awaits_lt
        awaits := fun i waiter hi hlive =>
          h.awaits i waiter (by rw [hstep] at hi; exact hi) (hkept _ hlive) }

/-- One future changes with its family, and everything else stays as it is. -/
theorem changeWaiter (h : Matches past awaits room) {i : Nat} {waiter : Waiter} (changed : Waiter)
    {shared : Family ν} (dropped : List Nat) {awaits' : Nat → Prop}
    (hi : room.waiters[i]? = some waiter) (hfamily : changed.family = waiter.family)
    (hcancelled : shared.cancelled = room.cancelled waiter.family)
    (hsound : Sound { room with
      families := room.families.set waiter.family shared
      waiters := room.waiters.set i changed })
    (hdropped : changed.dropped = decide (i ∈ dropped))
    (hothers : ∀ j, j ≠ i → (j ∈ dropped ↔ j ∈ past.dropped))
    (hawaits : room.cancelled waiter.family = false →
      (changed.listener.isSome = true ↔ awaits' i))
    (hawaitsOthers : ∀ j, j ≠ i → (awaits' j ↔ awaits j)) :
    Matches { past with dropped } awaits' { room with
      families := room.families.set waiter.family shared
      waiters := room.waiters.set i changed } := by
  have hlt := (List.getElem?_eq_some_iff.mp hi).1
  have hflags : ∀ family, ({ room with
      families := room.families.set waiter.family shared
      waiters := room.waiters.set i changed } : Room ν).cancelled family =
        room.cancelled family := by
    intro family
    rw [Room.cancelled, shared_set (h.sound.waiters_lt _ (List.mem_of_getElem? hi))]
    split
    next heq => rw [hcancelled, heq]
    next => rfl
  have hbounded : ∀ {P Q : Nat → Prop}, (∀ j, Q j → j < room.waiters.length) →
      (∀ j, j ≠ i → (P j ↔ Q j)) → ∀ j, P j → j < (room.waiters.set i changed).length := by
    intro P Q hQ hPQ j hj
    rw [List.length_set]
    by_cases heq : j = i
    · rw [heq]
      exact hlt
    · exact hQ j ((hPQ j heq).mp hj)
  exact {
    sound := hsound
    tokens := h.tokens
    families := List.length_set.trans h.families
    futures := by
      have hsame : (room.waiters.set i changed).map Waiter.family =
          room.waiters.map Waiter.family := by
        rw [List.map_set, hfamily]
        obtain ⟨hlt, rfl⟩ := List.getElem?_eq_some_iff.mp hi
        rw [← List.getElem_map Waiter.family (h := by rwa [List.length_map]), List.set_getElem_self]
      exact hsame.trans h.futures
    cancelled := fun family => (hflags family).trans (h.cancelled family)
    dropped_lt := hbounded h.dropped_lt hothers
    dropped := fun j other hj => by
      by_cases heq : j = i
      · subst heq
        rw [List.getElem?_set_self hlt] at hj
        obtain rfl := Option.some.inj hj
        exact hdropped
      · rw [List.getElem?_set_ne (Ne.symm heq)] at hj
        rw [h.dropped j other hj]
        exact decide_eq_decide.mpr (hothers j heq).symm
    awaits_lt := hbounded h.awaits_lt hawaitsOthers
    awaits := fun j other hj hlive => by
      rw [hflags] at hlive
      by_cases heq : j = i
      · subst heq
        rw [List.getElem?_set_self hlt] at hj
        obtain rfl := Option.some.inj hj
        exact hawaits (hfamily ▸ hlive)
      · rw [List.getElem?_set_ne (Ne.symm heq)] at hj
        exact (h.awaits j other hj hlive).trans (hawaitsOthers j heq).symm }

/-- An operation that finds no live future leaves the room as it is, and nothing awaited there. -/
theorem settled (h : Matches past awaits room) {i : Nat}
    (hi : ∀ waiter, room.waiters[i]? = some waiter → waiter.dropped = false →
      room.cancelled waiter.family = true) :
    Matches past (fun j => j ≠ i ∧ awaits j) room where
  sound := h.sound
  tokens := h.tokens
  families := h.families
  futures := h.futures
  cancelled := h.cancelled
  dropped_lt := h.dropped_lt
  dropped := h.dropped
  awaits_lt j hj := h.awaits_lt j hj.2
  awaits j waiter hj hlive := by
    by_cases heq : j = i
    · subst heq
      have hgone : waiter.dropped = true := by
        by_contra hkept
        have hended := hi waiter hj (Bool.eq_false_iff.mpr hkept)
        exact absurd (hlive.symm.trans hended) Bool.false_ne_true
      rw [h.sound.dropped waiter (List.mem_of_getElem? hj) hgone]
      exact iff_of_false Bool.false_ne_true fun hawaits => hawaits.1 rfl
    · exact (h.awaits j waiter hj hlive).trans (and_iff_right heq).symm

/-- What a poll answers: the future is ready when its family was cancelled, and pending otherwise,
unless it was dropped. -/
theorem answer_poll [LawfulNotifier ν] (h : Matches past awaits room) (i : Nat) :
    (room.step (.poll i)).2 =
      (match past.futures[i]? with
        | some family =>
            if i ∈ past.dropped then .dropped
            else if family ∈ past.cancelled then .ready
            else .pending
        | none => .dropped, []) := by
  rw [h.futures_getElem?]
  cases hi : room.waiters[i]? with
  | none =>
      have hpoll : room.pollWaiter i = (room, .dropped) :=
        Sound.pollWaiter_of_dropped fun waiter hwaiter =>
          absurd (hi.symm.trans hwaiter) (Option.some_ne_none _).symm
      simp [step, hpoll]
  | some waiter =>
      have hdropped := h.dropped i waiter hi
      have hflag := h.cancelled waiter.family
      simp only [Option.map_some]
      by_cases hgone : i ∈ past.dropped
      · have hpoll : room.pollWaiter i = (room, .dropped) :=
          Sound.pollWaiter_of_dropped fun other hother => by
            obtain rfl := Option.some.inj (hi.symm.trans hother)
            exact hdropped.trans (decide_eq_true hgone)
        simp [step, hpoll, hgone]
      · have hkept := hdropped.trans (decide_eq_false hgone)
        by_cases hended : waiter.family ∈ past.cancelled
        · have hpoll := Sound.pollWaiter_of_cancelled hi hkept
            (hflag.trans (decide_eq_true hended))
          simp [step, hpoll, hgone, hended]
        · obtain ⟨key, shared, -, hpoll, -⟩ := h.sound.pollWaiter_of_live hi hkept
            (hflag.trans (decide_eq_false hended))
          simp [step, hpoll, hgone, hended]

/-- A poll that is pending makes its future await. -/
theorem pollFuture [LawfulNotifier ν] (h : Matches past awaits room) (i : Nat) :
    Matches (past.after (.poll i)) (awaitsAfter awaits (.poll i) (room.step (.poll i)).2.1)
      (room.step (.poll i)).1 := by
  by_cases hlive : ∃ waiter, room.waiters[i]? = some waiter ∧ waiter.dropped = false ∧
      room.cancelled waiter.family = false
  · obtain ⟨waiter, hi, hkept, hflag⟩ := hlive
    obtain ⟨key, shared, hshared, hpoll, hsound⟩ := h.sound.pollWaiter_of_live hi hkept hflag
    have hstep : room.step (.poll i) = ((room.pollWaiter i).1, (room.pollWaiter i).2, []) := rfl
    rw [hstep, hpoll]
    rw [hpoll] at hsound
    refine h.changeWaiter { waiter with listener := some key } past.dropped hi rfl
      (hshared.trans hflag.symm) hsound (h.dropped i waiter hi) (fun _ _ => Iff.rfl) (fun _ => ?_)
      fun j hj => ?_
    · exact iff_of_true rfl ((awaitsAfter_poll _ _ _ _).mpr (.inl ⟨rfl, rfl⟩))
    · rw [awaitsAfter_poll]
      simp [hj]
  · have hended : ∀ waiter, room.waiters[i]? = some waiter → waiter.dropped = false →
        room.cancelled waiter.family = true := by
      intro waiter hi hkept
      by_contra hflag
      exact hlive ⟨waiter, hi, hkept, Bool.eq_false_iff.mpr hflag⟩
    obtain ⟨hsame, hanswer⟩ := Sound.pollWaiter_of_settled hended
    have hstep : (room.step (.poll i)).1 = room := hsame
    have hawaits : awaitsAfter awaits (.poll i) (room.step (.poll i)).2.1 =
        fun j => j ≠ i ∧ awaits j := by
      funext j
      have hnot : (room.step (.poll i)).2.1 ≠ .pending := hanswer
      simp [awaitsAfter_poll, hnot]
    rw [hstep, hawaits]
    exact h.settled hended

/-- A future that was dropped does not await any more. -/
theorem dropFuture [LawfulNotifier ν] (h : Matches past awaits room) (i : Nat) :
    Matches (past.after (.drop i)) (awaitsAfter awaits (.drop i) (room.step (.drop i)).2.1)
      (room.step (.drop i)).1 := by
  have hawaits : awaitsAfter awaits (.drop i) (room.step (.drop i)).2.1 =
      fun j => j ≠ i ∧ awaits j := by
    funext j
    simp [awaitsAfter_drop]
  rw [hawaits]
  cases hi : room.waiters[i]? with
  | none =>
      have hstep : (room.step (.drop i)).1 = room := by
        simp [step, dropWaiter, hi]
      have hafter : past.after (.drop i) = past := by
        refine if_neg ?_
        rw [h.length_futures]
        exact Nat.not_lt.mpr (List.getElem?_eq_none_iff.mp hi)
      rw [hstep, hafter]
      exact h.settled fun waiter hwaiter _ =>
        absurd (hi.symm.trans hwaiter) (Option.some_ne_none _).symm
  | some waiter =>
      have hafter : past.after (.drop i) = { past with dropped := i :: past.dropped } := by
        refine if_pos ?_
        rw [h.length_futures]
        exact (List.getElem?_eq_some_iff.mp hi).1
      obtain ⟨shared, hshared, hdrop, hsound⟩ := h.sound.dropWaiter_spec hi
      have hstep : (room.step (.drop i)).1 = (room.dropWaiter i).1 := rfl
      rw [hstep, hafter]
      rw [hdrop] at hsound ⊢
      refine h.changeWaiter { waiter with listener := none, dropped := true } (i :: past.dropped)
        hi rfl hshared hsound (decide_eq_true List.mem_cons_self).symm (fun j hj => ?_)
        (fun _ => ?_) fun j hj => and_iff_right hj
      · rw [List.mem_cons]
        exact or_iff_right hj
      · exact iff_of_false Bool.false_ne_true fun hawaits => hawaits.1 rfl

/-- Every operation keeps the room in line with what was done. -/
theorem step [LawfulNotifier ν] (h : Matches past awaits room) (action : Action) :
    Matches (past.after action) (awaitsAfter awaits action (room.step action).2.1)
      (room.step action).1 := by
  cases action with
  | fresh =>
      rw [awaitsAfter_eq (by simp) (by simp)]
      exact h.freshToken
  | clone token =>
      rw [awaitsAfter_eq (by simp) (by simp)]
      exact h.cloneToken token
  | cancel token =>
      rw [awaitsAfter_eq (by simp) (by simp)]
      exact h.cancelToken token
  | isCancelled token =>
      rw [awaitsAfter_eq (by simp) (by simp)]
      exact h
  | wait token =>
      rw [awaitsAfter_eq (by simp) (by simp)]
      exact h.newWaiter token
  | poll i => exact h.pollFuture i
  | drop i => exact h.dropFuture i

/-! ## Answers and wakes -/

/-- The flag of a token says whether its family was cancelled. -/
theorem answer_isCancelled (h : Matches past awaits room) (token : Nat) :
    (room.step (.isCancelled token)).2 =
      (.flag (decide (past.familyOf token ∈ past.cancelled)), []) := by
  rw [← h.familyOf_eq, ← h.cancelled]
  rfl

/-- A cancellation that finds the flag set does nothing. -/
theorem cancel_of_mem (h : Matches past awaits room) {token : Nat}
    (hmem : past.familyOf token ∈ past.cancelled) :
    (room.step (.cancel token)).2 = (.flag false, []) := by
  have hflag := (h.cancelled _).trans (decide_eq_true hmem)
  rw [← h.familyOf_eq] at hflag
  rw [Room.step, Sound.cancelFamily_of_cancelled hflag]

/-- A cancellation that sets the flag wakes those who await it, each once. -/
theorem cancel_of_not_mem [LawfulNotifier ν] (h : Matches past awaits room) {token : Nat}
    (hnot : past.familyOf token ∉ past.cancelled) :
    (room.step (.cancel token)).2.1 = .flag true ∧
      (room.step (.cancel token)).2.2.Nodup ∧
      ∀ i, i ∈ (room.step (.cancel token)).2.2 ↔
        past.futures[i]? = some (past.familyOf token) ∧ awaits i := by
  have hflag := (h.cancelled _).trans (decide_eq_false hnot)
  rw [← h.familyOf_eq] at hflag ⊢
  obtain ⟨shared, woken, -, hcancel, -, hnodup, hwoken⟩ :=
    h.sound.cancelFamily_of_live (h.sound.familyOf_lt token) hflag
  rw [Room.step, hcancel]
  refine ⟨rfl, hnodup, fun i => (hwoken i).trans ?_⟩
  rw [h.futures_getElem?, Option.map_eq_some_iff]
  constructor
  · rintro ⟨key, waiter, hi, hfamily, hkey⟩
    have hawaits := h.awaits i waiter hi (hfamily ▸ hflag)
    exact ⟨⟨waiter, hi, hfamily⟩, hawaits.mp (by rw [hkey]; rfl)⟩
  · rintro ⟨⟨waiter, hi, hfamily⟩, hawaits⟩
    have hsome := (h.awaits i waiter hi (hfamily ▸ hflag)).mpr hawaits
    obtain ⟨key, hkey⟩ := Option.isSome_iff_exists.mp hsome
    exact ⟨key, waiter, hi, hfamily, hkey⟩

/-- Nothing but the first cancellation of a family wakes anybody. -/
theorem woken_eq_nil [LawfulNotifier ν] (h : Matches past awaits room) {action : Action}
    (hcancelled : ∀ token, action = .cancel token → past.familyOf token ∈ past.cancelled) :
    (room.step action).2.2 = [] := by
  cases action with
  | cancel token => rw [h.cancel_of_mem (hcancelled token rfl)]
  | drop i =>
      cases hi : room.waiters[i]? with
      | none => simp [Room.step, dropWaiter, hi]
      | some waiter =>
          obtain ⟨shared, -, hdrop, -⟩ := h.sound.dropWaiter_spec hi
          rw [Room.step, hdrop]
  | fresh => rfl
  | clone token => rfl
  | isCancelled token => rfl
  | wait token => rfl
  | poll i => rfl

/-- No flag changes but by a cancellation of its own family. -/
theorem cancelled_step [LawfulNotifier ν] (h : Matches past awaits room) {action : Action}
    {family : Nat} (hother : ∀ token, action = .cancel token → past.familyOf token ≠ family) :
    (room.step action).1.cancelled family = room.cancelled family := by
  rw [(h.step action).cancelled, h.cancelled]
  cases action with
  | cancel token =>
      exact decide_eq_decide.mpr (List.mem_cons.trans (or_iff_right (hother token rfl).symm))
  | drop i =>
      rw [History.after]
      split <;> rfl
  | fresh => rfl
  | clone token => rfl
  | isCancelled token => rfl
  | wait token => rfl
  | poll i => rfl

end Matches

/-! ## Whole runs -/

section

variable (ν : Type) [Notifier ν]

/-- The latest poll of a future was answered with "pending", and it was not dropped since. -/
def Awaits (actions : List Action) (i : Nat) : Prop :=
  ∃ earlier later, actions = earlier ++ .poll i :: later ∧
    ((({} : Room ν).run earlier).1.step (.poll i)).2.1 = .pending ∧
    .poll i ∉ later ∧ .drop i ∉ later

/-- Nothing is awaited before anything was done. -/
theorem awaits_nil : Awaits ν [] = fun _ => False := by
  funext i
  refine eq_false ?_
  rintro ⟨earlier, later, hnil, -⟩
  exact List.append_ne_nil_of_right_ne_nil earlier (List.cons_ne_nil _ later) hnil.symm

/-- Only a poll and a drop of the future itself matter to whether it awaits. -/
theorem awaits_concat (actions : List Action) (action : Action) :
    Awaits ν (actions ++ [action]) = awaitsAfter (Awaits ν actions) action
      ((({} : Room ν).run actions).1.step action).2.1 := by
  funext i
  refine propext ⟨?_, ?_⟩
  · rintro ⟨earlier, later, hsplit, hpending, hpoll, hdrop⟩
    rcases List.eq_nil_or_concat later with rfl | ⟨later, last, rfl⟩
    · obtain ⟨rfl, hlast⟩ := List.append_inj' hsplit rfl
      obtain rfl := List.singleton_inj.mp hlast
      exact .inl ⟨rfl, hpending⟩
    · rw [List.concat_eq_append, ← List.cons_append, ← List.append_assoc] at hsplit
      obtain ⟨rfl, hlast⟩ := List.append_inj' hsplit rfl
      obtain rfl := List.singleton_inj.mp hlast
      rw [List.concat_eq_append, List.mem_append, List.mem_singleton, not_or] at hpoll hdrop
      exact .inr ⟨Ne.symm hpoll.2, Ne.symm hdrop.2, earlier, later, rfl, hpending, hpoll.1, hdrop.1⟩
  · rintro (⟨rfl, hpending⟩ | ⟨hpoll, hdrop, earlier, later, rfl, hpending, hnopoll, hnodrop⟩)
    · exact ⟨actions, [], rfl, hpending, List.not_mem_nil, List.not_mem_nil⟩
    · refine ⟨earlier, later ++ [action], by simp, hpending, ?_, ?_⟩
      · simpa [hnopoll] using Ne.symm hpoll
      · simpa [hnodrop] using Ne.symm hdrop

/-- After every series of operations the room is in line with what was done. -/
theorem matches_run [LawfulNotifier ν] (actions : List Action) :
    Matches (history actions) (Awaits ν actions) (({} : Room ν).run actions).1 := by
  induction actions using List.reverseRecOn with
  | nil =>
      rw [awaits_nil]
      exact .start
  | append_singleton actions action ih =>
      rw [history_concat, awaits_concat, run_append]
      exact ih.step action

/-- What every operation answers and whom it wakes, after any series of operations. The flag of a
token says whether its family was cancelled; the cancellation that sets it answers so, and wakes
exactly the futures of the family that await it, each once; a poll is ready once the family was
cancelled, and pending before; nothing else wakes anybody, and no flag changes but by a cancellation
of its own family. -/
theorem waiters_are_woken_once [LawfulNotifier ν] (actions : List Action) :
    let room := (({} : Room ν).run actions).1
    let past := history actions
    (∀ token, (room.step (.isCancelled token)).2 =
      (.flag (decide (past.familyOf token ∈ past.cancelled)), [])) ∧
    (∀ token, (room.step (.cancel token)).2.1 =
      .flag (decide (past.familyOf token ∉ past.cancelled))) ∧
    (∀ i family, past.futures[i]? = some family → i ∉ past.dropped →
      (room.step (.poll i)).2.1 = if family ∈ past.cancelled then .ready else .pending) ∧
    (∀ token, past.familyOf token ∉ past.cancelled →
      (room.step (.cancel token)).2.2.Nodup ∧
      ∀ i, i ∈ (room.step (.cancel token)).2.2 ↔
        past.futures[i]? = some (past.familyOf token) ∧ Awaits ν actions i) ∧
    (∀ action, (∀ token, action = .cancel token → past.familyOf token ∈ past.cancelled) →
      (room.step action).2.2 = []) ∧
    ∀ action family, (∀ token, action = .cancel token → past.familyOf token ≠ family) →
      (room.step action).1.cancelled family = room.cancelled family := by
  intro room past
  have h : Matches past (Awaits ν actions) room := matches_run ν actions
  refine ⟨h.answer_isCancelled, fun token => ?_, fun i family hi hkept => ?_,
    fun token hnot => (h.cancel_of_not_mem hnot).2, fun action => h.woken_eq_nil,
    fun action family => h.cancelled_step⟩
  · by_cases hmem : past.familyOf token ∈ past.cancelled
    · rw [h.cancel_of_mem hmem, decide_eq_false (not_not_intro hmem)]
    · rw [(h.cancel_of_not_mem hmem).1, decide_eq_true hmem]
  · rw [h.answer_poll, hi]
    exact if_neg hkept

end

/-- Four futures of two families, polled twice, once and dropped, not at all, and in the other
family: a clone wakes the first one only, and then everything is as the theorem says. -/
theorem waiters_are_woken_once_by_clone :
    let actions : List Action := [.wait 0, .wait 0, .wait 0, .fresh, .clone 0, .wait 1, .poll 0,
      .poll 0, .poll 1, .poll 3, .drop 1]
    let room := (({} : TokenRoom).run actions).1
    (room.step (.cancel 2)).2 = (.flag true, [0]) ∧
    (room.step (.cancel 2)).2.2.Nodup ∧
    (∀ i, i ∈ (room.step (.cancel 2)).2.2 ↔
      (history actions).futures[i]? = some 0 ∧ Awaits Listeners actions i) ∧
    (room.step (.poll 2)).2.1 = .pending ∧
    (room.step (.drop 0)).2.2 = [] ∧
    (room.step (.cancel 1)).1.cancelled 0 = false := by
  intro actions room
  obtain ⟨-, -, hpoll, hcancel, hquiet, hothers⟩ := waiters_are_woken_once Listeners actions
  obtain ⟨hnodup, hwoken⟩ := hcancel 2 (by decide)
  exact ⟨by decide, hnodup, hwoken, hpoll 2 0 (by decide) (by decide),
    hquiet (.drop 0) (fun _ h => nomatch h),
    (hothers (.cancel 1) 0 fun _ h => by cases h; decide).trans (by decide)⟩

end Backpressure.Room
