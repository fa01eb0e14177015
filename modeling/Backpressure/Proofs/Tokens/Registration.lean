import Mathlib.Data.List.Nodup
import Backpressure.Token

/-!
# Who is registered at a family of tokens

As long as a family is not cancelled, exactly its futures that hold a listener are registered at its
notifier, each with itself as the waker. Once it is cancelled nobody is, and nobody registers again.

Main results:

- Theorem `Family.poll_spec` says what a poll leaves behind at the notifier of a live family.
- Definition `Room.Sound`: the futures and the notifiers of their families agree on who is
  registered. Every operation keeps the agreement.
- Theorem `Sound.cancelFamily_of_live` says whom the first cancellation of a family wakes, and
  theorem `Sound.dropWaiter_spec` that a drop wakes nobody.
-/

namespace Backpressure

namespace Family

variable {ν : Type} [Notifier ν]

/-- A poll of a live family is pending, with a listener of which the notifier knows the waker. A
future that had a listener keeps it, and one that had none gets a new one. -/
theorem poll_spec [LawfulNotifier ν] {family : Family ν} (hlive : family.cancelled = false)
    {listener : Option Nat} (waker : Nat)
    (hwaits : ∀ key, listener = some key →
      ∃ earlier, (key, earlier) ∈ Notifier.waiting family.notifier) :
    ∃ (key : Nat) (after : Family ν),
      family.poll listener waker = (.pending, some key, after) ∧
      after.cancelled = false ∧
      (listener = some key ∨
        listener = none ∧ ∀ earlier, (key, earlier) ∉ Notifier.waiting family.notifier) ∧
      ∀ entry, entry ∈ Notifier.waiting after.notifier ↔
        (entry.1 ≠ key ∧ entry ∈ Notifier.waiting family.notifier) ∨ entry = (key, some waker) := by
  cases listener with
  | some key =>
      obtain ⟨earlier, hmem⟩ := hwaits key rfl
      have hpoll : family.poll (some key) waker =
          (.pending, some key,
            { family with notifier := (Notifier.poll family.notifier key waker).2 }) := by
        have hround : family.round (some key) waker = (.pending, some key,
            { family with notifier := (Notifier.poll family.notifier key waker).2 }) := by
          simp [round, hlive, LawfulNotifier.poll_eq_false waker hmem]
        rw [poll, rounds, hround]
      exact ⟨key, _, hpoll, hlive, .inl rfl,
        fun entry => LawfulNotifier.mem_waiting_poll waker entry hmem⟩
  | none =>
      -- The first round registers, and the second one asks the new listener.
      let key := (Notifier.listen family.notifier).1
      let listening := (Notifier.listen family.notifier).2
      have hmem : (key, none) ∈ Notifier.waiting listening :=
        (LawfulNotifier.mem_waiting_listen _ _).mpr (.inr rfl)
      have hnew : ∀ earlier, (key, earlier) ∉ Notifier.waiting family.notifier :=
        LawfulNotifier.listen_not_mem family.notifier
      have hpoll : family.poll none waker =
          (.pending, some key,
            { family with notifier := (Notifier.poll listening key waker).2 }) := by
        have hfirst : family.round none waker =
            (.again, some key, { family with notifier := listening }) := by
          simp [round, hlive, key, listening]
        have hsecond : Family.round { family with notifier := listening } (some key) waker =
            (.pending, some key,
              { family with notifier := (Notifier.poll listening key waker).2 }) := by
          simp [round, hlive, LawfulNotifier.poll_eq_false waker hmem]
        rw [poll, rounds, hfirst]
        simp only [rounds, hsecond]
      refine ⟨key, _, hpoll, hlive, .inr ⟨rfl, hnew⟩, fun entry => ?_⟩
      rw [LawfulNotifier.mem_waiting_poll waker entry hmem, LawfulNotifier.mem_waiting_listen]
      refine or_congr (and_congr_right fun hne => or_iff_left fun heq => ?_) Iff.rfl
      exact hne (congrArg Prod.fst heq)

/-- Dropping a listener that waits wakes nobody and leaves the others waiting. -/
theorem release_of_waiting [LawfulNotifier ν] {family : Family ν} {listener : Option Nat}
    (hwaits : ∀ key, listener = some key →
      ∃ earlier, (key, earlier) ∈ Notifier.waiting family.notifier) :
    (family.release listener).1 = [] ∧ ∀ entry,
      entry ∈ Notifier.waiting (family.release listener).2.notifier ↔
        listener ≠ some entry.1 ∧ entry ∈ Notifier.waiting family.notifier := by
  cases listener with
  | none => simp [release]
  | some key =>
      obtain ⟨earlier, hmem⟩ := hwaits key rfl
      refine ⟨LawfulNotifier.drop_eq_nil hmem, fun entry => ?_⟩
      rw [ne_eq, Option.some.injEq, eq_comm]
      exact LawfulNotifier.mem_waiting_drop entry hmem

/-- Dropping a listener where nobody waits wakes nobody. -/
theorem release_of_waiting_eq_nil [LawfulNotifier ν] {family : Family ν}
    (hnobody : Notifier.waiting family.notifier = []) (listener : Option Nat) :
    (family.release listener).1 = [] ∧
      Notifier.waiting (family.release listener).2.notifier = [] := by
  cases listener with
  | none => exact ⟨rfl, hnobody⟩
  | some key => exact LawfulNotifier.drop_of_waiting_eq_nil key hnobody

/-- Dropping a listener leaves the flag alone. -/
@[simp] theorem cancelled_release (family : Family ν) (listener : Option Nat) :
    (family.release listener).2.cancelled = family.cancelled := by
  cases listener <;> rfl

end Family

namespace Room

open TokenRoom (Action Answer)

variable {ν : Type} [Notifier ν]

/-! ## The invariant -/

/-- A future of a family holds the listener with a key. -/
def Registered (room : Room ν) (family key i : Nat) : Prop :=
  ∃ waiter, room.waiters[i]? = some waiter ∧ waiter.family = family ∧ waiter.listener = some key

/-- A future that is registered is of the family, and holds the listener. -/
theorem Registered.of_waiter {room : Room ν} {family key i : Nat} {waiter : Waiter}
    (h : room.Registered family key i) (hi : room.waiters[i]? = some waiter) :
    waiter.family = family ∧ waiter.listener = some key := by
  obtain ⟨other, hother, hfamily, hkey⟩ := h
  obtain rfl := Option.some.inj (hi.symm.trans hother)
  exact ⟨hfamily, hkey⟩

/-- Every token and every future has a family, a future that was dropped holds no listener, and the
listeners that wait at the notifier of a family are the ones that its futures hold, unless the
family was cancelled. -/
structure Sound (room : Room ν) : Prop where
  pos : 0 < room.families.length
  tokens_lt : ∀ family ∈ room.tokens, family < room.families.length
  waiters_lt : ∀ waiter ∈ room.waiters, waiter.family < room.families.length
  dropped : ∀ waiter ∈ room.waiters, waiter.dropped = true → waiter.listener = none
  live : ∀ family, room.cancelled family = false → ∀ entry,
    entry ∈ Notifier.waiting (room.shared family).notifier ↔
      ∃ i, entry.2 = some i ∧ room.Registered family entry.1 i
  ended : ∀ family, room.cancelled family = true →
    Notifier.waiting (room.shared family).notifier = []

/-- The family of a token is one of the families. -/
theorem Sound.familyOf_lt {room : Room ν} (h : Sound room) (token : Nat) :
    room.familyOf token < room.families.length := by
  rw [familyOf, List.getD_eq_getElem?_getD]
  cases htoken : room.tokens[token]? with
  | none => exact h.pos
  | some family => exact h.tokens_lt family (List.mem_of_getElem? htoken)

/-- Putting back what a family shares changes nothing. -/
theorem set_shared_self (room : Room ν) (family : Nat) :
    room.families.set family (room.shared family) = room.families := by
  rw [Room.shared, List.getD_eq_getElem?_getD]
  cases hfamily : room.families[family]? with
  | none => exact List.set_eq_of_length_le (List.getElem?_eq_none_iff.mp hfamily)
  | some shared =>
      obtain ⟨hlt, rfl⟩ := List.getElem?_eq_some_iff.mp hfamily
      exact List.set_getElem_self hlt

/-- What a family shares after one of the families changed. -/
theorem shared_set {room : Room ν} {changed : Nat} (hlt : changed < room.families.length)
    (shared : Family ν) (waiters : List Waiter) (family : Nat) :
    ({ room with families := room.families.set changed shared, waiters } : Room ν).shared family =
      if family = changed then shared else room.shared family := by
  simp only [Room.shared, List.getD_eq_getElem?_getD]
  by_cases heq : family = changed
  · rw [if_pos heq, heq, List.getElem?_set_self hlt]
    rfl
  · rw [if_neg heq, List.getElem?_set_ne (Ne.symm heq)]

/-- The futures of a family that hold a listener, after one future changed. -/
theorem registered_set {room : Room ν} {i : Nat} {waiter changed : Waiter}
    (hi : room.waiters[i]? = some waiter) (hfamily : changed.family = waiter.family)
    (families : List (Family ν)) (family key j : Nat) :
    ({ room with families, waiters := room.waiters.set i changed } : Room ν).Registered
        family key j ↔
      (j ≠ i ∧ room.Registered family key j) ∨
        (j = i ∧ waiter.family = family ∧ changed.listener = some key) := by
  have hlt := (List.getElem?_eq_some_iff.mp hi).1
  unfold Registered
  by_cases heq : j = i
  · subst heq
    rw [List.getElem?_set_self hlt]
    constructor
    · rintro ⟨_, hchanged, hown, hkey⟩
      obtain rfl := Option.some.inj hchanged
      exact .inr ⟨rfl, hfamily ▸ hown, hkey⟩
    · rintro (⟨hne, -⟩ | ⟨-, hown, hkey⟩)
      · exact absurd rfl hne
      · exact ⟨changed, rfl, hfamily.trans hown, hkey⟩
  · rw [List.getElem?_set_ne (Ne.symm heq)]
    simp [heq]

namespace Sound

variable {room : Room ν}

/-- A program starts with one family at which nobody is registered. -/
theorem fresh [LawfulNotifier ν] : Sound ({} : Room ν) where
  pos := Nat.one_pos
  tokens_lt family hfamily := by
    rw [List.mem_singleton.mp hfamily]
    exact Nat.one_pos
  waiters_lt _ hwaiter := absurd hwaiter List.not_mem_nil
  dropped _ hwaiter := absurd hwaiter List.not_mem_nil
  live family _ entry := by
    have hshared : ({} : Room ν).shared family = .fresh := by
      cases family <;> rfl
    rw [hshared, Family.fresh, LawfulNotifier.waiting_fresh]
    simp [Registered]
  ended family hended := by
    have hshared : ({} : Room ν).shared family = .fresh := by
      cases family <;> rfl
    rw [cancelled, hshared] at hended
    exact absurd hended Bool.false_ne_true

/-- A future and its family change together: the others stay as they are, and what waits for this
future is what it holds. -/
theorem set (h : Sound room) {i : Nat} {waiter changed : Waiter} {shared : Family ν}
    (hi : room.waiters[i]? = some waiter) (hfamily : changed.family = waiter.family)
    (hcancelled : shared.cancelled = room.cancelled waiter.family)
    (hdropped : changed.dropped = true → changed.listener = none)
    (hlive : room.cancelled waiter.family = false → ∀ entry,
      entry ∈ Notifier.waiting shared.notifier ↔
        (∃ j, j ≠ i ∧ entry.2 = some j ∧ room.Registered waiter.family entry.1 j) ∨
          (entry.2 = some i ∧ changed.listener = some entry.1))
    (hended : room.cancelled waiter.family = true → Notifier.waiting shared.notifier = []) :
    Sound { room with
      families := room.families.set waiter.family shared
      waiters := room.waiters.set i changed } := by
  have hwaiter := List.mem_of_getElem? hi
  have hlt := h.waiters_lt waiter hwaiter
  have hshared := shared_set hlt shared (room.waiters.set i changed)
  have hlength : (room.families.set waiter.family shared).length = room.families.length :=
    List.length_set
  refine ⟨hlength ▸ h.pos, hlength ▸ h.tokens_lt, fun other hother => ?_, fun other hother => ?_,
    fun family hfalse entry => ?_, fun family htrue => ?_⟩
  · rw [hlength]
    rcases List.mem_or_eq_of_mem_set hother with hother | rfl
    · exact h.waiters_lt other hother
    · rw [hfamily]
      exact hlt
  · rcases List.mem_or_eq_of_mem_set hother with hother | rfl
    · exact h.dropped other hother
    · exact hdropped
  · rw [Room.cancelled, hshared] at hfalse
    rw [hshared]
    simp only [registered_set hi hfamily]
    by_cases heq : family = waiter.family
    · rw [if_pos heq] at hfalse ⊢
      rw [hlive (hcancelled ▸ hfalse), heq]
      constructor
      · rintro (⟨j, hne, hwaker, hheld⟩ | ⟨hwaker, hkey⟩)
        · exact ⟨j, hwaker, .inl ⟨hne, hheld⟩⟩
        · exact ⟨i, hwaker, .inr ⟨rfl, rfl, hkey⟩⟩
      · rintro ⟨j, hwaker, ⟨hne, hheld⟩ | ⟨rfl, -, hkey⟩⟩
        · exact .inl ⟨j, hne, hwaker, hheld⟩
        · exact .inr ⟨hwaker, hkey⟩
    · rw [if_neg heq] at hfalse ⊢
      rw [h.live family hfalse]
      -- The future that changed is of another family.
      refine exists_congr fun j => and_congr_right fun _ => ?_
      constructor
      · intro hheld
        refine .inl ⟨?_, hheld⟩
        rintro rfl
        exact heq (hheld.of_waiter hi).1.symm
      · rintro (⟨-, hheld⟩ | ⟨-, hown, -⟩)
        · exact hheld
        · exact absurd hown.symm heq
  · rw [Room.cancelled, hshared] at htrue
    rw [hshared]
    by_cases heq : family = waiter.family
    · rw [if_pos heq] at htrue ⊢
      exact hended (hcancelled ▸ htrue)
    · rw [if_neg heq] at htrue ⊢
      exact h.ended family htrue

/-! ## Polls -/

/-- A listener that a future of a live family holds waits with the future as its waker. -/
theorem mem_waiting (h : Sound room) {i key : Nat} {waiter : Waiter}
    (hi : room.waiters[i]? = some waiter) (hkey : waiter.listener = some key)
    (hlive : room.cancelled waiter.family = false) :
    (key, some i) ∈ Notifier.waiting (room.shared waiter.family).notifier :=
  (h.live _ hlive _).mpr ⟨i, rfl, waiter, hi, rfl, hkey⟩

/-- Two futures of a live family hold different listeners. -/
theorem registered_unique [LawfulNotifier ν] (h : Sound room) {family key i j : Nat}
    (hlive : room.cancelled family = false) (hi : room.Registered family key i)
    (hj : room.Registered family key j) : i = j := by
  have hmem : ∀ k, room.Registered family key k →
      (key, some k) ∈ Notifier.waiting (room.shared family).notifier :=
    fun k hk => (h.live family hlive _).mpr ⟨k, rfl, hk⟩
  have heq := List.inj_on_of_nodup_map (LawfulNotifier.nodup_keys (room.shared family).notifier)
    (hmem i hi) (hmem j hj) rfl
  exact Option.some.inj (congrArg Prod.snd heq)

/-- A poll of a live family is pending, and the future holds a listener from then on. -/
theorem pollWaiter_of_live [LawfulNotifier ν] (h : Sound room) {i : Nat} {waiter : Waiter}
    (hi : room.waiters[i]? = some waiter) (hkept : waiter.dropped = false)
    (hlive : room.cancelled waiter.family = false) :
    ∃ (key : Nat) (shared : Family ν), shared.cancelled = false ∧
      room.pollWaiter i =
        ({ room with
            families := room.families.set waiter.family shared
            waiters := room.waiters.set i { waiter with listener := some key } },
          .pending) ∧
      Sound (room.pollWaiter i).1 := by
  obtain ⟨key, shared, hpoll, hshared, hkey, hwaiting⟩ := Family.poll_spec hlive i
    fun key hkey => ⟨some i, h.mem_waiting hi hkey hlive⟩
  have hpolled : room.pollWaiter i =
      ({ room with
          families := room.families.set waiter.family shared
          waiters := room.waiters.set i { waiter with listener := some key } },
        .pending) := by
    simp [pollWaiter, hi, hkept, hpoll, answerOf]
  refine ⟨key, shared, hshared, hpolled, ?_⟩
  rw [hpolled]
  refine h.set hi rfl (hshared.trans hlive.symm) (fun hdropped => ?_) (fun _ entry => ?_)
    (fun hended => ?_)
  · exact absurd (hkept.symm.trans hdropped) Bool.false_ne_true
  · rw [hwaiting, h.live _ hlive]
    constructor
    · rintro (⟨hne, j, hwaker, hheld⟩ | rfl)
      · refine .inl ⟨j, ?_, hwaker, hheld⟩
        -- The future itself held no other listener than the one that was polled.
        rintro rfl
        obtain ⟨-, hold⟩ := hheld.of_waiter hi
        rcases hkey with hkey | ⟨hnone, -⟩
        · exact hne (Option.some.inj (hold.symm.trans hkey))
        · exact Option.some_ne_none _ (hold.symm.trans hnone)
      · exact .inr ⟨rfl, rfl⟩
    · rintro (⟨j, hne, hwaker, hheld⟩ | ⟨hwaker, hown⟩)
      · refine .inl ⟨?_, j, hwaker, hheld⟩
        intro heq
        rw [heq] at hheld
        rcases hkey with hkey | ⟨-, hnew⟩
        · exact hne (h.registered_unique hlive hheld ⟨waiter, hi, rfl, hkey⟩)
        · exact hnew _ ((h.live _ hlive _).mpr ⟨j, rfl, hheld⟩)
      · exact .inr (Prod.ext (Option.some.inj hown).symm hwaker)
  · exact absurd (hlive.symm.trans hended) Bool.false_ne_true

/-- A poll of a cancelled family is ready and changes nothing. -/
theorem pollWaiter_of_cancelled {i : Nat} {waiter : Waiter}
    (hi : room.waiters[i]? = some waiter) (hkept : waiter.dropped = false)
    (hcancelled : room.cancelled waiter.family = true) :
    room.pollWaiter i = (room, .ready) := by
  have hwaiters : room.waiters.set i waiter = room.waiters := by
    obtain ⟨hlt, rfl⟩ := List.getElem?_eq_some_iff.mp hi
    exact List.set_getElem_self hlt
  have hpoll : (room.shared waiter.family).poll waiter.listener i =
      (.ready, waiter.listener, room.shared waiter.family) :=
    Family.poll_of_cancelled hcancelled waiter.listener i
  rw [pollWaiter, hi]
  dsimp only
  rw [if_neg (by simp [hkept]), hpoll, set_shared_self]
  dsimp only
  rw [hwaiters]
  rfl

/-- A poll of a future that does not exist any more changes nothing. -/
theorem pollWaiter_of_dropped {i : Nat}
    (hi : ∀ waiter, room.waiters[i]? = some waiter → waiter.dropped = true) :
    room.pollWaiter i = (room, .dropped) := by
  unfold pollWaiter
  split
  next waiter hwaiter => rw [if_pos (hi waiter hwaiter)]
  next => rfl

/-- A poll that finds no future that was not dropped and is of a live family changes nothing, and is
not pending. -/
theorem pollWaiter_of_settled {i : Nat}
    (hi : ∀ waiter, room.waiters[i]? = some waiter → waiter.dropped = false →
      room.cancelled waiter.family = true) :
    (room.pollWaiter i).1 = room ∧ (room.pollWaiter i).2 ≠ .pending := by
  by_cases hgone : ∀ waiter, room.waiters[i]? = some waiter → waiter.dropped = true
  · rw [pollWaiter_of_dropped hgone]
    exact ⟨rfl, by simp⟩
  · push Not at hgone
    obtain ⟨waiter, hwaiter, hkept⟩ := hgone
    have hkept := Bool.eq_false_iff.mpr hkept
    rw [pollWaiter_of_cancelled hwaiter hkept (hi waiter hwaiter hkept)]
    exact ⟨rfl, by simp⟩

/-! ## Drops -/

/-- A future that is dropped wakes nobody, and holds no listener any more. -/
theorem dropWaiter_spec [LawfulNotifier ν] (h : Sound room) {i : Nat} {waiter : Waiter}
    (hi : room.waiters[i]? = some waiter) :
    ∃ shared : Family ν, shared.cancelled = room.cancelled waiter.family ∧
      room.dropWaiter i =
        ({ room with
            families := room.families.set waiter.family shared
            waiters := room.waiters.set i { waiter with listener := none, dropped := true } },
          []) ∧
      Sound (room.dropWaiter i).1 := by
  have hwoken : ((room.shared waiter.family).release waiter.listener).1 = [] := by
    cases hflag : room.cancelled waiter.family with
    | false =>
        exact (Family.release_of_waiting fun key hkey =>
          ⟨some i, h.mem_waiting hi hkey hflag⟩).1
    | true => exact (Family.release_of_waiting_eq_nil (h.ended _ hflag) _).1
  have hdrop : room.dropWaiter i =
      ({ room with
          families := room.families.set waiter.family
            ((room.shared waiter.family).release waiter.listener).2
          waiters := room.waiters.set i { waiter with listener := none, dropped := true } },
        []) := by
    rw [dropWaiter, hi]
    exact Prod.ext rfl hwoken
  refine ⟨_, Family.cancelled_release _ _, hdrop, ?_⟩
  rw [hdrop]
  refine h.set hi rfl (Family.cancelled_release _ _) (fun _ => rfl) (fun hflag entry => ?_)
    (fun hflag => (Family.release_of_waiting_eq_nil (h.ended _ hflag) _).2)
  have hwaiting := (Family.release_of_waiting fun key hkey =>
    ⟨some i, h.mem_waiting hi hkey hflag⟩).2 entry
  rw [hwaiting, h.live _ hflag]
  constructor
  · rintro ⟨hne, j, hwaker, hheld⟩
    refine .inl ⟨j, ?_, hwaker, hheld⟩
    rintro rfl
    exact hne (hheld.of_waiter hi).2
  · rintro (⟨j, hne, hwaker, hheld⟩ | ⟨-, hnone⟩)
    · refine ⟨fun hkey => hne ?_, j, hwaker, hheld⟩
      exact h.registered_unique hflag hheld ⟨waiter, hi, rfl, hkey⟩
    · exact absurd hnone.symm (Option.some_ne_none _)

/-! ## Cancellations -/

/-- The first cancellation of a family wakes its futures that hold a listener, each once, and leaves
nobody registered. -/
theorem cancelFamily_of_live [LawfulNotifier ν] (h : Sound room) {family : Nat}
    (hlt : family < room.families.length) (hlive : room.cancelled family = false) :
    ∃ (shared : Family ν) (woken : List Nat), shared.cancelled = true ∧
      room.cancelFamily family =
        ({ room with families := room.families.set family shared }, true, woken) ∧
      Sound (room.cancelFamily family).1 ∧
      woken.Nodup ∧ ∀ i, i ∈ woken ↔ ∃ key, room.Registered family key i := by
  have hperm := LawfulNotifier.notifyAll_perm (room.shared family).notifier
  have hnobody := LawfulNotifier.waiting_notifyAll (room.shared family).notifier
  obtain ⟨⟨woken, notifier⟩, hnotified⟩ :
      ∃ notified, Notifier.notifyAll (room.shared family).notifier = notified := ⟨_, rfl⟩
  rw [hnotified] at hperm hnobody
  have hflag : (room.shared family).cancelled = false := hlive
  have hcancel : room.cancelFamily family =
      ({ room with families := room.families.set family { cancelled := true, notifier } },
        true, woken) := by
    simp [cancelFamily, Family.cancel, hflag, hnotified]
  refine ⟨_, woken, rfl, hcancel, ?_, ?_, fun i => ?_⟩
  · rw [hcancel]
    have hshared := shared_set hlt { cancelled := true, notifier } room.waiters
    have hlength : (room.families.set family { cancelled := true, notifier }).length =
        room.families.length := List.length_set
    refine ⟨hlength ▸ h.pos, hlength ▸ h.tokens_lt, hlength ▸ h.waiters_lt, h.dropped,
      fun other hother entry => ?_, fun other hother => ?_⟩
    · rw [Room.cancelled, hshared] at hother
      rw [hshared]
      split at hother
      · exact absurd hother.symm Bool.false_ne_true
      next hne =>
        rw [if_neg hne, h.live other hother]
        rfl
    · rw [Room.cancelled, hshared] at hother
      rw [hshared]
      split
      · exact hnobody
      next hne =>
        rw [if_neg hne] at hother
        exact h.ended other hother
  · rw [hperm.nodup_iff]
    have hnodup := LawfulNotifier.nodup_keys (room.shared family).notifier
    refine List.pairwise_filterMap.mpr
      ((List.pairwise_map.mp hnodup).imp_of_mem fun {first second} hfirst hsecond hne => ?_)
    intro i hi j hj hij
    -- A future holds one listener only, so that two entries with its waker have one key.
    obtain ⟨_, hwaker, hheld⟩ := (h.live family hlive first).mp hfirst
    obtain ⟨_, hwaker', waiter, hfound, -, hkey⟩ := (h.live family hlive second).mp hsecond
    obtain rfl := Option.some.inj (hi.symm.trans hwaker)
    obtain rfl := Option.some.inj (hj.symm.trans hwaker')
    rw [hij] at hheld
    exact hne (Option.some.inj ((hheld.of_waiter hfound).2.symm.trans hkey))
  · rw [hperm.mem_iff, List.mem_filterMap]
    constructor
    · rintro ⟨entry, hentry, hwaker⟩
      obtain ⟨j, hj, hheld⟩ := (h.live family hlive entry).mp hentry
      obtain rfl := Option.some.inj (hwaker.symm.trans hj)
      exact ⟨entry.1, hheld⟩
    · rintro ⟨key, hheld⟩
      exact ⟨(key, some i), (h.live family hlive _).mpr ⟨i, rfl, hheld⟩, rfl⟩

/-- Another cancellation changes nothing and wakes nobody. -/
theorem cancelFamily_of_cancelled {family : Nat} (hcancelled : room.cancelled family = true) :
    room.cancelFamily family = (room, false, []) := by
  have hcancel : (room.shared family).cancel = (false, [], room.shared family) :=
    Family.cancel_of_cancelled hcancelled
  rw [cancelFamily]
  simp only [hcancel, set_shared_self]

/-! ## New tokens and futures -/

/-- A new family changes nothing for the others. -/
theorem shared_concat (room : Room ν) (tokens : List Nat) (family : Nat) :
    ({ room with families := room.families ++ [.fresh], tokens } : Room ν).shared family =
      room.shared family := by
  simp only [Room.shared, List.getD_eq_getElem?_getD]
  rcases Nat.lt_trichotomy family room.families.length with hlt | rfl | hgt
  · rw [List.getElem?_append_left hlt]
  · rw [List.getElem?_concat_length, List.getElem?_eq_none (Nat.le_refl _)]
    rfl
  · rw [List.getElem?_eq_none (by rw [List.length_append]; exact hgt),
      List.getElem?_eq_none (Nat.le_of_lt hgt)]

/-- A token of a new family. -/
theorem freshToken (h : Sound room) : Sound { room with
    families := room.families ++ [.fresh]
    tokens := room.tokens ++ [room.families.length] } := by
  have hshared := shared_concat room (room.tokens ++ [room.families.length])
  have hlength : (room.families ++ [Family.fresh]).length = room.families.length + 1 :=
    List.length_append
  refine ⟨hlength ▸ Nat.succ_pos _, fun family hfamily => ?_, fun waiter hwaiter => ?_, h.dropped,
    fun family hlive => ?_, fun family hended => ?_⟩
  · rw [hlength]
    rcases List.mem_append.mp hfamily with hold | hnew
    · exact Nat.lt_succ_of_lt (h.tokens_lt family hold)
    · rw [List.mem_singleton.mp hnew]
      exact Nat.lt_succ_self _
  · rw [hlength]
    exact Nat.lt_succ_of_lt (h.waiters_lt waiter hwaiter)
  · rw [Room.cancelled, hshared] at hlive
    rw [hshared]
    exact h.live family hlive
  · rw [Room.cancelled, hshared] at hended
    rw [hshared]
    exact h.ended family hended

/-- A token of an old family. -/
theorem cloneToken (h : Sound room) (token : Nat) :
    Sound { room with tokens := room.tokens ++ [room.familyOf token] } := by
  refine ⟨h.pos, fun family hfamily => ?_, h.waiters_lt, h.dropped, h.live, h.ended⟩
  rcases List.mem_append.mp hfamily with hold | hnew
  · exact h.tokens_lt family hold
  · rw [List.mem_singleton.mp hnew]
    exact h.familyOf_lt token

/-- A future that is found after one was added is an old one or the new one. -/
theorem waiter_concat_iff {waiters : List Waiter} {new waiter : Waiter} {i : Nat} :
    (waiters ++ [new])[i]? = some waiter ↔
      waiters[i]? = some waiter ∨ (i = waiters.length ∧ new = waiter) := by
  rcases Nat.lt_trichotomy i waiters.length with hlt | rfl | hgt
  · rw [List.getElem?_append_left hlt]
    simp [Nat.ne_of_lt hlt]
  · simp
  · have hbeyond : (waiters ++ [new])[i]? = none :=
      List.getElem?_eq_none (by rw [List.length_append]; exact hgt)
    simp [hbeyond, Nat.le_of_lt hgt, Nat.ne_of_gt hgt]

/-- A future that was not polled yet. -/
theorem newWaiter (h : Sound room) (token : Nat) :
    Sound { room with waiters := room.waiters ++ [{ family := room.familyOf token }] } := by
  have hregistered : ∀ family key i,
      ({ room with waiters := room.waiters ++ [{ family := room.familyOf token }] } :
        Room ν).Registered family key i ↔ room.Registered family key i := by
    intro family key i
    refine exists_congr fun waiter => ?_
    rw [waiter_concat_iff]
    refine and_congr_left fun ⟨_, hkey⟩ => or_iff_left ?_
    rintro ⟨-, rfl⟩
    exact Option.some_ne_none _ hkey.symm
  refine ⟨h.pos, h.tokens_lt, fun waiter hwaiter => ?_, fun waiter hwaiter => ?_,
    fun family hlive entry => ?_, h.ended⟩
  · rcases List.mem_append.mp hwaiter with hold | hnew
    · exact h.waiters_lt waiter hold
    · rw [List.mem_singleton.mp hnew]
      exact h.familyOf_lt token
  · rcases List.mem_append.mp hwaiter with hold | hnew
    · exact h.dropped waiter hold
    · rw [List.mem_singleton.mp hnew]
      exact fun _ => rfl
  · simp only [hregistered]
    exact h.live family hlive entry

end Sound

end Room

end Backpressure
