/-!
# Notifiers

A notifier is what futures register at to be told that something has happened. Each registration is
a listener, known by its key. A listener that is polled before it was notified leaves a waker
behind, which is called when it is.

What a token needs of its notifier is stated for any of them. `Listeners` is the one that programs
run with: a list of all listeners in the order of their registration.

Main results:

- Theorem `mem_waiting` says which listeners of a list still wait, and with which waker.
- The last instance shows that a list of listeners obeys the laws of a notifier.
-/

namespace Backpressure

/-- The operations of a notifier. -/
class Notifier (ν : Type) where
  /-- A notifier at which nothing is registered. -/
  fresh : ν
  /-- Register a listener; the answer is its key. -/
  listen : ν → Nat × ν
  /-- Poll a listener: whether it was notified. If it was not, it keeps the waker, and forgets the
  one of an earlier poll. -/
  poll : ν → (key waker : Nat) → Bool × ν
  /-- Notify all listeners; the answer is the wakers that are called. -/
  notifyAll : ν → List Nat × ν
  /-- Drop a listener; the answer is the wakers that are called. -/
  drop : ν → (key : Nat) → List Nat × ν
  /-- The listeners that are registered and were not notified, each with the waker of its latest
  poll. Programs do not read it. -/
  waiting : ν → List (Nat × Option Nat)

/-- What is relied on: notifying all calls the waker of every waiting listener once and leaves none
waiting, a listener is registered from the moment it is made until it is dropped or notified, and
dropping one that waits calls no waker. A notified listener that is dropped may pass its
notification on, but only to one that waits. -/
class LawfulNotifier (ν : Type) [Notifier ν] : Prop where
  nodup_keys : ∀ notifier : ν, ((Notifier.waiting notifier).map Prod.fst).Nodup
  waiting_fresh : Notifier.waiting (Notifier.fresh : ν) = []
  listen_not_mem : ∀ (notifier : ν) (waker : Option Nat),
    ((Notifier.listen notifier).1, waker) ∉ Notifier.waiting notifier
  mem_waiting_listen : ∀ (notifier : ν) (entry : Nat × Option Nat),
    entry ∈ Notifier.waiting (Notifier.listen notifier).2 ↔
      entry ∈ Notifier.waiting notifier ∨ entry = ((Notifier.listen notifier).1, none)
  poll_eq_false : ∀ {notifier : ν} {key : Nat} {earlier : Option Nat} (waker : Nat),
    (key, earlier) ∈ Notifier.waiting notifier → (Notifier.poll notifier key waker).1 = false
  mem_waiting_poll : ∀ {notifier : ν} {key : Nat} {earlier : Option Nat} (waker : Nat)
    (entry : Nat × Option Nat), (key, earlier) ∈ Notifier.waiting notifier →
    (entry ∈ Notifier.waiting (Notifier.poll notifier key waker).2 ↔
      (entry.1 ≠ key ∧ entry ∈ Notifier.waiting notifier) ∨ entry = (key, some waker))
  notifyAll_perm : ∀ notifier : ν, (Notifier.notifyAll notifier).1.Perm
    ((Notifier.waiting notifier).filterMap Prod.snd)
  waiting_notifyAll : ∀ notifier : ν, Notifier.waiting (Notifier.notifyAll notifier).2 = []
  drop_eq_nil : ∀ {notifier : ν} {key : Nat} {waker : Option Nat},
    (key, waker) ∈ Notifier.waiting notifier → (Notifier.drop notifier key).1 = []
  mem_waiting_drop : ∀ {notifier : ν} {key : Nat} {waker : Option Nat}
    (entry : Nat × Option Nat), (key, waker) ∈ Notifier.waiting notifier →
    (entry ∈ Notifier.waiting (Notifier.drop notifier key).2 ↔
      entry.1 ≠ key ∧ entry ∈ Notifier.waiting notifier)
  drop_of_waiting_eq_nil : ∀ {notifier : ν} (key : Nat), Notifier.waiting notifier = [] →
    (Notifier.drop notifier key).1 = [] ∧ Notifier.waiting (Notifier.drop notifier key).2 = []

/-! ## Lists of listeners -/

/-- What has become of a listener. -/
inductive Listener where
  /-- It waits, with the waker of its latest poll. -/
  | waiting (waker : Option Nat)
  /-- It was notified and was not polled since. -/
  | notified
  /-- It has noticed its notification, or was dropped. -/
  | gone
  deriving DecidableEq

/-- All listeners in the order of their registration. The key of each is its position. -/
structure Listeners where
  entries : List Listener := []
  deriving DecidableEq

namespace Listener

/-- The waker of a listener that waits, if it was polled. -/
def waker? : Listener → Option Nat
  | .waiting waker => waker
  | .notified | .gone => none

/-- The listener after all were notified. -/
def notify : Listener → Listener
  | .waiting _ => .notified
  | .notified => .notified
  | .gone => .gone

end Listener

namespace Listeners

/-- The listeners that wait, each with its key; the first of them all has the given one. -/
def waitingFrom (key : Nat) : List Listener → List (Nat × Option Nat)
  | [] => []
  | .waiting waker :: rest => (key, waker) :: waitingFrom (key + 1) rest
  | .notified :: rest | .gone :: rest => waitingFrom (key + 1) rest

/-- Notify the first listener that waits; the answer is the waker that is called. -/
def notifyFirst : List Listener → List Nat × List Listener
  | [] => ([], [])
  | .waiting waker :: rest => (waker.toList, .notified :: rest)
  | listener :: rest =>
      let (woken, rest) := notifyFirst rest
      (woken, listener :: rest)

/-- The listeners without one of them. If it was the only one that was notified, the next in line is
notified in its place. -/
def drop (listeners : Listeners) (key : Nat) : List Nat × Listeners :=
  let entries := listeners.entries.set key .gone
  if listeners.entries[key]? = some .notified ∧ .notified ∉ entries then
    let (woken, entries) := notifyFirst entries
    (woken, ⟨entries⟩)
  else ([], ⟨entries⟩)

/-- Poll one of the listeners: a notified one notices it and is gone. -/
def poll (listeners : Listeners) (key waker : Nat) : Bool × Listeners :=
  match listeners.entries[key]? with
  | some (.waiting _) => (false, ⟨listeners.entries.set key (.waiting (some waker))⟩)
  | some .notified => (true, ⟨listeners.entries.set key .gone⟩)
  | some .gone | none => (true, listeners)

instance : Notifier Listeners where
  fresh := {}
  listen listeners := (listeners.entries.length, ⟨listeners.entries ++ [.waiting none]⟩)
  poll := poll
  notifyAll listeners :=
    (listeners.entries.filterMap Listener.waker?, ⟨listeners.entries.map Listener.notify⟩)
  drop := drop
  waiting listeners := waitingFrom 0 listeners.entries

/-! ## Laws -/

/-- A listener waits if its entry says so. -/
theorem mem_waitingFrom {start : Nat} {entries : List Listener} {entry : Nat × Option Nat} :
    entry ∈ waitingFrom start entries ↔
      start ≤ entry.1 ∧ entries[entry.1 - start]? = some (.waiting entry.2) := by
  induction entries generalizing start with
  | nil => simp [waitingFrom]
  | cons listener rest ih =>
      have hrest : entry ∈ waitingFrom (start + 1) rest ↔
          start < entry.1 ∧ (listener :: rest)[entry.1 - start]? = some (.waiting entry.2) := by
        rw [ih, Nat.succ_le_iff]
        refine and_congr_right fun hlt => ?_
        rw [show entry.1 - start = entry.1 - (start + 1) + 1 by omega, List.getElem?_cons_succ]
      have hhead :
          start ≤ entry.1 ∧ (listener :: rest)[entry.1 - start]? = some (.waiting entry.2) ↔
            (entry.1 = start ∧ listener = .waiting entry.2) ∨
              entry ∈ waitingFrom (start + 1) rest := by
        rw [hrest, Nat.le_iff_lt_or_eq, or_and_right, or_comm]
        refine or_congr ⟨fun ⟨heq, h⟩ => ?_, fun ⟨heq, h⟩ => ?_⟩ Iff.rfl
        · rw [← heq, Nat.sub_self] at h
          exact ⟨heq.symm, Option.some.inj h⟩
        · rw [heq, Nat.sub_self, h]
          exact ⟨rfl, rfl⟩
      rw [hhead]
      cases listener with
      | waiting waker =>
          rw [waitingFrom, List.mem_cons]
          refine or_congr ⟨?_, ?_⟩ Iff.rfl
          · rintro rfl
            exact ⟨rfl, rfl⟩
          · rintro ⟨hkey, hwaker⟩
            exact Prod.ext hkey (Listener.waiting.inj hwaker).symm
      | notified => simp [waitingFrom]
      | gone => simp [waitingFrom]

/-- A listener of a list waits if its entry says so. -/
theorem mem_waiting {listeners : Listeners} {entry : Nat × Option Nat} :
    entry ∈ Notifier.waiting listeners ↔
      listeners.entries[entry.1]? = some (.waiting entry.2) :=
  mem_waitingFrom.trans (and_iff_right (Nat.zero_le _))

/-- No two listeners have the same key. -/
theorem nodup_waitingFrom (start : Nat) (entries : List Listener) :
    ((waitingFrom start entries).map Prod.fst).Nodup := by
  induction entries generalizing start with
  | nil => exact List.nodup_nil
  | cons listener rest ih =>
      cases listener with
      | waiting waker =>
          rw [waitingFrom, List.map_cons, List.nodup_cons]
          refine ⟨fun hmem => ?_, ih (start + 1)⟩
          obtain ⟨entry, hentry, hkey⟩ := List.mem_map.mp hmem
          have hle := (mem_waitingFrom.mp hentry).1
          rw [hkey] at hle
          exact Nat.not_succ_le_self start hle
      | notified => exact ih (start + 1)
      | gone => exact ih (start + 1)

/-- The wakers of the listeners that wait. -/
theorem filterMap_waitingFrom (start : Nat) (entries : List Listener) :
    (waitingFrom start entries).filterMap Prod.snd = entries.filterMap Listener.waker? := by
  induction entries generalizing start with
  | nil => rfl
  | cons listener rest ih =>
      cases listener with
      | waiting waker =>
          rw [waitingFrom, List.filterMap_cons, List.filterMap_cons, ih]
          rfl
      | notified => exact ih (start + 1)
      | gone => exact ih (start + 1)

/-- What waits in a list of which one entry is replaced. -/
theorem mem_waiting_set {listeners : Listeners} {key : Nat} {earlier : Option Nat}
    (hkey : (key, earlier) ∈ Notifier.waiting listeners) (listener : Listener)
    (entry : Nat × Option Nat) :
    entry ∈ Notifier.waiting (⟨listeners.entries.set key listener⟩ : Listeners) ↔
      (entry.1 ≠ key ∧ entry ∈ Notifier.waiting listeners) ∨
        (entry.1 = key ∧ listener = .waiting entry.2) := by
  have hlt := (List.getElem?_eq_some_iff.mp (mem_waiting.mp hkey)).1
  rw [mem_waiting, mem_waiting]
  by_cases heq : entry.1 = key
  · subst heq
    rw [List.getElem?_set_self hlt]
    simp
  · rw [List.getElem?_set_ne (Ne.symm heq)]
    simp [heq]

/-- What waits in a list with a new entry at its end. -/
theorem mem_waiting_concat {listeners : Listeners} {entry : Nat × Option Nat} :
    entry ∈ Notifier.waiting (⟨listeners.entries ++ [.waiting none]⟩ : Listeners) ↔
      entry ∈ Notifier.waiting listeners ∨
        (entry.1 = listeners.entries.length ∧ entry.2 = none) := by
  rw [mem_waiting, mem_waiting]
  rcases Nat.lt_trichotomy entry.1 listeners.entries.length with hlt | heq | hgt
  · rw [List.getElem?_append_left hlt]
    simp [Nat.ne_of_lt hlt]
  · rw [heq]
    simp [eq_comm]
  · have hbeyond : (listeners.entries ++ [Listener.waiting none])[entry.1]? = none :=
      List.getElem?_eq_none (by rw [List.length_append]; exact hgt)
    simp [hbeyond, Nat.le_of_lt hgt, Nat.ne_of_gt hgt]

/-- Nobody is notified when nobody waits. -/
theorem notifyFirst_of_waitingFrom_eq_nil {start : Nat} {entries : List Listener}
    (h : waitingFrom start entries = []) : notifyFirst entries = ([], entries) := by
  induction entries generalizing start with
  | nil => rfl
  | cons listener rest ih =>
      cases listener with
      | waiting waker => exact absurd h (List.cons_ne_nil _ _)
      | notified => rw [notifyFirst, ih h]; simp
      | gone => rw [notifyFirst, ih h]; simp

/-- Nobody waits any more once all were notified. -/
theorem waitingFrom_map_notify (start : Nat) (entries : List Listener) :
    waitingFrom start (entries.map Listener.notify) = [] := by
  induction entries generalizing start with
  | nil => rfl
  | cons listener rest ih => cases listener <;> exact ih (start + 1)

/-- A list of listeners obeys the laws of a notifier. -/
instance : LawfulNotifier Listeners where
  nodup_keys listeners := nodup_waitingFrom 0 listeners.entries
  waiting_fresh := rfl
  listen_not_mem listeners waker hmem := by
    have hnone : listeners.entries[listeners.entries.length]? = none :=
      List.getElem?_eq_none (Nat.le_refl _)
    exact absurd (hnone.symm.trans (mem_waiting.mp hmem)) (by simp)
  mem_waiting_listen listeners entry := by
    rw [Prod.ext_iff]
    exact mem_waiting_concat
  poll_eq_false waker hmem := by
    change (poll _ _ waker).1 = false
    rw [poll, mem_waiting.mp hmem]
  mem_waiting_poll waker entry hmem := by
    change entry ∈ Notifier.waiting (poll _ _ waker).2 ↔ _
    rw [poll, mem_waiting.mp hmem, mem_waiting_set hmem]
    refine or_congr Iff.rfl ⟨fun ⟨hkey, hwaker⟩ => ?_, fun heq => ?_⟩
    · exact Prod.ext hkey (Listener.waiting.inj hwaker).symm
    · exact ⟨congrArg Prod.fst heq, congrArg Listener.waiting (congrArg Prod.snd heq).symm⟩
  notifyAll_perm listeners := .of_eq (filterMap_waitingFrom 0 listeners.entries).symm
  waiting_notifyAll listeners := waitingFrom_map_notify 0 listeners.entries
  drop_eq_nil hmem := by
    change (drop _ _).1 = []
    rw [drop, if_neg (by simp [mem_waiting.mp hmem])]
  mem_waiting_drop entry hmem := by
    change entry ∈ Notifier.waiting (drop _ _).2 ↔ _
    rw [drop, if_neg (by simp [mem_waiting.mp hmem]), mem_waiting_set hmem]
    simp
  drop_of_waiting_eq_nil {listeners} key hnone := by
    have hset : waitingFrom 0 (listeners.entries.set key .gone) = [] := by
      refine List.eq_nil_iff_forall_not_mem.mpr fun entry hentry => ?_
      obtain ⟨-, hwaits⟩ := mem_waitingFrom.mp hentry
      by_cases heq : key = entry.1 - 0
      · rw [← heq, List.getElem?_set_self'] at hwaits
        cases hold : listeners.entries[key]? <;> simp [hold] at hwaits
      · rw [List.getElem?_set_ne heq] at hwaits
        exact absurd (mem_waiting.mpr hwaits) (hnone ▸ List.not_mem_nil)
    change (drop listeners key).1 = [] ∧ Notifier.waiting (drop listeners key).2 = []
    rw [drop]
    split
    · rw [notifyFirst_of_waitingFrom_eq_nil hset]
      exact ⟨rfl, hset⟩
    · exact ⟨rfl, hset⟩

end Listeners

end Backpressure
