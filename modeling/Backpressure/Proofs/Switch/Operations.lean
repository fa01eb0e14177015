import Backpressure.Switch
import Mathlib.Data.List.Induction
import Mathlib.Data.List.Infix

/-!
# Operations on a switch

Everything that is done with a switch is one operation after the other: the downstream asks for
items or cancels, deliveries are counted, and feeds are bound. Each operation makes one call on a
feed at most. What a series of operations makes of a switch, and which calls it makes, is told from
the operations alone: what is outstanding is a fold over the changes of the demand, the current feed
is the one that was bound last, and a cancellation ends both.

Main results:

- Theorem `calls_of_bound` states which calls are made as long as a feed is the current one.
- Theorem `after_of_cancelled` states what becomes of a switch after a cancellation.
- Theorem `toNat_owed` and theorem `owed_of_unlimited` compare what is outstanding with what was
  asked for less what was delivered.
-/

namespace Backpressure.Switch

variable {ι : Type}

/-- An operation on a switch. -/
inductive Operation (ι : Type) where
  | request (amount : UInt64)
  | cancel
  /-- Items were delivered. -/
  | emitted (count : UInt64)
  | bind (link : ι)
  deriving DecidableEq

namespace Operation

/-- Whether an operation cancels. -/
def isCancel : Operation ι → Bool
  | .cancel => true
  | _ => false

/-- Whether an operation binds a feed. -/
def isBind : Operation ι → Bool
  | .bind _ => true
  | _ => false

/-- The feed that an operation binds. -/
def bound? : Operation ι → Option ι
  | .bind link => some link
  | _ => none

/-- The amount that an operation asks for, unless it asks for nothing. -/
def request? : Operation ι → Option UInt64
  | .request amount => if amount = 0 then none else some amount
  | _ => none

/-- The number of items that an operation counts as delivered. -/
def emitted? : Operation ι → Option UInt64
  | .emitted count => some count
  | _ => none

/-- What an operation changes about the demand. -/
def change? : Operation ι → Option Demand.Change
  | .request amount => if amount = 0 then none else some (.request amount)
  | .emitted count => some (.delivery count)
  | _ => none

end Operation

/-! ## Series of operations -/

/-- The feeds that operations bind, in order. -/
def bound (operations : List (Operation ι)) : List ι := operations.filterMap Operation.bound?

/-- The amounts that operations ask for, in order, without those of nothing. -/
def requests (operations : List (Operation ι)) : List UInt64 :=
  operations.filterMap Operation.request?

/-- The numbers of items that operations count as delivered, in order. -/
def deliveries (operations : List (Operation ι)) : List UInt64 :=
  operations.filterMap Operation.emitted?

/-- What operations that do not cancel leave outstanding. -/
def owed (operations : List (Operation ι)) : UInt64 :=
  (operations.filterMap Operation.change?).foldl Demand.after 0

/-- The switch after an operation, and the call that it makes. -/
def operate (switch : Switch ι) : Operation ι → Switch ι × Option (Call ι)
  | .request amount => switch.request amount
  | .cancel => switch.cancel
  | .emitted count => (switch.emitted count, none)
  | .bind link => switch.bind link

/-- The switch after a series of operations. -/
def after (switch : Switch ι) (operations : List (Operation ι)) : Switch ι :=
  operations.foldl (fun switch operation => (switch.operate operation).1) switch

/-- The calls that a series of operations makes, in order. -/
def calls (switch : Switch ι) : List (Operation ι) → List (Call ι)
  | [] => []
  | operation :: later =>
      (switch.operate operation).2.toList ++ (switch.operate operation).1.calls later

variable {switch : Switch ι} {link : ι} {operations before later : List (Operation ι)}

/-- The switch after the operations of two series. -/
theorem after_append (switch : Switch ι) (first second : List (Operation ι)) :
    switch.after (first ++ second) = (switch.after first).after second :=
  List.foldl_append

/-! ## Series without a cancellation -/

/-- What an operation that does not cancel makes of a switch that was not cancelled. -/
theorem operate_of_active (hactive : switch.cancelled = false) {operation : Operation ι}
    (hkeeps : operation.isCancel = false) :
    (switch.operate operation).1 =
      { current := operation.bound?.or switch.current
        outstanding := operation.change?.toList.foldl Demand.after switch.outstanding } := by
  obtain ⟨current, outstanding, cancelled⟩ := switch
  cases hactive
  cases operation with
  | cancel => contradiction
  | emitted count | bind link => rfl
  | request amount =>
      by_cases hamount : amount = 0 <;>
        simp [operate, request, hamount, Operation.bound?, Operation.change?, Demand.after]

/-- What operations that do not cancel make of a switch that was not cancelled. -/
theorem after_of_active (hactive : switch.cancelled = false)
    (hkeeps : ∀ operation ∈ operations, operation.isCancel = false) :
    switch.after operations =
      { current := (bound operations).getLast?.or switch.current
        outstanding :=
          (operations.filterMap Operation.change?).foldl Demand.after switch.outstanding } := by
  induction operations using List.reverseRecOn with
  | nil =>
      cases switch
      cases hactive
      rfl
  | append_singleton operations operation ih =>
      have hbefore := ih fun other hother => hkeeps other (List.mem_append_left _ hother)
      have hlast := hkeeps operation (List.mem_append_right _ List.mem_cons_self)
      rw [after_append, hbefore]
      refine (operate_of_active rfl hlast).trans ?_
      simp only [bound, List.filterMap_append, List.foldl_append, Switch.mk.injEq, and_true]
      cases operation with
      | cancel => contradiction
      | request amount =>
          by_cases hamount : amount = 0 <;>
            simp [Operation.bound?, Operation.change?, hamount]
      | emitted count => simp [Operation.bound?, Operation.change?]
      | bind link => simp [Operation.bound?, Operation.change?, List.filterMap_cons]

/-- What operations that do not cancel make of a fresh switch. -/
theorem after_fresh (hkeeps : ∀ operation ∈ operations, operation.isCancel = false) :
    ({} : Switch ι).after operations =
      { current := (bound operations).getLast?, outstanding := owed operations } := by
  rw [after_of_active rfl hkeeps, Option.or_none]
  rfl

/-- As long as a feed is the current one it gets every request, and no other feed is called. -/
theorem calls_of_bound (hactive : switch.cancelled = false) (hcurrent : switch.current = some link)
    (hkeeps : ∀ operation ∈ operations, operation.isCancel = false ∧ operation.isBind = false) :
    switch.calls operations =
      (requests operations).map fun amount => (link, .request amount) := by
  induction operations generalizing switch with
  | nil => rfl
  | cons operation operations ih =>
      obtain ⟨hcancel, hbind⟩ := hkeeps operation List.mem_cons_self
      have hnext := operate_of_active hactive hcancel
      have hunbound : operation.bound? = none := by
        cases operation <;> first | contradiction | rfl
      have hlater := @ih (switch.operate operation).1 (by rw [hnext])
        (by rw [hnext, hunbound]; exact hcurrent)
        fun other hother => hkeeps other (List.mem_cons_of_mem operation hother)
      rw [calls, hlater]
      cases operation with
      | cancel | bind => contradiction
      | emitted count => rfl
      | request amount =>
          by_cases hamount : amount = 0 <;>
            simp [operate, call_request, hamount, hactive, hcurrent, requests, Operation.request?]

/-- No feed is cancelled without a cancellation. -/
theorem cancel_not_mem_calls (hactive : switch.cancelled = false)
    (hkeeps : ∀ operation ∈ operations, operation.isCancel = false) (link : ι) :
    (link, .cancel) ∉ switch.calls operations := by
  induction operations generalizing switch with
  | nil => exact List.not_mem_nil
  | cons operation operations ih =>
      have hfirst := hkeeps operation List.mem_cons_self
      have hstill : (switch.operate operation).1.cancelled = false := by
        rw [operate_of_active hactive hfirst]
      rw [calls, List.mem_append, not_or]
      refine ⟨?_, ih hstill fun other hother => hkeeps other (List.mem_cons_of_mem _ hother)⟩
      cases operation with
      | cancel => contradiction
      | request amount =>
          rw [operate, call_request]
          split <;> simp
      | emitted count => simp [operate]
      | bind other =>
          rw [operate, call_bind, if_neg (by simp [hactive])]
          split <;> simp

/-! ## Series after a cancellation -/

/-- After a cancellation an operation only counts deliveries and cancels the feed that it binds. -/
theorem operate_of_cancelled (hcancelled : switch.cancelled = true) (operation : Operation ι) :
    switch.operate operation =
      ({ switch with outstanding :=
          operation.emitted?.toList.foldl Demand.produced switch.outstanding },
        operation.bound?.map fun link => (link, .cancel)) := by
  obtain ⟨current, outstanding, cancelled⟩ := switch
  cases hcancelled
  cases operation with
  | request amount => simp [operate, request, Operation.emitted?, Operation.bound?]
  | cancel | emitted count | bind link => rfl

/-- What operations make of a switch that was cancelled: only deliveries still count. -/
theorem after_of_cancelled (hcancelled : switch.cancelled = true)
    (operations : List (Operation ι)) :
    switch.after operations =
      { switch with outstanding :=
          (deliveries operations).foldl Demand.produced switch.outstanding } := by
  induction operations using List.reverseRecOn with
  | nil => rfl
  | append_singleton operations operation ih =>
      rw [after_append, ih, deliveries, deliveries, List.filterMap_append, List.foldl_append]
      refine (congrArg Prod.fst (operate_of_cancelled (by exact hcancelled) operation)).trans ?_
      cases operation <;> rfl

/-- Nothing is ever asked of a feed by a request for nothing. -/
theorem request_zero_not_mem_calls (switch : Switch ι) (operations : List (Operation ι))
    (link : ι) : (link, .request 0) ∉ switch.calls operations := by
  induction operations generalizing switch with
  | nil => exact List.not_mem_nil
  | cons operation operations ih =>
      rw [calls, List.mem_append, not_or]
      refine ⟨?_, ih _⟩
      cases operation with
      | request amount =>
          rw [operate, call_request]
          split
          next => simp
          next h =>
            rw [not_or] at h
            simp [h.1]
      | cancel =>
          rw [operate, call_cancel]
          split <;> simp
      | emitted count => simp [operate]
      | bind other =>
          rw [operate, call_bind]
          split
          · simp
          · split
            next => simp
            next h => simp [eq_comm, h]

/-! ## What is outstanding -/

/-- The number of items that operations ask for. -/
def requested (operations : List (Operation ι)) : Nat :=
  (requests operations).foldl (fun total amount => total + amount.toNat) 0

/-- The number of items that operations count as delivered. -/
def delivered (operations : List (Operation ι)) : Nat :=
  (deliveries operations).foldl (fun total count => total + count.toNat) 0

/-- What is outstanding after one operation more. -/
theorem owed_concat (operations : List (Operation ι)) (operation : Operation ι) :
    owed (operations ++ [operation]) =
      operation.change?.toList.foldl Demand.after (owed operations) := by
  rw [owed, List.filterMap_append, List.foldl_append, owed]
  cases h : operation.change? <;> simp [h]

/-- What one operation more asks for and counts as delivered. -/
theorem totals_concat (operations : List (Operation ι)) (operation : Operation ι) :
    requested (operations ++ [operation]) =
        requested operations + (operation.request?.elim 0 (·.toNat)) ∧
      delivered (operations ++ [operation]) =
        delivered operations + (operation.emitted?.elim 0 (·.toNat)) := by
  constructor
  · rw [requested, requests, List.filterMap_append, List.foldl_append, requested, requests]
    cases h : operation.request? <;> simp [h]
  · rw [delivered, deliveries, List.filterMap_append, List.foldl_append, delivered, deliveries]
    cases h : operation.emitted? <;> simp [h]

/-- What was asked for has never fallen short of what was delivered. -/
def Covered (operations : List (Operation ι)) : Prop :=
  ∀ earlier, earlier <+: operations → delivered earlier ≤ requested earlier

/-- What was asked for less what was delivered has reached the unbounded amount at some time. -/
def Unlimited (operations : List (Operation ι)) : Prop :=
  ∃ earlier, earlier <+: operations ∧
    delivered earlier + Demand.unbounded.toNat ≤ requested earlier

/-- Whether requests have covered the deliveries is decided over all beginnings of the series. -/
instance decidableCovered (operations : List (Operation ι)) : Decidable (Covered operations) :=
  decidable_of_iff (∀ earlier ∈ operations.inits, delivered earlier ≤ requested earlier)
    (forall_congr' fun earlier => by rw [List.mem_inits])

/-- Whether the difference has been unbounded is decided over all beginnings of the series. -/
instance decidableUnlimited (operations : List (Operation ι)) : Decidable (Unlimited operations) :=
  decidable_of_iff (∃ earlier ∈ operations.inits,
      delivered earlier + Demand.unbounded.toNat ≤ requested earlier)
    (exists_congr fun earlier => by rw [List.mem_inits])

/-- Unbounded demand stays so. -/
theorem owed_append_of_unbounded (h : owed before = Demand.unbounded)
    (later : List (Operation ι)) : owed (before ++ later) = Demand.unbounded := by
  induction later using List.reverseRecOn with
  | nil => rwa [List.append_nil]
  | append_singleton later operation ih =>
      rw [← List.append_assoc, owed_concat, ih]
      cases hchange : operation.change? with
      | none => rfl
      | some change =>
          cases change with
          | delivery count => rfl
          | request amount =>
              refine UInt64.toNat.inj ((Demand.toNat_add _ _).trans ?_)
              exact Nat.min_eq_right (Nat.le_add_right _ _)

/-- As long as deliveries are covered by requests, what is outstanding is the difference of the two,
until that reaches the unbounded amount, and unbounded from then on. -/
theorem owed_cases (hcovered : Covered operations) :
    Unlimited operations ∧ owed operations = Demand.unbounded ∨
      ¬ Unlimited operations ∧ (owed operations).toNat + delivered operations =
        requested operations := by
  induction operations using List.reverseRecOn with
  | nil =>
      refine .inr ⟨?_, rfl⟩
      rintro ⟨earlier, hearlier, hreached⟩
      rw [List.prefix_nil] at hearlier
      subst hearlier
      simp [delivered, requested, deliveries, requests] at hreached
  | append_singleton operations operation ih =>
      have hbefore : operations <+: operations ++ [operation] := List.prefix_append _ _
      obtain ⟨hrequested, hdelivered⟩ := totals_concat operations operation
      rcases ih fun earlier h => hcovered earlier (h.trans hbefore) with
        ⟨⟨earlier, hearlier, hreached⟩, howed⟩ | ⟨hlimited, howed⟩
      · exact .inl ⟨⟨earlier, hearlier.trans hbefore, hreached⟩, owed_append_of_unbounded howed _⟩
      have hless : ¬ delivered operations + Demand.unbounded.toNat ≤ requested operations :=
        fun hreached => hlimited ⟨operations, List.prefix_rfl, hreached⟩
      have hcover := hcovered _ List.prefix_rfl
      have hsplit : Unlimited (operations ++ [operation]) ↔
          delivered (operations ++ [operation]) + Demand.unbounded.toNat ≤
            requested (operations ++ [operation]) := by
        refine ⟨?_, fun hreached => ⟨_, List.prefix_rfl, hreached⟩⟩
        rintro ⟨earlier, hearlier, hreached⟩
        rcases List.prefix_concat_iff.1 hearlier with rfl | hshorter
        · exact hreached
        · exact absurd ⟨earlier, hshorter, hreached⟩ hlimited
      rw [hsplit, owed_concat]
      rw [hrequested, hdelivered] at hcover ⊢
      have hlimit := Demand.toNat_unbounded
      cases operation with
      | cancel | bind =>
          exact .inr ⟨hless, howed⟩
      | request amount =>
          by_cases hamount : amount = 0
          · subst hamount
            exact .inr ⟨hless, howed⟩
          · have hadd := Demand.toNat_add (owed operations) amount
            simp only [Operation.request?, Operation.emitted?, Operation.change?, if_neg hamount,
              Option.elim_some, Option.elim_none, Option.toList_some, List.foldl_cons,
              List.foldl_nil, Demand.after] at hcover ⊢
            by_cases hreached : delivered operations + Demand.unbounded.toNat ≤
                requested operations + amount.toNat
            · refine .inl ⟨hreached, UInt64.toNat.inj ?_⟩
              omega
            · refine .inr ⟨hreached, ?_⟩
              omega
      | emitted count =>
          have hproduced := Demand.toNat_produced (owed operations) count
          have hne : owed operations ≠ Demand.unbounded := by
            intro heq
            rw [heq] at howed
            omega
          rw [if_neg hne] at hproduced
          simp only [Operation.request?, Operation.emitted?, Operation.change?, Option.elim_some,
            Option.elim_none, Option.toList_some, List.foldl_cons, List.foldl_nil,
            Demand.after] at hcover ⊢
          refine .inr ⟨?_, ?_⟩ <;> omega

/-- What is outstanding is what was asked for less what was delivered, as long as this has neither
fallen below zero nor reached the unbounded amount. -/
theorem toNat_owed (hcovered : Covered operations) (hlimited : ¬ Unlimited operations) :
    (owed operations).toNat + delivered operations = requested operations := by
  rcases owed_cases hcovered with ⟨hreached, -⟩ | ⟨-, howed⟩
  · exact absurd hreached hlimited
  · exact howed

/-- Once what was asked for less what was delivered has reached the unbounded amount, the demand is
unbounded for ever. -/
theorem owed_of_unlimited (hcovered : Covered before) (hreached : Unlimited before)
    (later : List (Operation ι)) : owed (before ++ later) = Demand.unbounded := by
  rcases owed_cases hcovered with ⟨-, howed⟩ | ⟨hlimited, -⟩
  · exact owed_append_of_unbounded howed later
  · exact absurd hreached hlimited

end Backpressure.Switch
