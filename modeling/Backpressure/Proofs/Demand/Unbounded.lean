import Mathlib.Algebra.Ring.Nat
import Backpressure.Demand

/-!
# Keeping unbounded demand

Every amount from the unbounded one upwards stands for no limit, but only the unbounded amount
itself is left alone by deliveries. A larger one can only be the amount at the very start: requests
are cut off at the unbounded amount. Deliveries take it down like any other number, and a delivery
that skips the unbounded amount leaves an ordinary one behind.

Main results:

- Theorem `trail_unbounded` shows that the unbounded amount is never left.
- Theorem `unbounded_is_kept_iff` says exactly when unbounded demand is kept by all later changes,
  and that it always is once there was a request, or when the start did not exceed the limit.
-/

namespace Backpressure.Demand

/-! ## The unbounded amount itself -/

/-- An amount stands for no limit when it is at least the unbounded one. -/
theorem isUnbounded_iff (amount : UInt64) :
    isUnbounded amount = true ↔ unbounded.toNat ≤ amount.toNat := by
  rw [isUnbounded, decide_eq_true_iff, UInt64.le_iff_toNat_le]

/-- A request makes any unbounded demand exactly the unbounded amount. -/
theorem add_of_isUnbounded {current : UInt64} (h : isUnbounded current = true)
    (amount : UInt64) : add current amount = unbounded := by
  rw [isUnbounded_iff] at h
  apply UInt64.toNat.inj
  rw [toNat_add, Nat.min_eq_right (by omega)]

/-- No change leaves the unbounded amount. -/
@[simp] theorem after_unbounded (change : Change) : after unbounded change = unbounded := by
  cases change with
  | request amount => exact add_of_isUnbounded (by decide) amount
  | delivery amount => rw [after, produced, if_pos rfl]

/-- From the unbounded amount on, all changes stay at it. -/
theorem trail_unbounded (changes : List Change) :
    ∀ amount ∈ trail unbounded changes, amount = unbounded := by
  induction changes with
  | nil => simp [trail]
  | cons change changes ih => simpa [trail] using ih

/-- Demand that is within the limit stays within it. -/
theorem toNat_after_le {current : UInt64} (h : current.toNat ≤ unbounded.toNat)
    (change : Change) : (after current change).toNat ≤ unbounded.toNat := by
  cases change with
  | request amount => exact toNat_add_le current amount
  | delivery amount =>
      rw [after, toNat_produced]
      split <;> omega

/-- Several changes keep the demand within the limit. -/
theorem toNat_foldl_after_le {current : UInt64} (h : current.toNat ≤ unbounded.toNat)
    (changes : List Change) : (changes.foldl after current).toNat ≤ unbounded.toNat := by
  induction changes generalizing current with
  | nil => exact h
  | cons change changes ih => exact ih (toNat_after_le h change)

/-- A request brings the demand within the limit, wherever it started. -/
theorem toNat_foldl_after_le_of_request {amount : UInt64} {changes : List Change}
    (h : .request amount ∈ changes) (start : UInt64) :
    (changes.foldl after start).toNat ≤ unbounded.toNat := by
  obtain ⟨before, behind, rfl⟩ := List.append_of_mem h
  rw [List.foldl_append, List.foldl_cons]
  exact toNat_foldl_after_le (toNat_add_le _ amount) behind

/-! ## Amounts above the unbounded one -/

/-- The first changes are deliveries that take the demand from above the unbounded amount to below
it, without ever leaving exactly that amount. -/
def Overruns (current : UInt64) (changes : List Change) : Prop :=
  ∃ (amounts : List UInt64) (amount : UInt64) (rest : List Change),
    changes = amounts.map .delivery ++ .delivery amount :: rest ∧
    unbounded.toNat + (amounts.map UInt64.toNat).sum < current.toNat ∧
    current.toNat < unbounded.toNat + (amounts.map UInt64.toNat).sum + amount.toNat

/-- Only what exceeds the unbounded amount can be overrun. -/
theorem Overruns.lt {current : UInt64} {changes : List Change} (h : Overruns current changes) :
    unbounded.toNat < current.toNat := by
  obtain ⟨amounts, amount, rest, -, hlt, -⟩ := h
  omega

/-- Nothing is overrun without a change. -/
theorem not_overruns_nil (current : UInt64) : ¬ Overruns current [] := by
  rintro ⟨amounts, amount, rest, hchanges, -⟩
  cases amounts <;> simp at hchanges

/-- Nothing is overrun by a request. -/
theorem not_overruns_request (current amount : UInt64) (changes : List Change) :
    ¬ Overruns current (.request amount :: changes) := by
  rintro ⟨amounts, overrun, rest, hchanges, -⟩
  cases amounts <;> simp at hchanges

/-- A delivery that the excess does not cover is an overrun. -/
theorem overruns_delivery {current amount : UInt64} (changes : List Change)
    (hcurrent : unbounded.toNat < current.toNat)
    (hamount : current.toNat < unbounded.toNat + amount.toNat) :
    Overruns current (.delivery amount :: changes) :=
  ⟨[], amount, changes, rfl, by simpa using hcurrent, by simpa using hamount⟩

/-- After a delivery that the excess covers, the question is about what is left of it. -/
theorem overruns_delivery_iff {current amount : UInt64} (changes : List Change)
    (hamount : unbounded.toNat + amount.toNat ≤ current.toNat) :
    Overruns current (.delivery amount :: changes) ↔ Overruns (current - amount) changes := by
  have hsub : (current - amount).toNat = current.toNat - amount.toNat :=
    UInt64.toNat_sub_of_le _ _ (UInt64.le_iff_toNat_le.mpr (by omega))
  constructor
  · rintro ⟨amounts, overrun, rest, hchanges, hlt, hgt⟩
    cases amounts with
    | nil =>
        obtain ⟨rfl, rfl⟩ : amount = overrun ∧ changes = rest := by simpa using hchanges
        simp only [List.map_nil, List.sum_nil] at hgt
        omega
    | cons first amounts =>
        obtain ⟨rfl, rfl⟩ : amount = first ∧
            changes = amounts.map .delivery ++ .delivery overrun :: rest := by
          simpa using hchanges
        rw [List.map_cons, List.sum_cons] at hlt hgt
        exact ⟨amounts, overrun, rest, rfl, by omega, by omega⟩
  · rintro ⟨amounts, overrun, rest, rfl, hlt, hgt⟩
    refine ⟨amount :: amounts, overrun, rest, rfl, ?_, ?_⟩
    all_goals rw [List.map_cons, List.sum_cons]; omega

/-- A delivery from above the unbounded amount is an ordinary subtraction. -/
theorem toNat_after_delivery {current : UInt64} (h : unbounded.toNat < current.toNat)
    (amount : UInt64) :
    (after current (.delivery amount)).toNat = current.toNat - amount.toNat := by
  have hne : current ≠ unbounded := fun heq => absurd (congrArg UInt64.toNat heq) (by omega)
  rw [after, toNat_produced, if_neg hne]

/-- Unbounded demand is kept by all later changes unless they overrun it. -/
theorem isUnbounded_trail_iff {current : UInt64} (h : isUnbounded current = true)
    (changes : List Change) :
    (∀ amount ∈ trail current changes, isUnbounded amount = true) ↔
      ¬ Overruns current changes := by
  have hle := (isUnbounded_iff current).mp h
  -- Induction over the changes, as long as the demand stays above the unbounded amount.
  induction changes generalizing current with
  | nil => simpa [trail] using not_overruns_nil current
  | cons change changes ih =>
      rw [trail, List.forall_mem_cons]
      cases change with
      | request amount =>
          have hafter : after current (.request amount) = unbounded := add_of_isUnbounded h amount
          rw [hafter]
          refine iff_of_true ⟨by decide, fun reached hreached => ?_⟩
            (not_overruns_request current amount changes)
          rw [trail_unbounded changes reached hreached]
          decide
      | delivery amount =>
          rcases Nat.lt_or_eq_of_le hle with hlt | heq
          · have hafter := toNat_after_delivery hlt amount
            by_cases hcovered : unbounded.toNat + amount.toNat ≤ current.toNat
            · have hkept : unbounded.toNat ≤ (after current (.delivery amount)).toNat := by omega
              have hsub : after current (.delivery amount) = current - amount := by
                apply UInt64.toNat.inj
                rw [hafter, UInt64.toNat_sub_of_le _ _ (UInt64.le_iff_toNat_le.mpr (by omega))]
              have hstands := (isUnbounded_iff _).mpr hkept
              rw [overruns_delivery_iff changes hcovered, ← hsub]
              exact (and_iff_right hstands).trans (ih hstands hkept)
            · refine iff_of_false (fun hall => ?_)
                (not_not_intro (overruns_delivery changes hlt (by omega)))
              have hstands := (isUnbounded_iff _).mp hall.1
              rw [toNat_unbounded] at hstands hcovered
              omega
          · obtain rfl : unbounded = current := UInt64.toNat.inj heq
            refine iff_of_true ⟨by rw [after_unbounded]; decide, fun reached hreached => ?_⟩
              (fun hover => absurd hover.lt (Nat.lt_irrefl _))
            rw [after_unbounded] at hreached
            rw [trail_unbounded changes reached hreached]
            decide

/-! ## Whole series of changes -/

/-- Once the demand is unbounded, later changes keep it so unless they overrun an amount above the
unbounded one. That takes a start above it and no request so far: otherwise the demand is exactly
the unbounded amount from then on. -/
theorem unbounded_is_kept_iff (start : UInt64) (earlier later : List Change)
    (h : isUnbounded (earlier.foldl after start) = true) :
    ((∀ amount ∈ trail (earlier.foldl after start) later, isUnbounded amount = true) ↔
      ¬ Overruns (earlier.foldl after start) later) ∧
    ((start.toNat ≤ unbounded.toNat ∨ ∃ amount, .request amount ∈ earlier) →
      ∀ amount ∈ trail (earlier.foldl after start) later, amount = unbounded) := by
  refine ⟨isUnbounded_trail_iff h later, fun hlimit => ?_⟩
  have hle : (earlier.foldl after start).toNat ≤ unbounded.toNat := by
    rcases hlimit with hstart | ⟨amount, hrequest⟩
    · exact toNat_foldl_after_le hstart earlier
    · exact toNat_foldl_after_le_of_request hrequest start
  have hexact : earlier.foldl after start = unbounded :=
    UInt64.toNat.inj (Nat.le_antisymm hle ((isUnbounded_iff _).mp h))
  rw [hexact]
  exact trail_unbounded later

/-- Two deliveries below the excess keep the demand unbounded; a third one overruns it, and a
request before that would have fixed it for good. -/
theorem unbounded_is_kept_or_overrun :
    (∀ amount ∈ trail ([Change.delivery 1].foldl after 0x8000000000000003) [.delivery 2],
      isUnbounded amount = true) ∧
    (¬ ∀ amount ∈ trail ([Change.delivery 1].foldl after 0x8000000000000003)
      [.delivery 2, .delivery 5], isUnbounded amount = true) ∧
    (∀ amount ∈ trail ([Change.delivery 1, .request 0].foldl after 0x8000000000000003)
      [.delivery 2, .delivery 5], amount = unbounded) := by
  refine ⟨?_, ?_, ?_⟩
  · refine (unbounded_is_kept_iff 0x8000000000000003 [.delivery 1] [.delivery 2] (by decide)).1.mpr
      fun hover => ?_
    rw [overruns_delivery_iff [] (by decide)] at hover
    exact not_overruns_nil _ hover
  · intro hall
    exact (unbounded_is_kept_iff 0x8000000000000003 [.delivery 1] [.delivery 2, .delivery 5]
      (by decide)).1.mp hall ⟨[2], 5, [], rfl, by decide, by decide⟩
  · exact (unbounded_is_kept_iff 0x8000000000000003 [.delivery 1, .request 0]
      [.delivery 2, .delivery 5] (by decide)).2 (.inr ⟨0, by decide⟩)

/-- Unbounded demand above the limit is delivered away like any other number. -/
theorem unbounded_start_is_used_up :
    ¬ ∀ (start : UInt64) (earlier later : List Change),
      isUnbounded (earlier.foldl after start) = true →
      ∀ amount ∈ trail (earlier.foldl after start) later, isUnbounded amount = true := by
  intro hkept
  have hzero : isUnbounded 0 = true :=
    hkept 0x8000000000000000 [] [.delivery 0x8000000000000000] (by decide) 0 (by decide)
  exact absurd hzero (by decide)

end Backpressure.Demand
