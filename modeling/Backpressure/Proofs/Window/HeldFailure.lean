import Backpressure.Proofs.Grammar.Units
import Backpressure.Proofs.Pipeline.Window
import Backpressure.Proofs.Resumption.Forwarding

/-!
# A window that holds a failure back

A feed may go on after it has failed: it signals more items, and it fails again. A window that holds
failures back keeps the first one, and goes on to gather items while it hands them out. Between two
calls it stands in one of a few ways, by the effects that are still to come and by what its receiver
has heard. Only one of them leads to the terminal signal, and none leads back.

Main results:

- Theorem `Delaying.hear`, theorem `Delaying.take`, theorem `Delaying.go` and theorem
  `Delaying.tell` keep account of everything that can happen to such a window.
- Theorem `Delaying.grammatical` and theorem `Delaying.failure_of_mem` read off the account that the
  receiver hears at most one terminal signal, which carries the first failure.
-/

namespace Backpressure

namespace History

variable {α : Type} {heard : List (Signal α)} {signal : Signal α}

/-- Whether a feed is erratic: it signals its subscription first, and from then on items and
failures in any order, but no completion. -/
def isErratic : List (Signal α) → Bool
  | [] => true
  | first :: later =>
      first.kind = .subscribe && later.all fun signal => signal.kind = .next || signal.kind = .error

/-- A feed that is erratic was so before. -/
theorem isErratic_of_append {more : List (Signal α)} (h : isErratic (heard ++ more) = true) :
    isErratic heard = true := by
  cases heard with
  | nil => rfl
  | cons first later =>
      rw [List.cons_append, isErratic, List.all_append, Bool.and_eq_true, Bool.and_eq_true] at h
      rw [isErratic, h.1, h.2.1, Bool.and_self]

/-- The last signal of an erratic feed is its subscription, or an item or a failure after that. -/
theorem isErratic_of_concat (h : isErratic (heard ++ [signal]) = true) :
    heard = [] ∧ signal = .subscribe ∨
      heard ≠ [] ∧ ((∃ x, signal = .next x) ∨ ∃ failure, signal = .error failure) := by
  cases heard with
  | nil =>
      refine .inl ⟨rfl, ?_⟩
      cases signal with
      | subscribe => rfl
      | next | error | complete => exact absurd h Bool.false_ne_true
  | cons first later =>
      rw [List.cons_append, isErratic, List.all_append, Bool.and_eq_true, Bool.and_eq_true] at h
      refine .inr ⟨List.cons_ne_nil _ _, ?_⟩
      cases signal with
      | next x => exact .inl ⟨x, rfl⟩
      | error failure => exact .inr ⟨failure, rfl⟩
      | subscribe | complete => exact absurd h.2.2 Bool.false_ne_true

/-- The first failure of a history stays the first one. -/
theorem failure?_concat_of_some {failure : Failure} (h : failure? heard = some failure)
    (signal : Signal α) : failure? (heard ++ [signal]) = some failure := by
  rw [failure?, List.findSome?_append, ← failure?, h, Option.some_or]

/-- A failure that comes first is the first failure. -/
theorem failure?_concat_error (h : failure? heard = none) (failure : Failure) :
    failure? (heard ++ [.error failure]) = some failure := by
  rw [failure?, List.findSome?_append, ← failure?, h]
  rfl

end History

namespace Drain

variable {α : Type} {drain : Drain α} {pass : Pass} {stop : Bool}

/-- A pass that goes on ends as it was to end, and leaves the register alone. -/
theorem advance_onward (h : (drain.advance pass stop).2 ≠ .stop) :
    (drain.advance pass stop).1.register = drain.register ∧
      ∀ own, ((∃ x, (drain.advance pass stop).2 = .deliver x own) ∨
        (drain.advance pass stop).2 = .again own) → own.ending = pass.ending := by
  revert h
  unfold advance
  split
  · exact fun h => absurd rfl h
  · split
    · split <;> simp +contextual
    · split
      · simp
      · split <;> simp +contextual

end Drain

/-- Whether an effect is a call on a link. -/
def Effect.isCall {α ι κ : Type} : Effect α ι κ → Bool
  | .order _ _ => true
  | _ => false

namespace Window

open History

variable {α ι : Type} {link : ι} {window : Window α ι} {heard said : List (Signal α)}
  {pending : List (Effect α ι Pass)}

/-- How a window that holds failures back stands, when its feed has signalled `heard`, when it has
certain effects left, and when its receiver has heard so much. While it has nothing under way, the
drain may be stalled only between the first failure and the terminal signal. -/
inductive Progress (link : ι) (window : Window α ι) (heard : List (Signal α)) :
    List (Effect α ι Pass) → List (Signal α) → Prop
  | waiting (hawake : window.drain.isStalled = false) (hunheard : heard = []) :
      Progress link window heard [] []
  | opening (hawake : window.drain.isStalled = false) (hheard : heard ≠ [])
      (hfirst : failure? heard = none) : Progress link window heard [.signal (.subscribe link)] []
  | gathering (hawake : window.drain.isStalled = false) (hheard : heard ≠ [])
      (hfirst : failure? heard = none) : Progress link window heard [] (announced [])
  /-- The first failure is held back, and a pass may be under way. -/
  | draining {failure : Failure} {xs : List α} (pass : Option Pass)
      (hawake : pass.isSome = true → window.drain.isStalled = false)
      (hending : ∀ own, pass = some own → own.ending = .heldFailure)
      (hfirst : failure? heard = some failure) :
      Progress link window heard (pass.toList.map .go) (announced xs)
  | delivering {failure : Failure} {xs : List α} {x : α} {pass : Pass}
      (hawake : window.drain.isStalled = false) (hending : pass.ending = .heldFailure)
      (hfirst : failure? heard = some failure) :
      Progress link window heard [.signal (.next x), .go pass] (announced xs)
  | concluding {failure : Failure} {xs : List α} (hawake : window.drain.isStalled = false)
      (hfirst : failure? heard = some failure) :
      Progress link window heard [.signal (.error failure)] (announced xs)
  | ended {failure : Failure} {xs : List α} (hawake : window.drain.isStalled = false)
      (hfirst : failure? heard = some failure) :
      Progress link window heard [] (announced xs ++ [.error failure])

/-- A window holds failures back, and the one that it holds is the first failure of its feed. -/
structure Delaying (link : ι) (window : Window α ι) (heard : List (Signal α))
    (pending : List (Effect α ι Pass)) (said : List (Signal α)) : Prop where
  delays : window.delaysFailure = true
  held : window.drain.failure.get? = failure? heard
  progress : Progress link window heard pending said

/-- The effects of a window but for its calls. -/
def ownEffects (effects : List (Effect α ι Pass)) : List (Effect α ι Pass) :=
  effects.filter (!·.isCall)

/-- A fresh window waits. -/
theorem delaying_ofSize (link : ι) (size : Nat) :
    (ofSize size true : Window α ι).Delaying link [] [] [] where
  delays := rfl
  held := rfl
  progress := .waiting (Drain.isStalled_of_reads Register.Reads.fresh) rfl

/-! ## Signals come first -/

/-- Termination has one effect. -/
theorem tail_terminate (drain : Drain α) (ending : Ending) :
    (terminate (ι := ι) drain ending).tail = [] := by
  unfold terminate
  split <;> rfl

/-- If a window that hears a signal passes one on, it does so first. -/
theorem isSignal_tail_hear (link : ι) (window : Window α ι) (delivery : Delivery α ι) :
    ∀ effect ∈ (window.hear link delivery).2.tail, effect.isSignal = false := by
  cases delivery with
  | subscribe feed => simp [hear, Effect.isSignal]
  | next x => simp [hear]
  | complete => simp [hear, tail_terminate]
  | error failure =>
      simp only [hear, fail]
      split
      · split
        · simp
        · simp [tail_terminate]
      · split <;> simp

/-- If a window that goes on with a pass gives a signal, it does so first. -/
theorem isSignal_tail_go (window : Window α ι) (pass : Pass) :
    ∀ effect ∈ (window.go pass).2.tail, effect.isSignal = false := by
  unfold Window.go
  split
  next drain move _ => cases move <;> simp [Effect.isSignal]

/-! ## What was heard -/

/-- What the receiver has heard follows the grammar. -/
theorem Delaying.grammatical (h : window.Delaying link heard pending said) : Grammatical said := by
  cases h.progress with
  | waiting | opening => exact .inl rfl
  | gathering | draining | delivering | concluding => exact .inr (wellFormed_announced _)
  | ended => exact .inr ⟨_, [.error _], rfl, .inr (.inr ⟨_, rfl⟩)⟩

/-- A subscription and items hold no terminal signal. -/
theorem not_isTerminal_of_mem_announced {xs : List α} {signal : Signal α}
    (h : signal ∈ announced xs) : signal.isTerminal = false := by
  rcases List.mem_cons.1 h with rfl | hitem
  · rfl
  · obtain ⟨x, -, rfl⟩ := List.mem_map.1 hitem
    rfl

/-- A terminal signal that the receiver has heard is the first failure of the feed. -/
theorem Delaying.failure_of_mem (h : window.Delaying link heard pending said)
    {signal : Signal α} (hmem : signal ∈ said) (hterminal : signal.isTerminal = true) :
    ∃ failure, signal = .error failure ∧ failure? heard = some failure := by
  have hannounced : ∀ {xs : List α}, signal ∉ announced xs := fun hmem =>
    absurd ((not_isTerminal_of_mem_announced hmem).symm.trans hterminal) Bool.false_ne_true
  cases h.progress with
  | waiting | opening => exact absurd hmem List.not_mem_nil
  | gathering | draining | delivering | concluding => exact absurd hmem hannounced
  | @ended failure xs _ hfirst =>
      rcases List.mem_append.1 hmem with hbefore | hlast
      · exact absurd hbefore hannounced
      · exact ⟨failure, List.mem_singleton.1 hlast, hfirst⟩

/-! ## Signals of the feed -/

/-- The way in which a window stands depends on its register, and on its feed only as far as that
has failed. -/
theorem Progress.of_same {changed : Window α ι} {later : List (Signal α)}
    (h : Progress link window heard pending said)
    (hstalled : window.drain.isStalled = false → changed.drain.isStalled = false)
    (hfirst : failure? later = failure? heard) (hheard : later = [] ↔ heard = []) :
    Progress link changed later pending said := by
  cases h with
  | waiting hawake hunheard => exact .waiting (hstalled hawake) (hheard.2 hunheard)
  | opening hawake hsome hnone =>
      exact .opening (hstalled hawake) (mt hheard.1 hsome) (hfirst.trans hnone)
  | gathering hawake hsome hnone =>
      exact .gathering (hstalled hawake) (mt hheard.1 hsome) (hfirst.trans hnone)
  | draining pass hawake hending hfailed =>
      exact .draining pass (fun hpass => hstalled (hawake hpass)) hending (hfirst.trans hfailed)
  | delivering hawake hending hfailed =>
      exact .delivering (hstalled hawake) hending (hfirst.trans hfailed)
  | concluding hawake hfailed => exact .concluding (hstalled hawake) (hfirst.trans hfailed)
  | ended hawake hfailed => exact .ended (hstalled hawake) (hfirst.trans hfailed)

/-- The window hears its subscription, and passes it on. -/
theorem Delaying.hear_subscribe (h : window.Delaying link [] pending said) (feed : ι) :
    (window.hear link (.subscribe feed)).1.Delaying link [.subscribe]
      (ownEffects (window.hear link (.subscribe feed)).2 ++ pending) said where
  delays := h.delays
  held := h.held
  progress := by
    cases h.progress with
    | waiting hawake => exact .opening hawake (List.cons_ne_nil _ _) rfl
    | opening _ hheard | gathering _ hheard => exact absurd rfl hheard
    | draining _ _ _ hfirst | delivering _ _ hfirst | concluding _ hfirst | ended _ hfirst =>
        exact absurd hfirst (Option.some_ne_none _).symm

/-- The window hears an item, before or after the first failure. -/
theorem Delaying.hear_next (h : window.Delaying link heard pending said) (hheard : heard ≠ [])
    (x : α) :
    (window.hear link (.next x)).1.Delaying link (heard ++ [.next x])
      (ownEffects (window.hear link (.next x)).2 ++ pending) said := by
  have hfirst : failure? (heard ++ [.next x]) = failure? heard := by
    rw [failure?, List.findSome?_append, ← failure?]
    exact Option.or_none
  have hlater : heard ++ [.next x] = [] ↔ heard = [] :=
    iff_of_false (List.append_ne_nil_of_left_ne_nil hheard _) hheard
  exact ⟨h.delays, h.held.trans hfirst.symm, h.progress.of_same id hfirst hlater⟩

/-- The window hears a failure. The first one is held back, and starts a pass unless the buffer is
empty; any other changes nothing. -/
theorem Delaying.hear_error (h : window.Delaying link heard pending said) (hheard : heard ≠ [])
    (hsilent : ∀ delivery, .signal delivery ∉ pending) (failure : Failure) :
    (window.hear link (.error failure)).1.Delaying link (heard ++ [.error failure])
      (ownEffects (window.hear link (.error failure)).2 ++ pending) said := by
  have hlater : heard ++ [.error failure] = [] ↔ heard = [] :=
    iff_of_false (List.append_ne_nil_of_left_ne_nil hheard _) hheard
  have hheld := h.held
  cases hfirst : failure? heard with
  | some first =>
      rw [hfirst] at hheld
      have hset : window.drain.failure.isSet = true :=
        Option.isSome_iff_exists.2 ⟨first, hheld⟩
      have hsame : failure? (heard ++ [.error failure]) = failure? heard :=
        (failure?_concat_of_some hfirst _).trans hfirst.symm
      rw [hear_error_again link failure h.delays hset]
      exact ⟨h.delays, h.held.trans hsame.symm, h.progress.of_same id hsame hlater⟩
  | none =>
      rw [hfirst] at hheld
      have hnow := failure?_concat_error hfirst failure
      have hunset : window.drain.failure.isSet = false :=
        Option.isSome_eq_false_iff.2 (Option.isNone_iff_eq_none.2 hheld)
      have hslot : (window.drain.failure.set failure).get? = some failure := by
        rw [FailureSlot.get?_set, hheld]
        rfl
      obtain ⟨rfl, rfl, hawake⟩ :
          pending = [] ∧ said = announced [] ∧ window.drain.isStalled = false := by
        cases h.progress with
        | waiting _ hunheard => exact absurd hunheard hheard
        | gathering hawake => exact ⟨rfl, rfl, hawake⟩
        | opening => exact absurd List.mem_cons_self (hsilent _)
        | draining _ _ _ hsome | delivering _ _ hsome | concluding _ hsome | ended _ hsome =>
            exact absurd (hsome.symm.trans hfirst) (Option.some_ne_none _)
      have hhear : window.hear link (.error failure) =
          ({ window with
              drain := { window.drain with failure := window.drain.failure.set failure } },
            terminate { window.drain with failure := window.drain.failure.set failure }
              .heldFailure) := by
        simp [hear, fail, h.delays, hunset]
      rw [hhear, List.append_nil]
      refine ⟨h.delays, hslot.trans hnow.symm, ?_⟩
      unfold terminate
      split
      next pass hpass =>
        refine .draining (some pass) (fun _ => hawake) (fun own hown => ?_) hnow
        cases hown
        unfold Drain.passOnTermination at hpass
        split at hpass
        · exact absurd hpass (Option.some_ne_none pass).symm
        · cases hpass
          rfl
      next =>
        have hconclusion : ({ window.drain with failure := window.drain.failure.set failure } :
            Drain α).conclusion (ι := ι) .heldFailure = .error failure := by
          rw [Drain.conclusion, hslot]
        rw [hconclusion]
        exact .concluding hawake hnow

/-- The window hears a signal of an erratic feed. -/
theorem Delaying.hear {delivery : Delivery α ι} (h : window.Delaying link heard pending said)
    (hsilent : ∀ delivery, .signal delivery ∉ pending)
    (herratic : isErratic (heard ++ [delivery.signal]) = true) :
    (window.hear link delivery).1.Delaying link (heard ++ [delivery.signal])
      (ownEffects (window.hear link delivery).2 ++ pending) said := by
  obtain ⟨rfl, hsignal⟩ | ⟨hheard, hsignal⟩ := isErratic_of_concat herratic
  · cases delivery with
    | subscribe feed => exact h.hear_subscribe feed
    | next | error | complete => exact absurd hsignal nofun
  · cases delivery with
    | next x => exact h.hear_next hheard x
    | error failure => exact h.hear_error hheard hsilent failure
    | subscribe | complete => exact absurd hsignal (by rintro (⟨_, ⟨⟩⟩ | ⟨_, ⟨⟩⟩))

/-! ## Calls -/

/-- The drain is stalled only after the first failure, and only while no pass is under way and the
terminal signal was not given yet. -/
theorem Progress.of_isStalled (h : Progress link window heard pending said)
    (hstalled : window.drain.isStalled = true) :
    pending = [] ∧ ∃ failure xs, failure? heard = some failure ∧ said = announced xs := by
  have hasleep : window.drain.isStalled ≠ false := fun hawake =>
    absurd (hstalled.symm.trans hawake) (by decide)
  cases h with
  | waiting hawake | opening hawake | gathering hawake | delivering hawake | concluding hawake
  | ended hawake => exact absurd hawake hasleep
  | @draining failure xs pass hawake _ hfirst =>
      cases pass with
      | none => exact ⟨rfl, failure, xs, hfirst, rfl⟩
      | some own => exact absurd (hawake rfl) hasleep

/-- The window takes a request. It starts a pass on a stalled drain only, and the drain is not
stalled afterwards, unless nothing was asked for. -/
theorem Delaying.take_request (h : window.Delaying link heard pending said) (amount : UInt64) :
    (window.take (.request amount)).1.Delaying link heard
      (ownEffects (window.take (.request amount)).2 ++ pending) said := by
  have hown : ∀ passes : Option Pass,
      ownEffects (passes.toList.map fun pass => (.go pass : Effect α ι Pass)) =
        passes.toList.map .go := by
    intro passes
    cases passes <;> rfl
  rw [Window.take, hown]
  refine ⟨h.delays, h.held, ?_⟩
  cases hstalled : window.drain.isStalled with
  | false =>
      rw [Drain.passOnRequest_of_awake hstalled]
      exact h.progress.of_same (fun _ => Drain.isStalled_afterRequest hstalled amount) rfl .rfl
  | true =>
      obtain ⟨rfl, failure, xs, hfirst, rfl⟩ := h.progress.of_isStalled hstalled
      rw [List.append_nil]
      refine .draining _ (fun hsome => ?_) (fun own hown => ?_) hfirst
      · obtain ⟨-, hamount⟩ := (Drain.request_eq window.drain amount window.ending).1 hsome
        exact Drain.isStalled_afterRequest_of_ne_zero hstalled hamount
      · unfold Drain.passOnRequest at hown
        split at hown
        · cases hown
          simp only [Pass.start, ending, h.delays, if_true]
        · exact absurd hown (Option.some_ne_none own).symm

/-- The window takes a call. A cancellation is passed on to the feed, and stops the pass that is
under way when its turn comes. -/
theorem Delaying.take (h : window.Delaying link heard pending said) (order : Order) :
    (window.take order).1.Delaying link heard (ownEffects (window.take order).2 ++ pending)
      said := by
  cases order with
  | request amount => exact h.take_request amount
  | cancel =>
      rw [Window.take]
      split
      · exact h
      · have hcalls : ownEffects (window.feed.toList.map fun feed =>
            (.order feed .cancel : Effect α ι Pass)) = [] := by
          cases window.feed <;> rfl
        rw [hcalls]
        exact ⟨h.delays, h.held, h.progress.of_same id rfl .rfl⟩

/-! ## Passes -/

/-- The pass that is under way takes one turn. -/
theorem Delaying.go {pass : Pass} (h : window.Delaying link heard (.go pass :: pending) said) :
    (window.go pass).1.Delaying link heard (ownEffects (window.go pass).2 ++ pending) said := by
  obtain ⟨rfl, failure, xs, hfirst, rfl, hawake, hending⟩ : pending = [] ∧ ∃ failure xs,
      failure? heard = some failure ∧ said = announced xs ∧ window.drain.isStalled = false ∧
        pass.ending = .heldFailure := by
    generalize htasks : Effect.go pass :: pending = tasks at h
    cases h.progress with
    | waiting | opening | gathering | delivering | concluding | ended => cases htasks
    | @draining failure xs under hawake hending =>
        cases under with
        | none => cases htasks
        | some own =>
            cases htasks
            exact ⟨rfl, failure, xs, ‹_›, rfl, hawake rfl, hending pass rfl⟩
  have hheld : (window.drain.advance pass window.cancelled).1.failure.get? = failure? heard := by
    rw [Drain.failure_advance]
    exact h.held
  have honward := @Drain.advance_onward _ window.drain pass window.cancelled
  rcases hadvance : window.drain.advance pass window.cancelled with ⟨drain, move⟩
  rw [hadvance] at hheld honward
  rw [go_of_advance rfl hadvance, List.append_nil]
  refine ⟨h.delays, hheld, ?_⟩
  cases move with
  | stop =>
      exact .draining none (fun hsome => absurd hsome Bool.false_ne_true)
        (fun own hown => absurd hown (Option.some_ne_none own).symm) hfirst
  | deliver x own =>
      obtain ⟨hregister, hown⟩ := honward (by simp)
      refine .delivering ?_ ((hown own (.inl ⟨x, rfl⟩)).trans hending) hfirst
      rwa [Drain.isStalled, hregister]
  | again own =>
      obtain ⟨hregister, hown⟩ := honward (by simp)
      refine .draining (some own) (fun _ => ?_) (fun other hother => ?_) hfirst
      · rwa [Drain.isStalled, hregister]
      · cases hother
        exact (hown own (.inr rfl)).trans hending
  | conclude =>
      obtain ⟨hregister, -⟩ := honward (by simp)
      have hconclusion : drain.conclusion (ι := ι) pass.ending = .error failure := by
        rw [hending, Drain.conclusion, hheld, hfirst]
      rw [hconclusion]
      refine .concluding ?_ hfirst
      rwa [Drain.isStalled, hregister]

/-! ## What the receiver hears -/

/-- The receiver hears the signal that is on its way. -/
theorem Delaying.tell {delivery : Delivery α ι}
    (h : window.Delaying link heard (.signal delivery :: pending) said) :
    window.Delaying link heard pending (said ++ [delivery.signal]) := by
  refine ⟨h.delays, h.held, ?_⟩
  generalize htasks : Effect.signal delivery :: pending = tasks at h
  cases h.progress with
  | waiting | gathering | ended => cases htasks
  | opening hawake hheard hfirst =>
      cases htasks
      exact .gathering hawake hheard hfirst
  | @draining _ _ under => cases under <;> cases htasks
  | @delivering failure xs x own hawake hending hfirst =>
      cases htasks
      have hsaid : announced xs ++ [.next x] = announced (xs ++ [x]) := by
        rw [announced, announced, List.map_append]
        rfl
      rw [Delivery.signal, hsaid]
      refine .draining (some own) (fun _ => hawake) (fun other hother => ?_) hfirst
      cases hother
      exact hending
  | concluding hawake hfirst =>
      cases htasks
      exact .ended hawake hfirst

end Window

end Backpressure
