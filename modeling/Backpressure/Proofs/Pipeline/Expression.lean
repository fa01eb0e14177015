import Backpressure.Proofs.Pipeline.Resumption
import Backpressure.Proofs.Pipeline.Source
import Backpressure.Proofs.Pipeline.Window

/-!
# Expressions follow their meaning

Every publisher expression that has a meaning follows it, as long as each supply that it draws
from can be counted in the demand words. The proof is by recursion on the expression together with
the recoveries in it.

Main results:

- Theorem `Publisher.exists_meaning` shows that every plain expression has a meaning.
- Theorem `Publisher.items_eq_nil_of_failing` shows that an expression that fails has no items before that.
- Theorem `Network.follows_meaning` shows that an expression follows its meaning.
-/

namespace Backpressure

mutual

/-- Whether an expression is built from supplies of items and failures by the operators alone. -/
def Publisher.IsPlain {α σ : Type} : Publisher α σ → Prop
  | .items _ | .fail _ => True
  | .takeLast _ _ up => up.IsPlain
  | .resume _ recover up => up.IsPlain ∧ ∀ failure, (recover failure).IsPlain
  | .hand _ | .deferred _ | .named _ => False

/-- Whether a recovery decides at once, and for such an expression if it gives a publisher. -/
def Recovery.IsPlain {α σ : Type} : Recovery α σ → Prop
  | .to publisher => publisher.IsPlain
  | .nothing | .error _ | .panic _ => True
  | .perform _ _ => False

end

mutual

/-- Every plain expression has a meaning. -/
theorem Publisher.exists_meaning {α σ : Type} :
    ∀ publisher : Publisher α σ, publisher.IsPlain → ∃ meaning, publisher.meaning = some meaning
  | .items _, _ => ⟨_, rfl⟩
  | .fail _, _ => ⟨_, rfl⟩
  | .takeLast count delays up, h => by
      obtain ⟨inner, hinner⟩ := up.exists_meaning h
      exact ⟨inner.takeLast count delays, by rw [Publisher.meaning, hinner]; rfl⟩
  | .resume tag recover up, h => by
      obtain ⟨inner, hinner⟩ := up.exists_meaning h.1
      rcases inner with ⟨items, _ | failure⟩
      · exact ⟨{ items }, by rw [Publisher.meaning, hinner]⟩
      · obtain ⟨second, hsecond⟩ := (recover failure).exists_meaning (h.2 failure) failure
        exact ⟨second.append items, by rw [Publisher.meaning, hinner]; simp [hsecond]⟩
  | .hand _, h => h.elim
  | .deferred _, h => h.elim
  | .named _, h => h.elim

/-- What follows a failure under a plain recovery has a meaning. -/
theorem Recovery.exists_meaning {α σ : Type} :
    ∀ recovery : Recovery α σ, recovery.IsPlain → ∀ failure,
      ∃ meaning, recovery.meaning failure = some meaning
  | .to publisher, h, _ => publisher.exists_meaning h
  | .nothing, _, _ => ⟨_, rfl⟩
  | .error _, _, _ => ⟨_, rfl⟩
  | .panic (some _), _, _ => ⟨_, rfl⟩
  | .panic none, _, _ => ⟨_, rfl⟩
  | .perform _ _, h, _ => h.elim

end

mutual

/-- The most items that a supply holds from which an expression draws. -/
def Publisher.largestSupply {α σ : Type} : Publisher α σ → Nat
  | .items supply => supply.toList.length
  | .takeLast _ _ up => up.largestSupply
  | .resume _ recover up =>
      match up.meaning with
      | some { items := _, failure := some failure } =>
          max up.largestSupply (recover failure).largestSupply
      | _ => up.largestSupply
  | .fail _ | .hand _ | .deferred _ | .named _ => 0

/-- The most items that a supply holds from which the publisher of a recovery draws. -/
def Recovery.largestSupply {α σ : Type} : Recovery α σ → Nat
  | .to publisher => publisher.largestSupply
  | .nothing | .error _ | .panic _ | .perform _ _ => 0

end

mutual

/-- An expression that fails has no items before that. -/
theorem Publisher.items_eq_nil_of_failing {α σ : Type} :
    ∀ (publisher : Publisher α σ) {meaning : Meaning α}, publisher.meaning = some meaning →
      meaning.failure.isSome = true → meaning.items = []
  | .items supply, meaning, h, hfails => by
      cases h
      contradiction
  | .fail failure, meaning, h, _ => by
      cases h
      rfl
  | .takeLast count delays up, meaning, h, hfails => by
      obtain ⟨inner, hinner, rfl⟩ := Option.map_eq_some_iff.1 h
      rw [Meaning.failure_takeLast] at hfails
      exact Meaning.items_takeLast_eq_nil (up.items_eq_nil_of_failing hinner hfails) count delays
  | .resume tag recover up, meaning, h, hfails => by
      rcases hup : up.meaning with _ | ⟨items, _ | failure⟩
      · rw [Publisher.meaning, hup] at h
        contradiction
      · rw [Publisher.meaning, hup] at h
        cases h
        contradiction
      · have hnil : items = [] := up.items_eq_nil_of_failing hup rfl
        rw [Publisher.meaning, hup] at h
        obtain ⟨second, hsecond, rfl⟩ := Option.map_eq_some_iff.1 h
        have hrest := (recover failure).items_eq_nil_of_failing failure hsecond hfails
        rw [Meaning.append, hnil, hrest]
        rfl
  | .hand _, _, h, _ => by contradiction
  | .deferred _, _, h, _ => by contradiction
  | .named _, _, h, _ => by contradiction

/-- What follows a failure under a recovery has no items if it fails again. -/
theorem Recovery.items_eq_nil_of_failing {α σ : Type} :
    ∀ (recovery : Recovery α σ) (failure : Failure) {meaning : Meaning α},
      recovery.meaning failure = some meaning → meaning.failure.isSome = true →
      meaning.items = []
  | .to publisher, _, _, h, hfails => publisher.items_eq_nil_of_failing h hfails
  | .nothing, _, _, h, _ => by cases h; rfl
  | .error _, _, _, h, _ => by cases h; rfl
  | .panic (some _), _, _, h, _ => by cases h; rfl
  | .panic none, _, _, h, _ => by cases h; rfl
  | .perform _ _, _, _, h, _ => by contradiction

end

/-- A resumption has a meaning when its feed has one, and what follows a failure of that has. -/
theorem Publisher.meaning_resume_eq_some {α σ : Type} {tag : Option String}
    {recover : Failure → Recovery α σ} {up : Publisher α σ} {meaning : Meaning α}
    (h : (resume tag recover up).meaning = some meaning) :
    up.meaning = some meaning ∧ meaning.failure = none ∨
      ∃ failure, up.meaning = some { items := [], failure := some failure } ∧
        (recover failure).meaning failure = some meaning := by
  rcases hup : up.meaning with _ | ⟨items, _ | failure⟩
  · rw [Publisher.meaning, hup] at h
    contradiction
  · rw [Publisher.meaning, hup] at h
    cases h
    exact .inl ⟨rfl, rfl⟩
  · obtain rfl : items = [] := up.items_eq_nil_of_failing hup rfl
    rw [Publisher.meaning, hup] at h
    obtain ⟨second, hsecond, rfl⟩ := Option.map_eq_some_iff.1 h
    exact .inr ⟨failure, rfl, hsecond⟩

/-- An expression with a meaning mentions no publisher driven by hand and no name. -/
theorem Publisher.plain_of_meaning {α σ : Type} :
    ∀ (publisher : Publisher α σ) {meaning : Meaning α}, publisher.meaning = some meaning →
      publisher.mentioned = [] ∧ publisher.mentionedDeferred = [] ∧
        ∀ definition, publisher.resolve definition = publisher
  | .items supply, _, _ => ⟨rfl, rfl, fun _ => rfl⟩
  | .fail failure, _, _ => ⟨rfl, rfl, fun _ => rfl⟩
  | .takeLast count delays up, _, h => by
      obtain ⟨inner, hinner, -⟩ := Option.map_eq_some_iff.1 h
      obtain ⟨hhands, hdeferreds, hresolve⟩ := up.plain_of_meaning hinner
      exact ⟨hhands, hdeferreds, fun definition => by rw [resolve, hresolve]⟩
  | .resume tag recover up, _, h => by
      obtain ⟨inner, hinner⟩ : ∃ inner, up.meaning = some inner := by
        rcases meaning_resume_eq_some h with ⟨hup, -⟩ | ⟨failure, hup, -⟩ <;> exact ⟨_, hup⟩
      obtain ⟨hhands, hdeferreds, hresolve⟩ := up.plain_of_meaning hinner
      exact ⟨hhands, hdeferreds, fun definition => by rw [resolve, hresolve]⟩
  | .hand _, _, h => by contradiction
  | .deferred _, _, h => by contradiction
  | .named _, _, h => by contradiction

mutual

/-- An expression has no more items than a supply from which it draws. -/
theorem Publisher.length_items_le {α σ : Type} :
    ∀ (publisher : Publisher α σ) {meaning : Meaning α}, publisher.meaning = some meaning →
      meaning.items.length ≤ publisher.largestSupply
  | .items supply, meaning, h => by
      cases h
      exact Nat.le_refl _
  | .fail failure, meaning, h => by
      cases h
      exact Nat.le_refl _
  | .takeLast count delays up, meaning, h => by
      obtain ⟨inner, hinner, rfl⟩ := Option.map_eq_some_iff.1 h
      have hinnerLe := up.length_items_le hinner
      unfold Meaning.takeLast
      split
      · exact Nat.zero_le _
      · exact Nat.le_trans (Nat.le_of_eq (Meaning.length_lastItems count inner.items))
          (Nat.le_trans (Nat.min_le_right _ _) hinnerLe)
  | .resume tag recover up, meaning, h => by
      rcases Publisher.meaning_resume_eq_some h with ⟨hup, hnone⟩ | ⟨failure, hup, hsecond⟩
      · have hupLe := up.length_items_le hup
        rcases meaning with ⟨items, _ | failure⟩
        · rw [Publisher.largestSupply, hup]
          exact hupLe
        · contradiction
      · rw [Publisher.largestSupply, hup]
        exact Nat.le_trans ((recover failure).length_items_le failure hsecond)
          (Nat.le_max_right _ _)
  | .hand _, _, h => by contradiction
  | .deferred _, _, h => by contradiction
  | .named _, _, h => by contradiction

/-- What follows a failure has no more items than a supply from which it draws. -/
theorem Recovery.length_items_le {α σ : Type} :
    ∀ (recovery : Recovery α σ) (failure : Failure) {meaning : Meaning α},
      recovery.meaning failure = some meaning → meaning.items.length ≤ recovery.largestSupply
  | .to publisher, _, _, h => publisher.length_items_le h
  | .nothing, _, _, h => by cases h; exact Nat.le_refl _
  | .error _, _, _, h => by cases h; exact Nat.le_refl _
  | .panic (some _), _, _, h => by cases h; exact Nat.le_refl _
  | .panic none, _, _, h => by cases h; exact Nat.le_refl _
  | .perform _ _, _, _, h => by contradiction

end

namespace Network

variable {α : Type}

/-- Mentioning an expression that mentions nothing, and putting definitions into it, changes
nothing. -/
theorem plain_of_meaning {publisher : Publisher α (Action α)} {meaning : Meaning α}
    (h : publisher.meaning = some meaning) (network : Network α) :
    network.mention publisher = network ∧ network.resolve publisher = publisher := by
  obtain ⟨hhands, hdeferreds, hresolve⟩ := publisher.plain_of_meaning h
  exact ⟨by rw [mention, hhands, hdeferreds]; rfl, hresolve network.definitionOf⟩

mutual

/-- An expression follows its meaning. -/
theorem follows_meaning :
    ∀ (publisher : Publisher α (Action α)) {meaning : Meaning α},
      publisher.meaning = some meaning → publisher.largestSupply ≤ Demand.unbounded.toNat →
      Follows publisher meaning
  | .items supply, meaning, h, hroom => by
      cases h
      exact follows_items hroom
  | .fail failure, meaning, h, _ => by
      cases h
      exact follows_fail failure
  | .takeLast count delays up, meaning, h, hroom => by
      obtain ⟨inner, hinner, rfl⟩ := Option.map_eq_some_iff.1 h
      exact follows_takeLast (follows_meaning up hinner hroom)
        (Nat.le_trans (up.length_items_le hinner) hroom) count delays
  | .resume tag recover up, meaning, h, hroom => by
      have hitems := Nat.le_trans (Publisher.length_items_le _ h) hroom
      rcases Publisher.meaning_resume_eq_some h with ⟨hup, hnone⟩ | ⟨failure, hup, hsecond⟩
      · rcases meaning with ⟨items, _ | failure⟩
        · rw [Publisher.largestSupply, hup] at hroom
          exact follows_resume (follows_meaning up hup hroom) rfl hitems tag
        · contradiction
      · rw [Publisher.largestSupply, hup] at hroom
        exact follows_resume
          (follows_meaning up hup (Nat.le_trans (Nat.le_max_left _ _) hroom))
          ⟨rfl, recovers_meaning (recover failure) failure hsecond
            (Nat.le_trans (Nat.le_max_right _ _) hroom)⟩ hitems tag
  | .hand _, _, h, _ => by contradiction
  | .deferred _, _, h, _ => by contradiction
  | .named _, _, h, _ => by contradiction

/-- What follows a failure under a recovery follows its meaning. -/
theorem recovers_meaning :
    ∀ (recovery : Recovery α (Action α)) (failure : Failure) {meaning : Meaning α},
      recovery.meaning failure = some meaning →
      recovery.largestSupply ≤ Demand.unbounded.toNat → Recovers failure recovery meaning
  | .to publisher, _, _, h, hroom =>
      .subscribes (plain_of_meaning h) (follows_meaning publisher h hroom)
  | .nothing, _, _, h, _ => by cases h; exact .fails rfl
  | .error _, _, _, h, _ => by cases h; exact .fails rfl
  | .panic (some _), _, _, h, _ => by cases h; exact .fails rfl
  | .panic none, _, _, h, _ => by cases h; exact .fails rfl
  | .perform _ _, _, _, h, _ => by contradiction

end

end Network

end Backpressure
