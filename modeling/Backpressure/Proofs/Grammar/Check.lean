import Backpressure.Proofs.Grammar.Parse

/-!
# Checking a history

The check of a history looks at it three times: at its first signal, at the number of its
subscriptions, and at what comes behind its first terminal signal. Going through the grammar once,
from signal to signal, comes to the same, so that the check accepts the histories that follow the
grammar and no others. A history that does not is reported under the first rule that it breaks.

Main results:

- Theorem `goesOn_iff` finds what follows the first terminal signal.
- Theorem `wellFormed_iff` states the grammar as the three things that the check looks at.
- Theorem `breach?_eq_none_iff` shows that the check accepts exactly the well-formed histories.
- Theorem `report_of_history` gives the report on every history.
-/

namespace Backpressure

namespace History

variable {α : Type} {history : List (Signal α)}

/-! ## The three looks -/

/-- A check for something behind a terminal signal goes on past any other signal. -/
theorem goesOn_cons_of_not_terminal {signal : Signal α} (h : signal.isTerminal = false)
    (rest : List (Signal α)) : goesOn (signal :: rest) = goesOn rest := by
  simp [goesOn, h]

/-- Whatever comes before it, a terminal signal that is not the last one is followed by
something. -/
theorem goesOn_append_of_terminal (before : List (Signal α)) {signal : Signal α}
    {after : List (Signal α)} (hsignal : signal.isTerminal = true) (hafter : after ≠ []) :
    goesOn (before ++ signal :: after) = true := by
  induction before with
  | nil => simp [goesOn, hsignal, hafter]
  | cons first before ih =>
      rw [List.cons_append, goesOn]
      split
      · simp
      · exact ih

/-- Something follows a terminal signal exactly if the first terminal signal is not the last signal
of all. -/
theorem goesOn_iff : goesOn history = true ↔
    ∃ before signal after, history = before ++ signal :: after ∧ terminals before = 0 ∧
      signal.isTerminal = true ∧ after ≠ [] := by
  constructor
  · intro h
    induction history with
    | nil => contradiction
    | cons first rest ih =>
        cases hfirst : first.isTerminal with
        | true =>
            rw [goesOn, if_pos hfirst] at h
            exact ⟨[], first, rest, rfl, rfl, hfirst, by simpa using h⟩
        | false =>
            rw [goesOn_cons_of_not_terminal hfirst] at h
            obtain ⟨before, signal, after, rfl, hbefore, hsignal, hafter⟩ := ih h
            refine ⟨first :: before, signal, after, rfl, ?_, hsignal, hafter⟩
            rw [terminals, List.countP_cons, hfirst]
            exact hbefore
  · rintro ⟨before, signal, after, rfl, -, hsignal, hafter⟩
    exact goesOn_append_of_terminal before hsignal hafter

/-- No subscription is counted exactly if there is none. -/
theorem count_subscribe_eq_zero_iff :
    count .subscribe history = 0 ↔ ¬ ∃ signal ∈ history, signal.kind = .subscribe := by
  simp [count, List.countP_eq_zero]

/-- The check of a history that begins with a subscription looks at the rest of it. -/
theorem breach?_subscribe_cons (rest : List (Signal α)) :
    breach? (.subscribe :: rest) =
      if count .subscribe rest ≠ 0 then some .subscribedAgain
      else if goesOn rest then some .signalAfterTerminal
      else none := by
  have hcount : count .subscribe (Signal.subscribe :: rest) = count .subscribe rest + 1 := by
    simp [count, Signal.kind]
  have hgoesOn : goesOn (Signal.subscribe :: rest) = goesOn rest :=
    goesOn_cons_of_not_terminal rfl rest
  simp only [breach?, hcount, hgoesOn, Nat.add_eq_right, ne_eq]

/-! ## One pass through the grammar -/

/-- Behind a terminal signal nothing can be read. -/
theorem isSome_parseFrom_closed_iff :
    (parseFrom (some .closed) history).isSome = true ↔ history = [] := by
  constructor
  · intro h
    rcases history with _ | ⟨signal, rest⟩
    · rfl
    · obtain ⟨first, next, hfirst, hnext⟩ := exists_of_parseFrom_cons h
      obtain rfl := Option.some.inj hfirst
      exact absurd hnext Parse.next?_closed_ne
  · rintro rfl
    rfl

/-- What comes after a subscription can be read to its end exactly if it holds no other subscription
and nothing behind its first terminal signal. -/
theorem isSome_parseFrom_opened_iff :
    (parseFrom (some .opened) history).isSome = true ↔
      count .subscribe history = 0 ∧ goesOn history = false := by
  induction history with
  | nil => exact ⟨fun _ => ⟨rfl, rfl⟩, fun _ => rfl⟩
  | cons signal rest ih =>
      have hcons : parseFrom (some .opened) (signal :: rest) =
          parseFrom (Parse.opened.next? signal.kind) rest := rfl
      rw [hcons]
      cases signal with
      | subscribe => simp [Parse.next?, Signal.kind, count]
      | next x =>
          rw [goesOn_cons_of_not_terminal rfl]
          refine ih.trans (and_congr_left fun _ => ?_)
          simp [count, Signal.kind]
      | error failure =>
          refine isSome_parseFrom_closed_iff.trans ⟨?_, fun h => ?_⟩
          · rintro rfl
            exact ⟨rfl, rfl⟩
          · simpa [goesOn, Signal.isTerminal] using h.2
      | complete =>
          refine isSome_parseFrom_closed_iff.trans ⟨?_, fun h => ?_⟩
          · rintro rfl
            exact ⟨rfl, rfl⟩
          · simpa [goesOn, Signal.isTerminal] using h.2

/-- A history follows the grammar exactly if it begins with a subscription, holds no other one, and
does not go on behind its first terminal signal. -/
theorem wellFormed_iff : WellFormed history ↔
    ∃ rest, history = .subscribe :: rest ∧ count .subscribe rest = 0 ∧ goesOn rest = false := by
  constructor
  · intro h
    have hparse := grammatical_iff.1 (.inr h)
    obtain ⟨xs, ending, rfl, -⟩ := h
    exact ⟨_, rfl, isSome_parseFrom_opened_iff.1 hparse⟩
  · rintro ⟨rest, rfl, hrest⟩
    have hparse : (parse (.subscribe :: rest)).isSome = true :=
      isSome_parseFrom_opened_iff.2 hrest
    exact (grammatical_iff.2 hparse).resolve_left (List.cons_ne_nil _ _)

/-! ## The report -/

/-- The check accepts exactly the histories that follow the grammar. -/
theorem breach?_eq_none_iff : breach? history = none ↔ WellFormed history := by
  rw [wellFormed_iff]
  constructor
  · intro h
    rcases history with _ | ⟨_ | _ | _ | _, rest⟩
    case cons.subscribe =>
      rw [breach?_subscribe_cons] at h
      refine ⟨rest, rfl, ?_⟩
      by_cases hcount : count .subscribe rest = 0
      · cases hgoesOn : goesOn rest with
        | false => exact ⟨hcount, rfl⟩
        | true => simp [hcount, hgoesOn] at h
      · simp [hcount] at h
    all_goals exact absurd h (Option.some_ne_none _)
  · rintro ⟨rest, rfl, hcount, hgoesOn⟩
    rw [breach?_subscribe_cons]
    simp [hcount, hgoesOn]

/-- Checking a history decides whether it follows the grammar. -/
instance decidableWellFormed (history : List (Signal α)) : Decidable (WellFormed history) :=
  decidable_of_iff (breach? history = none) breach?_eq_none_iff

/-- Only the last two signals of this history break a rule. -/
example : ¬ WellFormed [Signal.subscribe, .next 1, .complete, .next 2] := by decide

/-- The check reports that a history goes on behind a terminal signal exactly if its one
subscription comes first and something does follow a terminal signal. -/
theorem breach?_eq_signalAfterTerminal_iff : breach? history = some .signalAfterTerminal ↔
    ∃ before signal after, history = .subscribe :: (before ++ signal :: after) ∧
      count .subscribe (before ++ signal :: after) = 0 ∧ signal.isTerminal = true ∧
        after ≠ [] := by
  constructor
  · intro h
    rcases history with _ | ⟨_ | _ | _ | _, rest⟩
    case cons.subscribe =>
      rw [breach?_subscribe_cons] at h
      by_cases hcount : count .subscribe rest = 0
      · cases hgoesOn : goesOn rest with
        | false => simp [hcount, hgoesOn] at h
        | true =>
            obtain ⟨before, signal, after, rfl, -, hsignal, hafter⟩ := goesOn_iff.1 hgoesOn
            exact ⟨before, signal, after, rfl, hcount, hsignal, hafter⟩
      · simp [hcount] at h
    all_goals simp [breach?] at h
  · rintro ⟨before, signal, after, rfl, hcount, hsignal, hafter⟩
    have hgoesOn : goesOn (before ++ signal :: after) = true :=
      goesOn_append_of_terminal before hsignal hafter
    rw [breach?_subscribe_cons, if_neg (not_not_intro hcount), if_pos hgoesOn]

/-- The report on every history. The check passes exactly if the history is one subscription, then
items, then nothing or one terminal signal. Otherwise it says that the subscription must come first,
if something else does or nothing at all; else that it must come once, if there is another one
anywhere; else that nothing may follow a terminal signal, and this it says exactly if something
does. -/
theorem report_of_history (history : List (Signal α)) :
    (breach? history = none ↔ WellFormed history) ∧
      ((breach? history).map Breach.message =
        if WellFormed history then none
        else if history.head?.map Signal.kind ≠ some .subscribe then
          some "first signal must be on_subscribe"
        else if ∃ signal ∈ history.tail, signal.kind = .subscribe then
          some "on_subscribe must be delivered exactly once"
        else some "no signal may follow a terminal signal") ∧
      ((breach? history).map Breach.message = some "no signal may follow a terminal signal" ↔
        ∃ before signal after, history = .subscribe :: (before ++ signal :: after) ∧
          count .subscribe (before ++ signal :: after) = 0 ∧ signal.isTerminal = true ∧
            after ≠ []) := by
  refine ⟨breach?_eq_none_iff, ?_, ?_⟩
  · by_cases hformed : WellFormed history
    · rw [if_pos hformed, breach?_eq_none_iff.2 hformed]
      rfl
    rw [if_neg hformed]
    rcases history with _ | ⟨_ | _ | _ | _, rest⟩
    case cons.subscribe =>
      have hhead : (Signal.subscribe :: rest).head?.map Signal.kind = some .subscribe := rfl
      rw [if_neg (not_not_intro hhead), List.tail_cons, breach?_subscribe_cons]
      by_cases hagain : ∃ signal ∈ rest, signal.kind = .subscribe
      · rw [if_pos hagain, if_pos (mt count_subscribe_eq_zero_iff.1 (not_not_intro hagain))]
        rfl
      · have hcount := count_subscribe_eq_zero_iff.2 hagain
        have hgoesOn : goesOn rest = true := by
          by_contra hstops
          exact hformed (wellFormed_iff.2 ⟨rest, rfl, hcount, by simpa using hstops⟩)
        rw [if_neg hagain, if_neg (not_not_intro hcount), if_pos hgoesOn]
        rfl
    all_goals rfl
  · rw [← breach?_eq_signalAfterTerminal_iff]
    cases breach? history with
    | none => simp
    | some breach => cases breach <;> simp [Breach.message]

/-- A second subscription is reported before what follows a terminal signal. -/
example : (breach? [.subscribe, .next 1, .complete, .subscribe]).map Breach.message =
    some "on_subscribe must be delivered exactly once" := by decide

end History

end Backpressure
