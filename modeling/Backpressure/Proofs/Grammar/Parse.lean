import Backpressure.Signal.Grammar
import Mathlib.Data.List.Induction

/-!
# Going through the grammar

A history is read from its first signal on. It is silent until it is subscribed, open until a
terminal signal comes, and closed after that; a signal that the grammar does not allow leaves no way
to go on.

Main results:

- Theorem `grammatical_iff` shows that the histories that can be read to their end are those that
  are empty or well formed.
- Theorem `parse_append` reads two histories in a row.
-/

namespace Backpressure

/-- How far a history has gone through the grammar. -/
inductive Parse where
  | silent
  | opened
  | closed
  deriving DecidableEq

/-- Where a signal of a kind leads, if the grammar allows it. -/
def Parse.next? : Parse → Kind → Option Parse
  | .silent, .subscribe => some .opened
  | .opened, .next => some .opened
  | .opened, .error | .opened, .complete => some .closed
  | _, _ => none

namespace Parse

variable {α : Type}

/-- What is heard after nothing but items came is read as an item, or ends the history. -/
theorem next?_opened {signal : Signal α} {last : Parse}
    (h : Parse.opened.next? signal.kind = some last) :
    (∃ x, signal = .next x ∧ last = .opened) ∨
      ((signal = .complete ∨ ∃ failure, signal = .error failure) ∧ last = .closed) := by
  cases signal with
  | subscribe => exact absurd h (Option.some_ne_none last).symm
  | next x => exact .inl ⟨x, rfl, (Option.some.inj h).symm⟩
  | error failure => exact .inr ⟨.inr ⟨failure, rfl⟩, (Option.some.inj h).symm⟩
  | complete => exact .inr ⟨.inl rfl, (Option.some.inj h).symm⟩

/-- Nothing but a subscription begins a history. -/
theorem next?_silent {signal : Signal α} {last : Parse}
    (h : Parse.silent.next? signal.kind = some last) : signal = .subscribe ∧ last = .opened := by
  cases signal with
  | subscribe => exact ⟨rfl, (Option.some.inj h).symm⟩
  | next | error | complete => exact absurd h (Option.some_ne_none last).symm

/-- Nothing follows a terminal signal. -/
theorem next?_closed_ne {kind : Kind} {last : Parse} : Parse.closed.next? kind ≠ some last := by
  cases kind <;> exact (Option.some_ne_none last).symm

end Parse

/-- A history has not begun, or follows the grammar. -/
def Grammatical {α : Type} (history : List (Signal α)) : Prop := history = [] ∨ WellFormed history

namespace History

variable {α : Type} {history first second : List (Signal α)}

/-- How far a history leads from some point on. -/
def parseFrom (parse : Option Parse) (history : List (Signal α)) : Option Parse :=
  history.foldl (fun parse signal => parse.bind (·.next? signal.kind)) parse

/-- How far a history has gone, if the grammar allows it. -/
def parse (history : List (Signal α)) : Option Parse := parseFrom (some .silent) history

/-- Two histories in a row. -/
theorem parse_append (first second : List (Signal α)) :
    parse (first ++ second) = parseFrom (parse first) second :=
  List.foldl_append

/-- One more signal. -/
theorem parse_concat (history : List (Signal α)) (signal : Signal α) :
    parse (history ++ [signal]) = (parse history).bind (·.next? signal.kind) :=
  parse_append history [signal]

/-- What the grammar does not allow it does not allow later. -/
@[simp] theorem parseFrom_none (history : List (Signal α)) : parseFrom none history = none := by
  induction history with
  | nil => rfl
  | cons signal rest ih => exact ih

/-- What can be read is read from the first signal on. -/
theorem exists_of_parseFrom_cons {start : Option Parse} {signal : Signal α}
    (h : (parseFrom start (signal :: history)).isSome = true) :
    ∃ first next, start = some first ∧ first.next? signal.kind = some next := by
  have hcons : parseFrom start (signal :: history) =
      parseFrom (start.bind (·.next? signal.kind)) history := rfl
  rw [hcons] at h
  cases hnext : start.bind (·.next? signal.kind) with
  | none =>
      rw [hnext, parseFrom_none] at h
      exact absurd h Bool.false_ne_true
  | some next =>
      obtain ⟨first, hfirst, hsignal⟩ := Option.bind_eq_some_iff.1 hnext
      exact ⟨first, next, hfirst, hsignal⟩

/-- A history that can be read was read up to each of its points. -/
theorem parse_of_append {last : Parse} (h : parse (first ++ second) = some last) :
    ∃ middle, parse first = some middle ∧ parseFrom (some middle) second = some last := by
  rw [parse_append] at h
  cases hfirst : parse first with
  | none =>
      rw [hfirst, parseFrom_none] at h
      exact absurd h (Option.some_ne_none last).symm
  | some middle =>
      rw [hfirst] at h
      exact ⟨middle, rfl, h⟩

/-- A signal that can be read leads from one point to the next. -/
theorem parse_of_concat {signal : Signal α} {last : Parse}
    (h : parse (history ++ [signal]) = some last) :
    ∃ middle, parse history = some middle ∧ middle.next? signal.kind = some last :=
  parse_of_append h

/-! ## The grammar -/

/-- The histories that have gone to a point of the grammar. -/
def Reaches : Parse → List (Signal α) → Prop
  | .silent, history => history = []
  | .opened, history => ∃ xs : List α, history = .subscribe :: xs.map .next
  | .closed, history => ∃ (xs : List α) (last : Signal α),
      history = .subscribe :: (xs.map .next ++ [last]) ∧
        (last = .complete ∨ ∃ failure, last = .error failure)

/-- Items can be read one after the other. -/
theorem parseFrom_map_next (xs : List α) :
    parseFrom (some .opened) (xs.map Signal.next) = some .opened := by
  induction xs with
  | nil => rfl
  | cons x xs ih => exact ih

/-- A history is read up to the point of the grammar to which it has gone. -/
theorem parse_eq_some_iff {last : Parse} : parse history = some last ↔ Reaches last history := by
  constructor
  · intro h
    induction history using List.reverseRecOn generalizing last with
    | nil =>
        obtain rfl : Parse.silent = last := Option.some.inj h
        rfl
    | append_singleton history signal ih =>
        obtain ⟨middle, hmiddle, hnext⟩ := parse_of_concat h
        have hhistory := ih hmiddle
        cases middle with
        | silent =>
            obtain ⟨rfl, rfl⟩ := Parse.next?_silent hnext
            obtain rfl : history = [] := hhistory
            exact ⟨[], rfl⟩
        | opened =>
            obtain ⟨xs, rfl⟩ := hhistory
            obtain ⟨x, rfl, rfl⟩ | ⟨hlast, rfl⟩ := Parse.next?_opened hnext
            · exact ⟨xs ++ [x], by rw [List.map_append]; rfl⟩
            · exact ⟨xs, signal, rfl, hlast⟩
        | closed => exact absurd hnext Parse.next?_closed_ne
  · intro h
    cases last with
    | silent =>
        obtain rfl : history = [] := h
        rfl
    | opened =>
        obtain ⟨xs, rfl⟩ := h
        exact parseFrom_map_next xs
    | closed =>
        obtain ⟨xs, signal, rfl, hlast⟩ := h
        have hopened : parse (Signal.subscribe :: xs.map Signal.next) = some .opened :=
          parseFrom_map_next xs
        rw [← List.cons_append, parse_concat, hopened]
        rcases hlast with rfl | ⟨failure, rfl⟩ <;> rfl

/-- The histories that can be read to their end are those that are empty or well formed. -/
theorem grammatical_iff : Grammatical history ↔ (parse history).isSome = true := by
  rw [Option.isSome_iff_exists]
  constructor
  · rintro (rfl | ⟨xs, ending, rfl, hending⟩)
    · exact ⟨.silent, rfl⟩
    · rcases hending with rfl | rfl | ⟨failure, rfl⟩
      · exact ⟨.opened, parse_eq_some_iff.2 ⟨xs, by rw [List.append_nil]⟩⟩
      · exact ⟨.closed, parse_eq_some_iff.2 ⟨xs, _, rfl, .inl rfl⟩⟩
      · exact ⟨.closed, parse_eq_some_iff.2 ⟨xs, _, rfl, .inr ⟨failure, rfl⟩⟩⟩
  · rintro ⟨last, h⟩
    have hreaches := parse_eq_some_iff.1 h
    cases last with
    | silent => exact .inl hreaches
    | opened =>
        obtain ⟨xs, rfl⟩ := hreaches
        exact .inr ⟨xs, [], by rw [List.append_nil], .inl rfl⟩
    | closed =>
        obtain ⟨xs, signal, rfl, rfl | ⟨failure, rfl⟩⟩ := hreaches
        · exact .inr ⟨xs, [.complete], rfl, .inr (.inl rfl)⟩
        · exact .inr ⟨xs, [.error failure], rfl, .inr (.inr ⟨failure, rfl⟩)⟩

/-- Reading a history decides whether it follows the grammar. -/
instance decidableGrammatical (history : List (Signal α)) : Decidable (Grammatical history) :=
  decidable_of_iff _ grammatical_iff.symm

end History

end Backpressure
