/-!
# Ranges of code points

A property of characters is given by the ranges of the code points that have it, in ascending
order and apart from each other.

Main results:

- Theorem `contains_iff` reads a look-up as the existence of a range.
- Theorem `contains_eq_false_of_lt` shows that an ascending list holds nothing below its start.
-/

namespace Backpressure.Text

/-- Ranges of code points, each by its first and its last member. -/
abbrev Ranges := List (Nat × Nat)

namespace Ranges

/-- Whether a code point lies in one of the ranges. -/
def contains (ranges : Ranges) (point : Nat) : Bool :=
  ranges.any fun range => range.1 ≤ point && point ≤ range.2

/-- Whether every range lies at or above a code point and below the next range, with a gap between
the two. -/
def ascendingFrom (low : Nat) : Ranges → Bool
  | [] => true
  | range :: rest => low ≤ range.1 && range.1 ≤ range.2 && ascendingFrom (range.2 + 2) rest

/-- A code point is found exactly if it lies in a range. -/
theorem contains_iff {ranges : Ranges} {point : Nat} :
    ranges.contains point = true ↔ ∃ range ∈ ranges, range.1 ≤ point ∧ point ≤ range.2 := by
  simp [contains]

/-- Ascending ranges hold no code point below the start. -/
theorem contains_eq_false_of_lt {ranges : Ranges} {low point : Nat}
    (hascending : ranges.ascendingFrom low = true) (hlt : point < low) :
    ranges.contains point = false := by
  induction ranges generalizing low with
  | nil => rfl
  | cons range rest ih =>
      simp only [ascendingFrom, Bool.and_eq_true, decide_eq_true_eq] at hascending
      obtain ⟨⟨hlow, hle⟩, hrest⟩ := hascending
      have hbelow : (range.1 ≤ point && point ≤ range.2) = false := by
        simp only [Bool.and_eq_false_iff, decide_eq_false_iff_not]
        omega
      have htail : Ranges.contains rest point = false := ih hrest (by omega)
      rw [contains, List.any_cons, hbelow, Bool.false_or]
      exact htail

end Ranges

end Backpressure.Text
