import Backpressure.Text.Marks
import Backpressure.Text.Unprintable

/-!
# Quoted text

The quoted form of a text: between double quotes, on one line, with the quote, the backslash
and every character that cannot be seen on its own written as an escape.

Main results:

- Theorem `escape_of_plain` shows that a character that needs no escape stands for itself.
- Theorem `isShown_of_ascii` shows that the printable characters of ASCII need none, except the
  quote and the backslash.
- Theorem `isShown_eq` shows that the rule for ASCII says what the tables say, except of the space.
- Theorem `quote_toList` reads a quoted text as the escapes of its characters between two quotes.
-/

namespace Backpressure.Text

/-! ## Characters that are shown -/

/-- The letters that hold a place in a syllable block and are not drawn. -/
def fillers : Ranges := [(0x115f, 0x1160), (0x3164, 0x3164), (0xffa0, 0xffa0)]

/-- Whether a character can be seen on its own: it has a glyph, and is not drawn onto the
character before it. Of ASCII these are the characters from the space to the tilde. -/
def isShown (c : Char) : Bool :=
  if c.toNat < 0x7f then 0x20 ≤ c.toNat
  else
    !(unprintable.contains c.toNat || extendingMarks.contains c.toNat ||
      fillers.contains c.toNat)

/-- The printable characters of ASCII are shown. -/
theorem isShown_of_ascii {c : Char} (hlow : 0x20 ≤ c.toNat) (hhigh : c.toNat < 0x7f) :
    isShown c = true := by
  rw [isShown, if_pos hhigh]
  exact decide_eq_true hlow

/-- The rule for ASCII says of every character but the space what the tables say. -/
theorem isShown_eq {c : Char} (hspace : c.toNat ≠ 0x20) :
    isShown c = !(unprintable.contains c.toNat || extendingMarks.contains c.toNat ||
      fillers.contains c.toNat) := by
  by_cases hhigh : c.toNat < 0x7f
  · have hmarks : extendingMarks.contains c.toNat = false :=
      Ranges.contains_eq_false_of_lt ascendingFrom_extendingMarks (by omega)
    have hfrom : fillers.ascendingFrom 0x115f = true := rfl
    have hfillers : fillers.contains c.toNat = false :=
      Ranges.contains_eq_false_of_lt hfrom (by omega)
    have hlater : Ranges.contains unprintable.tail c.toNat = false :=
      Ranges.contains_eq_false_of_lt ascendingFrom_tail_unprintable hhigh
    have hfirst : unprintable.contains c.toNat =
        (decide (0 ≤ c.toNat) && decide (c.toNat ≤ 0x20) ||
          Ranges.contains unprintable.tail c.toNat) := rfl
    rw [isShown, if_pos hhigh, hmarks, hfillers, hfirst, hlater]
    simp only [Nat.zero_le, decide_true, Bool.true_and, Bool.or_false, ← decide_not]
    exact decide_eq_decide.2 (by omega)
  · rw [isShown, if_neg hhigh]

/-! ## Escapes -/

/-- The escape by code point: lower-case hexadecimal digits without padding, between braces. -/
def codePoint (c : Char) : List Char :=
  '\\' :: 'u' :: '\x7b' :: (Nat.toDigits 16 c.toNat ++ ['\x7d'])

/-- The escape of one character: the short escapes first, then the code point for the other
characters that are not shown, and the character itself for the rest. -/
def escape (c : Char) : List Char :=
  if c = '"' then ['\\', '"']
  else if c = '\\' then ['\\', '\\']
  else if c = '\n' then ['\\', 'n']
  else if c = '\r' then ['\\', 'r']
  else if c = '\t' then ['\\', 't']
  else if c = '\x00' then ['\\', '0']
  else if isShown c then [c]
  else codePoint c

/-- A character that is shown and is no quote and no backslash is written as it is. -/
theorem escape_of_plain {c : Char} (hquote : c ≠ '"') (hslash : c ≠ '\\')
    (hshown : isShown c = true) : escape c = [c] := by
  have hne : ∀ d : Char, isShown d = false → c ≠ d := by
    rintro d hd rfl
    simp [hd] at hshown
  simp [escape, hquote, hslash, hshown, hne '\n' (by decide), hne '\r' (by decide),
    hne '\t' (by decide), hne '\x00' (by decide)]

/-! ## Quoting -/

/-- Quote a text. -/
def quote (s : String) : String :=
  String.ofList ('"' :: (s.toList.flatMap escape ++ ['"']))

/-- A quoted text is the escapes of the characters, in order, between two quotes. -/
theorem quote_toList (s : String) :
    (quote s).toList = '"' :: (s.toList.flatMap escape ++ ['"']) := by
  simp [quote]

end Backpressure.Text
