import ModuleRunner.Text.CharClass

/-!
# Blank characters

The characters that trimming removes from both ends of a text: the White_Space property, which is
wider than the blanks the scanner skips between tokens.

* `blank` — the property's intervals.
* `trim` — a list of characters without the blank ones at either end.
-/

namespace ModuleRunner.Text

/-- The White_Space property. -/
def blank : CharClass where
  intervals := [(0x9, 0xD), (0x20, 0x20), (0x85, 0x85), (0xA0, 0xA0), (0x1680, 0x1680),
    (0x2000, 0x200A), (0x2028, 0x2029), (0x202F, 0x202F), (0x205F, 0x205F), (0x3000, 0x3000)]

/-- Whether a character is blank. -/
def isBlank (c : Char) : Bool := blank.contains c

/-- The text between its first and its last character that is not blank. -/
def trim (cs : List Char) : List Char :=
  ((cs.dropWhile isBlank).reverse.dropWhile isBlank).reverse

/-- Every blank of the standard library's narrower class is blank here. -/
theorem isBlank_of_isWhitespace {c : Char} (h : c.isWhitespace = true) : isBlank c = true := by
  simp only [Char.isWhitespace, Bool.or_eq_true, decide_eq_true_eq] at h
  rcases h with ((rfl | rfl) | rfl) | rfl <;> decide

end ModuleRunner.Text
