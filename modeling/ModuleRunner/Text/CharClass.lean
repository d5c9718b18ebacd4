/-!
# Classes of characters

A character property is a set of code points, and every property the script language asks about is
a short union of intervals.  `CharClass` keeps the intervals as they stand in the tables; membership
is a scan over them, and `contains_iff` says what the scan decides.

* `CharClass` — inclusive intervals of code points.
* `CharClass.contains` — membership of a character.
* `CharClass.contains_iff` — a character is in the class exactly when some interval covers it.
-/

namespace ModuleRunner.Text

/-- A set of characters, given by inclusive intervals of code points. -/
structure CharClass where
  /-- First and last code point of each interval. -/
  intervals : List (Nat × Nat)

namespace CharClass

/-- Whether some interval of the class covers the character. -/
def contains (k : CharClass) (c : Char) : Bool :=
  k.intervals.any fun i => i.1 ≤ c.toNat && c.toNat ≤ i.2

/-- Membership is being covered: the scan neither skips an interval nor adds one. -/
theorem contains_iff (k : CharClass) (c : Char) :
    k.contains c = true ↔ ∃ i ∈ k.intervals, i.1 ≤ c.toNat ∧ c.toNat ≤ i.2 := by
  simp [contains]

end CharClass

end ModuleRunner.Text
