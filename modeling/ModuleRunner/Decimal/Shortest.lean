import ModuleRunner.Decimal.Magnitude

/-!
# The shortest decimal that reads back

A double stands for an interval of reals: all those that round to it.  The digits worth printing are
the fewest whose decimal lies in that interval, and among those the decimal nearest to the double.

The search follows the definition.  For one, two, … places it looks at the two multiples of the
place value that surround the double, and stops at the first grid where one of them reads back.

* `Digits` — a decimal `digits * 10 ^ exponent`.
* `Digits.readsBack` — the decimal lies among the reals that round to the magnitude.
* `Tie` — which of two equally near decimals to take.
* `shortest` — the digits of a magnitude.
-/

namespace ModuleRunner.Decimal

/-- The decimal `digits * 10 ^ exponent`. -/
structure Digits where
  /-- The digits, read as a whole number. -/
  digits : Nat
  /-- The power of ten that scales them. -/
  exponent : Int
deriving DecidableEq, Repr

/-- Which of two equally near decimals is taken. -/
inductive Tie where
  /-- The one whose last digit is even. -/
  | even
  /-- The one further from zero. -/
  | away
deriving DecidableEq, Repr

/-- Compares `a * 10 ^ i` with `b * 2 ^ j`. -/
def compareScaled (a : Nat) (i : Int) (b : Nat) (j : Int) : Ordering :=
  compare (a * Nat.pow 10 i.toNat * Nat.pow 2 (-j).toNat)
    (b * Nat.pow 2 j.toNat * Nat.pow 10 (-i).toNat)

/-- Whether a decimal rounds to the magnitude.  The interval reaches half-way to either neighbour,
and its ends belong to it when the significand is even. -/
def Digits.readsBack (d : Digits) (m : Magnitude) : Bool :=
  let below := 4 * m.significand - if m.closeBelow then 1 else 2
  let above := 4 * m.significand + 2
  let closed := m.significand % 2 == 0
  let low := compareScaled d.digits d.exponent below (m.exponent - 2)
  let high := compareScaled d.digits d.exponent above (m.exponent - 2)
  (low == .gt || closed && low == .eq) && (high == .lt || closed && high == .eq)

/-- The number of decimal digits of a whole number. -/
def places (n : Nat) : Nat := (Nat.toDigits 10 n).length

/-- The least power of ten above a magnitude that is not zero.  Every double is above `10 ^ -400`,
so the digits of its integer part four hundred places to the left tell its size. -/
def scaleOf (m : Magnitude) : Int :=
  let lifted := m.significand * Nat.pow 10 400
  let whole := if 0 ≤ m.exponent then lifted * Nat.pow 2 m.exponent.toNat
    else lifted / Nat.pow 2 (-m.exponent).toNat
  (places whole : Int) - 400

/-- The multiple of `10 ^ grid` just below the magnitude, counted in that unit. -/
def countBelow (m : Magnitude) (grid : Int) : Nat :=
  (m.significand * Nat.pow 2 m.exponent.toNat * Nat.pow 10 (-grid).toNat) /
    (Nat.pow 2 (-m.exponent).toNat * Nat.pow 10 grid.toNat)

/-- The nearer of the neighbours `count` and `count + 1` of the magnitude, counted in units of
`10 ^ grid`: the magnitude is compared with the point half-way between them. -/
def nearer (tie : Tie) (m : Magnitude) (grid : Int) (count : Nat) : Nat :=
  match compareScaled (2 * count + 1) grid (2 * m.significand) m.exponent with
  | .gt => count
  | .lt => count + 1
  | .eq =>
    match tie with
    | .away => count + 1
    | .even => if count % 2 = 0 then count else count + 1

/-- The neighbour on one grid that reads back, the nearer if both do. -/
def onGrid? (tie : Tie) (m : Magnitude) (grid : Int) : Option Digits :=
  let count := countBelow m grid
  let lower : Digits := ⟨count, grid⟩
  let upper : Digits := ⟨count + 1, grid⟩
  match lower.readsBack m, upper.readsBack m with
  | true, true => some ⟨nearer tie m grid count, grid⟩
  | true, false => some lower
  | false, true => some upper
  | false, false => none

/-- Tries grids from `10 ^ grid` downward, each a tenth of the one before. -/
def search (tie : Tie) (m : Magnitude) (grid : Int) : Nat → Option Digits
  | 0 => none
  | tries + 1 =>
    match onGrid? tie m grid with
    | some d => some d
    | none => search tie m (grid - 1) tries

/-- The exact decimal of a magnitude: a negative power of two is a power of five, scaled. -/
def exact (m : Magnitude) : Digits :=
  if 0 ≤ m.exponent then ⟨m.significand * Nat.pow 2 m.exponent.toNat, 0⟩
  else ⟨m.significand * Nat.pow 5 (-m.exponent).toNat, m.exponent⟩

/-- Moves trailing zeros of the digits into the exponent. -/
def Digits.strip (d : Digits) : Nat → Digits
  | 0 => d
  | tries + 1 =>
    if d.digits ≠ 0 ∧ d.digits % 10 = 0 then Digits.strip ⟨d.digits / 10, d.exponent + 1⟩ tries
    else d

/-- The shortest decimal that reads back as the magnitude, without trailing zeros.  Seventeen places
always suffice, so the exact decimal is there only to make the function total. -/
def shortest (tie : Tie) (m : Magnitude) : Digits :=
  if m.significand = 0 then ⟨0, 0⟩
  else
    let d := (search tie m (scaleOf m - 1) 18).getD (exact m)
    d.strip (places d.digits)

/-- What a grid offers reads back. -/
theorem readsBack_of_onGrid? {tie : Tie} {m : Magnitude} {grid : Int} {d : Digits}
    (h : onGrid? tie m grid = some d) : d.readsBack m = true := by
  simp only [onGrid?] at h
  split at h <;> simp only [Option.some.injEq, reduceCtorEq] at h <;> subst h
  · rename_i hl hu
    simp only [nearer]
    split <;> (try split) <;> (try split) <;> assumption
  · assumption
  · assumption

/-- What the search finds reads back. -/
theorem readsBack_of_search {tie : Tie} {m : Magnitude} {d : Digits} :
    ∀ {tries : Nat} {grid : Int}, search tie m grid tries = some d → d.readsBack m = true
  | 0, _, h => by simp [search] at h
  | _ + 1, _, h => by
    simp only [search] at h
    split at h
    · rename_i heq
      exact readsBack_of_onGrid? (by rw [heq, h])
    · exact readsBack_of_search h

example : shortest .even (.ofFloat 0.1) = ⟨1, -1⟩ := by decide +kernel
example : shortest .even (.ofBits 1) = ⟨5, -324⟩ := by decide +kernel
example : shortest .away (.ofFloat 9007199254740993) = ⟨9007199254740992, 0⟩ := by decide +kernel

end ModuleRunner.Decimal
