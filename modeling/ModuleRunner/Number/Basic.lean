import ModuleRunner.Decimal.Numeral
import ModuleRunner.Text.Blank

/-!
# Numbers of the script language

A number is a double.  Addition, subtraction, multiplication, division and comparison are the
double's own; this module adds what the language defines beyond them.

* `Number.text` — how a number is printed: never with an exponent.
* `Number.ofText` — the number a text converts to, `NaN` if it is no numeral.
* `Number.remainder` — the remainder of a division, exact, with the sign of the dividend.
* `Number.toNat?`, `Number.truncate` — whole numbers out of doubles.
-/

namespace ModuleRunner.Number

open Decimal (Magnitude)

/-! ## Constants and classification -/

/-- Not a number. -/
def nan : Float := Float.ofBits 0x7FF8000000000000

/-- Positive infinity. -/
def infinity : Float := Float.ofBits 0x7FF0000000000000

/-- Negative infinity. -/
def negInfinity : Float := Float.ofBits 0xFFF0000000000000

/-- Whether the exponent field marks a number as an infinity or as no number. -/
def isFinite (x : Float) : Bool := (x.toBits >>> 52) &&& 0x7FF != 0x7FF

/-- Whether a number is the constant `NaN`. -/
def isNaN (x : Float) : Bool := x != x

/-- The sign bit; set for negative zero too. -/
def isNegative (x : Float) : Bool := x.toBits >>> 63 == 1

/-- The integer part, towards zero, of a finite number. -/
def truncate (x : Float) : Int :=
  let whole := (Magnitude.ofFloat x).floor
  if isNegative x then -(whole : Int) else whole

/-- Whether a number is finite and whole. -/
def isWhole (x : Float) : Bool := isFinite x && (Magnitude.ofFloat x).isWhole

/-- The natural number that a number is, if it is one.  Negative zero is zero. -/
def toNat? (x : Float) : Option Nat :=
  if isWhole x && 0 ≤ truncate x then some (truncate x).toNat else none

/-- The number of a natural number, rounded if it has more than 53 binary places. -/
def ofNat (n : Nat) : Float := Float.ofNat n

/-! ## Printing -/

/-- The text of a number.  Whole numbers below `10 ^ 21` show all their digits; any other number
shows the shortest digits that read back, an exact tie rounded away from zero, and zeros up to the
point. -/
def text (x : Float) : String :=
  if isNaN x then "NaN"
  else
    let sign := if isNegative x then "-" else ""
    if !isFinite x then sign ++ "Infinity"
    else
      let m := Magnitude.ofFloat x
      if m.significand = 0 then "0"
      else if m.isWhole && m.floor < Nat.pow 10 21 then sign ++ toString m.floor
      else sign ++ Decimal.plain (Decimal.shortest .away m)

/-! ## Reading -/

/-- The number of hexadecimal digits after their mark, if they fit into 64 bits.  One plus sign may
stand before them. -/
def ofHex? (cs : List Char) : Option Float :=
  let digits := match cs with
    | '+' :: r => r
    | r => r
  if digits.isEmpty then none
  else (Decimal.hexValueOf? digits).bind fun n => if n < Nat.pow 2 64 then some (ofNat n) else none

/-- Whether a character is a letter of the basic alphabet that no decimal numeral holds. -/
def isForeignLetter (c : Char) : Bool := c.isAlpha && c != 'e' && c != 'E'

/-- The number that a text converts to: its numeral without the blanks around it, zero for nothing
at all, and `NaN` for anything else. -/
def ofText (s : String) : Float :=
  match Text.trim s.toList with
  | [] => 0
  | '0' :: 'x' :: digits | '0' :: 'X' :: digits => (ofHex? digits).getD nan
  | cs =>
    if cs = "Infinity".toList || cs = "+Infinity".toList then infinity
    else if cs = "-Infinity".toList then negInfinity
    else if cs.any isForeignLetter then nan
    else (Decimal.signed? cs).getD nan

/-! ## Remainder -/

/-- The remainder of a division that truncates, exact, with the sign of the dividend.  There is
none after an infinite dividend or a zero divisor, and an infinite divisor leaves the dividend. -/
def remainder (x y : Float) : Float :=
  if isNaN x || isNaN y || !isFinite x || y == 0 then nan
  else if !isFinite y then x
  else
    let a := Magnitude.ofFloat x
    let b := Magnitude.ofFloat y
    let unit := min a.exponent b.exponent
    let scaled (m : Magnitude) : Nat := m.significand * Nat.pow 2 (m.exponent - unit).toNat
    Magnitude.toFloat (isNegative x) (scaled a % scaled b) unit

example : text 1e21 = "1000000000000000000000" := by decide +kernel
example : text 1e-7 = "0.0000001" := by decide +kernel
example : text (-0.0) = "0" := by decide +kernel
example : (remainder (-5.5) 2).toBits = (-1.5 : Float).toBits := by decide +kernel

end ModuleRunner.Number
