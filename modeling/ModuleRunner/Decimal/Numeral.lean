import ModuleRunner.Decimal.Shortest

/-!
# Decimal numerals

Reading: a numeral is digits with an optional point and an optional exponent, and stands for the
double nearest to its exact value.  Writing: digits are laid out with a point and zeros only, or
with an exponent; which of the two a format uses is the format's own decision.

* `digitRun` — the digits a text starts with.
* `unsigned?` — reads a whole text as a numeral.
* `plain` — a decimal with a point and as many zeros as its exponent asks for.
-/

namespace ModuleRunner.Decimal

/-! ## Reading -/

/-- Whether a character is a decimal digit. -/
def isDigit (c : Char) : Bool := '0' ≤ c && c ≤ '9'

/-- The value of a decimal digit. -/
def digitValue (c : Char) : Nat := c.toNat - '0'.toNat

/-- The value of a hexadecimal digit of either case. -/
def hexValue? (c : Char) : Option Nat :=
  if isDigit c then some (digitValue c)
  else if 'a' ≤ c && c ≤ 'f' then some (c.toNat - 'a'.toNat + 10)
  else if 'A' ≤ c && c ≤ 'F' then some (c.toNat - 'A'.toNat + 10)
  else none

/-- Whether a character is a hexadecimal digit. -/
def isHexDigit (c : Char) : Bool := (hexValue? c).isSome

/-- The digits that a text starts with. -/
def digitRun (cs : List Char) : List Char := cs.takeWhile isDigit

/-- The whole number that digits write. -/
def valueOf (digits : List Char) : Nat :=
  digits.foldl (fun n c => 10 * n + digitValue c) 0

/-- The whole number that hexadecimal digits write, if all are. -/
def hexValueOf? (digits : List Char) : Option Nat :=
  digits.foldl (fun n c => n.bind fun n => (hexValue? c).map (16 * n + ·)) (some 0)

/-- The double nearest to `digits * 10 ^ exponent`.  Beyond the range of doubles the exponent alone
decides, so that no power of ten larger than needed is formed. -/
def nearest (digits : Nat) (exponent : Int) : Float :=
  if digits = 0 then 0
  else
    let scale := (places digits : Int) + exponent
    if scale > 400 then Float.ofBits 0x7FF0000000000000
    else if scale < -400 then 0
    else Float.ofScientific digits (exponent < 0) exponent.natAbs

/-- An exponent part: nothing, or `e` with an optional sign and at least one digit. -/
def exponent? : List Char → Option Int
  | [] => some 0
  | e :: rest =>
    if e = 'e' || e = 'E' then
      let (negative, digits) := match rest with
        | '-' :: ds => (true, ds)
        | '+' :: ds => (false, ds)
        | ds => (false, ds)
      if digits.isEmpty || !digits.all isDigit then none
      else some (if negative then -(valueOf digits : Int) else valueOf digits)
    else none

/-- Reads a whole text as a numeral without sign.  There is a digit before the point or after
it, and nothing follows the exponent. -/
def unsigned? (cs : List Char) : Option Float :=
  let whole := digitRun cs
  let rest := cs.drop whole.length
  let fraction := match rest with
    | '.' :: r => digitRun r
    | _ => []
  let rest := match rest with
    | '.' :: r => r.drop fraction.length
    | r => r
  if whole.isEmpty && fraction.isEmpty then none
  else (exponent? rest).map fun e => nearest (valueOf (whole ++ fraction)) (e - fraction.length)

/-- Reads a whole text as a numeral with an optional sign. -/
def signed? : List Char → Option Float
  | '-' :: r => (unsigned? r).map (-·)
  | '+' :: r => unsigned? r
  | r => unsigned? r

/-! ## Writing -/

/-- Zeros. -/
def zeros (n : Nat) : String := String.ofList (List.replicate n '0')

/-- A decimal with a point and zeros, and no exponent: `12300`, `1.23`, `0.00123`. -/
def plain (d : Digits) : String :=
  let text := toString d.digits
  if 0 ≤ d.exponent then text ++ zeros d.exponent.toNat
  else
    let after := (-d.exponent).toNat
    if after < text.length then
      let cut := text.length - after
      String.ofList (text.toList.take cut) ++ "." ++ String.ofList (text.toList.drop cut)
    else "0." ++ zeros (after - text.length) ++ text

example : plain ⟨15, -8⟩ = "0.00000015" := by decide +kernel
example : plain ⟨15, -1⟩ = "1.5" := by decide +kernel
example : (unsigned? "1.50e-3".toList).map Float.toBits = some (0.0015 : Float).toBits := by
  decide +kernel
example : (unsigned? "1e".toList).isNone ∧ (unsigned? ".".toList).isNone := by decide +kernel

end ModuleRunner.Decimal
