/-!
# Magnitudes of doubles

A finite double without its sign is a whole number times a power of two.  `Magnitude` holds the two
numbers, so that everything the library asks of a double beyond the four basic operations — is it
whole, what is its integer part, which decimals read back as it, what is the remainder of a
division — is exact arithmetic on `Nat` and `Int`.

* `Magnitude.ofBits` — decodes the bit pattern of a finite double.
* `Magnitude.floor`, `Magnitude.isWhole` — the integer part, and whether there is nothing else.
* `Magnitude.toBits` — encodes a magnitude that is exactly a double.
-/

namespace ModuleRunner.Decimal

/-- A finite magnitude: `significand * 2 ^ exponent`. -/
structure Magnitude where
  /-- The whole number that is scaled. -/
  significand : Nat
  /-- The power of two that scales it. -/
  exponent : Int
  /-- The double below is only half as far away as the double above. -/
  closeBelow : Bool
deriving DecidableEq, Repr

namespace Magnitude

/-- Decodes the bits of a finite double, its sign left aside. -/
def ofBits (bits : UInt64) : Magnitude :=
  let scale := ((bits >>> 52) &&& 0x7FF).toNat
  let fraction := (bits &&& 0xFFFFFFFFFFFFF).toNat
  if scale = 0 then ⟨fraction, -1074, false⟩
  else ⟨Nat.pow 2 52 + fraction, (scale : Int) - 1075, fraction == 0 && scale > 1⟩

/-- The magnitude of a finite double. -/
def ofFloat (x : Float) : Magnitude := ofBits x.toBits

/-- The integer part. -/
def floor (m : Magnitude) : Nat :=
  if 0 ≤ m.exponent then m.significand * Nat.pow 2 m.exponent.toNat
  else m.significand / Nat.pow 2 (-m.exponent).toNat

/-- Whether the magnitude is a whole number. -/
def isWhole (m : Magnitude) : Bool :=
  0 ≤ m.exponent || m.significand % Nat.pow 2 (-m.exponent).toNat == 0

/-- The bits of the double `significand * 2 ^ exponent`, for a product that is exactly a double:
the significand is moved to 53 binary places, or to fewer where the exponent is the least one. -/
def bitsOf (significand : Nat) (exponent : Int) : UInt64 :=
  if significand = 0 then 0
  else
    let lift : Int := 52 - (significand.log2 : Int)
    let moved (by' : Int) : Nat :=
      if 0 ≤ by' then significand * Nat.pow 2 by'.toNat
      else significand / Nat.pow 2 (-by').toNat
    let scale := exponent - lift + 1075
    if 1 ≤ scale then UInt64.ofNat (scale.toNat * Nat.pow 2 52 + (moved lift - Nat.pow 2 52))
    else UInt64.ofNat (moved (exponent + 1074))

/-- The double of a magnitude, positive or negative. -/
def toFloat (negative : Bool) (significand : Nat) (exponent : Int) : Float :=
  Float.ofBits (bitsOf significand exponent ||| if negative then 0x8000000000000000 else 0)

/-- A whole magnitude is its integer part. -/
theorem significand_eq_floor_mul {m : Magnitude} (h : m.isWhole = true) (hneg : m.exponent < 0) :
    m.significand = m.floor * Nat.pow 2 (-m.exponent).toNat := by
  have hnot : ¬ 0 ≤ m.exponent := by omega
  simp only [isWhole, hnot, decide_false, Bool.false_or, beq_iff_eq] at h
  simp only [floor, hnot, if_false]
  exact (Nat.div_mul_cancel (Nat.dvd_of_mod_eq_zero h)).symm

end Magnitude

end ModuleRunner.Decimal
