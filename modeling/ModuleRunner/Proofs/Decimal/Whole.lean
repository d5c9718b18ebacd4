import Mathlib
import ModuleRunner.Number.Basic

/-!
# Whole numbers below `2 ^ 53`

A whole number below `2 ^ 53` is a double: its numeral is read without rounding.  The digits are
read by a conversion and a product with one, and both round; so what carries the proof is that
rounding a normal significand that was moved to the left moves it back (`round_exact`).

* `unpack_pack` — a normal double survives its bits.
* `round_exact` — what needs no rounding is not rounded.
* `lifted` — a whole number as a double has it.
* `unpack_nearest` — the double that digits stand for.
* `unpack_eq` — a finite double is its magnitude behind its sign.
* `unpack_of_isWhole` — the double that a whole magnitude was decoded from.
* `reread_beq` — a whole number equals what its digits are read as.
-/

namespace ModuleRunner.Decimal

open Float.Model Float.Model.UnpackedFloat

/-! ## Normal doubles -/

lemma one_append_toNat {w : Nat} (v : BitVec w) : (1#1 ++ v).toNat = 2 ^ w + v.toNat := by
  rw [BitVec.toNat_append, ← Nat.shiftLeft_add_eq_or_of_lt v.isLt]
  simp [Nat.shiftLeft_eq]

lemma ofBitVec_unpackSign {sign : Sign} {exponent : BitVec 11} {mantissa : BitVec 52} :
    Sign.ofBitVec (unpackSign (packComponents .binary64 sign exponent mantissa)) = sign := by
  simp only [unpackSign, packComponents, BitVec.extractLsb]
  rw [BitVec.extractLsb'_append_eq_of_le (by omega), BitVec.extractLsb'_append_eq_of_le (by omega)]
  cases sign <;> rfl

/-- A normal double survives its bits. -/
lemma unpack_pack {s : Sign} {m : Nat} {e : Int} (hm : 0 < m) (hlog : m.log2 = 52)
    (hlow : -1074 ≤ e) (hhigh : e ≤ 971) :
    (Float.Model.pack (.finite s m e hm)).unpack = .finite s m e hm := by
  obtain ⟨hmin, hmax⟩ := (Nat.log2_eq_iff hm.ne').mp hlog
  have hbias : (e + (Format.binary64.exponentBias : Int) +
      (Format.binary64.mantissaBitsWithoutImplicit : Int)).toNat = (e + 1075).toNat := by
    show (e + ((2 ^ (11 - 1) - 1 : Nat) : Int) + ((52 : Nat) : Int)).toNat = (e + 1075).toNat
    omega
  have hscale : (BitVec.ofNat 11 (e + 1075).toNat).toNat = (e + 1075).toNat := by
    rw [BitVec.toNat_ofNat, Nat.mod_eq_of_lt (by omega)]
  have hinfinite : BitVec.ofNat 11 (e + 1075).toNat ≠ -1#11 := fun heq => by
    have := hscale ▸ congrArg BitVec.toNat heq
    simp at this
    omega
  have hsubnormal : BitVec.ofNat 11 (e + 1075).toNat ≠ 0#11 := fun heq => by
    have := hscale ▸ congrArg BitVec.toNat heq
    simp at this
    omega
  show UnpackedFloat.unpack .binary64 (UnpackedFloat.pack .binary64 (.finite s m e hm)) = _
  rw [UnpackedFloat.pack]
  simp only [hlog, hbias]
  rw [if_neg (by omega), if_pos (by decide), UnpackedFloat.unpack]
  simp only [unpackMantissa_packComponents, unpackExponent_packComponents, ofBitVec_unpackSign]
  rw [if_neg hinfinite, if_neg hsubnormal]
  have hmantissa : (1#1 ++ BitVec.ofNat 52 m).toNat = m := by
    rw [one_append_toNat, BitVec.toNat_ofNat]
    omega
  have hbias' : ((Format.binary64.exponentBias : Nat) : Int) = 1023 := rfl
  simp only [hmantissa, hscale, hbias', finite.injEq, true_and]
  omega

/-! ## Rounding -/

lemma log2_mul_two_pow {m : Nat} (hm : m ≠ 0) (k : Nat) : (m * 2 ^ k).log2 = m.log2 + k := by
  obtain ⟨hmin, hmax⟩ := (Nat.log2_eq_iff hm).mp (rfl : m.log2 = m.log2)
  refine (Nat.log2_eq_iff (by positivity)).mpr ⟨?_, ?_⟩
  · rw [pow_add]
    exact Nat.mul_le_mul_right _ hmin
  · rw [show m.log2 + k + 1 = m.log2 + 1 + k by omega, pow_add]
    exact Nat.mul_lt_mul_of_pos_right hmax (by positivity)

/-- The mantissa of zeros shifted out is a quotient, and nothing is left of them. -/
lemma shiftRight_eq (m k : Nat) :
    (⟨m * 2 ^ k, false, false⟩ : ExtendedMantissa) >>> k = ⟨m, false, false⟩ := by
  show k.repeat ExtendedMantissa.shiftRightOne _ = _
  induction k generalizing m with
  | zero => simp [Nat.repeat]
  | succ k ih =>
      rw [Nat.repeat, pow_succ', ← mul_assoc, ih]
      simp [ExtendedMantissa.shiftRightOne]

lemma shiftToTargetExponent_eq {m k : Nat} {e : Int} (hlog : m.log2 = 52) (hlow : -1074 ≤ e) :
    shiftToTargetExponent .binary64 (m * 2 ^ k) (e - k) .exact = (⟨m, false, false⟩, e) := by
  have hm : m ≠ 0 := by rintro rfl; simp at hlog
  have htarget : Format.binary64.targetExponent (totalExponent (m * 2 ^ k) (e - k)) = e := by
    simp only [Format.targetExponent, totalExponent, log2_mul_two_pow hm, hlog,
      Format.mantissaBits, Format.minExponent]
    norm_num
    omega
  have hshift : (e - (e - (k : Int))).toNat = k := by omega
  simp only [shiftToTargetExponent, shiftToExponent, htarget, hshift,
    ExtendedMantissa.ofMantissaAndAccuracy, shiftRight_eq]
  simp

/-- What needs no rounding is not rounded. -/
lemma round_exact {s : Sign} {m k : Nat} {e : Int} (hm : 0 < m) (hlog : m.log2 = 52)
    (hlow : -1074 ≤ e) :
    roundWithAccuracy .binary64 s (m * 2 ^ k) (e - k) .exact = .finite s m e hm := by
  have hfirst := shiftToTargetExponent_eq (k := k) hlog hlow
  have hsecond : shiftToTargetExponent .binary64 m e .exact = (⟨m, false, false⟩, e) := by
    simpa using shiftToTargetExponent_eq (k := 0) hlog hlow
  have hrounded : (⟨m, false, false⟩ : ExtendedMantissa).roundedMantissa = m := rfl
  simp [roundWithAccuracy, hfirst, hrounded, hsecond, hm.ne']

/-! ## Digits -/

/-- A whole number below `2 ^ 53` as a double has it: its places are moved to the front. -/
def lifted (s : Sign) (n : Nat) (hpos : 0 < n) : UnpackedFloat :=
  .finite s (n * 2 ^ (52 - n.log2)) (-((52 - n.log2 : Nat) : Int)) (by positivity)

lemma log2_lift {n : Nat} (hpos : 0 < n) (hsmall : n < 2 ^ 53) :
    (n * 2 ^ (52 - n.log2)).log2 = 52 := by
  have hplaces : n.log2 < 53 := (Nat.log2_lt hpos.ne').mpr hsmall
  rw [log2_mul_two_pow hpos.ne']
  omega

lemma unpack_pack_lifted {s : Sign} {n : Nat} (hpos : 0 < n) (hsmall : n < 2 ^ 53) :
    (Float.Model.pack (lifted s n hpos)).unpack = lifted s n hpos :=
  unpack_pack _ (log2_lift hpos hsmall) (by omega) (by omega)

lemma unpack_neg {x : Float} {s : Sign} {n : Nat} {hpos : 0 < n}
    (h : x.toModel.unpack = lifted s n hpos) (hsmall : n < 2 ^ 53) :
    (-x).toModel.unpack = lifted (-s) n hpos := by
  show (Float.Model.pack x.toModel.unpack.neg).unpack = _
  rw [h]
  exact unpack_pack_lifted hpos hsmall

lemma unpack_ofUInt64 {n : Nat} (hpos : 0 < n) (hsmall : n < 2 ^ 53) :
    (Float.Model.ofUInt64 n.toUInt64).unpack = lifted .positive n hpos := by
  have hplaces : n.log2 < 53 := (Nat.log2_lt hpos.ne').mpr hsmall
  have hword : n.toUInt64.toNat = n := by
    rw [Nat.toUInt64_eq, UInt64.toNat_ofNat', Nat.mod_eq_of_lt (by omega)]
  have htarget : Format.binary64.targetExponent (totalExponent n 0) = (n.log2 : Int) - 52 := by
    simp only [Format.targetExponent, totalExponent, Format.mantissaBits, Format.minExponent]
    norm_num
    omega
  have hround : UnpackedFloat.ofUInt64 .binary64 n.toUInt64 = lifted .positive n hpos := by
    have hcompare : compare (n : Int) 0 = .gt := by
      rw [compare_gt_iff_gt]
      exact_mod_cast hpos
    have hamount : (0 - ((n.log2 : Int) - 52)).toNat = 52 - n.log2 := by omega
    simp only [UnpackedFloat.ofUInt64, UnpackedFloat.ofNat, UnpackedFloat.ofInt,
      UnpackedFloat.normalize, hword,
      hcompare, UnpackedFloat.round, Int.toNat_natCast, htarget, decreaseExponent, hamount,
      Nat.shiftLeft_eq]
    simpa [lifted] using round_exact (s := .positive) (k := 0) (e := -((52 - n.log2 : Nat) : Int))
      (by positivity) (log2_lift hpos hsmall) (by omega)
  rw [Float.Model.ofUInt64, hround]
  exact unpack_pack_lifted hpos hsmall

/-- A natural number as a double has it. -/
lemma toModel_ofNat {n : Nat} (hpos : 0 < n) (hsmall : n < 2 ^ 53) :
    (Number.ofNat n).toModel = .pack (lifted .positive n hpos) := by
  have hone : (Float.exactlyRepresentablePowersOfTen[0]).toModel.unpack =
      .finite .positive (2 ^ 52) (-52) (by decide) := rfl
  have hproduct : Number.ofNat n =
      .ofModel (.ofUInt64 n.toUInt64) * Float.exactlyRepresentablePowersOfTen[0] := by
    show Float.ofScientific n false 0 = _
    rw [Float.ofScientific, dif_pos ⟨hsmall, by decide⟩]
    rfl
  rw [hproduct]
  show Float.Model.pack (UnpackedFloat.mul .binary64 (Float.Model.ofUInt64 n.toUInt64).unpack _) = _
  rw [unpack_ofUInt64 hpos hsmall, hone]
  exact congrArg _ (round_exact (s := .positive) (k := 52) (by positivity) (log2_lift hpos hsmall)
    (by omega))

lemma unpack_ofNat {n : Nat} (hpos : 0 < n) (hsmall : n < 2 ^ 53) :
    (Number.ofNat n).toModel.unpack = lifted .positive n hpos := by
  rw [toModel_ofNat hpos hsmall]
  exact unpack_pack_lifted hpos hsmall

/-- The double that digits without point and exponent stand for. -/
lemma unpack_nearest {n : Nat} (hpos : 0 < n) (hsmall : n < 2 ^ 53) :
    (nearest n 0).toModel.unpack = lifted .positive n hpos := by
  have hplaces : places n ≤ 16 :=
    (Nat.length_toDigits_le_iff (by decide) (by decide)).mpr (by omega)
  have hlow : ¬ (places n : Int) + 0 < -400 := by omega
  have hhigh : ¬ (places n : Int) + 0 > 400 := by omega
  have hscientific : nearest n 0 = Number.ofNat n := by
    rw [nearest, if_neg hpos.ne']
    simp only [if_neg hhigh, if_neg hlow]
    rfl
  rw [hscientific]
  exact unpack_ofNat hpos hsmall

/-! ## Bits and magnitudes -/

/-- The bits of a double that say how it is scaled. -/
def scaleBits (x : Float) : Nat := ((x.toBits >>> 52) &&& 0x7FF).toNat

/-- The bits of a double behind its point. -/
def fractionBits (x : Float) : Nat := (x.toBits &&& 0xFFFFFFFFFFFFF).toNat

/-- The sign of a double. -/
def signOf (x : Float) : Sign := if Number.isNegative x then .negative else .positive

lemma ofFloat_subnormal {x : Float} (h : scaleBits x = 0) :
    Magnitude.ofFloat x = ⟨fractionBits x, -1074, false⟩ := if_pos h

lemma ofFloat_normal {x : Float} (h : scaleBits x ≠ 0) :
    Magnitude.ofFloat x = ⟨2 ^ 52 + fractionBits x, scaleBits x - 1075,
      fractionBits x == 0 && decide (scaleBits x > 1)⟩ := if_neg h

lemma toNat_unpackExponent (x : Float) :
    (@unpackExponent .binary64 x.toBits.toBitVec).toNat = scaleBits x := by
  simpa [unpackExponent, scaleBits] using
    (Nat.and_two_pow_sub_one_eq_mod (x.toBits.toNat >>> 52) 11).symm

lemma toNat_unpackMantissa (x : Float) :
    (@unpackMantissa .binary64 x.toBits.toBitVec).toNat = fractionBits x := by
  simpa [unpackMantissa, fractionBits] using
    (Nat.and_two_pow_sub_one_eq_mod x.toBits.toNat 52).symm

lemma ofBitVec_unpackSign_toBitVec (x : Float) :
    Sign.ofBitVec (@unpackSign .binary64 x.toBits.toBitVec) = signOf x := by
  unfold signOf Number.isNegative
  have hbit : (@unpackSign .binary64 x.toBits.toBitVec).toNat = (x.toBits >>> 63).toNat := by
    have := x.toBits.toNat_lt
    simp [unpackSign, Nat.shiftRight_eq_div_pow]
    omega
  have hiff : @unpackSign .binary64 x.toBits.toBitVec = 0#1 ↔ ¬ (x.toBits >>> 63 == 1) = true := by
    rw [beq_iff_eq, ← UInt64.toNat_inj, ← hbit, BitVec.toNat_eq]
    have := (@unpackSign .binary64 x.toBits.toBitVec).isLt
    simp
    omega
  by_cases h : (x.toBits >>> 63 == 1) = true
  · rw [if_pos h, Sign.ofBitVec, if_neg (fun hzero => hiff.mp hzero h)]
  · rw [if_neg h, Sign.ofBitVec, if_pos (hiff.mpr h)]

lemma fractionBits_lt (x : Float) : fractionBits x < 2 ^ 52 := by
  rw [← toNat_unpackMantissa]
  exact (@unpackMantissa .binary64 x.toBits.toBitVec).isLt

lemma isFinite_iff {x : Float} : Number.isFinite x = true ↔ scaleBits x ≠ 2047 := by
  have hfull : (x.toBits >>> 52) &&& 0x7FF = 0x7FF ↔ scaleBits x = 2047 := UInt64.toNat_inj.symm
  rw [Number.isFinite, bne_iff_ne, ne_eq, hfull]

lemma scaleBits_lt {x : Float} (hfinite : Number.isFinite x) : scaleBits x < 2047 := by
  have hlt : scaleBits x < 2 ^ 11 := by
    rw [← toNat_unpackExponent]
    exact (@unpackExponent .binary64 x.toBits.toBitVec).isLt
  have := isFinite_iff.mp hfinite
  omega

lemma unpackExponent_eq_full {x : Float} :
    @unpackExponent .binary64 x.toBits.toBitVec = -1#_ ↔ Number.isFinite x = false := by
  rw [← Bool.not_eq_true, isFinite_iff, not_not, BitVec.toNat_eq, toNat_unpackExponent]
  rfl

/-- A double that is not finite is an infinity, or no number. -/
lemma unpack_of_not_isFinite {x : Float} (hinfinite : Number.isFinite x = false) :
    x.toModel.unpack = .infinity (signOf x) ∨ x.toModel.unpack = .notANumber := by
  have hunpack : x.toModel.unpack =
      if @unpackMantissa .binary64 x.toBits.toBitVec = 0#_ then
        .infinity (Sign.ofBitVec (@unpackSign .binary64 x.toBits.toBitVec))
      else .notANumber :=
    if_pos (unpackExponent_eq_full.mpr hinfinite)
  rw [hunpack, ofBitVec_unpackSign_toBitVec]
  split
  · exact .inl rfl
  · exact .inr rfl

/-- A finite double is its magnitude behind its sign. -/
lemma unpack_eq {x : Float} (hfinite : Number.isFinite x) :
    x.toModel.unpack =
      if h : (Magnitude.ofFloat x).significand = 0 then .zero (signOf x)
      else .finite (signOf x) (Magnitude.ofFloat x).significand (Magnitude.ofFloat x).exponent
        (Nat.pos_of_ne_zero h) := by
  have hbias : (((Format.binary64.exponentBias : Nat) : Int) +
      ((Format.binary64.mantissaBitsWithoutImplicit : Nat) : Int)) = 1075 := rfl
  have hbelow : @unpackExponent .binary64 x.toBits.toBitVec ≠ -1#_ :=
    mt unpackExponent_eq_full.mp (by simp [hfinite])
  have hzero : @unpackExponent .binary64 x.toBits.toBitVec = 0#_ ↔ scaleBits x = 0 := by
    rw [BitVec.toNat_eq, toNat_unpackExponent]
    rfl
  have hnone : @unpackMantissa .binary64 x.toBits.toBitVec = 0#_ ↔ fractionBits x = 0 := by
    rw [BitVec.toNat_eq, toNat_unpackMantissa]
    rfl
  show UnpackedFloat.unpack .binary64 x.toBits.toBitVec = _
  simp only [UnpackedFloat.unpack, if_neg hbelow, ofBitVec_unpackSign_toBitVec, one_append_toNat,
    toNat_unpackExponent, toNat_unpackMantissa, hbias, hzero]
  by_cases hscale : scaleBits x = 0
  · simp only [ofFloat_subnormal hscale, if_pos hscale]
    by_cases hno : fractionBits x = 0
    · rw [dif_pos (hnone.mpr hno), dif_pos hno]
    · rw [dif_neg (mt hnone.mp hno), dif_neg hno, hscale]
      rfl
  · have hsome : ¬ 2 ^ 52 + fractionBits x = 0 := by omega
    simp only [ofFloat_normal hscale, if_neg hscale, dif_neg hsome]

/-- The significand of a double has 53 places, or fewer where the exponent is the least one. -/
lemma places_cases (x : Float) :
    (Magnitude.ofFloat x).exponent = -1074 ∧ (Magnitude.ofFloat x).significand < 2 ^ 52 ∨
      (Magnitude.ofFloat x).significand.log2 = 52 := by
  have hfraction := fractionBits_lt x
  by_cases hscale : scaleBits x = 0
  · rw [ofFloat_subnormal hscale]
    exact .inl ⟨rfl, hfraction⟩
  · rw [ofFloat_normal hscale]
    right
    show (2 ^ 52 + fractionBits x).log2 = 52
    exact (Nat.log2_eq_iff (by omega)).mpr ⟨by omega, by omega⟩

/-- A whole number whose significand has no place before the point is zero. -/
lemma significand_eq_zero {m : Magnitude} (hwhole : m.isWhole) (hneg : m.exponent < 0)
    (hsmall : m.significand < Nat.pow 2 (-m.exponent).toNat) : m.significand = 0 := by
  have hproduct := Magnitude.significand_eq_floor_mul hwhole hneg
  rcases Nat.eq_zero_or_pos m.floor with hzero | hpos
  · rw [hproduct, hzero, Nat.zero_mul]
  · exact absurd (hproduct ▸ hsmall) (Nat.not_lt.mpr (Nat.le_mul_of_pos_left _ hpos))

/-- A normal number that is whole and below `2 ^ 53`: its significand is its integer part, the places
moved to the front. -/
lemma normal_of_isWhole {m : Magnitude} (hwhole : m.isWhole) (hlog : m.significand.log2 = 52)
    (hsmall : m.floor < 2 ^ 53) :
    0 < m.floor ∧ m.significand = m.floor * 2 ^ (52 - m.floor.log2) ∧
      m.exponent = -((52 - m.floor.log2 : Nat) : Int) := by
  have hmin : 2 ^ 52 ≤ m.significand :=
    hlog ▸ Nat.log2_self_le (by intro h; simp [h] at hlog)
  -- The exponent is not positive, so the significand is a multiple of the integer part.
  obtain ⟨k, hk⟩ : ∃ k : Nat, m.exponent = -(k : Int) := by
    by_cases hneg : m.exponent < 0
    · exact ⟨(-m.exponent).toNat, by omega⟩
    · have hfloor : m.floor = m.significand * 2 ^ m.exponent.toNat := if_pos (not_lt.mp hneg)
      have hzero : m.exponent.toNat = 0 := by
        by_contra hpos
        have htwo : 2 ^ 1 ≤ 2 ^ m.exponent.toNat :=
          Nat.pow_le_pow_right (by decide) (Nat.pos_of_ne_zero hpos)
        have := Nat.mul_le_mul hmin htwo
        omega
      exact ⟨0, by omega⟩
  have hproduct : m.significand = m.floor * 2 ^ k := by
    rcases Nat.eq_zero_or_pos k with rfl | hpos
    · simp [Magnitude.floor, hk]
    · have := Magnitude.significand_eq_floor_mul hwhole (by omega)
      rwa [hk, neg_neg, Int.toNat_natCast] at this
  have hfloor : m.floor ≠ 0 := by
    intro hzero
    rw [hproduct, hzero, Nat.zero_mul] at hmin
    exact absurd hmin (by decide)
  have hplaces : m.floor.log2 + k = 52 := by rw [← log2_mul_two_pow hfloor, ← hproduct, hlog]
  have hshift : 52 - m.floor.log2 = k := by omega
  exact ⟨Nat.pos_of_ne_zero hfloor, by rw [hshift, hproduct.symm], by rw [hshift, hk]⟩

/-- The integer part of a whole number, its places moved to the front, is the significand that its
double has. -/
lemma unpack_of_isWhole {x : Float} (hwhole : Number.isWhole x)
    (hsmall : (Magnitude.ofFloat x).floor < 2 ^ 53) :
    x.toModel.unpack =
      if h : (Magnitude.ofFloat x).floor = 0 then .zero (signOf x)
      else lifted (signOf x) (Magnitude.ofFloat x).floor (Nat.pos_of_ne_zero h) := by
  obtain ⟨hfinite, hwhole⟩ := Bool.and_eq_true_iff.mp hwhole
  rw [unpack_eq hfinite]
  rcases places_cases x with ⟨hexponent, hfraction⟩ | hlog
  · have hnone : (Magnitude.ofFloat x).significand = 0 :=
      significand_eq_zero hwhole (by omega)
        (hfraction.trans_le (Nat.pow_le_pow_right (by decide) (by omega)))
    have hfloor : (Magnitude.ofFloat x).floor = 0 := by simp [Magnitude.floor, hnone]
    rw [dif_pos hnone, dif_pos hfloor]
  · obtain ⟨hpos, hlift, hshift⟩ := normal_of_isWhole hwhole hlog hsmall
    have hsome : (Magnitude.ofFloat x).significand ≠ 0 := fun hnone => by simp [hnone] at hlog
    rw [dif_neg hsome, dif_neg hpos.ne']
    simp only [lifted, ← hlift, ← hshift]

/-! ## Reading back -/

lemma beq_of_unpack {x y : Float} {s : Sign} {n : Nat} {hpos : 0 < n}
    (hx : x.toModel.unpack = lifted s n hpos) (hy : y.toModel.unpack = lifted s n hpos) :
    (x == y) = true := by
  show (x.toModel.unpack.compare y.toModel.unpack == some .eq) = true
  rw [hx, hy]
  cases s <;> simp [lifted, UnpackedFloat.compare, Std.ReflCmp.compare_self]

lemma natAbs_truncate (x : Float) : (Number.truncate x).natAbs = (Magnitude.ofFloat x).floor := by
  unfold Number.truncate
  dsimp only
  split <;> simp

/-- The number that the digits of a whole number are read as, its sign left aside. -/
def readDigits (x : Float) : Float := nearest (Number.truncate x).natAbs 0

/-- The number that the digits of a whole number are read as, behind its sign. -/
def reread (x : Float) : Float :=
  if Number.truncate x < 0 then -readDigits x else readDigits x

/-- A whole number below `2 ^ 53` equals what its digits are read as; zero has lost its sign. -/
theorem reread_beq {x : Float} (hwhole : Number.isWhole x)
    (hsmall : (Number.truncate x).natAbs < 2 ^ 53) : (reread x == x) = true := by
  have hx := unpack_of_isWhole hwhole (natAbs_truncate x ▸ hsmall)
  rw [natAbs_truncate] at hsmall
  rcases Nat.eq_zero_or_pos (Magnitude.ofFloat x).floor with hzero | hpos
  · have htruncate : Number.truncate x = 0 := by
      rw [← Int.natAbs_eq_zero, natAbs_truncate, hzero]
    rw [dif_pos hzero] at hx
    rw [reread, readDigits, htruncate, if_neg (lt_irrefl 0)]
    show (UnpackedFloat.compare (Float.toModel 0).unpack x.toModel.unpack == some .eq) = true
    rw [hx]
    rfl
  · have hread := unpack_nearest hpos hsmall
    rw [dif_neg hpos.ne'] at hx
    unfold reread readDigits
    rw [natAbs_truncate]
    cases hsign : Number.isNegative x with
    | true =>
        have htruncate : Number.truncate x = -((Magnitude.ofFloat x).floor : Int) := if_pos hsign
        rw [if_pos (by omega)]
        exact beq_of_unpack (unpack_neg hread hsmall) (by rw [hx, signOf, if_pos hsign]; rfl)
    | false =>
        have htruncate : Number.truncate x = (Magnitude.ofFloat x).floor :=
          if_neg (by rw [hsign]; exact Bool.false_ne_true)
        rw [if_neg (by omega)]
        exact beq_of_unpack hread (by rw [hx, signOf, hsign, if_neg Bool.false_ne_true])

end ModuleRunner.Decimal
