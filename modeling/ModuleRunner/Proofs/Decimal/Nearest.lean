import ModuleRunner.Proofs.Decimal.Count
import ModuleRunner.Proofs.Decimal.Rounding

/-!
# The double that digits stand for

A decimal is read by one product or one quotient with a power of ten, of doubles where both are
doubles and of natural numbers otherwise.  Either way it is rounded once; so digits stand for the
double that their decimal rounds to.

* `toModel_ofScientific` — reading decimals of a moderate size.
* `IsDouble.unpack_pack` — doubles survive their bits.
* `isDouble_of_isFinite` — the magnitudes of finite doubles.
* `unpack_nearest_of_roundsTo` — the double that digits stand for.
* `isNegative_ofNat_any`, `ofNat_ne_neg_one` — no natural number is negative, however it is rounded.
-/

namespace ModuleRunner.Decimal

open Float.Model Float.Model.UnpackedFloat

/-! ## Decimals -/

/-- The powers of ten that are doubles, as the table has them. -/
lemma magnitude_powerOfTen : ∀ k : Fin 23,
    Number.isFinite Float.exactlyRepresentablePowersOfTen[k] = true ∧
      Number.isNegative Float.exactlyRepresentablePowersOfTen[k] = false ∧
      (Magnitude.ofFloat Float.exactlyRepresentablePowersOfTen[k]).significand =
        5 ^ k.val * 2 ^ (52 - (5 ^ k.val).log2) ∧
      (Magnitude.ofFloat Float.exactlyRepresentablePowersOfTen[k]).exponent =
        (k.val : ℤ) - (52 - (5 ^ k.val).log2 : ℕ) := by
  decide

lemma unpack_powerOfTen (k : Fin 23) :
    ∃ m e, ∃ hm : 0 < m, (Float.exactlyRepresentablePowersOfTen[k]).toModel.unpack =
      .finite .positive m e hm ∧ (m : ℚ) * 2 ^ e = 10 ^ k.val ∧ |e| ≤ 60 := by
  obtain ⟨hfinite, hsign, hsignificand, hexponent⟩ := magnitude_powerOfTen k
  have hpos : 0 < 5 ^ k.val * 2 ^ (52 - (5 ^ k.val).log2) := by positivity
  refine ⟨_, (k : ℤ) - (52 - (5 ^ k.val).log2 : ℕ), hpos, ?_, ?_, ?_⟩
  · simp only [unpack_eq hfinite, signOf, hsign, hsignificand, hexponent, Bool.false_eq_true,
      if_false, dif_neg hpos.ne']
  · rw [zpow_sub₀ two_ne_zero, zpow_natCast, zpow_natCast, show (10 : ℚ) = 5 * 2 by norm_num,
      mul_pow]
    push_cast
    field_simp
  · rw [abs_le]
    have := k.isLt
    omega

lemma zpow_ten_of_nonneg {i : ℤ} (h : 0 ≤ i) : (10 : ℚ) ^ i = 10 ^ i.natAbs := by
  rw [← zpow_natCast, Int.natAbs_of_nonneg h]

lemma zpow_ten_of_neg {i : ℤ} (h : i < 0) : (10 : ℚ) ^ i = (10 ^ i.natAbs)⁻¹ := by
  rw [← zpow_natCast, ← zpow_neg, Int.ofNat_natAbs_of_nonpos h.le, neg_neg]

/-- Reading by one product or quotient with a power of ten from the table. -/
lemma toModel_ofScientific_table {d m : ℕ} {i e : ℤ} (hd : 0 < d) (hm : IsDouble m e)
    (hv : RoundsTo (d * 10 ^ i) m e) (hsmall : d < 2 ^ 53)
    (hi : i.natAbs < Float.exactlyRepresentablePowersOfTen.size) :
    (if i < 0 then d.toUInt64.toFloat / Float.exactlyRepresentablePowersOfTen[i.natAbs]
      else d.toUInt64.toFloat * Float.exactlyRepresentablePowersOfTen[i.natAbs]).toModel =
      .pack (.finite .positive m e hm.pos) := by
  obtain ⟨m₂, e₂, h₂, hpower, hten, hbound⟩ := unpack_powerOfTen ⟨i.natAbs, hi⟩
  have hpower : Float.exactlyRepresentablePowersOfTen[i.natAbs].toModel.unpack =
      .finite .positive m₂ e₂ h₂ := hpower
  have hten : (m₂ : ℚ) * 2 ^ e₂ = 10 ^ i.natAbs := hten
  have hnumber : d.toUInt64.toFloat.toModel.unpack = lifted .positive d hd :=
    unpack_ofUInt64 hd hsmall
  have hlift : ((d * 2 ^ (52 - d.log2) : ℕ) : ℚ) * 2 ^ (-((52 - d.log2 : ℕ) : ℤ)) = d := by
    rw [zpow_neg, zpow_natCast]
    push_cast
    field_simp
  rw [abs_le] at hbound
  split
  · next hneg =>
    show Float.Model.pack (UnpackedFloat.div .binary64 d.toUInt64.toFloat.toModel.unpack _) = _
    rw [hnumber, hpower, lifted, div_eq hm hv (by omega) ?_]
    · rfl
    · rw [hlift, hten, zpow_ten_of_neg hneg, div_eq_mul_inv]
  · next hpos =>
    show Float.Model.pack (UnpackedFloat.mul .binary64 d.toUInt64.toFloat.toModel.unpack _) = _
    have hplaces : 2 ^ 52 ≤ d * 2 ^ (52 - d.log2) := by
      have := Nat.log2_self_le (n := d * 2 ^ (52 - d.log2)) (by positivity)
      rwa [log2_lift hd hsmall] at this
    rw [hnumber, hpower, lifted, mul_eq hm hv hplaces ?_]
    · rfl
    · rw [hlift, hten, zpow_ten_of_nonneg (not_lt.mp hpos)]

/-- Reading by one product or quotient of natural numbers. -/
lemma ofScientific_eq {d m : ℕ} {i e : ℤ} (hd : 0 < d) (hm : IsDouble m e)
    (hv : RoundsTo (d * 10 ^ i) m e) (hlow : -(2048 + (d.log2 : ℤ)) ≤ i) (hhigh : i ≤ 2048) :
    UnpackedFloat.ofScientific .binary64 d i = .finite .positive m e hm.pos := by
  have hbits : (2 : ℤ) ^ Format.binary64.exponentBits = 2048 := rfl
  rw [UnpackedFloat.ofScientific, dif_neg hd.ne', if_neg (by omega), if_neg (by omega)]
  split
  · next hpos =>
    refine mul_eq hm hv ?_ ?_
    · show 2 ^ 52 ≤ d <<< 53
      rw [Nat.shiftLeft_eq]
      omega
    · rw [Nat.shiftLeft_eq, zpow_ten_of_nonneg hpos, show i.toNat = i.natAbs by omega]
      show (d : ℚ) * 10 ^ i.natAbs =
        (d * 2 ^ 53 : ℕ) * 2 ^ (-53 : ℤ) * ((10 ^ i.natAbs : ℕ) * 2 ^ (0 : ℤ))
      push_cast
      norm_num
      ring
  · next hneg =>
    refine div_eq hm hv (by omega) ?_
    rw [zpow_ten_of_neg (not_le.mp hneg), div_eq_mul_inv, show (-i).toNat = i.natAbs by omega]
    push_cast
    simp

/-- **Reading decimals.**  A decimal that rounds to a double is read as it. -/
lemma toModel_ofScientific {d m : ℕ} {i e : ℤ} (hd : 0 < d) (hm : IsDouble m e)
    (hv : RoundsTo (d * 10 ^ i) m e) (hlow : -(2048 + (d.log2 : ℤ)) ≤ i) (hhigh : i ≤ 2048) :
    (Float.ofScientific d (i < 0) i.natAbs).toModel = .pack (.finite .positive m e hm.pos) := by
  unfold Float.ofScientific
  split
  · next hfast =>
    have hsize : i.natAbs < Float.exactlyRepresentablePowersOfTen.size := by
      have : Float.exactlyRepresentablePowersOfTen.size = 23 := rfl
      omega
    simpa using toModel_ofScientific_table hd hm hv hfast.1 hsize
  · have hexponent : (if decide (i < 0) = true then Int.negOfNat i.natAbs
        else Int.ofNat i.natAbs) = i := by
      by_cases hneg : i < 0
      · simp only [hneg, decide_true, if_true, Int.negOfNat_eq, Int.ofNat_eq_natCast]
        omega
      · simp only [hneg, decide_false, Bool.false_eq_true, if_false, Int.ofNat_eq_natCast]
        omega
    dsimp only
    rw [hexponent]
    exact congrArg Float.Model.pack (ofScientific_eq hd hm hv hlow hhigh)

/-! ## Bits -/

/-- A double below the normal ones survives its bits. -/
lemma unpack_pack_subnormal {s : Sign} {m : ℕ} (hm : 0 < m) (hsmall : m < 2 ^ 52) :
    (Float.Model.pack (.finite s m (-1074) hm)).unpack = .finite s m (-1074) hm := by
  have hlog : m.log2 < 52 := (Nat.log2_lt hm.ne').mpr hsmall
  have hmantissa : (BitVec.ofNat 52 m).toNat = m := by
    rw [BitVec.toNat_ofNat, Nat.mod_eq_of_lt hsmall]
  have hsome : BitVec.ofNat 52 m ≠ 0#52 := fun heq => by
    rw [heq] at hmantissa
    exact hm.ne hmantissa
  show UnpackedFloat.unpack .binary64 (UnpackedFloat.pack .binary64 (.finite s m (-1074) hm)) = _
  rw [UnpackedFloat.pack, if_neg (by decide), if_neg (by simp [Format.mantissaBits]; omega),
    UnpackedFloat.unpack]
  simp only [unpackMantissa_packComponents, unpackExponent_packComponents, ofBitVec_unpackSign]
  rw [if_neg (by decide), if_pos trivial, dif_neg hsome]
  simp only [hmantissa]
  rfl

/-- A double survives its bits. -/
lemma IsDouble.unpack_pack {s : Sign} {m : ℕ} {e : ℤ} (h : IsDouble m e) :
    (Float.Model.pack (.finite s m e h.pos)).unpack = .finite s m e h.pos := by
  rcases Nat.lt_or_ge m (2 ^ 52) with hsmall | hnormal
  · obtain rfl : e = -1074 := by
      by_contra hne
      have := h.normal (lt_of_le_of_ne h.low (Ne.symm hne))
      omega
    exact unpack_pack_subnormal h.pos hsmall
  · exact Decimal.unpack_pack h.pos ((Nat.log2_eq_iff h.pos.ne').mpr ⟨hnormal, h.lt⟩) h.low h.high

/-- The magnitude of a finite double that is not zero. -/
lemma isDouble_of_isFinite {x : Float} (hfinite : Number.isFinite x)
    (hpos : 0 < (Magnitude.ofFloat x).significand) :
    IsDouble (Magnitude.ofFloat x).significand (Magnitude.ofFloat x).exponent ∧
      ((Magnitude.ofFloat x).closeBelow = true ↔
        (Magnitude.ofFloat x).significand = 2 ^ 52 ∧ -1074 < (Magnitude.ofFloat x).exponent) := by
  have hfraction := fractionBits_lt x
  have hscale := scaleBits_lt hfinite
  by_cases hzero : scaleBits x = 0
  · rw [ofFloat_subnormal hzero] at hpos ⊢
    exact ⟨⟨hpos, hfraction.trans (by decide), le_rfl, Int.le_of_lt (by simp),
      fun h => absurd h (lt_irrefl _)⟩, by simp⟩
  · rw [ofFloat_normal hzero]
    refine ⟨⟨by positivity, ?_, ?_, ?_, fun _ => Nat.le_add_right _ _⟩, ?_⟩
    · show 2 ^ 52 + fractionBits x < 2 ^ 53
      omega
    · show -1074 ≤ (scaleBits x : ℤ) - 1075
      omega
    · show (scaleBits x : ℤ) - 1075 ≤ 971
      omega
    · simp only [Bool.and_eq_true, beq_iff_eq, decide_eq_true_eq]
      omega

/-! ## The nearest double -/

lemma places_le_iff {d k : ℕ} (hk : 0 < k) : places d ≤ k ↔ d < 10 ^ k :=
  Nat.length_toDigits_le_iff (by decide) hk

/-- A whole number lies between two powers of ten, as many as it has places. -/
lemma places_bounds {d : ℕ} (hd : 0 < d) :
    ∃ k, places d = k + 1 ∧ 10 ^ k ≤ d ∧ d < 10 ^ (k + 1) := by
  have hone : 0 < places d := Nat.length_toDigits_pos
  obtain ⟨k, hk⟩ : ∃ k, places d = k + 1 := ⟨places d - 1, by omega⟩
  refine ⟨k, hk, ?_, (places_le_iff (by omega)).mp hk.le⟩
  rcases Nat.eq_zero_or_pos k with rfl | hpos
  · exact hd
  · by_contra hless
    have := (places_le_iff hpos).mpr (not_le.mp hless)
    omega

lemma two_zpow_lt_ten_zpow {k : ℕ} (hk : 0 < k) : (2 : ℚ) ^ (3 * k : ℤ) < 10 ^ (k : ℤ) := by
  rw [zpow_mul, zpow_natCast, zpow_natCast]
  exact pow_lt_pow_left₀ (by norm_num) (by norm_num) hk.ne'

/-- The size of a decimal whose double is neither zero nor infinite. -/
lemma scale_bounds {d m : ℕ} {i e : ℤ} (hd : 0 < d) (hm : IsDouble m e)
    (hv : RoundsTo (d * 10 ^ i) m e) : -400 ≤ (places d : ℤ) + i ∧ (places d : ℤ) + i ≤ 400 := by
  have hten : (1 : ℚ) < 10 := by norm_num
  obtain ⟨n, hn⟩ : ∃ n : ℕ, n = 400 := ⟨_, rfl⟩
  have hsize : (2 : ℚ) ^ (3 * n : ℤ) < 10 ^ (n : ℤ) := two_zpow_lt_ten_zpow (by omega)
  obtain ⟨k, hk, hleast, hmost⟩ := places_bounds hd
  have hlow : (10 : ℚ) ^ (k + i) ≤ d * 10 ^ i := by
    rw [zpow_add₀ (by norm_num), zpow_natCast]
    exact mul_le_mul_of_nonneg_right (by exact_mod_cast hleast) (by positivity)
  have hhigh : (d : ℚ) * 10 ^ i < 10 ^ (k + 1 + i) := by
    rw [zpow_add₀ (by norm_num), ← Nat.cast_succ, zpow_natCast]
    exact mul_lt_mul_of_pos_right (by exact_mod_cast hmost) (by positivity)
  rw [hk]
  push_cast
  constructor
  · have hsmall : (10 : ℚ) ^ (-n : ℤ) < 2 ^ (-1075 : ℤ) := by
      rw [zpow_neg, zpow_neg, inv_lt_inv₀ (by positivity) (by positivity)]
      exact (zpow_two_le.mpr (by omega)).trans_lt hsize
    have := (zpow_lt_zpow_iff_right₀ hten).mp (hsmall.trans_le ((hv.least hm).trans hhigh.le))
    omega
  · have hbig : (2 : ℚ) ^ (1024 : ℤ) < 10 ^ (n : ℤ) := (zpow_two_le.mpr (by omega)).trans_lt hsize
    have := (zpow_lt_zpow_iff_right₀ hten).mp ((hlow.trans_lt (hv.most hm)).trans hbig)
    omega

/-- **The nearest double.**  Digits whose decimal rounds to a double stand for it. -/
theorem unpack_nearest_of_roundsTo {d m : ℕ} {i e : ℤ} (hd : 0 < d) (hm : IsDouble m e)
    (hv : RoundsTo (d * 10 ^ i) m e) :
    (nearest d i).toModel.unpack = .finite .positive m e hm.pos := by
  obtain ⟨hlow, hhigh⟩ := scale_bounds hd hm hv
  have hplaces : places d ≤ d.log2 + 1 := (places_le_iff (by omega)).mpr
    (Nat.lt_log2_self.trans_le (Nat.pow_le_pow_left (by decide) _))
  have hone : 0 < places d := Nat.length_toDigits_pos
  simp only [nearest, if_neg hd.ne', if_neg (not_lt.mpr hhigh), if_neg (not_lt.mpr hlow)]
  rw [toModel_ofScientific hd hm hv (by omega) (by omega)]
  exact hm.unpack_pack

/-! ## Signs -/

/-- A double that was packed with a sign has that sign. -/
lemma signOf_of_pack {x : Float} {u : UnpackedFloat} {s : Sign}
    (hu : u = .zero s ∨ ∃ m e hm, u = .finite s m e hm) (h : x.toModel = .pack u) :
    signOf x = s := by
  have hbits : x.toBits.toBitVec = UnpackedFloat.pack .binary64 u :=
    congrArg (·.toBits.toBitVec) h
  rw [← ofBitVec_unpackSign_toBitVec, hbits]
  rcases hu with rfl | ⟨m, e, hm, rfl⟩
  · exact ofBitVec_unpackSign
  · rw [UnpackedFloat.pack]
    dsimp only
    split_ifs <;> exact ofBitVec_unpackSign

/-- Rounding keeps the sign. -/
lemma roundWithAccuracy_cases (s : Sign) (n : ℕ) (q : ℤ) (accuracy : Accuracy) :
    roundWithAccuracy .binary64 s n q accuracy = .zero s ∨
      ∃ m e hm, roundWithAccuracy .binary64 s n q accuracy = .finite s m e hm := by
  unfold roundWithAccuracy
  dsimp only
  split_ifs with hzero
  · exact .inl rfl
  · exact .inr ⟨_, _, Nat.pos_of_ne_zero hzero, rfl⟩

/-- A natural number is not negative as a double, even where it is rounded. -/
lemma isNegative_ofNat_any (n : ℕ) : Number.isNegative (Number.ofNat n) = false := by
  rcases Nat.lt_or_ge n (2 ^ 53) with hsmall | hlarge
  · exact Number.isNegative_ofNat hsmall
  · have hmodel : (Number.ofNat n).toModel = .pack (UnpackedFloat.ofScientific .binary64 n 0) := by
      show (Float.ofScientific n false 0).toModel = _
      rw [Float.ofScientific, dif_neg (by omega)]
      rfl
    have hsign : signOf (Number.ofNat n) = .positive := by
      refine signOf_of_pack ?_ hmodel
      have hbits : (2 : ℤ) ^ Format.binary64.exponentBits = 2048 := rfl
      rw [UnpackedFloat.ofScientific, dif_neg (by omega), if_neg (by omega), if_neg (by omega),
        if_pos le_rfl, UnpackedFloat.mul]
      exact roundWithAccuracy_cases .positive _ _ _
    by_contra hnegative
    simp [signOf, hnegative] at hsign

end ModuleRunner.Decimal

namespace ModuleRunner.Number

/-- The answer that nothing was found is not the number of a place. -/
lemma ofNat_ne_neg_one (n : ℕ) : Number.ofNat n ≠ -1 := fun h => by
  have hnegative : Number.isNegative (-1) = true := by rfl
  rw [← h, Decimal.isNegative_ofNat_any] at hnegative
  cases hnegative

end ModuleRunner.Number
