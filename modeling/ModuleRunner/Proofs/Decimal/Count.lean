import ModuleRunner.Proofs.Decimal.Whole

/-!
# Counts as numbers

Lengths and places are counted in natural numbers and reach a script as doubles.  Below `2 ^ 53`
nothing is lost on the way: the count can be read back and printed, and sums of counts are the counts
of sums.  Sums are the harder part, for their terms have their places moved to the front by different
amounts, and the sum is rounded; but rounding finds only zeros behind the place of the ones
(`round_whole`).

* `ofNat_add_ofNat` — sums.
* `magnitude_of_unpack` — a double's magnitude and sign from its parts.
* `truncate_ofNat`, `text_ofNat` — a count is read back, and printed as its digits.
* `ofNat_beq_of_toNat?` — a number that was read as a count equals it.
* `unsigned?_digits`, `head?_toDigits` — digits are read as a whole number, and have no zero in front.
-/

namespace ModuleRunner.Number

open Decimal Float.Model Float.Model.UnpackedFloat

/-! ## Sums -/

lemma unpack_ofNat_zero : (ofNat 0).toModel.unpack = .zero .positive := rfl

/-- A whole number with zeros behind the place of its ones is rounded to itself. -/
lemma round_whole {s : Sign} {n r : Nat} (hpos : 0 < n) (hsmall : n < 2 ^ 53)
    (hplaces : 52 - n.log2 ≤ r) :
    UnpackedFloat.round .binary64 s (n * 2 ^ r) (-(r : Int)) = lifted s n hpos := by
  have hlog : n.log2 < 53 := (Nat.log2_lt hpos.ne').mpr hsmall
  have htarget : Format.binary64.targetExponent (totalExponent (n * 2 ^ r) (-(r : Int))) =
      (n.log2 : Int) - 52 := by
    simp only [Format.targetExponent, totalExponent, log2_mul_two_pow hpos.ne',
      Format.mantissaBits, Format.minExponent]
    norm_num
    omega
  obtain ⟨k, hk⟩ : ∃ k, r = 52 - n.log2 + k := ⟨r - (52 - n.log2), by omega⟩
  have hamount : (-(r : Int) - ((n.log2 : Int) - 52)).toNat = 0 := by omega
  have hmantissa : n * 2 ^ r = n * 2 ^ (52 - n.log2) * 2 ^ k := by rw [hk, pow_add, mul_assoc]
  have hexponent : -(r : Int) = -((52 - n.log2 : Nat) : Int) - (k : Int) := by omega
  simp only [UnpackedFloat.round, htarget, decreaseExponent, hamount, Nat.shiftLeft_zero,
    Nat.cast_zero, sub_zero]
  rw [hmantissa, hexponent]
  exact round_exact (by positivity) (log2_lift hpos hsmall) (by omega)

/-- The sum of two counts, neither of them nothing. -/
lemma add_lifted {a b : Nat} (ha : 0 < a) (hb : 0 < b) (hsmall : a + b < 2 ^ 53) :
    UnpackedFloat.add .binary64 (lifted .positive a ha) (lifted .positive b hb) =
      lifted .positive (a + b) (Nat.add_pos_left ha b) := by
  have hloga : a.log2 < 53 := (Nat.log2_lt ha.ne').mpr (by omega)
  have hlogb : b.log2 < 53 := (Nat.log2_lt hb.ne').mpr (by omega)
  -- Both terms are moved to the scale of the one with more zeros.
  obtain ⟨r, hr⟩ : ∃ r, r = max (52 - a.log2) (52 - b.log2) := ⟨_, rfl⟩
  have hscale : min (-((52 - a.log2 : Nat) : Int)) (-((52 - b.log2 : Nat) : Int)) = -(r : Int) := by
    omega
  have hshift {n : Nat} (hle : 52 - n.log2 ≤ r) :
      (decreaseExponent (n * 2 ^ (52 - n.log2)) (-((52 - n.log2 : Nat) : Int)) (-(r : Int))).1 =
        n * 2 ^ r := by
    have hamount : (-((52 - n.log2 : Nat) : Int) - -(r : Int)).toNat = r - (52 - n.log2) := by omega
    simp only [decreaseExponent, hamount, Nat.shiftLeft_eq, mul_assoc, ← pow_add]
    rw [Nat.add_sub_cancel' hle]
  have hmantissa : Sign.positive.apply ((a * 2 ^ r : Nat) : Int) +
      Sign.positive.apply ((b * 2 ^ r : Nat) : Int) = (((a + b) * 2 ^ r : Nat) : Int) := by
    simp only [Sign.apply]
    push_cast
    ring
  have hcompare : compare (((a + b) * 2 ^ r : Nat) : Int) 0 = .gt := by
    rw [compare_gt_iff_gt]
    have : 0 < (a + b) * 2 ^ r := by positivity
    exact_mod_cast this
  have hlog : (a + b).log2 ≥ min a.log2 b.log2 := by
    rw [ge_iff_le, Nat.le_log2 (by omega)]
    have := Nat.log2_self_le ha.ne'
    exact (Nat.pow_le_pow_right (by decide) (Nat.min_le_left _ _)).trans (by omega)
  simp only [lifted, UnpackedFloat.add, hscale, hshift (n := a) (by omega),
    hshift (n := b) (by omega), hmantissa, UnpackedFloat.normalize, hcompare, Int.toNat_natCast]
  exact round_whole (Nat.add_pos_left ha b) hsmall (by omega)

/-- **Sums.**  The sum of two counts is the count of the sum. -/
lemma ofNat_add_ofNat {a b : Nat} (hsmall : a + b < 2 ^ 53) : ofNat a + ofNat b = ofNat (a + b) := by
  have hmodel : (ofNat a + ofNat b).toModel =
      .pack (UnpackedFloat.add .binary64 (ofNat a).toModel.unpack (ofNat b).toModel.unpack) := rfl
  suffices (ofNat a + ofNat b).toModel = (ofNat (a + b)).toModel from
    congrArg Float.ofModel this
  rw [hmodel]
  rcases Nat.eq_zero_or_pos a with rfl | ha
  · rcases Nat.eq_zero_or_pos b with rfl | hb
    · rfl
    · rw [unpack_ofNat_zero, unpack_ofNat hb (by omega), Nat.zero_add,
        toModel_ofNat hb (by omega)]
      rfl
  · rcases Nat.eq_zero_or_pos b with rfl | hb
    · rw [unpack_ofNat_zero, unpack_ofNat ha (by omega), Nat.add_zero,
        toModel_ofNat ha (by omega)]
      rfl
    · rw [unpack_ofNat ha (by omega), unpack_ofNat hb (by omega), add_lifted ha hb hsmall,
        toModel_ofNat (Nat.add_pos_left ha b) hsmall]

/-! ## Reading the bits -/

/-- Only the exponent of an infinity or of no number is full. -/
lemma isFinite_of_unpack {x : Float} (hinfinite : ∀ s, x.toModel.unpack ≠ .infinity s)
    (hnumber : x.toModel.unpack ≠ .notANumber) : isFinite x = true := by
  by_contra hfull
  rcases unpack_of_not_isFinite (Bool.eq_false_of_not_eq_true hfull) with hunpack | hunpack
  · exact hinfinite _ hunpack
  · exact hnumber hunpack

/-- A number that is finite and not zero: its significand, its exponent and its sign. -/
lemma magnitude_of_unpack {x : Float} {s : Sign} {m : Nat} {e : Int} {hm : 0 < m}
    (h : x.toModel.unpack = .finite s m e hm) :
    (Magnitude.ofFloat x).significand = m ∧ (Magnitude.ofFloat x).exponent = e ∧ signOf x = s := by
  have hfinite : isFinite x := isFinite_of_unpack (by simp [h]) (by simp [h])
  rw [unpack_eq hfinite] at h
  split at h
  · cases h
  · obtain ⟨hsign, hsignificand, hexponent⟩ := finite.inj h
    exact ⟨hsignificand, hexponent, hsign⟩

lemma isFinite_ofNat {n : Nat} (hsmall : n < 2 ^ 53) : isFinite (ofNat n) = true := by
  rcases Nat.eq_zero_or_pos n with rfl | hpos
  · rfl
  · have hunpack := unpack_ofNat hpos hsmall
    exact isFinite_of_unpack (by simp [hunpack, lifted]) (by simp [hunpack, lifted])

lemma ofNat_beq_self {n : Nat} (hsmall : n < 2 ^ 53) : (ofNat n == ofNat n) = true := by
  rcases Nat.eq_zero_or_pos n with rfl | hpos
  · rfl
  · exact beq_of_unpack (unpack_ofNat hpos hsmall) (unpack_ofNat hpos hsmall)

lemma isNaN_ofNat {n : Nat} (hsmall : n < 2 ^ 53) : isNaN (ofNat n) = false := by
  simp only [isNaN, bne, ofNat_beq_self hsmall, Bool.not_true]

lemma isNegative_ofNat {n : Nat} (hsmall : n < 2 ^ 53) : isNegative (ofNat n) = false := by
  rcases Nat.eq_zero_or_pos n with rfl | hpos
  · rfl
  · obtain ⟨-, -, hsign⟩ := magnitude_of_unpack (unpack_ofNat hpos hsmall)
    by_contra h
    simp [signOf, h] at hsign

/-- The magnitude of a count is whole, and its integer part is the count. -/
lemma magnitude_ofNat {n : Nat} (hpos : 0 < n) (hsmall : n < 2 ^ 53) :
    (Magnitude.ofFloat (ofNat n)).floor = n ∧ (Magnitude.ofFloat (ofNat n)).isWhole = true ∧
      (Magnitude.ofFloat (ofNat n)).significand ≠ 0 := by
  obtain ⟨hsignificand, hexponent, -⟩ := magnitude_of_unpack (unpack_ofNat hpos hsmall)
  rw [Magnitude.floor, Magnitude.isWhole, hsignificand, hexponent]
  refine ⟨?_, ?_, by positivity⟩
  · split
    · next hwhole =>
      have hnone : 52 - n.log2 = 0 := by omega
      simp [hnone]
    · rw [neg_neg, Int.toNat_natCast]
      exact Nat.mul_div_cancel _ (by positivity)
  · simp

/-- A count is read back. -/
lemma truncate_ofNat {n : Nat} (hsmall : n < 2 ^ 53) : truncate (ofNat n) = n := by
  rcases Nat.eq_zero_or_pos n with rfl | hpos
  · decide +kernel
  · unfold truncate
    dsimp only
    rw [isNegative_ofNat hsmall, if_neg Bool.false_ne_true, (magnitude_ofNat hpos hsmall).1]

/-- A count is printed as its digits. -/
lemma text_ofNat {n : Nat} (hsmall : n < 2 ^ 53) : text (ofNat n) = toString n := by
  rcases Nat.eq_zero_or_pos n with rfl | hpos
  · rfl
  · obtain ⟨hfloor, hwhole, hsignificand⟩ := magnitude_ofNat hpos hsmall
    have hprinted : n < Nat.pow 10 21 := hsmall.trans_le (by decide)
    unfold text
    dsimp only
    simp [isNaN_ofNat hsmall, isFinite_ofNat hsmall, isNegative_ofNat hsmall, hsignificand, hwhole,
      hfloor, hprinted]

/-- A number that is a count below `2 ^ 53` equals that count; zero has lost its sign. -/
lemma ofNat_beq_of_toNat? {x : Float} {n : Nat} (h : toNat? x = some n) (hsmall : n < 2 ^ 53) :
    (ofNat n == x) = true := by
  obtain ⟨⟨hwhole, hsigned⟩, hn⟩ : (isWhole x = true ∧ 0 ≤ truncate x) ∧ (truncate x).toNat = n := by
    simpa [toNat?] using h
  have hfloor : (Magnitude.ofFloat x).floor = n := by
    have := natAbs_truncate x
    omega
  have hx := unpack_of_isWhole hwhole (by omega)
  rcases Nat.eq_zero_or_pos n with rfl | hpos
  · rw [dif_pos hfloor] at hx
    show (UnpackedFloat.compare (ofNat 0).toModel.unpack x.toModel.unpack == some .eq) = true
    rw [hx]
    rfl
  · have hpositive : isNegative x = false := by
      by_contra hnegative
      have : truncate x = -((Magnitude.ofFloat x).floor : Int) :=
        if_pos (Bool.eq_true_of_not_eq_false hnegative)
      omega
    simp only [hfloor, hpos.ne', dite_false, signOf, hpositive, Bool.false_eq_true, if_false] at hx
    exact beq_of_unpack (unpack_ofNat hpos hsmall) hx

end ModuleRunner.Number

namespace ModuleRunner.Decimal

/-! ## Digits -/

lemma isDigit_of_mem_toDigits {n : Nat} {c : Char} (h : c ∈ Nat.toDigits 10 n) : isDigit c := by
  have := Nat.isDigit_of_mem_toDigits (by decide) (by decide) h
  simpa [Char.isDigit, isDigit, Char.le_def] using this

lemma all_isDigit_toDigits (n : Nat) : (Nat.toDigits 10 n).all isDigit = true :=
  List.all_eq_true.mpr fun _ => isDigit_of_mem_toDigits

lemma valueOf_toDigits (n : Nat) : valueOf (Nat.toDigits 10 n) = n := Nat.ofDigitChars_ten_toDigits

lemma toList_toString (n : Nat) : (toString n).toList = Nat.toDigits 10 n := Nat.toList_repr

lemma digitRun_of_all {cs : List Char} (h : cs.all isDigit = true) : digitRun cs = cs :=
  List.takeWhile_eq_self_iff.mpr fun c hc => List.all_eq_true.mp h c hc

/-- Digits alone are read as a whole number. -/
lemma unsigned?_digits {cs : List Char} (h : cs.all isDigit = true) (hsome : cs ≠ []) :
    unsigned? cs = some (nearest (valueOf cs) 0) := by
  have hnonempty : cs.isEmpty = false := by simpa using hsome
  simp [unsigned?, digitRun_of_all h, hnonempty, exponent?]

lemma unsigned?_toDigits (n : Nat) : unsigned? (Nat.toDigits 10 n) = some (nearest n 0) := by
  rw [unsigned?_digits (all_isDigit_toDigits n) Nat.toDigits_ne_nil, valueOf_toDigits]

/-- Digits have no zero in front. -/
lemma head?_toDigits {n : Nat} (hpos : 0 < n) : (Nat.toDigits 10 n).head? ≠ some '0' := by
  induction n using Nat.strongRecOn with
  | ind n ih =>
    rcases Nat.lt_or_ge n 10 with hone | hmore
    · rw [Nat.toDigits_of_lt_base hone]
      interval_cases n <;> decide
    · rw [Nat.toDigits_of_base_le (by decide) hmore, List.head?_append,
        Option.or_of_isSome (by simp [List.isSome_head?, Nat.toDigits_ne_nil])]
      exact ih (n / 10) (by omega) (by omega)

end ModuleRunner.Decimal
