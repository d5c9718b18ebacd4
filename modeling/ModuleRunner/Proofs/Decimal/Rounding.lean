import ModuleRunner.Proofs.Decimal.Whole

/-!
# Rounding to the nearest double

Products and quotients of doubles are formed exactly, as far as the places go that are kept, and
then rounded.  Two bits go with the places: the next one, and whether there is anything behind it.
They are enough to tell which double is the nearest, for they survive that places are cut off
(`StandsFor.shiftRight`) and decide the last step (`StandsFor.roundedMantissa_eq`).

What remains is to know at which place the number is cut off.  The numbers that round to a double
have its exponent, but for a few below a power of two; those are cut off one place later, and
rounding carries them up to the power (`exponent_cases`).

* `StandsFor` — a mantissa with its two bits stands for a number.
* `IsDouble`, `RoundsTo` — the doubles, and the numbers that round to them.
* `roundWithAccuracy_eq` — rounding finds the double that a number rounds to.
* `mul_eq`, `div_eq` — products and quotients.
-/

namespace ModuleRunner.Decimal

open Float.Model Float.Model.UnpackedFloat

/-! ## Mantissas with what was cut off -/

/-- What is known for sure of a number whose mantissa and first place behind it are kept. -/
def known (em : ExtendedMantissa) : ℚ := em.mantissa + if em.roundBit then 1 / 2 else 0

/-- A mantissa with its two bits stands for a number: the places kept are those of the number, and
the second bit tells whether there is more behind them. -/
structure StandsFor (em : ExtendedMantissa) (r : ℚ) : Prop where
  known_le : known em ≤ r
  lt_known : r < known em + 1 / 2
  sticky : em.stickyBit = true ↔ known em ≠ r

/-- The mantissa is the integer part. -/
lemma StandsFor.floor {em : ExtendedMantissa} {r : ℚ} (h : StandsFor em r) :
    (em.mantissa : ℚ) ≤ r ∧ r < em.mantissa + 1 := by
  obtain ⟨hle, hlt, -⟩ := h
  simp only [known] at hle hlt
  split_ifs at hle hlt <;> constructor <;> linarith

lemma known_shiftRightOne (em : ExtendedMantissa) : known em.shiftRightOne = em.mantissa / 2 := by
  have hdiv : ((em.mantissa % 2 : ℕ) : ℚ) + 2 * ((em.mantissa / 2 : ℕ) : ℚ) = em.mantissa := by
    exact_mod_cast Nat.mod_add_div em.mantissa 2
  unfold known ExtendedMantissa.shiftRightOne
  rcases Nat.mod_two_eq_zero_or_one em.mantissa with hmod | hmod
  · rw [hmod] at hdiv
    simp only [hmod]
    norm_num at hdiv ⊢
    linarith
  · rw [hmod] at hdiv
    simp only [hmod]
    norm_num at hdiv ⊢
    linarith

lemma StandsFor.shiftRightOne {em : ExtendedMantissa} {r : ℚ} (h : StandsFor em r) :
    StandsFor em.shiftRightOne (r / 2) := by
  obtain ⟨hle, hlt⟩ := h.floor
  have hknown := known_shiftRightOne em
  refine ⟨by linarith, by linarith, ?_⟩
  · rw [hknown]
    show (em.roundBit || em.stickyBit) = true ↔ _
    rw [Bool.or_eq_true, h.sticky, known]
    cases hround : em.roundBit with
    | true =>
      have hhalf := h.known_le
      simp only [known, hround, if_true] at hhalf
      have hne : (em.mantissa : ℚ) / 2 ≠ r / 2 := fun heq => by linarith
      simp [hne]
    | false =>
      simp only [Bool.false_eq_true, if_false, false_or, add_zero]
      exact not_congr ⟨fun heq => by rw [heq], fun heq => by linarith⟩

lemma StandsFor.shiftRight {em : ExtendedMantissa} {r : ℚ} (h : StandsFor em r) (k : ℕ) :
    StandsFor (em >>> k) (r / 2 ^ k) := by
  show StandsFor (k.repeat ExtendedMantissa.shiftRightOne em) _
  induction k with
  | zero => simpa [Nat.repeat] using h
  | succ k ih =>
    rw [Nat.repeat, pow_succ, ← div_div]
    exact ih.shiftRightOne

lemma standsFor_exact (m : ℕ) : StandsFor (.ofMantissaAndAccuracy m .exact) m := by
  refine ⟨?_, ?_, ?_⟩ <;> simp [known, ExtendedMantissa.ofMantissaAndAccuracy]

/-- The quotient of a division, with what its remainder tells. -/
lemma standsFor_div (a : ℕ) {b : ℕ} (hb : 0 < b) :
    StandsFor (.ofMantissaAndAccuracy (a / b) (accuracyOfFraction (a % b) b)) (a / b) := by
  have hbq : (0 : ℚ) < b := by exact_mod_cast hb
  have hsplit : (a : ℚ) / b = (a / b : ℕ) + (a % b : ℕ) / b := by
    rw [eq_comm, ← eq_sub_iff_add_eq, ← sub_div, eq_div_iff hbq.ne', eq_sub_iff_add_eq]
    exact_mod_cast Nat.div_add_mod' a b
  have hless : ((a % b : ℕ) : ℚ) / b < 1 := by
    rw [div_lt_one hbq]
    exact_mod_cast Nat.mod_lt a hb
  unfold accuracyOfFraction
  split
  · next hzero =>
    have hwhole : (a : ℚ) / b = (a / b : ℕ) := by
      rw [hsplit, hzero, Nat.cast_zero, zero_div, add_zero]
    rw [hwhole]
    exact standsFor_exact _
  · next hrest =>
    have hpos : (0 : ℚ) < (a % b : ℕ) / b := by
      have : (0 : ℚ) < (a % b : ℕ) := by exact_mod_cast Nat.pos_of_ne_zero hrest
      positivity
    have hhalf : (1 / 2 : ℚ) < (a % b : ℕ) / b ↔ b < 2 * (a % b) := by
      rw [div_lt_div_iff₀ two_pos hbq, one_mul, mul_comm]
      exact_mod_cast Iff.rfl
    have hhalf' : ((a % b : ℕ) / b : ℚ) < 1 / 2 ↔ 2 * (a % b) < b := by
      rw [div_lt_div_iff₀ hbq two_pos, one_mul, mul_comm]
      exact_mod_cast Iff.rfl
    rw [hsplit]
    cases hcompare : compare (2 * (a % b)) b with
    | lt =>
      have := hhalf'.mpr (compare_lt_iff_lt.mp hcompare)
      constructor <;> simp [known, ExtendedMantissa.ofMantissaAndAccuracy] <;> grind
    | eq =>
      have heq : 2 * (a % b) = b := compare_eq_iff_eq.mp hcompare
      have hexact : ((a % b : ℕ) / b : ℚ) = 1 / 2 := by
        refine le_antisymm (not_lt.mp (mt hhalf.mp ?_)) (not_lt.mp (mt hhalf'.mp ?_)) <;> omega
      rw [hexact]
      constructor <;> simp [known, ExtendedMantissa.ofMantissaAndAccuracy]
    | gt =>
      have := hhalf.mpr (compare_gt_iff_gt.mp hcompare)
      constructor <;> simp [known, ExtendedMantissa.ofMantissaAndAccuracy] <;> grind

/-- The nearest whole number, the even one of two. -/
lemma StandsFor.roundedMantissa_eq {em : ExtendedMantissa} {r : ℚ} {n : ℕ} (h : StandsFor em r)
    (hlow : (n : ℚ) - 1 / 2 ≤ r) (hhigh : r ≤ n + 1 / 2)
    (hodd : n % 2 = 1 → (n : ℚ) - 1 / 2 < r ∧ r < n + 1 / 2) : em.roundedMantissa = n := by
  obtain ⟨m, round, sticky⟩ := em
  obtain ⟨hle, hlt, hsticky⟩ := h
  have hup {k : ℕ} (hk : (n : ℚ) < k + 1) : n ≤ k := Nat.lt_succ_iff.mp (by exact_mod_cast hk)
  have hdown {k : ℕ} (hk : (k : ℚ) < n + 1) : k ≤ n := Nat.lt_succ_iff.mp (by exact_mod_cast hk)
  simp only [known] at hle hlt hsticky
  cases round <;> cases sticky <;>
    simp only [Bool.false_eq_true, if_false, if_true, false_iff, not_not, true_iff]
      at hle hlt hsticky
  · exact le_antisymm (hdown (k := m) (by linarith)) (hup (k := m) (by linarith))
  · exact le_antisymm (hdown (k := m) (by linarith)) (hup (k := m) (by linarith))
  · show m + m % 2 = n
    have := hdown (k := m) (by linarith)
    have := hup (k := m + 1) (by push_cast; linarith)
    rcases Nat.mod_two_eq_zero_or_one n with heven | hone
    · omega
    · obtain ⟨hmore, hless⟩ := hodd hone
      have := hup (k := m) (by linarith)
      have := hdown (k := m + 1) (by push_cast; linarith)
      omega
  · have hlast : (m : ℚ) + 1 / 2 < r := lt_of_le_of_ne hle hsticky
    refine le_antisymm (hdown (k := m + 1) ?_) (hup (k := m + 1) ?_) <;> push_cast <;> linarith

/-! ## Doubles and what rounds to them -/

/-- A significand and an exponent that a double has: 53 places, or fewer where the exponent is the
least one. -/
structure IsDouble (m : ℕ) (e : ℤ) : Prop where
  pos : 0 < m
  lt : m < 2 ^ 53
  low : -1074 ≤ e
  high : e ≤ 971
  normal : -1074 < e → 2 ^ 52 ≤ m

/-- How far below a double the numbers begin that round to it, counted in its last place.  The
double below a power of two is only half as far away. -/
def reach (m : ℕ) (e : ℤ) : ℚ := if m = 2 ^ 52 ∧ -1074 < e then 1 / 4 else 1 / 2

/-- The numbers that round to a double; those half-way to a neighbour do if its significand is
even. -/
structure RoundsTo (v : ℚ) (m : ℕ) (e : ℤ) : Prop where
  low : (m - reach m e) * 2 ^ e ≤ v
  high : v ≤ (m + 1 / 2) * 2 ^ e
  odd : m % 2 = 1 → (m - reach m e) * 2 ^ e < v ∧ v < (m + 1 / 2) * 2 ^ e

lemma zpow_two_lt {i j : ℤ} : (2 : ℚ) ^ i < 2 ^ j ↔ i < j := zpow_lt_zpow_iff_right₀ one_lt_two

lemma zpow_two_le {i j : ℤ} : (2 : ℚ) ^ i ≤ 2 ^ j ↔ i ≤ j := zpow_le_zpow_iff_right₀ one_lt_two

lemma reach_le (m : ℕ) (e : ℤ) : reach m e ≤ 1 / 2 := by
  unfold reach
  split_ifs <;> norm_num

lemma reach_pos (m : ℕ) (e : ℤ) : 0 < reach m e := by
  unfold reach
  split_ifs <;> norm_num

/-- What rounds to a double is no less than half of the least one. -/
lemma RoundsTo.least {v : ℚ} {m : ℕ} {e : ℤ} (h : RoundsTo v m e) (hm : IsDouble m e) :
    2 ^ (-1075 : ℤ) ≤ v := by
  have hone : (1 : ℚ) ≤ m := by exact_mod_cast hm.pos
  calc (2 : ℚ) ^ (-1075 : ℤ) = 1 / 2 * 2 ^ (-1074 : ℤ) := by
        rw [show (-1075 : ℤ) = -1 + -1074 by norm_num, zpow_add₀ two_ne_zero]
        norm_num
    _ ≤ 1 / 2 * 2 ^ e := mul_le_mul_of_nonneg_left (zpow_two_le.mpr hm.low) (by norm_num)
    _ ≤ (m - reach m e) * 2 ^ e :=
        mul_le_mul_of_nonneg_right (by linarith [reach_le m e]) (by positivity)
    _ ≤ v := h.low

/-- What rounds to a double is less than the first power of two that is none. -/
lemma RoundsTo.most {v : ℚ} {m : ℕ} {e : ℤ} (h : RoundsTo v m e) (hm : IsDouble m e) :
    v < 2 ^ (1024 : ℤ) := by
  have hplaces : (m : ℚ) + 1 ≤ 2 ^ (53 : ℤ) := by exact_mod_cast hm.lt
  calc v ≤ (m + 1 / 2) * 2 ^ e := h.high
    _ < 2 ^ (53 : ℤ) * 2 ^ e := mul_lt_mul_of_pos_right (by linarith) (by positivity)
    _ = 2 ^ (53 + e) := (zpow_add₀ two_ne_zero _ _).symm
    _ ≤ 2 ^ (1024 : ℤ) := zpow_two_le.mpr (by have := hm.high; omega)

lemma RoundsTo.pos {v : ℚ} {m : ℕ} {e : ℤ} (h : RoundsTo v m e) (hm : 0 < m) : 0 < v := by
  have hone : (1 : ℚ) ≤ m := by exact_mod_cast hm
  have hsome : 0 < (m : ℚ) - reach m e := by linarith [reach_le m e]
  exact (mul_pos hsome (by positivity)).trans_le h.low

/-- A double rounds to itself. -/
lemma roundsTo_self (m : ℕ) (e : ℤ) : RoundsTo (m * 2 ^ e) m e := by
  have hunit : (0 : ℚ) < 2 ^ e := by positivity
  have hbelow : (m - reach m e) * 2 ^ e < m * 2 ^ e :=
    mul_lt_mul_of_pos_right (by linarith [reach_pos m e]) hunit
  have habove : (m : ℚ) * 2 ^ e < (m + 1 / 2) * 2 ^ e :=
    mul_lt_mul_of_pos_right (by linarith) hunit
  exact ⟨hbelow.le, habove.le, fun _ => ⟨hbelow, habove⟩⟩

/-! ## The exponent of the rounded number -/

/-- What rounds to a double has its exponent, except below a power of two: there the places of the
number are worth half of those of the double. -/
lemma exponent_cases {v : ℚ} {m : ℕ} {e t : ℤ} (hm : IsDouble m e) (hv : RoundsTo v m e)
    (hleast : -1074 ≤ t) (hbelow : v < 2 ^ (t + 53)) (habove : t = -1074 ∨ 2 ^ (t + 52) ≤ v) :
    t = e ∨ t = e - 1 ∧ m = 2 ^ 52 ∧ -1074 < e ∧ v < 2 ^ 52 * 2 ^ e := by
  have hunit : (0 : ℚ) < 2 ^ e := by positivity
  have hle : t ≤ e := by
    rcases habove with rfl | habove
    · exact hm.low
    · have hmost : (m : ℚ) + 1 / 2 < 2 ^ (53 : ℤ) := by
        have : (m : ℚ) + 1 ≤ 2 ^ 53 := by exact_mod_cast hm.lt
        norm_num at this ⊢
        linarith
      have hlt : v < 2 ^ (53 + e) := by
        rw [zpow_add₀ two_ne_zero]
        exact hv.high.trans_lt (mul_lt_mul_of_pos_right hmost hunit)
      have := zpow_two_lt.mp (habove.trans_lt hlt)
      omega
  by_cases hpower : m = 2 ^ 52 ∧ -1074 < e ∧ v < 2 ^ 52 * 2 ^ e
  · obtain ⟨rfl, hnormal, hless⟩ := hpower
    have hleast : (2 : ℚ) ^ (51 : ℤ) ≤ ((2 ^ 52 : ℕ) : ℚ) - reach (2 ^ 52) e := by
      have := reach_le (2 ^ 52) e
      norm_num at this ⊢
      linarith
    have hlow : (2 : ℚ) ^ (51 + e) ≤ v := by
      rw [zpow_add₀ two_ne_zero]
      exact (mul_le_mul_of_nonneg_right hleast hunit.le).trans hv.low
    have := zpow_two_lt.mp (hlow.trans_lt hbelow)
    rcases (by omega : t = e ∨ t = e - 1) with heq | heq
    · exact .inl heq
    · exact .inr ⟨heq, rfl, hnormal, hless⟩
  · left
    refine le_antisymm hle ?_
    rcases eq_or_lt_of_le hm.low with heq | hnormal
    · omega
    · have hlow : (2 : ℚ) ^ (52 + e) ≤ v := by
        rw [zpow_add₀ two_ne_zero, show ((2 : ℚ) ^ (52 : ℤ)) = 2 ^ 52 by norm_cast]
        by_cases heq : m = 2 ^ 52
        · exact not_lt.mp fun hless => hpower ⟨heq, hnormal, hless⟩
        · have hmore : (2 : ℚ) ^ 52 + 1 ≤ m := by
            exact_mod_cast lt_of_le_of_ne (hm.normal hnormal) (Ne.symm heq)
          refine le_trans (mul_le_mul_of_nonneg_right ?_ hunit.le) hv.low
          linarith [reach_le m e]
      have := zpow_two_lt.mp (hlow.trans_lt hbelow)
      omega

lemma targetExponent_eq (m : ℕ) (e : ℤ) :
    Format.binary64.targetExponent (totalExponent m e) = max (m.log2 + e - 52) (-1074) := by
  simp only [Format.targetExponent, totalExponent, Format.mantissaBits, Format.minExponent]
  norm_num
  omega

/-- The exponent that is aimed at fits the number: no more than 53 places stand before the point,
and no fewer unless the exponent is the least one. -/
lemma target_bounds {v : ℚ} {m : ℕ} {e t : ℤ} (hplaces : 2 ^ 52 ≤ m ∨ e = -1074)
    (ht : t = max (m.log2 + e - 52) (-1074)) (hle : (m : ℚ) ≤ v / 2 ^ e)
    (hlt : v / 2 ^ e < m + 1) : e ≤ t ∧ v < 2 ^ (t + 53) ∧ (t = -1074 ∨ 2 ^ (t + 52) ≤ v) := by
  have hunit : (0 : ℚ) < 2 ^ e := by positivity
  rw [le_div_iff₀ hunit] at hle
  rw [div_lt_iff₀ hunit] at hlt
  have hlog : 52 ≤ m.log2 ∨ e = -1074 :=
    hplaces.imp_left fun h => (Nat.le_log2 (by omega)).mpr h
  refine ⟨by omega, ?_, ?_⟩
  · have hmost : (m : ℚ) + 1 ≤ 2 ^ ((m.log2 : ℤ) + 1) := by
      exact_mod_cast Nat.lt_log2_self
    calc v < (m + 1) * 2 ^ e := hlt
      _ ≤ 2 ^ ((m.log2 : ℤ) + 1) * 2 ^ e := mul_le_mul_of_nonneg_right hmost hunit.le
      _ = 2 ^ ((m.log2 : ℤ) + 1 + e) := (zpow_add₀ two_ne_zero _ _).symm
      _ ≤ 2 ^ (t + 53) := zpow_two_le.mpr (by omega)
  · rcases (by omega : t = -1074 ∨ t = m.log2 + e - 52 ∧ 52 ≤ m.log2) with heq | ⟨heq, hbig⟩
    · exact .inl heq
    · right
      have hleast : (2 : ℚ) ^ (m.log2 : ℤ) ≤ m := by
        exact_mod_cast Nat.log2_self_le (by rintro rfl; simp at hbig)
      calc (2 : ℚ) ^ (t + 52) = 2 ^ (m.log2 : ℤ) * 2 ^ e := by
            rw [← zpow_add₀ two_ne_zero, heq]
            congr 1
            omega
        _ ≤ m * 2 ^ e := mul_le_mul_of_nonneg_right hleast hunit.le
        _ ≤ v := hle

/-! ## Rounding -/

/-- A double that is aimed at its own exponent stays as it is. -/
lemma shiftToTargetExponent_self {m : ℕ} {e : ℤ} (hm : IsDouble m e) :
    shiftToTargetExponent .binary64 m e .exact = (⟨m, false, false⟩, e) := by
  rcases eq_or_lt_of_le hm.low with rfl | hnormal
  · have hlog : m.log2 < 53 := (Nat.log2_lt hm.pos.ne').mpr hm.lt
    have hshift : (max ((m.log2 : ℤ) + -1074 - 52) (-1074) - -1074).toNat = 0 := by omega
    simp only [shiftToTargetExponent, shiftToExponent, targetExponent_eq, hshift,
      ExtendedMantissa.ofMantissaAndAccuracy]
    rfl
  · have hlog : m.log2 = 52 := (Nat.log2_eq_iff hm.pos.ne').mpr ⟨hm.normal hnormal, hm.lt⟩
    simpa using shiftToTargetExponent_eq (k := 0) hlog hm.low

/-- A mantissa that is cut off at the place that is aimed at is rounded to the double.  Below a power
of two it is carried over to the power, and aimed at once more. -/
lemma StandsFor.roundedMantissa_shift {em : ExtendedMantissa} {v : ℚ} {m : ℕ} {e t : ℤ}
    (h : StandsFor em (v / 2 ^ t)) (hm : IsDouble m e) (hv : RoundsTo v m e) (hleast : -1074 ≤ t)
    (hbelow : v < 2 ^ (t + 53)) (habove : t = -1074 ∨ 2 ^ (t + 52) ≤ v) :
    shiftToTargetExponent .binary64 em.roundedMantissa t .exact = (⟨m, false, false⟩, e) := by
  have hunit : (0 : ℚ) < 2 ^ t := by positivity
  rcases exponent_cases hm hv hleast hbelow habove with rfl | ⟨htarget, rfl, hnormal, hless⟩
  · have hrounded : em.roundedMantissa = m := by
      refine h.roundedMantissa_eq ?_ ?_ fun hodd => ⟨?_, ?_⟩
      · rw [le_div_iff₀ hunit]
        refine le_trans (mul_le_mul_of_nonneg_right ?_ hunit.le) hv.low
        linarith [reach_le m t]
      · exact (div_le_iff₀ hunit).mpr hv.high
      · rw [lt_div_iff₀ hunit]
        refine lt_of_le_of_lt (mul_le_mul_of_nonneg_right ?_ hunit.le) (hv.odd hodd).1
        linarith [reach_le m t]
      · exact (div_lt_iff₀ hunit).mpr (hv.odd hodd).2
    rw [hrounded]
    exact shiftToTargetExponent_self hm
  · have hdouble : (2 : ℚ) ^ e = 2 * 2 ^ t := by
      rw [htarget, zpow_sub_one₀ two_ne_zero]
      ring
    have hlow := hv.low
    rw [reach, if_pos ⟨rfl, hnormal⟩, hdouble] at hlow
    rw [hdouble] at hless
    have hrounded : em.roundedMantissa = 2 ^ 53 := by
      refine h.roundedMantissa_eq ?_ ?_ fun hodd => absurd hodd (by decide)
      · rw [le_div_iff₀ hunit]
        push_cast at hlow ⊢
        linarith
      · rw [div_le_iff₀ hunit]
        push_cast
        linarith
    have hcarried := shiftToTargetExponent_eq (m := 2 ^ 52) (k := 1) (e := e) (by decide) hm.low
    rw [hrounded, htarget]
    exact_mod_cast hcarried

/-- **Rounding.**  A number of which enough places are known is rounded to the double that it is
nearest to. -/
theorem roundWithAccuracy_eq {v : ℚ} {m n : ℕ} {e q : ℤ} {accuracy : Accuracy} (s : Sign)
    (hstands : StandsFor (.ofMantissaAndAccuracy n accuracy) (v / 2 ^ q))
    (hplaces : 2 ^ 52 ≤ n ∨ q = -1074) (hm : IsDouble m e) (hv : RoundsTo v m e) :
    roundWithAccuracy .binary64 s n q accuracy = .finite s m e hm.pos := by
  obtain ⟨t, ht⟩ : ∃ t, t = max ((n.log2 : ℤ) + q - 52) (-1074) := ⟨_, rfl⟩
  have hmantissa : (ExtendedMantissa.ofMantissaAndAccuracy n accuracy).mantissa = n := by
    unfold ExtendedMantissa.ofMantissaAndAccuracy
    split <;> rfl
  obtain ⟨hle, hlt⟩ := hstands.floor
  rw [hmantissa] at hle hlt
  obtain ⟨hqt, hbelow, habove⟩ := target_bounds hplaces ht hle hlt
  have hfirst : shiftToTargetExponent .binary64 n q accuracy =
      (ExtendedMantissa.ofMantissaAndAccuracy n accuracy >>> (t - q).toNat, t) := by
    simp only [shiftToTargetExponent, shiftToExponent, targetExponent_eq, ← ht, Prod.mk.injEq,
      true_and]
    omega
  have hscaled : v / 2 ^ q / 2 ^ (t - q).toNat = v / 2 ^ t := by
    rw [div_div, ← zpow_natCast, ← zpow_add₀ two_ne_zero, Int.toNat_of_nonneg (by omega),
      add_sub_cancel]
  have hshifted := hscaled ▸ hstands.shiftRight (t - q).toNat
  have hsecond := hshifted.roundedMantissa_shift hm hv (by omega) hbelow habove
  simp only [roundWithAccuracy, hfirst, hsecond, hm.pos.ne', dite_false]

/-! ## Products and quotients -/

/-- The product of two doubles, one of them normal in its places, is rounded. -/
lemma mul_eq {v : ℚ} {m m₁ m₂ : ℕ} {e e₁ e₂ : ℤ} {s₁ s₂ : Sign} {h₁ : 0 < m₁} {h₂ : 0 < m₂}
    (hm : IsDouble m e) (hv : RoundsTo v m e) (hplaces : 2 ^ 52 ≤ m₁)
    (hvalue : v = m₁ * 2 ^ e₁ * (m₂ * 2 ^ e₂)) :
    UnpackedFloat.mul .binary64 (.finite s₁ m₁ e₁ h₁) (.finite s₂ m₂ e₂ h₂) =
      .finite (s₁ * s₂) m e hm.pos := by
  refine roundWithAccuracy_eq _ ?_ (.inl (hplaces.trans (Nat.le_mul_of_pos_right _ h₂))) hm hv
  have hscaled : v / 2 ^ (e₁ + e₂) = (m₁ * m₂ : ℕ) := by
    have : (0 : ℚ) < 2 ^ (e₁ + e₂) := by positivity
    rw [hvalue, div_eq_iff this.ne', zpow_add₀ two_ne_zero]
    push_cast
    ring
  rw [hscaled]
  exact standsFor_exact _

/-- The quotient of two doubles is rounded. -/
lemma div_eq {v : ℚ} {m m₁ m₂ : ℕ} {e e₁ e₂ : ℤ} {s₁ s₂ : Sign} {h₁ : 0 < m₁} {h₂ : 0 < m₂}
    (hm : IsDouble m e) (hv : RoundsTo v m e) (hscale : -1074 ≤ e₁ - e₂)
    (hvalue : v = m₁ * 2 ^ e₁ / (m₂ * 2 ^ e₂)) :
    UnpackedFloat.div .binary64 (.finite s₁ m₁ e₁ h₁) (.finite s₂ m₂ e₂ h₂) =
      .finite (s₁ / s₂) m e hm.pos := by
  obtain ⟨t, ht⟩ : ∃ t, t = min (e₁ - e₂) (Format.binary64.targetExponent
      (totalExponent m₁ e₁ - totalExponent m₂ e₂)) := ⟨_, rfl⟩
  have htarget : Format.binary64.targetExponent (totalExponent m₁ e₁ - totalExponent m₂ e₂) =
      max ((m₁.log2 : ℤ) + e₁ - (m₂.log2 + e₂) - 53) (-1074) := by
    simp only [Format.targetExponent, totalExponent, Format.mantissaBits, Format.minExponent]
    norm_num
    omega
  obtain ⟨k, hk⟩ : ∃ k : ℕ, e₁ - e₂ - t = k := ⟨(e₁ - e₂ - t).toNat, by omega⟩
  show roundWithAccuracy .binary64 (s₁ / s₂) _ _ _ = _
  simp only [← ht, hk, Int.toNat_natCast, Nat.shiftLeft_eq]
  refine roundWithAccuracy_eq _ ?_ ?_ hm hv
  · have hscaled : v / 2 ^ t = ((m₁ * 2 ^ k : ℕ) : ℚ) / m₂ := by
      have hexponent : (2 : ℚ) ^ e₁ = 2 ^ e₂ * 2 ^ t * 2 ^ k := by
        rw [← zpow_natCast, ← zpow_add₀ two_ne_zero, ← zpow_add₀ two_ne_zero]
        congr 1
        omega
      have hm₂ : (m₂ : ℚ) ≠ 0 := by exact_mod_cast h₂.ne'
      rw [hvalue, hexponent]
      push_cast
      field_simp
    rw [hscaled]
    exact standsFor_div _ h₂
  · rcases (by omega : t = -1074 ∨ (m₂.log2 : ℤ) + 53 ≤ m₁.log2 + k) with heq | hplaces
    · exact .inr heq
    · left
      rw [Nat.le_div_iff_mul_le h₂]
      calc 2 ^ 52 * m₂ ≤ 2 ^ 52 * 2 ^ (m₂.log2 + 1) :=
            Nat.mul_le_mul_left _ Nat.lt_log2_self.le
        _ = 2 ^ (m₂.log2 + 53) := by rw [← pow_add]; congr 1; omega
        _ ≤ 2 ^ (m₁.log2 + k) := Nat.pow_le_pow_right two_pos (by omega)
        _ ≤ m₁ * 2 ^ k := by
            rw [pow_add]
            exact Nat.mul_le_mul_right _ (Nat.log2_self_le h₁.ne')

end ModuleRunner.Decimal
