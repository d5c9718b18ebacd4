import ModuleRunner.Proofs.Decimal.Count
import ModuleRunner.Proofs.Decimal.Nearest

/-!
# Printed numbers are read back

A number is printed with the digits of a decimal that reads back as it: the decimal of the number
itself, or a shorter one that rounds to it.  What is left is that the zeros and the point it is laid
out with change nothing of its value.

* `Digits.value`, `Magnitude.value` — the rational number of a decimal and of a double.
* `compareScaled_eq` — decimals and doubles are compared by their values.
* `roundsTo_shortest` — the shortest digits round to the double that they were found for.
* `Writes`, `writes_plain` — the digits that a text is read as have the value of the decimal that is
  laid out in it.
-/

namespace ModuleRunner.Decimal

/-! ## Values -/

/-- The value of a decimal. -/
def Digits.value (d : Digits) : ℚ := d.digits * 10 ^ d.exponent

/-- The value of a magnitude. -/
def Magnitude.value (m : Magnitude) : ℚ := m.significand * 2 ^ m.exponent

lemma Digits.value_strip (d : Digits) (tries : ℕ) : (d.strip tries).value = d.value := by
  induction tries generalizing d with
  | zero => rfl
  | succ tries ih =>
    unfold Digits.strip
    split
    · next h =>
      have hdigits : d.digits = d.digits / 10 * 10 := by omega
      rw [ih, value, value, zpow_add_one₀ (by norm_num), mul_comm ((10 : ℚ) ^ d.exponent),
        ← mul_assoc]
      congr 1
      exact_mod_cast hdigits.symm
    · rfl

/-- A power is a quotient of powers of which one is trivial. -/
lemma zpow_eq_div {x : ℚ} (hx : x ≠ 0) (i : ℤ) : x ^ i = x ^ i.toNat / x ^ (-i).toNat := by
  rw [← zpow_natCast, ← zpow_natCast, ← zpow_sub₀ hx]
  congr 1
  omega

lemma value_exact (m : Magnitude) : (exact m).value = m.value := by
  unfold exact Digits.value Magnitude.value
  split
  · next h =>
    rw [zpow_eq_div two_ne_zero m.exponent, show (-m.exponent).toNat = 0 by omega]
    simp
  · next h =>
    rw [zpow_eq_div two_ne_zero m.exponent, zpow_eq_div (by norm_num) m.exponent,
      show m.exponent.toNat = 0 by omega, show (10 : ℚ) = 2 * 5 by norm_num, mul_pow]
    push_cast [Nat.pow_eq]
    field_simp
    rw [mul_pow]
    ring

/-- A whole magnitude is its integer part. -/
lemma value_floor {m : Magnitude} (h : m.isWhole = true) : (m.floor : ℚ) = m.value := by
  unfold Magnitude.value
  by_cases hexponent : 0 ≤ m.exponent
  · rw [Magnitude.floor, if_pos hexponent, ← Int.toNat_of_nonneg hexponent, zpow_natCast]
    push_cast [Nat.pow_eq]
    rfl
  · obtain ⟨k, hk⟩ : ∃ k : ℕ, m.exponent = -k := ⟨(-m.exponent).toNat, by omega⟩
    have hproduct := Magnitude.significand_eq_floor_mul h (not_le.mp hexponent)
    rw [hk, neg_neg, Int.toNat_natCast] at hproduct
    rw [hproduct, hk, zpow_neg, zpow_natCast]
    push_cast [Nat.pow_eq]
    field_simp

/-- Decimals and doubles are compared by their values. -/
lemma compareScaled_eq (a : ℕ) (i : ℤ) (b : ℕ) (j : ℤ) :
    compareScaled a i b j = compare ((a : ℚ) * 10 ^ i) (b * 2 ^ j) := by
  -- Both sides are scaled by the same factor, which leaves natural numbers.
  obtain ⟨c, hc⟩ : ∃ c : ℚ, c = 10 ^ (-i).toNat * 2 ^ (-j).toNat := ⟨_, rfl⟩
  have hpos : 0 < c := by rw [hc]; positivity
  have hleft : (a : ℚ) * 10 ^ i * c = (a * Nat.pow 10 i.toNat * Nat.pow 2 (-j).toNat : ℕ) := by
    rw [zpow_eq_div (by norm_num) i, hc]
    push_cast [Nat.pow_eq]
    field_simp
  have hright : (b : ℚ) * 2 ^ j * c = (b * Nat.pow 2 j.toNat * Nat.pow 10 (-i).toNat : ℕ) := by
    rw [zpow_eq_div two_ne_zero j, hc]
    push_cast [Nat.pow_eq]
    field_simp
  rw [compareScaled, ← cmp_eq_compare, ← cmp_eq_compare, ← cmp_mul_pos_right hpos, hleft, hright]
  exact (Nat.strictMono_cast.cmp_map_eq _ _).symm

/-! ## What reads back -/

/-- A decimal that reads back as a magnitude rounds to its double. -/
lemma roundsTo_of_readsBack {d : Digits} {m : Magnitude} (hpos : 0 < m.significand)
    (hclose : m.closeBelow = true ↔ m.significand = 2 ^ 52 ∧ -1074 < m.exponent)
    (h : d.readsBack m = true) : RoundsTo d.value m.significand m.exponent := by
  have hquarter : (2 : ℚ) ^ m.exponent = 4 * 2 ^ (m.exponent - 2) := by
    rw [zpow_sub₀ two_ne_zero]
    norm_num
    ring
  have hbelow : ((4 * m.significand - if m.closeBelow then 1 else 2 : ℕ) : ℚ) *
      2 ^ (m.exponent - 2) = (m.significand - reach m.significand m.exponent) * 2 ^ m.exponent := by
    rw [hquarter, reach, Nat.cast_sub (by split <;> omega)]
    by_cases hnear : m.closeBelow = true
    · rw [if_pos hnear, if_pos (hclose.mp hnear)]
      push_cast
      ring
    · rw [if_neg hnear, if_neg (mt hclose.mpr hnear)]
      push_cast
      ring
  have habove : ((4 * m.significand + 2 : ℕ) : ℚ) * 2 ^ (m.exponent - 2) =
      (m.significand + 1 / 2) * 2 ^ m.exponent := by
    rw [hquarter]
    push_cast
    ring
  simp only [Digits.readsBack, compareScaled_eq, hbelow, habove, Bool.and_eq_true, Bool.or_eq_true,
    beq_iff_eq, compare_gt_iff_gt, compare_lt_iff_lt, compare_eq_iff_eq] at h
  obtain ⟨hlow, hhigh⟩ := h
  refine ⟨?_, ?_, fun hodd => ⟨?_, ?_⟩⟩
  · exact hlow.elim (·.le) (·.2.ge)
  · exact hhigh.elim (·.le) (·.2.le)
  · exact hlow.resolve_right fun hend => by omega
  · exact hhigh.resolve_right fun hend => by omega

/-- The shortest digits round to the double that they were found for. -/
lemma roundsTo_shortest (tie : Tie) {m : Magnitude} (hpos : 0 < m.significand)
    (hclose : m.closeBelow = true ↔ m.significand = 2 ^ 52 ∧ -1074 < m.exponent) :
    RoundsTo (shortest tie m).value m.significand m.exponent := by
  rw [shortest, if_neg hpos.ne', Digits.value_strip]
  cases hfound : search tie m (scaleOf m - 1) 18 with
  | some d => exact roundsTo_of_readsBack hpos hclose (readsBack_of_search hfound)
  | none =>
    rw [Option.getD_none, value_exact]
    exact roundsTo_self _ _

/-! ## Layout -/

lemma valueOf_append_zeros (cs : List Char) (k : ℕ) :
    valueOf (cs ++ List.replicate k '0') = valueOf cs * 10 ^ k := by
  induction k with
  | zero => simp
  | succ k ih =>
    have hzero : digitValue '0' = 0 := rfl
    unfold valueOf at ih ⊢
    rw [List.replicate_succ', ← List.append_assoc, List.foldl_append, ih]
    simp only [List.foldl_cons, List.foldl_nil, hzero]
    ring

lemma valueOf_zeros_append (cs : List Char) (k : ℕ) :
    valueOf (List.replicate k '0' ++ cs) = valueOf cs := by
  induction k with
  | zero => rfl
  | succ k ih => exact ih

/-- Characters that are read as a numeral with a value: digits, and at most points among them. -/
structure Writes (cs : List Char) (v : ℚ) : Prop where
  all : cs.all (fun c => isDigit c || c == '.') = true
  ne_nil : cs ≠ []
  reads : ∃ n i, unsigned? cs = some (nearest n i) ∧ (n : ℚ) * 10 ^ i = v

lemma all_isDigit_or {cs : List Char} (h : cs.all isDigit = true) :
    cs.all (fun c => isDigit c || c == '.') = true :=
  List.all_eq_true.mpr fun c hc => by rw [List.all_eq_true.mp h c hc, Bool.true_or]

lemma digitRun_point {cs : List Char} (h : cs.all isDigit = true) (rest : List Char) :
    digitRun (cs ++ '.' :: rest) = cs := by
  rw [digitRun, List.takeWhile_append_of_pos fun c hc => List.all_eq_true.mp h c hc,
    List.takeWhile_cons_of_neg (by decide), List.append_nil]

/-- Digits alone are read as a whole number. -/
lemma writes_digits {cs : List Char} (h : cs.all isDigit = true) (hsome : cs ≠ []) :
    Writes cs (valueOf cs) :=
  ⟨all_isDigit_or h, hsome, valueOf cs, 0, unsigned?_digits h hsome, by simp⟩

/-- Digits around a point are read as a whole number and scaled. -/
lemma writes_point {whole fraction : List Char} (hwhole : whole.all isDigit = true)
    (hfraction : fraction.all isDigit = true) (hsome : whole ≠ []) :
    Writes (whole ++ '.' :: fraction)
      (valueOf (whole ++ fraction) * 10 ^ (-(fraction.length : ℤ))) := by
  have hnonempty : whole.isEmpty = false := by simpa using hsome
  refine ⟨?_, by simp, _, _, ?_, rfl⟩
  · rw [List.all_append, List.all_cons, all_isDigit_or hwhole, all_isDigit_or hfraction]
    rfl
  · simp [unsigned?, digitRun_point hwhole, digitRun_of_all hfraction, hnonempty, exponent?]

lemma all_isDigit_zeros (k : ℕ) : (List.replicate k '0').all isDigit = true :=
  List.all_eq_true.mpr fun c hc => by rw [List.eq_of_mem_replicate hc]; rfl

lemma all_isDigit_of_subset {cs ds : List Char} (h : cs.all isDigit = true) (hsub : ds ⊆ cs) :
    ds.all isDigit = true :=
  List.all_eq_true.mpr fun c hc => List.all_eq_true.mp h c (hsub hc)

/-- Zeros behind the digits of a number. -/
lemma writes_scaled (n k : ℕ) :
    Writes (Nat.toDigits 10 n ++ List.replicate k '0') (n * 10 ^ (k : ℤ)) := by
  have hdigits : (Nat.toDigits 10 n ++ List.replicate k '0').all isDigit = true := by
    rw [List.all_append, all_isDigit_toDigits, all_isDigit_zeros, Bool.and_self]
  have hwrites := writes_digits hdigits (by simp [Nat.toDigits_ne_nil])
  rw [valueOf_append_zeros, valueOf_toDigits] at hwrites
  exact_mod_cast hwrites

/-- The point among the digits of a number. -/
lemma writes_point_among {n k : ℕ} (hk : k < (Nat.toDigits 10 n).length) :
    Writes ((Nat.toDigits 10 n).take ((Nat.toDigits 10 n).length - k) ++
      '.' :: (Nat.toDigits 10 n).drop ((Nat.toDigits 10 n).length - k)) (n * 10 ^ (-(k : ℤ))) := by
  obtain ⟨cut, hcut⟩ : ∃ cut, cut = (Nat.toDigits 10 n).length - k := ⟨_, rfl⟩
  rw [← hcut]
  have hplaces : ((Nat.toDigits 10 n).drop cut).length = k := by
    rw [List.length_drop]
    omega
  have hsome : (Nat.toDigits 10 n).take cut ≠ [] := by
    rw [ne_eq, List.take_eq_nil_iff, not_or]
    exact ⟨by omega, Nat.toDigits_ne_nil⟩
  have hall := all_isDigit_toDigits n
  have hwrites := writes_point (all_isDigit_of_subset hall (List.take_subset cut _))
    (all_isDigit_of_subset hall (List.drop_subset cut _)) hsome
  rwa [List.take_append_drop, valueOf_toDigits, hplaces] at hwrites

/-- The point in front of the digits of a number, and zeros between them. -/
lemma writes_point_before {n k : ℕ} (hk : (Nat.toDigits 10 n).length ≤ k) :
    Writes ('0' :: '.' :: (List.replicate (k - (Nat.toDigits 10 n).length) '0' ++
      Nat.toDigits 10 n)) (n * 10 ^ (-(k : ℤ))) := by
  obtain ⟨r, hr⟩ : ∃ r, r = k - (Nat.toDigits 10 n).length := ⟨_, rfl⟩
  rw [← hr]
  have hplaces : (List.replicate r '0' ++ Nat.toDigits 10 n).length = k := by
    rw [List.length_append, List.length_replicate]
    omega
  have hfraction : (List.replicate r '0' ++ Nat.toDigits 10 n).all isDigit = true := by
    rw [List.all_append, all_isDigit_toDigits, all_isDigit_zeros, Bool.and_self]
  have hvalue : valueOf (['0'] ++ (List.replicate r '0' ++ Nat.toDigits 10 n)) = n :=
    (valueOf_zeros_append _ (r + 1)).trans (valueOf_toDigits n)
  have hwrites := writes_point (all_isDigit_zeros 1) hfraction (by simp)
  rwa [show List.replicate 1 '0' = ['0'] from rfl, hvalue, hplaces] at hwrites

/-- The digits of a whole number are read as it. -/
lemma writes_toString (n : ℕ) : Writes (toString n).toList n := by
  simpa [toList_toString] using writes_scaled n 0

/-- **Layout.**  A decimal that is laid out with zeros and a point is read as its value. -/
theorem writes_plain (d : Digits) : Writes (plain d).toList d.value := by
  have hlength : (toString d.digits).length = (Nat.toDigits 10 d.digits).length := by
    rw [← toList_toString, String.length_toList]
  unfold plain
  dsimp only
  rw [hlength]
  split
  · next hexponent =>
    have hwrites := writes_scaled d.digits d.exponent.toNat
    rw [Int.toNat_of_nonneg hexponent] at hwrites
    simp only [zeros, String.toList_append, String.toList_ofList, toList_toString]
    exact hwrites
  · next hexponent =>
    have hvalue : d.value = d.digits * 10 ^ (-((-d.exponent).toNat : ℤ)) := by
      rw [Digits.value]
      congr 2
      omega
    rw [hvalue]
    split
    · next hlong =>
      simp only [String.toList_append, String.toList_ofList, toList_toString, List.append_assoc]
      exact writes_point_among hlong
    · next hshort =>
      simp only [zeros, String.toList_append, String.toList_ofList, toList_toString,
        List.append_assoc]
      exact writes_point_before (not_lt.mp hshort)

end ModuleRunner.Decimal
