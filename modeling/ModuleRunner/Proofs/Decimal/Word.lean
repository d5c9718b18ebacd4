import ModuleRunner.Proofs.Decimal.Count

/-!
# Spellings of words

A whole number of at most 64 bits is read from its decimal digits, with or without a plus sign before
them.  So a number has many spellings: zeros may stand in front, and the sign.  Without them there is
one, which is how the number is printed.

* `Word`, `word?` — digits that write a number of at most 64 bits, and the number.
* `Spells`, `spells_iff_word` — those digits, or a plus sign and those digits.
* `Padded` — a zero in front of something else.
* `toDigits_valueOf` — digits that are not padded are those of their value.
* `spells_iff` — the spellings that are not padded.
-/

namespace ModuleRunner.Decimal

/-- Digits that write a number of at most 64 bits. -/
structure Word (cs : List Char) (n : Nat) : Prop where
  nonempty : cs ≠ []
  digits : cs.all isDigit = true
  value : valueOf cs = n
  fits : n < 2 ^ 64

/-- A text of digits, behind a plus sign or not, that write a number of at most 64 bits. -/
def Spells (cs : List Char) (n : Nat) : Prop :=
  Word cs n ∨ ∃ digits, cs = '+' :: digits ∧ Word digits n

/-- The number that digits write, if it has at most 64 bits. -/
def word? (cs : List Char) : Option Nat :=
  if cs.isEmpty || !cs.all isDigit || 2 ^ 64 ≤ valueOf cs then none else some (valueOf cs)

/-- What is left of a text without a plus sign in front. -/
def unsigned : List Char → List Char
  | '+' :: rest => rest
  | cs => cs

/-- A zero in front of something else. -/
def Padded (cs : List Char) : Prop := ∃ c rest, cs = '0' :: c :: rest

/-! ## Words -/

/-- The number of digits, asked for step by step. -/
lemma word?_eq_ite (cs : List Char) : word? cs =
    if (cs.isEmpty || !cs.all isDigit) = true then none
    else if valueOf cs < 2 ^ 64 then some (valueOf cs) else none := by
  rw [word?]
  simp only [Bool.or_eq_true, decide_eq_true_eq]
  grind

lemma word?_eq_some_iff {cs : List Char} {n : Nat} : word? cs = some n ↔ Word cs n := by
  constructor
  · intro h
    rw [word?] at h
    split at h
    · cases h
    · next hword =>
      obtain ⟨⟨hsome, hdigits⟩, hfits⟩ : (cs ≠ [] ∧ cs.all isDigit = true) ∧ valueOf cs < 2 ^ 64 := by
        simpa using hword
      cases h
      exact ⟨hsome, hdigits, rfl, hfits⟩
  · rintro ⟨hsome, hdigits, rfl, hfits⟩
    have hlong : ¬ 2 ^ 64 ≤ valueOf cs := Nat.not_le.mpr hfits
    rw [word?, if_neg]
    simp only [List.isEmpty_eq_false_iff.mpr hsome, hdigits, hlong]
    decide

lemma unsigned_of_ne {cs : List Char} (h : ∀ rest, cs ≠ '+' :: rest) : unsigned cs = cs := by
  unfold unsigned
  split
  · next rest => exact absurd rfl (h rest)
  · rfl

/-- A sign is no digit. -/
lemma not_word_plus {cs : List Char} {n : Nat} : ¬ Word ('+' :: cs) n := by
  intro h
  have := h.digits
  simp [isDigit] at this

lemma spells_iff_word {cs : List Char} {n : Nat} : Spells cs n ↔ Word (unsigned cs) n := by
  by_cases hsign : ∃ rest, cs = '+' :: rest
  · obtain ⟨rest, rfl⟩ := hsign
    constructor
    · rintro (hword | ⟨digits, heq, hword⟩)
      · exact absurd hword not_word_plus
      · cases heq
        exact hword
    · exact fun hword => .inr ⟨rest, rfl, hword⟩
  · rw [unsigned_of_ne fun rest h => hsign ⟨rest, h⟩]
    exact ⟨fun h => h.resolve_right fun ⟨digits, heq, _⟩ => hsign ⟨digits, heq⟩, .inl⟩

/-! ## Digits without zeros in front -/

lemma valueOf_concat (cs : List Char) (c : Char) :
    valueOf (cs ++ [c]) = 10 * valueOf cs + digitValue c := by
  simp [valueOf]

lemma digitValue_lt {c : Char} (h : isDigit c = true) : digitValue c < 10 := by
  obtain ⟨-, hle⟩ : '0' ≤ c ∧ c ≤ '9' := by simpa [isDigit] using h
  have : c.toNat ≤ '9'.toNat := hle
  have hnine : '9'.toNat = 57 := rfl
  have hzero : '0'.toNat = 48 := rfl
  rw [digitValue]
  omega

/-- A digit is the one that is printed for its value. -/
lemma toDigits_digitValue {c : Char} (h : isDigit c = true) : Nat.toDigits 10 (digitValue c) = [c] := by
  have hlt := digitValue_lt h
  obtain ⟨hge, -⟩ : '0' ≤ c ∧ c ≤ '9' := by simpa [isDigit] using h
  have hzero : 48 ≤ c.toNat := hge
  rw [Nat.toDigits_of_lt_base hlt]
  congr 1
  apply Char.toNat_inj.mp
  rw [Nat.toNat_digitChar_of_lt_ten hlt, digitValue]
  show 48 + (c.toNat - 48) = c.toNat
  omega

/-- Digits that are not padded are the digits of their value. -/
theorem toDigits_valueOf {cs : List Char} (hsome : cs ≠ []) (h : cs.all isDigit = true)
    (hpad : ¬ Padded cs) : Nat.toDigits 10 (valueOf cs) = cs := by
  induction cs using List.reverseRecOn with
  | nil => exact absurd rfl hsome
  | append_singleton front c ih =>
    obtain ⟨hfront, hc⟩ : front.all isDigit = true ∧ isDigit c = true := by
      simpa only [List.all_append, Bool.and_eq_true, List.all_cons, List.all_nil, Bool.and_true] using h
    rw [valueOf_concat]
    rcases eq_or_ne front [] with rfl | hnonempty
    · simpa [valueOf] using toDigits_digitValue hc
    · have hbare : ¬ Padded front := by
        rintro ⟨d, rest, rfl⟩
        exact hpad ⟨d, rest ++ [c], rfl⟩
      have hdigits := ih hnonempty hfront hbare
      -- The value in front is not zero: else the whole would be a zero and something else.
      have hpos : 0 < valueOf front := by
        refine Nat.pos_of_ne_zero fun hzero => hpad ⟨c, [], ?_⟩
        rw [← hdigits, hzero]
        rfl
      rw [← Nat.toDigits_append_toDigits (by decide) hpos (digitValue_lt hc), hdigits,
        toDigits_digitValue hc]

lemma not_padded_toDigits (n : Nat) : ¬ Padded (Nat.toDigits 10 n) := by
  rintro ⟨c, rest, hpadded⟩
  rcases Nat.eq_zero_or_pos n with rfl | hpos
  · cases hpadded
  · exact head?_toDigits hpos (by rw [hpadded]; rfl)

/-- What is printed for a number writes it. -/
lemma word_toDigits {n : Nat} (h : n < 2 ^ 64) : Word (Nat.toDigits 10 n) n :=
  ⟨Nat.toDigits_ne_nil, all_isDigit_toDigits n, valueOf_toDigits n, h⟩

/-- A spelling that is not padded is what is printed for the number, or has a plus sign. -/
theorem spells_iff {cs : List Char} {n : Nat} : Spells cs n ∧ ¬ Padded cs ↔
    (n < 2 ^ 64 ∧ cs = Nat.toDigits 10 n) ∨ ∃ digits, cs = '+' :: digits ∧ Word digits n := by
  constructor
  · rintro ⟨hword | hsigned, hpad⟩
    · refine .inl ⟨hword.fits, ?_⟩
      rw [← hword.value, toDigits_valueOf hword.nonempty hword.digits hpad]
    · exact .inr hsigned
  · rintro (⟨hfits, rfl⟩ | ⟨digits, rfl, hword⟩)
    · exact ⟨.inl (word_toDigits hfits), not_padded_toDigits n⟩
    · exact ⟨.inr ⟨digits, rfl, hword⟩, by rintro ⟨c, rest, heq⟩; cases heq⟩

end ModuleRunner.Decimal
