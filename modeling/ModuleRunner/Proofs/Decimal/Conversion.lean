import ModuleRunner.Proofs.Decimal.Printing

/-!
# The number of a text

The text of a number converts to that number; what gets lost is the sign of zero.  Other texts
convert to no number as soon as they hold one character that no numeral has, and that is no blank.

* `Agree` — two numbers are equal, or neither is a number.
* `isNaN_nearest` — digits stand for a number.
* `text_of_toNat?` — the text of a number that is whole.
* `ofText_text` — the text of a number converts to the number.
* `ofText_of_isAlien` — a text with a character that no numeral has.
-/

namespace ModuleRunner.Number

open Decimal Float.Model Float.Model.UnpackedFloat

/-! ## Agreement -/

/-- Two numbers are equal, or both are no number. -/
def Agree (x y : Float) : Prop := (x == y) = true ∨ isNaN x = true ∧ isNaN y = true

lemma agree_self (x : Float) : Agree x x := by
  by_cases h : (x == x) = true
  · exact .inl h
  · have hnan : isNaN x = true := by simp [isNaN, bne, h]
    exact .inr ⟨hnan, hnan⟩

lemma Agree.symm {x y : Float} : Agree x y → Agree y x
  | .inl h => .inl (BEq.symm h)
  | .inr ⟨hx, hy⟩ => .inr ⟨hy, hx⟩

lemma isNaN_nan : isNaN nan = true := by rfl

/-- Only `NaN` agrees with `NaN`. -/
lemma agree_nan_iff {y : Float} : Agree nan y ↔ isNaN y = true := by
  refine ⟨?_, fun hy => .inr ⟨isNaN_nan, hy⟩⟩
  rintro (heq | ⟨-, hy⟩)
  · exact absurd ((Float.nan_beq_eq_false y).symm.trans heq) Bool.false_ne_true
  · exact hy

lemma beq_eq_compare (x y : Float) :
    (x == y) = (x.toModel.unpack.compare y.toModel.unpack == some .eq) := rfl

lemma isNaN_of_unpack {x : Float} (h : x.toModel.unpack = .notANumber) : isNaN x = true := by
  simp only [isNaN, bne, beq_eq_compare, h]
  rfl

lemma isNaN_of_unpack_ne {x : Float} (h : x.toModel.unpack ≠ .notANumber) : isNaN x = false := by
  simp only [isNaN, bne, beq_eq_compare]
  cases hx : x.toModel.unpack with
  | notANumber => exact absurd hx h
  | infinity s => cases s <;> rfl
  | zero s => rfl
  | finite s m e hm => cases s <;> simp [UnpackedFloat.compare, Std.ReflCmp.compare_self]

lemma isNaN_of_isFinite {x : Float} (h : isFinite x = true) : isNaN x = false := by
  refine isNaN_of_unpack_ne ?_
  rw [unpack_eq h]
  split <;> simp

/-! ## Digits stand for numbers -/

/-- What is not `NaN` is packed otherwise: an infinity has no mantissa, and the exponent of anything else
has a zero among its bits. -/
lemma pack_ne_packedNaN {u : UnpackedFloat} (h : u ≠ .notANumber) :
    UnpackedFloat.pack .binary64 u ≠ packedNaN .binary64 := by
  have hexponent {s : Sign} {e : BitVec Format.binary64.exponentBits}
      {m : BitVec Format.binary64.mantissaBitsWithoutImplicit} (he : e ≠ -1) :
      packComponents .binary64 s e m ≠ packedNaN .binary64 := fun heq => by
    have := congrArg unpackExponent heq
    rw [packedNaN, unpackExponent_packComponents, unpackExponent_packComponents] at this
    exact he this
  have hinfinity (s : Sign) : packedInfinity .binary64 s ≠ packedNaN .binary64 := fun heq => by
    have := congrArg unpackMantissa heq
    rw [packedNaN, packedInfinity, unpackMantissa_packComponents, unpackMantissa_packComponents] at this
    exact absurd this (by decide)
  cases u with
  | notANumber => exact absurd rfl h
  | infinity s => exact hinfinity s
  | zero s => exact hexponent (by decide)
  | finite s m e hm =>
    rw [UnpackedFloat.pack]
    dsimp only
    generalize Int.toNat _ = biased
    split_ifs with hlarge
    · exact hinfinity s
    · refine hexponent fun heq => hlarge ?_
      have hbits : biased % 2 ^ 11 = 2 ^ 11 - 1 :=
        (BitVec.toNat_ofNat biased 11).symm.trans (congrArg BitVec.toNat heq)
      show 2 ^ 11 ≤ biased + 1
      omega
    · exact hexponent (by decide)

/-- What was packed from a number is one. -/
lemma isNaN_of_pack {x : Float} {u : UnpackedFloat} (h : x.toModel = .pack u) (hu : u ≠ .notANumber) :
    isNaN x = false := by
  refine isNaN_of_unpack_ne fun hnan => pack_ne_packedNaN hu ?_
  rw [h] at hnan
  exact (unpack_eq_notANumber_iff_of_valid valid_pack).mp hnan

lemma roundWithAccuracy_ne {s : Sign} {n : ℕ} {q : ℤ} {accuracy : Accuracy} :
    roundWithAccuracy .binary64 s n q accuracy ≠ .notANumber := by
  rcases roundWithAccuracy_cases s n q accuracy with h | ⟨m, e, hm, h⟩ <;> rw [h] <;> exact nofun

lemma ofScientific_ne {d : ℕ} {i : ℤ} : UnpackedFloat.ofScientific .binary64 d i ≠ .notANumber := by
  unfold UnpackedFloat.ofScientific
  split_ifs
  · exact nofun
  · exact nofun
  · exact nofun
  · exact roundWithAccuracy_ne
  · exact roundWithAccuracy_ne

/-- What is not `NaN` can be multiplied with what is neither zero nor infinite, and divided by it. -/
lemma mul_div_ne {u : UnpackedFloat} (h : u ≠ .notANumber) (s : Sign) (m : ℕ) (e : ℤ) (hm : 0 < m) :
    UnpackedFloat.mul .binary64 u (.finite s m e hm) ≠ .notANumber ∧
      UnpackedFloat.div .binary64 u (.finite s m e hm) ≠ .notANumber := by
  cases u with
  | notANumber => exact absurd rfl h
  | infinity t => exact ⟨nofun, nofun⟩
  | zero t => exact ⟨nofun, nofun⟩
  | finite t n f hn => exact ⟨roundWithAccuracy_ne, roundWithAccuracy_ne⟩

lemma isNaN_ofScientific (d : ℕ) (negative : Bool) (i : ℕ) :
    isNaN (Float.ofScientific d negative i) = false := by
  unfold Float.ofScientific
  split
  · next hfast =>
    have hdigits : d.toUInt64.toFloat.toModel.unpack ≠ .notANumber := by
      rcases Nat.eq_zero_or_pos d with rfl | hd
      · exact nofun
      · have hlifted : d.toUInt64.toFloat.toModel.unpack = lifted .positive d hd :=
          unpack_ofUInt64 hd hfast.1
        rw [hlifted]
        exact nofun
    have hsize : i < 23 := by omega
    obtain ⟨m, e, hm, hpower, -⟩ := unpack_powerOfTen ⟨i, hsize⟩
    obtain ⟨hmul, hdiv⟩ := mul_div_ne hdigits .positive m e hm
    rw [← hpower] at hmul hdiv
    split
    · exact isNaN_of_pack rfl hdiv
    · exact isNaN_of_pack rfl hmul
  · exact isNaN_of_pack rfl ofScientific_ne

lemma isNaN_ofNat_any (n : ℕ) : isNaN (ofNat n) = false := isNaN_ofScientific n false 0

/-- Digits stand for a number, whatever the power of ten. -/
lemma isNaN_nearest (d : ℕ) (i : ℤ) : isNaN (nearest d i) = false := by
  unfold nearest
  dsimp only
  split_ifs
  · rfl
  · rfl
  · rfl
  · exact isNaN_ofScientific _ _ _

/-! ## Trimming -/

lemma dropWhile_eq_self {p : Char → Bool} {cs : List Char} (h : ∀ c ∈ cs.head?, p c = false) :
    cs.dropWhile p = cs := by
  cases cs with
  | nil => rfl
  | cons c cs => rw [List.dropWhile_cons_of_neg (by simp [h c rfl])]

/-- A text that neither starts nor ends with a blank is left as it is. -/
lemma trim_eq_self {cs : List Char} (hfront : ∀ c ∈ cs.head?, Text.isBlank c = false)
    (hback : ∀ c ∈ cs.getLast?, Text.isBlank c = false) : Text.trim cs = cs := by
  rw [← List.head?_reverse] at hback
  rw [Text.trim, dropWhile_eq_self hfront, dropWhile_eq_self hback, List.reverse_reverse]

/-! ## Numerals -/

/-- A text without blanks and letters is nothing but a numeral, if that. -/
lemma ofText_eq_signed? {cs : List Char} (hne : cs ≠ [])
    (h : ∀ c ∈ cs, Text.isBlank c = false ∧ isForeignLetter c = false) :
    ofText (String.ofList cs) = (signed? cs).getD nan := by
  have hletter {c : Char} (hforeign : isForeignLetter c = true) : c ∉ cs := fun hc =>
    Bool.false_ne_true ((h c hc).2.symm.trans hforeign)
  have hforeign : cs.any isForeignLetter = false :=
    List.any_eq_false.mpr fun c hc => by rw [(h c hc).2]; exact Bool.false_ne_true
  rw [ofText, String.toList_ofList, trim_eq_self (fun c hc => (h c (List.mem_of_mem_head? hc)).1)
    fun c hc => (h c (List.mem_of_getLast? hc)).1]
  split
  · exact absurd rfl hne
  · exact absurd (List.mem_cons_of_mem _ List.mem_cons_self) (hletter (c := 'x') (by decide))
  · exact absurd (List.mem_cons_of_mem _ List.mem_cons_self) (hletter (c := 'X') (by decide))
  · have hword (word : String) (hmem : 'I' ∈ word.toList) : ¬ cs = word.toList := fun heq =>
      hletter (c := 'I') (by decide) (heq ▸ hmem)
    simp only [hword "Infinity" (by decide), hword "+Infinity" (by decide),
      hword "-Infinity" (by decide), hforeign, decide_false, Bool.or_self, Bool.false_eq_true,
      if_false]

lemma signed?_eq_unsigned? {cs : List Char} (h : ∀ c ∈ cs.head?, c ≠ '-' ∧ c ≠ '+') :
    signed? cs = unsigned? cs := by
  unfold signed?
  split
  · exact absurd rfl (h _ rfl).1
  · exact absurd rfl (h _ rfl).2
  · rfl

/-- A character of a printed number is neither a blank nor a letter nor a sign. -/
lemma numeral_character {c : Char} (h : (isDigit c || c == '.') = true) :
    Text.isBlank c = false ∧ isForeignLetter c = false ∧ c ≠ '-' ∧ c ≠ '+' := by
  rcases Bool.or_eq_true_iff.mp h with hdigit | hpoint
  · obtain ⟨hlow, hhigh⟩ := Bool.and_eq_true_iff.mp hdigit
    have hlow : 48 ≤ c.toNat := of_decide_eq_true hlow
    have hhigh : c.toNat ≤ 57 := of_decide_eq_true hhigh
    have hc : c = Char.ofNat c.toNat := (Char.ofNat_toNat c).symm
    generalize c.toNat = n at hlow hhigh hc
    interval_cases n <;> subst hc <;> decide
  · rw [beq_iff_eq.mp hpoint]
    decide

/-- A numeral converts to what its decimal is nearest to, and so does its negative. -/
lemma ofText_of_writes {cs : List Char} {v : ℚ} (h : Writes cs v) :
    ∃ (n : ℕ) (i : ℤ), (n : ℚ) * 10 ^ i = v ∧ ofText (String.ofList cs) = nearest n i ∧
      ofText (String.ofList ('-' :: cs)) = -nearest n i := by
  obtain ⟨n, i, hread, hvalue⟩ := h.reads
  have hchar : ∀ c ∈ cs, _ := fun c hc => numeral_character (List.all_eq_true.mp h.all c hc)
  have hplain : ∀ c ∈ cs, Text.isBlank c = false ∧ isForeignLetter c = false :=
    fun c hc => ⟨(hchar c hc).1, (hchar c hc).2.1⟩
  have hsigned : signed? cs = some (nearest n i) := by
    rw [signed?_eq_unsigned? fun c hc => (hchar c (List.mem_of_mem_head? hc)).2.2, hread]
  refine ⟨n, i, hvalue, ?_, ?_⟩
  · rw [ofText_eq_signed? h.ne_nil hplain, hsigned, Option.getD_some]
  · rw [ofText_eq_signed? (List.cons_ne_nil _ _)
      (List.forall_mem_cons.mpr ⟨by decide, hplain⟩)]
    show ((unsigned? cs).map (-·)).getD nan = _
    rw [hread, Option.map_some, Option.getD_some]

/-! ## The text of a number -/

/-- Digits that round to a finite number are read as it, behind its sign. -/
lemma ofText_beq {x : Float} {cs : List Char} {v : ℚ} (hfinite : isFinite x = true)
    (hpos : 0 < (Magnitude.ofFloat x).significand) (hwrites : Writes cs v)
    (hv : RoundsTo v (Magnitude.ofFloat x).significand (Magnitude.ofFloat x).exponent) :
    (ofText (String.ofList (if isNegative x then '-' :: cs else cs)) == x) = true := by
  obtain ⟨n, i, hvalue, hplain, hminus⟩ := ofText_of_writes hwrites
  obtain ⟨hdouble, -⟩ := isDouble_of_isFinite hfinite hpos
  have hx := unpack_eq hfinite
  rw [dif_neg hpos.ne'] at hx
  have hn : 0 < n := by
    refine Nat.pos_of_ne_zero fun hzero => ?_
    have := hv.pos hpos
    rw [← hvalue, hzero, Nat.cast_zero, zero_mul] at this
    exact lt_irrefl _ this
  have hread := unpack_nearest_of_roundsTo hn hdouble (hvalue ▸ hv)
  rw [beq_eq_compare, hx]
  cases hsign : isNegative x with
  | true =>
    have hneg : (-nearest n i).toModel.unpack = .finite .negative (Magnitude.ofFloat x).significand
        (Magnitude.ofFloat x).exponent hdouble.pos := by
      show (Float.Model.pack (nearest n i).toModel.unpack.neg).unpack = _
      rw [hread]
      exact hdouble.unpack_pack
    rw [if_pos rfl, hminus, hneg, signOf, if_pos hsign]
    simp [UnpackedFloat.compare, Std.ReflCmp.compare_self]
  | false =>
    rw [if_neg Bool.false_ne_true, hplain, hread, signOf, hsign, if_neg Bool.false_ne_true]
    simp [UnpackedFloat.compare, Std.ReflCmp.compare_self]

lemma ofText_zero : ofText "0" = 0 := by rfl

lemma ofText_infinity : ofText "Infinity" = infinity ∧ ofText "-Infinity" = negInfinity := by
  decide

/-- A number that is a count prints as its digits; zero has lost its sign. -/
lemma text_of_toNat? {x : Float} {n : Nat} (h : toNat? x = some n) (hsmall : n < Nat.pow 10 21) :
    text x = toString n := by
  obtain ⟨⟨hwhole, hsigned⟩, hn⟩ : (isWhole x = true ∧ 0 ≤ truncate x) ∧ (truncate x).toNat = n := by
    simpa [toNat?] using h
  obtain ⟨hfinite, hwhole⟩ := Bool.and_eq_true_iff.mp hwhole
  have hfloor : (Magnitude.ofFloat x).floor = n := by
    have := natAbs_truncate x
    omega
  unfold text
  dsimp only
  rw [isNaN_of_isFinite hfinite, hfinite]
  by_cases hzero : (Magnitude.ofFloat x).significand = 0
  · obtain rfl : n = 0 := by
      rw [← hfloor]
      simp [Magnitude.floor, hzero]
    rw [if_neg Bool.false_ne_true, if_neg (by simp), if_pos hzero]
    rfl
  · have hpositive : isNegative x = false := by
      by_contra hnegative
      have htruncate : truncate x = -((Magnitude.ofFloat x).floor : Int) :=
        if_pos (Bool.eq_true_of_not_eq_false hnegative)
      have hnone : (Magnitude.ofFloat x).floor = 0 := by omega
      refine hzero ?_
      rcases lt_or_ge (Magnitude.ofFloat x).exponent 0 with hneg | hpos
      · rw [Magnitude.significand_eq_floor_mul hwhole hneg, hnone, Nat.zero_mul]
      · rw [Magnitude.floor, if_pos hpos] at hnone
        simpa using hnone
    simp [hzero, hwhole, hfloor, hsmall, hpositive]

/-- **Round trip.**  The text of a number converts to the number. -/
theorem ofText_text (x : Float) : Agree (ofText (text x)) x := by
  by_cases hnan : isNaN x = true
  · right
    rw [text, if_pos hnan]
    exact ⟨by rfl, hnan⟩
  · left
    unfold text
    dsimp only
    rw [if_neg hnan]
    split
    · next hinfinite =>
      have hx : x.toModel.unpack = .infinity (signOf x) :=
        (unpack_of_not_isFinite (by simpa using hinfinite)).resolve_right (mt isNaN_of_unpack hnan)
      rw [beq_eq_compare, hx, signOf]
      split
      · rw [show "-" ++ "Infinity" = "-Infinity" by decide, ofText_infinity.2]
        rfl
      · rw [show "" ++ "Infinity" = "Infinity" by decide, ofText_infinity.1]
        rfl
    · next hfinite =>
      have hfinite : isFinite x = true := by simpa using hfinite
      have hsign (digits : String) : (if isNegative x then "-" else "") ++ digits =
          String.ofList (if isNegative x then '-' :: digits.toList else digits.toList) := by
        split <;> simp
      split
      · next hzero =>
        rw [beq_eq_compare, unpack_eq hfinite, dif_pos hzero, ofText_zero]
        rfl
      · next hsome =>
        have hpos : 0 < (Magnitude.ofFloat x).significand := Nat.pos_of_ne_zero hsome
        rw [apply_ite ofText, hsign, hsign]
        split
        · next hwhole =>
          refine ofText_beq hfinite hpos (writes_toString _) ?_
          rw [value_floor (Bool.and_eq_true_iff.mp hwhole).1]
          exact roundsTo_self _ _
        · exact ofText_beq hfinite hpos (writes_plain _)
            (roundsTo_shortest _ hpos (isDouble_of_isFinite hfinite hpos).2)

/-! ## Other texts -/

/-- Whether a character stands in no text that converts to a number, a blank aside. -/
def isAlien (c : Char) : Bool :=
  !Text.isBlank c && !isHexDigit c && !"xX.+-Infity".toList.contains c

section Alien

variable {c : Char} {cs : List Char}

lemma isDigit_of_isAlien (h : isAlien c = true) : isDigit c = false := by
  by_contra hdigit
  have hdigit : isDigit c = true := Bool.eq_true_of_not_eq_false hdigit
  simp [isAlien, isHexDigit, hexValue?, hdigit] at h

lemma ne_of_isAlien {d : Char} (h : isAlien c = true) (hd : isAlien d = false) : c ≠ d := by
  rintro rfl
  exact Bool.false_ne_true (hd.symm.trans h)

/-- What stands behind a character of numerals is no less alien. -/
lemma mem_behind {d : Char} (hc : c ∈ d :: cs) (h : isAlien c = true) (hd : isAlien d = false) :
    c ∈ cs :=
  (List.mem_cons.mp hc).resolve_left (ne_of_isAlien h hd)

lemma mem_dropWhile {p : Char → Bool} (hc : c ∈ cs) (h : p c = false) : c ∈ cs.dropWhile p := by
  rw [← List.takeWhile_append_dropWhile (p := p) (l := cs), List.mem_append] at hc
  refine hc.resolve_left fun hfront => ?_
  rw [List.mem_takeWhile_imp hfront] at h
  cases h

lemma mem_trim (hc : c ∈ cs) (h : Text.isBlank c = false) : c ∈ Text.trim cs :=
  List.mem_reverse.mpr (mem_dropWhile (List.mem_reverse.mpr (mem_dropWhile hc h)) h)

lemma mem_drop_digitRun (hc : c ∈ cs) (h : isAlien c = true) :
    c ∈ cs.drop (digitRun cs).length := by
  have hsplit : cs.drop (digitRun cs).length = cs.dropWhile isDigit := by
    conv => enter [1, 2]; rw [← List.takeWhile_append_dropWhile (p := isDigit) (l := cs)]
    exact List.drop_left
  rw [hsplit]
  exact mem_dropWhile hc (isDigit_of_isAlien h)

lemma exponent?_eq_none (hc : c ∈ cs) (h : isAlien c = true) : exponent? cs = none := by
  cases cs with
  | nil => cases hc
  | cons e rest =>
    unfold exponent?
    dsimp only
    by_cases hmark : (decide (e = 'e') || decide (e = 'E')) = true
    · have hrest : c ∈ rest := by
        refine (List.mem_cons.mp hc).resolve_left fun heq => ?_
        rcases Bool.or_eq_true_iff.mp hmark with hmark | hmark
        · exact ne_of_isAlien (d := 'e') h (by decide) (heq.trans (of_decide_eq_true hmark))
        · exact ne_of_isAlien (d := 'E') h (by decide) (heq.trans (of_decide_eq_true hmark))
      have hall {ds : List Char} (hmem : c ∈ ds) : (ds.isEmpty || !ds.all isDigit) = true := by
        rw [List.all_eq_false.mpr ⟨c, hmem, by rw [isDigit_of_isAlien h]; exact Bool.false_ne_true⟩,
          Bool.not_false, Bool.or_true]
      rw [if_pos hmark]
      split
      · exact if_pos (hall (mem_behind hrest h (by decide)))
      · exact if_pos (hall (mem_behind hrest h (by decide)))
      · exact if_pos (hall hrest)
    · exact if_neg hmark

lemma unsigned?_eq_none (hc : c ∈ cs) (h : isAlien c = true) : unsigned? cs = none := by
  have hrest := mem_drop_digitRun hc h
  unfold unsigned?
  dsimp only
  generalize cs.drop (digitRun cs).length = rest at hrest ⊢
  split
  · next r =>
    have hmem : c ∈ r := mem_behind hrest h (by decide)
    simp [exponent?_eq_none (mem_drop_digitRun hmem h) h]
  · rw [exponent?_eq_none hrest h, Option.map_none, ite_self]

lemma signed?_eq_none (hc : c ∈ cs) (h : isAlien c = true) : signed? cs = none := by
  unfold signed?
  split
  · rw [unsigned?_eq_none (mem_behind hc h (by decide)) h]
    rfl
  · exact unsigned?_eq_none (mem_behind hc h (by decide)) h
  · exact unsigned?_eq_none hc h

lemma foldl_hexValue?_none (cs : List Char) :
    cs.foldl (fun n c => n.bind fun n => (hexValue? c).map (16 * n + ·)) none = none := by
  induction cs with
  | nil => rfl
  | cons c cs ih => exact ih

lemma hexValueOf?_eq_none (hc : c ∈ cs) (h : isHexDigit c = false) : hexValueOf? cs = none := by
  have hvalue : hexValue? c = none := by simpa [isHexDigit] using h
  obtain ⟨front, back, rfl⟩ := List.append_of_mem hc
  simp [hexValueOf?, hvalue, foldl_hexValue?_none]

lemma ofHex?_eq_none (hc : c ∈ cs) (h : isAlien c = true) : ofHex? cs = none := by
  have hhex : isHexDigit c = false := by
    by_contra hhex
    simp [isAlien, hhex] at h
  have hread {ds : List Char} (hmem : c ∈ ds) : (if ds.isEmpty then none else
      (hexValueOf? ds).bind fun n => if n < Nat.pow 2 64 then some (ofNat n) else none) = none := by
    rw [hexValueOf?_eq_none hmem hhex, Option.bind_none, ite_self]
  unfold ofHex?
  dsimp only
  split
  · exact hread (mem_behind hc h (by decide))
  · exact hread hc

end Alien

/-- **Other texts.**  A text with a character that no numeral has converts to no number. -/
theorem ofText_of_isAlien {s : String} {c : Char} (hc : c ∈ s.toList) (h : isAlien c = true) :
    ofText s = nan := by
  have hblank : Text.isBlank c = false := by
    by_contra hblank
    simp [isAlien, hblank] at h
  have hmem := mem_trim hc hblank
  unfold ofText
  split
  · next heq => rw [heq] at hmem; cases hmem
  · next digits heq =>
    rw [heq] at hmem
    have hdigits := mem_behind (mem_behind hmem h (by decide)) h (by decide)
    rw [ofHex?_eq_none hdigits h, Option.getD_none]
  · next digits heq =>
    rw [heq] at hmem
    have hdigits := mem_behind (mem_behind hmem h (by decide)) h (by decide)
    rw [ofHex?_eq_none hdigits h, Option.getD_none]
  · have hword (word : String) (hall : word.toList.all (fun d => !isAlien d) = true) :
        ¬ Text.trim s.toList = word.toList := fun heq => by
      rw [heq] at hmem
      simpa [h] using List.all_eq_true.mp hall c hmem
    simp only [hword "Infinity" (by decide), hword "+Infinity" (by decide),
      hword "-Infinity" (by decide), decide_false, Bool.or_self, Bool.false_eq_true, if_false,
      signed?_eq_none hmem h, Option.getD_none, ite_self]

end ModuleRunner.Number
