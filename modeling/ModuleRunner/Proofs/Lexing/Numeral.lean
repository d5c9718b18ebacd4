import ModuleRunner.Proofs.Decimal.Conversion
import ModuleRunner.Proofs.Lexing.Lexeme

/-!
# Numerals and the numbers of texts

There are two readers of numerals.  One takes the longest run of characters that has their shape and then
asks whether that is one; the other, which converts texts, asks of a whole text.  A run stops at the first
character that cannot follow, so the two agree as soon as whatever is accepted as a whole is a run of its
own, up to the end.  For decimals it is.  Behind the mark of a hexadecimal numeral a conversion lets a plus
sign pass, which ends the run.

* `numeralRun_eq_self`, `decimalLexeme_eq_iff` — decimal numerals, as a whole and as a run.
* `HexDigits`, `ofHex?_eq_some_iff`, `hexLexeme_eq_iff` — hexadecimal digits, read by either.
* `Bare` — texts that neither blanks nor a sign keep from being one token.
* `PlusHex` — the texts on which the two differ.
* `tokens_eq_alone_number_iff` — they differ on no other.
-/

namespace ModuleRunner.Script

open Number (isForeignLetter ofHex? ofText isNaN)
open Decimal (digitRun exponent? hexValueOf? isDigit isHexDigit unsigned?)

variable {cs digits : List Char} {c : Char} {x : Float}

/-! ## Decimal numerals -/

/-- An exponent that is read as a whole is a run. -/
lemma exponentRun_eq_self {e : Int} (h : exponent? cs = some e) : exponentRun cs = cs := by
  cases cs with
  | nil => rfl
  | cons mark rest =>
      have hdigits {ds : List Char} {e' : Int}
          (h : (if ds.isEmpty || !ds.all isDigit then none else some e') = some e) :
          ds ≠ [] ∧ digitRun ds = ds := by
        split at h
        · cases h
        · next hall =>
            simp only [Bool.or_eq_true, not_or, Bool.not_eq_true, Bool.not_eq_false'] at hall
            exact ⟨by simpa using hall.1, List.takeWhile_eq_self_iff.mpr (List.all_eq_true.mp hall.2)⟩
      unfold exponent? at h
      dsimp only at h
      by_cases hmark : (decide (mark = 'e') || decide (mark = 'E')) = true
      · rw [if_pos hmark] at h
        split at h
        · rw [exponentRun, if_pos hmark]
          exact congrArg (mark :: '-' :: ·) (hdigits h).2
        · rw [exponentRun, if_pos hmark]
          exact congrArg (mark :: '+' :: ·) (hdigits h).2
        · next hminus hplus =>
            obtain ⟨hne, hrun⟩ := hdigits h
            obtain ⟨d, ds, rfl⟩ := List.exists_cons_of_ne_nil hne
            have hd : isDigit d = true :=
              List.mem_takeWhile_imp (hrun.symm ▸ List.mem_cons_self : d ∈ digitRun (d :: ds))
            have hsign : ¬ (decide (d = '+') || decide (d = '-')) = true := by
              simp only [Bool.or_eq_true, decide_eq_true_eq]
              rintro (rfl | rfl) <;> cases hd
            rw [exponentRun, if_pos hmark, if_neg hsign, if_pos hd, hrun]
      · rw [if_neg hmark] at h
        cases h

lemma isDigit_of_digitRun (h : digitRun (c :: cs) ≠ []) : isDigit c = true := by
  by_contra hc
  exact h (List.takeWhile_cons_of_neg hc)

lemma startsNumber_of_digitRun (h : digitRun cs ≠ []) : startsNumber cs = true := by
  cases cs with
  | nil => exact absurd rfl h
  | cons c rest =>
      have hc := isDigit_of_digitRun h
      unfold startsNumber
      split
      · next heq =>
          cases heq
          cases hc
      · next heq =>
          cases heq
          exact hc
      · next heq => cases heq

lemma startsNumber_of_point (h : digitRun cs ≠ []) : startsNumber ('.' :: cs) = true := by
  cases cs with
  | nil => exact absurd rfl h
  | cons d ds => exact isDigit_of_digitRun h

lemma digitRun_append_drop (cs : List Char) : digitRun cs ++ cs.drop (digitRun cs).length = cs :=
  (List.prefix_append_drop (List.takeWhile_prefix _)).symm

/-- What is read as a whole is a run, starts like one and stands for a number. -/
lemma run_of_unsigned? (h : unsigned? cs = some x) :
    startsNumber cs = true ∧ numeralRun cs = cs ∧ isNaN x = false := by
  have hcs := digitRun_append_drop cs
  unfold unsigned? at h
  unfold numeralRun
  dsimp only at h ⊢
  generalize hrest : cs.drop (digitRun cs).length = rest at h hcs ⊢
  split at h
  · next r =>
      split at h
      · cases h
      · next hdigits =>
          obtain ⟨e, he, rfl⟩ := Option.map_eq_some_iff.mp h
          have hexponent : exponentRun (r.drop (digitRun r).length) = r.drop (digitRun r).length :=
            exponentRun_eq_self he
          refine ⟨?_, ?_, Number.isNaN_nearest _ _⟩
          · by_cases hwhole : digitRun cs = []
            · have hbehind : digitRun r ≠ [] := by simpa [hwhole] using hdigits
              rw [hwhole, List.nil_append] at hcs
              rw [← hcs]
              exact startsNumber_of_point hbehind
            · exact startsNumber_of_digitRun hwhole
          · have hr := digitRun_append_drop r
            simp only [fractionRun, List.length_cons, List.drop_succ_cons]
            rw [hexponent, List.append_assoc, List.cons_append, hr, hcs]
  · next hpoint =>
      split at h
      · cases h
      · next hdigits =>
          obtain ⟨e, he, rfl⟩ := Option.map_eq_some_iff.mp h
          have hnone : fractionRun rest = [] := by
            unfold fractionRun
            split
            · exact absurd rfl (hpoint _)
            · rfl
          refine ⟨startsNumber_of_digitRun (by simpa using hdigits), ?_, Number.isNaN_nearest _ _⟩
          rw [hnone, List.append_nil, List.length_nil, List.drop_zero, exponentRun_eq_self he, hcs]

/-- The run of a decimal numeral is the whole text exactly if the text is read as a whole. -/
lemma decimalLexeme_eq_iff :
    decimalLexeme c cs = ⟨.number x, cs.length⟩ ↔ unsigned? cs = some x := by
  constructor
  · intro h
    have hsize := congrArg Lexeme.size h
    rw [size_decimalLexeme] at hsize
    rw [decimalLexeme, (isPrefix_numeralRun cs).eq_of_length hsize] at h
    split at h
    · next y hy =>
        cases h
        exact hy
    · cases h
  · intro h
    rw [decimalLexeme, (run_of_unsigned? h).2.1, h]

/-! ### What runs are made of -/

lemma isForeignLetter_of_mem_digitRun (h : c ∈ digitRun cs) : isForeignLetter c = false :=
  (Number.numeral_character (by rw [List.mem_takeWhile_imp h, Bool.true_or])).2.1

lemma isForeignLetter_of_mem_fractionRun (h : c ∈ fractionRun cs) : isForeignLetter c = false := by
  unfold fractionRun at h
  split at h
  · obtain rfl | h := List.mem_cons.mp h
    · rfl
    · exact isForeignLetter_of_mem_digitRun h
  · cases h

lemma isForeignLetter_of_mem_exponentRun (h : c ∈ exponentRun cs) : isForeignLetter c = false := by
  have heither {d a b : Char} (ha : isForeignLetter a = false) (hb : isForeignLetter b = false)
      (hd : (d = a || d = b) = true) : isForeignLetter d = false := by
    rcases Bool.or_eq_true_iff.mp hd with hd | hd
    · rwa [of_decide_eq_true hd]
    · rwa [of_decide_eq_true hd]
  unfold exponentRun at h
  split at h
  · next e s rest =>
      split_ifs at h with hmark hsign
      · obtain rfl | rfl | h : c = e ∨ c = s ∨ c ∈ digitRun rest := by simpa using h
        · exact heither rfl rfl hmark
        · exact heither rfl rfl hsign
        · exact isForeignLetter_of_mem_digitRun h
      · obtain rfl | h := List.mem_cons.mp h
        · exact heither rfl rfl hmark
        · exact isForeignLetter_of_mem_digitRun h
      · cases h
      · cases h
  · cases h

/-- No character of a run is a letter but the mark of an exponent. -/
lemma isForeignLetter_of_mem_numeralRun (h : c ∈ numeralRun cs) : isForeignLetter c = false := by
  simp only [numeralRun, List.mem_append] at h
  obtain (h | h) | h := h
  · exact isForeignLetter_of_mem_digitRun h
  · exact isForeignLetter_of_mem_fractionRun h
  · exact isForeignLetter_of_mem_exponentRun h

/-! ## Hexadecimal numerals -/

/-- The hexadecimal digits of a number of at most 64 bits. -/
structure HexDigits (digits : List Char) (x : Float) : Prop where
  /-- There are some. -/
  ne_nil : digits ≠ []
  /-- They write a number that fits, and the double is that number's. -/
  value : ∃ n, hexValueOf? digits = some n ∧ n < 2 ^ 64 ∧ Number.ofNat n = x

namespace HexDigits

lemma isHexDigit (h : HexDigits digits x) (hc : c ∈ digits) : isHexDigit c = true := by
  obtain ⟨n, hvalue, -⟩ := h.value
  by_contra hhex
  rw [Number.hexValueOf?_eq_none hc (by simpa using hhex)] at hvalue
  cases hvalue

lemma isNaN (h : HexDigits digits x) : isNaN x = false := by
  obtain ⟨n, -, -, rfl⟩ := h.value
  exact Number.isNaN_ofNat_any n

end HexDigits

/-- A conversion reads hexadecimal digits as they are, or behind a plus sign. -/
lemma ofHex?_eq_some_iff :
    ofHex? cs = some x ↔ HexDigits cs x ∨ ∃ digits, cs = '+' :: digits ∧ HexDigits digits x := by
  have hread (ds : List Char) : (if ds.isEmpty then none else
      (hexValueOf? ds).bind fun n => if n < Nat.pow 2 64 then some (Number.ofNat n) else none) =
        some x ↔ HexDigits ds x := by
    constructor
    · intro h
      split at h
      · cases h
      · next hne =>
          obtain ⟨n, hvalue, h⟩ := Option.bind_eq_some_iff.mp h
          split at h
          · next hfits => exact ⟨by simpa using hne, n, hvalue, hfits, Option.some.inj h⟩
          · cases h
    · intro h
      obtain ⟨n, hvalue, hfits, hx⟩ := h.value
      have hfits : n < Nat.pow 2 64 := hfits
      rw [if_neg (by simpa using h.ne_nil), hvalue, Option.bind_some, if_pos hfits, hx]
  unfold ofHex?
  dsimp only
  split
  · next r =>
      rw [hread]
      refine ⟨fun h => .inr ⟨r, rfl, h⟩, ?_⟩
      rintro (h | ⟨digits, heq, h⟩)
      · cases h.isHexDigit List.mem_cons_self
      · cases heq
        exact h
  · next hplus =>
      rw [hread]
      refine ⟨.inl, ?_⟩
      rintro (h | ⟨digits, rfl, -⟩)
      · exact h
      · exact absurd rfl (hplus digits)

/-- A reader of source takes a whole text as hexadecimal digits if they are, and never with a sign. -/
lemma hexLexeme_eq_iff : hexLexeme cs = ⟨.number x, 2 + cs.length⟩ ↔ HexDigits cs x := by
  constructor
  · intro h
    have hsize := congrArg Lexeme.size h
    rw [size_hexLexeme] at hsize
    have hall : cs.takeWhile isHexDigit = cs :=
      (List.takeWhile_prefix _).eq_of_length (Nat.add_left_cancel hsize)
    rw [hexLexeme, hall] at h
    split at h
    · next y hy =>
        cases h
        obtain hdigits | ⟨digits, rfl, -⟩ := ofHex?_eq_some_iff.mp hy
        · exact hdigits
        · cases List.takeWhile_eq_self_iff.mp hall '+' List.mem_cons_self
    · cases h
  · intro h
    have hall : cs.takeWhile isHexDigit = cs := List.takeWhile_eq_self_iff.mpr fun c => h.isHexDigit
    rw [hexLexeme, hall, ofHex?_eq_some_iff.mpr (.inl h)]

/-! ## Whole texts -/

/-- A text is one numeral to a reader of source if a lexeme of all of it starts where a numeral may. -/
lemma isLexeme_number_iff :
    IsLexeme cs (.number x) ↔ startsNumber cs = true ∧ numberLexeme cs = ⟨.number x, cs.length⟩ := by
  constructor
  · rintro ⟨c, p, rfl, -, hlexeme, -⟩
    have hstart : startsNumber (c :: p) = true := startsNumber_of_kind (by rw [hlexeme])
    rw [lexeme, if_pos hstart] at hlexeme
    exact ⟨hstart, hlexeme⟩
  · rintro ⟨hstart, hlexeme⟩
    cases cs with
    | nil => cases hstart
    | cons c p =>
        refine ⟨c, p, rfl, gapSize_of_startsNumber hstart, ?_, rfl⟩
        rw [lexeme, if_pos hstart]
        exact hlexeme

/-- A text has the mark of a hexadecimal numeral in front. -/
def HexMarked (cs : List Char) : Prop :=
  ∃ mark digits, (mark = 'x' ∨ mark = 'X') ∧ cs = '0' :: mark :: digits

/-- A plus sign between the mark of a hexadecimal numeral and digits of at most 64 bits. -/
def PlusHex (cs : List Char) : Prop :=
  ∃ mark digits x, (mark = 'x' ∨ mark = 'X') ∧ cs = '0' :: mark :: '+' :: digits ∧ HexDigits digits x

/-- A text that is neither empty nor the word for infinity, starts with neither a blank nor a sign and does
not end with a blank. -/
structure Bare (cs : List Char) : Prop where
  /-- It is not empty. -/
  ne_nil : cs ≠ []
  /-- It starts with neither a blank nor a sign. -/
  front : ∀ c ∈ cs.head?, Text.isBlank c = false ∧ c ≠ '+' ∧ c ≠ '-'
  /-- It does not end with a blank. -/
  back : ∀ c ∈ cs.getLast?, Text.isBlank c = false
  /-- It is not the word for infinity. -/
  ne_infinity : cs ≠ "Infinity".toList

variable {s : String} {mark : Char}

/-! ### As tokens -/

lemma tokens_eq_alone_hex_iff (hmark : mark = 'x' ∨ mark = 'X') :
    tokens ('0' :: mark :: digits) = alone (.number x) ('0' :: mark :: digits) ↔ HexDigits digits x := by
  have hstart : startsNumber ('0' :: mark :: digits) = true := rfl
  rw [tokens_eq_alone_iff rfl, isLexeme_number_iff, numberLexeme_of_hexMark hmark, ← hexLexeme_eq_iff,
    List.length_cons, List.length_cons, Nat.add_comm 2, and_iff_right hstart]

lemma tokens_eq_alone_decimal_iff (hcs : ¬ HexMarked cs) :
    tokens cs = alone (.number x) cs ↔ unsigned? cs = some x := by
  have hlexeme (hstart : startsNumber cs = true) :
      numberLexeme cs = ⟨.number x, cs.length⟩ ↔ unsigned? cs = some x := by
    cases cs with
    | nil => cases hstart
    | cons c rest =>
        rw [numberLexeme_of_no_hexMark, decimalLexeme_eq_iff]
        rintro rfl mark hhead hmark
        obtain ⟨digits, rfl⟩ := List.head?_eq_some_iff.mp hhead
        exact hcs ⟨mark, digits, hmark, rfl⟩
  rw [tokens_eq_alone_iff rfl, isLexeme_number_iff]
  constructor
  · rintro ⟨hstart, hread⟩
    exact (hlexeme hstart).mp hread
  · intro hread
    have hstart := (run_of_unsigned? hread).1
    exact ⟨hstart, (hlexeme hstart).mpr hread⟩

/-! ### As texts to convert -/

/-- What is read, if all that can be are numbers. -/
lemma getD_nan_eq_iff {read : Option Float} (h : ∀ y, read = some y → isNaN y = false) :
    read.getD Number.nan = x ∧ isNaN x = false ↔ read = some x := by
  constructor
  · rintro ⟨rfl, hx⟩
    cases read with
    | none => cases Number.isNaN_nan.symm.trans hx
    | some y => rfl
  · intro hread
    exact ⟨by rw [hread, Option.getD_some], h x hread⟩

namespace Bare

lemma trim_eq (h : Bare s.toList) : Text.trim s.toList = s.toList :=
  Number.trim_eq_self (fun c hc => (h.front c hc).1) h.back

lemma ofText_hex_iff (h : Bare s.toList) (hmark : mark = 'x' ∨ mark = 'X')
    (hs : s.toList = '0' :: mark :: digits) :
    ofText s = x ∧ isNaN x = false ↔
      HexDigits digits x ∨ ∃ behind, digits = '+' :: behind ∧ HexDigits behind x := by
  have htrim := h.trim_eq
  have hread : ofText s = (ofHex? digits).getD Number.nan := by
    rw [hs] at htrim
    rw [ofText, hs, htrim]
    rcases hmark with rfl | rfl <;> rfl
  rw [hread, getD_nan_eq_iff, ofHex?_eq_some_iff]
  intro y hy
  obtain hdigits | ⟨_, -, hdigits⟩ := ofHex?_eq_some_iff.mp hy <;> exact hdigits.isNaN

/-- Without that mark a text is read as a decimal numeral, and the letters that are asked for first are in
none. -/
lemma ofText_decimal_iff (h : Bare s.toList) (hs : ¬ HexMarked s.toList) :
    ofText s = x ∧ isNaN x = false ↔ unsigned? s.toList = some x := by
  have hplus : s.toList ≠ "+Infinity".toList := fun heq => (h.front '+' (by rw [heq]; rfl)).2.1 rfl
  have hminus : s.toList ≠ "-Infinity".toList := fun heq => (h.front '-' (by rw [heq]; rfl)).2.2 rfl
  have hforeign (hany : s.toList.any isForeignLetter = true) : unsigned? s.toList = none := by
    by_contra hread
    obtain ⟨y, hy⟩ := Option.ne_none_iff_exists'.mp hread
    obtain ⟨c, hc, hletter⟩ := List.any_eq_true.mp hany
    rw [← (run_of_unsigned? hy).2.1] at hc
    rw [isForeignLetter_of_mem_numeralRun hc] at hletter
    cases hletter
  have hread : ofText s = (unsigned? s.toList).getD Number.nan := by
    rw [ofText, h.trim_eq]
    split
    · next hnil => exact absurd hnil h.ne_nil
    · next digits heq => exact absurd ⟨'x', digits, .inl rfl, heq⟩ hs
    · next digits heq => exact absurd ⟨'X', digits, .inr rfl, heq⟩ hs
    · simp only [h.ne_infinity, hplus, hminus, decide_false, Bool.or_self, Bool.false_eq_true, if_false]
      rw [Number.signed?_eq_unsigned? fun c hc => (h.front c hc).2.symm]
      split
      · next hany => rw [hforeign hany, Option.getD_none]
      · rfl
  rw [hread, getD_nan_eq_iff]
  exact fun y hy => (run_of_unsigned? hy).2.2

end Bare

/-- **Numerals.**  A bare text converts to a number exactly if one token covers it that stands for that
number, unless it has a plus sign behind the mark of a hexadecimal numeral: then it converts to a number
and no such token covers it. -/
theorem tokens_eq_alone_number_iff (h : Bare s.toList) :
    (∀ x, tokens s.toList = alone (.number x) s.toList ↔
      (ofText s = x ∧ isNaN x = false) ∧ ¬ PlusHex s.toList) ∧
    (PlusHex s.toList → isNaN (ofText s) = false) := by
  by_cases hs : HexMarked s.toList
  · obtain ⟨mark, digits, hmark, hs⟩ := hs
    have hplus : PlusHex s.toList ↔ ∃ behind y, digits = '+' :: behind ∧ HexDigits behind y := by
      constructor
      · rintro ⟨_, behind, y, -, heq, hdigits⟩
        rw [hs] at heq
        exact ⟨behind, y, (List.cons.inj (List.cons.inj heq).2).2, hdigits⟩
      · rintro ⟨behind, y, rfl, hdigits⟩
        exact ⟨mark, behind, y, hmark, hs, hdigits⟩
    rw [hplus]
    constructor
    · intro x
      rw [h.ofText_hex_iff hmark hs, hs, tokens_eq_alone_hex_iff hmark]
      constructor
      · intro hdigits
        refine ⟨.inl hdigits, ?_⟩
        rintro ⟨behind, -, rfl, -⟩
        cases hdigits.isHexDigit List.mem_cons_self
      · rintro ⟨hdigits | ⟨behind, rfl, hdigits⟩, hnone⟩
        · exact hdigits
        · exact absurd ⟨behind, x, rfl, hdigits⟩ hnone
    · rintro ⟨behind, y, rfl, hdigits⟩
      obtain ⟨hread, hnumber⟩ := (h.ofText_hex_iff hmark hs).mpr (.inr ⟨behind, rfl, hdigits⟩)
      rw [hread, hnumber]
  · have hnone : ¬ PlusHex s.toList := by
      rintro ⟨mark, behind, -, hmark, heq, -⟩
      exact hs ⟨mark, '+' :: behind, hmark, heq⟩
    refine ⟨fun x => ?_, fun hplus => absurd hplus hnone⟩
    rw [tokens_eq_alone_decimal_iff hs, h.ofText_decimal_iff hs, and_iff_left hnone]

/-- Digits behind a plus sign convert to 31, and are no token together. -/
theorem tokens_eq_alone_number_iff_plus : ofText "0x+1F" = Number.ofNat 31 ∧
    isNaN (ofText "0x+1F") = false ∧
    ∀ x, tokens "0x+1F".toList ≠ alone (.number x) "0x+1F".toList := by
  have hbare : Bare "0x+1F".toList :=
    ⟨by decide, by rintro _ ⟨⟩; decide, by rintro _ ⟨⟩; decide, by decide⟩
  have hplus : PlusHex "0x+1F".toList :=
    ⟨'x', ['1', 'F'], Number.ofNat 31, .inl rfl, rfl, by decide, 31, rfl, by decide, rfl⟩
  obtain ⟨hiff, hnumber⟩ := tokens_eq_alone_number_iff hbare
  exact ⟨by rfl, hnumber hplus, fun x htokens => ((hiff x).mp htokens).2 hplus⟩

end ModuleRunner.Script
