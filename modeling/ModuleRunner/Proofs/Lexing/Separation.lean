import ModuleRunner.Proofs.Lexing.Kinds

/-!
# What stands behind a blank

A token is the longest text that its first characters allow, and a gap ends where a lexeme starts.  Both
are found without looking further than a few characters beyond, and what is looked for there never starts
with a blank.  So a lexeme or a gap that ends within a text is the same whatever stands behind a blank at
the end of that text, and the same if nothing stands there.

Only what is spoiled can be a different lexeme in front of a blank: a literal that is not terminated goes on
there.  At the end of all it cannot.

* `Boundary` — where every lexeme ends: a blank, or the end of all.
* `Separates` — runs of characters that end at a boundary; numerals, words and the parts of them.
* `lexeme_separated` — lexemes.
* `gapFrom_separated` — gaps.
* `Gap.gapFrom_append`, `Gap.gapFrom_inside` — a gap in front of a text, and one in an open comment.
* `size_lexeme_le`, `gapFrom_le` — neither covers more than there is.
-/

namespace ModuleRunner.Script

/-! ## Runs of characters -/

lemma mem_of_isGapBlank {s : Char} (h : isGapBlank s) : s ∈ [' ', '\t', '\r', '\n', '\ufeff'] := by
  simpa [isGapBlank, or_assoc] using h

lemma wordless_of_isGapBlank {s : Char} (h : isGapBlank s) : s ∈ wordless := by
  have hmem := mem_of_isGapBlank h
  fin_cases hmem <;> decide

lemma not_isNamePart_of_isGapBlank {s : Char} (h : isGapBlank s) : isNamePart s = false := by
  have hstart : isNameStart s = false :=
    Bool.eq_false_iff.mpr fun hstart => ne_of_isNameStart hstart (wordless_of_isGapBlank h)
  have hmem := mem_of_isGapBlank h
  rw [isNamePart, hstart, Bool.false_or]
  fin_cases hmem <;> rfl

lemma not_isDigit_of_isGapBlank {s : Char} (h : isGapBlank s) : Decimal.isDigit s = false := by
  have hmem := mem_of_isGapBlank h
  fin_cases hmem <;> rfl

/-- What a lexeme does not go on into: nothing at all, or a blank with anything behind it. -/
inductive Boundary : List Char → Prop
  /-- The end of all. -/
  | nothing : Boundary []
  /-- A blank in front. -/
  | blank {s : Char} {more : List Char} : isGapBlank s → Boundary (s :: more)

/-- A run that ends within a text ends there, whatever boundary is at the end of that text. -/
def Separates (run : List Char → List Char) : Prop :=
  ∀ q r more, Boundary more → (run (q ++ r)).length ≤ q.length → run (q ++ more) = run (q ++ r)

lemma takeWhile_separates {f : Char → Bool} (hf : ∀ s, isGapBlank s → f s = false) :
    Separates (List.takeWhile f) := by
  intro q r more hmore hfits
  induction q with
  | nil =>
      rw [List.length_eq_zero_iff.mp (Nat.le_zero.mp hfits)]
      cases hmore with
      | nothing => rfl
      | blank hs => exact List.takeWhile_cons_of_neg (by simp [hf _ hs])
  | cons c q ih =>
      rw [List.cons_append, List.takeWhile_cons] at hfits
      rw [List.cons_append, List.cons_append, List.takeWhile_cons, List.takeWhile_cons]
      split at hfits
      · next hc => rw [if_pos hc, if_pos hc, ih (Nat.le_of_succ_le_succ hfits)]
      · next hc => rw [if_neg hc, if_neg hc]

lemma digitRun_separates : Separates Decimal.digitRun :=
  takeWhile_separates fun _ => not_isDigit_of_isGapBlank

lemma fractionRun_of_ne {c : Char} (hc : c ≠ '.') (cs : List Char) : fractionRun (c :: cs) = [] := by
  unfold fractionRun
  split
  · next heq => cases heq; exact absurd rfl hc
  · rfl

lemma fractionRun_separates : Separates fractionRun := by
  intro q r more hmore hfits
  cases q with
  | nil =>
      rw [List.length_eq_zero_iff.mp (Nat.le_zero.mp hfits)]
      cases hmore with
      | nothing => rfl
      | blank hs => exact fractionRun_of_ne (by rintro rfl; cases hs) _
  | cons c q =>
      by_cases hc : c = '.'
      · subst hc
        exact congrArg ('.' :: ·) (digitRun_separates q r more hmore (Nat.le_of_succ_le_succ hfits))
      · rw [List.cons_append, List.cons_append, fractionRun_of_ne hc, fractionRun_of_ne hc]

/-- Two runs, one behind the other. -/
lemma Separates.append {run next : List Char → List Char} (hrun : Separates run)
    (hnext : Separates next) : Separates fun cs => run cs ++ next (cs.drop (run cs).length) := by
  intro q r more hmore hfits
  simp only [List.length_append] at hfits ⊢
  have hsame := hrun q r more hmore (by omega)
  rw [hsame, List.drop_append_of_le_length (by omega), List.drop_append_of_le_length (by omega)]
  rw [List.drop_append_of_le_length (by omega)] at hfits
  rw [hnext _ r more hmore (by rw [List.length_drop]; omega)]

/-- A blank is no sign of an exponent. -/
lemma not_sign_of_isGapBlank {s : Char} (hs : isGapBlank s) : ¬ (s = '+' || s = '-') := by
  have hmem := mem_of_isGapBlank hs
  fin_cases hmem <;> decide

lemma exponentRun_of_isGapBlank {s : Char} (hs : isGapBlank s) (cs : List Char) :
    exponentRun (s :: cs) = [] := by
  have hmem := mem_of_isGapBlank hs
  cases cs with
  | nil => rfl
  | cons d cs => fin_cases hmem <;> rfl

lemma exponentRun_separates : Separates exponentRun := by
  intro q r more hmore hfits
  obtain _ | ⟨e, _ | ⟨d, q⟩⟩ := q
  · rw [List.length_eq_zero_iff.mp (Nat.le_zero.mp hfits)]
    cases hmore with
    | nothing => rfl
    | blank hs => exact exponentRun_of_isGapBlank hs _
  · -- a sign or a digit behind the mark would be of the run, which does not fit then
    have hnone : exponentRun (e :: more) = [] := by
      cases hmore with
      | nothing => rfl
      | blank hs => simp [exponentRun, not_sign_of_isGapBlank hs, not_isDigit_of_isGapBlank hs]
    refine hnone.trans (List.eq_nil_of_length_eq_zero ?_).symm
    cases r with
    | nil => rfl
    | cons d r =>
        simp only [List.cons_append, List.nil_append, exponentRun] at hfits ⊢
        split_ifs at hfits ⊢ with hmark hsign hdigit
        · simp at hfits
        · simp [Decimal.digitRun, hdigit] at hfits
        · rfl
        · rfl
  · simp only [List.cons_append, exponentRun] at hfits ⊢
    split_ifs at hfits ⊢ with hmark hsign hdigit
    · rw [digitRun_separates q r more hmore (by simpa using hfits)]
    · have hsame := digitRun_separates (d :: q) r more hmore (Nat.le_of_succ_le_succ hfits)
      rw [← List.cons_append, hsame, List.cons_append]
    · rfl
    · rfl

lemma numeralRun_separates : Separates numeralRun := by
  have hparts := digitRun_separates.append (fractionRun_separates.append exponentRun_separates)
  have hrun : numeralRun = _ := funext fun cs => List.append_assoc _ _ _
  rwa [hrun]

/-! ## Lexemes -/

section Lexemes

variable {c : Char} {p r more : List Char}

lemma numberLexeme_of_hexMark {x : Char} (hx : x = 'x' ∨ x = 'X') (digits : List Char) :
    numberLexeme ('0' :: x :: digits) = hexLexeme digits := by
  obtain rfl | rfl := hx <;> rfl

lemma numberLexeme_of_no_hexMark {rest : List Char}
    (h : c = '0' → ∀ x ∈ rest.head?, ¬ (x = 'x' ∨ x = 'X')) :
    numberLexeme (c :: rest) = decimalLexeme c (c :: rest) := by
  unfold numberLexeme
  split
  · next heq => cases heq; exact absurd (.inl rfl) (h rfl _ rfl)
  · next heq => cases heq; exact absurd (.inr rfl) (h rfl _ rfl)
  · next heq => cases heq; rfl
  · next heq => cases heq

lemma size_decimalLexeme (c : Char) (cs : List Char) :
    (decimalLexeme c cs).size = (numeralRun cs).length := by
  unfold decimalLexeme
  dsimp only
  split <;> rfl

lemma decimalLexeme_separated (hmore : Boundary more)
    (hfits : (decimalLexeme c (c :: (p ++ r))).size ≤ (c :: p).length) :
    decimalLexeme c (c :: (p ++ more)) = decimalLexeme c (c :: (p ++ r)) := by
  rw [size_decimalLexeme] at hfits
  have hrun := numeralRun_separates (c :: p) r more hmore hfits
  rw [List.cons_append, List.cons_append] at hrun
  unfold decimalLexeme
  rw [hrun]

lemma size_hexLexeme (cs : List Char) :
    (hexLexeme cs).size = 2 + (cs.takeWhile Decimal.isHexDigit).length := by
  unfold hexLexeme
  dsimp only
  split <;> rfl

lemma hexLexeme_separated (hmore : Boundary more)
    (hfits : (hexLexeme (p ++ r)).size ≤ p.length + 2) :
    hexLexeme (p ++ more) = hexLexeme (p ++ r) := by
  rw [size_hexLexeme] at hfits
  have hhex : ∀ s, isGapBlank s → Decimal.isHexDigit s = false := by
    intro s hs
    have hmem := mem_of_isGapBlank hs
    fin_cases hmem <;> rfl
  have hrun := takeWhile_separates hhex p r more hmore (by omega)
  unfold hexLexeme
  rw [hrun]

/-- Behind a zero alone there is no mark of a hexadecimal numeral, which would belong to it. -/
lemma numberLexeme_separated (hmore : Boundary more)
    (hfits : (numberLexeme (c :: (p ++ r))).size ≤ (c :: p).length) :
    numberLexeme (c :: (p ++ more)) = numberLexeme (c :: (p ++ r)) := by
  by_cases hmark : c = '0' ∧ ∃ x ∈ (p ++ r).head?, x = 'x' ∨ x = 'X'
  · obtain ⟨rfl, x, hhead, hx⟩ := hmark
    cases p with
    | nil =>
        obtain ⟨digits, hr⟩ := List.head?_eq_some_iff.mp hhead
        rw [hr, numberLexeme_of_hexMark hx, size_hexLexeme, List.length_singleton] at hfits
        omega
    | cons d p =>
        obtain rfl : d = x := Option.some.inj hhead
        rw [List.cons_append, numberLexeme_of_hexMark hx] at hfits ⊢
        rw [List.cons_append, numberLexeme_of_hexMark hx]
        exact hexLexeme_separated hmore hfits
  · have hnone : c = '0' → ∀ x ∈ (p ++ r).head?, ¬ (x = 'x' ∨ x = 'X') :=
      fun hc x hhead hx => hmark ⟨hc, x, hhead, hx⟩
    have hnone' : c = '0' → ∀ x ∈ (p ++ more).head?, ¬ (x = 'x' ∨ x = 'X') := by
      cases p with
      | nil =>
          cases hmore with
          | nothing => rintro - _ ⟨⟩
          | blank hs =>
              rintro - _ ⟨⟩
              have hmem := mem_of_isGapBlank hs
              fin_cases hmem <;> decide
      | cons d p => exact hnone
    rw [numberLexeme_of_no_hexMark hnone] at hfits ⊢
    rw [numberLexeme_of_no_hexMark hnone']
    exact decimalLexeme_separated hmore hfits

lemma size_add_min_le_literalFrom (quote : Char) (state : TextState) (done cs : List Char) (size : Nat) :
    size + min 1 cs.length ≤ (literalFrom quote state done size cs).size := by
  fun_induction literalFrom quote state done size cs <;>
    simp only [List.length_cons, List.length_nil] at * <;> omega

/-- A reader of a literal passes a character if there is one. -/
lemma lt_size_literalFrom {quote : Char} {state : TextState} {done cs : List Char} {size : Nat}
    (h : cs ≠ []) : size < (literalFrom quote state done size cs).size := by
  have hpasses := size_add_min_le_literalFrom quote state done cs size
  have hlength := List.length_pos_of_ne_nil h
  omega

/-- A literal that ends within a text does not depend on what is behind that text, and one that is cut off
there is cut off wherever the text is all. -/
lemma literalFrom_separated {quote : Char} {state : TextState} {done : List Char} {size : Nat}
    (hfits : (literalFrom quote state done size (p ++ r)).size ≤ size + p.length)
    (hgoes : (literalFrom quote state done size (p ++ r)).kind.stops = false ∨ more = []) :
    literalFrom quote state done size (p ++ more) = literalFrom quote state done size (p ++ r) := by
  induction p generalizing state done size with
  | nil =>
      obtain rfl : r = [] := by
        by_contra hne
        exact absurd hfits (Nat.not_le_of_lt (lt_size_literalFrom hne))
      obtain hgoes | rfl := hgoes
      · cases state <;> cases hgoes
      · rfl
  | cons c p ih =>
      rw [List.length_cons] at hfits
      simp only [List.cons_append] at hfits hgoes ⊢
      cases state with
      | plain =>
          simp only [literalFrom] at hfits hgoes ⊢
          split_ifs at hfits hgoes ⊢ <;> first | rfl | exact ih (by omega) hgoes
      | escape =>
          simp only [literalFrom] at hfits hgoes ⊢
          split_ifs at hfits hgoes ⊢ <;> exact ih (by omega) hgoes
      | unicode left code =>
          simp only [literalFrom] at hfits hgoes ⊢
          cases hvalue : Decimal.hexValue? c with
          | none => rfl
          | some v =>
              simp only [hvalue] at hfits hgoes ⊢
              split_ifs at hfits hgoes ⊢
              · exact ih (by omega) hgoes
              · cases hscalar : scalar? (16 * code + v) with
                | none => rfl
                | some u =>
                    simp only [hscalar] at hfits hgoes
                    exact ih (by omega) hgoes

/-- No mark goes on with a blank, so the same one is the longest. -/
lemma mark?_separated {m : Mark} {n : Nat} (hmore : Boundary more)
    (h : mark? (c :: (p ++ r)) = some (m, n)) (hfits : n ≤ (c :: p).length) :
    mark? (c :: (p ++ more)) = some (m, n) := by
  unfold mark? at h
  split at h <;> cases h <;> rename_i heq <;> obtain ⟨rfl, heq⟩ := List.cons.inj heq
  all_goals try rfl
  -- three characters decide a mark, so only the next two can lie beyond the run
  all_goals obtain _ | ⟨d, _ | ⟨d', p⟩⟩ := p
  all_goals first
    | (simp only [List.length_cons, List.length_nil] at hfits; omega)
    | (cases heq; rfl)
    | skip
  all_goals
    cases heq
    simp only [List.nil_append, List.cons_append]
  all_goals
    cases hmore with
    | nothing => first | rfl | (rw [mark?] <;> simp_all)
    | @blank s _ hs =>
        have hequal : s ≠ '=' := by rintro rfl; cases hs
        have hplus : s ≠ '+' := by rintro rfl; cases hs
        have hminus : s ≠ '-' := by rintro rfl; cases hs
        rw [mark?]
        all_goals simp_all

/-- The characters that are marks alone and may be the first of longer ones. -/
def openMarks : List Char := ['+', '-', '*', '/', '<', '>', '=', '!']

lemma isSome_mark?_of_mem (hc : c ∈ openMarks) (rest : List Char) :
    (mark? (c :: rest)).isSome = true := by
  rw [mark?.eq_def]
  split
  case h_35 =>
    -- the cases before are those of each of them alone too
    exfalso
    fin_cases hc <;> solve_by_elim [Eq.refl]
  all_goals rfl

/-- Where a text starts with a mark, it starts with one as well if there is more of it. -/
lemma isSome_mark?_append {cs : List Char} (h : (mark? cs).isSome = true) (r : List Char) :
    (mark? (cs ++ r)).isSome = true := by
  unfold mark? at h
  split at h
  case h_35 => cases h
  all_goals first
    | rfl
    | exact isSome_mark?_of_mem (by decide) _

/-- A point alone has no digit behind it, which would belong to a numeral. -/
lemma startsNumber_separated (hmore : Boundary more)
    (hfits : (lexeme c (p ++ r)).size ≤ (c :: p).length) :
    startsNumber (c :: (p ++ more)) = startsNumber (c :: (p ++ r)) := by
  have hother (hc : c ≠ '.') (rest : List Char) :
      startsNumber (c :: rest) = Decimal.isDigit c := by
    unfold startsNumber
    split
    · next heq => cases heq; exact absurd rfl hc
    · next heq => cases heq; rfl
    · next heq => cases heq
  by_cases hc : c = '.'
  · subst hc
    cases p with
    | cons d p => rfl
    | nil =>
        have hnone : startsNumber ('.' :: ([] ++ more)) = false := by
          cases hmore with
          | nothing => rfl
          | blank hs => exact not_isDigit_of_isGapBlank hs
        cases r with
        | nil => exact hnone
        | cons d r =>
            refine hnone.trans (Bool.eq_false_iff.mpr fun hstarts => ?_).symm
            have hdigit : Decimal.isDigit d = true := hstarts
            have hpoint : Decimal.digitRun ('.' :: d :: r) = [] := rfl
            have hdigits : Decimal.digitRun (d :: r) = d :: Decimal.digitRun r := by
              simp [Decimal.digitRun, hdigit]
            rw [List.nil_append] at hfits hstarts
            rw [lexeme, if_pos hstarts, numberLexeme_of_no_hexMark (fun h => absurd h (by decide)),
              size_decimalLexeme] at hfits
            simp [numeralRun, hpoint, fractionRun, hdigits] at hfits
  · rw [hother hc, hother hc]

/-- A lexeme that ends within a text is the same whatever boundary is at the end of that text, if it is
not one that spoils it; the end of all it may be for those too. -/
lemma lexeme_separated (hmore : Boundary more) (hfits : (lexeme c (p ++ r)).size ≤ (c :: p).length)
    (hgoes : (lexeme c (p ++ r)).kind.stops = false ∨ more = []) :
    lexeme c (p ++ more) = lexeme c (p ++ r) := by
  have hnumber : startsNumber (c :: (p ++ more)) = startsNumber (c :: (p ++ r)) :=
    startsNumber_separated hmore hfits
  by_cases hstart : isNameStart c
  · rw [lexeme_of_isNameStart hstart] at hfits
    have hrun := takeWhile_separates (fun _ => not_isNamePart_of_isGapBlank) (c :: p) r more hmore hfits
    rw [lexeme_of_isNameStart hstart, lexeme_of_isNameStart hstart]
    unfold wordLexeme
    rw [← List.cons_append, hrun, List.cons_append]
  unfold lexeme at hfits hgoes ⊢
  rw [hnumber]
  split_ifs at hfits hgoes ⊢
  · exact numberLexeme_separated hmore hfits
  · exact literalFrom_separated (by rwa [Nat.add_comm]) hgoes
  · cases hmark : mark? (c :: (p ++ r)) with
    | none =>
        rw [hmark] at hgoes
        obtain hgoes | rfl := hgoes
        · cases hgoes
        · -- a mark of the text alone would be the start of one of the whole
          have hnone : mark? (c :: (p ++ [])) = none := by
            by_contra hsome
            have hlonger := isSome_mark?_append (Option.isSome_iff_ne_none.mpr hsome) r
            rw [List.append_nil, List.cons_append, hmark] at hlonger
            cases hlonger
          rw [hnone]
    | some found =>
        rw [hmark] at hfits
        rw [mark?_separated hmore hmark hfits]

lemma isPrefix_fractionRun (cs : List Char) : fractionRun cs <+: cs := by
  unfold fractionRun
  split
  · exact List.cons_prefix_cons.mpr ⟨rfl, List.takeWhile_prefix _⟩
  · exact List.nil_prefix

lemma isPrefix_exponentRun (cs : List Char) : exponentRun cs <+: cs := by
  unfold exponentRun
  split
  · split_ifs
    · exact List.cons_prefix_cons.mpr ⟨rfl, List.cons_prefix_cons.mpr ⟨rfl, List.takeWhile_prefix _⟩⟩
    · exact List.cons_prefix_cons.mpr ⟨rfl, List.takeWhile_prefix _⟩
    · exact List.nil_prefix
    · exact List.nil_prefix
  · exact List.nil_prefix

/-- A run in front, and one of what is behind it. -/
lemma isPrefix_append {run next cs : List Char} (hrun : run <+: cs) (hnext : next <+: cs.drop run.length) :
    run ++ next <+: cs := by
  obtain ⟨behind, rfl⟩ := hrun
  rw [List.drop_left] at hnext
  exact (List.prefix_append_right_inj run).mpr hnext

lemma isPrefix_numeralRun (cs : List Char) : numeralRun cs <+: cs := by
  rw [numeralRun, List.append_assoc]
  exact isPrefix_append (List.takeWhile_prefix _)
    (isPrefix_append (isPrefix_fractionRun _) (isPrefix_exponentRun _))

lemma size_numberLexeme_le (c : Char) (rest : List Char) :
    (numberLexeme (c :: rest)).size ≤ rest.length + 1 := by
  by_cases hmark : c = '0' ∧ ∃ x ∈ rest.head?, x = 'x' ∨ x = 'X'
  · obtain ⟨rfl, x, hhead, hx⟩ := hmark
    obtain ⟨digits, rfl⟩ := List.head?_eq_some_iff.mp hhead
    have hdigits := (List.takeWhile_prefix (l := digits) Decimal.isHexDigit).length_le
    rw [numberLexeme_of_hexMark hx, size_hexLexeme, List.length_cons]
    omega
  · rw [numberLexeme_of_no_hexMark fun hc x hhead hx => hmark ⟨hc, x, hhead, hx⟩,
      size_decimalLexeme]
    exact (isPrefix_numeralRun (c :: rest)).length_le

lemma size_literalFrom_le (quote : Char) (state : TextState) (done cs : List Char) (size : Nat) :
    (literalFrom quote state done size cs).size ≤ size + cs.length := by
  fun_induction literalFrom quote state done size cs <;> simp only [List.length_cons] at * <;> omega

lemma size_le_of_mark? {cs : List Char} {m : Mark} {size : Nat} (h : mark? cs = some (m, size)) :
    size ≤ cs.length := by
  unfold mark? at h
  split at h <;> cases h <;> simp only [List.length_cons] <;> omega

/-- A lexeme covers no more than there is. -/
lemma size_lexeme_le (c : Char) (rest : List Char) : (lexeme c rest).size ≤ rest.length + 1 := by
  unfold lexeme
  split
  · exact size_numberLexeme_le c rest
  · split
    · exact (size_literalFrom_le ..).trans_eq (Nat.add_comm _ _)
    · split
      · next hmark => exact size_le_of_mark? hmark
      · split
        · exact (List.takeWhile_prefix _).length_le
        · exact Nat.le_add_left 1 _

end Lexemes

/-! ## Gaps -/

section Gaps

variable {c s : Char} {body gap left q r more rest : List Char} {state : GapState}

/-- A gap that ends within a text ends there, whatever boundary is at the end of that text. -/
lemma gapFrom_separated (hmore : Boundary more) : ∀ (state : GapState) (q : List Char),
    gapFrom state (q ++ r) < q.length → gapFrom state (q ++ more) = gapFrom state (q ++ r)
  | _, [], h => absurd h (Nat.not_lt_zero _)
  | .lineComment, c :: q, h => by
      simp only [List.cons_append, gapFrom, List.length_cons] at h ⊢
      rw [gapFrom_separated hmore _ q (by omega)]
  | .blockComment star, c :: q, h => by
      simp only [List.cons_append, gapFrom, List.length_cons] at h ⊢
      rw [gapFrom_separated hmore _ q (by omega)]
  | .blank, c :: q, h => by
      by_cases hopener : c = '/' ∧ ∃ d ∈ (q ++ r).head?, d = '/' ∨ d = '*'
      · obtain ⟨rfl, d, hhead, hd⟩ := hopener
        cases q with
        | nil =>
            obtain ⟨tail, hr⟩ := List.head?_eq_some_iff.mp hhead
            rw [List.cons_append, hr, gapFrom_of_opener hd, List.length_singleton] at h
            omega
        | cons e q =>
            obtain rfl : e = d := Option.some.inj hhead
            rw [List.cons_append, List.cons_append, gapFrom_of_opener hd] at h ⊢
            rw [List.cons_append, List.cons_append, gapFrom_of_opener hd]
            simp only [List.length_cons] at h
            rw [gapFrom_separated hmore _ q (by omega)]
      · have hnone : c = '/' → ∀ d ∈ (q ++ r).head?, ¬ (d = '/' ∨ d = '*') :=
          fun hc d hhead hd => hopener ⟨hc, d, hhead, hd⟩
        have hnone' : c = '/' → ∀ d ∈ (q ++ more).head?, ¬ (d = '/' ∨ d = '*') := by
          cases q with
          | nil =>
              cases hmore with
              | nothing => rintro - _ ⟨⟩
              | blank hs =>
                  rintro - _ ⟨⟩
                  have hmem := mem_of_isGapBlank hs
                  fin_cases hmem <;> decide
          | cons e q => exact hnone
        rw [List.cons_append, gapFrom_of_not_opener hnone, List.length_cons] at h
        rw [List.cons_append, List.cons_append, gapFrom_of_not_opener hnone,
          gapFrom_of_not_opener hnone']
        split_ifs at h ⊢
        · rw [gapFrom_separated hmore _ q (by omega)]
        · rfl
termination_by _ q => q.length

/-- A gap that does not stand at the end goes on with what follows. -/
lemma Gap.gapFrom_append (h : Gap left gap) (hleft : left ≠ []) (rest : List Char) :
    gapFrom .blank (gap ++ rest) = gap.length + gapFrom .blank rest := by
  induction h with
  | nil => simp
  | @blank c gap hc _ ih =>
      have hblank : isGapBlank c = true := by
        fin_cases hc <;> rfl
      rw [List.cons_append, gapFrom_blank_cons hblank, ih, List.length_cons]
      omega
  | @line body gap hbody _ ih =>
      simp only [List.cons_append, List.append_assoc, gapFrom, List.length_cons, List.length_append]
      rw [gapFrom_line hbody, gapFrom, if_pos rfl, ih]
      omega
  | @block body gap hbody _ ih =>
      simp only [List.cons_append, List.append_assoc, gapFrom, List.length_cons, List.length_append]
      rw [gapFrom_block hbody (by simp), ih]
      omega
  | openLine hrest => exact absurd hrest hleft
  | openBlock hrest => exact absurd hrest hleft

/-- A reader that has passed a gap to its end stands somewhere in a gap, and goes on from there. -/
lemma exists_gapFrom_append : ∀ (state : GapState) (gap : List Char),
    gapFrom state gap = gap.length →
      ∃ behind : GapState, ∀ rest, gapFrom state (gap ++ rest) = gap.length + gapFrom behind rest
  | state, [], _ => ⟨state, fun rest => by simp⟩
  | .lineComment, c :: gap, h => by
      rw [gapFrom, List.length_cons, Nat.add_comm, Nat.succ_inj] at h
      obtain ⟨behind, hbehind⟩ := exists_gapFrom_append _ gap h
      refine ⟨behind, fun rest => ?_⟩
      rw [List.cons_append, gapFrom, hbehind, List.length_cons]
      omega
  | .blockComment star, c :: gap, h => by
      rw [gapFrom, List.length_cons, Nat.add_comm, Nat.succ_inj] at h
      obtain ⟨behind, hbehind⟩ := exists_gapFrom_append _ gap h
      refine ⟨behind, fun rest => ?_⟩
      rw [List.cons_append, gapFrom, hbehind, List.length_cons]
      omega
  | .blank, c :: gap, h => by
      by_cases hopener : c = '/' ∧ ∃ d ∈ gap.head?, d = '/' ∨ d = '*'
      · obtain ⟨rfl, d, hhead, hd⟩ := hopener
        obtain ⟨gap, rfl⟩ := List.head?_eq_some_iff.mp hhead
        rw [gapFrom_of_opener hd, List.length_cons, List.length_cons, Nat.add_comm,
          Nat.add_right_cancel_iff] at h
        obtain ⟨behind, hbehind⟩ := exists_gapFrom_append _ gap h
        refine ⟨behind, fun rest => ?_⟩
        rw [List.cons_append, List.cons_append, gapFrom_of_opener hd, hbehind, List.length_cons,
          List.length_cons]
        omega
      · rw [gapFrom_of_not_opener fun hc d hhead hd => hopener ⟨hc, d, hhead, hd⟩] at h
        split_ifs at h with hblank
        rw [List.length_cons, Nat.add_comm, Nat.succ_inj] at h
        obtain ⟨behind, hbehind⟩ := exists_gapFrom_append _ gap h
        refine ⟨behind, fun rest => ?_⟩
        rw [List.cons_append, gapFrom_blank_cons hblank, hbehind, List.length_cons]
        omega
termination_by _ gap => gap.length

lemma gapFrom_le (state : GapState) (cs : List Char) : gapFrom state cs ≤ cs.length := by
  fun_induction gapFrom state cs <;> simp only [List.length_cons, List.length_nil] at * <;> omega

/-- In a comment that is not closed the blanks and comments of a gap are passed over, unless the first of
them closes it early. -/
lemma Gap.gapFrom_inside (h : Gap [s] gap) (hline : '\n' ∉ gap)
    (hearly : ¬ ['/', '*', '/'] <+: gap.dropWhile isGapBlank) :
    gapFrom (.blockComment false) gap = gap.length := by
  induction h with
  | nil => rfl
  | @blank c gap hc _ ih =>
      have hblank : isGapBlank c = true := by
        fin_cases hc <;> rfl
      have hstar : (c == '*') = false := by
        fin_cases hc <;> rfl
      rw [List.dropWhile_cons_of_pos hblank] at hearly
      rw [gapFrom, hstar, Bool.false_and, if_neg Bool.false_ne_true,
        ih (fun hmem => hline (List.mem_cons_of_mem c hmem)) hearly, List.length_cons]
      omega
  | line => exact absurd (List.mem_append_right _ List.mem_cons_self) hline
  | @block body gap hbody hgap ih =>
      have hhead : body.head? ≠ some '/' := by
        intro hhead
        obtain ⟨tail, rfl⟩ := List.head?_eq_some_iff.mp hhead
        exact hearly (List.prefix_append ['/', '*', '/'] _)
      have hbehind := hgap.gapFrom_append (List.cons_ne_nil s []) []
      have hopened (tail : List Char) : gapFrom (.blockComment false) ('/' :: '*' :: tail) =
          1 + (1 + gapFrom (.blockComment true) tail) := rfl
      rw [List.append_nil, gapFrom, Nat.add_zero] at hbehind
      simp only [List.cons_append, List.length_append, List.length_cons]
      rw [hopened, gapFrom_block hbody (fun _ => hhead), hbehind]
      omega
  | openLine hrest => cases hrest
  | openBlock hrest => cases hrest

end Gaps

end ModuleRunner.Script
