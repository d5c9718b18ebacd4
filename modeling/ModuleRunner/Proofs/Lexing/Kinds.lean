import ModuleRunner.Proofs.Lexing.Layout

/-!
# The kinds of the tokens of a text

Where tokens stand does not matter to what they are: the kinds of a text's tokens depend on its
characters only, and are read off lexeme by lexeme.  Words are where a text and a single lexeme of it
say the same: a name that is found somewhere is found again where it stands alone.

* `kinds`, `kinds_cons` — the kinds of a text, one lexeme at a time.
* `bares`, `bares_cons` — the same together with the line feeds before them.
* `lexeme_of_isNameStart`, `kinds_word` — words start with their first character, whatever is behind
  it, and end where no character of a word follows.
* `IsIdentifier` — the words that are names.
* `isIdentifier_of_mem_tokens`, `IsIdentifier.kinds_eq` — they are the names that a reader finds.
-/

namespace ModuleRunner.Script

/-! ## Kinds -/

/-- The kinds of the tokens of a text. -/
def kinds (cs : List Char) : List Kind := (tokens cs).map Token.kind

/-- Whether no phrase has a token of the kind: the end of the text, and what spoils a text. -/
def Kind.stops : Kind → Bool
  | .endOfInput | .unterminated | .stray _ => true
  | _ => false

/-- What a token is wherever it stands: its kind, and whether it is behind a line feed. -/
def Token.bare (t : Token) : Kind × Bool := (t.kind, t.newlineBefore)

/-- What the tokens of a text are. -/
def bares (cs : List Char) : List (Kind × Bool) := (tokens cs).map Token.bare

lemma kinds_eq (cs : List Char) : kinds cs = (bares cs).map Prod.fst := by
  rw [kinds, bares, List.map_map]
  rfl

/-- Neither the place of a text nor the number of tokens allowed changes what they are. -/
lemma map_bare_tokensFrom_eq {bound bound' : Nat} {cs : List Char} (h : cs.length ≤ bound)
    (h' : cs.length ≤ bound') (here here' : Position) :
    (tokensFrom bound here cs).map Token.bare = (tokensFrom bound' here' cs).map Token.bare := by
  induction bound generalizing bound' cs here here' with
  | zero =>
      obtain rfl := List.length_eq_zero_iff.mp (Nat.le_zero.mp h)
      unfold tokensFrom
      rfl
  | succ bound ih =>
      unfold tokensFrom
      cases hdrop : cs.drop (gapSize cs) with
      | nil => rfl
      | cons c rest =>
          have hlength : rest.length + 1 ≤ cs.length := by
            have := congrArg List.length hdrop
            simp only [List.length_drop, List.length_cons] at this
            omega
          have hless : ((c :: rest).drop (lexeme c rest).size).length ≤ rest.length := by
            have hpos := (solid_lexeme c rest).size_pos
            simp only [List.length_drop, List.length_cons]
            omega
          cases bound' with
          | zero => omega
          | succ bound' =>
              simp only [List.map_cons]
              rw [ih (by omega) (by omega : _ ≤ bound')]
              rfl

/-- A text that is a gap has the end of input only. -/
lemma bares_end {cs : List Char} (h : cs.drop (gapSize cs) = []) :
    bares cs = [(.endOfInput, cs.contains '\n')] := by
  have htake := List.take_append_drop (gapSize cs) cs
  rw [h, List.append_nil] at htake
  rw [bares, tokens, tokensFrom, htake, h]
  rfl

/-- Behind its first gap a text has a lexeme, and what is left has the others. -/
lemma bares_cons {cs : List Char} {c : Char} {rest : List Char}
    (h : cs.drop (gapSize cs) = c :: rest) :
    bares cs = ((lexeme c rest).kind, (cs.take (gapSize cs)).contains '\n') ::
      bares ((c :: rest).drop (lexeme c rest).size) := by
  have hpos := (solid_lexeme c rest).size_pos
  have hlength := congrArg List.length h
  simp only [List.length_drop, List.length_cons] at hlength
  rw [bares, tokens]
  obtain ⟨bound, hbound⟩ : ∃ bound, cs.length = bound + 1 := ⟨cs.length - 1, by omega⟩
  rw [hbound, tokensFrom, h, List.map_cons, bares, tokens]
  refine congrArg _ (map_bare_tokensFrom_eq ?_ le_rfl _ _)
  simp only [List.length_drop, List.length_cons]
  omega

lemma kinds_nil : kinds [] = [.endOfInput] := rfl

/-- A text without a gap in front starts with a lexeme. -/
lemma kinds_cons {c : Char} {rest : List Char} (h : gapSize (c :: rest) = 0) :
    kinds (c :: rest) =
      (lexeme c rest).kind :: kinds ((c :: rest).drop (lexeme c rest).size) := by
  have hdrop : (c :: rest).drop (gapSize (c :: rest)) = c :: rest := by rw [h, List.drop_zero]
  rw [kinds_eq, kinds_eq, bares_cons hdrop]
  rfl

/-- Parts with commas between them. -/
def joined : List (List Kind) → List Kind
  | [] => []
  | [part] => part
  | part :: rest => part ++ .mark .comma :: joined rest

/-! ## Words -/

/-- The digits. -/
def digits : List Char := ['0', '1', '2', '3', '4', '5', '6', '7', '8', '9']

/-- The characters that marks start with. -/
def markStarts : List Char :=
  ['{', '}', '(', ')', '[', ']', ';', ',', ':', '?', '.', '+', '-', '*', '/', '%', '<', '>',
    '=', '!', '&', '|']

lemma mem_digits_of_isDigit {c : Char} (h : Decimal.isDigit c) : c ∈ digits := by
  obtain ⟨hlow, hhigh⟩ := Bool.and_eq_true_iff.mp h
  have hlow : 48 ≤ c.toNat := of_decide_eq_true hlow
  have hhigh : c.toNat ≤ 57 := of_decide_eq_true hhigh
  have hc : c = Char.ofNat c.toNat := (Char.ofNat_toNat c).symm
  generalize c.toNat = n at hlow hhigh hc
  interval_cases n <;> subst hc <;> decide

lemma mem_markStarts_of_mark? {c : Char} {rest : List Char} {m : Mark × Nat}
    (h : mark? (c :: rest) = some m) : c ∈ markStarts := by
  unfold mark? at h
  split at h
  case h_35 => cases h
  all_goals
    rename_i heq
    cases heq
    decide

/-- The characters that start no word: blanks, quotes, marks and digits. -/
def wordless : List Char :=
  [' ', '\t', '\r', '\n', '\ufeff', '"', '\''] ++ markStarts ++ digits

/-- Code points that belong to no letter: in front of, between and right behind the letters of
ASCII, and the byte order mark. -/
def unlettered (n : Nat) : Bool :=
  n < 0x41 || (0x5A < n && n < 0x61) || (0x7A < n && n < 0xAA) || n = 0xFEFF

lemma unlettered_of_isAlphabetic {c : Char} (h : Text.isAlphabetic c) :
    unlettered c.toNat = false := by
  obtain ⟨i, hi, hlow, hhigh⟩ := (Text.CharClass.contains_iff _ c).mp h
  have hscan : (Text.alphabetic.intervals.all fun i =>
      Nat.ble 0x41 i.1 && (Nat.ble i.2 0x5A || Nat.ble 0x61 i.1) &&
        (Nat.ble i.2 0x7A || Nat.ble 0xAA i.1) &&
        (Nat.ble i.2 0xFEFE || Nat.ble 0xFF00 i.1)) = true := by decide +kernel
  have havoid := List.all_eq_true.mp hscan i hi
  simp only [Bool.and_eq_true, Bool.or_eq_true, Nat.ble_eq] at havoid
  simp only [unlettered, Bool.or_eq_false_iff, Bool.and_eq_false_iff, decide_eq_false_iff_not]
  omega

lemma ne_of_isNameStart {c : Char} (h : isNameStart c) : c ∉ wordless := by
  intro hmem
  have hspare : (wordless.all fun d => unlettered d.toNat && d ≠ '_' && d ≠ '$') = true := by
    decide
  have hc := List.all_eq_true.mp hspare c hmem
  simp only [Bool.and_eq_true, decide_eq_true_iff] at hc
  obtain ⟨⟨hletter, hlow⟩, hdollar⟩ := hc
  simp only [isNameStart, Bool.or_eq_true, decide_eq_true_iff, hlow, hdollar, false_or] at h
  rw [unlettered_of_isAlphabetic h] at hletter
  exact Bool.false_ne_true hletter

/-- A character that starts a word starts one wherever it stands. -/
lemma lexeme_of_isNameStart {c : Char} (h : isNameStart c) (rest : List Char) :
    lexeme c rest = wordLexeme (c :: rest) := by
  have hnot := ne_of_isNameStart h
  simp only [wordless, List.mem_append, not_or] at hnot
  obtain ⟨⟨hblank, hmark⟩, hdigit⟩ := hnot
  have hnumber : startsNumber (c :: rest) = false := by
    rw [Bool.eq_false_iff]
    intro hstarts
    unfold startsNumber at hstarts
    split at hstarts
    · next heq => cases heq; exact hmark (by decide)
    · next heq => cases heq; exact hdigit (mem_digits_of_isDigit hstarts)
    · next heq => cases heq
  have hnone : mark? (c :: rest) = none := by
    rw [Option.eq_none_iff_forall_ne_some]
    exact fun m hm => hmark (mem_markStarts_of_mark? hm)
  have hquote : ¬ (c = '"' || c = '\'') := by
    rw [Bool.or_eq_true, decide_eq_true_iff, decide_eq_true_iff]
    rintro (rfl | rfl) <;> exact hblank (by decide)
  rw [lexeme, hnumber, hnone, if_neg Bool.false_ne_true, if_neg hquote]
  exact if_pos h

/-- There is no gap in front of what is neither a blank nor a slash. -/
lemma gapSize_eq_zero {c : Char} (hblank : isGapBlank c = false) (hslash : c ≠ '/')
    (rest : List Char) : gapSize (c :: rest) = 0 := by
  unfold gapSize gapFrom
  split
  · next heq => cases heq
  · next heq => cases heq; exact absurd rfl hslash
  · next heq => cases heq; exact absurd rfl hslash
  · next heq => cases heq; exact if_neg (by rw [hblank]; exact Bool.false_ne_true)
  · next heq _ => cases heq
  · next heq _ => cases heq

lemma gapSize_of_isNameStart {c : Char} (h : isNameStart c) (rest : List Char) :
    gapSize (c :: rest) = 0 := by
  have hnot := ne_of_isNameStart h
  refine gapSize_eq_zero (Bool.eq_false_iff.mpr fun hblank => hnot ?_)
    (by rintro rfl; exact hnot (by decide)) rest
  simp only [isGapBlank, Bool.or_eq_true, decide_eq_true_iff] at hblank
  obtain (((rfl | rfl) | rfl) | rfl) | rfl := hblank <;> decide

/-- A run that something else follows is all of the run. -/
lemma takeWhile_append_eq {p : Char → Bool} {run ahead : List Char} (hrun : ∀ c ∈ run, p c)
    (hahead : ∀ c ∈ ahead.head?, p c = false) : (run ++ ahead).takeWhile p = run := by
  rw [List.takeWhile_append_of_pos hrun]
  cases ahead with
  | nil => simp
  | cons c rest => simp [hahead c rfl]

/-- A reader finds a word that no character of a word follows. -/
lemma kinds_word {c : Char} {rest ahead : List Char} (hc : isNameStart c)
    (hrest : ∀ d ∈ rest, isNamePart d) (hahead : ∀ d ∈ ahead.head?, isNamePart d = false) :
    kinds (c :: rest ++ ahead) = wordKind (String.ofList (c :: rest)) :: kinds ahead := by
  have hpart : isNamePart c := by simp [isNamePart, hc]
  have hrun : (c :: (rest ++ ahead)).takeWhile isNamePart = c :: rest :=
    takeWhile_append_eq (List.forall_mem_cons.mpr ⟨hpart, hrest⟩) hahead
  rw [List.cons_append, kinds_cons (gapSize_of_isNameStart hc _), lexeme_of_isNameStart hc,
    wordLexeme, hrun]
  simp

/-! ## Names -/

/-- A word that is a name: it starts with a character that names may start with, goes on with those that
names may go on with, and is not reserved. -/
structure IsIdentifier (n : String) : Prop where
  /-- It has the characters of a word. -/
  word : ∃ c rest, n.toList = c :: rest ∧ isNameStart c ∧ ∀ d ∈ rest, isNamePart d
  /-- It is not reserved. -/
  unreserved : ∀ k : Keyword, n ≠ k.spelling

lemma kind_wordLexeme_eq_name {c : Char} {rest : List Char} {n : String} (hc : isNameStart c)
    (h : (wordLexeme (c :: rest)).kind = .name n) : IsIdentifier n := by
  simp only [wordLexeme, wordKind] at h
  split at h
  · cases h
  · next hnone =>
    cases h
    have hpart : isNamePart c := by simp [isNamePart, hc]
    refine ⟨⟨c, rest.takeWhile isNamePart, by simp [hpart], hc, fun d hd => ?_⟩, fun k hk => ?_⟩
    · exact List.mem_takeWhile_imp hd
    · rw [hk, Keyword.ofSpelling?_spelling] at hnone
      cases hnone

lemma literalFrom_ne_name (quote : Char) (state : TextState) (done : List Char) (size : Nat)
    (cs : List Char) (n : String) : (literalFrom quote state done size cs).kind ≠ .name n := by
  fun_induction literalFrom quote state done size cs <;> first | assumption | rintro ⟨⟩

lemma numberLexeme_ne_name (cs : List Char) (n : String) : (numberLexeme cs).kind ≠ .name n := by
  unfold numberLexeme
  split
  case h_4 => exact nofun
  case h_3 =>
    unfold decimalLexeme
    dsimp only
    split <;> exact nofun
  all_goals
    unfold hexLexeme
    dsimp only
    split <;> exact nofun

/-- A lexeme that is a name is an identifier. -/
lemma isIdentifier_of_lexeme {c : Char} {rest : List Char} {n : String}
    (h : (lexeme c rest).kind = .name n) : IsIdentifier n := by
  unfold lexeme at h
  split at h
  · exact absurd h (numberLexeme_ne_name _ _)
  · split at h
    · exact absurd h (literalFrom_ne_name _ _ _ _ _ _)
    · split at h
      · cases h
      · split at h
        · next hc => exact kind_wordLexeme_eq_name hc h
        · cases h

/-- A token is the end of input or a lexeme of the text. -/
lemma exists_lexeme_of_mem_tokensFrom {bound : Nat} {here : Position} {cs : List Char} {t : Token}
    (h : t ∈ tokensFrom bound here cs) :
    t.kind = .endOfInput ∨ ∃ c rest, t.kind = (lexeme c rest).kind := by
  induction bound generalizing here cs with
  | zero =>
      rw [tokensFrom] at h
      split at h
      · exact .inl (List.mem_singleton.mp h ▸ rfl)
      · obtain rfl := List.mem_singleton.mp h
        exact .inr ⟨_, _, rfl⟩
  | succ bound ih =>
      rw [tokensFrom] at h
      split at h
      · exact .inl (List.mem_singleton.mp h ▸ rfl)
      · obtain rfl | h := List.mem_cons.mp h
        · exact .inr ⟨_, _, rfl⟩
        · exact ih h

/-- The names that a reader finds are identifiers. -/
theorem isIdentifier_of_mem_tokens {cs : List Char} {t : Token} {n : String} (ht : t ∈ tokens cs)
    (hkind : t.kind = .name n) : IsIdentifier n := by
  obtain h | ⟨c, rest, h⟩ := exists_lexeme_of_mem_tokensFrom ht
  · rw [h] at hkind
    cases hkind
  · exact isIdentifier_of_lexeme (h ▸ hkind)

namespace IsIdentifier

variable {n : String}

lemma wordKind_eq (h : IsIdentifier n) : wordKind n = .name n := by
  unfold wordKind
  split
  · next k hk =>
    have hspelling := List.find?_some hk
    exact absurd (of_decide_eq_true hspelling).symm (h.unreserved k)
  · rfl

/-- A reader finds an identifier as one name. -/
theorem kinds_eq (h : IsIdentifier n) : kinds n.toList = [.name n, .endOfInput] := by
  obtain ⟨c, rest, hn, hc, hrest⟩ := h.word
  have hword : kinds (c :: rest ++ []) = _ := kinds_word hc hrest (by rintro d ⟨⟩)
  rwa [List.append_nil, ← hn, String.ofList_toList, h.wordKind_eq, kinds_nil] at hword

end IsIdentifier

end ModuleRunner.Script
