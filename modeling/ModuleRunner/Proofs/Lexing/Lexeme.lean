import ModuleRunner.Proofs.Lexing.Seam

/-!
# Texts of one lexeme

A text that is one lexeme has one token, which covers all of it, and the end of input behind that.  The
converse holds too: where one token covers the whole text, its first character starts a lexeme of that
kind and of that length.  So a statement about the tokens of such a text is one about `lexeme`, which
looks at characters only.

* `startsNumber_of_kind` — numbers start where numerals may.
* `IsLexeme` — texts that are one lexeme, with no gap in front.
* `IsLexeme.kinds_append` — in front of a blank they still are.
* `alone` — one token over a whole text, and the end of input.
* `tokens_eq_alone_iff` — the texts with such tokens are the texts of one lexeme.
-/

namespace ModuleRunner.Script

/-! ## Numerals in front -/

/-- Only where a numeral starts a lexeme is a number. -/
lemma startsNumber_of_kind {c : Char} {rest : List Char} {x : Float}
    (h : (lexeme c rest).kind = .number x) : startsNumber (c :: rest) = true := by
  by_contra hnumber
  have hliteral (quote : Char) (state : TextState) (done : List Char) (size : Nat) (cs : List Char) :
      (literalFrom quote state done size cs).kind ≠ .number x := by
    fun_induction literalFrom quote state done size cs <;> first | assumption | rintro ⟨⟩
  rw [lexeme, if_neg hnumber] at h
  split at h
  · exact hliteral _ _ _ _ _ h
  · split at h
    · cases h
    · split at h
      · simp only [wordLexeme, wordKind] at h
        split at h <;> cases h
      · cases h

/-- A numeral has no gap in front. -/
lemma gapSize_of_startsNumber {c : Char} {rest : List Char} (h : startsNumber (c :: rest) = true) :
    gapSize (c :: rest) = 0 := by
  refine gapSize_eq_zero (Bool.eq_false_iff.mpr fun hblank => ?_) ?_ rest
  · have hmem := mem_of_isGapBlank hblank
    fin_cases hmem <;> cases h
  · rintro rfl
    cases h

/-! ## Texts of one lexeme -/

/-- A text is one lexeme of a kind that a phrase may have. -/
def IsLexeme (text : List Char) (kind : Kind) : Prop :=
  ∃ c p, text = c :: p ∧ gapSize (c :: p) = 0 ∧
    lexeme c p = ⟨kind, p.length + 1⟩ ∧ kind.stops = false

/-- The tokens of a text that one token covers: that token, from the start of the text to its end, and the
end of input behind it. -/
def alone (kind : Kind) (text : List Char) : List Token :=
  let stop := Position.start.after text
  [⟨kind, .between .start stop, false⟩, ⟨.endOfInput, .between stop stop, false⟩]

variable {text : List Char} {kind : Kind}

/-- A lexeme over all of a text is a token over all of it, of whatever kind. -/
lemma tokens_eq_alone {c : Char} {p : List Char} (hgap : gapSize (c :: p) = 0)
    (hlexeme : lexeme c p = ⟨kind, p.length + 1⟩) : tokens (c :: p) = alone kind (c :: p) := by
  rw [tokens, List.length_cons, tokensFrom, hgap, List.take_zero, List.drop_zero]
  simp only [hlexeme, ← List.length_cons (a := c), List.take_length, List.drop_length]
  rw [tokensFrom]
  rfl

namespace IsLexeme

lemma kinds_eq (h : IsLexeme text kind) : kinds text = [kind, .endOfInput] := by
  obtain ⟨c, p, rfl, hgap, hlexeme, -⟩ := h
  rw [kinds_cons hgap, hlexeme, List.drop_succ_cons, List.drop_length, kinds_nil]

/-- It is the same lexeme in front of a blank. -/
lemma kinds_append (h : IsLexeme text kind) (more : List Char) :
    kinds (text ++ ' ' :: more) = kind :: kinds more := by
  obtain ⟨c, p, rfl, hgap, hlexeme, hgoes⟩ := h
  have hsame : lexeme c (p ++ ' ' :: more) = lexeme c (p ++ []) :=
    lexeme_separated (.blank rfl) (by simp [hlexeme]) (.inl (by simpa [hlexeme] using hgoes))
  have hnone : gapSize (c :: p ++ ' ' :: more) = gapSize (c :: p ++ []) := by
    refine gapFrom_separated (.blank rfl) .blank (c :: p) ?_
    rw [← gapSize, List.append_nil, hgap, List.length_cons]
    exact Nat.succ_pos _
  have hblank : bares (' ' :: more) = bares more :=
    bares_spaced (s := ' ') .nil List.not_mem_nil more
  rw [List.append_nil] at hsame hnone
  rw [List.cons_append] at hnone ⊢
  rw [kinds_cons (hnone.trans hgap), hsame, hlexeme, List.drop_succ_cons,
    List.drop_left, Script.kinds_eq, Script.kinds_eq, hblank]

/-- Its token covers it from the first character to the last. -/
lemma tokens_eq (h : IsLexeme text kind) : tokens text = alone kind text := by
  obtain ⟨c, p, rfl, hgap, hlexeme, -⟩ := h
  exact tokens_eq_alone hgap hlexeme

end IsLexeme

/-- A token that covers a whole text starts in front of its first character and takes every one. -/
lemma isLexeme_of_tokens_eq (hgoes : kind.stops = false) (h : tokens text = alone kind text) :
    IsLexeme text kind := by
  have htext := List.take_append_drop (gapSize text) text
  cases hdrop : text.drop (gapSize text) with
  | nil =>
      rw [tokens, tokensFrom, hdrop] at h
      simp [alone] at h
  | cons c rest =>
      rw [tokens, tokensFrom, hdrop] at h
      obtain ⟨hkind, hspan, -⟩ := Token.mk.inj (List.cons.inj h).1
      -- No octet is in the gap before the token, and none is left behind it.
      have hstart := congrArg Span.start hspan
      have hstop := congrArg Span.stop hspan
      simp only [Span.between] at hstart hstop
      rw [Position.start_after] at hstart
      rw [← Position.after_append, Position.start_after, Position.start_after] at hstop
      have hgap : text.take (gapSize text) = [] := eq_nil_of_octets_eq_zero hstart
      rw [hdrop, hgap, List.nil_append] at htext
      subst htext
      have hsize : gapSize (c :: rest) = 0 := by simpa using hgap
      refine ⟨c, rest, rfl, hsize, ?_, hgoes⟩
      have hleft : (c :: rest).drop (lexeme c rest).size = [] := by
        refine eq_nil_of_octets_eq_zero ?_
        have hall := congrArg octets (List.take_append_drop (lexeme c rest).size (c :: rest))
        rw [octets_append] at hall
        rw [hgap, List.nil_append] at hstop
        dsimp only at hstop
        omega
      have hmost := size_lexeme_le c rest
      have hleast : rest.length + 1 ≤ (lexeme c rest).size := by simpa using hleft
      rw [← hkind, ← hmost.antisymm hleast]

/-- **One token.**  One token covers a text exactly if the text is one lexeme. -/
theorem tokens_eq_alone_iff (hgoes : kind.stops = false) :
    tokens text = alone kind text ↔ IsLexeme text kind :=
  ⟨isLexeme_of_tokens_eq hgoes, IsLexeme.tokens_eq⟩

end ModuleRunner.Script
