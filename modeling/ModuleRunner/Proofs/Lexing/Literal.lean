import ModuleRunner.Proofs.Lexing.Lexeme

/-!
# Texts between quotes

A text is put between quotes a character at a time, and what decides whether it can be read back is how
each character stands there alone: behind it the reader must be as it was in front, with that character
more.  Nothing in a text can then end the literal, start a comment or be taken for a line end, whatever its
characters are next to.

* `ReadBack` — ways to write characters between quotes that a reader undoes.
* `ReadBack.lexeme_eq` — a text written so is one lexeme, up to the quote behind it.
* `writeLiteral` — the literal of a text, with as little escaped as can be.
* `tokens_writeLiteral` — it is one token, and stands for the text.
-/

namespace ModuleRunner.Script

/-- A reader between quotes that meets a character written so has that character more. -/
def ReadBack (quote : Char) (write : Char → List Char) : Prop :=
  ∀ (c : Char) (done : List Char) (size : Nat) (rest : List Char),
    literalFrom quote .plain done size (write c ++ rest) =
      literalFrom quote .plain (c :: done) (size + (write c).length) rest

variable {quote : Char} {write : Char → List Char}

namespace ReadBack

/-- By induction on the text: what was read before a character is kept behind it. -/
lemma literalFrom_eq (h : ReadBack quote write) (cs done : List Char) (size : Nat) (rest : List Char) :
    literalFrom quote .plain done size (cs.flatMap write ++ quote :: rest) =
      ⟨.text (String.ofList (done.reverse ++ cs)), size + (cs.flatMap write).length + 1⟩ := by
  induction cs generalizing done size with
  | nil => simp [literalFrom]
  | cons c cs ih =>
      rw [List.flatMap_cons, List.append_assoc, h, ih]
      simp [Nat.add_assoc]

/-- The literal of a text is a lexeme, whatever stands behind it. -/
lemma lexeme_eq (h : ReadBack quote write) (hquote : quote = '"' ∨ quote = '\'') (s : String)
    (rest : List Char) : lexeme quote (s.toList.flatMap write ++ quote :: rest) =
      ⟨.text s, (s.toList.flatMap write).length + 2⟩ := by
  have hstart (cs : List Char) : lexeme quote cs = literalFrom quote .plain [] 1 cs := by
    rcases hquote with rfl | rfl <;> rfl
  rw [hstart, h.literalFrom_eq, List.reverse_nil, List.nil_append, String.ofList_toList]
  congr 1
  omega

end ReadBack

/-! ## What must be escaped -/

/-- A character between quotes: a backslash in front of the quote and of a backslash, and `n` behind one for
a line feed. -/
def writeChar (quote c : Char) : List Char :=
  if c = '\\' then ['\\', '\\']
  else if c = quote then ['\\', quote]
  else if c = '\n' then ['\\', 'n']
  else [c]

/-- The literal of a text. -/
def writeLiteral (quote : Char) (cs : List Char) : List Char :=
  quote :: (cs.flatMap (writeChar quote) ++ [quote])

/-- Only a quote, a line feed and a backslash are more than themselves to the reader, and they are the
ones escaped. -/
lemma readBack_writeChar (hquote : quote = '"' ∨ quote = '\'') : ReadBack quote (writeChar quote) := by
  intro c done size rest
  have hslash : '\\' ≠ quote := by rcases hquote with rfl | rfl <;> decide
  have hescaped : quote ≠ 'u' ∧ quote ≠ '\n' ∧ escaped quote = quote := by
    rcases hquote with rfl | rfl <;> decide
  by_cases hback : c = '\\'
  · subst hback
    simp [writeChar, literalFrom, hslash, escaped]
  · by_cases hend : c = quote
    · subst hend
      simp [writeChar, literalFrom, hslash, hback, hescaped]
    · by_cases hline : c = '\n'
      · subst hline
        simp [writeChar, literalFrom, hslash, hend, escaped]
      · simp [writeChar, literalFrom, hback, hend, hline]

/-- **Literals.**  The literal of a text is one token that covers all of it and stands for that text. -/
theorem tokens_writeLiteral (hquote : quote = '"' ∨ quote = '\'') (s : String) :
    tokens (writeLiteral quote s.toList) = alone (.text s) (writeLiteral quote s.toList) := by
  have hgap : gapSize (writeLiteral quote s.toList) = 0 := by
    rcases hquote with rfl | rfl <;> exact gapSize_eq_zero rfl (by decide) _
  have hlexeme := (readBack_writeChar hquote).lexeme_eq hquote s []
  exact IsLexeme.tokens_eq ⟨quote, _, rfl, hgap, by simpa using hlexeme, rfl⟩

/-- A text of what looks like an escape, a comment and the ends of literals and lines. -/
theorem tokens_writeLiteral_mixed :
    writeLiteral '\'' "\\u0041'\"/*é\n\\".toList = "'\\\\u0041\\'\"/*é\\n\\\\'".toList ∧
    tokens "'\\\\u0041\\'\"/*é\\n\\\\'".toList =
      [⟨.text "\\u0041'\"/*é\n\\", ⟨0, 20, 1, 1⟩, false⟩, ⟨.endOfInput, ⟨20, 20, 1, 20⟩, false⟩] :=
  ⟨rfl, tokens_writeLiteral (.inr rfl) "\\u0041'\"/*é\n\\"⟩

end ModuleRunner.Script
