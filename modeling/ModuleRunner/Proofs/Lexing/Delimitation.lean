import ModuleRunner.Proofs.Lexing.Lexeme

/-!
# Tokens stand by themselves

A token is found with an eye on what is behind it: a slash may open a comment, a point may have digits, an
escape may be cut short.  What was found does not depend on that: the characters of the token alone are
one token of the same kind.  The end of all is a boundary as a blank is, and unlike a blank it is one for
spoiled tokens too.

* `Span.text` — the characters of a stretch of text.
* `gapFrom_drop` — behind a gap there is no other.
* `exists_lexeme_of_mem` — where a token stands, its lexeme starts.
* `tokens_text` — the tokens of a token's own characters.
-/

namespace ModuleRunner.Script

/-! ## The characters of a stretch -/

/-- The characters in front that make up a number of octets. -/
def takeOctets : Nat → List Char → List Char
  | 0, _ => []
  | _, [] => []
  | n + 1, c :: cs => c :: takeOctets (n + 1 - c.utf8Size) cs

/-- What is left behind a number of octets. -/
def dropOctets : Nat → List Char → List Char
  | 0, cs => cs
  | _, [] => []
  | n + 1, c :: cs => dropOctets (n + 1 - c.utf8Size) cs

/-- The characters of a text in a stretch of it. -/
def Span.text (s : Span) (source : List Char) : List Char :=
  takeOctets s.size (dropOctets s.start source)

lemma takeOctets_cons {n : Nat} {c : Char} (cs : List Char) :
    takeOctets (c.utf8Size + n) (c :: cs) = c :: takeOctets n cs := by
  obtain ⟨size, hsize⟩ := Nat.exists_eq_add_of_lt (Char.utf8Size_pos c)
  have hsum : c.utf8Size + n = (size + n) + 1 := by omega
  rw [hsum, takeOctets, ← hsum, Nat.add_sub_cancel_left]

lemma dropOctets_cons {n : Nat} {c : Char} (cs : List Char) :
    dropOctets (c.utf8Size + n) (c :: cs) = dropOctets n cs := by
  obtain ⟨size, hsize⟩ := Nat.exists_eq_add_of_lt (Char.utf8Size_pos c)
  have hsum : c.utf8Size + n = (size + n) + 1 := by omega
  rw [hsum, dropOctets, ← hsum, Nat.add_sub_cancel_left]

lemma octets_cons (c : Char) (cs : List Char) : octets (c :: cs) = c.utf8Size + octets cs := by
  simp [octets]

lemma takeOctets_append (text behind : List Char) : takeOctets (octets text) (text ++ behind) = text := by
  induction text with
  | nil => simp [octets, takeOctets]
  | cons c text ih => rw [octets_cons, List.cons_append, takeOctets_cons, ih]

lemma dropOctets_append (front behind : List Char) :
    dropOctets (octets front) (front ++ behind) = behind := by
  induction front with
  | nil => simp [octets, dropOctets]
  | cons c front ih => rw [octets_cons, List.cons_append, dropOctets_cons, ih]

/-- The characters between two places of a text. -/
lemma Span.text_eq {s : Span} {front text : List Char} (hstart : s.start = octets front)
    (hstop : s.stop = octets (front ++ text)) (behind : List Char) :
    s.text (front ++ (text ++ behind)) = text := by
  rw [Span.text, Span.size, hstop, hstart, octets_append, Nat.add_sub_cancel_left, dropOctets_append,
    takeOctets_append]

/-! ## Where tokens stand -/

/-- Behind a gap there is no other. -/
lemma gapFrom_drop (state : GapState) (cs : List Char) :
    gapFrom .blank (cs.drop (gapFrom state cs)) = 0 := by
  fun_induction gapFrom state cs with
  | case1 => rfl
  | case2 rest ih | case3 rest ih => rwa [Nat.add_comm, List.drop_succ_cons, List.drop_succ_cons]
  | case4 c rest _ _ _ ih | case6 c rest ih | case7 star c rest ih =>
      rwa [Nat.add_comm, List.drop_succ_cons]
  | case5 c rest hline hblock hblank =>
      have hopener : c = '/' → ∀ d ∈ rest.head?, ¬ (d = '/' ∨ d = '*') := by
        rintro hc d hhead hd
        obtain ⟨tail, htail⟩ := List.head?_eq_some_iff.mp hhead
        obtain rfl | rfl := hd
        · exact hline tail hc htail
        · exact hblock tail hc htail
      rw [List.drop_zero, gapFrom_of_not_opener hopener, if_neg hblank]

/-- Where a token stands, its lexeme starts, with no gap in front: by induction on the tokens. -/
lemma exists_lexeme_of_mem {bound : Nat} {front cs : List Char} {t : Token} (hlength : cs.length ≤ bound)
    (ht : t ∈ tokensFrom bound (Position.start.after front) cs) (hkind : t.kind ≠ .endOfInput) :
    ∃ before c p behind, cs = before ++ (c :: p ++ behind) ∧ gapSize (c :: p ++ behind) = 0 ∧
      lexeme c (p ++ behind) = ⟨t.kind, p.length + 1⟩ ∧ t.span.start = octets (front ++ before) ∧
      t.span.stop = octets (front ++ before ++ c :: p) := by
  induction bound generalizing front cs with
  | zero =>
      obtain rfl := List.length_eq_zero_iff.mp (Nat.le_zero.mp hlength)
      obtain rfl := List.mem_singleton.mp ht
      exact absurd rfl hkind
  | succ bound ih =>
      cases hdrop : cs.drop (gapSize cs) with
      | nil =>
          rw [tokensFrom, hdrop] at ht
          obtain rfl := List.mem_singleton.mp ht
          exact absurd rfl hkind
      | cons c more =>
          obtain ⟨gap, p, tail, rfl, hgap, rfl, hsize⟩ := exists_first hdrop
          have hnone : gapSize (c :: (p ++ tail)) = 0 := by
            rw [← hdrop]
            exact gapFrom_drop .blank _
          rw [tokensFrom_append hgap hsize] at ht
          obtain rfl | ht := List.mem_cons.mp ht
          · have hcovers := Token.covers_between (lexeme c (p ++ tail)).kind front gap (c :: p)
            exact ⟨gap, c, p, tail, rfl, hnone, by rw [← hsize], hcovers.start, hcovers.stop⟩
          · have htail : tail.length ≤ bound := by
              simp only [List.length_append, List.length_cons] at hlength
              omega
            obtain ⟨before, d, q, behind, rfl, hfound⟩ := ih htail ht
            exact ⟨gap ++ c :: p ++ before, d, q, behind, by simp, by simpa using hfound⟩

/-- The end of input covers nothing. -/
lemma LaidOut.stop_eq_start {before ahead : List Char} {ts : List Token} (h : LaidOut before ahead ts)
    {t : Token} (ht : t ∈ ts) (hkind : t.kind = .endOfInput) : t.span.stop = t.span.start := by
  induction h with
  | last _ _ hcovers =>
      obtain rfl := List.mem_singleton.mp ht
      rw [hcovers.stop, hcovers.start, List.append_nil]
  | more _ _ hother _ _ ih =>
      obtain rfl | ht := List.mem_cons.mp ht
      · exact absurd hkind hother
      · exact ih ht

/-! ## A token by itself -/

section Itself

variable {source : List Char} {t : Token}

/-- The characters of a token are those that stand where it does. -/
lemma exists_text (ht : t ∈ tokens source) : ∃ front behind,
    source = front ++ (t.span.text source ++ behind) ∧ t.span.start = octets front ∧
      t.span.stop = octets (front ++ t.span.text source) := by
  obtain ⟨between, gap, text, behind, rfl, hcovers⟩ := (tokens_laidOut source).1.exists_covers ht
  have hstart : t.span.start = octets (between ++ gap) := hcovers.start
  have hstop : t.span.stop = octets (between ++ gap ++ text) := hcovers.stop
  have htext := Span.text_eq hstart hstop behind
  rw [← List.append_assoc] at htext
  rw [htext]
  exact ⟨between ++ gap, behind, List.append_assoc _ _ _, hstart, hstop⟩

/-- What is behind a token has no part in it. -/
lemma tokens_text_eq_alone (ht : t ∈ tokens source) (hkind : t.kind ≠ .endOfInput) :
    tokens (t.span.text source) = alone t.kind (t.span.text source) := by
  have hfrom : t ∈ tokensFrom source.length (Position.start.after []) source := ht
  obtain ⟨before, c, p, behind, rfl, hgap, hlexeme, hstart, hstop⟩ :=
    exists_lexeme_of_mem le_rfl hfrom hkind
  rw [List.nil_append] at hstart hstop
  rw [Span.text_eq hstart hstop behind]
  have hgap' : gapSize (c :: p) = 0 := by
    have hsame := gapFrom_separated .nothing .blank (c :: p) (r := behind) (by
      rw [← gapSize, hgap]
      exact Nat.succ_pos _)
    rw [List.append_nil] at hsame
    exact hsame.trans hgap
  have hlexeme' : lexeme c p = ⟨t.kind, p.length + 1⟩ := by
    have hsame := lexeme_separated (p := p) (r := behind) .nothing (by rw [hlexeme]; rfl) (.inr rfl)
    rw [List.append_nil] at hsame
    exact hsame.trans hlexeme
  exact tokens_eq_alone hgap' hlexeme'

/-- **Tokens are self-delimiting.**  Whatever a text is, the characters of a token of it are by themselves
one token of that kind, which covers all of them, and the end of input.  The end of input has no
characters, and is the one token of none. -/
theorem tokens_text (ht : t ∈ tokens source) :
    (∃ front behind, source = front ++ (t.span.text source ++ behind) ∧ t.span.start = octets front ∧
      t.span.stop = octets (front ++ t.span.text source)) ∧
    (t.kind ≠ .endOfInput → tokens (t.span.text source) = alone t.kind (t.span.text source)) ∧
    (t.kind = .endOfInput → t.span.text source = [] ∧
      tokens (t.span.text source) = [⟨.endOfInput, .between .start .start, false⟩]) := by
  refine ⟨exists_text ht, tokens_text_eq_alone ht, fun hkind => ?_⟩
  have hempty := (tokens_laidOut source).1.stop_eq_start ht hkind
  have hnone : t.span.text source = [] := by
    rw [Span.text, Span.size, hempty, Nat.sub_self, takeOctets]
  rw [hnone]
  exact ⟨rfl, rfl⟩

end Itself

/-- The escape is cut short by a star, which is of the token; the slash behind it is not. -/
theorem tokens_text_of_cut_escape :
    ⟨.stray '\\', ⟨3, 8, 1, 4⟩, false⟩ ∈ tokens "1e+'\\u0*/ 2".toList ∧
      tokens "'\\u0*".toList = alone (.stray '\\') "'\\u0*".toList := by
  have hmem : (⟨.stray '\\', ⟨3, 8, 1, 4⟩, false⟩ : Token) ∈ tokens "1e+'\\u0*/ 2".toList := by
    decide +kernel
  have htext : Span.text ⟨3, 8, 1, 4⟩ "1e+'\\u0*/ 2".toList = "'\\u0*".toList := by decide +kernel
  have halone := (tokens_text hmem).2.1 (by decide)
  rw [htext] at halone
  exact ⟨hmem, halone⟩

end ModuleRunner.Script
