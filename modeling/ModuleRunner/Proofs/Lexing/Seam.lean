import ModuleRunner.Proofs.Lexing.Separation

/-!
# Space between tokens

Behind a token, and in front of all, a space may be put and then blanks and closed comments, and the tokens
stay what they are, as long as there is no line feed among them.  The end of input is a token too, and
behind it this holds unless the text ends inside a comment that is never closed: there a comment is the rest
of that one, and closes it.

* `bares_append`, `bares_separated` — the first token of a text, and the first one still if something is put
  further on.
* `EndsInComment`, `gapSize_filled` — texts that end inside a comment which is never closed, and what may
  be put behind a gap.
* `Seam`, `seam_of_mem_tokensFrom` — the places where tokens stop.
* `Seam.bares_eq` — blanks and comments at such a place change nothing.
-/

namespace ModuleRunner.Script

variable {c s : Char} {p gap before after more rest : List Char}

/-- A text that is a gap has the end of input only. -/
lemma bares_of_gap (h : gapSize gap = gap.length) :
    bares gap = [(.endOfInput, gap.contains '\n')] :=
  bares_end (by rw [h, List.drop_length])

/-- A gap without a line feed in front of a text changes nothing. -/
lemma bares_of_gapSize (hsize : gapSize (gap ++ rest) = gap.length + gapSize rest)
    (hline : '\n' ∉ gap) : bares (gap ++ rest) = bares rest := by
  have hdrop : (gap ++ rest).drop (gapSize (gap ++ rest)) = rest.drop (gapSize rest) := by
    rw [hsize, List.drop_append, List.drop_eq_nil_of_le (Nat.le_add_right _ _),
      Nat.add_sub_cancel_left, List.nil_append]
  cases hrest : rest.drop (gapSize rest) with
  | nil =>
      rw [bares_end hrest, bares_end (hdrop.trans hrest)]
      simp [hline]
  | cons c tail =>
      rw [bares_cons hrest, bares_cons (hdrop.trans hrest), hsize, List.take_length_add_append]
      simp [hline]

lemma bares_spaced (hgap : Gap [s] gap) (hline : '\n' ∉ gap) (rest : List Char) :
    bares (' ' :: gap ++ rest) = bares rest := by
  refine bares_of_gapSize ?_ (by simp [hline])
  have hpassed := hgap.gapFrom_append (List.cons_ne_nil s []) rest
  rw [gapSize, List.cons_append, gapFrom_blank_cons rfl, hpassed, gapSize, List.length_cons]
  omega

/-- The first token of a text, and the others. -/
lemma bares_append (hgap : gapSize (gap ++ c :: (p ++ rest)) = gap.length)
    (hsize : (lexeme c (p ++ rest)).size = p.length + 1) :
    bares (gap ++ c :: (p ++ rest)) =
      ((lexeme c (p ++ rest)).kind, gap.contains '\n') :: bares rest := by
  have hdrop : (gap ++ c :: (p ++ rest)).drop (gapSize (gap ++ c :: (p ++ rest))) = c :: (p ++ rest) := by
    rw [hgap, List.drop_left]
  rw [bares_cons hdrop, hgap, List.take_left, hsize, List.drop_succ_cons, List.drop_left]

lemma append_first (gap p before tail : List Char) (c : Char) :
    gap ++ c :: (p ++ before) ++ tail = gap ++ c :: (p ++ (before ++ tail)) := by
  simp

/-- The first token of a text stays what it is if something is put between others. -/
lemma bares_separated (hs : isGapBlank s)
    (hgap : gapSize (gap ++ c :: (p ++ (before ++ after))) = gap.length)
    (hsize : (lexeme c (p ++ (before ++ after))).size = p.length + 1)
    (hgoes : (lexeme c (p ++ (before ++ after))).kind.stops = false) :
    bares (gap ++ c :: (p ++ (before ++ s :: more))) =
      ((lexeme c (p ++ (before ++ after))).kind, gap.contains '\n') :: bares (before ++ s :: more) := by
  have hlexeme : lexeme c (p ++ (before ++ s :: more)) = lexeme c (p ++ (before ++ after)) := by
    rw [← List.append_assoc] at hsize hgoes ⊢
    rw [lexeme_separated (.blank hs) (by rw [hsize]; simp) (.inl hgoes), List.append_assoc]
  have hgap' : gapSize (gap ++ c :: (p ++ (before ++ s :: more))) = gap.length := by
    rw [← append_first] at hgap ⊢
    exact (gapFrom_separated (.blank hs) .blank _ (by rw [← gapSize, hgap]; simp)).trans hgap
  rw [← hlexeme] at hsize ⊢
  exact bares_append hgap' hsize

/-- A text ends inside a comment that is never closed: not even a line feed and a semicolon behind it make
another token. -/
def EndsInComment (cs : List Char) : Prop := kinds (cs ++ ['\n', ';']) = kinds cs

/-- A gap behind which a comment is still open ends inside of it. -/
lemma endsInComment_of_gapFrom {star : Bool} (hgap : gapSize gap = gap.length)
    (hbehind : ∀ rest, gapFrom .blank (gap ++ rest) = gap.length + gapFrom (.blockComment star) rest) :
    EndsInComment gap := by
  have hsize : gapSize (gap ++ ['\n', ';']) = (gap ++ ['\n', ';']).length := by
    rw [gapSize, hbehind]
    cases star <;> simp [gapFrom]
  rw [EndsInComment, kinds_eq, kinds_eq, bares_of_gap hsize, bares_of_gap hgap]
  rfl

/-- Behind a gap, a space and blanks and comments are more of it, unless a comment is open there and the
first of them closes it early. -/
lemma gapSize_filled {filler : List Char} (hgap : gapSize gap = gap.length) (hfiller : Gap [s] filler)
    (hline : '\n' ∉ filler)
    (hopen : EndsInComment gap → ¬ ['/', '*', '/'] <+: filler.dropWhile isGapBlank) :
    gapSize (gap ++ ' ' :: filler) = (gap ++ ' ' :: filler).length := by
  obtain ⟨behind, hbehind⟩ := exists_gapFrom_append .blank gap hgap
  have hpassed : gapFrom behind (' ' :: filler) = filler.length + 1 := by
    cases behind with
    | blank =>
        have hgap' := hfiller.gapFrom_append (List.cons_ne_nil s []) []
        rw [List.append_nil, gapFrom, Nat.add_zero] at hgap'
        rw [gapFrom_blank_cons rfl, hgap', Nat.add_comm]
    | lineComment =>
        have hbody : '\n' ∉ ' ' :: filler := by simp [hline]
        simpa [gapFrom] using gapFrom_line hbody []
    | blockComment star =>
        have hspace : gapFrom (.blockComment star) (' ' :: filler) =
            1 + gapFrom (.blockComment false) filler := by cases star <;> rfl
        have hends := endsInComment_of_gapFrom hgap hbehind
        rw [hspace, hfiller.gapFrom_inside hline (hopen hends), Nat.add_comm]
  rw [gapSize, hbehind, hpassed, List.length_append, List.length_cons]

/-- Where space may be put in a text: in front of it, or behind one of its tokens. -/
inductive Seam : List Char → List Char → Prop
  /-- In front of all. -/
  | front {after : List Char} : Seam [] after
  /-- Behind the first token, or further on. -/
  | behind {gap p before after : List Char} {c : Char} :
      gapSize (gap ++ c :: (p ++ (before ++ after))) = gap.length →
      (lexeme c (p ++ (before ++ after))).size = p.length + 1 → Seam before after →
      Seam (gap ++ c :: (p ++ before)) after
  /-- Behind the end of input. -/
  | last {gap : List Char} : gapSize gap = gap.length → Seam gap []

/-- Space at a seam changes nothing. -/
lemma Seam.bares_eq {filler : List Char} (h : Seam before after) (hfiller : Gap [s] filler)
    (hline : '\n' ∉ filler)
    (hgoes : ∀ b ∈ bares (before ++ after), b.1.stops = true → b.1 = .endOfInput)
    (hopen : after = [] → EndsInComment before →
      ¬ ['/', '*', '/'] <+: filler.dropWhile isGapBlank) :
    bares (before ++ (' ' :: filler ++ after)) = bares (before ++ after) := by
  induction h with
  | front => exact bares_spaced hfiller hline _
  | @behind gap p before after c hgap hsize _ ih =>
      have hold := bares_append hgap hsize
      rw [append_first, hold] at hgoes
      obtain ⟨hfirst, hothers⟩ := List.forall_mem_cons.mp hgoes
      have hkind : (lexeme c (p ++ (before ++ after))).kind.stops = false :=
        Bool.eq_false_iff.mpr fun hstops => (solid_lexeme c _).kind_ne (hfirst hstops)
      have hnew {s : Char} (hs : isGapBlank s) (more : List Char) :
          bares (gap ++ c :: (p ++ (before ++ s :: more))) =
            ((lexeme c (p ++ (before ++ after))).kind, gap.contains '\n') :: bares (before ++ s :: more) :=
        bares_separated hs hgap hsize hkind
      rw [append_first, append_first, hold, List.cons_append, hnew rfl, ← List.cons_append,
        ih hothers fun hafter hends => hopen hafter ?_]
      -- behind the first token nothing is different
      subst hafter
      rw [EndsInComment, kinds_eq, kinds_eq] at hends ⊢
      rw [append_first, hnew rfl, List.map_cons, hends]
      simpa using (congrArg (List.map Prod.fst) hold).symm
  | @last gap hgap =>
      have hsize := gapSize_filled hgap hfiller hline (hopen rfl)
      rw [List.append_nil, bares_of_gap hsize, List.append_nil, bares_of_gap hgap]
      simp [hline]

/-- The octets of a text tell how far it reaches into another one. -/
lemma prefix_of_octets_le {front other text : List Char} (hfront : front <+: text)
    (hother : other <+: text) (h : octets front ≤ octets other) : front <+: other := by
  obtain hprefix | ⟨tail, rfl⟩ := List.prefix_or_prefix_of_prefix hfront hother
  · exact hprefix
  · rw [octets_append] at h
    obtain rfl : tail = [] := eq_nil_of_octets_eq_zero (by omega)
    rw [List.append_nil]

/-- A text that is more than a gap is a gap, the text of a lexeme and others. -/
lemma exists_first (h : rest.drop (gapSize rest) = c :: more) : ∃ gap p tail,
    rest = gap ++ c :: (p ++ tail) ∧ gapSize rest = gap.length ∧ more = p ++ tail ∧
      (lexeme c more).size = p.length + 1 := by
  have hpos := (solid_lexeme c more).size_pos
  have hle := size_lexeme_le c more
  refine ⟨rest.take (gapSize rest), more.take ((lexeme c more).size - 1),
    more.drop ((lexeme c more).size - 1), ?_, ?_, (List.take_append_drop _ _).symm, ?_⟩
  · rw [List.take_append_drop, ← h, List.take_append_drop]
  · exact (List.length_take_of_le (gapFrom_le .blank rest)).symm
  · rw [List.length_take]
    omega

lemma tokensFrom_append {bound : Nat} {front : List Char}
    (hgap : gapSize (gap ++ c :: (p ++ rest)) = gap.length)
    (hsize : (lexeme c (p ++ rest)).size = p.length + 1) :
    tokensFrom (bound + 1) (Position.start.after front) (gap ++ c :: (p ++ rest)) =
      ⟨(lexeme c (p ++ rest)).kind, .between ((Position.start.after front).after gap)
        (((Position.start.after front).after gap).after (c :: p)), gap.contains '\n'⟩ ::
      tokensFrom bound (Position.start.after (front ++ gap ++ c :: p)) rest := by
  rw [tokensFrom, hgap, List.take_left, List.drop_left]
  dsimp only
  rw [hsize, List.take_succ_cons, List.take_left, List.drop_succ_cons, List.drop_left,
    Position.after_append, Position.after_append]

/-- Where a token stops there is a seam, by induction on the tokens: behind the first one if it stops
there, and else further on. -/
lemma seam_of_mem_tokensFrom {bound : Nat} {front before after : List Char} {t : Token}
    (hlength : (before ++ after).length ≤ bound)
    (ht : t ∈ tokensFrom bound (Position.start.after front) (before ++ after))
    (hstop : t.span.stop = octets (front ++ before)) : Seam before after := by
  induction bound generalizing front before with
  | zero =>
      obtain ⟨rfl, rfl⟩ :=
        List.append_eq_nil_iff.mp (List.length_eq_zero_iff.mp (Nat.le_zero.mp hlength))
      exact .front
  | succ bound ih =>
      cases hdrop : (before ++ after).drop (gapSize (before ++ after)) with
      | nil =>
          have htake := List.take_append_drop (gapSize (before ++ after)) (before ++ after)
          rw [hdrop, List.append_nil] at htake
          rw [tokensFrom, hdrop, htake] at ht
          obtain rfl := List.mem_singleton.mp ht
          have hend := (Token.covers_between .endOfInput front (before ++ after) []).stop.symm.trans hstop
          simp only [octets_append] at hend
          obtain rfl : after = [] := eq_nil_of_octets_eq_zero (by omega)
          rw [List.append_nil] at hdrop
          exact .last (Nat.le_antisymm (gapFrom_le _ _) (List.drop_eq_nil_iff.mp hdrop))
      | cons c more =>
          obtain ⟨gap, p, tail, hcs, hgap, rfl, hsize⟩ := exists_first hdrop
          have htail : tail.length ≤ bound := by
            have hlengths := congrArg List.length hcs
            simp only [List.length_append, List.length_cons] at hlengths hlength
            omega
          rw [hcs] at hgap
          rw [hcs, tokensFrom_append hgap hsize] at ht
          have hfirst := Token.covers_between (lexeme c (p ++ tail)).kind front gap (c :: p)
          have hlaid : LaidOut (front ++ gap ++ c :: p) tail
              (tokensFrom bound (Position.start.after (front ++ gap ++ c :: p)) tail) :=
            laidOut_tokensFrom htail
          have hreach : octets (front ++ gap ++ c :: p) ≤ octets (front ++ before) := by
            obtain rfl | ht := List.mem_cons.mp ht
            · exact (hfirst.stop.symm.trans hstop).le
            · exact ((hlaid.start_le ht).trans (hlaid.start_le_stop ht)).trans_eq hstop
          obtain ⟨before, rfl⟩ : gap ++ c :: p <+: before := by
            have hprefix : gap ++ c :: p <+: before ++ after := ⟨tail, by rw [hcs]; simp⟩
            refine prefix_of_octets_le hprefix (List.prefix_append _ _) ?_
            simp only [octets_append] at hreach ⊢
            omega
          obtain rfl : tail = before ++ after := by simpa using hcs.symm
          have hseam : Seam before after := by
            obtain rfl | ht := List.mem_cons.mp ht
            · have hend := hfirst.stop.symm.trans hstop
              simp only [octets_append] at hend
              obtain rfl : before = [] := eq_nil_of_octets_eq_zero (by omega)
              exact .front
            · exact ih htail ht (by rw [hstop]; simp)
          simpa using Seam.behind hgap hsize hseam

end ModuleRunner.Script
