import ModuleRunner.Proofs.Lexing.Seam
import ModuleRunner.Proofs.Parsing.Rule
import ModuleRunner.Proofs.Parsing.Termination

/-!
# Blanks and comments are insignificant

Blanks and comments that are put behind a token change where the tokens behind them stand, and nothing
else, as long as there is no line feed in them: the tokens before are the longest ones that fit, and a
blank goes on with none of them.  Over the two texts the parser goes in step, so it answers trees that are
the same but for places.

There is one text in which a comment is not what it is elsewhere: one that ends inside a comment which is
never closed.  Behind its end another comment is the rest of that one, which it closes, and too early if it
starts with `/*/`.

* `kind_of_parse` — a program has none of the tokens that no phrase has, but for the end of input.
* `parallel_of_bares_eq` — texts whose tokens are the same but for their places.
* `parse_spaced` — blanks and comments behind a token, or in front of all.
* `parse_closed_early` — the one text in which they may change something.
-/

namespace ModuleRunner.Script

namespace Parser

variable {α : Type} {text : Array Token} {source : String} {body : List Statement}

/-! ## Programs have no other end -/

/-- A sequence that is not in braces goes on to the end of input. -/
lemma sequence_ends {item : Parser α} {bound : Nat} {c c' : Cursor} {items : List α}
    (h : sequence false item bound text c = .ok (items, c')) :
    (text.getD c'.taken nowhere).kind = .endOfInput := by
  induction bound generalizing c items with
  | zero => cases h
  | succ bound ih =>
      rw [sequence] at h
      obtain ⟨kind, _, hkind, h⟩ := bind_eq_ok.mp h
      cases hkind
      split at h
      · next hend =>
          cases h
          simpa using hend
      · obtain ⟨first, _, -, h⟩ := bind_eq_ok.mp h
        obtain ⟨rest, _, hrest, h⟩ := bind_eq_ok.mp h
        cases h
        exact ih hrest

/-- A text that is a program has none of the tokens that no phrase has, but for the end of input: the
parser does not get past such a token, and stops at the end. -/
lemma kind_of_parse (h : parse source = .ok body) {t : Token} (ht : t ∈ tokens source.toList)
    (hstops : t.kind.stops = true) : t.kind = .endOfInput := by
  obtain ⟨last, hlength, hlast, hend⟩ := exists_last source.toList
  set text := (tokens source.toList).toArray
  have hfound : ∃ i, (text.getD i nowhere).kind.stops = true := ⟨last, by rw [hlast]; rfl⟩
  have hfirst : Nat.find hfound ≤ last := Nat.find_min' hfound (by rw [hlast]; rfl)
  have htext : Parallel text text (Nat.find hfound) :=
    ⟨rfl, hfirst.trans (by simp [text, hlength]), fun _ _ => rfl, fun _ _ => rfl, Nat.find_spec hfound⟩
  rw [parse, parseTokens] at h
  split at h
  case h_2 => cases h
  case h_1 body c hrun =>
    obtain ⟨-, hhalt, -⟩ := program_inStep.forwards (c := ⟨0, 0⟩)
      htext (fun i hi => hfirst.trans (hend i hi)) (Nat.zero_le _)
    rw [hrun] at hhalt
    obtain ⟨r, _, hremaining, hsequence⟩ := bind_eq_ok.mp hrun
    have hlate : last ≤ c.taken := hend _ (sequence_ends hsequence)
    obtain ⟨i, hi, rfl⟩ := List.getElem_of_mem ht
    have hget : text.getD i nowhere = (tokens source.toList)[i] := getD_toArray hi
    have hbehind : Nat.find hfound ≤ i := Nat.find_min' hfound (by rw [hget]; exact hstops)
    obtain rfl : i = last := by
      have hhalt : c.taken ≤ Nat.find hfound := hhalt
      omega
    rwa [← hget]

/-! ## Texts whose tokens are the same -/

/-- Texts whose tokens are the same but for their places. -/
lemma parallel_of_bares_eq {cs cs' : List Char} {e : Nat} (h : bares cs = bares cs')
    (hlength : (tokens cs).length = e + 1)
    (hlast : ((tokens cs).toArray.getD e nowhere).kind.stops = true) :
    Parallel (tokens cs).toArray (tokens cs').toArray e := by
  have hget (i : Nat) : ((tokens cs).toArray.getD i nowhere).bare =
      ((tokens cs').toArray.getD i nowhere).bare := by
    have hmap (ts : List Token) : (ts.toArray.getD i nowhere).bare =
        (ts.map Token.bare).getD i nowhere.bare := by
      simp [List.getD_eq_getElem?_getD, Array.getD_eq_getD_getElem?]
    rw [hmap, hmap]
    exact congrArg (List.getD · i nowhere.bare) h
  refine ⟨?_, by simp [hlength], fun i _ => congrArg Prod.fst (hget i),
    fun i _ => congrArg Prod.snd (hget i), hlast⟩
  simpa [bares] using congrArg List.length h

/-- A space and behind it blanks and closed comments without a line feed may be put in front of a program or
behind each of its tokens, the end of input among them: the text is still a program, of the same tree but
for the places in it.  If the text ends inside a comment that is never closed, this holds at its end as long
as the first comment that is put there does not start with `/*/`, which would close that one too early. -/
theorem parse_spaced {before after filler : List Char} (h : parse source = .ok body)
    (hsource : source.toList = before ++ after)
    (hplace : before = [] ∨ ∃ t ∈ tokens source.toList, t.span.stop = octets before)
    (hfiller : Gap [' '] filler) (hline : '\n' ∉ filler)
    (hopen : after = [] → EndsInComment source.toList →
      ¬ ['/', '*', '/'] <+: filler.dropWhile isGapBlank) :
    ∃ body', parse (String.ofList (before ++ ' ' :: filler ++ after)) = .ok body' ∧
      body'.map Statement.unplaced = body.map Statement.unplaced := by
  have hseam : Seam before after := by
    obtain rfl | ⟨t, ht, hstop⟩ := hplace
    · exact .front
    · have hmem : t ∈ tokensFrom (before ++ after).length (Position.start.after []) (before ++ after) :=
        hsource ▸ ht
      exact seam_of_mem_tokensFrom le_rfl hmem hstop
  have hgoes : ∀ b ∈ bares (before ++ after), b.1.stops = true → b.1 = .endOfInput := by
    rw [← hsource]
    exact List.forall_mem_map.mpr fun t ht => kind_of_parse h ht
  have hbares := hseam.bares_eq hfiller hline hgoes fun hafter hends =>
    hopen hafter (by rwa [hsource, hafter, List.append_nil])
  obtain ⟨last, hlength, hlast, -⟩ := exists_last source.toList
  have htexts := parallel_of_bares_eq (hsource ▸ hbares.symm) hlength (by rw [hlast]; rfl)
  have hrun := program_inStep _ _ ⟨0, 0⟩ htexts rfl (Nat.zero_le last)
  rw [parse, parseTokens] at h
  rw [parse, parseTokens, String.toList_ofList, List.append_assoc]
  generalize program (tokens source.toList).toArray ⟨0, 0⟩ = o at h hrun
  generalize program (tokens (before ++ (' ' :: filler ++ after))).toArray ⟨0, 0⟩ = o' at hrun
  cases hrun with
  | refused => cases h
  | answered _ _ hbody =>
      cases h
      exact ⟨_, rfl, hbody.symm⟩

/-- At the end of a text whose last comment is never closed, another comment is passed over. -/
theorem parse_spaced_open_comment :
    EndsInComment "x /*".toList ∧ ∃ body body', parse "x /*" = .ok body ∧
      parse (String.ofList ("x /*".toList ++ ' ' :: "\t/* y */ ".toList ++ [])) = .ok body' ∧
      body'.map Statement.unplaced = body.map Statement.unplaced := by
  have hends : EndsInComment "x /*".toList := by
    unfold EndsInComment
    decide +kernel
  have hfiller : Gap [' '] "\t/* y */ ".toList :=
    .blank (by decide) (@Gap.block _ [' ', 'y', ' '] _ (by decide) (.blank (by decide) .nil))
  have hshape : (parse "x /*").toOption.isSome = true := by decide +kernel
  cases h : parse "x /*" with
  | error fault => simp [h, Except.toOption] at hshape
  | ok body =>
      have hsource : "x /*".toList = "x /*".toList ++ [] := (List.append_nil _).symm
      obtain ⟨body', hparse, hsame⟩ := parse_spaced h hsource (.inr (by decide +kernel)) hfiller
        (by decide) fun _ _ => by decide
      exact ⟨hends, body, body', rfl, hparse, hsame⟩

/-- A comment that closes the open one too early leaves marks behind that are no program. -/
theorem parse_closed_early :
    (∃ body, parse "x /*" = .ok body) ∧
    (∃ t ∈ tokens "x /*".toList, t.span.stop = octets "x /*".toList) ∧
    Gap [' '] "/*/ */ ".toList ∧ '\n' ∉ "/*/ */ ".toList ∧
    ¬ ∃ body, parse (String.ofList ("x /*".toList ++ ' ' :: "/*/ */ ".toList)) = .ok body := by
  have hprogram : (parse "x /*").toOption.isSome = true := by decide +kernel
  have hnone : (parse (String.ofList
      ("x /*".toList ++ ' ' :: "/*/ */ ".toList))).toOption.isSome = false := by
    decide +kernel
  refine ⟨?_, by decide +kernel,
    @Gap.block _ ['/', ' '] _ (by decide) (.blank (by decide) .nil), by decide, ?_⟩
  · cases h : parse "x /*" with
    | error fault => simp [h, Except.toOption] at hprogram
    | ok body => exact ⟨body, rfl⟩
  · rintro ⟨body, h⟩
    rw [h] at hnone
    cases hnone

end Parser

end ModuleRunner.Script
