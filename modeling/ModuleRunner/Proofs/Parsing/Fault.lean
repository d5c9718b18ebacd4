import Mathlib.Data.Prod.Lex
import ModuleRunner.Proofs.Parsing.Termination

/-!
# Where faults are reported

A rule refuses a token, the one ahead or the one taken last, and the fault is reported where that token
starts.  Before the first token there is none taken, and behind the end of the text none ahead: for both
the parser has a token that stands nowhere, at line zero.  It is never the one that is refused.  No rule
goes beyond the end of input, and a rule that refuses what it has taken has taken something.

* `Position.le_after` — places come one behind the other as text is read.
* `fault_eq_faultAt` — a fault is at one of the tokens.
* `fault_at_token` — so it is at the start of a token, and within the text.
-/

namespace ModuleRunner.Script

/-! ## Places in order -/

/-- A place behind a text is no earlier than the place in front of it, by lines and then by columns. -/
lemma Position.le_after (p : Position) (cs : List Char) :
    toLex (p.line, p.column) ≤ toLex ((p.after cs).line, (p.after cs).column) := by
  induction cs generalizing p with
  | nil => exact le_rfl
  | cons c cs ih =>
      refine le_trans ?_ (ih (p.next c))
      rw [Prod.Lex.toLex_le_toLex]
      by_cases hc : c = '\n'
      · exact .inl (by simp [next, hc])
      · exact .inr (by simp [next, hc])

/-- A token starts within its text, counted from one. -/
lemma Token.Covers.starts_within {t : Token} {before gap text : List Char} (h : t.Covers before gap text)
    (behind : List Char) : 0 < t.span.line ∧ 0 < t.span.column ∧
      toLex (t.span.line, t.span.column) ≤ toLex (1 + (before ++ gap ++ text ++ behind).count '\n',
        1 + (lastLine (before ++ gap ++ text ++ behind)).length) := by
  have hplace := (Position.start.after (before ++ gap)).le_after (text ++ behind)
  rw [← Position.after_append, ← List.append_assoc, Position.start_after, Position.start_after] at hplace
  rw [h.line, h.column]
  exact ⟨by omega, by omega, hplace⟩

namespace Parser

/-- A fault is at a token, up to the end of input. -/
lemma fault_eq_faultAt {source : List Char} {refusal : Refusal}
    (h : program (tokens source).toArray ⟨0, 0⟩ = .error refusal) :
    ∃ i cause, i < (tokens source).length ∧
      refusal.fault = faultAt (tokens source).toArray i cause := by
  obtain ⟨e, hlength, hlast, -⟩ := exists_last source
  have hended := program_inStep _ _ ⟨0, 0⟩ (parallel_self hlength hlast) rfl (Nat.zero_le e)
  rw [h] at hended
  cases hended with
  | refused _ _ hi _ => exact ⟨_, _, by omega, rfl⟩

/-- **Faults.**  The fault of a text that is no program is reported at the line and the column at which one
of its tokens starts, the end of input among them.  These count from one, and are those of no place behind
the end of the text. -/
theorem fault_at_token {source : String} {fault : Fault} (h : parse source = .error fault) :
    ∃ t ∈ tokens source.toList, fault.line = t.span.line ∧ fault.column = t.span.column ∧
      (∃ before gap text behind, source.toList = before ++ gap ++ text ++ behind ∧
        t.Covers before gap text) ∧
      0 < fault.line ∧ 0 < fault.column ∧
      toLex (fault.line, fault.column) ≤
        toLex (1 + source.toList.count '\n', 1 + (lastLine source.toList).length) := by
  rw [parse, parseTokens] at h
  split at h
  · cases h
  · next refusal hrun =>
      cases h
      obtain ⟨i, cause, hi, hfault⟩ := fault_eq_faultAt hrun
      have hmem : (tokens source.toList)[i] ∈ tokens source.toList := List.getElem_mem hi
      obtain ⟨before, gap, text, behind, hsource, hcovers⟩ :=
        (tokens_laidOut source.toList).1.exists_covers hmem
      have hwithin := hcovers.starts_within behind
      rw [List.nil_append, ← hsource] at hwithin
      rw [hfault, faultAt, getD_toArray hi]
      exact ⟨_, hmem, rfl, rfl, ⟨before, gap, text, behind, hsource, hcovers⟩, hwithin⟩

/-- What cannot be counted up is refused behind it: at the parenthesis, and not on the next line, where the
end of input is. -/
theorem fault_at_token_behind : parse "++f()\n" = .error ⟨.badTarget .beforeOperand, 1, 5⟩ ∧
    ∃ t ∈ tokens "++f()\n".toList, t.span.line = 1 ∧ t.span.column = 5 := by
  have hrun : parse "++f()\n" = .error ⟨.badTarget .beforeOperand, 1, 5⟩ := by
    have hfault : (match parse "++f()\n" with
      | .ok _ => none
      | .error fault => some fault) = some ⟨.badTarget .beforeOperand, 1, 5⟩ := by decide +kernel
    split at hfault
    · cases hfault
    · next hparse => rw [hparse, Option.some.inj hfault]
  obtain ⟨t, ht, hline, hcolumn, -⟩ := fault_at_token hrun
  exact ⟨hrun, t, ht, hline.symm, hcolumn.symm⟩

end Parser

end ModuleRunner.Script
