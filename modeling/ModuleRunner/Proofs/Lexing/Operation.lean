import ModuleRunner.Proofs.Lexing.Lexeme
import ModuleRunner.Proofs.Script.Grouping

/-!
# The tokens of operands with operators between them

Spaces keep operators and operands apart, so that each is the lexeme that it is when it stands alone.

* `Operator.isLexeme`, `Operand.isLexeme` — operators and operands are lexemes.
* `kinds_spelled` — the tokens of operands with operators between them.
-/

namespace ModuleRunner.Script

/-! ## Operators and operands -/

lemma Operator.isLexeme (op : Operator) : IsLexeme op.spelling.toList (.mark op.mark) := by
  obtain op | op := op <;> cases op <;> exact ⟨_, _, rfl, rfl, rfl, rfl⟩

lemma Operand.isLexeme (x : Operand) : IsLexeme x.text.toList x.kind := by
  obtain ⟨text, value, c, rest, htext, hlexeme⟩ | ⟨n, h, -⟩ := x
  · have hnumber : startsNumber (c :: rest) = true := startsNumber_of_kind (by rw [hlexeme])
    exact ⟨c, rest, htext, gapSize_of_startsNumber hnumber, hlexeme, rfl⟩
  · obtain ⟨c, rest, hn, hc, hrest⟩ := h.word
    refine ⟨c, rest, hn, gapSize_of_isNameStart hc rest, ?_, rfl⟩
    have hrun : (c :: rest).takeWhile isNamePart = c :: rest :=
      List.takeWhile_eq_self_iff.mpr (List.forall_mem_cons.mpr ⟨by simp [isNamePart, hc], hrest⟩)
    rw [lexeme_of_isNameStart hc, wordLexeme, hrun, ← hn, String.ofList_toList, h.wordKind_eq]
    rw [hn]
    rfl

/-! ## Sequences -/

/-- The tokens of operators with the operands behind them. -/
def operationKinds (rest : List (Operator × Operand)) : List Kind :=
  rest.flatMap fun p => [.mark p.1.mark, p.2.kind]

lemma length_operationKinds (rest : List (Operator × Operand)) :
    (operationKinds rest).length = 2 * rest.length := by
  simp [operationKinds, Nat.mul_comm]

/-- A reader finds each operand and each operator as one token. -/
lemma kinds_spelled (first : Operand) (rest : List (Operator × Operand)) :
    kinds (spelled first rest).toList = first.kind :: operationKinds rest ++ [.endOfInput] := by
  induction rest generalizing first with
  | nil => exact first.isLexeme.kinds_eq
  | cons p rest ih =>
      obtain ⟨op, next⟩ := p
      have htext : (spelled first ((op, next) :: rest)).toList =
          first.text.toList ++ ' ' :: (op.spelling.toList ++ ' ' :: (spelled next rest).toList) := by
        simp [spelled]
      rw [htext, first.isLexeme.kinds_append, op.isLexeme.kinds_append, ih]
      simp [operationKinds]

end ModuleRunner.Script
