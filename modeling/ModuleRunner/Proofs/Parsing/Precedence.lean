import ModuleRunner.Proofs.Lexing.Operation
import ModuleRunner.Proofs.Parsing.Reading

/-!
# Stronger operators bind first

There is a tier of the grammar for each strength of operators, and each is read with the next stronger one
between its operators.  So a tier takes a part of stronger operators, then one of its own, and so on, and
hands over to the weaker tier in front of an operator of that; what it has read so far is the left part of
its next operator.

Each operator of a chain counts as one level of nesting until the chain ends, and chains of stronger
operators nest in those of weaker ones; all in all there are no more levels than operators.

* `Behind` — what may follow operators of some strength.
* `tierChain_passes` — a tier reads operators of its strength, given how stronger ones are read.
* `tiered_reads_operations` — the tiers read operators of all strengths.
* `parse_operations` — operands with operators between them are one expression, grouped by strength.
-/

namespace ModuleRunner.Script

namespace Parser

variable {deeper : Level} {first next : Operand} {rest others : List (Operator × Operand)} {op : Operator}
  {k k' room : Nat} {more : List Kind} {t : Tier}

/-! ## Operands and operators -/

/-- An operand is read as the expression that it is. -/
lemma operand_reads_operand (x : Operand) {last : Kind} (hlast : endsOperand last = true) :
    Reads (operand deeper) room [x.kind] (last :: more) x.expression := by
  obtain ⟨text, value, h⟩ | ⟨n, h, hdefined⟩ := x
  · exact operand_reads hlast rfl rfl rfl (.peek currentKind_reads (.step take_reads (.pure _ _ _)))
  · refine operand_reads hlast rfl rfl rfl (.peek currentKind_reads (.step take_reads ?_))
    rw [if_neg hdefined]
    exact .pure _ _ _

/-- The operators of a tier are those of its strength. -/
lemma ofKind?_mark (ht : tiers[k]? = some t) (op : Operator) :
    t.ofKind? (.mark op.mark) = if op.strength = k then some op.apply else none := by
  have hk : k < tiers.length := (List.getElem?_eq_some_iff.mp ht).1
  simp only [tiers, List.length_cons, List.length_nil] at hk
  interval_cases k <;> cases ht <;> obtain op | op := op <;> cases op <;> rfl

lemma endsOperand_mark (op : Operator) : endsOperand (.mark op.mark) = true := by
  obtain op | op := op <;> cases op <;> rfl

/-- What may follow operators of some strength or more: what goes on neither with an operand nor with such
operators. -/
def Behind (k : Nat) (more : List Kind) : Prop :=
  ∃ last tail, more = last :: tail ∧ endsOperand last = true ∧
    ∀ j t, k ≤ j → tiers[j]? = some t → t.ofKind? last = none

lemma Behind.mono (h : Behind k more) (hk : k ≤ k') : Behind k' more := by
  obtain ⟨last, tail, hmore, hends, hnone⟩ := h
  exact ⟨last, tail, hmore, hends, fun j t hj => hnone j t (hk.trans hj)⟩

/-- A weaker operator follows, or what follows them all. -/
lemma Behind.operations (h : Behind k more) (hhead : ∀ p ∈ rest.head?, p.1.strength < k) :
    Behind k (operationKinds rest ++ more) := by
  cases rest with
  | nil => exact h
  | cons p rest =>
      refine ⟨.mark p.1.mark, _, rfl, endsOperand_mark p.1, fun j t hj ht => ?_⟩
      have hweaker := hhead p rfl
      rw [ofKind?_mark ht, if_neg (by omega)]

/-! ## Tiers -/

/-- Operators in front that are stronger, and the others. -/
lemma exists_stronger_run (k : Nat) (rest : List (Operator × Operand)) : ∃ inner outer,
    rest = inner ++ outer ∧ (∀ p ∈ inner, k < p.1.strength) ∧
      ∀ p ∈ outer.head?, p.1.strength ≤ k := by
  let stronger (p : Operator × Operand) : Bool := k < p.1.strength
  refine ⟨rest.takeWhile stronger, rest.dropWhile stronger,
    List.takeWhile_append_dropWhile.symm, fun p hp => ?_, fun p hp => ?_⟩
  · have hstronger : stronger p = true := List.mem_takeWhile_imp hp
    simpa [stronger] using hstronger
  · have hstop := List.head?_dropWhile_not stronger rest
    rw [Option.mem_def.mp hp] at hstop
    simpa [stronger] using hstop

/-- How operators of strength `k` or more are read. -/
def ReadsOperations (rule : Parser Expression) (k : Nat) : Prop :=
  ∀ (first : Operand) (rest : List (Operator × Operand)) (more : List Kind),
    (∀ p ∈ rest, k ≤ p.1.strength) → Behind k more →
    ∃ g : Grouping, g.Of first rest k ∧
      Reads rule rest.length (first.kind :: operationKinds rest) more g.expression

/-- A tier reads the operators of its strength, each with the stronger ones behind it, and groups them to
the left. -/
lemma tierChain_passes (ht : tiers[k]? = some t) {stronger : Parser Expression}
    (hstronger : ReadsOperations stronger (k + 1)) (hmore : Behind k more) :
    ∀ {bound : Nat} {rest done : List (Operator × Operand)} {left : Grouping}, rest.length < bound →
      (∀ p ∈ rest, k ≤ p.1.strength) → (∀ p ∈ rest.head?, p.1.strength = k) → left.Of first done k →
      ∃ g : Grouping, g.Of first (done ++ rest) k ∧
        Passes (tierChain t stronger left.expression bound) rest.length (operationKinds rest) more
          g.expression := by
  intro bound
  induction bound with
  | zero => intro rest done left hbound; omega
  | succ bound ih =>
      intro rest done left hbound hrest hhead hleft
      cases rest with
      | nil =>
          obtain ⟨last, tail, rfl, -, hnone⟩ := hmore
          refine ⟨left, by rwa [List.append_nil], .of_reads ?_⟩
          exact tierChain_reads (hnone k t le_rfl ht) stronger bound
      | cons p others =>
          obtain ⟨op, next⟩ := p
          obtain rfl : op.strength = k := hhead _ rfl
          -- the stronger operators belong to the right part, and the others are still to come
          obtain ⟨inner, outer, rfl, hinner, houter⟩ := exists_stronger_run op.strength others
          obtain ⟨-, hothers⟩ := List.forall_mem_cons.mp hrest
          have hlater (p) (hp : p ∈ outer) := hothers p (List.mem_append_right inner hp)
          have hbehind : Behind (op.strength + 1) (operationKinds outer ++ more) :=
            (hmore.mono (Nat.le_succ _)).operations fun p hp => Nat.lt_succ_of_le (houter p hp)
          obtain ⟨right, hright, hreads⟩ := hstronger next inner _ hinner hbehind
          simp only [List.length_cons, List.length_append] at hbound
          have hfewer : outer.length < bound := by omega
          obtain ⟨g, hg, hpasses⟩ := ih hfewer hlater
            (fun p hp => le_antisymm (houter p hp) (hlater p (List.mem_of_mem_head? hp)))
            (hleft.operation hright)
          have hround : Passes (stronger >>= fun right =>
              tierChain t stronger (op.apply left.expression right) bound) (inner ++ outer).length
              (next.kind :: operationKinds inner ++ operationKinds outer) more g.expression :=
            .behind (hreads.mono (by simp)) (hpasses.mono (by simp))
          have hkinds : operationKinds ((op, next) :: (inner ++ outer)) =
              .mark op.mark :: (next.kind :: operationKinds inner ++ operationKinds outer) := by
            simp [operationKinds]
          refine ⟨g, by simpa using hg, ?_⟩
          rw [hkinds, List.length_cons]
          refine .peek currentKind_reads ?_
          rw [ofKind?_mark ht, if_pos rfl]
          dsimp only
          split
          · exact .step take_reads (.descend hround)
          · exact .descend (.step take_reads hround)

/-- The tiers from some strength on read the operators of that strength and more, by induction on the
tiers. -/
lemma tiered_reads_operations : ∀ {ts : List Tier} {k : Nat}, tiers.drop k = ts →
    ReadsOperations (tiered (operand deeper) ts) k
  | [], k, hts => by
      intro first rest more hrest hmore
      have hk : tiers.length ≤ k := List.drop_eq_nil_iff.mp hts
      obtain rfl : rest = [] := by
        refine List.eq_nil_iff_forall_not_mem.mpr fun p hp => ?_
        have hstrong := hrest p hp
        have hweak := p.1.strength_le
        simp only [tiers, List.length_cons, List.length_nil] at hk
        omega
      obtain ⟨last, tail, rfl, hends, -⟩ := hmore
      exact ⟨.operand first, .operand first k, operand_reads_operand first hends⟩
  | t :: ts, k, hts => by
      intro first rest more hrest hmore
      have ht : tiers[k]? = some t := by rw [← List.head?_drop, hts, List.head?_cons]
      have hstronger : ReadsOperations (tiered (operand deeper) ts) (k + 1) :=
        tiered_reads_operations (by rw [← List.tail_drop, hts, List.tail_cons])
      obtain ⟨inner, outer, rfl, hinner, houter⟩ := exists_stronger_run k rest
      have hlater (p) (hp : p ∈ outer) := hrest p (List.mem_append_right inner hp)
      have hbehind : Behind (k + 1) (operationKinds outer ++ more) :=
        (hmore.mono (Nat.le_succ k)).operations fun p hp => Nat.lt_succ_of_le (houter p hp)
      obtain ⟨left, hleft, hreads⟩ := hstronger first inner _ hinner hbehind
      have hbound : outer.length < (operationKinds outer ++ more).length + 1 := by
        rw [List.length_append, length_operationKinds]
        omega
      obtain ⟨g, hg, hpasses⟩ := tierChain_passes ht hstronger hmore hbound hlater
        (fun p hp => le_antisymm (houter p hp) (hlater p (List.mem_of_mem_head? hp)))
        (hleft.mono (Nat.le_succ k))
      have hkinds : first.kind :: operationKinds (inner ++ outer) =
          (first.kind :: operationKinds inner) ++ operationKinds outer := by simp [operationKinds]
      rw [tiered_cons, hkinds]
      refine ⟨g, hg, Passes.restoring (.behind (hreads.mono (by simp)) ?_)⟩
      exact .peek remaining_reads (hpasses.mono (by simp))

/-! ## Programs -/

/-- Operands with operators between them are a statement. -/
lemma statement_reads_operations (first : Operand) (rest : List (Operator × Operand)) (n : Nat) :
    ∃ g : Grouping, g.Of first rest 0 ∧ Reads (statement (level (n + 1))) (rest.length + 1)
      (first.kind :: operationKinds rest) [.endOfInput] (.expression g.expression) := by
  have hmore : Behind 0 [.endOfInput] := ⟨.endOfInput, [], rfl, rfl, fun j t _ ht => by
    have hmem := List.mem_of_getElem? ht
    fin_cases hmem <;> rfl⟩
  have htiers : ReadsOperations (tiered (operand (level n)) tiers) 0 := tiered_reads_operations rfl
  obtain ⟨g, hg, hreads⟩ := htiers first rest _ (fun _ _ => Nat.zero_le _) hmore
  have hending : Ending [.endOfInput] := ⟨.endOfInput, by decide, [], rfl⟩
  have hexpression : Reads (level (n + 1)).expression (rest.length + 1)
      (first.kind :: operationKinds rest) [.endOfInput] g.expression :=
    .nested (assignment_reads_of_tiered hending hreads)
  refine ⟨g, hg, .peek currentKind_reads ?_⟩
  cases first with
  | number | name => exact .finish hexpression (.peek endStatement_reads (.pure _ _ _))

/-- Up to a hundred operators between numerals and names, each between two spaces, make one expression.
Read in order it is the sequence of the operands and operators.  Stronger operators bind first in it, and
of operators of one strength the left one. -/
theorem parse_operations (first : Operand) (rest : List (Operator × Operand))
    (hlength : rest.length ≤ 100) : ∃ g : Grouping,
      parse (spelled first rest) = .ok [.expression g.expression] ∧
      g.inOrder = (first, rest) ∧ g.Binds := by
  obtain ⟨g, hg, hstatement⟩ := statement_reads_operations first rest 127
  have hfirst : first.kind ≠ .endOfInput := by cases first <;> exact nofun
  have hprogram : Reads program (rest.length + 2) (first.kind :: operationKinds rest) [.endOfInput]
      [.expression g.expression] := program_reads hfirst (.nested hstatement)
  have hroom : rest.length + 2 ≤ maxNesting := by
    rw [maxNesting]
    omega
  exact ⟨g, parse_of_reads (kinds_spelled first rest) hprogram hroom, hg.inOrder, hg.binds⟩

/-- A difference whose second part is a product, compared with a name. -/
theorem parse_operations_difference : ∃ a b c d : Operand,
    a.text = "a" ∧ b.text = "b" ∧ c.text = "2.5e1" ∧ d.text = "$d" ∧ ∃ g : Grouping,
      parse "a - b * 2.5e1 <= $d" = .ok [.expression g.expression] ∧
      g.inOrder = (a, [(.binary .sub, b), (.binary .mul, c), (.binary .lessEqual, d)]) ∧ g.Binds := by
  have hnumeral : ∃ value, IsNumeral "2.5e1" value := ⟨_, _, _, rfl, rfl⟩
  obtain ⟨value, hvalue⟩ := hnumeral
  have ha : IsIdentifier "a" := @isIdentifier_of_lexeme 'a' [] _ (by decide +kernel)
  have hb : IsIdentifier "b" := @isIdentifier_of_lexeme 'b' [] _ (by decide +kernel)
  have hd : IsIdentifier "$d" := @isIdentifier_of_lexeme '$' ['d'] _ (by decide +kernel)
  refine ⟨.name "a" ha (by decide), .name "b" hb (by decide), .number "2.5e1" value hvalue,
    .name "$d" hd (by decide), rfl, rfl, rfl, rfl, ?_⟩
  exact parse_operations (.name "a" ha (by decide)) [(.binary .sub, .name "b" hb (by decide)),
    (.binary .mul, .number "2.5e1" value hvalue), (.binary .lessEqual, .name "$d" hd (by decide))]
    (by simp)

end Parser

end ModuleRunner.Script
