import ModuleRunner.Proofs.Lexing.Document
import ModuleRunner.Proofs.Parsing.Reading

/-!
# The trees of documents

In parentheses a document is a program: one statement, the expression that makes the document's value.
The grammar reads each part of a document as it reads any expression, one level of nesting below the
container around it, and a negative number as a minus sign before its digits; so a document needs as
many levels as it nests, and one more for such a sign.

* `Json.expression` — the expression that a document is read as.
* `Json.nesting` — how deeply arrays and objects nest in a document.
* `assignment_reads_document` — the grammar reads a document.
* `parse_compact` — the program that a document in parentheses spells.
-/

namespace ModuleRunner

namespace Json

open Script (Expression)

mutual

/-- The expression that a document is read as. -/
def expression : Json → Expression
  | .null => .null
  | .boolean b => .boolean b
  | .number x =>
    if Number.truncate x < 0 then .unary .minus (.number (Decimal.readDigits x))
    else .number (Decimal.readDigits x)
  | .text s => .text s
  | .array items => .array (itemExpressions items)
  | .object entries => .object (entryExpressions entries)

/-- The expressions that items are read as. -/
def itemExpressions : List Json → List Expression
  | [] => []
  | item :: rest => expression item :: itemExpressions rest

/-- The properties that entries are read as. -/
def entryExpressions : List (String × Json) → List (String × Expression)
  | [] => []
  | (key, item) :: rest => (key, expression item) :: entryExpressions rest

end

lemma itemExpressions_eq (items : List Json) : itemExpressions items = items.map expression := by
  induction items with
  | nil => rfl
  | cons item rest ih => rw [itemExpressions, ih, List.map_cons]

lemma entryExpressions_eq (entries : List (String × Json)) :
    entryExpressions entries = entries.map fun e => (e.1, expression e.2) := by
  induction entries with
  | nil => rfl
  | cons entry rest ih => rw [entryExpressions, ih, List.map_cons]

mutual

/-- How deeply arrays and objects nest in a document. -/
def nesting : Json → Nat
  | .array items => itemNesting items + 1
  | .object entries => entryNesting entries + 1
  | _ => 0

/-- The deepest nesting of items. -/
def itemNesting : List Json → Nat
  | [] => 0
  | item :: rest => max (nesting item) (itemNesting rest)

/-- The deepest nesting of the values of properties. -/
def entryNesting : List (String × Json) → Nat
  | [] => 0
  | (_, item) :: rest => max (nesting item) (entryNesting rest)

end

lemma nesting_le_itemNesting {item : Json} {items : List Json} (h : item ∈ items) :
    item.nesting ≤ itemNesting items := by
  induction h with
  | head rest => exact le_max_left _ _
  | tail other _ ih => exact ih.trans (le_max_right _ _)

lemma nesting_le_entryNesting {entry : String × Json} {entries : List (String × Json)}
    (h : entry ∈ entries) : entry.2.nesting ≤ entryNesting entries := by
  induction h with
  | head rest => exact le_max_left _ _
  | tail other _ ih => exact ih.trans (le_max_right _ _)

end Json

namespace Script

namespace Parser

variable {rest : List Kind} {room : Nat}

/-! ## Documents -/

/-- What a document is spelled with starts as no end of an expression does. -/
lemma leading_kinds (document : Json) : Leading document.kinds := by
  unfold Json.kinds
  split
  case h_4 => split <;> exact ⟨_, by simp [enders, Json.numeral], _, rfl⟩
  all_goals exact ⟨_, by simp [enders], _, rfl⟩

section Containers

variable {deeper : Level}

/-- An array literal is read in its brackets. -/
lemma primary_reads_array {items : List Json} (h : ∀ item ∈ items, ∀ rest, Ending rest →
      Reads deeper.expression room item.kinds rest item.expression) :
    Reads (primary deeper) room (Json.array items).kinds rest (Json.array items).expression := by
  have hliteral : Reads (arrayLiteral deeper) room
      (.mark .leftBracket :: (joined (items.map Json.kinds) ++ [.mark .rightBracket])) rest
      (.array (items.map Json.expression)) :=
    bracketed_reads Expression.array (by decide) (by decide) (fun item _ => leading_kinds item) h
  rw [Json.kinds, Json.expression, Json.itemKinds_eq, Json.itemExpressions_eq]
  exact .peek currentKind_reads hliteral

/-- A property with its value is read behind its key. -/
lemma property_reads {key : String} {ks : List Kind} {e : Expression}
    (h : Reads deeper.expression room ks rest e) :
    Reads (property deeper) room (.text key :: .mark .colon :: ks) rest (key, e) :=
  .step (expectProperty_reads rfl) (.step (accept_reads .colon) (.answer h))

/-- An object literal is read in its braces. -/
lemma primary_reads_object {entries : List (String × Json)} (h : ∀ entry ∈ entries, ∀ rest,
      Ending rest → Reads deeper.expression room entry.2.kinds rest entry.2.expression) :
    Reads (primary deeper) room (Json.object entries).kinds rest
      (Json.object entries).expression := by
  have hliteral : Reads (objectLiteral deeper) room
      (.mark .leftBrace :: (joined (entries.map fun entry =>
        .text entry.1 :: .mark .colon :: entry.2.kinds) ++ [.mark .rightBrace])) rest
      (.object (entries.map fun entry => (entry.1, entry.2.expression))) :=
    bracketed_reads Expression.object (by decide) (by decide)
      (fun entry _ => ⟨.text entry.1, by simp [enders], _, rfl⟩)
      fun entry hmem rest hrest => property_reads (h entry hmem rest hrest)
  rw [Json.kinds, Json.expression, Json.entryKinds_eq, Json.entryExpressions_eq]
  exact .peek currentKind_reads hliteral

end Containers

/-- The grammar reads a document as an expression. -/
theorem assignment_reads_document {document : Json} (h : document.Whole) {n : Nat}
    (hn : document.nesting + 1 ≤ n) (hrest : Ending rest) :
    Reads (assignment (level n)) (document.nesting + 1) document.kinds rest document.expression := by
  induction h generalizing n rest with
  | null =>
      refine assignment_reads hrest (operand_reads_alone hrest rfl rfl rfl ?_)
      exact .peek currentKind_reads (.step take_reads (.pure _ _ _))
  | boolean b =>
      cases b with
      | true =>
          refine assignment_reads hrest (operand_reads_alone hrest rfl rfl rfl ?_)
          exact .peek currentKind_reads (.step take_reads (.pure _ _ _))
      | false =>
          refine assignment_reads hrest (operand_reads_alone hrest rfl rfl rfl ?_)
          exact .peek currentKind_reads (.step take_reads (.pure _ _ _))
  | @number x hwhole hsmall =>
      have hdigits (m : Nat) : Reads (operand (level m)) 0 [Json.numeral x] rest
          (.number (Decimal.readDigits x)) :=
        operand_reads_alone hrest rfl rfl rfl (.peek currentKind_reads (.step take_reads (.pure _ _ _)))
      rw [Json.kinds, Json.expression]
      refine assignment_reads hrest ?_
      split
      · obtain ⟨m, rfl⟩ := Nat.exists_eq_succ_of_ne_zero (by omega : n ≠ 0)
        exact .peek currentKind_reads (.step take_reads (.answer (.nested (hdigits m))))
      · exact (hdigits n).mono (Nat.zero_le _)
  | text s =>
      refine assignment_reads hrest (operand_reads_alone hrest rfl rfl rfl ?_)
      exact .peek currentKind_reads (.step take_reads (.pure _ _ _))
  | @array items _ ih =>
      obtain ⟨m, rfl⟩ := Nat.exists_eq_succ_of_ne_zero (by omega : n ≠ 0)
      refine assignment_reads hrest (operand_reads_alone hrest rfl rfl rfl ?_)
      refine primary_reads_array fun item hmem rest hrest => ?_
      have hdeep := Json.nesting_le_itemNesting hmem
      rw [Json.nesting] at hn ⊢
      exact .mono (.nested (ih item hmem (by omega) hrest)) (by omega)
  | @object entries _ _ ih =>
      obtain ⟨m, rfl⟩ := Nat.exists_eq_succ_of_ne_zero (by omega : n ≠ 0)
      refine assignment_reads hrest (operand_reads_alone hrest rfl rfl rfl ?_)
      refine primary_reads_object fun entry hmem rest hrest => ?_
      have hdeep := Json.nesting_le_entryNesting hmem
      rw [Json.nesting] at hn ⊢
      exact .mono (.nested (ih entry hmem (by omega) hrest)) (by omega)

/-! ## Programs -/

/-- A document in parentheses is a statement. -/
lemma statement_reads_document {document : Json} (h : document.Whole) {n : Nat}
    (hn : document.nesting + 1 ≤ n) :
    Reads (statement (level (n + 2))) (document.nesting + 3)
      (.mark .leftParen :: (document.kinds ++ [.mark .rightParen])) [.endOfInput]
      (.expression document.expression) := by
  have hinner : Reads (level (n + 1)).expression (document.nesting + 2) document.kinds
      ([.mark .rightParen] ++ [.endOfInput]) document.expression :=
    .nested (assignment_reads_document h hn ⟨_, by decide, _, rfl⟩)
  have hprimary : Reads (primary (level (n + 1))) (document.nesting + 2)
      (.mark .leftParen :: (document.kinds ++ [.mark .rightParen])) [.endOfInput]
      document.expression :=
    .peek currentKind_reads (.step take_reads (.bind hinner (.step (expect_reads _) (.pure _ _ _))))
  have hend : Ending [.endOfInput] := ⟨_, by decide, [], rfl⟩
  have houter : Reads (level (n + 2)).expression (document.nesting + 3)
      (.mark .leftParen :: (document.kinds ++ [.mark .rightParen])) [.endOfInput]
      document.expression :=
    .nested (assignment_reads hend (operand_reads_alone hend rfl rfl rfl hprimary))
  exact .peek currentKind_reads (.finish houter (.peek endStatement_reads (.pure _ _ _)))

/-- In parentheses a document is a program, and its value is that of one expression. -/
theorem parse_compact {document : Json} (h : document.Whole)
    (hn : document.nesting + 4 ≤ maxNesting) :
    parse ("(" ++ document.compact ++ ")") = .ok [.expression document.expression] := by
  have hkinds : kinds ("(" ++ document.compact ++ ")").toList =
      .mark .leftParen :: (document.kinds ++ [.mark .rightParen]) ++ [.endOfInput] := by
    have hclose : kinds (document.compact.toList ++ [')']) = document.kinds ++ kinds [')'] :=
      kinds_compact h ⟨')', by decide, [], rfl⟩
    rw [kinds_mark (m := .rightParen) (by decide), kinds_nil] at hclose
    have hopen := kinds_mark (c := '(') (m := .leftParen) (by decide)
      (document.compact.toList ++ [')'])
    rw [hclose] at hopen
    simpa using hopen
  have hnest : document.nesting + 1 ≤ maxNesting - 2 := by omega
  have hstatement : Reads (level (maxNesting + 1)).statement (document.nesting + 4)
      (.mark .leftParen :: (document.kinds ++ [.mark .rightParen])) [.endOfInput]
      (.expression document.expression) := .nested (statement_reads_document h hnest)
  exact parse_of_reads hkinds (program_reads nofun hstatement) hn

end Parser

end Script

end ModuleRunner
