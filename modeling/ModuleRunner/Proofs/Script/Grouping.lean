import Mathlib.Tactic
import ModuleRunner.Proofs.Lexing.Kinds
import ModuleRunner.Script.Tree

/-!
# Operands with operators between them

A numeral or a name is an operand, and operands with operators between them make an expression.  How they
do is a matter of grouping: each operator joins what is grouped to its left and to its right.  Operators
differ in strength, and the grouping that is meant is the one in which nothing to the left of an operator
is held together by a weaker one, and nothing to the right by one that is not stronger.

* `Operator`, `Operand` — the operators with their strengths, and the operands.
* `spelled` — the text of operands with operators between them.
* `Grouping` — the ways to group them; `inOrder`, the sequence that is grouped.
* `Grouping.Binds` — stronger operators bind first, and of operators of one strength the left one.
* `Grouping.Of` — such a grouping of a sequence, no operator in it weaker than some strength.
-/

namespace ModuleRunner.Script

/-! ## Operators -/

/-- An operator between two operands. -/
inductive Operator where
  | logical (op : LogicalOp)
  | binary (op : BinaryOp)
deriving DecidableEq, Repr

namespace Operator

/-- The mark that writes an operator. -/
def mark : Operator → Mark
  | logical .or => .pipePipe
  | logical .and => .ampersandAmpersand
  | binary .equal => .equalEqual
  | binary .notEqual => .notEqual
  | binary .strictEqual => .strictEqual
  | binary .strictNotEqual => .strictNotEqual
  | binary .less => .lessThan
  | binary .lessEqual => .lessThanEqual
  | binary .greater => .greaterThan
  | binary .greaterEqual => .greaterThanEqual
  | binary .add => .plus
  | binary .sub => .minus
  | binary .mul => .star
  | binary .div => .slash
  | binary .mod => .percent

/-- The characters of that mark. -/
def spelling : Operator → String
  | logical .or => "||"
  | logical .and => "&&"
  | binary .equal => "=="
  | binary .notEqual => "!="
  | binary .strictEqual => "==="
  | binary .strictNotEqual => "!=="
  | binary .less => "<"
  | binary .lessEqual => "<="
  | binary .greater => ">"
  | binary .greaterEqual => ">="
  | binary .add => "+"
  | binary .sub => "-"
  | binary .mul => "*"
  | binary .div => "/"
  | binary .mod => "%"

/-- How strongly an operator binds: alternatives weakest, products strongest. -/
def strength : Operator → Nat
  | logical .or => 0
  | logical .and => 1
  | binary .equal | binary .notEqual | binary .strictEqual | binary .strictNotEqual => 2
  | binary .less | binary .lessEqual | binary .greater | binary .greaterEqual => 3
  | binary .add | binary .sub => 4
  | binary .mul | binary .div | binary .mod => 5

/-- The expression that an operator makes of two. -/
def apply : Operator → Expression → Expression → Expression
  | logical op => .logical op
  | binary op => .binary op

lemma strength_le (op : Operator) : op.strength ≤ 5 := by
  obtain op | op := op <;> cases op <;> decide

end Operator

/-! ## Operands -/

/-- A text is a numeral: all of it is one lexeme, and that is a number. -/
def IsNumeral (text : String) (value : Float) : Prop :=
  ∃ c rest, text.toList = c :: rest ∧ lexeme c rest = ⟨.number value, rest.length + 1⟩

/-- A numeral, or a name that is neither reserved nor `undefined`. -/
inductive Operand where
  | number (text : String) (value : Float) (h : IsNumeral text value)
  | name (n : String) (h : IsIdentifier n) (hdefined : n ≠ "undefined")

namespace Operand

/-- The text of an operand. -/
def text : Operand → String
  | number text _ _ => text
  | name n _ _ => n

/-- The kind of the token that an operand is. -/
def kind : Operand → Kind
  | number _ value _ => .number value
  | name n _ _ => .name n

/-- The expression that an operand is. -/
def expression : Operand → Expression
  | number _ value _ => .number value
  | name n _ _ => .name n

end Operand

/-- The text of operands with operators between them, with a space on either side of each operator. -/
def spelled (first : Operand) : List (Operator × Operand) → String
  | [] => first.text
  | (op, next) :: rest => first.text ++ " " ++ op.spelling ++ " " ++ spelled next rest

/-! ## Groupings -/

/-- Operands and operators, grouped. -/
inductive Grouping where
  | operand (x : Operand)
  | operation (op : Operator) (left right : Grouping)

namespace Grouping

/-- The expression that a grouping is. -/
def expression : Grouping → Expression
  | operand x => x.expression
  | operation op left right => op.apply left.expression right.expression

/-- What is grouped, in order: the first operand, and each operator with the operand behind it. -/
def inOrder : Grouping → Operand × List (Operator × Operand)
  | operand x => (x, [])
  | operation op left right =>
    (left.inOrder.1, left.inOrder.2 ++ (op, right.inOrder.1) :: right.inOrder.2)

/-- The operator that holds a grouping together, if it is no operand. -/
def operator? : Grouping → Option Operator
  | operand _ => none
  | operation op _ _ => some op

/-- Each right part that is an operation binds more strongly than the operator it belongs to, and each left
one at least as strongly. -/
def Binds : Grouping → Prop
  | operand _ => True
  | operation op left right => left.Binds ∧ right.Binds ∧
    (∀ o ∈ left.operator?, op.strength ≤ o.strength) ∧
      ∀ o ∈ right.operator?, op.strength < o.strength

/-- A grouping of a sequence in which stronger operators bind first, none held together by an operator
weaker than some strength. -/
structure Of (g : Grouping) (first : Operand) (rest : List (Operator × Operand)) (k : Nat) : Prop where
  inOrder : g.inOrder = (first, rest)
  binds : g.Binds
  strong : ∀ o ∈ g.operator?, k ≤ o.strength

namespace Of

variable {g left right : Grouping} {first next : Operand} {rest others : List (Operator × Operand)}
  {op : Operator} {k : Nat}

lemma operand (x : Operand) (k : Nat) : (Grouping.operand x).Of x [] k := ⟨rfl, trivial, nofun⟩

lemma mono {k' : Nat} (h : g.Of first rest k) (hk : k' ≤ k) : g.Of first rest k' :=
  ⟨h.inOrder, h.binds, fun o ho => hk.trans (h.strong o ho)⟩

/-- An operator joins a sequence and one of stronger operators. -/
lemma operation (hleft : left.Of first rest op.strength) (hright : right.Of next others (op.strength + 1)) :
    (Grouping.operation op left right).Of first (rest ++ (op, next) :: others) op.strength where
  inOrder := by rw [Grouping.inOrder, hleft.inOrder, hright.inOrder]
  binds := ⟨hleft.binds, hright.binds, hleft.strong, hright.strong⟩
  strong := by
    rintro _ ⟨⟩
    exact le_rfl

end Of

end Grouping

end ModuleRunner.Script
