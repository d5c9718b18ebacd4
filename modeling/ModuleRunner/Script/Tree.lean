import ModuleRunner.Script.Token

/-!
# Syntax trees

The tree of a program, with one constructor for each form of expression and statement.  Names of
operators say what they compute; `AssignOp.binary?` ties the compound assignments to the operator
they apply.

* `Expression`, `Statement`, `FunctionLiteral`, `Declarator`, `CatchClause` — the trees.
* `isAssignable` — the expressions that may stand left of an assignment.
-/

namespace ModuleRunner.Script

/-! ## Operators -/

/-- Operators before their operand. -/
inductive UnaryOp where
  | not | minus | plus | typeof
deriving DecidableEq, Repr

/-- Operators that change their operand by one. -/
inductive UpdateOp where
  | increment | decrement
deriving DecidableEq, Repr

/-- Operators between two operands that are both evaluated. -/
inductive BinaryOp where
  | add | sub | mul | div | mod
  | equal | notEqual | strictEqual | strictNotEqual
  | less | lessEqual | greater | greaterEqual
deriving DecidableEq, Repr

/-- Operators that may leave their right operand unevaluated. -/
inductive LogicalOp where
  | and | or
deriving DecidableEq, Repr

/-- Plain assignment and the compound ones. -/
inductive AssignOp where
  | assign | add | sub | mul | div
deriving DecidableEq, Repr

/-- The operator that a compound assignment applies to the old value and the new operand. -/
def AssignOp.binary? : AssignOp → Option BinaryOp
  | assign => none
  | add => some .add
  | sub => some .sub
  | mul => some .mul
  | div => some .div

/-- The scope and the mutability that a declaration gives its names. -/
inductive VariableKind where
  /-- Bound in the whole body around it. -/
  | var
  /-- Bound from here on in its block. -/
  | letMutable
  /-- Bound from here on in its block, and never assigned again. -/
  | constant
deriving DecidableEq, Repr

/-! ## Trees -/

mutual

/-- An expression. -/
inductive Expression where
  | number (value : Float)
  | text (value : String)
  | boolean (value : Bool)
  | null
  | undefined
  | name (name : String)
  | receiver
  | array (elements : List Expression)
  /-- An object literal, its properties in source order. -/
  | object (properties : List (String × Expression))
  | function (literal : FunctionLiteral)
  | unary (op : UnaryOp) (operand : Expression)
  /-- An update; `before` tells whether the operator stands before the target, so that the value is
  the new one. -/
  | update (op : UpdateOp) (before : Bool) (target : Expression)
  | binary (op : BinaryOp) (left right : Expression)
  | logical (op : LogicalOp) (left right : Expression)
  | conditional (test yes no : Expression)
  | assign (op : AssignOp) (target value : Expression)
  /-- A property with a fixed name. -/
  | member (object : Expression) (name : String)
  /-- A property whose name is computed. -/
  | index (object key : Expression)
  /-- A call, with the place of its opening parenthesis. -/
  | call (callee : Expression) (arguments : List Expression) (span : Span)
  | construct (callee : Expression) (arguments : List Expression)

/-- A function with its parameters and its body. -/
structure FunctionLiteral where
  /-- The name, if it has one. -/
  name : Option String
  /-- The names of the parameters, in order. -/
  parameters : List String
  /-- The statements of the body. -/
  body : List Statement

/-- A statement. -/
inductive Statement where
  | declaration (kind : VariableKind) (declarators : List Declarator)
  | function (literal : FunctionLiteral)
  | expression (expression : Expression)
  | block (body : List Statement)
  | conditional (test : Expression) (yes : Statement) (no : Option Statement)
  | whileLoop (test : Expression) (body : Statement)
  | forLoop (start : Option Statement) (test update : Option Expression) (body : Statement)
  | returnValue (value : Option Expression)
  | breakLoop
  | continueLoop
  | throwValue (value : Expression)
  | attempt (block : List Statement) (handler : Option CatchClause)
      (finalizer : Option (List Statement))
  | empty

/-- One name of a declaration, with its first value if it has one. -/
structure Declarator where
  /-- The name. -/
  name : String
  /-- The first value. -/
  value : Option Expression

/-- What runs after a failure. -/
structure CatchClause where
  /-- The name that the failure is bound to. -/
  parameter : Option String
  /-- The statements that run. -/
  body : List Statement

end

instance : Inhabited Expression := ⟨.undefined⟩
instance : Inhabited Statement := ⟨.empty⟩
instance : Inhabited FunctionLiteral := ⟨⟨none, [], []⟩⟩

/-- Whether an expression may be assigned to: a name or a property. -/
def Expression.isAssignable : Expression → Bool
  | .name _ | .member .. | .index .. => true
  | _ => false

end ModuleRunner.Script
