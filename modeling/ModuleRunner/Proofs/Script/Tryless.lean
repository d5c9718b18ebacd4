import Mathlib.Tactic
import ModuleRunner.Script.Hoisting

/-!
# Code that catches nothing

A program without `try` hands every failure on.  Whether a tree is free of `try` statements, those in
the bodies of its functions included, is decided node by node.

* `Expression.isTryless`, `Statement.isTryless`, `bodyIsTryless` — no `try` anywhere inside.
* `FunctionLiteral.isTryless` — no `try` in a function.
-/

namespace ModuleRunner.Script

mutual

/-- Whether an expression is free of `try` statements. -/
def Expression.isTryless : Expression → Bool
  | .array elements => allTryless elements
  | .object properties => propertiesTryless properties
  | .function literal => literal.isTryless
  | .unary _ operand => operand.isTryless
  | .update _ _ target => target.isTryless
  | .binary _ left right => left.isTryless && right.isTryless
  | .logical _ left right => left.isTryless && right.isTryless
  | .conditional test yes no => test.isTryless && yes.isTryless && no.isTryless
  | .assign _ target value => target.isTryless && value.isTryless
  | .member object _ => object.isTryless
  | .index object key => object.isTryless && key.isTryless
  | .call callee arguments _ => callee.isTryless && allTryless arguments
  | .construct callee arguments => callee.isTryless && allTryless arguments
  | _ => true

/-- Whether all of some expressions are. -/
def allTryless : List Expression → Bool
  | [] => true
  | e :: rest => e.isTryless && allTryless rest

/-- Whether the expressions of an object literal are. -/
def propertiesTryless : List (String × Expression) → Bool
  | [] => true
  | (_, e) :: rest => e.isTryless && propertiesTryless rest

/-- Whether an expression is, if there is one. -/
def optionTryless : Option Expression → Bool
  | none => true
  | some e => e.isTryless

/-- Whether the body of a function is. -/
def FunctionLiteral.isTryless : FunctionLiteral → Bool
  | ⟨_, _, body⟩ => bodyIsTryless body

/-- Whether a statement is. -/
def Statement.isTryless : Statement → Bool
  | .declaration _ declarators => declaratorsTryless declarators
  | .function literal => literal.isTryless
  | .expression e => e.isTryless
  | .block body => bodyIsTryless body
  | .conditional test yes no => test.isTryless && yes.isTryless && statementTryless no
  | .whileLoop test body => test.isTryless && body.isTryless
  | .forLoop start test update body =>
    statementTryless start && optionTryless test && optionTryless update && body.isTryless
  | .returnValue value => optionTryless value
  | .throwValue e => e.isTryless
  | .attempt .. => false
  | .breakLoop => true
  | .continueLoop => true
  | .empty => true

/-- Whether a statement is, if there is one. -/
def statementTryless : Option Statement → Bool
  | none => true
  | some s => s.isTryless

/-- Whether the values of declarators are. -/
def declaratorsTryless : List Declarator → Bool
  | [] => true
  | ⟨_, value⟩ :: rest => optionTryless value && declaratorsTryless rest

/-- Whether all statements of a body are. -/
def bodyIsTryless : List Statement → Bool
  | [] => true
  | s :: rest => s.isTryless && bodyIsTryless rest

end

/-- A function catches nothing if its body does not. -/
lemma FunctionLiteral.isTryless_eq (literal : FunctionLiteral) :
    literal.isTryless = bodyIsTryless literal.body := by
  cases literal
  rfl

/-- The functions declared in a body that catches nothing catch nothing. -/
lemma isTryless_of_mem_declaredFunctions {literal : FunctionLiteral} :
    ∀ {body : List Statement}, bodyIsTryless body = true → literal ∈ declaredFunctions body →
      literal.isTryless = true
  | s :: rest, hbody, hmem => by
      rw [bodyIsTryless, Bool.and_eq_true] at hbody
      have hrest (h : literal ∈ declaredFunctions rest) : literal.isTryless = true :=
        isTryless_of_mem_declaredFunctions hbody.2 h
      cases s with
      | function declared =>
          rcases List.mem_cons.mp hmem with rfl | hmem
          · exact hbody.1
          · exact hrest hmem
      | _ => exact hrest hmem

end ModuleRunner.Script
