import Mathlib.Tactic
import ModuleRunner.Script.Tree

/-!
# Trees without the places in them

A tree remembers one thing of the text it was read from: where the opening parenthesis of each call
stands.  Trees that are the same but for these places are those that become the same when every call
is given one and the same place.

* `Span.none` — the place that all calls are given.
* `Expression.unplaced`, `Statement.unplaced`, `FunctionLiteral.unplaced` — trees with no other place
  in them.
-/

namespace ModuleRunner.Script

/-- The place of nothing. -/
def Span.none : Span := ⟨0, 0, 0, 0⟩

mutual

/-- An expression without places. -/
def Expression.unplaced : Expression → Expression
  | .array elements => .array (unplacedAll elements)
  | .object properties => .object (unplacedProperties properties)
  | .function literal => .function literal.unplaced
  | .unary op operand => .unary op operand.unplaced
  | .update op before target => .update op before target.unplaced
  | .binary op left right => .binary op left.unplaced right.unplaced
  | .logical op left right => .logical op left.unplaced right.unplaced
  | .conditional test yes no => .conditional test.unplaced yes.unplaced no.unplaced
  | .assign op target value => .assign op target.unplaced value.unplaced
  | .member object name => .member object.unplaced name
  | .index object key => .index object.unplaced key.unplaced
  | .call callee arguments _ => .call callee.unplaced (unplacedAll arguments) Span.none
  | .construct callee arguments => .construct callee.unplaced (unplacedAll arguments)
  | .number value => .number value
  | .text value => .text value
  | .boolean value => .boolean value
  | .null => .null
  | .undefined => .undefined
  | .name name => .name name
  | .receiver => .receiver

/-- Expressions without places. -/
def unplacedAll : List Expression → List Expression
  | [] => []
  | e :: rest => e.unplaced :: unplacedAll rest

/-- The properties of an object literal without places. -/
def unplacedProperties : List (String × Expression) → List (String × Expression)
  | [] => []
  | (key, e) :: rest => (key, e.unplaced) :: unplacedProperties rest

/-- An expression without places, if there is one. -/
def unplacedOption : Option Expression → Option Expression
  | none => none
  | some e => some e.unplaced

/-- A function without places. -/
def FunctionLiteral.unplaced : FunctionLiteral → FunctionLiteral
  | ⟨name, parameters, body⟩ => ⟨name, parameters, unplacedBody body⟩

/-- A statement without places. -/
def Statement.unplaced : Statement → Statement
  | .declaration kind declarators => .declaration kind (unplacedDeclarators declarators)
  | .function literal => .function literal.unplaced
  | .expression e => .expression e.unplaced
  | .block body => .block (unplacedBody body)
  | .conditional test yes no => .conditional test.unplaced yes.unplaced (unplacedStatement no)
  | .whileLoop test body => .whileLoop test.unplaced body.unplaced
  | .forLoop start test update body =>
    .forLoop (unplacedStatement start) (unplacedOption test) (unplacedOption update) body.unplaced
  | .returnValue value => .returnValue (unplacedOption value)
  | .breakLoop => .breakLoop
  | .continueLoop => .continueLoop
  | .throwValue value => .throwValue value.unplaced
  | .attempt block handler finalizer =>
    .attempt (unplacedBody block) (unplacedHandler handler) (unplacedFinalizer finalizer)
  | .empty => .empty

/-- A statement without places, if there is one. -/
def unplacedStatement : Option Statement → Option Statement
  | none => none
  | some s => some s.unplaced

/-- Declarators without places. -/
def unplacedDeclarators : List Declarator → List Declarator
  | [] => []
  | ⟨name, value⟩ :: rest => ⟨name, unplacedOption value⟩ :: unplacedDeclarators rest

/-- A handler without places, if there is one. -/
def unplacedHandler : Option CatchClause → Option CatchClause
  | none => none
  | some ⟨parameter, body⟩ => some ⟨parameter, unplacedBody body⟩

/-- A final block without places, if there is one. -/
def unplacedFinalizer : Option (List Statement) → Option (List Statement)
  | none => none
  | some body => some (unplacedBody body)

/-- Statements without places. -/
def unplacedBody : List Statement → List Statement
  | [] => []
  | s :: rest => s.unplaced :: unplacedBody rest

end

attribute [simp] Expression.unplaced unplacedAll unplacedProperties unplacedOption
  FunctionLiteral.unplaced Statement.unplaced unplacedStatement unplacedDeclarators unplacedHandler
  unplacedFinalizer unplacedBody

/-- A property without places. -/
def unplacedProperty (property : String × Expression) : String × Expression :=
  (property.1, property.2.unplaced)

/-- A declarator without places. -/
def Declarator.unplaced (d : Declarator) : Declarator := ⟨d.name, unplacedOption d.value⟩

lemma unplacedAll_eq (es : List Expression) : unplacedAll es = es.map Expression.unplaced := by
  induction es with
  | nil => rfl
  | cons e rest ih => rw [unplacedAll, ih, List.map_cons]

lemma unplacedProperties_eq (properties : List (String × Expression)) :
    unplacedProperties properties = properties.map unplacedProperty := by
  induction properties with
  | nil => rfl
  | cons property rest ih => rw [unplacedProperties, ih, List.map_cons, unplacedProperty]

lemma unplacedBody_eq (body : List Statement) : unplacedBody body = body.map Statement.unplaced := by
  induction body with
  | nil => rfl
  | cons s rest ih => rw [unplacedBody, ih, List.map_cons]

lemma unplacedDeclarators_eq (declarators : List Declarator) :
    unplacedDeclarators declarators = declarators.map Declarator.unplaced := by
  induction declarators with
  | nil => rfl
  | cons d rest ih =>
      obtain ⟨name, value⟩ := d
      rw [unplacedDeclarators, ih, List.map_cons, Declarator.unplaced]

@[simp] lemma unplacedHandler_isNone (handler : Option CatchClause) :
    (unplacedHandler handler).isNone = handler.isNone := by
  obtain _ | ⟨_, _⟩ := handler <;> rfl

@[simp] lemma unplacedFinalizer_isNone (finalizer : Option (List Statement)) :
    (unplacedFinalizer finalizer).isNone = finalizer.isNone := by
  cases finalizer <;> rfl

/-- Whether an expression may be assigned to has nothing to do with places. -/
lemma Expression.isAssignable_unplaced (e : Expression) : e.unplaced.isAssignable = e.isAssignable := by
  cases e <;> rfl

end ModuleRunner.Script
