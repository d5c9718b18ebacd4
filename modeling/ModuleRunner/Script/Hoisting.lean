import ModuleRunner.Script.Tree

/-!
# Names that a body declares ahead

A name declared by `var` anywhere in a body, nested functions left aside, is bound from the start of
the body; a function declared directly in a body is bound when the body is entered.

* `varNames` — the names declared by `var` in statements, in source order.
* `declaredFunctions` — the functions declared directly in statements.
-/

namespace ModuleRunner.Script

mutual

/-- The names that a statement declares by `var`. -/
def Statement.varNames : Statement → List String
  | .declaration .var declarators => declarators.map (·.name)
  | .block body => bodyVarNames body
  | .conditional _ yes no => yes.varNames ++ optionVarNames no
  | .whileLoop _ body => body.varNames
  | .forLoop start _ _ body => optionVarNames start ++ body.varNames
  | .attempt block handler finalizer =>
    bodyVarNames block ++ handlerVarNames handler ++ finalizerVarNames finalizer
  | _ => []

/-- The names that a statement declares by `var`, if there is a statement. -/
def optionVarNames : Option Statement → List String
  | none => []
  | some s => s.varNames

/-- The names that a handler declares by `var`. -/
def handlerVarNames : Option CatchClause → List String
  | none => []
  | some ⟨_, body⟩ => bodyVarNames body

/-- The names that a final block declares by `var`. -/
def finalizerVarNames : Option (List Statement) → List String
  | none => []
  | some body => bodyVarNames body

/-- The names that statements declare by `var`. -/
def bodyVarNames : List Statement → List String
  | [] => []
  | s :: rest => s.varNames ++ bodyVarNames rest

end

/-- The functions declared directly in statements. -/
def declaredFunctions (body : List Statement) : List FunctionLiteral :=
  body.filterMap fun
    | .function literal => some literal
    | _ => none

end ModuleRunner.Script
