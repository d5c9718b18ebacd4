import ModuleRunner.Evaluation.Machine
import ModuleRunner.Script.Hoisting

/-!
# Executing statements

One step of execution for each form of statement.  Entering a body binds the names declared ahead in
it; a block, a loop and a handler have scopes of their own.

* `hoistVariables`, `hoistFunctions` — the names bound on entry.
* `executeAll`, `executeBlock` — statements one after another.
* `whileRounds`, `forRounds` — the rounds of a loop.
* `executeStep` — what a statement does.
-/

namespace ModuleRunner.Evaluation

open Script Run

/-! ## Names declared ahead -/

/-- Binds names to `undefined` in a scope, those it binds already left alone. -/
def declareMissing (scope : ScopeRef) : List String → Run Unit
  | [] => return ()
  | name :: rest => do
    if (← readHeap (·.ownBinding? scope name)).isNone then
      declare scope name .undefined true
    declareMissing scope rest

/-- Binds the names that a body declares by `var`. -/
def hoistVariables (scope : ScopeRef) (body : List Statement) : Run Unit :=
  declareMissing scope (bodyVarNames body)

/-- Makes and binds functions. -/
def declareFunctions (scope : ScopeRef) : List FunctionLiteral → Run Unit
  | [] => return ()
  | literal :: rest => do
    let name := literal.name.getD ""
    let function ← newFunction name (.script literal scope)
    declare scope name function true
    declareFunctions scope rest

/-- Binds the functions declared directly in a body. -/
def hoistFunctions (scope : ScopeRef) (body : List Statement) : Run Unit :=
  declareFunctions scope (declaredFunctions body)

section Steps

variable (m : Machine) (i : InterpreterRef)

/-! ## Statements in order -/

/-- Executes statements up to the first that does not end normally. -/
def executeAll (scope : ScopeRef) : List Statement → Run Completion
  | [] => return .normal
  | s :: rest => do
    match ← m.execute i scope s with
    | .normal => executeAll scope rest
    | abrupt => return abrupt

/-- Executes a body in a scope of its own. -/
def executeBlock (scope : ScopeRef) (body : List Statement) : Run Completion := do
  let own ← newScope scope
  hoistFunctions own body
  executeAll m i own body

/-! ## Declarations -/

/-- Declares names in order.  A `var` with a value assigns it to the nearest binding; without one it
does nothing, since the name is bound already. -/
def declareAll (scope : ScopeRef) (kind : VariableKind) : List Declarator → Run Unit
  | [] => return ()
  | d :: rest => do
    match kind, d.value with
    | .var, some e => assign scope d.name (← m.evaluate i scope e)
    | .var, none => pure ()
    | kind, some e => declare scope d.name (← m.evaluate i scope e) (kind = .letMutable)
    | kind, none => declare scope d.name .undefined (kind = .letMutable)
    declareAll scope kind rest

/-! ## Loops -/

/-- The rounds of a loop with a test.  The first argument bounds their number. -/
def whileRounds (scope : ScopeRef) (test : Expression) (body : Statement) : Nat → Run Completion
  | 0 => exhausted
  | rounds + 1 => do
    if (← m.evaluate i scope test).truth then
      match ← m.execute i scope body with
      | .broken => return .normal
      | .returned value => return .returned value
      | _ => whileRounds scope test body rounds
    else return .normal

/-- The value of an expression that may be missing. -/
def evaluateOption (scope : ScopeRef) : Option Expression → Run (Option Value)
  | none => return none
  | some e => do return some (← m.evaluate i scope e)

/-- The rounds of a loop with a head of three parts; a missing test is always true. -/
def forRounds (scope : ScopeRef) (test update : Option Expression) (body : Statement) :
    Nat → Run Completion
  | 0 => exhausted
  | rounds + 1 => do
    if ((← evaluateOption m i scope test).map Value.truth).getD true then
      match ← m.execute i scope body with
      | .broken => return .normal
      | .returned value => return .returned value
      | _ =>
        let _ ← evaluateOption m i scope update
        forRounds scope test update body rounds
    else return .normal

/-! ## Failures -/

/-- Executes a handler: the failure's value is bound in a scope of its own. -/
def executeHandler (scope : ScopeRef) (handler : CatchClause) (failure : Failure) :
    Run Completion := do
  let own ← newScope scope
  match handler.parameter with
  | none => pure ()
  | some name =>
    let value ← withHeap fun heap => failure.caught heap
    declare own name value true
  executeBlock m i own handler.body

/-- Executes a block with its handler and its final block.  The final block runs in any case, and
where it does not end normally its end counts. -/
def executeAttempt (scope : ScopeRef) (block : List Statement) (handler : Option CatchClause)
    (finalizer : Option (List Statement)) : Run Completion := do
  let first ← capture (executeBlock m i scope block)
  let outcome ← match first, handler with
    | .error failure, some handler => capture (executeHandler m i scope handler failure)
    | outcome, _ => pure outcome
  match finalizer with
  | none => ofExcept outcome
  | some body =>
    match ← executeBlock m i scope body with
    | .normal => ofExcept outcome
    | abrupt => return abrupt

/-! ## Statements -/

/-- What a statement does. -/
def executeStep (scope : ScopeRef) : Statement → Run Completion
  | .declaration kind declarators => do
    declareAll m i scope kind declarators
    return .normal
  | .function _ => return .normal
  | .expression e => do
    let _ ← m.evaluate i scope e
    return .normal
  | .block body => executeBlock m i scope body
  | .conditional test yes no => do
    if (← m.evaluate i scope test).truth then m.execute i scope yes
    else
      match no with
      | some s => m.execute i scope s
      | none => return .normal
  | .whileLoop test body => whileRounds m i scope test body m.patience
  | .forLoop start test update body => do
    let own ← newScope scope
    match start with
    | none => pure ()
    | some s => let _ ← m.execute i own s
    forRounds m i own test update body m.patience
  | .returnValue value => do
    return .returned ((← evaluateOption m i scope value).getD .undefined)
  | .breakLoop => return .broken
  | .continueLoop => return .continued
  | .throwValue e => do fail (.thrown (← m.evaluate i scope e))
  | .attempt block handler finalizer => executeAttempt m i scope block handler finalizer
  | .empty => return .normal

end Steps

end ModuleRunner.Evaluation
