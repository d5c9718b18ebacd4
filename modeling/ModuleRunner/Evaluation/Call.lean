import ModuleRunner.Evaluation.Expression
import ModuleRunner.Evaluation.Method
import ModuleRunner.Evaluation.Statement
import ModuleRunner.Module.Identifier

/-!
# Calling functions

A call counts against the nesting limit of the interpreter that makes it, and the count is what it
was when the call is over, however it ends.  A script function runs its body in a new scope inside
the one it was made in; a native function does what its kind says.

* `evaluateSource` — a source text in the global scope.
* `invokeNative`, `invokeScript` — what the two kinds of function do.
* `callStep` — a call, with its count.
-/

namespace ModuleRunner.Evaluation

open Script Run

section Steps

variable (m : Machine) (i : InterpreterRef)

/-! ## Source texts -/

/-- Executes the statements of a source text; the value of the last expression statement so far is
handed along.  A `return` ends the text with its value, a `break` or `continue` with the value so
far. -/
def runProgram (scope : ScopeRef) (last : Value) : List Statement → Run Value
  | [] => return last
  | .expression e :: rest => do
    let value ← m.evaluate i scope e
    runProgram scope value rest
  | s :: rest => do
    match ← m.execute i scope s with
    | .normal => runProgram scope last rest
    | .returned value => return value
    | .broken | .continued => return last

/-- The program of a source text. -/
def parsed (source : String) : Run (List Statement) :=
  match parse source with
  | .ok body => pure body
  | .error fault => fail (.malformed fault)

/-- The value of a source text in the global scope: that of its last expression statement. -/
def evaluateSource (source : String) : Run Value := do
  let body ← parsed source
  let globals := (← interpreter i).globals
  hoistVariables globals body
  hoistFunctions globals body
  runProgram m i globals .undefined body

/-- Makes a function of a source text, as its body, with the given parameters. -/
def compileFunction (name : String) (parameters : List String) (source : String) : Run Value := do
  let body ← parsed source
  newFunction name (.script ⟨some name, parameters, body⟩ (← interpreter i).globals)

/-! ## Native functions -/

/-- The id that module code asks for, which has to be a text. -/
def requestedId (arguments : List Value) : Run String :=
  match argument arguments 0 with
  | .text id => pure id
  | other => fail (.type
      ("The \"id\" argument must be of type string. Received " ++ other.typeName))

/-- What a function that reaches the interpreter does. -/
def reflect (function : Reflection) (receiver : Value) (arguments : List Value) : Run Value := do
  match function with
  | .fail => fail (.host (← text (argument arguments 0)))
  | .apply => m.call i (argument arguments 0) (argument arguments 1) (arguments.drop 2)
  | .construct => construct m i (argument arguments 0) (arguments.drop 1)
  | .depth => return .number (Number.ofNat (← interpreter i).depth)
  | .global =>
    let name ← text (argument arguments 0)
    let globals := (← interpreter i).globals
    return (← readHeap (·.lookup globals name)).getD .null
  | .evaluate => evaluateSource m i (← text (argument arguments 0))
  | .keys => newArray ((← readHeap (·.keys (argument arguments 0))).map .text)
  | .receiver => return receiver

/-- What a native function does. -/
def invokeNative (native : Native) (receiver : Value) (arguments : List Value) : Run Value := do
  match native with
  | .print level => print level arguments
  | .makeError name => makeError name arguments
  | .arrayMethod method => arrayMethod method receiver arguments
  | .textMethod method => textMethod method receiver arguments
  | .require base => m.load (← requestedId arguments) base
  | .resolve base => return .text (Module.resolve (← requestedId arguments) base)
  | .reflection function => reflect m i function receiver arguments

/-! ## Script functions -/

/-- Binds parameters to arguments in order; a missing argument is `undefined`. -/
def bindParameters (scope : ScopeRef) : List String → List Value → Run Unit
  | [], _ => return ()
  | name :: rest, arguments => do
    declare scope name (argument arguments 0) true
    bindParameters scope rest (arguments.drop 1)

/-- What a script function does: its body runs in a new scope that binds the receiver, the
parameters and what the body declares ahead. -/
def invokeScript (literal : FunctionLiteral) (scope : ScopeRef) (receiver : Value)
    (arguments : List Value) : Run Value := do
  let frame ← newScope scope
  declare frame receiverName receiver false
  bindParameters frame literal.parameters arguments
  hoistVariables frame literal.body
  hoistFunctions frame literal.body
  match ← executeAll m i frame literal.body with
  | .returned value => return value
  | _ => return .undefined

/-! ## Calls -/

/-- What a function does. -/
def invoke (function : FunctionRef) (receiver : Value) (arguments : List Value) : Run Value := do
  match (← readHeap (·.functionAt function)).code with
  | .native native => invokeNative m i native receiver arguments
  | .script literal scope => invokeScript m i literal scope receiver arguments

/-- A call.  A call at the limit of nesting fails before anything of the function runs. -/
def callStep (function receiver : Value) (arguments : List Value) : Run Value := do
  match function with
  | .function ref => nested i (invoke m i ref receiver arguments)
  | _ => fail (.type (function.typeName ++ " is not a function"))

end Steps

end ModuleRunner.Evaluation
