import ModuleRunner.Evaluation.Machine
import ModuleRunner.Evaluation.Operator

/-!
# Evaluating expressions

One step of evaluation for each form of expression.  Operands are evaluated from left to right by
the machine that the step is given.

* `member` — reading a property, with the built-in methods of arrays and texts behind it.
* `Target` — what an assignment writes to, its object and key evaluated once.
* `evaluateStep` — the value of an expression.
-/

namespace ModuleRunner.Evaluation

open Script Run

/-- The name that the receiver of a call is bound to.  It is a keyword, so no name of a script is
the same. -/
def receiverName : String := "this"

/-! ## Properties -/

/-- The built-in method of a value under a key. -/
def builtinMethod? (value : Value) (key : String) : Option Native :=
  match value with
  | .array _ =>
    ([.push, .join, .indexOf].find? fun m => ArrayMethod.name m = key).map .arrayMethod
  | .text _ =>
    ([.toUpperCase, .toLowerCase, .indexOf, .slice].find? fun m => TextMethod.name m = key).map
      .textMethod
  | _ => none

/-- Reads a property of a value that is neither `undefined` nor `null`.  Where there is none, a
built-in method of that name is made. -/
def member (object : Value) (key : String) : Run Value := do
  if object.isNullish then
    fail (.type ("Cannot read properties of " ++ (← text object) ++ " (reading '" ++ key ++ "')"))
  let value ← readHeap (·.get object key)
  if value = .undefined then
    match builtinMethod? object key with
    | some method => newFunction key (.native method)
    | none => return value
  else return value

/-- How a function is named when it turns out to be none. -/
def describeCallee : Expression → String
  | .name n => n
  | .receiver => "this"
  | .member object key => describeCallee object ++ "." ++ key
  | .index object _ => describeCallee object ++ "[...]"
  | .call callee _ _ => describeCallee callee ++ "(...)"
  | _ => "expression"

/-! ## Assignment targets -/

/-- What an assignment writes to. -/
inductive Target where
  | name (name : String)
  | property (object : Value) (key : String)

/-- The present value of a target. -/
def Target.read (scope : ScopeRef) : Target → Run Value
  | name n => lookup scope n
  | property object key => member object key

/-- Gives a target a value.  A primitive silently keeps nothing. -/
def Target.write (scope : ScopeRef) (value : Value) : Target → Run Unit
  | name n => assign scope n value
  | property object key => do
    if object.isNullish then
      fail (.type
        ("Cannot set properties of " ++ (← text object) ++ " (setting '" ++ key ++ "')"))
    let _ ← Run.write object key value

section Steps

variable (m : Machine) (i : InterpreterRef) (scope : ScopeRef)

/-- The values of expressions, from left to right. -/
def evaluateAll : List Expression → Run (List Value)
  | [] => return []
  | e :: rest => do
    let value ← m.evaluate i scope e
    return value :: (← evaluateAll rest)

/-- The properties of an object literal, from left to right, added to those made before. -/
def evaluateProperties (done : Table Value) : List (String × Expression) → Run (Table Value)
  | [] => return done
  | (key, e) :: rest => do
    let value ← m.evaluate i scope e
    evaluateProperties (done.put key value) rest

/-- The key of a computed property: the text of its value. -/
def evaluateKey (key : Expression) : Run String := do
  text (← m.evaluate i scope key)

/-- What an assignment to an expression writes to.  A program that was parsed assigns to nothing but
names and properties. -/
def evaluateTarget : Expression → Run Target
  | .name n => return .name n
  | .member object key => do return .property (← m.evaluate i scope object) key
  | .index object key => do
    let object ← m.evaluate i scope object
    return .property object (← evaluateKey m i scope key)
  | _ => fail (.malformed ⟨.badTarget .assignment, 0, 0⟩)

/-- Makes the function of a literal.  A function with a name sees itself under it, in a scope of its
own. -/
def makeClosure (literal : FunctionLiteral) : Run Value := do
  match literal.name with
  | none => newFunction "" (.script literal scope)
  | some name =>
    let own ← newScope scope
    let function ← newFunction name (.script literal own)
    declare own name function false
    return function

/-- The value of a unary operator; `typeof` accepts a name that is not bound. -/
def evaluateUnary (op : UnaryOp) (operand : Expression) : Run Value := do
  match op, operand with
  | .typeof, .name n =>
    let value ← readHeap (·.lookup scope n)
    return .text ((value.map Value.typeName).getD "undefined")
  | _, _ =>
    let value ← m.evaluate i scope operand
    match op with
    | .not => return .boolean !value.truth
    | .minus => return .number (-(← number value))
    | .plus => return .number (← number value)
    | .typeof => return .text value.typeName

/-- The value of an update: the new value if the operator stands before its target, else the old
one. -/
def evaluateUpdate (op : UpdateOp) (before : Bool) (target : Expression) : Run Value := do
  let target ← evaluateTarget m i scope target
  let old ← number (← target.read scope)
  let new := match op with
    | .increment => old + 1
    | .decrement => old - 1
  target.write scope (.number new)
  return .number (if before then new else old)

/-- The value of an assignment.  A compound one reads its target before its operand. -/
def evaluateAssign (op : AssignOp) (target value : Expression) : Run Value := do
  let target ← evaluateTarget m i scope target
  let result ← match op.binary? with
    | none => m.evaluate i scope value
    | some op => do
      let old ← target.read scope
      binary op old (← m.evaluate i scope value)
  target.write scope result
  return result

/-- The function that a call calls, and its receiver: for a property the object it belongs to. -/
def evaluateCallee (callee : Expression) : Run (Value × Value) := do
  match callee with
  | .member object key =>
    let receiver ← m.evaluate i scope object
    return (← member receiver key, receiver)
  | .index object key =>
    let receiver ← m.evaluate i scope object
    let key ← evaluateKey m i scope key
    return (← member receiver key, receiver)
  | callee => return (← m.evaluate i scope callee, .undefined)

/-- The value of a call. -/
def evaluateCall (callee : Expression) (arguments : List Expression) : Run Value := do
  let (function, receiver) ← evaluateCallee m i scope callee
  let values ← evaluateAll m i scope arguments
  if !function.isCallable then
    fail (.type (describeCallee callee ++ " is not a function"))
  m.call i function receiver values

/-- Constructs with a function: a native one is called without receiver; a script one gets a new
object as receiver, which is the result unless the function returns a reference. -/
def construct (function : Value) (arguments : List Value) : Run Value := do
  match function with
  | .function ref =>
    if (← readHeap (·.functionAt ref)).isNative then m.call i function .undefined arguments
    else
      let instance' ← newObject ⟨false, []⟩
      let result ← m.call i function instance' arguments
      return if result.isReference then result else instance'
  | _ => fail (.type (function.typeName ++ " is not a constructor"))

/-- The value of a construction. -/
def evaluateConstruct (callee : Expression) (arguments : List Expression) : Run Value := do
  let function ← m.evaluate i scope callee
  let values ← evaluateAll m i scope arguments
  if !function.isCallable then
    fail (.type (describeCallee callee ++ " is not a constructor"))
  construct m i function values

/-- The value of an expression. -/
def evaluateStep : Expression → Run Value
  | .number x => return .number x
  | .text s => return .text s
  | .boolean b => return .boolean b
  | .null => return .null
  | .undefined => return .undefined
  | .name n => lookup scope n
  | .receiver => do return (← readHeap (·.lookup scope receiverName)).getD .undefined
  | .array elements => do newArray (← evaluateAll m i scope elements)
  | .object properties => do newObject ⟨false, ← evaluateProperties m i scope [] properties⟩
  | .function literal => makeClosure scope literal
  | .unary op operand => evaluateUnary m i scope op operand
  | .update op before target => evaluateUpdate m i scope op before target
  | .binary op left right => do
    let left ← m.evaluate i scope left
    let right ← m.evaluate i scope right
    binary op left right
  | .logical op left right => do
    let value ← m.evaluate i scope left
    let decided := match op with
      | .and => !value.truth
      | .or => value.truth
    if decided then return value else m.evaluate i scope right
  | .conditional test yes no => do
    if (← m.evaluate i scope test).truth then m.evaluate i scope yes
    else m.evaluate i scope no
  | .assign op target value => evaluateAssign m i scope op target value
  | .member object key => do member (← m.evaluate i scope object) key
  | .index object key => do
    let object ← m.evaluate i scope object
    let key ← evaluateKey m i scope key
    member object key
  | .call callee arguments _ => evaluateCall m i scope callee arguments
  | .construct callee arguments => evaluateConstruct m i scope callee arguments

end Steps

end ModuleRunner.Evaluation
