import ModuleRunner.Evaluation.Loading
import ModuleRunner.Script.Capability

/-!
# Interpreters

What a host does with an interpreter: evaluate a source text, call a function, construct with one,
load a module.  Each is a step of evaluation over a machine of so many levels that no run that ends
in practice reaches the lowest.

* `levels` — the number of levels.
* `Interpreter.eval`, `Interpreter.compile`, `Interpreter.call`, `Interpreter.construct` — what a
  host does with an interpreter.
-/

namespace ModuleRunner.Evaluation

open Script Run

/-- The number of levels that evaluation is given. -/
def levels : Nat := Nat.pow 2 60

namespace Interpreter

/-- The value of a source text in the global scope. -/
def eval (i : InterpreterRef) (source : String) : Run Value :=
  evaluateSource (machine levels) i source

/-- Makes a function of a source text. -/
def compile (i : InterpreterRef) (name : String) (parameters : List String) (source : String) :
    Run Value :=
  compileFunction i name parameters source

/-- Calls a function with a receiver and arguments. -/
def call (i : InterpreterRef) (function receiver : Value) (arguments : List Value) : Run Value :=
  callStep (machine levels) i function receiver arguments

/-- Constructs with a function. -/
def construct (i : InterpreterRef) (function : Value) (arguments : List Value) : Run Value :=
  Evaluation.construct (machine levels) i function arguments

/-- An interpreter with the standard capabilities. -/
def standard : Run InterpreterRef := do
  newInterpreter (← withHeap Capabilities.standard) defaultMaxDepth

end Interpreter

end ModuleRunner.Evaluation
