import ModuleRunner.Evaluation.World

/-!
# Machines

Evaluation is recursive without a measure: a script may run as long as it likes.  A `Machine` holds
the entry points that evaluation calls for its parts.  Each step of evaluation is an ordinary
function of a machine, and a machine of one level is made of the steps over the machine of the level
below; at the lowest level every entry point is out of breath.

So a property that each step hands on from the machine it is given holds of every level, by one
induction on the level.

* `Completion` — how a statement ends.
* `Machine` — the entry points.
* `Machine.spent` — the machine that has no level left.
-/

namespace ModuleRunner.Evaluation

open Script

/-- How a statement ends. -/
inductive Completion where
  /-- The next statement follows. -/
  | normal
  /-- The function returns a value. -/
  | returned (value : Value)
  /-- The loop around the statement ends. -/
  | broken
  /-- The next round of the loop around the statement follows. -/
  | continued
deriving DecidableEq

/-- The entry points of evaluation. -/
structure Machine where
  /-- How many rounds a loop may have. -/
  patience : Nat
  /-- The value of an expression. -/
  evaluate : InterpreterRef → ScopeRef → Expression → Run Value
  /-- What a statement does. -/
  execute : InterpreterRef → ScopeRef → Statement → Run Completion
  /-- The value of a call: the function, the receiver and the arguments. -/
  call : InterpreterRef → Value → Value → List Value → Run Value
  /-- The exports of the module that a request in code with the id `base` stands for. -/
  load : (request base : String) → Run Value

/-- The machine that has no level left. -/
def Machine.spent : Machine where
  patience := 0
  evaluate := fun _ _ _ => Run.exhausted
  execute := fun _ _ _ => Run.exhausted
  call := fun _ _ _ _ => Run.exhausted
  load := fun _ _ => Run.exhausted

end ModuleRunner.Evaluation
