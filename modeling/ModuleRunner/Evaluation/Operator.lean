import ModuleRunner.Evaluation.World

/-!
# Operators

What operators between two values compute.  Addition concatenates where either side is a text or a
reference and adds numbers otherwise; the other arithmetic operators work on numbers only.

* `Run.binary` — the value of an operator on two values.
-/

namespace ModuleRunner.Evaluation

open Script

/-- Whether addition concatenates: a text or a reference. -/
def isStringy : Value → Bool
  | .text _ => true
  | value => value.isReference

namespace Run

/-- The value of an arithmetic operator on the numbers of two values. -/
def arithmetic (op : Float → Float → Float) (left right : Value) : Run Value := do
  let x ← number left
  let y ← number right
  return .number (op x y)

/-- Whether the order of two values, if they have one, is among those asked for. -/
def ordered (test : Ordering → Bool) (left right : Value) : Run Value := do
  let order ← ofOption (← readHeap (·.compare? left right))
  return .boolean (order.any test)

/-- Whether two values are abstractly equal. -/
def looseEquals (left right : Value) : Run Bool := do
  ofOption (← readHeap (·.looseEquals? left right))

/-- The value of an operator on two values. -/
def binary (op : BinaryOp) (left right : Value) : Run Value :=
  match op with
  | .add =>
    if isStringy left || isStringy right then do
      let s ← text left
      let t ← text right
      return .text (s ++ t)
    else arithmetic (· + ·) left right
  | .sub => arithmetic (· - ·) left right
  | .mul => arithmetic (· * ·) left right
  | .div => arithmetic (· / ·) left right
  | .mod => arithmetic Number.remainder left right
  | .equal => do return .boolean (← looseEquals left right)
  | .notEqual => do return .boolean !(← looseEquals left right)
  | .strictEqual => pure (.boolean (left.strictEquals right))
  | .strictNotEqual => pure (.boolean !(left.strictEquals right))
  | .less => ordered (· = .lt) left right
  | .lessEqual => ordered (· ≠ .gt) left right
  | .greater => ordered (· = .gt) left right
  | .greaterEqual => ordered (· ≠ .lt) left right

end Run

end ModuleRunner.Evaluation
