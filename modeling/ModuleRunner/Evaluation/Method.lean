import ModuleRunner.Evaluation.World
import ModuleRunner.Text.Casing

/-!
# The built-in functions

The methods of arrays and texts, the constructors of errors and the console.  None of them calls
back into a script, so they need no machine.

Places in a text count characters; the arguments of `slice` are cut off towards zero, count from the
end if negative, and stay within the text.

* `Run.arrayMethod`, `Run.textMethod` — the methods.
* `clampIndex`, `slice` — the places that `slice` cuts at, and the cut.
* `Run.makeError` — the constructors of errors.
* `Run.print` — the console.
-/

namespace ModuleRunner.Evaluation

open Script

/-- An argument; a missing one is `undefined`. -/
def argument (arguments : List Value) (n : Nat) : Value := arguments.getD n .undefined

/-! ## Texts -/

/-- The place in a text of `length` characters that a number stands for. -/
def clampIndex (length : Nat) (x : Float) : Nat :=
  if Number.isNaN x then 0
  else if !Number.isFinite x then if Number.isNegative x then 0 else length
  else
    let n := Number.truncate x
    if n < 0 then (length + n).toNat else min n.toNat length

/-- The characters from one place up to another. -/
def slice (cs : List Char) (start stop : Nat) : List Char := (cs.drop start).take (stop - start)

namespace Run

/-- The place that an argument of `slice` stands for; a missing one has a default. -/
def sliceIndex (length default : Nat) (value : Value) : Run Nat := do
  match value with
  | .undefined => return default
  | value => return clampIndex length (← number value)

/-- What a text method answers. -/
def textMethod (method : TextMethod) (receiver : Value) (arguments : List Value) : Run Value := do
  match receiver with
  | .text s =>
    match method with
    | .toUpperCase => return .text (String.ofList (Text.uppercase s.toList))
    | .toLowerCase => return .text (String.ofList (Text.lowercase s.toList))
    | .indexOf =>
      let needle ← match arguments with
        | [] => pure ""
        | value :: _ => text value
      match Text.find? needle.toList s.toList with
      | some k => return .number (Number.ofNat k)
      | none => return .number (-1)
    | .slice =>
      let cs := s.toList
      let start ← sliceIndex cs.length 0 (argument arguments 0)
      let stop ← sliceIndex cs.length cs.length (argument arguments 1)
      return .text (String.ofList (slice cs start stop))
  | _ => fail (.type (method.name ++ " called on non-string"))

/-! ## Arrays -/

/-- Adds elements at the end of an array, all or none of them. -/
def push (ref : ArrayRef) (values : List Value) : Run Value := do
  let size ← readHeap fun heap => (heap.arrayAt ref).size
  let total := size + values.length
  if maxArrayLength < total then fail (.range "Invalid array length")
  withHeap fun heap => ((), heap.modifyArray ref fun items => items ++ values.toArray)
  return .number (Number.ofNat total)

/-- What an array method answers. -/
def arrayMethod (method : ArrayMethod) (receiver : Value) (arguments : List Value) :
    Run Value := do
  match receiver with
  | .array ref =>
    match method with
    | .push => push ref arguments
    | .join =>
      let separator ← match argument arguments 0 with
        | .undefined => pure ","
        | value => text value
      return .text (← ofOption (← readHeap fun heap =>
        heap.joined? separator (heap.arrayAt ref).toList))
    | .indexOf =>
      let items ← readHeap (·.arrayAt ref)
      match items.toList.findIdx? fun item => item.strictEquals (argument arguments 0) with
      | some k => return .number (Number.ofNat k)
      | none => return .number (-1)
  | _ => fail (.type (method.name ++ " called on non-array"))

/-! ## Errors and the console -/

/-- Makes an error object; without an argument its message is empty. -/
def makeError (name : String) (arguments : List Value) : Run Value := do
  let message ← match argument arguments 0 with
    | .undefined => pure ""
    | value => text value
  newObject (Failure.errorCell name message)

/-- The texts of values, in order. -/
def texts : List Value → Run (List String)
  | [] => return []
  | value :: rest => do
    let s ← text value
    return s :: (← texts rest)

/-- Writes the texts of values on one line. -/
def print (level : ConsoleLevel) (arguments : List Value) : Run Value := do
  let line := String.intercalate " " (← texts arguments) ++ "\n"
  modify fun w =>
    match level with
    | .log | .info => { w with console := { w.console with out := w.console.out ++ line } }
    | .warn =>
      { w with console := { w.console with err := w.console.err ++ "Warning: " ++ line } }
    | .error => { w with console := { w.console with err := w.console.err ++ line } }
  return .undefined

end Run

end ModuleRunner.Evaluation
