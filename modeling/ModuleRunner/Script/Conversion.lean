import ModuleRunner.Script.Heap
import ModuleRunner.Text.Units

/-!
# Texts and numbers of values, and equality

Printing a value goes through arrays to their elements and through error objects to their names.  On
a heap with a cycle through those there is no text; so the text of a value is partial, and the
search for it goes no deeper than there are arrays and objects.  The same holds of the number of a
value, which for an array of one element is the number of that element.

* `Heap.text?`, `Heap.number?` — the text and the number of a value.
* `Value.strictEquals` — `===`: primitives by value, references by cell.
* `Heap.looseEquals?` — `==`.
* `Heap.compare?` — the order of two values, if they have one.
-/

namespace ModuleRunner.Script

namespace Heap

/-! ## Texts -/

/-- The text of an error with a given name: the message follows it if it is a text that is not
empty. -/
def errorText (name : String) (message : Value) : String :=
  match message with
  | .text m => if m.isEmpty then name else name ++ ": " ++ m
  | _ => name

/-- The text of a function. -/
def functionText (name : String) : String := "function " ++ name ++ "() \x7b [native code] \x7d"

/-- The text of a value, the search going at most `depth` references deep. -/
def textWithin (heap : Heap) : Nat → Value → Option String
  | _, .undefined => some "undefined"
  | _, .null => some "null"
  | _, .boolean true => some "true"
  | _, .boolean false => some "false"
  | _, .number x => some (Number.text x)
  | _, .text s => some s
  | _, .function f => some (functionText (heap.functionAt f).name)
  | 0, .object o => if (heap.objectAt o).isError then none else some "[object Object]"
  | 0, .array _ => none
  | depth + 1, .object o =>
    let cell := heap.objectAt o
    if cell.isError then
      (textWithin heap depth ((cell.properties.get? "name").getD .undefined)).map fun name =>
        errorText name ((cell.properties.get? "message").getD .undefined)
    else some "[object Object]"
  | depth + 1, .array a =>
    ((heap.arrayAt a).toList.mapM fun (item : Value) =>
      if item.isNullish then some "" else textWithin heap depth item).map
        (String.intercalate ",")

/-- More references than a search without cycle can pass. -/
def depthBound (heap : Heap) : Nat := heap.objects.size + heap.arrays.size + 1

/-- The text of a value. -/
def text? (heap : Heap) (value : Value) : Option String := heap.textWithin heap.depthBound value

/-- The texts of the elements of an array with a separator between them; `undefined` and `null` have
none. -/
def joined? (heap : Heap) (separator : String) (items : List Value) : Option String :=
  (items.mapM fun (item : Value) => if item.isNullish then some "" else heap.text? item).map
    (String.intercalate separator)

/-! ## Numbers -/

/-- The number of a value, the search going at most `depth` arrays deep. -/
def numberWithin (heap : Heap) : Nat → Value → Option Float
  | _, .undefined => some Number.nan
  | _, .null => some 0
  | _, .boolean b => some (if b then 1 else 0)
  | _, .number x => some x
  | _, .text s => some (Number.ofText s)
  | _, .object _ | _, .function _ => some Number.nan
  | depth, .array a =>
    match (heap.arrayAt a).toList with
    | [] => some 0
    | [item] =>
      match depth with
      | 0 => none
      | depth + 1 => numberWithin heap depth item
    | _ => some Number.nan

/-- The number of a value. -/
def number? (heap : Heap) (value : Value) : Option Float :=
  heap.numberWithin heap.depthBound value

end Heap

/-! ## Equality -/

/-- Strict equality: primitives by value, references by cell, and `NaN` unlike itself. -/
def Value.strictEquals : Value → Value → Bool
  | .undefined, .undefined | .null, .null => true
  | .boolean a, .boolean b => a == b
  | .number a, .number b => a == b
  | .text a, .text b => a == b
  | .object a, .object b => a == b
  | .array a, .array b => a == b
  | .function a, .function b => a == b
  | _, _ => false

/-- Whether two values are compared by their numbers if neither is a reference: one is a boolean, or
they are a number and a text. -/
def Value.meetAsNumbers : Value → Value → Bool
  | .boolean _, _ | _, .boolean _ | .number _, .text _ | .text _, .number _ => true
  | _, _ => false

/-- Abstract equality.  `undefined` and `null` equal each other and nothing else; a reference equals
a primitive with its text; other primitives of different types are compared as numbers where one is
a boolean or both could be numerals. -/
def Heap.looseEquals? (heap : Heap) (a b : Value) : Option Bool :=
  if a.isNullish || b.isNullish then some (a.isNullish && b.isNullish)
  else if a.isReference != b.isReference then return (← heap.text? a) == (← heap.text? b)
  else if a.meetAsNumbers b then return (← heap.number? a) == (← heap.number? b)
  else some (a.strictEquals b)

/-! ## Order -/

/-- The order of two numbers; `NaN` has none. -/
def compareNumbers (x y : Float) : Option Ordering :=
  if x < y then some .lt else if x == y then some .eq else if y < x then some .gt else none

/-- The order of two values: of texts by their characters, of anything else by number. -/
def Heap.compare? (heap : Heap) (a b : Value) : Option (Option Ordering) :=
  match a, b with
  | .text s, .text t => some (some (if s < t then .lt else if s = t then .eq else .gt))
  | _, _ => return compareNumbers (← heap.number? a) (← heap.number? b)

end ModuleRunner.Script
