import ModuleRunner.Script.Property
import ModuleRunner.Text.Quoted

/-!
# Values for inspection

A short text that tells what a value is without going into it: an object by its keys, an array by
its length, a function by its name.

* `Heap.inspect` — the text of a value.
* `FunctionCell.inspect` — the text of a function.
-/

namespace ModuleRunner.Script

/-- What a value is. -/
def Heap.inspect (heap : Heap) : Value → String
  | .undefined => "Undefined"
  | .null => "Null"
  | .boolean true => "Boolean(true)"
  | .boolean false => "Boolean(false)"
  | .number x => "Number(" ++ Number.text x ++ ")"
  | .text s => "String(" ++ Text.quoted s ++ ")"
  | .object o =>
    "Object \x7b keys: " ++ Text.quotedList (heap.objectAt o).properties.keys ++ " \x7d"
  | .array a => "Array(len=" ++ toString (heap.arrayAt a).size ++ ")"
  | .function f => "Function(" ++ (heap.functionAt f).name ++ ")"

/-- What a function is: a script function with its name in quotes, a native one with its plain
name. -/
def FunctionCell.inspect (f : FunctionCell) : String :=
  if f.isNative then "NativeFunction(" ++ f.name ++ ")"
  else "Function(" ++ Text.quoted f.name ++ ")"

end ModuleRunner.Script
