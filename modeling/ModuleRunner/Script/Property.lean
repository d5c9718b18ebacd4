import ModuleRunner.Script.Conversion

/-!
# Properties

Objects and functions hold properties by name.  An array has its elements under their indices and
its length under `length`; a text has its characters and its length, and cannot be written.
Writing past the end of an array fills the gap with `undefined`, and no array grows beyond
`maxArrayLength`.

* `arrayIndex?` — the keys that name elements.
* `Heap.get` — reading: the value, or `undefined`.
* `Heap.write` — writing: what becomes of it, and the heap.
* `Heap.keys` — the names that a value holds.
-/

namespace ModuleRunner.Script

/-- The greatest length of an array. -/
def maxArrayLength : Nat := Nat.pow 2 24

/-- The element that a key names: decimal digits without a zero before others, below `2 ^ 64`.  One
plus sign may stand before the digits. -/
def arrayIndex? (key : String) : Option Nat :=
  match key.toList with
  | [] => none
  | '0' :: _ :: _ => none
  | cs =>
    let digits := match cs with
      | '+' :: r => r
      | r => r
    if digits.isEmpty || !digits.all Decimal.isDigit then none
    else
      let n := Decimal.valueOf digits
      if n < Nat.pow 2 64 then some n else none

namespace Heap

/-! ## Reading -/

/-- The property of a function: one that was set, or else its name or its number of parameters. -/
def functionProperty (cell : FunctionCell) (key : String) : Value :=
  match cell.properties.get? key with
  | some v => v
  | none =>
    if key = "name" then .text cell.name
    else if key = "length" then .number (Number.ofNat cell.arity)
    else .undefined

/-- The property of an array. -/
def arrayProperty (items : Array Value) (key : String) : Value :=
  if key = "length" then .number (Number.ofNat items.size)
  else ((arrayIndex? key).bind fun i => items[i]?).getD .undefined

/-- The property of a text: a character, or the length in UTF-16 units. -/
def textProperty (s : String) (key : String) : Value :=
  if key = "length" then .number (Number.ofNat (Text.units16 s.toList))
  else
    match (arrayIndex? key).bind fun i => s.toList[i]? with
    | some c => .text c.toString
    | none => .undefined

/-- The property of a value; what has none answers `undefined`. -/
def get (heap : Heap) (value : Value) (key : String) : Value :=
  match value with
  | .object o => ((heap.objectAt o).properties.get? key).getD .undefined
  | .function f => functionProperty (heap.functionAt f) key
  | .array a => arrayProperty (heap.arrayAt a) key
  | .text s => textProperty s key
  | _ => .undefined

/-- The names that a value holds, in order. -/
def keys (heap : Heap) (value : Value) : List String :=
  match value with
  | .object o => (heap.objectAt o).properties.keys
  | .array a => (List.range (heap.arrayAt a).size).map toString
  | .function f => (heap.functionAt f).properties.keys
  | _ => []

/-! ## Writing -/

/-- What becomes of a write. -/
inductive Write where
  /-- The value is there. -/
  | stored
  /-- The value holds no properties. -/
  | dropped
  /-- An array would grow too long, or its length would be no length. -/
  | invalidLength
deriving DecidableEq, Repr

/-- An array with a given length: cut off, or filled with `undefined`. -/
def resize (items : Array Value) (length : Nat) : Array Value :=
  if length < items.size then items.take length
  else items ++ Array.replicate (length - items.size) .undefined

/-- The length that a number stands for, if it stands for one. -/
def lengthOf? (x : Float) : Option Nat :=
  (Number.toNat? x).filter (· ≤ maxArrayLength)

/-- The elements of an array with one of them replaced, or added behind a gap of `undefined`. -/
def storeAt (items : Array Value) (i : Nat) (value : Value) : Array Value :=
  if i < items.size then items.setIfInBounds i value else (resize items i).push value

/-- Sets the length of an array to the number of a value; no answer where the value has none. -/
def writeLength (heap : Heap) (a : ArrayRef) (value : Value) : Option Write × Heap :=
  match heap.number? value with
  | none => (none, heap)
  | some x =>
    match lengthOf? x with
    | none => (some .invalidLength, heap)
    | some n => (some .stored, heap.modifyArray a (resize · n))

/-- Sets the element of an array under a key.  Under a key that names no element nothing is stored,
and the write still succeeds. -/
def writeElement (heap : Heap) (a : ArrayRef) (key : String) (value : Value) : Write × Heap :=
  match arrayIndex? key with
  | none => (.stored, heap)
  | some i =>
    if i < maxArrayLength || i < (heap.arrayAt a).size then
      (.stored, heap.modifyArray a fun items => storeAt items i value)
    else (.invalidLength, heap)

/-- Writes a property.  There is no answer where the number of the new length has none. -/
def write (heap : Heap) (target : Value) (key : String) (value : Value) : Option Write × Heap :=
  match target with
  | .object o =>
    (some .stored, heap.modifyObject o fun cell =>
      { cell with properties := cell.properties.put key value })
  | .function f =>
    (some .stored, heap.modifyFunction f fun cell =>
      { cell with properties := cell.properties.put key value })
  | .array a =>
    if key = "length" then heap.writeLength a value
    else
      let (outcome, heap) := heap.writeElement a key value
      (some outcome, heap)
  | _ => (some .dropped, heap)

/-- A resized array has the length asked for. -/
@[simp] theorem size_resize (items : Array Value) (length : Nat) :
    (resize items length).size = length := by
  unfold resize
  split
  · rename_i h
    simp only [Array.take_eq_extract, Array.size_extract]
    omega
  · rename_i h
    simp only [Array.size_append, Array.size_replicate]
    omega

end Heap

end ModuleRunner.Script
