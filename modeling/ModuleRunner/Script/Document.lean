import ModuleRunner.Json.Basic
import ModuleRunner.Script.Property

/-!
# Documents and values

A JSON document becomes a value whose objects and arrays are all new.  A value becomes a document by
unfolding it: what has no document (functions and `undefined`) is left out of objects and is `null`
elsewhere, and so is a reference to something that is being unfolded already.

* `Heap.ofJson` — the value of a document.
* `Heap.toJson` — the document of a value.
-/

namespace ModuleRunner.Script.Heap

/-! ## From documents -/

mutual

/-- The value of a document. -/
def ofJson (heap : Heap) : Json → Value × Heap
  | .null => (.null, heap)
  | .boolean b => (.boolean b, heap)
  | .number x => (.number x, heap)
  | .text s => (.text s, heap)
  | .array items =>
    let (values, heap) := ofJsonItems heap items
    let (ref, heap) := heap.newArray values.toArray
    (.array ref, heap)
  | .object entries =>
    let (properties, heap) := ofJsonEntries heap entries
    let (ref, heap) := heap.newObject ⟨false, properties⟩
    (.object ref, heap)

/-- The values of items. -/
def ofJsonItems (heap : Heap) : List Json → List Value × Heap
  | [] => ([], heap)
  | item :: rest =>
    let (value, heap) := ofJson heap item
    let (values, heap) := ofJsonItems heap rest
    (value :: values, heap)

/-- The values of properties. -/
def ofJsonEntries (heap : Heap) : List (String × Json) → Table Value × Heap
  | [] => ([], heap)
  | (key, item) :: rest =>
    let (value, heap) := ofJson heap item
    let (values, heap) := ofJsonEntries heap rest
    ((key, value) :: values, heap)

end

/-! ## To documents -/

/-- The document of a number; there is none for `NaN` and the infinities. -/
def numberToJson (x : Float) : Json :=
  if Number.isFinite x then .number x else .null

/-- The document of a value, if it has one.  `path` holds the references being unfolded; the first
argument bounds how many more can be. -/
def unfold (heap : Heap) : Nat → List Value → Value → Option Json
  | _, _, .undefined | _, _, .function _ => none
  | _, _, .null => some .null
  | _, _, .boolean b => some (.boolean b)
  | _, _, .number x => some (numberToJson x)
  | _, _, .text s => some (.text s)
  | 0, _, .array _ | 0, _, .object _ => some .null
  | bound + 1, path, .array a =>
    if path.contains (.array a) then some .null
    else some (.array ((heap.arrayAt a).toList.map fun item =>
      (unfold heap bound (.array a :: path) item).getD .null))
  | bound + 1, path, .object o =>
    if path.contains (.object o) then some .null
    else some (.object (Json.ofEntries ((heap.objectAt o).properties.filterMap fun e =>
      (unfold heap bound (.object o :: path) e.2).map (e.1, ·))))

/-- The document of a value; a value that has none becomes `null`.  A path holds no reference twice,
so it is no longer than there are objects and arrays. -/
def toJson (heap : Heap) (value : Value) : Json :=
  (heap.unfold (heap.depthBound + 1) [] value).getD .null

end ModuleRunner.Script.Heap
