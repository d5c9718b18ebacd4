import ModuleRunner.Script.Value

/-!
# The heap

Objects, arrays, functions and scopes each have a row of cells.  Cells are added at the end and
never removed, so a reference stays valid; reading one that was never made answers an empty cell.

Each operation has its laws beside it: a new cell holds what it was made with and leaves the others
alone, and so does a write.

* `Heap` — the four rows.
* `newObject`, `newArray`, `newFunction`, `newScope` — allocation, each with the new reference.
* `objectAt`, `arrayAt`, `functionAt`, `scopeAt` and `modifyObject`, … — reading and writing.
* `holder?`, `lookup`, `assign`, `declare` — names along a chain of scopes.
-/

namespace ModuleRunner.Script

/-- All cells. -/
structure Heap where
  /-- The objects. -/
  objects : Array ObjectCell
  /-- The arrays. -/
  arrays : Array (Array Value)
  /-- The functions. -/
  functions : Array FunctionCell
  /-- The scopes. -/
  scopes : Array ScopeCell

namespace Heap

/-- The heap without cells. -/
def empty : Heap := ⟨#[], #[], #[], #[]⟩

instance : Inhabited Heap := ⟨empty⟩

/-! ## Allocation -/

/-- Makes an object. -/
def newObject (heap : Heap) (cell : ObjectCell) : ObjectRef × Heap :=
  (⟨heap.objects.size⟩, { heap with objects := heap.objects.push cell })

/-- Makes an array. -/
def newArray (heap : Heap) (items : Array Value) : ArrayRef × Heap :=
  (⟨heap.arrays.size⟩, { heap with arrays := heap.arrays.push items })

/-- Makes a function. -/
def newFunction (heap : Heap) (cell : FunctionCell) : FunctionRef × Heap :=
  (⟨heap.functions.size⟩, { heap with functions := heap.functions.push cell })

/-- Makes a scope without bindings, inside another one if there is one. -/
def newScope (heap : Heap) (parent : Option ScopeRef) : ScopeRef × Heap :=
  (⟨heap.scopes.size⟩, { heap with scopes := heap.scopes.push ⟨[], parent⟩ })

/-! ## Reading and writing -/

/-- The object in a cell. -/
def objectAt (heap : Heap) (ref : ObjectRef) : ObjectCell := heap.objects.getD ref.index default

/-- The elements of an array. -/
def arrayAt (heap : Heap) (ref : ArrayRef) : Array Value := heap.arrays.getD ref.index default

/-- The function in a cell. -/
def functionAt (heap : Heap) (ref : FunctionRef) : FunctionCell :=
  heap.functions.getD ref.index default

/-- The scope in a cell. -/
def scopeAt (heap : Heap) (ref : ScopeRef) : ScopeCell := heap.scopes.getD ref.index default

/-- Changes an object. -/
def modifyObject (heap : Heap) (ref : ObjectRef) (change : ObjectCell → ObjectCell) : Heap :=
  { heap with objects := heap.objects.modify ref.index change }

/-- Changes the elements of an array. -/
def modifyArray (heap : Heap) (ref : ArrayRef) (change : Array Value → Array Value) : Heap :=
  { heap with arrays := heap.arrays.modify ref.index change }

/-- Changes a function. -/
def modifyFunction (heap : Heap) (ref : FunctionRef) (change : FunctionCell → FunctionCell) :
    Heap :=
  { heap with functions := heap.functions.modify ref.index change }

/-- Changes a scope. -/
def modifyScope (heap : Heap) (ref : ScopeRef) (change : ScopeCell → ScopeCell) : Heap :=
  { heap with scopes := heap.scopes.modify ref.index change }

/-! ## Names -/

/-- Binds a name in a scope, instead of what it was bound to there. -/
def declare (heap : Heap) (scope : ScopeRef) (name : String) (value : Value) (isMutable : Bool) :
    Heap :=
  heap.modifyScope scope fun s => { s with bindings := s.bindings.put name ⟨value, isMutable⟩ }

/-- What a scope itself binds a name to. -/
def ownBinding? (heap : Heap) (scope : ScopeRef) (name : String) : Option Binding :=
  (heap.scopeAt scope).bindings.get? name

/-- The nearest scope that binds a name, at most `steps` scopes away. -/
def holderWithin (heap : Heap) (name : String) : Nat → ScopeRef → Option ScopeRef
  | 0, _ => none
  | steps + 1, scope =>
    if (heap.ownBinding? scope name).isSome then some scope
    else
      match (heap.scopeAt scope).parent with
      | none => none
      | some parent => holderWithin heap name steps parent

/-- The nearest scope, from a given one outward, that binds a name.  The scope around a scope is
older, so a chain is no longer than the number of its first cell tells. -/
def holder? (heap : Heap) (scope : ScopeRef) (name : String) : Option ScopeRef :=
  heap.holderWithin name (scope.index + 1) scope

/-- The value of a name. -/
def lookup (heap : Heap) (scope : ScopeRef) (name : String) : Option Value :=
  (heap.holder? scope name).bind fun holder => (heap.ownBinding? holder name).map (·.value)

/-- What an assignment comes to. -/
inductive Assignment where
  /-- The name is bound anew. -/
  | done
  /-- The name is bound for good. -/
  | constant
  /-- The name is not bound. -/
  | unbound
deriving DecidableEq, Repr

/-- Assigns a name where it is bound. -/
def assign (heap : Heap) (scope : ScopeRef) (name : String) (value : Value) : Assignment × Heap :=
  match heap.holder? scope name with
  | none => (.unbound, heap)
  | some holder =>
    match heap.ownBinding? holder name with
    | some ⟨_, true⟩ => (.done, heap.declare holder name value true)
    | _ => (.constant, heap)

/-! ## Laws -/

/-- A new object holds what it was made with. -/
@[simp] theorem objectAt_newObject_self (heap : Heap) (cell : ObjectCell) :
    (heap.newObject cell).2.objectAt (heap.newObject cell).1 = cell := by
  simp [newObject, objectAt]

/-- A new array holds what it was made with. -/
@[simp] theorem arrayAt_newArray_self (heap : Heap) (items : Array Value) :
    (heap.newArray items).2.arrayAt (heap.newArray items).1 = items := by
  simp [newArray, arrayAt]

/-- A new function holds what it was made with. -/
@[simp] theorem functionAt_newFunction_self (heap : Heap) (cell : FunctionCell) :
    (heap.newFunction cell).2.functionAt (heap.newFunction cell).1 = cell := by
  simp [newFunction, functionAt]

/-- A new object leaves the others alone. -/
theorem objectAt_newObject_of_lt (heap : Heap) (cell : ObjectCell) {ref : ObjectRef}
    (h : ref.index < heap.objects.size) :
    (heap.newObject cell).2.objectAt ref = heap.objectAt ref := by
  have h' : ref.index ≠ heap.objects.size := by omega
  simp [newObject, objectAt, Array.getD_eq_getD_getElem?, Array.getElem?_push, h']

/-- Changing an object changes no other. -/
theorem objectAt_modifyObject_of_ne (heap : Heap) {ref other : ObjectRef}
    (change : ObjectCell → ObjectCell) (h : other ≠ ref) :
    (heap.modifyObject ref change).objectAt other = heap.objectAt other := by
  have h' : ref.index ≠ other.index := fun e => h (by cases other; cases ref; simp_all)
  simp [modifyObject, objectAt, Array.getD_eq_getD_getElem?, Array.getElem?_modify, h']

end Heap

end ModuleRunner.Script
