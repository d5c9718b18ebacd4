import ModuleRunner.Script.Heap

/-!
# Capabilities

A script can reach what its global scope binds and nothing else.  A host therefore decides what a
script may do by the names it grants, in order, before the script starts.

* `Capabilities` — the granted names with their values.
* `console`, `errorConstructors`, `reflections` — what a host may grant.
* `standard` — the console and the constructors of errors.
-/

namespace ModuleRunner.Script

/-- The granted names with their values. -/
abbrev Capabilities := Table Value

namespace Capabilities

/-- Makes a native function. -/
def nativeFunction (heap : Heap) (name : String) (native : Native) : Value × Heap :=
  let (ref, heap) := heap.newFunction ⟨name, .native native, []⟩
  (.function ref, heap)

/-- Makes native functions and puts them into a table, in order. -/
def addNatives (heap : Heap) (table : Table Value) : List (String × Native) → Table Value × Heap
  | [] => (table, heap)
  | (name, native) :: rest =>
    let (value, heap) := nativeFunction heap name native
    addNatives heap (table.put name value) rest

/-- The functions of the console. -/
def consoleFunctions : List (String × Native) :=
  [ConsoleLevel.log, .info, .warn, .error].map fun level => (level.name, .print level)

/-- Makes the console: an object with a function for each way to write. -/
def console (heap : Heap) : Value × Heap :=
  let (functions, heap) := addNatives heap [] consoleFunctions
  let (ref, heap) := heap.newObject ⟨false, functions⟩
  (.object ref, heap)

/-- Grants the constructors of errors. -/
def errorConstructors (heap : Heap) (capabilities : Capabilities) : Capabilities × Heap :=
  addNatives heap capabilities
    (["Error", "TypeError", "RangeError"].map fun name => (name, .makeError name))

/-- What scripts are granted unless a host says otherwise. -/
def standard (heap : Heap) : Capabilities × Heap :=
  let (value, heap) := console heap
  errorConstructors heap (Table.put "console" value [])

/-- Grants the functions that reach the interpreter, each under its own name. -/
def reflections (heap : Heap) (capabilities : Capabilities) (names : List (String × Reflection)) :
    Capabilities × Heap :=
  addNatives heap capabilities (names.map fun (name, function) => (name, .reflection function))

end Capabilities

end ModuleRunner.Script
