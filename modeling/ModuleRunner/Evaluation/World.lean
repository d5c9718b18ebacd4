import ModuleRunner.Module.Registry
import ModuleRunner.Script.Failure
import ModuleRunner.Json.Basic

/-!
# The world that scripts run in

Everything a running script can change or be told is in one value: the heap, the console, the
interpreters with the nesting of their calls, and the session's modules with its providers.  What
the session reads modules from is a function, so that evaluation does not depend on files or
networks.

A run is a function from a world to a result and the world it leaves, whether it succeeds or not.

* `Console`, `Interpreter`, `Provider`, `Event`, `World` — the data.
* `Stop`, `Run` — why a run stops early, and the monad.
* `capture` — a run whose failure is a result.
* `nested` — a run that counts as one more call.
-/

namespace ModuleRunner.Evaluation

open Script ModuleRunner.Module

/-! ## The parts of a world -/

/-- What scripts have written. -/
structure Console where
  /-- The standard output. -/
  out : String
  /-- The standard error. -/
  err : String
deriving DecidableEq, Repr

/-- An interpreter, by number. -/
structure InterpreterRef where
  /-- The number. -/
  index : Nat
deriving DecidableEq, Repr

/-- An interpreter: its global scope and the nesting of its calls. -/
structure Interpreter where
  /-- The scope that every function of the interpreter sees. -/
  globals : ScopeRef
  /-- How many calls are in progress. -/
  depth : Nat
  /-- How many may be. -/
  maxDepth : Nat
  /-- The most that ever were. -/
  peak : Nat
deriving DecidableEq, Repr

instance : Inhabited Interpreter := ⟨⟨⟨0⟩, 0, 0, 0⟩⟩

/-- How deeply calls nest unless something else is said. -/
def defaultMaxDepth : Nat := 128

/-- What a native provider does when it is called: it asks for modules, as many as it likes, and then
fails or answers with a value. -/
inductive ProviderAct where
  /-- Fails with a text. -/
  | fail (reason : String)
  /-- Makes the value of a document and sets properties on it, in order. -/
  | give (document : Json) (extras : List (String × Json))
  /-- Answers with a value that is there already. -/
  | hand (value : Value)
  /-- Loads a module for code whose own id is `base`, and goes on with its exports or with the text
  of the failure. -/
  | ask (id base : String) (next : Except String Value → ProviderAct)

/-- Loads a module and answers with its exports, or fails with the text of its failure. -/
def ProviderAct.load (id base : String) : ProviderAct :=
  .ask id base fun
    | .ok value => .hand value
    | .error reason => .fail reason

/-- A native provider: what it does at each of its calls, and how often it was called. -/
structure Provider where
  /-- What it does at its first, second, … call. -/
  act : Nat → ProviderAct
  /-- The calls so far. -/
  calls : Nat

instance : Inhabited Provider := ⟨⟨fun _ => .fail "", 0⟩⟩

/-- What a session does that its answers do not show by themselves. -/
inductive Event where
  /-- The host registers a value or a provider for an id. -/
  | supplied (id : String)
  /-- Code whose own id is `base` asks for a module. -/
  | requested (request base : String)
  /-- A request is answered by the exports of a record. -/
  | answered (request base : String) (record : Record)
  /-- A request fails. -/
  | refused (request base : String) (failure : Failure)
  /-- The locator is asked for an id. -/
  | located (id : String)
  /-- The body of the module under a key starts, with the module object of a record. -/
  | started (key : String) (record : Record)
  /-- The body of the module under a key ends, in success or not. -/
  | ended (key : String) (record : Record) (success : Bool)
  /-- A provider is called for an id. -/
  | entered (id : String) (provider : ProviderRef)
  /-- A provider returns, in success or not. -/
  | left (id : String) (provider : ProviderRef) (success : Bool)
deriving DecidableEq

/-- Everything that a script can change or be told. -/
structure World where
  /-- The cells. -/
  heap : Heap
  /-- What was written. -/
  console : Console
  /-- The interpreters. -/
  interpreters : Array Interpreter
  /-- The session's modules. -/
  registry : Registry
  /-- The session's providers. -/
  providers : Array Provider
  /-- What an id is found at, or why not. -/
  locate : String → Except LoadError (Option Resource)
  /-- The interpreter that module code runs in. -/
  host : InterpreterRef
  /-- Whether the session is over. -/
  isClosed : Bool
  /-- What the session did, last event first. -/
  history : List Event

/-- A world without anything. -/
def World.empty : World where
  heap := .empty
  console := ⟨"", ""⟩
  interpreters := #[]
  registry := .empty
  providers := #[]
  locate := fun _ => .ok none
  host := ⟨0⟩
  isClosed := false
  history := []

instance : Inhabited World := ⟨.empty⟩

/-! ## Runs -/

/-- Why a run stops early. -/
inductive Stop where
  /-- Something failed; a script can handle it. -/
  | failed (failure : Failure)
  /-- The bound on the length of runs is reached, or a value without a text was to be printed.  No
  script can handle it. -/
  | exhausted
deriving DecidableEq

/-- A computation that reads and changes a world. -/
abbrev Run := EStateM Stop World

namespace Run

/-- Stops with a failure. -/
def fail {α : Type} (failure : Failure) : Run α := throw (.failed failure)

/-- Stops for good. -/
def exhausted {α : Type} : Run α := throw .exhausted

/-- The result, or the end of the run where there is none. -/
def ofOption {α : Type} : Option α → Run α
  | some a => pure a
  | none => exhausted

/-- A run whose failure is a result.  The world keeps what was done before the failure. -/
def capture {α : Type} (run : Run α) : Run (Except Failure α) := fun w =>
  match run w with
  | .ok a w => .ok (.ok a) w
  | .error (.failed f) w => .ok (.error f) w
  | .error .exhausted w => .error .exhausted w

/-- The result of a captured run, as a run. -/
def ofExcept {α : Type} : Except Failure α → Run α
  | .ok a => pure a
  | .error f => fail f

/-- Reads the heap. -/
def readHeap {α : Type} (f : Heap → α) : Run α := fun w => .ok (f w.heap) w

/-- Changes the heap.  The world gives it away meanwhile, so that cells change in place. -/
def withHeap {α : Type} (f : Heap → α × Heap) : Run α := fun w =>
  let heap := w.heap
  let w := { w with heap := .empty }
  let (a, heap) := f heap
  .ok a { w with heap := heap }

/-- Adds an event to the history. -/
def note (event : Event) : Run Unit := fun w => .ok () { w with history := event :: w.history }

/-- The text of a value. -/
def text (value : Value) : Run String := do ofOption (← readHeap (·.text? value))

/-- The number of a value. -/
def number (value : Value) : Run Float := do ofOption (← readHeap (·.number? value))

/-- Makes an object. -/
def newObject (cell : ObjectCell) : Run Value :=
  withHeap fun heap =>
    let (ref, heap) := heap.newObject cell
    (.object ref, heap)

/-- Makes an array. -/
def newArray (items : List Value) : Run Value :=
  withHeap fun heap =>
    let (ref, heap) := heap.newArray items.toArray
    (.array ref, heap)

/-- Makes a function. -/
def newFunction (name : String) (code : Code) : Run Value :=
  withHeap fun heap =>
    let (ref, heap) := heap.newFunction ⟨name, code, []⟩
    (.function ref, heap)

/-- Makes a scope inside another one. -/
def newScope (parent : ScopeRef) : Run ScopeRef := withHeap fun heap => heap.newScope (some parent)

/-- Binds a name in a scope. -/
def declare (scope : ScopeRef) (name : String) (value : Value) (isMutable : Bool) : Run Unit :=
  withHeap fun heap => ((), heap.declare scope name value isMutable)

/-- The value of a name, which has to be bound. -/
def lookup (scope : ScopeRef) (name : String) : Run Value := do
  match ← readHeap (·.lookup scope name) with
  | some value => return value
  | none => fail (.reference name)

/-- Assigns a name, which has to be bound and not for good. -/
def assign (scope : ScopeRef) (name : String) (value : Value) : Run Unit := do
  match ← withHeap (·.assign scope name value) with
  | .done => return ()
  | .constant => fail (.type "Assignment to constant variable.")
  | .unbound => fail (.reference name)

/-- Writes a property; whether the value could hold it. -/
def write (target : Value) (key : String) (value : Value) : Run Bool := do
  match ← withHeap (·.write target key value) with
  | none => exhausted
  | some .stored => return true
  | some .dropped => return false
  | some .invalidLength => fail (.range "Invalid array length")

/-! ## Interpreters -/

/-- An interpreter. -/
def interpreter (i : InterpreterRef) : Run Interpreter := fun w =>
  .ok (w.interpreters.getD i.index default) w

/-- Sets the number of calls in progress, and remembers the greatest. -/
def setDepth (i : InterpreterRef) (depth : Nat) : Run Unit := fun w =>
  .ok () { w with
    interpreters := w.interpreters.modify i.index fun state =>
      { state with depth, peak := max state.peak depth } }

/-- Runs with a number of calls in progress, and returns to another one however the run ends. -/
def atDepth {α : Type} (i : InterpreterRef) (inside outside : Nat) (run : Run α) : Run α := fun w =>
  match (do setDepth i inside; run : Run α) w with
  | .ok a w => (do setDepth i outside; return a : Run α) w
  | .error e w => (do setDepth i outside; throw e : Run α) w

/-- Runs as one more call in progress.  At the limit of nesting it fails before anything runs. -/
def nested {α : Type} (i : InterpreterRef) (run : Run α) : Run α := do
  let state ← interpreter i
  if state.maxDepth ≤ state.depth then fail (.range "Maximum call stack size exceeded")
  atDepth i (state.depth + 1) state.depth run

/-- Makes an interpreter whose global scope binds the given names. -/
def newInterpreter (globals : Table Value) (maxDepth : Nat) : Run InterpreterRef := do
  let scope ← withHeap fun heap => heap.newScope none
  for (name, value) in globals do
    declare scope name value true
  fun w =>
    .ok ⟨w.interpreters.size⟩
      { w with interpreters := w.interpreters.push ⟨scope, 0, maxDepth, 0⟩ }

/-! ## Providers -/

/-- Makes a provider. -/
def newProvider (provider : Provider) : Run ProviderRef := fun w =>
  .ok ⟨w.providers.size⟩ { w with providers := w.providers.push provider }

end Run

end ModuleRunner.Evaluation
