import ModuleRunner.Evaluation.Call
import ModuleRunner.Script.Document

/-!
# Loading modules

A request is answered from the registry if something is there under the very words of the request.
Else a native provider is called; else the id that the request stands for is located, and the source
found there runs as the body of a function of `require`, `module` and `exports`.

The record of a module is there before its body runs, so that modules which require each other see
what the other has exported so far.  A body that fails takes its own record out again.

* `requireFunction` — the `require` of a module.
* `callProvider` — one call of a provider.
* `recordFor`, `loadStep` — the record and the exports that answer a request.
-/

namespace ModuleRunner.Evaluation

open Script ModuleRunner.Module Run

/-! ## The functions of modules -/

/-- The names of a module body's parameters. -/
def moduleParameters : List String := ["require", "module", "exports"]

/-- Makes the `require` of code whose own id is `base`, with its `resolve`. -/
def requireFunction (base : String) : Run Value := do
  let require ← newFunction "require" (.native (.require base))
  let resolve ← newFunction "resolve" (.native (.resolve base))
  let _ ← Run.write require "resolve" resolve
  return require

/-! ## The registry -/

/-- The record under an id; a value of the host becomes one now. -/
def findRecord (id : String) : Run (Option Record) := fun w =>
  let (record, registry, heap) := w.registry.find w.heap id
  .ok record { w with registry, heap }

/-- Changes the registry. -/
def modifyRegistry (change : Registry → Registry) : Run Unit :=
  modify fun w => { w with registry := change w.registry }

/-- Puts a record for a resource under the request it answers. -/
def createRecord (key : String) (resource : Resource) : Run Record := fun w =>
  let (record, registry, heap) := w.registry.create w.heap key resource.id resource.origin
  .ok record { w with registry, heap }

/-- Puts a record for what a provider made. -/
def insertNative (id : String) (value : Value) : Run Record := fun w =>
  let (record, registry, heap) := w.registry.insertNative w.heap id value
  .ok record { w with registry, heap }

/-- Takes the provider of an id out of the registry. -/
def takeProvider (id : String) : Run (Option ProviderRef) := fun w =>
  let (provider, registry) := w.registry.takeProvider id
  .ok provider { w with registry }

/-- The exports of a record, as they are now. -/
def exportsOf (record : Record) : Run Value := readHeap (record.exports ·)

/-! ## Providers -/

/-- Counts a call of a provider; the number of the call, from one, and what the provider does. -/
def countCall (ref : ProviderRef) : Run (Nat × ProviderAct) := fun w =>
  let provider := w.providers.getD ref.index default
  let calls := provider.calls + 1
  .ok (calls, provider.act calls)
    { w with providers := w.providers.modify ref.index ({ · with calls }) }

/-- Sets properties of a value to the values of documents, in order. -/
def setExtras (value : Value) : List (String × Json) → Run Unit
  | [] => return ()
  | (key, document) :: rest => do
    let extra ← withHeap (·.ofJson document)
    let _ ← capture (Run.write value key extra)
    setExtras value rest

/-- What a provider learns of a load: the exports, or the text of the failure. -/
def reported : Except Failure Value → Run (Except String Value)
  | .ok value => return .ok value
  | .error failure => do return .error (← ofOption (← readHeap (failure.message? ·)))

/-- What a provider does: the value it makes, or the text of its failure. -/
def perform (m : Machine) : ProviderAct → Run (Except String Value)
  | .fail reason => return .error reason
  | .give document extras => do
    let value ← withHeap (·.ofJson document)
    setExtras value extras
    return .ok value
  | .hand value => return .ok value
  | .ask id base next => do
    let answer ← reported (← capture (m.load id base))
    perform m (next answer)

/-- One call of a provider. -/
def callProvider (m : Machine) (ref : ProviderRef) : Run (Except String Value) := do
  let (_, act) ← countCall ref
  perform m act

/-- The record that a provider, which is out of the registry meanwhile, makes for a request. -/
def buildNative (m : Machine) (id : String) (ref : ProviderRef) : Run Record := do
  note (.entered id ref)
  match ← callProvider m ref with
  | .ok value =>
    note (.left id ref true)
    insertNative id value
  | .error reason =>
    note (.left id ref false)
    modifyRegistry (·.restoreProvider id ref)
    fail (.load (.native id reason))

/-! ## Resources -/

/-- Asks the locator for an id. -/
def locateResource (id : String) : Run (Option Resource) := do
  note (.located id)
  match (← get).locate id with
  | .ok found => return found
  | .error e => fail (.load e)

/-- Runs the body of a module: a function of the module's own `require`, its module object and its
exports, which are also the receiver. -/
def runBody (m : Machine) (record : Record) (resource : Resource) : Run Unit := do
  let host := (← get).host
  let body ← compileFunction host resource.id moduleParameters resource.content
  let require ← requireFunction resource.id
  let _ ← Run.write require "main" (.object record.module)
  let exports ← exportsOf record
  let _ ← m.call host body exports [require, .object record.module, exports]

/-- Loads the module at a resource under the request it answers. -/
def loadResource (m : Machine) (key : String) (resource : Resource) : Run Record := do
  let record ← createRecord key resource
  note (.started key record)
  match ← capture (runBody m record resource) with
  | .ok () =>
    note (.ended key record true)
    return record
  | .error failure =>
    note (.ended key record false)
    modifyRegistry (·.remove key)
    fail failure

/-! ## Requests -/

/-- The record that answers a request made by code whose own id is `base`. -/
def recordFor (m : Machine) (request base : String) : Run Record := do
  match ← findRecord request with
  | some record => return record
  | none =>
    match ← takeProvider request with
    | some provider => buildNative m request provider
    | none =>
      match ← locateResource (resolve request base) with
      | none => fail (.load (.notFound request))
      | some resource => loadResource m request resource

/-- The end of a request: the exports of its record, as they are now, or its failure, as it came. -/
def conclude (request base : String) : Except Failure Record → Run Value
  | .ok record => do
    note (.answered request base record)
    exportsOf record
  | .error failure => do
    note (.refused request base failure)
    fail failure

/-- The exports that answer a request made by code whose own id is `base`, as they are when it is
answered. -/
def loadStep (m : Machine) (request base : String) : Run Value := do
  if (← get).isClosed then fail (.load .closed)
  note (.requested request base)
  conclude request base (← capture (recordFor m request base))

/-! ## Machines -/

/-- The machine of each level. -/
def machine : Nat → Machine
  | 0 => Machine.spent
  | n + 1 =>
    { patience := n
      evaluate := fun i scope e => evaluateStep (machine n) i scope e
      execute := fun i scope s => executeStep (machine n) i scope s
      call := fun i function receiver arguments =>
        callStep (machine n) i function receiver arguments
      load := fun request base => loadStep (machine n) request base }

end ModuleRunner.Evaluation
