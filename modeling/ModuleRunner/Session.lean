import ModuleRunner.Config
import ModuleRunner.Evaluation.Interpreter
import ModuleRunner.Module.Locator

/-!
# Sessions

A session is a world that modules are loaded in: a locator, an interpreter that module code runs in,
and the registry of what was loaded.  It ends when it is closed; the functions that modules left
behind still work then, but none of them can load another module.

* `Setup` — what a session is made from.
* `Setup.start`, `Config.start` — a session, from its parts or as a configuration says.
* `Session.require`, `Session.runEntryPoint`, `Session.runMain` — loading modules and calling what
  they export.
* `Session.register`, `Session.registerNative` — values and providers of the host.
* `Session.isCached`, `Session.cachedIds`, `Session.close` — the rest of a session's life.
-/

namespace ModuleRunner

open Evaluation ModuleRunner.Module Script Run

/-- What sessions read modules from. -/
structure Surroundings where
  /-- The files. -/
  storage : Files.Storage
  /-- The network. -/
  network : Network

/-- A running session. -/
structure Session where
  /-- Where modules are. -/
  locator : Locator
  /-- The function that is called unless another is asked for. -/
  entryFunction : String

/-- What a session is made from. -/
structure Setup where
  /-- Where modules are. -/
  locator : Locator
  /-- The interpreter that module code runs in. -/
  host : InterpreterRef
  /-- The function that is called unless another is asked for. -/
  entryFunction : String

/-- Lets a session find modules in surroundings, which may change while it runs. -/
def Session.surround (session : Session) (around : Surroundings) : Run Unit :=
  modify fun w => { w with locate := session.locator.locate around.storage around.network }

/-- Starts a session.  What the host registered before stays registered. -/
def Setup.start (setup : Setup) (around : Surroundings) : Run Session := do
  let session : Session := ⟨setup.locator, setup.entryFunction⟩
  session.surround around
  modify fun w => { w with host := setup.host, isClosed := false }
  return session

namespace Session

/-! ## Loading and calling -/

/-- The exports of the module that a request without a requesting module stands for. -/
def load (request base : String) : Run Value := loadStep (machine levels) request base

/-- The exports of a module. -/
def require (id : String) : Run Value := load id ""

/-- Loads a module and calls a function that it exports, with the exports as receiver. -/
def runEntryPoint (id function : String) (argument : Value) : Run Value := do
  let exports ← require id
  let entryPoint ← readHeap (·.get exports function)
  if !entryPoint.isCallable then fail (.load (.entryPoint id function))
  Interpreter.call (← get).host entryPoint exports [argument]

/-- Loads a module and calls the function that sessions call unless another is asked for. -/
def runMain (session : Session) (id : String) (argument : Value) : Run Value :=
  runEntryPoint id session.entryFunction argument

/-! ## What the host supplies -/

/-- Registers a value of the host, which answers requests unless the id is cached. -/
def register (id : String) (value : Value) : Run Unit := do
  note (.supplied id)
  modifyRegistry (·.register id value)

/-- Registers the value of a document. -/
def registerDocument (id : String) (document : Json) : Run Unit := do
  register id (← withHeap (·.ofJson document))

/-- Registers the values of documents, in order. -/
def registerDocuments : List (String × Json) → Run Unit
  | [] => return ()
  | (id, document) :: rest => do
    registerDocument id document
    registerDocuments rest

/-- Registers a provider of the host. -/
def registerNative (id : String) (provider : Provider) : Run Unit := do
  let ref ← newProvider provider
  note (.supplied id)
  modifyRegistry (·.registerProvider id ref)

/-! ## The cache -/

/-- Whether a module is cached under an id. -/
def isCached (id : String) : Run Bool := return (← get).registry.records.contains id

/-- The ids of the cached modules, in order. -/
def cachedIds : Run (List String) := return (← get).registry.ids

/-- Removes a module from the cache; whether there was one. -/
def evict (id : String) : Run Bool := do
  let wasCached ← isCached id
  modifyRegistry (·.remove id)
  return wasCached

/-- Ends a session. -/
def close : Run Unit := modify fun w => { w with isClosed := true }

end Session

namespace Config

/-- The capabilities that a configuration grants: the standard ones, without the console if it is
withheld. -/
def capabilities (config : Config) : Run Capabilities := do
  let granted ← withHeap Capabilities.standard
  return if config.console then granted else granted.erase "console"

/-- Starts a session as a configuration says. -/
def start (config : Config) (around : Surroundings) : Run Session := do
  let capabilities ← config.capabilities
  Session.registerDocuments config.modules
  match Locator.ofBase around.storage config.userAgent config.timeout config.base with
  | .error e => fail (.load e)
  | .ok locator =>
    let host ← newInterpreter capabilities defaultMaxDepth
    Setup.start ⟨locator, host, config.entryFunction⟩ around

end Config

end ModuleRunner
