import ModuleRunner.Command.Options
import ModuleRunner.Json.Printer
import ModuleRunner.Json.Reader
import ModuleRunner.Session

/-!
# Running a command

A command loads one module, calls a function that it exports with one argument, and prints the
result as JSON.  Its configuration comes in layers: the defaults, the file, the variables of the
environment, the options; definitions add values of the host to those of the file, the last one with
an id counting.

* `Fault` — why a command fails.
* `definition`, `configuration` — the configuration that options and environment make.
* `Report`, `run` — what a run writes, and how it ends.
-/

namespace ModuleRunner.Command

open Evaluation ModuleRunner.Module

/-- Why a command fails. -/
inductive Fault where
  /-- The configuration or the module could not be had. -/
  | load (error : LoadError)
  /-- A definition has no equals sign. -/
  | noEquals (definition : String)
  /-- A definition has no id. -/
  | noId (definition : String)
  /-- What a definition gives an id is no JSON. -/
  | badValue (id : String)
  /-- The argument is no JSON. -/
  | badArgument (text : String)
  /-- The module's code failed. -/
  | failed (message : String)
  /-- The module's code did not end. -/
  | endless
deriving DecidableEq, Repr

/-- The text of a fault. -/
def Fault.message : Fault → String
  | load error => error.message
  | noEquals definition => "expected ID=JSON, got '" ++ definition ++ "'"
  | noId definition => "module id is empty in '" ++ definition ++ "'"
  | badValue id => "value for module '" ++ id ++ "' is not valid JSON"
  | badArgument text => "--args is not valid JSON: " ++ text
  | failed message => message
  | endless => "evaluation does not end"

/-! ## Configuration -/

/-- The configuration of a file. -/
def fileConfiguration (storage : Files.Storage) (path : String) : Except Fault Config :=
  match storage.text path with
  | .error reason => .error (.load (.configuration (path ++ ": " ++ reason)))
  | .ok source =>
    match Config.ofToml? source with
    | some config => .ok config
    | none => .error (.load (.configuration "TOML parse error"))

/-- The id and the document of a definition. -/
def definition (text : String) : Except Fault (String × Json) :=
  match cutAtEquals text.toList with
  | (_, none) => .error (.noEquals text)
  | ([], some _) => .error (.noId text)
  | (id, some value) =>
    match Json.parse? (String.ofList value) with
    | some document => .ok (String.ofList id, document)
    | none => .error (.badValue (String.ofList id))

/-- Adds definitions to a configuration, in order. -/
def define (config : Config) (definitions : List String) : Except Fault Config :=
  definitions.foldlM (fun config text => do
    let (id, document) ← definition text
    return { config with modules := Json.insert id document config.modules }) config

/-- A configuration with what options say instead. -/
def withOptions (config : Config) (options : Options) : Config :=
  { config with
    base := options.base.getD config.base
    entryFunction := options.function.getD config.entryFunction
    console := config.console && !options.noConsole }

/-- The configuration that options and an environment make. -/
def configuration (options : Options) (environment : List (String × String))
    (storage : Files.Storage) : Except Fault Config := do
  let config ← match options.config with
    | some path => fileConfiguration storage path
    | none => pure Config.default
  define (withOptions (config.applyEnvironment environment) options) options.define

/-! ## Runs -/

/-- What a run writes, and how it ends. -/
structure Report where
  /-- What scripts wrote. -/
  console : Console
  /-- The text of the result, or why there is none. -/
  result : Except Fault String
  /-- The paths of files that the run looked at. -/
  paths : List String

namespace Report

/-- What a run writes to the standard output. -/
def out (report : Report) : String :=
  match report.result with
  | .ok text => report.console.out ++ text ++ "\n"
  | .error _ => report.console.out

/-- What a run writes to the standard error. -/
def err (report : Report) : String :=
  match report.result with
  | .ok _ => report.console.err
  | .error fault => report.console.err ++ "Error: " ++ fault.message ++ "\n"

/-- The status of a run: zero if it succeeds. -/
def status (report : Report) : Nat :=
  match report.result with
  | .ok _ => 0
  | .error _ => 1

end Report

/-- The ids that the modules of a world were looked for under. -/
def locatedIds (w : World) : List String :=
  w.history.filterMap fun
    | .located id => some id
    | _ => none

/-- Loads a module in a session of its own and calls the function that the configuration names. -/
def runModule (config : Config) (around : Surroundings) (module : String) (argument : Json) :
    Run Script.Value := do
  let session ← config.start around
  session.runMain module (← Run.withHeap (·.ofJson argument))

/-- A run with a configuration. -/
def runWith (config : Config) (around : Surroundings) (module : String) (argument : Json) :
    Report :=
  let paths (w : World) : List String :=
    match Locator.ofText config.userAgent config.timeout config.base with
    | .ok locator => locator.paths (locatedIds w)
    | .error _ => []
  match runModule config around module argument .empty with
  | .ok value w => ⟨w.console, .ok (w.heap.toJson value).pretty, paths w⟩
  | .error (.failed failure) w =>
    ⟨w.console, .error (((failure.message? w.heap).map .failed).getD .endless), paths w⟩
  | .error .exhausted w => ⟨w.console, .error .endless, paths w⟩

/-- A run as options and an environment ask for. -/
def run (options : Options) (environment : List (String × String)) (around : Surroundings) :
    Report :=
  let paths := options.config.toList
  match configuration options environment around.storage with
  | .error fault => ⟨⟨"", ""⟩, .error fault, paths⟩
  | .ok config =>
    match Json.parse? options.args with
    | none => ⟨⟨"", ""⟩, .error (.badArgument options.args), paths⟩
    | some argument =>
      let report := runWith config around options.module argument
      { report with paths := paths ++ report.paths }

end ModuleRunner.Command
