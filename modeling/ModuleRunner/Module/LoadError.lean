import ModuleRunner.Text.Utf8

/-!
# Errors of the module system

Why a module could not be had, or why a session could not start.  Errors that module code itself
raises are not among them; they pass through the module system as they are.

* `LoadError` — the causes.
* `LoadError.message` — their texts.
-/

namespace ModuleRunner.Module

/-- Why a module could not be had. -/
inductive LoadError where
  /-- No resource has the id. -/
  | notFound (id : String)
  /-- A resource could not be fetched from its address. -/
  | fetch (id url reason : String)
  /-- A resource is no text. -/
  | undecodable (id : String) (fault : Text.Utf8.Fault)
  /-- An id makes no address. -/
  | malformedId (id reason : String)
  /-- The base of a session is no place that modules are read from. -/
  | invalidBase (reason : String)
  /-- A native provider failed. -/
  | native (id reason : String)
  /-- A module has no function of the name to be called. -/
  | entryPoint (module function : String)
  /-- The session is over. -/
  | closed
  /-- A configuration is no configuration. -/
  | configuration (reason : String)
deriving DecidableEq, Repr

/-- The text of an error. -/
def LoadError.message : LoadError → String
  | notFound id => "Cannot find module '" ++ id ++ "'"
  | fetch id url reason => "Failed to fetch module '" ++ id ++ "' from " ++ url ++ ": " ++ reason
  | undecodable id fault => "Module '" ++ id ++ "' is not valid UTF-8: " ++ fault.message
  | malformedId id reason => "Invalid module id '" ++ id ++ "': " ++ reason
  | invalidBase reason => "Invalid base location: " ++ reason
  | native id reason => "Native module '" ++ id ++ "' failed: " ++ reason
  | entryPoint module function =>
    "Module '" ++ module ++ "' does not export a function named '" ++ function ++ "'"
  | closed => "Module session has been closed"
  | configuration reason => "Invalid configuration: " ++ reason

end ModuleRunner.Module
