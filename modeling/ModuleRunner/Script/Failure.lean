import ModuleRunner.Script.Parser
import ModuleRunner.Script.Property
import ModuleRunner.Module.LoadError

/-!
# Failures

What stops a script short of its result.  A script can raise any value; the language raises its own
kinds of error; and native functions raise failures of the host, among them the errors of the module
system, which reach the script that required a module and travel on as they came.

* `Failure` — the kinds.
* `Failure.name`, `Failure.detail` — name and message, as a handler sees them.
* `Failure.message?` — the whole text.
* `Failure.caught` — the value that a handler is given.
-/

namespace ModuleRunner.Script

/-- What stops a script. -/
inductive Failure where
  /-- A source text is no program. -/
  | malformed (fault : Fault)
  /-- A value is not of the type that an operation needs. -/
  | type (message : String)
  /-- A name is not bound. -/
  | reference (name : String)
  /-- Calls nest too deeply, or an array would grow too long. -/
  | range (message : String)
  /-- The script raised a value. -/
  | thrown (value : Value)
  /-- A function of the host failed. -/
  | host (message : String)
  /-- A module could not be had. -/
  | load (error : Module.LoadError)
deriving DecidableEq

/-- The text of a fault with its place. -/
def Fault.message (f : Fault) : String :=
  f.cause.message ++ " (" ++ toString f.line ++ ":" ++ toString f.column ++ ")"

namespace Failure

/-- A property of a thrown value, if it is a text. -/
def textProperty? (heap : Heap) (value : Value) (key : String) : Option String :=
  match heap.get value key with
  | .text s => some s
  | _ => none

/-- The name of a failure: that of its kind, or of the thrown value if it has one. -/
def name (heap : Heap) : Failure → String
  | malformed _ => "SyntaxError"
  | type _ => "TypeError"
  | reference _ => "ReferenceError"
  | range _ => "RangeError"
  | host _ | load _ => "Error"
  | thrown value => (textProperty? heap value "name").getD "Error"

/-- The message of a failure that is no thrown value. -/
def ownMessage : Failure → String
  | malformed fault => fault.message
  | type message | range message | host message => message
  | reference name => name ++ " is not defined"
  | load error => error.message
  | thrown _ => ""

/-- The message of a failure without its name; for a thrown value its message, or else its text. -/
def detail? (heap : Heap) : Failure → Option String
  | thrown value =>
    match textProperty? heap value "message" with
    | some message => some message
    | none => heap.text? value
  | failure => some failure.ownMessage

/-- The whole text of a failure. -/
def message? (heap : Heap) : Failure → Option String
  | thrown value => (heap.text? value).map ("Uncaught " ++ ·)
  | malformed fault => some ("SyntaxError: " ++ fault.message)
  | type message => some ("TypeError: " ++ message)
  | reference name => some ("ReferenceError: " ++ name ++ " is not defined")
  | range message => some ("RangeError: " ++ message)
  | host message => some message
  | load error => some error.message

/-- An error object with a name and a message. -/
def errorCell (name message : String) : ObjectCell :=
  ⟨true, [("name", .text name), ("message", .text message)]⟩

/-- The value that a handler is given: the thrown value itself, or a new error object. -/
def caught (heap : Heap) : Failure → Value × Heap
  | thrown value => (value, heap)
  | failure =>
    let (ref, heap) := heap.newObject (errorCell (failure.name heap) failure.ownMessage)
    (.object ref, heap)

end Failure

end ModuleRunner.Script
