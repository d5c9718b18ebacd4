import ModuleRunner.Script.Tree
import ModuleRunner.Table

/-!
# Values

A value is a primitive or a reference.  Objects, arrays and functions live on the heap, and two
values are the same reference exactly when they name the same cell; so sharing and cycles are in the
data and not in the host.

Functions are of two kinds.  A script function is its literal with the scope it was made in.  A
native function is one of a fixed list: what the language brings along, what the module system
hands to module code, and what a host may grant so that scripts reach the interpreter itself.

* `Value` — the values, with references by cell.
* `Native` — the native functions.
* `ObjectCell`, `FunctionCell`, `ScopeCell` — what the cells of the heap hold.
-/

namespace ModuleRunner.Script

/-! ## References -/

/-- An object's cell. -/
structure ObjectRef where
  /-- The number of the cell. -/
  index : Nat
deriving DecidableEq, Repr, Inhabited

/-- An array's cell. -/
structure ArrayRef where
  /-- The number of the cell. -/
  index : Nat
deriving DecidableEq, Repr

/-- A function's cell. -/
structure FunctionRef where
  /-- The number of the cell. -/
  index : Nat
deriving DecidableEq, Repr

/-- A scope's cell. -/
structure ScopeRef where
  /-- The number of the cell. -/
  index : Nat
deriving DecidableEq, Repr

/-- A value of the script language. -/
inductive Value where
  | undefined
  | null
  | boolean (value : Bool)
  | number (value : Float)
  | text (value : String)
  | object (ref : ObjectRef)
  | array (ref : ArrayRef)
  | function (ref : FunctionRef)
deriving DecidableEq, Inhabited

namespace Value

/-- Whether a value is a reference. -/
def isReference : Value → Bool
  | object _ | array _ | function _ => true
  | _ => false

/-- Whether a value is `undefined` or `null`. -/
def isNullish : Value → Bool
  | undefined | null => true
  | _ => false

/-- Whether a value is a function. -/
def isCallable : Value → Bool
  | function _ => true
  | _ => false

/-- What `typeof` answers. -/
def typeName : Value → String
  | undefined => "undefined"
  | null => "object"
  | boolean _ => "boolean"
  | number _ => "number"
  | text _ => "string"
  | object _ | array _ => "object"
  | function _ => "function"

/-- The truth of a value: `undefined`, `null`, zero, `NaN` and the empty text are false. -/
def truth : Value → Bool
  | undefined | null => false
  | boolean b => b
  | number x => !Number.isNaN x && x != 0
  | text s => !s.isEmpty
  | object _ | array _ | function _ => true

end Value

/-! ## Native functions -/

/-- The four ways to write to the console. -/
inductive ConsoleLevel where
  | log | info | warn | error
deriving DecidableEq, Repr

/-- The name of a console function. -/
def ConsoleLevel.name : ConsoleLevel → String
  | log => "log"
  | info => "info"
  | warn => "warn"
  | error => "error"

/-- The methods of arrays. -/
inductive ArrayMethod where
  | push | join | indexOf
deriving DecidableEq, Repr

/-- The name of an array method. -/
def ArrayMethod.name : ArrayMethod → String
  | push => "push"
  | join => "join"
  | indexOf => "indexOf"

/-- The methods of texts. -/
inductive TextMethod where
  | toUpperCase | toLowerCase | indexOf | slice
deriving DecidableEq, Repr

/-- The name of a text method. -/
def TextMethod.name : TextMethod → String
  | toUpperCase => "toUpperCase"
  | toLowerCase => "toLowerCase"
  | indexOf => "indexOf"
  | slice => "slice"

/-- The functions that let a script reach the interpreter which runs it. -/
inductive Reflection where
  /-- Fails with a text. -/
  | fail
  /-- Calls a function with a receiver and arguments. -/
  | apply
  /-- Constructs with a function. -/
  | construct
  /-- The nesting of calls. -/
  | depth
  /-- The value of a global name. -/
  | global
  /-- Evaluates a source text in the global scope. -/
  | evaluate
  /-- The keys of a value. -/
  | keys
  /-- The receiver of the call itself. -/
  | receiver
deriving DecidableEq, Repr

/-- The native functions. -/
inductive Native where
  /-- Prints its arguments. -/
  | print (level : ConsoleLevel)
  /-- Makes an error object with the given name. -/
  | makeError (name : String)
  | arrayMethod (method : ArrayMethod)
  | textMethod (method : TextMethod)
  /-- Loads a module for code whose own id is `base`. -/
  | require (base : String)
  /-- The id that a request stands for in code whose own id is `base`. -/
  | resolve (base : String)
  | reflection (function : Reflection)
deriving DecidableEq, Repr

/-! ## Cells -/

/-- An object: its properties in insertion order, and whether it was made as an error. -/
structure ObjectCell where
  /-- Errors show their name and message when printed. -/
  isError : Bool
  /-- The properties. -/
  properties : Table Value

/-- What a function does when it is called. -/
inductive Code where
  /-- Runs a body in a new scope inside the scope the function was made in. -/
  | script (literal : FunctionLiteral) (scope : ScopeRef)
  | native (native : Native)

/-- A function. -/
structure FunctionCell where
  /-- The name it was made with, empty if it has none. -/
  name : String
  /-- What it does. -/
  code : Code
  /-- The properties that were set on it. -/
  properties : Table Value

/-- Whether a function is native. -/
def FunctionCell.isNative (f : FunctionCell) : Bool :=
  match f.code with
  | .native _ => true
  | .script .. => false

/-- The number of parameters that a function declares; a native function declares none. -/
def FunctionCell.arity (f : FunctionCell) : Nat :=
  match f.code with
  | .script literal _ => literal.parameters.length
  | .native _ => 0

/-- What a name is bound to. -/
structure Binding where
  /-- The value. -/
  value : Value
  /-- Whether the name may be assigned. -/
  isMutable : Bool

/-- A scope: names with what they are bound to, and the scope around it. -/
structure ScopeCell where
  /-- The bindings. -/
  bindings : Table Binding
  /-- The scope around it. -/
  parent : Option ScopeRef

instance : Inhabited ObjectCell := ⟨⟨false, []⟩⟩
instance : Inhabited FunctionCell := ⟨⟨"", .native (.reflection .fail), []⟩⟩
instance : Inhabited ScopeCell := ⟨⟨[], none⟩⟩

end ModuleRunner.Script
