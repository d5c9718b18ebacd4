import ModuleRunner.Toml.Reader
import ModuleRunner.Text.Casing
import ModuleRunner.Module.LoadError

/-!
# Configuration

What a session is told before it starts.  Settings come in layers, each of which changes what the
layers before it left: the defaults, a TOML file, variables of the environment, and the options of a
command line.

* `Config` — the settings, with their defaults.
* `Config.ofToml?` — the settings of a file; a known setting of a wrong type refuses the file.
* `Config.set?` — one setting by name; `none` if it is unknown or its text is no value for it.
* `Config.applyEnvironment` — the variables whose names start with `MODRUN_`, in order.
-/

namespace ModuleRunner

/-- The settings of a session. -/
structure Config where
  /-- Where modules are read from: a directory or an address. -/
  base : String := "."
  /-- The function that is called unless another is asked for. -/
  entryFunction : String := "main"
  /-- Whether scripts may write to the console. -/
  console : Bool := true
  /-- How many seconds a request over a network may take. -/
  timeout : Nat := 30
  /-- The name given in requests over a network. -/
  userAgent : String := "modrun/0.1.0"
  /-- Values of the host that answer requests, in the order of their ids. -/
  modules : List (String × Json) := []

namespace Config

/-- The settings when nothing is said. -/
def default : Config := {}

instance : Inhabited Config := ⟨default⟩

/-! ## Files -/

/-- What a file says of a setting, or what was there if it says nothing; `none` if the file's value
is not of the setting's type. -/
def setting? {α : Type} (entries : List (String × Toml)) (key : String) (old : α)
    (read : Toml → Option α) : Option α :=
  match Toml.get? entries key with
  | none => some old
  | some value => read value

/-- A text. -/
def text? : Toml → Option String
  | .text s => some s
  | _ => none

/-- A truth value. -/
def boolean? : Toml → Option Bool
  | .boolean b => some b
  | _ => none

/-- A whole number that is not negative. -/
def natural? : Toml → Option Nat
  | .integer n => if 0 ≤ n then some n.toNat else none
  | _ => none

/-- The entries of a table as JSON documents, in the order of their keys. -/
def table? (value : Toml) : Option (List (String × Json)) :=
  match value.toJson with
  | .object entries => some entries
  | _ => none

/-- The settings of a file's entries.  Names that mean nothing do no harm. -/
def ofEntries? (entries : List (String × Toml)) : Option Config := do
  let base ← setting? entries "base" default.base text?
  let entryFunction ← setting? entries "entry_function" default.entryFunction text?
  let console ← setting? entries "console" default.console boolean?
  let timeout ← setting? entries "timeout" default.timeout natural?
  let userAgent ← setting? entries "user_agent" default.userAgent text?
  let modules ← setting? entries "modules" default.modules table?
  return { base, entryFunction, console, timeout, userAgent, modules }

/-- The settings of a file. -/
def ofToml? (source : String) : Option Config := (Toml.parse? source).bind ofEntries?

/-! ## Names and texts -/

/-- A number of seconds: digits behind an optional plus, at most 64 bits. -/
def seconds? (s : String) : Option Nat :=
  let digits := match s.toList with
    | '+' :: rest => rest
    | cs => cs
  let n := Decimal.valueOf digits
  if digits.isEmpty || !digits.all Decimal.isDigit || Nat.pow 2 64 ≤ n then none else some n

/-- Gives a setting a value by their texts.  Only the word `true` grants the console. -/
def set? (config : Config) (key value : String) : Option Config :=
  match key with
  | "base" => some { config with base := value }
  | "entry-function" => some { config with entryFunction := value }
  | "console" => some { config with console := value == "true" }
  | "timeout" => (seconds? value).map fun timeout => { config with timeout }
  | "user-agent" => some { config with userAgent := value }
  | _ => none

/-! ## Environments -/

/-- How the names of variables start. -/
def variableStart : String := "MODRUN_"

/-- What the start of a text leaves of it. -/
def dropStart? : (start : List Char) → List Char → Option (List Char)
  | [], cs => some cs
  | _ :: _, [] => none
  | s :: start, c :: cs => if s = c then dropStart? start cs else none

/-- The name of the setting that a variable stands for: small letters, with dashes for underscores.
-/
def settingName? (name : String) : Option String :=
  (dropStart? variableStart.toList name.toList).map fun rest =>
    String.ofList ((Text.lowercase rest).map fun c => if c = '_' then '-' else c)

/-- What a variable does.  One that stands for no setting, or whose text is no value, does
nothing. -/
def applyVariable (config : Config) (entry : String × String) : Config :=
  match settingName? entry.1 with
  | some key => (config.set? key entry.2).getD config
  | none => config

/-- What the variables of an environment do, in order. -/
def applyEnvironment (config : Config) (environment : List (String × String)) : Config :=
  environment.foldl applyVariable config

end Config

end ModuleRunner
