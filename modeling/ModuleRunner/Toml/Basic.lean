import ModuleRunner.Json.Basic
import ModuleRunner.Toml.Moment

/-!
# TOML documents

The values that a TOML document holds.  A whole number keeps all its digits, which a double could
not.

* `Toml` — the values.
* `Toml.toJson` — the JSON document for a value: numbers become doubles, moments objects with their
  text.
-/

namespace ModuleRunner

/-- A value of a TOML document. -/
inductive Toml where
  | text (value : String)
  | integer (value : Int)
  | float (value : Float)
  | boolean (value : Bool)
  | moment (value : Toml.Moment)
  | array (items : List Toml)
  | table (entries : List (String × Toml))
deriving Inhabited

namespace Toml

/-- The key under which JSON holds the text of a moment. -/
def momentKey : String := "$__toml_private_datetime"

/-- The double of a whole number. -/
def ofInt (n : Int) : Float :=
  if n < 0 then -(Number.ofNat n.natAbs) else Number.ofNat n.natAbs

mutual

/-- The JSON document for a value. -/
def toJson : Toml → Json
  | text s => .text s
  | integer n => .number (ofInt n)
  | float x => if Number.isFinite x then .number x else .null
  | boolean b => .boolean b
  | moment m => .object [(momentKey, .text m.text)]
  | array items => .array (itemsToJson items)
  | table entries => .object (Json.ofEntries (entriesToJson entries))

/-- The JSON documents for values. -/
def itemsToJson : List Toml → List Json
  | [] => []
  | item :: rest => toJson item :: itemsToJson rest

/-- The JSON documents for the values of a table. -/
def entriesToJson : List (String × Toml) → List (String × Json)
  | [] => []
  | (key, value) :: rest => (key, toJson value) :: entriesToJson rest

end

/-- A value of a table. -/
def get? (entries : List (String × Toml)) (key : String) : Option Toml := entries.lookup key

end Toml

end ModuleRunner
