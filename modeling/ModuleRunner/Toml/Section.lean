import ModuleRunner.Toml.Basic

/-!
# Tables in the making

A TOML document fills its tables bit by bit: by headers, by headers of arrays of tables, and by keys
with dots.  What may still be added to a table depends on how it came to be, so that no table is
defined in two places.

* A header may fill a table that so far only headers of tables inside it implied.
* A key with dots may fill a table that keys with dots made, and pass through one that is implied.
* A value, inline tables among them, is complete.

Main definitions: `Node`, the parts of an unfinished table; `insert?`, `openTable?`, `openElement?`
and `within?`, what a line of a document does; `toToml`, the finished value.
-/

namespace ModuleRunner.Toml

/-- How a table came to be. -/
inductive Origin where
  /-- A header names it. -/
  | header
  /-- A header of a table inside it implies it. -/
  | implied
  /-- A key with dots goes through it. -/
  | dotted
deriving DecidableEq, Repr

/-- A part of an unfinished table. -/
inductive Node where
  /-- A value, which is complete. -/
  | leaf (value : Toml)
  /-- A table. -/
  | table (origin : Origin) (entries : List (String × Node))
  /-- The elements of an array of tables; the last one is the one that headers reach. -/
  | elements (tables : List (List (String × Node)))
deriving Inhabited

/-- The parts of an unfinished table, in order. -/
abbrev Section := List (String × Node)

namespace Section

/-- Changes the part under a key, or makes it at the end. -/
def alter? (key : String) (change : Option Node → Option Node) : Section → Option Section
  | [] => (change none).map fun node => [(key, node)]
  | (k, node) :: rest =>
    if k = key then (change (some node)).map fun node => (k, node) :: rest
    else (alter? key change rest).map ((k, node) :: ·)

/-- Changes the last of several tables. -/
def alterLast? (change : Section → Option Section) : List Section → Option (List Section)
  | [] => none
  | [last] => (change last).map ([·])
  | first :: rest => (alterLast? change rest).map (first :: ·)

/-- Adds a value under a key with dots: `path` goes to the table, `key` is the last part. -/
def insert? : (path : List String) → (key : String) → Toml → Section → Option Section
  | [], key, value, entries =>
    entries.alter? key fun
      | none => some (.leaf value)
      | some _ => none
  | step :: path, key, value, entries =>
    entries.alter? step fun
      | none => (insert? path key value []).map (.table .dotted)
      | some (.table .dotted inner) => (insert? path key value inner).map (.table .dotted)
      | some (.table .implied inner) =>
        if path.isEmpty then none else (insert? path key value inner).map (.table .implied)
      | some (.elements tables) =>
        if path.isEmpty then none
        else (alterLast? (insert? path key value) tables).map .elements
      | some (.table .header _) | some (.leaf _) => none

/-- Changes the table that a header's path leads to; tables on the way are implied. -/
def within? (change : Section → Option Section) : List String → Section → Option Section
  | [], entries => change entries
  | step :: path, entries =>
    entries.alter? step fun
      | none => (within? change path []).map (.table .implied)
      | some (.table origin inner) => (within? change path inner).map (.table origin)
      | some (.elements tables) => (alterLast? (within? change path) tables).map .elements
      | some (.leaf _) => none

/-- Opens a table by its header. -/
def openTable? (key : String) (entries : Section) : Option Section :=
  entries.alter? key fun
    | none => some (.table .header [])
    | some (.table .implied inner) => some (.table .header inner)
    | _ => none

/-- Opens a new element of an array of tables by its header. -/
def openElement? (key : String) (entries : Section) : Option Section :=
  entries.alter? key fun
    | none => some (.elements [[]])
    | some (.elements tables) => some (.elements (tables ++ [[]]))
    | _ => none

mutual

/-- The finished value of a part. -/
def nodeToToml : Node → Toml
  | .leaf value => value
  | .table _ entries => .table (toToml entries)
  | .elements tables => .array (tablesToToml tables)

/-- The finished entries of a table. -/
def toToml : Section → List (String × Toml)
  | [] => []
  | (key, node) :: rest => (key, nodeToToml node) :: toToml rest

/-- The finished elements of an array of tables. -/
def tablesToToml : List Section → List Toml
  | [] => []
  | entries :: rest => .table (toToml entries) :: tablesToToml rest

end

end Section

end ModuleRunner.Toml
