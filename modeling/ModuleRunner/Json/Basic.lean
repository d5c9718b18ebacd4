import ModuleRunner.Number.Basic

/-!
# JSON documents

A document is a tree.  The properties of an object stand in the order of their keys, by code point,
and no key stands twice: `Json.insert` keeps both, and everything that makes an object goes through
it.

* `Json` — the trees.
* `Json.insert`, `Json.ofEntries` — objects in key order; a repeated key keeps its last value.
* `Json.get?` — a property of an object.
-/

namespace ModuleRunner

/-- A JSON document. -/
inductive Json where
  | null
  | boolean (value : Bool)
  | number (value : Float)
  | text (value : String)
  | array (items : List Json)
  /-- An object, its properties in the order of their keys. -/
  | object (entries : List (String × Json))
deriving Inhabited

namespace Json

/-- Puts a property at its place in the order of keys, instead of an older one with the same
key. -/
def insert {α : Type} (key : String) (value : α) : List (String × α) → List (String × α)
  | [] => [(key, value)]
  | (k, v) :: rest =>
    if key = k then (key, value) :: rest
    else if key < k then (key, value) :: (k, v) :: rest
    else (k, v) :: insert key value rest

/-- Properties in the order of their keys; of several with one key the last one counts. -/
def ofEntries {α : Type} (entries : List (String × α)) : List (String × α) :=
  entries.foldl (fun done e => insert e.1 e.2 done) []

/-- A property of an object. -/
def get? (json : Json) (key : String) : Option Json :=
  match json with
  | .object entries => entries.lookup key
  | _ => none

/-- What was put under a key is found there. -/
theorem lookup_insert_self {α : Type} (key : String) (value : α) :
    ∀ entries : List (String × α), (insert key value entries).lookup key = some value
  | [] => by simp [insert]
  | (k, v) :: rest => by
    simp only [insert]
    split
    · simp
    · rename_i hne
      split
      · simp
      · have h : (key == k) = false := by simpa using hne
        simp only [List.lookup_cons, h]
        exact lookup_insert_self key value rest

/-- Putting a property changes no other. -/
theorem lookup_insert_of_ne {α : Type} {key other : String} (value : α) (h : other ≠ key) :
    ∀ entries : List (String × α), (insert key value entries).lookup other = entries.lookup other
  | [] => by
    have h' : (other == key) = false := by simpa using h
    simp [insert, List.lookup_cons, h']
  | (k, v) :: rest => by
    have h' : (other == key) = false := by simpa using h
    simp only [insert]
    split
    · rename_i heq
      subst heq
      simp [List.lookup_cons, h']
    · split
      · simp [List.lookup_cons, h']
      · simp only [List.lookup_cons]
        split
        · rfl
        · exact lookup_insert_of_ne value h rest

end Json

end ModuleRunner
