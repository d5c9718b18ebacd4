/-!
# Tables in insertion order

The properties of an object, the names a host grants and the entries of a registry are finite maps
whose order shows: a new key goes to the end, a key that is there keeps its place, and removing a
key moves none of the others.

* `Table` — keys with their values, in order.
* `Table.get?`, `Table.put`, `Table.erase`, `Table.keys` — the operations.
* `get?_put_self`, `get?_put_of_ne`, `keys_put` — what putting does to look-up and to order.
* `get?_erase_self`, `get?_erase_of_ne`, `erase_of_get?_eq_none` — what removing does.
* `of_get?_put`, `get?_of_get?_erase`, `mem_put`, `mem_of_get?` — where a value that is found was
  before.
-/

namespace ModuleRunner

/-- Keys with their values, in the order of insertion. -/
abbrev Table (α : Type) := List (String × α)

namespace Table

variable {α : Type}

/-- The value of a key. -/
def get? (table : Table α) (key : String) : Option α := List.lookup key table

/-- Whether a key is there. -/
def contains (table : Table α) (key : String) : Bool := (table.get? key).isSome

/-- Gives a key a value: in its place if it is there, else at the end. -/
def put (key : String) (value : α) : Table α → Table α
  | [] => [(key, value)]
  | (k, v) :: rest => if k = key then (key, value) :: rest else (k, v) :: put key value rest

/-- Removes a key. -/
def erase (table : Table α) (key : String) : Table α := table.filter fun e => e.1 ≠ key

/-- The keys, in order. -/
def keys (table : Table α) : List String := table.map (·.1)

/-- A table of entries given in order; of several with one key the last value counts. -/
def ofList (entries : List (String × α)) : Table α :=
  entries.foldl (fun table e => put e.1 e.2 table) []

/-- What was put is found. -/
@[simp] theorem get?_put_self (key : String) (value : α) :
    ∀ table : Table α, (put key value table).get? key = some value
  | [] => by simp [put, get?]
  | (k, v) :: rest => by
    by_cases h : k = key
    · simp [put, get?, h]
    · have h' : (key == k) = false := by simpa using Ne.symm h
      simp only [put, h, if_false, get?, List.lookup_cons, h']
      exact get?_put_self key value rest

/-- Putting a key leaves the values of the others. -/
theorem get?_put_of_ne {key other : String} (value : α) (h : other ≠ key) :
    ∀ table : Table α, (put key value table).get? other = table.get? other
  | [] => by
    have h' : (other == key) = false := by simpa using h
    simp [put, get?, List.lookup_cons, h']
  | (k, v) :: rest => by
    by_cases hk : k = key
    · subst hk
      have h' : (other == k) = false := by simpa using h
      simp [put, get?, List.lookup_cons, h']
    · simp only [put, hk, if_false, get?, List.lookup_cons]
      split
      · rfl
      · exact get?_put_of_ne value h rest

/-- What was removed is not found. -/
@[simp] theorem get?_erase_self (key : String) :
    ∀ table : Table α, (table.erase key).get? key = none
  | [] => rfl
  | (k, v) :: rest => by
    have ih := get?_erase_self key rest
    by_cases h : k = key
    · simpa [erase, h] using ih
    · have h' : (key == k) = false := by simpa using Ne.symm h
      simpa [erase, h, get?, List.lookup_cons, h'] using ih

/-- Removing a key leaves the values of the others. -/
theorem get?_erase_of_ne {key other : String} (h : other ≠ key) :
    ∀ table : Table α, (table.erase key).get? other = table.get? other
  | [] => rfl
  | (k, v) :: rest => by
    have ih := get?_erase_of_ne h rest
    simp only [erase, ne_eq, get?] at ih ⊢
    by_cases hk : k = key
    · have h' : (other == k) = false := by simpa [hk] using h
      simp only [List.filter_cons, hk, not_true_eq_false, decide_false, Bool.false_eq_true,
        if_false, List.lookup_cons, ih]
      rw [← hk, h']
    · simp only [List.filter_cons, hk, not_false_eq_true, decide_true, if_true,
        List.lookup_cons, ih]

/-- Removing a key that is not there changes nothing. -/
theorem erase_of_get?_eq_none {key : String} :
    ∀ {table : Table α}, table.get? key = none → table.erase key = table
  | [], _ => rfl
  | (k, v) :: rest, h => by
    by_cases hk : k = key
    · simp [get?, hk] at h
    · have h' : (key == k) = false := by simpa using Ne.symm hk
      simp only [get?, List.lookup_cons, h'] at h
      have ih : Table.erase rest key = rest := erase_of_get?_eq_none h
      simp only [erase, ne_eq] at ih ⊢
      simp only [List.filter_cons, hk, not_false_eq_true, decide_true, if_true, ih]

/-- A value found after putting is the one that was put, or was there already. -/
theorem of_get?_put {key other : String} {value found : α} {table : Table α}
    (h : (put key value table).get? other = some found) :
    (other = key ∧ found = value) ∨ table.get? other = some found := by
  by_cases hk : other = key
  · subst hk
    rw [get?_put_self] at h
    exact .inl ⟨rfl, (Option.some.inj h).symm⟩
  · rw [get?_put_of_ne value hk] at h
    exact .inr h

/-- A value found after removing was there already. -/
theorem get?_of_get?_erase {key other : String} {found : α} {table : Table α}
    (h : (table.erase key).get? other = some found) : table.get? other = some found := by
  by_cases hk : other = key
  · subst hk
    rw [get?_erase_self] at h
    cases h
  · rwa [get?_erase_of_ne hk] at h

/-- An entry after putting is the one that was put, or was there already. -/
theorem mem_put {key : String} {value : α} {entry : String × α} :
    ∀ {table : Table α}, entry ∈ put key value table → entry = (key, value) ∨ entry ∈ table
  | [], h => .inl (List.mem_singleton.1 h)
  | (k, v) :: rest, h => by
    by_cases hk : k = key
    · simp only [put, hk, if_true, List.mem_cons] at h
      exact h.imp id fun h => List.mem_cons_of_mem _ h
    · simp only [put, hk, if_false, List.mem_cons] at h
      rcases h with rfl | h
      · exact .inr List.mem_cons_self
      · exact (mem_put h).imp id fun h => List.mem_cons_of_mem _ h

/-- A value that is found belongs to an entry. -/
theorem mem_of_get? {key : String} {found : α} :
    ∀ {table : Table α}, table.get? key = some found → (key, found) ∈ table
  | (k, v) :: rest, h => by
    by_cases hk : key = k
    · subst hk
      simp only [get?, List.lookup_cons, beq_self_eq_true, Option.some.injEq] at h
      exact h ▸ List.mem_cons_self
    · have hne : (key == k) = false := by simpa using hk
      simp only [get?, List.lookup_cons, hne] at h
      exact List.mem_cons_of_mem _ (mem_of_get? h)

/-- Putting a key that is there keeps the order; a new key goes to the end. -/
theorem keys_put (key : String) (value : α) :
    ∀ table : Table α, keys (put key value table) =
      if key ∈ keys table then keys table else keys table ++ [key]
  | [] => by simp [put, keys]
  | (k, v) :: rest => by
    by_cases h : k = key
    · simp [put, keys, h]
    · have ih := keys_put key value rest
      have h' : ¬ key = k := fun e => h e.symm
      have hcons : keys (put key value ((k, v) :: rest)) = k :: keys (put key value rest) := by
        simp [put, keys, h]
      have hmem : key ∈ keys ((k, v) :: rest) ↔ key ∈ keys rest := by simp [keys, h']
      rw [hcons, ih]
      by_cases hm : key ∈ keys rest
      · rw [if_pos hm, if_pos (hmem.2 hm)]
        rfl
      · rw [if_neg hm, if_neg fun x => hm (hmem.1 x)]
        rfl

end Table

end ModuleRunner
