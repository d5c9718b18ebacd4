/-!
# Lengths and places in a text

The length of a text counts its UTF-16 units, while places in it count characters; the two differ
for characters beyond the first plane, which are two units each.

* `units16` — the length in UTF-16 units.
* `find?` — the first place, counted in characters, at which a text occurs in another.
-/

namespace ModuleRunner.Text

/-- The number of UTF-16 units of a character. -/
def unitsOf (c : Char) : Nat := if c.toNat < 0x10000 then 1 else 2

/-- The number of UTF-16 units of a text. -/
def units16 (cs : List Char) : Nat := cs.foldl (fun n c => n + unitsOf c) 0

/-- The first place at which the needle occurs. -/
def find? (needle : List Char) : List Char → Option Nat
  | [] => if needle.isEmpty then some 0 else none
  | c :: rest =>
    if needle.isPrefixOf (c :: rest) then some 0 else (find? needle rest).map (· + 1)

/-- The place found is one where the needle occurs. -/
theorem isPrefixOf_drop_of_find? {needle : List Char} :
    ∀ {cs : List Char} {k : Nat}, find? needle cs = some k →
      needle.isPrefixOf (cs.drop k) = true
  | [], k, h => by
    simp only [find?] at h
    split at h
    · rename_i he
      simp only [List.isEmpty_iff] at he
      simp [he]
    · simp at h
  | c :: rest, k, h => by
    simp only [find?] at h
    split at h
    · rename_i hp
      simp only [Option.some.injEq] at h
      subst h
      simpa using hp
    · simp only [Option.map_eq_some_iff] at h
      obtain ⟨j, hj, rfl⟩ := h
      simpa using isPrefixOf_drop_of_find? hj

end ModuleRunner.Text
