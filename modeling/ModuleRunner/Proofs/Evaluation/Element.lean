import ModuleRunner.Evaluation.Interpreter
import ModuleRunner.Proofs.Decimal.Conversion
import ModuleRunner.Proofs.Evaluation.Excerpt
import ModuleRunner.Proofs.Script.Writing

/-!
# Elements under their keys

What is written to an array under one key leaves what another key reads, unless the two lead to one
element; and of two different keys of one element, one has a plus sign.  An index expression finds an
element with a number that is whole as it does with the digits of the number, for the one is printed as
the other.

* `Heap.NamesElement`, `Heap.Leaves` — the key of an element that is there; writes under one key that
  leave what another key reads.
* `leaves_of_not_sameElement`, `not_leaves_of_sameElement` — when they do, and when they do not.
* `Counts`, `evaluateStep_index` — numbers and their digits as keys.
* `elements_by_key` — all of it.
-/

namespace ModuleRunner

namespace Script.Heap

/-! ## Reading and writing elements -/

variable {heap : Heap} {ref : ArrayRef} {key other : String}

/-- A key leads to an element that is there. -/
def NamesElement (heap : Heap) (ref : ArrayRef) (key : String) : Prop :=
  ∃ i, arrayIndex? key = some i ∧ i < (heap.arrayAt ref).size

/-- No write under one key changes what is read under another. -/
def Leaves (heap : Heap) (ref : ArrayRef) (key other : String) : Prop :=
  ∀ x, (heap.write (.array ref) key x).2.get (.array ref) other = heap.get (.array ref) other

lemma get_of_arrayIndex? {i : Nat} (hkey : key ≠ "length") (hi : arrayIndex? key = some i) :
    heap.get (.array ref) key = (heap.arrayAt ref)[i]?.getD .undefined := by
  simp [get, arrayProperty, hkey, hi]

lemma holds_of_lt_size {i : Nat} (h : i < (heap.arrayAt ref).size) : heap.Holds (.array ref) := by
  by_contra hnone
  have hempty : heap.arrayAt ref = #[] := by
    rw [arrayAt, Array.getD_eq_getD_getElem?, Array.getElem?_eq_none (Nat.le_of_not_lt hnone)]
    rfl
  rw [hempty] at h
  exact absurd h (Nat.not_lt_zero i)

/-- A write leaves the elements that its key does not lead to. -/
lemma leaves_of_not_sameElement (hkey : key ≠ "length") (hother : other ≠ "length")
    (helement : heap.NamesElement ref other) (h : ¬ SameElement key other) : heap.Leaves ref key other := by
  intro x
  obtain ⟨j, hj, hsize⟩ := helement
  rw [write_array_of_ne heap ref x hkey]
  rcases writeElement_cases heap ref key x with ⟨-, hwrite⟩ | ⟨i, hi, -, hwrite⟩ | ⟨i, -, -, -, hwrite⟩
  · rw [hwrite]
  · have hne : j ≠ i := by
      rintro rfl
      exact h ⟨j, hi, hj⟩
    rw [hwrite, get_of_arrayIndex? hother hj, get_of_arrayIndex? hother hj,
      arrayAt_modifyArray_self (holds_of_lt_size hsize), getElem?_storeAt_of_ne hne (by omega)]
    rfl
  · rw [hwrite]

/-- What is written to an element is read under all of its keys. -/
lemma not_leaves_of_sameElement (hkey : key ≠ "length") (hother : other ≠ "length")
    (helement : heap.NamesElement ref other) (h : SameElement key other) : ¬ heap.Leaves ref key other := by
  intro hleaves
  obtain ⟨j, hj, hsize⟩ := helement
  obtain ⟨i, hi, hi'⟩ := h
  obtain rfl : i = j := Option.some.inj (hi'.symm.trans hj)
  have hread (x : Value) : heap.get (.array ref) other = x := by
    have hstored := hleaves x
    rw [write_array_of_ne heap ref x hkey] at hstored
    rcases writeElement_cases heap ref key x with ⟨hnone, -⟩ | ⟨j, hj', -, hwrite⟩ | ⟨j, hj', -, hlarge, -⟩
    · rw [hnone] at hi
      cases hi
    · obtain rfl : i = j := Option.some.inj (hi.symm.trans hj')
      rw [hwrite, get_storeAt (holds_of_lt_size hsize) hother hj] at hstored
      exact hstored.symm
    · obtain rfl : i = j := Option.some.inj (hi.symm.trans hj')
      exact absurd hsize (Nat.not_lt.mpr hlarge)
  exact absurd ((hread .null).symm.trans (hread .undefined)) (by simp)

end Script.Heap

namespace Evaluation

open Script Run

/-! ## Indexing -/

/-- Reading under the digits of a number reads that element. -/
lemma member_array_toString {ref : ArrayRef} {n : Nat} {u : Value} {w : World} (hfits : n < 2 ^ 64)
    (h : (w.heap.arrayAt ref)[n]? = some u) : member (.array ref) (toString n) w = .ok u w := by
  have hindex : arrayIndex? (toString n) = some n := arrayIndex?_eq_some_iff.mpr (.inl ⟨hfits, rfl⟩)
  rw [member_toString rfl, Heap.get_of_arrayIndex? (toString_ne (by rfl) n) hindex, h, Option.getD_some]

/-- A value that stands for a count in a key: a number that is the count, or its digits. -/
inductive Counts : Value → Nat → Prop where
  | number {x : Float} {n : Nat} (h : Number.toNat? x = some n) : Counts (.number x) n
  | text (n : Nat) : Counts (.text (toString n)) n

lemma text_of_counts {v : Value} {n : Nat} (h : Counts v n) (hfits : n < 2 ^ 64) (w : World) :
    Run.text v w = .ok (toString n) w := by
  cases h with
  | number h =>
    rw [← Number.text_of_toNat? h (hfits.trans_le (by decide))]
    rfl
  | text n => rfl

/-- Indexing an array with either reads the element. -/
lemma evaluateStep_index {m : Machine} {i : InterpreterRef} {scope : ScopeRef} {object key : Expression}
    {w w₁ w₂ : World} {ref : ArrayRef} {v u : Value} {n : Nat}
    (hobject : m.evaluate i scope object w = .ok (.array ref) w₁)
    (hkey : m.evaluate i scope key w₁ = .ok v w₂) (hcounts : Counts v n) (hfits : n < 2 ^ 64)
    (h : (w₂.heap.arrayAt ref)[n]? = some u) :
    evaluateStep m i scope (.index object key) w = .ok u w₂ := by
  have htext : evaluateKey m i scope key w₁ = .ok (toString n) w₂ :=
    (bind_of_ok hkey).trans (text_of_counts hcounts hfits w₂)
  simp only [evaluateStep]
  rw [bind_of_ok hobject, bind_of_ok htext]
  exact member_array_toString hfits h

/-- **Keys of elements.**  A key leads to the element whose number it prints and to no other, exactly if
it is not a plus sign before digits; such a key leads to the element all the same.  Take two keys of an
array that are not equal and not `length`, the second of which leads to an element that is there.  No
write under the first changes what is read under the second, exactly if they do not lead to the same
element, and they do so only if one of them has a plus sign.  And an index expression whose object is
an array reads the same element with a number that is whole as with its digits. -/
theorem elements_by_key (key : String) :
    ((∀ i, arrayIndex? key = some i ↔ IsNumber key i) ↔ ∀ i, ¬ Signed key i) ∧
    (∀ i, Signed key i → arrayIndex? key = some i) ∧
    (∀ (heap : Heap) (ref : ArrayRef) (other : String), key ≠ other → key ≠ "length" → other ≠ "length" →
      heap.NamesElement ref other →
        (heap.Leaves ref key other ↔ ¬ SameElement key other) ∧
        (SameElement key other → ∃ i, Signed key i ∨ Signed other i)) ∧
    ∀ (m : Machine) (i : InterpreterRef) (scope : ScopeRef) (object index : Expression) (w w₁ w₂ : World)
      (ref : ArrayRef) (v u : Value) (n : Nat), m.evaluate i scope object w = .ok (.array ref) w₁ →
      m.evaluate i scope index w₁ = .ok v w₂ → Counts v n → n < 2 ^ 64 →
      (w₂.heap.arrayAt ref)[n]? = some u → evaluateStep m i scope (.index object index) w = .ok u w₂ := by
  refine ⟨⟨fun h i hsigned => ?_, fun h i => ?_⟩, fun i hsigned => ?_,
    fun heap ref other hne hkey hother helement => ⟨⟨fun hleaves hsame => ?_, fun hapart => ?_⟩, ?_⟩, ?_⟩
  · exact hsigned.ne_toString i ((h i).mp (arrayIndex?_eq_some_iff.mpr (.inr hsigned))).2
  · rw [arrayIndex?_eq_some_iff, or_iff_left (h i)]
  · exact arrayIndex?_eq_some_iff.mpr (.inr hsigned)
  · exact Heap.not_leaves_of_sameElement hkey hother helement hsame hleaves
  · exact Heap.leaves_of_not_sameElement hkey hother helement hapart
  · rintro ⟨i, hi, hi'⟩
    exact ⟨i, (eq_or_signed hi hi').resolve_left hne⟩
  · intro m i scope object index w w₁ w₂ ref v u n hobject hindex hcounts hfits h
    exact evaluateStep_index hobject hindex hcounts hfits h

/-- In an array of one element, a key with a plus sign overwrites what is read under `0`, and negative
zero reads it. -/
theorem elements_by_key_plus :
    let cell : ScopeCell := ⟨[("a", ⟨.array ⟨0⟩, true⟩)], none⟩
    let heap := { Heap.empty with arrays := #[#[.text "x"]], scopes := #[cell] }
    let w := { World.empty with heap }
    ¬ (∀ i, arrayIndex? "+0" = some i ↔ IsNumber "+0" i) ∧ ¬ heap.Leaves ⟨0⟩ "+0" "0" ∧
      heap.Leaves ⟨0⟩ "1" "0" ∧
      evaluateStep (machine 1) ⟨0⟩ ⟨0⟩ (.index (.name "a") (.number (-0.0))) w = .ok (.text "x") w := by
  intro cell heap w
  have hsigned : Signed "+0" 0 := ⟨['0'], by rfl, by simp, by rfl, by rfl, by decide⟩
  have helement : heap.NamesElement ⟨0⟩ "0" := ⟨0, by rfl, by decide⟩
  obtain ⟨hcanonical, hleads, hplus, hindex⟩ := elements_by_key "+0"
  obtain ⟨-, -, hone, -⟩ := elements_by_key "1"
  refine ⟨fun h => hcanonical.mp h 0 hsigned, fun h => ?_, ?_, ?_⟩
  · exact (hplus heap ⟨0⟩ "0" (by decide) (by decide) (by decide) helement).1.mp h
      ⟨0, hleads 0 hsigned, by rfl⟩
  · refine (hone heap ⟨0⟩ "0" (by decide) (by decide) (by decide) helement).1.mpr ?_
    rintro ⟨i, hi, hi'⟩
    cases hi
    cases hi'
  · have hzero : Counts (.number (-0.0)) 0 := .number (by decide +kernel)
    exact hindex (machine 1) ⟨0⟩ ⟨0⟩ _ _ w w w ⟨0⟩ _ _ 0 (by rfl) (by rfl) hzero (by decide) (by rfl)

end Evaluation

end ModuleRunner
