import ModuleRunner.Evaluation.Method
import ModuleRunner.Evaluation.Operator
import ModuleRunner.Proofs.Evaluation.Run
import ModuleRunner.Proofs.Script.Primitive

/-!
# Equality

Two operators compare values.  Strict equality compares values of one kind, and is an equivalence
but for `NaN`.  Abstract equality compares a reference with a primitive by their texts, and two
primitives of different kinds by their numbers; which of the two it is does not depend on the side
on which a value stands.

A reference therefore equals a number only if it is printed like it.  That is narrower than equality
of the numbers that both convert to: an empty array converts to zero and is not equal to it.

* `strictEquals_comm`, `strictEquals_trans`, `strictEquals_self` — strict equality.
* `looseEquals?_comm` — abstract equality looks at both sides alike.
* `equality_laws` — what holds of the four operators, and of `indexOf` of arrays.
* `reference_equal_iff` — what a reference is equal to.
-/

namespace ModuleRunner.Script

/-! ## Strict equality -/

/-- Whether a value is the number `NaN`. -/
def Value.isNaN : Value → Bool
  | .number x => Number.isNaN x
  | _ => false

namespace Value

/-- Values are strictly equal if they are equal numbers, or the same and no numbers. -/
lemma strictEquals_iff {a b : Value} : a.strictEquals b = true ↔
    (∃ x y, a = .number x ∧ b = .number y ∧ (x == y) = true) ∨ a = b ∧ ∀ x, a ≠ .number x := by
  cases a <;> cases b <;> simp [strictEquals]

lemma strictEquals_comm (a b : Value) : a.strictEquals b = b.strictEquals a := by
  cases a <;> cases b <;> first | rfl | exact BEq.comm

lemma strictEquals_trans {a b c : Value} (hab : a.strictEquals b = true)
    (hbc : b.strictEquals c = true) : a.strictEquals c = true := by
  rcases strictEquals_iff.mp hab with ⟨x, y, rfl, rfl, hxy⟩ | ⟨rfl, -⟩
  · rcases strictEquals_iff.mp hbc with ⟨_, z, hy, rfl, hyz⟩ | ⟨-, hnot⟩
    · cases hy
      exact BEq.trans hxy hyz
    · exact absurd rfl (hnot y)
  · exact hbc

/-- Only `NaN` is unlike itself. -/
lemma strictEquals_self (a : Value) : a.strictEquals a = !a.isNaN := by
  cases a with
  | number x => simp [strictEquals, isNaN, Number.isNaN, bne]
  | _ => simp [strictEquals, isNaN]

/-! ## Abstract equality -/

lemma meetAsNumbers_comm (a b : Value) : a.meetAsNumbers b = b.meetAsNumbers a := by
  cases a <;> cases b <;> rfl

end Value

namespace Heap

variable {heap : Heap}

/-- Abstract equality looks at both sides alike. -/
theorem looseEquals?_comm (a b : Value) : heap.looseEquals? a b = heap.looseEquals? b a := by
  unfold looseEquals?
  rw [Bool.or_comm a.isNullish, Bool.and_comm a.isNullish, bne_comm (a := a.isReference),
    a.meetAsNumbers_comm, a.strictEquals_comm]
  split_ifs with hnull hkind hnumbers
  · rfl
  · cases heap.text? a <;> cases heap.text? b <;> simp [BEq.comm]
  · cases heap.number? a <;> cases heap.number? b <;> simp [BEq.comm]
  · rfl

/-- Printable values are comparable. -/
lemma isSome_looseEquals? {a b : Value} (ha : heap.Printable a) (hb : heap.Printable b) :
    (heap.looseEquals? a b).isSome := by
  obtain ⟨s, hs⟩ := Option.isSome_iff_exists.mp (isSome_text? ha)
  obtain ⟨t, ht⟩ := Option.isSome_iff_exists.mp (isSome_text? hb)
  obtain ⟨x, hx⟩ := Option.isSome_iff_exists.mp (isSome_number? ha.loopless)
  obtain ⟨y, hy⟩ := Option.isSome_iff_exists.mp (isSome_number? hb.loopless)
  unfold looseEquals?
  split_ifs <;> simp [hs, ht, hx, hy]

/-- What is strictly equal is abstractly equal. -/
lemma looseEquals?_of_strictEquals {a b : Value} (h : a.strictEquals b = true) :
    heap.looseEquals? a b = some true := by
  rcases Value.strictEquals_iff.mp h with ⟨x, y, rfl, rfl, -⟩ | ⟨rfl, -⟩
  · exact congrArg some h
  · cases a with
    | boolean b =>
      show some ((if b then 1 else 0 : Float) == if b then 1 else 0) = some true
      cases b <;> rfl
    | _ => simp_all [looseEquals?, Value.isNullish, Value.isReference, Value.meetAsNumbers]

end Heap

end ModuleRunner.Script

namespace ModuleRunner.Evaluation

open Script Run

/-! ## The operators -/

lemma binary_strictEqual (a b : Value) (w : World) :
    binary .strictEqual a b w = .ok (.boolean (a.strictEquals b)) w ∧
      binary .strictNotEqual a b w = .ok (.boolean !(a.strictEquals b)) w := ⟨rfl, rfl⟩

lemma binary_equal {a b : Value} {r : Bool} {w : World} (h : w.heap.looseEquals? a b = some r) :
    binary .equal a b w = .ok (.boolean r) w ∧ binary .notEqual a b w = .ok (.boolean !r) w := by
  have hloose : looseEquals a b w = .ok r w := by
    rw [looseEquals, bind_readHeap, h]
    rfl
  exact ⟨bind_of_ok hloose, bind_of_ok hloose⟩

/-- The first element that is strictly equal to a value. -/
def FirstAt (items : Array Value) (item : Value) (k : Nat) : Prop :=
  ∃ found, items[k]? = some found ∧ found.strictEquals item = true ∧
    ∀ j < k, ∀ other, items[j]? = some other → other.strictEquals item = false

lemma arrayMethod_indexOf (ref : ArrayRef) (item : Value) (w : World) :
    arrayMethod .indexOf (.array ref) [item] w =
      .ok (.number (((w.heap.arrayAt ref).toList.findIdx? (·.strictEquals item)).elim (-1)
        Number.ofNat)) w := by
  have hargument : argument [item] 0 = item := rfl
  simp only [arrayMethod, hargument]
  rw [bind_readHeap]
  cases (w.heap.arrayAt ref).toList.findIdx? (·.strictEquals item) <;> rfl

/-- An array that has an element equal to itself finds the first one that is equal to it. -/
lemma exists_firstAt {items : Array Value} {item : Value} (hmem : item ∈ items.toList)
    (hself : item.strictEquals item = true) :
    ∃ k, items.toList.findIdx? (·.strictEquals item) = some k ∧ FirstAt items item k := by
  cases hfind : items.toList.findIdx? (·.strictEquals item) with
  | none =>
    have hnone := List.findIdx?_eq_none_iff.mp hfind item hmem
    rw [hself] at hnone
    cases hnone
  | some k =>
    obtain ⟨hk, hfound, hfirst⟩ := List.findIdx?_eq_some_iff_getElem.mp hfind
    refine ⟨k, rfl, items[k], by simp, by simpa using hfound, ?_⟩
    intro j hj other hother
    obtain ⟨hsize, rfl⟩ := Array.getElem?_eq_some_iff.mp hother
    simpa using hfirst j hj

/-- **Equality.**  For all values without loops to print: `==` has an answer, the same one with the
sides exchanged, and `!=` has the opposite one; so have `===` and `!==`.  What is strictly equal is
abstractly equal.  Strict equality is transitive, and only `NaN` is unlike itself; so an array finds
each of its elements that is not `NaN`. -/
theorem equality_laws {w : World} {a b : Value} (ha : w.heap.Printable a)
    (hb : w.heap.Printable b) :
    (∃ equal, binary .equal a b w = .ok (.boolean equal) w ∧
      binary .equal b a w = .ok (.boolean equal) w ∧
      binary .notEqual a b w = .ok (.boolean !equal) w ∧
      binary .notEqual b a w = .ok (.boolean !equal) w ∧
      (binary .strictEqual a b w = .ok (.boolean true) w → equal = true)) ∧
    (∃ same, binary .strictEqual a b w = .ok (.boolean same) w ∧
      binary .strictEqual b a w = .ok (.boolean same) w ∧
      binary .strictNotEqual a b w = .ok (.boolean !same) w ∧
      binary .strictNotEqual b a w = .ok (.boolean !same) w) ∧
    (∀ c, binary .strictEqual a b w = .ok (.boolean true) w →
      binary .strictEqual b c w = .ok (.boolean true) w →
      binary .strictEqual a c w = .ok (.boolean true) w) ∧
    binary .strictEqual a a w = .ok (.boolean !a.isNaN) w ∧
    ∀ ref, a ∈ (w.heap.arrayAt ref).toList → a.isNaN = false →
      ∃ k, arrayMethod .indexOf (.array ref) [a] w = .ok (.number (Number.ofNat k)) w ∧
        Number.ofNat k ≠ -1 ∧ FirstAt (w.heap.arrayAt ref) a k := by
  have holds {a b : Value} : binary .strictEqual a b w = .ok (.boolean true) w ↔
      a.strictEquals b = true := by
    rw [(binary_strictEqual a b w).1]
    simp
  obtain ⟨equal, hequal⟩ := Option.isSome_iff_exists.mp (Heap.isSome_looseEquals? ha hb)
  have hback : w.heap.looseEquals? b a = some equal := by rw [Heap.looseEquals?_comm, hequal]
  refine ⟨⟨equal, (binary_equal hequal).1, (binary_equal hback).1, (binary_equal hequal).2,
    (binary_equal hback).2, fun h => ?_⟩, ⟨a.strictEquals b, ?_⟩, fun c hab hbc => ?_, ?_,
    fun ref hmem hnan => ?_⟩
  · rw [Heap.looseEquals?_of_strictEquals (holds.mp h)] at hequal
    exact (Option.some.inj hequal).symm
  · have hforth := binary_strictEqual a b w
    have hback := binary_strictEqual b a w
    rw [Value.strictEquals_comm b a] at hback
    exact ⟨hforth.1, hback.1, hforth.2, hback.2⟩
  · exact holds.mpr (Value.strictEquals_trans (holds.mp hab) (holds.mp hbc))
  · rw [(binary_strictEqual a a w).1, Value.strictEquals_self]
  · have hself : a.strictEquals a = true := by rw [Value.strictEquals_self, hnan, Bool.not_false]
    obtain ⟨k, hfind, hfirst⟩ := exists_firstAt hmem hself
    have hmethod := arrayMethod_indexOf ref a w
    rw [hfind] at hmethod
    exact ⟨k, hmethod, Number.ofNat_ne_neg_one k, hfirst⟩

/-- An array and its text: equal either way, though not strictly; the array finds the text in it. -/
theorem equality_laws_single :
    let w : World :=
      { World.empty with heap := { Heap.empty with arrays := #[#[.null, .text "1"]] } }
    w.heap.Printable (.text "1") ∧ w.heap.Printable (.array ⟨0⟩) ∧
      (∃ equal, binary .equal (.text "1") (.array ⟨0⟩) w = .ok (.boolean equal) w ∧
        binary .equal (.array ⟨0⟩) (.text "1") w = .ok (.boolean equal) w) ∧
      ∃ k, arrayMethod .indexOf (.array ⟨0⟩) [.text "1"] w = .ok (.number (Number.ofNat k)) w ∧
        FirstAt #[.null, .text "1"] (.text "1") k := by
  intro w
  have htext : w.heap.Printable (.text "1") := .of_primitive rfl
  have harray : w.heap.Printable (.array ⟨0⟩) := .of_flat (by
    show ∀ item ∈ [Value.null, .text "1"], item.isReference = false
    simp [Value.isReference])
  obtain ⟨⟨equal, hforth, hback, -⟩, -, -, -, hfind⟩ := equality_laws htext harray
  obtain ⟨k, hmethod, -, hfirst⟩ := hfind ⟨0⟩ (by
    show Value.text "1" ∈ [Value.null, .text "1"]
    simp) rfl
  exact ⟨htext, harray, ⟨equal, hforth, hback⟩, k, hmethod, hfirst⟩

/-! ## References -/

/-- A reference and a value that is none are compared by their texts. -/
lemma looseEquals?_primitive {heap : Heap} {a b : Value} {s t : String} (ha : a.isReference = true)
    (hb : b.isReference = false) (hsome : b.isNullish = false) (hs : heap.text? a = some s)
    (ht : heap.text? b = some t) : heap.looseEquals? a b = some (decide (t = s)) := by
  rw [Heap.looseEquals?, Value.not_isNullish_of_isReference ha, hsome, ha, hb, hs, ht,
    show decide (t = s) = (s == t) from (Bool.beq_comm.trans (beq_eq_decide t s)).symm]
  rfl

/-- Two references are compared by their cells. -/
lemma looseEquals?_reference {heap : Heap} {a b : Value} (ha : a.isReference = true)
    (hb : b.isReference = true) : heap.looseEquals? a b = some (decide (b = a)) := by
  have hstrict : a.strictEquals b = decide (b = a) := by
    cases a <;> cases b <;>
      simp_all [Value.isReference, Value.strictEquals, beq_eq_decide, eq_comm]
  have hmeet : a.meetAsNumbers b = false := by
    cases a <;> cases b <;> simp_all [Value.isReference, Value.meetAsNumbers]
  rw [Heap.looseEquals?, Value.not_isNullish_of_isReference ha,
    Value.not_isNullish_of_isReference hb, ha, hb, hmeet, hstrict]
  rfl

/-- **What a reference is equal to.**  A reference without loops to print has a text.  Abstractly it
is equal to itself and to no other reference, to its text and to no other, and to the numbers and
booleans that are printed like it; to a number therefore only if its text converts to that number,
or both are `NaN`. -/
theorem reference_equal_iff {w : World} {a b : Value} (href : a.isReference = true)
    (ha : w.heap.Printable a) (hb : w.heap.Printable b) :
    ∃ t equal, w.heap.text? a = some t ∧ binary .equal a b w = .ok (.boolean equal) w ∧
      (equal = true ↔ b = a ∨ b = .text t ∨ (∃ x, b = .number x ∧ Number.text x = t) ∨
        ∃ p, b = .boolean p ∧ w.heap.text? (.boolean p) = some t) ∧
      ∀ x, b = .number x → equal = true → Number.Agree (Number.ofText t) x := by
  obtain ⟨t, ht⟩ := Option.isSome_iff_exists.mp (Heap.isSome_text? ha)
  suffices hloose : ∃ equal, w.heap.looseEquals? a b = some equal ∧
      (equal = true ↔ b = a ∨ b = .text t ∨ (∃ x, b = .number x ∧ Number.text x = t) ∨
        ∃ p, b = .boolean p ∧ w.heap.text? (.boolean p) = some t) by
    obtain ⟨equal, hequal, hiff⟩ := hloose
    refine ⟨t, equal, ht, (binary_equal hequal).1, hiff, ?_⟩
    rintro x rfl htrue
    rcases hiff.mp htrue with rfl | htext | ⟨y, hy, rfl⟩ | ⟨p, hp, -⟩
    · cases href
    · cases htext
    · cases hy
      exact Number.ofText_text x
    · cases hp
  have hcompare {s : String} (hb : b.isReference = false) (hsome : b.isNullish = false)
      (hs : w.heap.text? b = some s) : w.heap.looseEquals? a b = some (decide (s = t)) :=
    looseEquals?_primitive href hb hsome ht hs
  have hother (hb : b.isReference = false) : b ≠ a := by
    rintro rfl
    rw [href] at hb
    cases hb
  cases b with
  | undefined | null =>
    refine ⟨false, ?_, by simp [hother rfl]⟩
    rw [Heap.looseEquals?, Value.not_isNullish_of_isReference href]
    rfl
  | boolean p =>
    obtain ⟨s, hs⟩ := Option.isSome_iff_exists.mp (Heap.isSome_text? hb)
    exact ⟨_, hcompare rfl rfl hs, by simp [hother rfl, hs]⟩
  | number x => exact ⟨_, hcompare rfl rfl rfl, by simp [hother rfl]⟩
  | text s => exact ⟨_, hcompare rfl rfl rfl, by simp [hother rfl]⟩
  | object ref | array ref | function ref =>
    exact ⟨_, looseEquals?_reference href rfl, by simp⟩

/-- An array with the text of a number in it is equal to that number. -/
theorem reference_equal_iff_single :
    let w : World := { World.empty with heap := { Heap.empty with arrays := #[#[.text "7"]] } }
    (Value.array ⟨0⟩).isReference = true ∧ w.heap.Printable (.array ⟨0⟩) ∧
      w.heap.Printable (.number 7) ∧
      binary .equal (.array ⟨0⟩) (.number 7) w = .ok (.boolean true) w := by
  intro w
  have harray : w.heap.Printable (.array ⟨0⟩) := .of_flat (by
    show ∀ item ∈ [Value.text "7"], item.isReference = false
    simp [Value.isReference])
  have hnumber : w.heap.Printable (.number 7) := .of_primitive rfl
  obtain ⟨t, equal, ht, hequal, hiff, -⟩ := reference_equal_iff rfl harray hnumber
  have htext : w.heap.text? (.array ⟨0⟩) = some "7" := by rfl
  obtain rfl : "7" = t := Option.some.inj (htext.symm.trans ht)
  have htrue : equal = true := hiff.mpr (.inr (.inr (.inl ⟨7, rfl, by rfl⟩)))
  exact ⟨rfl, harray, hnumber, htrue ▸ hequal⟩

/-- An empty array and zero: the text of the array converts to zero, yet they are not equal. -/
theorem empty_array_not_equal_zero :
    let w : World := { World.empty with heap := { Heap.empty with arrays := #[#[]] } }
    w.heap.Printable (.array ⟨0⟩) ∧ w.heap.Printable (.number 0) ∧
      w.heap.text? (.array ⟨0⟩) = some "" ∧ (Number.ofText "" == 0) = true ∧
      binary .equal (.array ⟨0⟩) (.number 0) w = .ok (.boolean false) w := by
  intro w
  have harray : w.heap.Printable (.array ⟨0⟩) := .of_flat (by
    show ∀ item ∈ ([] : List Value), item.isReference = false
    simp)
  have hloose : w.heap.looseEquals? (.array ⟨0⟩) (.number 0) = some false := by rfl
  exact ⟨harray, .of_primitive rfl, by rfl, by rfl, (binary_equal hloose).1⟩

end ModuleRunner.Evaluation
