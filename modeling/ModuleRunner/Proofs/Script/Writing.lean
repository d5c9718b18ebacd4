import ModuleRunner.Proofs.Decimal.Count
import ModuleRunner.Proofs.Script.Unfolding
import ModuleRunner.Script.Property

/-!
# Properties that were written

Five kinds of values take writes in five ways, and reading sorts the keys once more.  What is read
after a write is what was written, with one exception: an array takes a key that is neither `length`
nor the name of an element, answers that the value is there, and stores nothing.

A new length is the number of a value, and the number of an array of one element is that of the
element.  So there is an answer only where this comes to an end, which it does unless an array is met
that leads back to itself.

* `Heap.Holds` — a value is no reference, or one to a cell that is there.
* `Heap.Contains`, `Heap.Loopless` — arrays and their elements; no array below a value is below
  itself.
* `isSome_number?` — a value without loops below it has a number.
* `Value.Lacks` — an array and a key that names nothing it could hold.
* `write_reads_back` — what a write leaves to be read.
-/

namespace ModuleRunner.Script

namespace Heap

variable {heap : Heap}

/-! ## Cells that are there -/

/-- A value that is no reference, or a reference to a cell that is there. -/
def Holds (heap : Heap) : Value → Prop
  | .object ref => ref.index < heap.objects.size
  | .array ref => ref.index < heap.arrays.size
  | .function ref => ref.index < heap.functions.size
  | _ => True

lemma getD_modify_self {α : Type} [Inhabited α] {cells : Array α} {i : Nat} (h : i < cells.size)
    (change : α → α) : (cells.modify i change).getD i default = change (cells.getD i default) := by
  rw [Array.getD_eq_getD_getElem?, Array.getD_eq_getD_getElem?, Array.getElem?_modify, if_pos rfl,
    Array.getElem?_eq_getElem h]
  rfl

lemma objectAt_modifyObject_self {ref : ObjectRef} (h : heap.Holds (.object ref))
    (change : ObjectCell → ObjectCell) :
    (heap.modifyObject ref change).objectAt ref = change (heap.objectAt ref) :=
  getD_modify_self h change

lemma arrayAt_modifyArray_self {ref : ArrayRef} (h : heap.Holds (.array ref))
    (change : Array Value → Array Value) :
    (heap.modifyArray ref change).arrayAt ref = change (heap.arrayAt ref) :=
  getD_modify_self h change

lemma functionAt_modifyFunction_self {ref : FunctionRef} (h : heap.Holds (.function ref))
    (change : FunctionCell → FunctionCell) :
    (heap.modifyFunction ref change).functionAt ref = change (heap.functionAt ref) :=
  getD_modify_self h change

/-! ## Arrays without loops -/

/-- A value is an array, and the other one is among its elements. -/
def Contains (heap : Heap) (v item : Value) : Prop :=
  ∃ ref, v = .array ref ∧ item ∈ (heap.arrayAt ref).toList

/-- Nothing that a value leads to through arrays leads back to itself. -/
def Loopless (heap : Heap) (v : Value) : Prop :=
  ∀ u, Relation.ReflTransGen heap.Contains v u → ¬ Relation.TransGen heap.Contains u u

/-- Anything but an array with elements is without loops. -/
lemma Loopless.of_bare {v : Value} (h : ∀ item, ¬ heap.Contains v item) : heap.Loopless v := by
  intro u hu hloop
  rcases Relation.ReflTransGen.cases_head hu with rfl | ⟨item, hitem, -⟩
  · obtain ⟨item, hitem, -⟩ := Relation.TransGen.head'_iff.mp hloop
    exact h item hitem
  · exact h item hitem

lemma mem_containers_of_contains {v item : Value} (h : heap.Contains v item) :
    v ∈ heap.containers := by
  obtain ⟨ref, rfl, hmem⟩ := h
  exact mem_containers_of_mem_arrayAt hmem

/-- The search for a number ends at any depth that exceeds the room. -/
lemma isSome_numberWithin {v : Value} (h : heap.Loopless v) :
    ∀ depth, heap.room [] < depth → (heap.numberWithin depth v).isSome := by
  refine induction_path (fun _ _ => mem_containers_of_contains) (P := fun path v =>
    ∀ depth, heap.room path < depth → (heap.numberWithin depth v).isSome) ?_ [] (by simp) h
  intro path v _ hbelow depth hroom
  obtain ⟨depth, rfl⟩ : ∃ d, depth = d + 1 := ⟨depth - 1, by omega⟩
  cases v with
  | array ref =>
    rcases hitems : (heap.arrayAt ref).toList with _ | ⟨item, _ | ⟨second, rest⟩⟩
    · simp [numberWithin, hitems]
    · obtain ⟨hless, hsome⟩ := hbelow item ⟨ref, rfl, by simp [hitems]⟩
      simpa [numberWithin, hitems] using hsome depth (by omega)
    · simp [numberWithin, hitems]
  | _ => simp [numberWithin]

/-- A value without loops below it has a number. -/
lemma isSome_number? {v : Value} (h : heap.Loopless v) : (heap.number? v).isSome := by
  have hroom : heap.room [] < heap.depthBound := Nat.lt_succ_of_le (heap.room_le [])
  exact isSome_numberWithin h _ hroom

/-! ## Elements -/

lemma getElem?_resize {items : Array Value} {n i : Nat} (h : i < n) :
    (resize items n)[i]? = some (items[i]?.getD .undefined) := by
  unfold resize
  split
  · next hless =>
    rw [Array.take_eq_extract, Array.getElem?_extract]
    simp [h, show i < items.size by omega]
  · rw [Array.getElem?_append]
    split
    · next hi => simp [hi]
    · next hi => simp [hi, show i - items.size < n - items.size by omega]

lemma size_storeAt {items : Array Value} {i : Nat} {v : Value} :
    (storeAt items i v).size = max items.size (i + 1) := by
  unfold storeAt
  split
  · simp only [Array.size_setIfInBounds]
    omega
  · simp only [Array.size_push, size_resize]
    omega

lemma getElem?_storeAt_self {items : Array Value} {i : Nat} {v : Value} :
    (storeAt items i v)[i]? = some v := by
  unfold storeAt
  split
  · next hi => simp [hi]
  · rw [Array.getElem?_push, size_resize, if_pos rfl]

lemma getElem?_storeAt_of_ne {items : Array Value} {i j : Nat} {v : Value} (hne : j ≠ i)
    (hj : j < max items.size (i + 1)) :
    (storeAt items i v)[j]? = some (items[j]?.getD .undefined) := by
  unfold storeAt
  split
  · next hi => simp [hne.symm, show j < items.size by omega]
  · next hi =>
    rw [Array.getElem?_push, size_resize, if_neg hne]
    exact getElem?_resize (by omega)

end Heap

/-! ## Reading what was written -/

/-- An array and its length. -/
def Value.IsLength (target : Value) (key : String) : Prop :=
  (∃ ref, target = .array ref) ∧ key = "length"

/-- An array and a key that is neither `length` nor the name of an element. -/
def Value.Lacks (target : Value) (key : String) : Prop :=
  (∃ ref, target = .array ref) ∧ key ≠ "length" ∧ arrayIndex? key = none

namespace Heap

variable {heap : Heap}

/-- The length of an array after a length was written. -/
lemma writeLength_cases (ref : ArrayRef) {x : Value} {y : Float} (hy : heap.number? x = some y) :
    (∃ n, lengthOf? y = some n ∧
      heap.writeLength ref x = (some .stored, heap.modifyArray ref (resize · n))) ∨
    (lengthOf? y = none ∧ heap.writeLength ref x = (some .invalidLength, heap)) := by
  unfold writeLength
  rw [hy]
  dsimp only
  cases hn : lengthOf? y with
  | none => exact .inr ⟨rfl, rfl⟩
  | some n => exact .inl ⟨n, rfl, rfl⟩

/-- What becomes of a write under a key that is not `length`. -/
lemma writeElement_cases (heap : Heap) (ref : ArrayRef) (key : String) (x : Value) :
    (arrayIndex? key = none ∧ heap.writeElement ref key x = (.stored, heap)) ∨
    (∃ i, arrayIndex? key = some i ∧ (i < maxArrayLength ∨ i < (heap.arrayAt ref).size) ∧
      heap.writeElement ref key x = (.stored, heap.modifyArray ref (storeAt · i x))) ∨
    (∃ i, arrayIndex? key = some i ∧ maxArrayLength ≤ i ∧ (heap.arrayAt ref).size ≤ i ∧
      heap.writeElement ref key x = (.invalidLength, heap)) := by
  unfold writeElement
  cases hi : arrayIndex? key with
  | none => exact .inl ⟨rfl, rfl⟩
  | some i =>
    refine .inr ?_
    by_cases hfits : i < maxArrayLength ∨ i < (heap.arrayAt ref).size
    · exact .inl ⟨i, rfl, hfits, if_pos (by simpa using hfits)⟩
    · rw [not_or, Nat.not_lt, Nat.not_lt] at hfits
      exact .inr ⟨i, rfl, hfits.1, hfits.2, if_neg (by simpa using hfits)⟩

lemma write_array_length (ref : ArrayRef) (x : Value) :
    heap.write (.array ref) "length" x = heap.writeLength ref x := rfl

lemma write_array_of_ne (heap : Heap) (ref : ArrayRef) {key : String} (x : Value)
    (hkey : key ≠ "length") :
    heap.write (.array ref) key x =
      (some (heap.writeElement ref key x).1, (heap.writeElement ref key x).2) :=
  if_neg hkey

lemma lengthOf?_eq_some {y : Float} {n : Nat} (h : lengthOf? y = some n) :
    Number.toNat? y = some n ∧ n ≤ maxArrayLength := by
  simpa [lengthOf?, Option.filter_eq_some_iff] using h

lemma maxArrayLength_lt : maxArrayLength < 2 ^ 53 := by decide

/-- The length that is read after one was written. -/
lemma get_length_resize {ref : ArrayRef} (href : heap.Holds (.array ref)) {y : Float} {n : Nat}
    (h : lengthOf? y = some n) :
    ((heap.modifyArray ref (resize · n)).get (.array ref) "length").strictEquals (.number y) := by
  obtain ⟨hnumber, hle⟩ := lengthOf?_eq_some h
  have hget : (heap.modifyArray ref (resize · n)).get (.array ref) "length" =
      .number (Number.ofNat n) := by
    simp [get, arrayProperty, arrayAt_modifyArray_self href]
  rw [hget]
  exact Number.ofNat_beq_of_toNat? hnumber (hle.trans_lt maxArrayLength_lt)

/-- The element that is read after it was written. -/
lemma get_storeAt {ref : ArrayRef} (href : heap.Holds (.array ref)) {key : String} {i : Nat}
    (hkey : key ≠ "length") (hi : arrayIndex? key = some i) (x : Value) :
    (heap.modifyArray ref (storeAt · i x)).get (.array ref) key = x := by
  simp [get, arrayProperty, hkey, hi, arrayAt_modifyArray_self href, getElem?_storeAt_self]

/-- What a write leaves to be read, by the answer that it gives. -/
structure ReadsBack (heap : Heap) (target : Value) (key : String) (x : Value) (outcome : Write)
    (later : Heap) : Prop where
  /-- A value that was not stored has changed nothing. -/
  refused : outcome ≠ .stored → later = heap
  /-- A value holds no properties exactly if it is no reference. -/
  dropped : outcome = .dropped ↔ target.isReference = false
  /-- The length of an array is equal to the number of the value. -/
  length : outcome = .stored → target.IsLength key →
    ∃ y, heap.number? x = some y ∧ (later.get target key).strictEquals (.number y)
  /-- Any other property is the value. -/
  stored : outcome = .stored → ¬ target.IsLength key → ¬ target.Lacks key → later.get target key = x
  /-- An array that lacks the key answers that it is there. -/
  lost : target.Lacks key → outcome = .stored ∧ later = heap

lemma readsBack_dropped {target x : Value} {key : String} (h : target.isReference = false) :
    heap.ReadsBack target key x .dropped heap where
  refused _ := rfl
  dropped := by simp [h]
  length hstored := by cases hstored
  stored hstored := by cases hstored
  lost hlacks := by
    obtain ⟨⟨ref, rfl⟩, -⟩ := hlacks
    cases h

lemma readsBack_refused {ref : ArrayRef} {x : Value} {key : String}
    (h : ¬ (Value.array ref).Lacks key) : heap.ReadsBack (.array ref) key x .invalidLength heap where
  refused _ := rfl
  dropped := by simp [Value.isReference]
  length hstored := by cases hstored
  stored hstored := by cases hstored
  lost hlacks := absurd hlacks h

/-- A value that is stored where it is read. -/
lemma readsBack_stored {target x : Value} {key : String} {later : Heap}
    (hreference : target.isReference = true) (hlength : ¬ target.IsLength key)
    (hlacks : ¬ target.Lacks key) (hget : later.get target key = x) :
    heap.ReadsBack target key x .stored later where
  refused hstored := absurd rfl hstored
  dropped := by simp [hreference]
  length _ h := absurd h hlength
  stored _ _ _ := hget
  lost h := absurd h hlacks

lemma readsBack_array {ref : ArrayRef} {x : Value} {key : String} (href : heap.Holds (.array ref))
    (hx : heap.Loopless x) :
    ∃ outcome later, heap.write (.array ref) key x = (some outcome, later) ∧
      heap.ReadsBack (.array ref) key x outcome later := by
  by_cases hkey : key = "length"
  · subst hkey
    have hhas : ¬ (Value.array ref).Lacks "length" := fun h => h.2.1 rfl
    obtain ⟨y, hy⟩ := Option.isSome_iff_exists.mp (isSome_number? hx)
    rw [write_array_length]
    rcases writeLength_cases ref hy with ⟨n, hn, hwrite⟩ | ⟨-, hwrite⟩
    · exact ⟨_, _, hwrite, fun h => absurd rfl h, by simp [Value.isReference],
        fun _ _ => ⟨y, hy, get_length_resize href hn⟩, fun _ h => absurd ⟨⟨ref, rfl⟩, rfl⟩ h,
        fun h => absurd h hhas⟩
    · exact ⟨_, _, hwrite, readsBack_refused hhas⟩
  · have hlength : ¬ (Value.array ref).IsLength key := fun h => hkey h.2
    rw [write_array_of_ne heap ref x hkey]
    rcases writeElement_cases heap ref key x with
      ⟨hnone, hwrite⟩ | ⟨i, hi, -, hwrite⟩ | ⟨i, hi, -, -, hwrite⟩
    · rw [hwrite]
      exact ⟨_, _, rfl, fun h => absurd rfl h, by simp [Value.isReference],
        fun _ h => absurd h hlength, fun _ _ h => absurd ⟨⟨ref, rfl⟩, hkey, hnone⟩ h,
        fun _ => ⟨rfl, rfl⟩⟩
    · rw [hwrite]
      exact ⟨_, _, rfl, readsBack_stored rfl hlength (by simp [Value.Lacks, hi])
        (get_storeAt href hkey hi x)⟩
    · rw [hwrite]
      exact ⟨_, _, rfl, readsBack_refused (by simp [Value.Lacks, hi])⟩

/-- **Writes are read back.**  Every write to a value that is there, of one without loops below it,
has an answer.  If the answer is that the value was stored, then it is what is read under the key
(as the length of an array, a number equal to that of the value), unless an array lacks the key.  If
it is any other, nothing has changed. -/
theorem write_reads_back {target x : Value} (key : String) (htarget : heap.Holds target)
    (hx : heap.Loopless x) :
    ∃ outcome later, heap.write target key x = (some outcome, later) ∧
      heap.ReadsBack target key x outcome later := by
  cases target with
  | object ref =>
    refine ⟨_, _, rfl, readsBack_stored rfl (by simp [Value.IsLength]) (by simp [Value.Lacks]) ?_⟩
    simp [get, objectAt_modifyObject_self htarget]
  | function ref =>
    refine ⟨_, _, rfl, readsBack_stored rfl (by simp [Value.IsLength]) (by simp [Value.Lacks]) ?_⟩
    simp [get, functionProperty, functionAt_modifyFunction_self htarget]
  | array ref => exact readsBack_array htarget hx
  | _ => exact ⟨_, _, rfl, readsBack_dropped rfl⟩

/-- A property of an array that is neither its length nor an element is lost. -/
example :
    let heap := { Heap.empty with arrays := #[#[.null]] }
    let written := heap.write (.array ⟨0⟩) "foo" (.boolean true)
    written.1 = some .stored ∧ written.2.get (.array ⟨0⟩) "foo" = .undefined := by decide +kernel

/-- An array is stored in another one, behind a gap. -/
theorem write_reads_back_gap :
    let heap := { Heap.empty with arrays := #[#[.null], #[]] }
    heap.Holds (.array ⟨0⟩) ∧ heap.Loopless (.array ⟨1⟩) ∧
      ∃ later, heap.write (.array ⟨0⟩) "2" (.array ⟨1⟩) = (some .stored, later) ∧
        later.get (.array ⟨0⟩) "2" = .array ⟨1⟩ := by
  intro heap
  have htarget : heap.Holds (.array ⟨0⟩) := Nat.zero_lt_two
  have hloopless : heap.Loopless (.array ⟨1⟩) := .of_bare fun item ⟨ref, href, hitem⟩ => by
    obtain rfl : ref = ⟨1⟩ := (Value.array.inj href).symm
    simp [heap, arrayAt] at hitem
  obtain ⟨outcome, later, hwrite, hreads⟩ := write_reads_back "2" htarget hloopless
  have hstored : outcome = .stored := by
    have : (heap.write (.array ⟨0⟩) "2" (.array ⟨1⟩)).1 = some .stored := by rfl
    rw [hwrite] at this
    exact Option.some.inj this
  have hindex : arrayIndex? "2" = some 2 := by rfl
  exact ⟨htarget, hloopless, later, hstored ▸ hwrite,
    hreads.stored hstored (fun h => absurd h.2 (by decide)) (by simp [Value.Lacks, hindex])⟩

end Heap

end ModuleRunner.Script
