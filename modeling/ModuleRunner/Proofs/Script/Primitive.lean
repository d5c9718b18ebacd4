import ModuleRunner.Proofs.Decimal.Conversion
import ModuleRunner.Proofs.Script.Rendering

/-!
# The number of a reference and its text

A reference converts to the number that its text converts to, but for some that are answered without
the text.  An array of one element has the number of the element, and so have arrays of one element
that hold one another, down to the first value that is no such array.  There the two conversions
part in three cases: `undefined` stands as an empty text in an array but has no number, a boolean
has a number but no numeral for a text, and an error has no number even if its name is a numeral.

* `Heap.ComesDownTo` — the path through arrays of one element.
* `Heap.Misread` — the values at whose end text and number part.
* `number?_agrees_iff` — when the number of a reference is that of its text.
-/

namespace ModuleRunner.Script.Heap

variable {heap : Heap}

/-! ## Arrays of one element -/

/-- A value is an array and the other one is its only element. -/
def Wraps (heap : Heap) (v item : Value) : Prop :=
  ∃ ref, v = .array ref ∧ (heap.arrayAt ref).toList = [item]

/-- Arrays of one element lead from a value to another one. -/
def ComesDownTo (heap : Heap) : Value → Value → Prop := Relation.ReflTransGen heap.Wraps

/-- The values that have a number but no numeral for a text, or the other way round: `undefined` and
booleans as elements, and errors with a numeral for a text. -/
def Misread (heap : Heap) : Value → Prop
  | .undefined | .boolean _ => True
  | .object ref => (heap.objectAt ref).isError = true ∧
      ∃ t, heap.text? (.object ref) = some t ∧ Number.isNaN (Number.ofText t) = false
  | _ => False

lemma not_wraps {ref : ArrayRef} (h : ∀ item, (heap.arrayAt ref).toList ≠ [item]) (item : Value) :
    ¬ heap.Wraps (.array ref) item := by
  rintro ⟨_, ⟨⟩, hitem⟩
  exact h item hitem

lemma comesDownTo_bare {v u : Value} (h : ∀ item, ¬ heap.Wraps v item)
    (hu : heap.ComesDownTo v u) : u = v := by
  rcases Relation.ReflTransGen.cases_head hu with rfl | ⟨item, hitem, -⟩
  · rfl
  · exact absurd hitem (h item)

/-- Nothing that a value comes down to is misread, if that is the value itself. -/
lemma clear_bare {v : Value} (h : ∀ item, ¬ heap.Wraps v item) :
    (∀ u, heap.ComesDownTo v u → ¬ heap.Misread u) ↔ ¬ heap.Misread v :=
  ⟨fun hclear => hclear v .refl, fun hv _ hu => comesDownTo_bare h hu ▸ hv⟩

/-- An array of one element comes down to what the element comes down to. -/
lemma clear_wraps {ref : ArrayRef} {item : Value} (h : (heap.arrayAt ref).toList = [item]) :
    (∀ u, heap.ComesDownTo (.array ref) u → ¬ heap.Misread u) ↔
      ∀ u, heap.ComesDownTo item u → ¬ heap.Misread u := by
  refine ⟨fun hclear u hu => hclear u (.head ⟨ref, rfl, h⟩ hu), fun hclear u hu => ?_⟩
  rcases Relation.ReflTransGen.cases_head hu with rfl | ⟨below, ⟨_, href, hbelow⟩, hu⟩
  · exact not_false
  · obtain rfl := Value.array.inj href
    obtain rfl : item = below := List.singleton_inj.mp (h.symm.trans hbelow)
    exact hclear u hu

/-! ## The two conversions -/

lemma text?_wraps {ref : ArrayRef} {item : Value} (h : heap.Printable (.array ref))
    (hitem : (heap.arrayAt ref).toList = [item]) :
    heap.text? (.array ref) = if item.isNullish then some "" else heap.text? item := by
  have hone (t? : Option String) :
      (List.mapM (fun _ : Value => t?) [item]).map (String.intercalate ",") = t? := by
    cases t? <;> simp
  rw [text?_array h, hitem, joined?]
  exact hone (if item.isNullish then some "" else heap.text? item)

/-- The elements of an array are printed with a comma between them. -/
lemma comma_mem_text? {ref : ArrayRef} {a b : Value} {rest : List Value} {t : String}
    (h : heap.Printable (.array ref)) (hitems : (heap.arrayAt ref).toList = a :: b :: rest)
    (ht : heap.text? (.array ref) = some t) : ',' ∈ t.toList := by
  rw [text?_array h, hitems, joined?, Option.map_eq_some_iff] at ht
  obtain ⟨ts, hts, rfl⟩ := ht
  simp only [List.mapM_cons, Option.bind_eq_bind, Option.bind_eq_some_iff, Option.pure_def,
    Option.some.injEq] at hts
  obtain ⟨first, -, _, ⟨second, -, more, -, rfl⟩, rfl⟩ := hts
  simp [String.intercalate_cons_cons]

/-- An object has no number, and its text is a numeral only if it is misread. -/
lemma agree_object {ref : ObjectRef} {t : String} (ht : heap.text? (.object ref) = some t) :
    Number.Agree Number.nan (Number.ofText t) ↔ ¬ heap.Misread (.object ref) := by
  rw [Number.agree_nan_iff]
  by_cases herror : (heap.objectAt ref).isError = true
  · simp only [Misread, herror, ht, true_and, Option.some.injEq, exists_eq_left']
    simp
  · have hplain : t = "[object Object]" :=
      Option.some.inj (ht.symm.trans (textWithin_plain _ (Bool.eq_false_of_not_eq_true herror)))
    rw [hplain, Number.ofText_of_isAlien (c := '[') (by decide) (by decide)]
    simp [Misread, herror, Number.isNaN_nan]

/-- A function has neither a number nor a numeral for a text. -/
lemma ofText_functionText (name : String) : Number.ofText (functionText name) = Number.nan :=
  Number.ofText_of_isAlien (c := '(') (by simp [functionText]) (by decide)

lemma ofText_empty : Number.ofText "" = 0 := by rfl

/-- The number of an element that is no reference against what its text converts to. -/
lemma agree_primitive {item : Value} {t : String} {x : Float} (hitem : item.isReference = false)
    (ht : (if item.isNullish then some "" else heap.text? item) = some t)
    (hx : heap.number? item = some x) :
    Number.Agree x (Number.ofText t) ↔ ¬ heap.Misread item := by
  cases item with
  | undefined =>
    obtain rfl : "" = t := Option.some.inj ht
    obtain rfl : Number.nan = x := Option.some.inj hx
    rw [Number.agree_nan_iff, ofText_empty]
    simp only [Misread, not_true, iff_false]
    decide
  | null =>
    obtain rfl : "" = t := Option.some.inj ht
    obtain rfl : 0 = x := Option.some.inj hx
    rw [ofText_empty]
    exact iff_of_true (Number.agree_self 0) not_false
  | boolean b =>
    obtain rfl : (if b then 1 else 0 : Float) = x := Option.some.inj hx
    refine iff_of_false (fun hagree => ?_) (not_not.mpr trivial)
    have hnan : Number.ofText t = Number.nan := by
      cases b with
      | false =>
        obtain rfl : "false" = t := Option.some.inj ht
        rfl
      | true =>
        obtain rfl : "true" = t := Option.some.inj ht
        rfl
    rw [hnan] at hagree
    have hnone := Number.agree_nan_iff.mp hagree.symm
    cases b <;> revert hnone <;> decide
  | number y =>
    obtain rfl : Number.text y = t := Option.some.inj ht
    obtain rfl : y = x := Option.some.inj hx
    exact iff_of_true (Number.ofText_text y).symm not_false
  | text s =>
    obtain rfl : s = t := Option.some.inj ht
    obtain rfl : Number.ofText s = x := Option.some.inj hx
    exact iff_of_true (Number.agree_self _) not_false
  | object ref => cases hitem
  | array ref => cases hitem
  | function ref => cases hitem

/-- The number of a reference against what its text converts to. -/
lemma agree_reference {v : Value} (h : heap.Printable v) :
    v.isReference = true → ∀ t x, heap.text? v = some t → heap.number? v = some x →
      (Number.Agree x (Number.ofText t) ↔ ∀ u, heap.ComesDownTo v u → ¬ heap.Misread u) := by
  refine Printable.induction (P := fun v => v.isReference = true → ∀ t x, heap.text? v = some t →
    heap.number? v = some x → (Number.Agree x (Number.ofText t) ↔
      ∀ u, heap.ComesDownTo v u → ¬ heap.Misread u)) ?_ h
  intro v hv ih href t x ht hx
  cases v with
  | object ref =>
    obtain rfl : Number.nan = x := Option.some.inj hx
    rw [agree_object ht, clear_bare (by rintro _ ⟨_, ⟨⟩, -⟩)]
  | function ref =>
    obtain rfl : functionText (heap.functionAt ref).name = t := Option.some.inj ht
    obtain rfl : Number.nan = x := Option.some.inj hx
    rw [ofText_functionText, clear_bare (by rintro _ ⟨_, ⟨⟩, -⟩)]
    exact iff_of_true (Number.agree_self _) not_false
  | array ref =>
    rcases hitems : (heap.arrayAt ref).toList with _ | ⟨item, _ | ⟨second, rest⟩⟩
    · have hbare : ∀ item, ¬ heap.Wraps (.array ref) item := not_wraps (by simp [hitems])
      rw [text?_array hv, hitems] at ht
      obtain rfl : "" = t := by simpa [joined?] using ht
      obtain rfl : 0 = x := by simpa [number?, depthBound, numberWithin, hitems] using hx
      rw [clear_bare hbare, ofText_empty]
      exact iff_of_true (Number.agree_self 0) not_false
    · rw [text?_wraps hv hitems] at ht
      rw [number?_single hv.loopless hitems] at hx
      rw [clear_wraps hitems]
      have hprints : heap.Prints (.array ref) item := .element (by simp [hitems])
      by_cases hitem : item.isReference = true
      · rw [if_neg (by simp [Value.not_isNullish_of_isReference hitem])] at ht
        exact ih item hprints hitem t x ht hx
      · have hprimitive := Bool.eq_false_of_not_eq_true hitem
        rw [agree_primitive hprimitive ht hx, clear_bare]
        rintro _ ⟨_, rfl, -⟩
        cases hprimitive
    · have hbare : ∀ item, ¬ heap.Wraps (.array ref) item := not_wraps (by simp [hitems])
      obtain rfl : Number.nan = x := by simpa [number?, depthBound, numberWithin, hitems] using hx
      rw [clear_bare hbare, Number.ofText_of_isAlien (comma_mem_text? hv hitems ht) (by decide)]
      exact iff_of_true (Number.agree_self _) not_false
  | _ => cases href

/-- **Numbers of references.**  A reference without loops to print has a text and a number, and the
number is the one that the text converts to (equal, or both `NaN`), unless the reference comes down,
through arrays of one element, to `undefined`, a boolean, or an error whose text is a numeral. -/
theorem number?_agrees_iff {r : Value} (href : r.isReference = true) (h : heap.Printable r) :
    ∃ t x, heap.text? r = some t ∧ heap.number? r = some x ∧
      (Number.Agree x (Number.ofText t) ↔ ∀ u, heap.ComesDownTo r u → ¬ heap.Misread u) := by
  obtain ⟨t, ht⟩ := Option.isSome_iff_exists.mp (isSome_text? h)
  obtain ⟨x, hx⟩ := Option.isSome_iff_exists.mp (isSome_number? h.loopless)
  exact ⟨t, x, ht, hx, agree_reference h href t x ht hx⟩

/-- `[[undefined]]`: its text is empty and converts to zero, and it has no number. -/
theorem number?_agrees_iff_hole :
    let heap := { Heap.empty with arrays := #[#[.array ⟨1⟩], #[.undefined]] }
    (Value.array ⟨0⟩).isReference = true ∧ heap.Printable (.array ⟨0⟩) ∧
      ∃ t x, heap.text? (.array ⟨0⟩) = some t ∧ heap.number? (.array ⟨0⟩) = some x ∧
        ¬ Number.Agree x (Number.ofText t) := by
  intro heap
  have hinner : heap.Printable (.array ⟨1⟩) := .of_flat (by
    show ∀ item ∈ [Value.undefined], item.isReference = false
    simp [Value.isReference])
  have houter : heap.Printable (.array ⟨0⟩) := .of_forall_prints fun u hu => by
    cases hu with
    | element hmem =>
      have hmem : u ∈ [Value.array ⟨1⟩] := hmem
      rw [List.mem_singleton.mp hmem]
      exact hinner
  have hdown : heap.ComesDownTo (.array ⟨0⟩) .undefined :=
    .head ⟨⟨0⟩, rfl, rfl⟩ (.single ⟨⟨1⟩, rfl, rfl⟩)
  obtain ⟨t, x, ht, hx, hiff⟩ := number?_agrees_iff rfl houter
  exact ⟨rfl, houter, t, x, ht, hx, fun hagree => hiff.mp hagree _ hdown trivial⟩

end ModuleRunner.Script.Heap
