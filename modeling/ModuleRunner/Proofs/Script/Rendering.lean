import ModuleRunner.Proofs.Script.Writing
import ModuleRunner.Script.Conversion

/-!
# Values that print

The text of a value is made of the texts of others: of an array's elements, and of an error's name.
A value that comes down through those to no loop has a text.  The search for it has a bound, and
every step down puts another cell on the path; so it ends before the bound is reached, and finds the
same text under every larger one.

* `Heap.Prints`, `Heap.Printable` — what a text is made of; no loop is reachable.
* `Printable.induction` — a property goes from what a value prints over to the value.
* `isSome_text?` — a printable value has a text.
* `text?_array`, `text?_error` — the text of an array and of an error, without the bound.
* `number?_single` — the number of an array with one element, without the bound.
-/

namespace ModuleRunner.Script

lemma Value.not_isNullish_of_isReference {a : Value} (h : a.isReference = true) :
    a.isNullish = false := by
  cases a <;> first | rfl | cases h

namespace Heap

variable {heap : Heap}

/-! ## What a text is made of -/

/-- A value is an array and the other one is among its elements, or an error and the other one is
its name. -/
inductive Prints (heap : Heap) : Value → Value → Prop where
  | element {ref : ArrayRef} {item : Value} (h : item ∈ (heap.arrayAt ref).toList) :
      Prints heap (.array ref) item
  | name {ref : ObjectRef} {name : Value} (herror : (heap.objectAt ref).isError = true)
      (h : (heap.objectAt ref).properties.get? "name" = some name) : Prints heap (.object ref) name

/-- No loop through arrays and names of errors can be reached from a value. -/
def Printable (heap : Heap) (v : Value) : Prop :=
  ∀ u, Relation.ReflTransGen heap.Prints v u → ¬ Relation.TransGen heap.Prints u u

lemma Printable.of_prints {v u : Value} (h : heap.Printable v) (hu : heap.Prints v u) :
    heap.Printable u :=
  fun w hw => h w (.head hu hw)

/-- A value that prints printable values only is printable. -/
lemma Printable.of_forall_prints {v : Value} (h : ∀ u, heap.Prints v u → heap.Printable u) :
    heap.Printable v := by
  intro u hu hloop
  rcases Relation.ReflTransGen.cases_head hu with rfl | ⟨item, hitem, hu⟩
  · obtain ⟨item, hitem, hback⟩ := Relation.TransGen.head'_iff.mp hloop
    exact h item hitem item .refl (.tail' hback hitem)
  · exact h item hitem u hu hloop

/-- A value that is no reference is printable. -/
lemma Printable.of_primitive {v : Value} (h : v.isReference = false) : heap.Printable v :=
  .of_forall_prints fun u hu => by cases hu <;> cases h

/-- An array of values that are no references is printable. -/
lemma Printable.of_flat {ref : ArrayRef}
    (h : ∀ item ∈ (heap.arrayAt ref).toList, item.isReference = false) :
    heap.Printable (.array ref) :=
  .of_forall_prints fun u hu => by
    cases hu with
    | element hmem => exact .of_primitive (h u hmem)

/-- A value without loops to print is one without loops of arrays. -/
lemma Printable.loopless {v : Value} (h : heap.Printable v) : heap.Loopless v := by
  have hsub : ∀ a b, heap.Contains a b → heap.Prints a b := by
    rintro _ b ⟨ref, rfl, hmem⟩
    exact .element hmem
  exact fun u hu hloop => h u (Relation.ReflTransGen.mono hsub _ _ hu)
    (Relation.TransGen.mono hsub _ _ hloop)

/-- What prints another value is a cell of the heap. -/
lemma mem_containers_of_prints {v u : Value} (h : heap.Prints v u) : v ∈ heap.containers := by
  cases h with
  | element hmem => exact mem_containers_of_mem_arrayAt hmem
  | name herror h =>
    exact mem_containers_of_mem_objectAt (Table.mem_of_get? h)

/-! ## Induction -/

/-- What holds of a printable value if it holds of those that it prints holds of all printable
values. -/
lemma Printable.induction {P : Value → Prop}
    (step : ∀ v, heap.Printable v → (∀ u, heap.Prints v u → P u) → P v) {v : Value}
    (h : heap.Printable v) : P v :=
  induction_path (fun _ _ => mem_containers_of_prints) (P := fun _ v => P v)
    (fun _ v hv hbelow => step v hv fun u hu => (hbelow u hu).2) [] (by simp) h

/-! ## The search for a text -/

/-- What is found for each element from some depth on is found for all of them. -/
lemma exists_mapM_eq {α β : Type} {f : Nat → α → Option β} {n : Nat} {l : List α}
    (h : ∀ a ∈ l, ∃ b, ∀ d, n ≤ d → f d a = some b) :
    ∃ bs, ∀ d, n ≤ d → l.mapM (f d) = some bs := by
  induction l with
  | nil => exact ⟨[], fun _ _ => rfl⟩
  | cons a l ih =>
    obtain ⟨b, hb⟩ := h a List.mem_cons_self
    obtain ⟨bs, hbs⟩ := ih fun c hc => h c (List.mem_cons_of_mem a hc)
    exact ⟨b :: bs, fun d hd => by simp [hb d hd, hbs d hd]⟩

lemma mapM_congr {α β : Type} {f g : α → Option β} {l : List α} (h : ∀ a ∈ l, f a = g a) :
    l.mapM f = l.mapM g := by
  induction l with
  | nil => rfl
  | cons a l ih =>
    rw [List.mapM_cons, List.mapM_cons, h a List.mem_cons_self,
      ih fun c hc => h c (List.mem_cons_of_mem a hc)]

/-- The text of an element within a depth: `undefined` and `null` have none. -/
def elementWithin (heap : Heap) (depth : Nat) (item : Value) : Option String :=
  if item.isNullish then some "" else heap.textWithin depth item

lemma textWithin_array (heap : Heap) (depth : Nat) (ref : ArrayRef) :
    heap.textWithin (depth + 1) (.array ref) =
      ((heap.arrayAt ref).toList.mapM (heap.elementWithin depth)).map (String.intercalate ",") :=
  rfl

/-- The name of an error; it need not be a text. -/
def nameOf (heap : Heap) (ref : ObjectRef) : Value :=
  ((heap.objectAt ref).properties.get? "name").getD .undefined

/-- The message of an error. -/
def messageOf (heap : Heap) (ref : ObjectRef) : Value :=
  ((heap.objectAt ref).properties.get? "message").getD .undefined

lemma textWithin_error (depth : Nat) {ref : ObjectRef} (h : (heap.objectAt ref).isError = true) :
    heap.textWithin (depth + 1) (.object ref) =
      (heap.textWithin depth (heap.nameOf ref)).map fun name =>
        errorText name (heap.messageOf ref) := by
  rw [textWithin, if_pos h]
  rfl

lemma textWithin_plain (depth : Nat) {ref : ObjectRef} (h : (heap.objectAt ref).isError = false) :
    heap.textWithin depth (.object ref) = some "[object Object]" := by
  have hplain : ¬ (heap.objectAt ref).isError = true := by simp [h]
  cases depth with
  | zero => exact if_neg hplain
  | succ depth => exact if_neg hplain

/-- The name of an error is what it prints, or nothing. -/
lemma nameOf_cases {ref : ObjectRef} (h : (heap.objectAt ref).isError = true) :
    heap.Prints (.object ref) (heap.nameOf ref) ∨ heap.nameOf ref = .undefined := by
  unfold nameOf
  cases hname : (heap.objectAt ref).properties.get? "name" with
  | none => exact .inr rfl
  | some name => exact .inl (.name h hname)

/-- Below a path, the search for a text ends at any depth that exceeds the room of the path, and
always with the same text. -/
lemma Printable.textWithin_eq (path : List Value) {v : Value}
    (hpath : ∀ u ∈ path, Relation.TransGen heap.Prints u v) (h : heap.Printable v) :
    ∃ t, ∀ depth, heap.room path < depth → heap.textWithin depth v = some t := by
  refine induction_path (fun _ _ => mem_containers_of_prints) (P := fun path v =>
    ∃ t, ∀ depth, heap.room path < depth → heap.textWithin depth v = some t) ?_ path hpath h
  intro path v hv hbelow
  have hdepth {depth : Nat} (hroom : heap.room path < depth) :
      ∃ d, depth = d + 1 ∧ heap.room path ≤ d := ⟨depth - 1, by omega, by omega⟩
  cases v with
  | array ref =>
    have hitem : ∀ item ∈ (heap.arrayAt ref).toList,
        ∃ t, ∀ d, heap.room path ≤ d → heap.elementWithin d item = some t := by
      intro item hmem
      obtain ⟨hless, t, ht⟩ := hbelow item (.element hmem)
      unfold elementWithin
      split
      · exact ⟨"", fun _ _ => rfl⟩
      · exact ⟨t, fun d hd => ht d (hless.trans_le hd)⟩
    obtain ⟨ts, hts⟩ := exists_mapM_eq hitem
    refine ⟨String.intercalate "," ts, fun depth hroom => ?_⟩
    obtain ⟨d, rfl, hd⟩ := hdepth hroom
    rw [textWithin_array, hts d hd, Option.map_some]
  | object ref =>
    by_cases herror : (heap.objectAt ref).isError = true
    · obtain ⟨name, hname⟩ : ∃ name, ∀ d, heap.room path ≤ d →
          heap.textWithin d (heap.nameOf ref) = some name := by
        rcases nameOf_cases herror with hprints | hnone
        · obtain ⟨hless, t, ht⟩ := hbelow _ hprints
          exact ⟨t, fun d hd => ht d (hless.trans_le hd)⟩
        · exact ⟨"undefined", fun d _ => by rw [hnone]; cases d <;> rfl⟩
      refine ⟨errorText name (heap.messageOf ref), fun depth hroom => ?_⟩
      obtain ⟨d, rfl, hd⟩ := hdepth hroom
      rw [textWithin_error d herror, hname d hd, Option.map_some]
    · exact ⟨_, fun depth _ => textWithin_plain depth (Bool.eq_false_of_not_eq_true herror)⟩
  | undefined | null | number | text | function =>
    exact ⟨_, fun depth _ => by cases depth <;> rfl⟩
  | boolean b => cases b <;> exact ⟨_, fun depth _ => by cases depth <;> rfl⟩

/-! ## Texts -/

lemma room_nil_lt (heap : Heap) : heap.room [] < heap.depthBound :=
  Nat.lt_succ_of_le (heap.room_le [])

/-- A printable value has a text. -/
lemma isSome_text? {v : Value} (h : heap.Printable v) : (heap.text? v).isSome := by
  obtain ⟨t, ht⟩ := h.textWithin_eq [] (by simp)
  rw [text?, ht _ heap.room_nil_lt, Option.isSome_some]

/-- The bound of the search does not show one step below a value. -/
lemma textWithin_below {v u : Value} (h : heap.Printable v) (hu : heap.Prints v u) :
    heap.textWithin (heap.objects.size + heap.arrays.size) u = heap.text? u := by
  obtain ⟨t, ht⟩ := (h.of_prints hu).textWithin_eq [v] (by
    intro w hw
    rw [List.mem_singleton.mp hw]
    exact .single hu)
  have hless : heap.room [v] < heap.room [] :=
    room_cons_lt (mem_containers_of_prints hu) (by simp)
  have hroom := heap.room_le []
  rw [text?, ht _ (by omega), ht _ (by unfold depthBound; omega)]

/-- **The text of an array** is made of the texts of its elements. -/
theorem text?_array {ref : ArrayRef} (h : heap.Printable (.array ref)) :
    heap.text? (.array ref) = heap.joined? "," (heap.arrayAt ref).toList := by
  unfold joined? text? depthBound
  rw [textWithin_array]
  congr 1
  refine mapM_congr fun item hmem => ?_
  unfold elementWithin
  split
  · rfl
  · exact textWithin_below h (.element hmem)

/-- **The text of an error** is made of the text of its name. -/
theorem text?_error {ref : ObjectRef} (h : heap.Printable (.object ref))
    (herror : (heap.objectAt ref).isError = true) :
    heap.text? (.object ref) =
      (heap.text? (heap.nameOf ref)).map fun name => errorText name (heap.messageOf ref) := by
  have hname : heap.textWithin (heap.objects.size + heap.arrays.size) (heap.nameOf ref) =
      heap.text? (heap.nameOf ref) := by
    rcases nameOf_cases herror with hprints | hnone
    · exact textWithin_below h hprints
    · rw [hnone, text?]
      cases heap.objects.size + heap.arrays.size <;> rfl
  rw [← hname]
  exact textWithin_error _ herror

/-! ## Numbers -/

/-- A number that was found is found at any greater depth. -/
lemma numberWithin_of_le {depth depth' : Nat} {v : Value} {x : Float} (hle : depth ≤ depth')
    (h : heap.numberWithin depth v = some x) : heap.numberWithin depth' v = some x := by
  induction depth generalizing depth' v with
  | zero =>
    cases v with
    | array ref =>
      rcases hitems : (heap.arrayAt ref).toList with _ | ⟨item, _ | ⟨second, rest⟩⟩ <;>
        simp [numberWithin, hitems] at h ⊢ <;> exact h
    | _ => simpa [numberWithin] using h
  | succ depth ih =>
    obtain ⟨depth', rfl⟩ : ∃ d, depth' = d + 1 := ⟨depth' - 1, by omega⟩
    cases v with
    | array ref =>
      rcases hitems : (heap.arrayAt ref).toList with _ | ⟨item, _ | ⟨second, rest⟩⟩
      · simpa [numberWithin, hitems] using h
      · simp only [numberWithin, hitems] at h ⊢
        exact ih (by omega) h
      · simpa [numberWithin, hitems] using h
    | _ => simpa [numberWithin] using h

/-- **The number of an array with one element** is that of the element. -/
theorem number?_single {ref : ArrayRef} {item : Value} (h : heap.Loopless (.array ref))
    (hitems : (heap.arrayAt ref).toList = [item]) :
    heap.number? (.array ref) = heap.number? item := by
  obtain ⟨x, hx⟩ := Option.isSome_iff_exists.mp (isSome_number? h)
  rw [hx, eq_comm]
  have hone : heap.numberWithin (heap.objects.size + heap.arrays.size) item = some x := by
    rw [← hx, number?, depthBound, numberWithin, hitems]
  exact numberWithin_of_le (Nat.le_succ _) hone

end Heap

end ModuleRunner.Script
