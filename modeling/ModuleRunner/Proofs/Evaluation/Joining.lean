import ModuleRunner.Evaluation.Method
import ModuleRunner.Evaluation.Operator
import ModuleRunner.Proofs.Evaluation.Run
import ModuleRunner.Proofs.Script.Rendering

/-!
# Joined arrays

Three expressions make a text of an array: `join` alone, `join` with a comma, and adding an empty text.
The last goes down through nested arrays by itself; `join` looks at the elements only and asks each for its
text.  What they make is said here without either recursion, as a row of parts with commas between them, in
which nested arrays do not show: their parts stand where they are.

* `Heap.Parts` — the parts of a row of values.
* `Parts.joined?_eq` — a row is joined from its parts.
* `Printable.exists_parts` — an array without loops to print has parts.
* `array_text_parts` — what the three expressions make of it.
-/

namespace ModuleRunner.Script.Heap

variable {heap : Heap} {items : List Value} {parts : List String}

/-! ## Parts -/

/-- The parts of a row of values. -/
inductive Parts (heap : Heap) : List Value → List String → Prop where
  /-- No values have none. -/
  | nil : Parts heap [] []
  /-- `undefined` and `null` are an empty part. -/
  | hole {item : Value} {items : List Value} {parts : List String} :
      item.isNullish = true → Parts heap items parts → Parts heap (item :: items) ("" :: parts)
  /-- So is an array without elements. -/
  | bare {ref : ArrayRef} {items : List Value} {parts : List String} :
      (heap.arrayAt ref).toList = [] → Parts heap items parts →
      Parts heap (.array ref :: items) ("" :: parts)
  /-- The parts of any other array stand where it is. -/
  | nested {ref : ArrayRef} {items : List Value} {inner parts : List String} :
      (heap.arrayAt ref).toList ≠ [] → Parts heap (heap.arrayAt ref).toList inner →
      Parts heap items parts → Parts heap (.array ref :: items) (inner ++ parts)
  /-- Any other value is one part, its text. -/
  | other {item : Value} {items : List Value} {t : String} {parts : List String} :
      item.isNullish = false → (∀ ref, item ≠ .array ref) → heap.text? item = some t →
      Parts heap items parts → Parts heap (item :: items) (t :: parts)

lemma Parts.eq_nil_iff (h : heap.Parts items parts) : parts = [] ↔ items = [] := by
  induction h with
  | nil => simp
  | hole => simp
  | bare => simp
  | nested hitems _ _ hinner _ => simp [hinner, hitems]
  | other => simp

/-- A value in front of a row that is joined from parts: its text, made of parts of its own, in front of
theirs. -/
lemma joined?_cons {item : Value} (own : List String)
    (hitem : (if item.isNullish then some "" else heap.text? item) =
      some (String.intercalate "," own)) (hown : own ≠ [])
    (hitems : heap.joined? "," items = some (String.intercalate "," parts))
    (hnil : parts = [] ↔ items = []) :
    heap.joined? "," (item :: items) = some (String.intercalate "," (own ++ parts)) := by
  unfold joined? at hitems ⊢
  obtain ⟨texts, htexts, hsame⟩ := Option.map_eq_some_iff.mp hitems
  rw [List.mapM_cons, hitem, htexts]
  show some (String.intercalate "," (String.intercalate "," own :: texts)) = _
  cases items with
  | nil =>
      obtain rfl : texts = [] := by simpa using htexts
      rw [hnil.mpr rfl, List.append_nil, String.intercalate_singleton]
  | cons next rest =>
      have htexts : texts ≠ [] := by
        rintro rfl
        simp [List.mapM_cons, Option.bind_eq_some_iff] at htexts
      have hparts : parts ≠ [] := mt hnil.mp (List.cons_ne_nil _ _)
      rw [String.intercalate_cons_of_ne_nil htexts, String.intercalate_append_of_ne_nil hown hparts, hsame]

/-- A row of printable values is joined from its parts.  By induction on these: an array's own parts make its
text. -/
lemma Parts.joined?_eq (h : heap.Parts items parts) (hprint : ∀ item ∈ items, heap.Printable item) :
    heap.joined? "," items = some (String.intercalate "," parts) := by
  induction h with
  | nil => rfl
  | hole hitem hrest ih =>
      have hothers := ih (List.forall_mem_cons.mp hprint).2
      exact joined?_cons [""] (by rw [if_pos hitem]; rfl) (by simp) hothers hrest.eq_nil_iff
  | bare hitems hrest ih =>
      obtain ⟨hfirst, hothers⟩ := List.forall_mem_cons.mp hprint
      refine joined?_cons [""] ?_ (by simp) (ih hothers) hrest.eq_nil_iff
      show heap.text? (.array _) = _
      rw [text?_array hfirst, hitems]
      rfl
  | nested hitems hinner hrest ihinner ih =>
      obtain ⟨hfirst, hothers⟩ := List.forall_mem_cons.mp hprint
      refine joined?_cons _ ?_ (mt hinner.eq_nil_iff.mp hitems) (ih hothers) hrest.eq_nil_iff
      show heap.text? (.array _) = _
      rw [text?_array hfirst]
      exact ihinner fun item hmem => hfirst.of_prints (.element hmem)
  | other hitem _ htext hrest ih =>
      have hothers := ih (List.forall_mem_cons.mp hprint).2
      refine joined?_cons [_] ?_ (by simp) hothers hrest.eq_nil_iff
      rw [if_neg (by simp [hitem]), htext, String.intercalate_singleton]

/-- A row of printable values has parts if its arrays have. -/
lemma exists_parts_of_nested (hprint : ∀ item ∈ items, heap.Printable item)
    (hnested : ∀ ref, .array ref ∈ items → ∃ inner, heap.Parts (heap.arrayAt ref).toList inner) :
    ∃ parts, heap.Parts items parts := by
  induction items with
  | nil => exact ⟨[], .nil⟩
  | cons item items ih =>
      obtain ⟨hfirst, hothers⟩ := List.forall_mem_cons.mp hprint
      obtain ⟨parts, hparts⟩ := ih hothers fun ref hmem => hnested ref (List.mem_cons_of_mem _ hmem)
      by_cases hnull : item.isNullish = true
      · exact ⟨_, .hole hnull hparts⟩
      · by_cases harray : ∃ ref, item = .array ref
        · obtain ⟨ref, rfl⟩ := harray
          obtain ⟨inner, hinner⟩ := hnested ref List.mem_cons_self
          by_cases hitems : (heap.arrayAt ref).toList = []
          · exact ⟨_, .bare hitems hparts⟩
          · exact ⟨_, .nested hitems hinner hparts⟩
        · obtain ⟨t, ht⟩ := Option.isSome_iff_exists.mp (isSome_text? hfirst)
          have hsome : item.isNullish = false := Bool.eq_false_of_not_eq_true hnull
          exact ⟨_, .other hsome (fun ref heq => harray ⟨ref, heq⟩) ht hparts⟩

/-- An array without loops to print has parts, as the arrays in it have. -/
lemma Printable.exists_parts {ref : ArrayRef} (h : heap.Printable (.array ref)) :
    ∃ parts, heap.Parts (heap.arrayAt ref).toList parts := by
  suffices hall : ∀ ref', Value.array ref = .array ref' →
      ∃ parts, heap.Parts (heap.arrayAt ref').toList parts from hall ref rfl
  refine Printable.induction (P := fun v => ∀ ref', v = .array ref' →
    ∃ parts, heap.Parts (heap.arrayAt ref').toList parts) ?_ h
  rintro _ hv ih ref rfl
  exact exists_parts_of_nested (fun item hmem => hv.of_prints (.element hmem))
    fun inner hmem => ih _ (.element hmem) inner rfl

end ModuleRunner.Script.Heap

namespace ModuleRunner.Evaluation

open Script Run

variable {w : World} {ref : ArrayRef} {t : String}

/-! ## Expressions -/

/-- No separator is the same as a comma. -/
lemma arrayMethod_join (h : w.heap.joined? "," (w.heap.arrayAt ref).toList = some t) :
    arrayMethod .join (.array ref) [] w = .ok (.text t) w ∧
      arrayMethod .join (.array ref) [.text ","] w = .ok (.text t) w := by
  have hjoined : (do
      let joined ← readHeap fun heap => heap.joined? "," (heap.arrayAt ref).toList
      return Value.text (← ofOption joined) : Run Value) w = .ok (.text t) w := by
    rw [bind_readHeap, h]
    rfl
  have hcomma : text (.text ",") w = .ok "," w := rfl
  exact ⟨hjoined, (bind_of_ok hcomma).trans hjoined⟩

lemma binary_add_empty (h : w.heap.text? (.array ref) = some t) :
    binary .add (.array ref) (.text "") w = .ok (.text t) w := by
  have hempty : text (.text "") w = .ok "" w := rfl
  show (do let s ← text (.array ref); let t ← text (.text ""); return Value.text (s ++ t)) w = _
  rw [bind_of_ok (text_of_text? h), bind_of_ok hempty, String.append_empty]
  rfl

/-- **Joined arrays.**  The text of an array without loops to print is found at every depth beyond the
bound of the search.  It is the parts of the elements with commas between them, and so is what `join`
answers, with or without a comma, and what adding an empty text to the array does. -/
theorem array_text_parts (h : w.heap.Printable (.array ref)) :
    ∃ parts, w.heap.Parts (w.heap.arrayAt ref).toList parts ∧
      (∀ depth, w.heap.depthBound ≤ depth →
        w.heap.textWithin depth (.array ref) = some (String.intercalate "," parts)) ∧
      arrayMethod .join (.array ref) [] w = .ok (.text (String.intercalate "," parts)) w ∧
      arrayMethod .join (.array ref) [.text ","] w = .ok (.text (String.intercalate "," parts)) w ∧
      binary .add (.array ref) (.text "") w = .ok (.text (String.intercalate "," parts)) w := by
  obtain ⟨parts, hparts⟩ := h.exists_parts
  have hjoined := hparts.joined?_eq fun item hmem => h.of_prints (.element hmem)
  have htext := (Heap.text?_array h).trans hjoined
  obtain ⟨t, ht⟩ := h.textWithin_eq [] (by simp)
  have hdepth (depth : Nat) (hbound : w.heap.depthBound ≤ depth) :
      w.heap.textWithin depth (.array ref) = some (String.intercalate "," parts) := by
    rw [ht depth (w.heap.room_nil_lt.trans_le hbound), ← htext, Heap.text?, ht _ w.heap.room_nil_lt]
  exact ⟨parts, hparts, hdepth, (arrayMethod_join hjoined).1, (arrayMethod_join hjoined).2,
    binary_add_empty htext⟩

/-- An array with a nested one, nothing and an empty one. -/
theorem array_text_parts_nested :
    let w : World := { World.empty with heap := { Heap.empty with
      arrays := #[#[.array ⟨1⟩, .null, .array ⟨2⟩], #[.text "a", .undefined, .boolean true], #[]] } }
    w.heap.Printable (.array ⟨0⟩) ∧
      arrayMethod .join (.array ⟨0⟩) [] w = .ok (.text "a,,true,,") w ∧
      binary .add (.array ⟨0⟩) (.text "") w = .ok (.text "a,,true,,") w := by
  intro w
  have harray : w.heap.Printable (.array ⟨0⟩) := by
    refine .of_forall_prints fun item hprints => ?_
    obtain ⟨hmem⟩ := hprints
    have hmem : item ∈ [Value.array ⟨1⟩, .null, .array ⟨2⟩] := hmem
    simp only [List.mem_cons, List.not_mem_nil, or_false] at hmem
    rcases hmem with rfl | rfl | rfl
    · refine .of_flat ?_
      show ∀ item ∈ [Value.text "a", .undefined, .boolean true], item.isReference = false
      simp [Value.isReference]
    · exact .of_primitive rfl
    · refine .of_flat ?_
      show ∀ item ∈ ([] : List Value), item.isReference = false
      simp
  obtain ⟨parts, -, hdepth, hjoin, -, hadd⟩ := array_text_parts harray
  have htext : w.heap.textWithin w.heap.depthBound (.array ⟨0⟩) = some "a,,true,," := by rfl
  rw [hdepth _ le_rfl] at htext
  rw [Option.some.inj htext] at hjoin hadd
  exact ⟨harray, hjoin, hadd⟩

end ModuleRunner.Evaluation
