import Mathlib.Tactic
import ModuleRunner.Script.Document

/-!
# The tree that a value unfolds to

Objects and arrays may share parts and may lead back to themselves, and a document is a tree.  So a
value is unfolded: whatever it leads to is written out wherever it is met, and a reference is cut off
at the places below itself, and at no others.

The rules of unfolding know no bound.  The search that makes documents has one, and it never gets
there: every step down puts another cell of the heap on the path, so the cells that are not on it
become fewer.

* `Unfolds` — the rules, with the references above a place as the path.
* `Unfolds.unique` — a value unfolds to one tree.
* `Heap.room` — how many cells a path has not met.
* `Heap.induction_path` — induction along a path that nothing on it leads back to.
* `unfolds_unfold` — the search finds the tree as long as its bound exceeds the room.
* `toJson_eq_iff` — every value unfolds to one tree, and its document is that tree.
-/

namespace ModuleRunner.Script

/-! ## The rules -/

/-- The document that a value unfolds to below the references of a path; no document where a function
or `undefined` is met. -/
inductive Unfolds (heap : Heap) : List Value → Value → Option Json → Prop where
  | undefined {path : List Value} : Unfolds heap path .undefined none
  | function {path : List Value} (ref : FunctionRef) : Unfolds heap path (.function ref) none
  | null {path : List Value} : Unfolds heap path .null (some .null)
  | boolean {path : List Value} (b : Bool) : Unfolds heap path (.boolean b) (some (.boolean b))
  | number {path : List Value} {x : Float} (h : Number.isFinite x = true) :
      Unfolds heap path (.number x) (some (.number x))
  /-- `NaN` and the infinities are no numbers of documents. -/
  | infinite {path : List Value} {x : Float} (h : Number.isFinite x = false) :
      Unfolds heap path (.number x) (some .null)
  | text {path : List Value} (s : String) : Unfolds heap path (.text s) (some (.text s))
  /-- An array below itself is cut off. -/
  | arrayCut {path : List Value} {ref : ArrayRef} (h : .array ref ∈ path) :
      Unfolds heap path (.array ref) (some .null)
  /-- An array anywhere else is written out; an element without document is `null` there. -/
  | array {path : List Value} {ref : ArrayRef} {document : Value → Option Json}
      (h : .array ref ∉ path)
      (hitems : ∀ item ∈ (heap.arrayAt ref).toList,
        Unfolds heap (.array ref :: path) item (document item)) :
      Unfolds heap path (.array ref)
        (some (.array ((heap.arrayAt ref).toList.map fun item => (document item).getD .null)))
  /-- An object below itself is cut off. -/
  | objectCut {path : List Value} {ref : ObjectRef} (h : .object ref ∈ path) :
      Unfolds heap path (.object ref) (some .null)
  /-- An object anywhere else is written out; a property without document is left out. -/
  | object {path : List Value} {ref : ObjectRef} {document : Value → Option Json}
      (h : .object ref ∉ path)
      (hproperties : ∀ entry ∈ (heap.objectAt ref).properties,
        Unfolds heap (.object ref :: path) entry.2 (document entry.2)) :
      Unfolds heap path (.object ref)
        (some (.object (Json.ofEntries ((heap.objectAt ref).properties.filterMap fun entry =>
          (document entry.2).map (entry.1, ·)))))

/-- A value unfolds to one tree. -/
theorem Unfolds.unique {heap : Heap} {path : List Value} {v : Value} {d d' : Option Json}
    (h : Unfolds heap path v d) (h' : Unfolds heap path v d') : d = d' := by
  induction h generalizing d' with
  | undefined => cases h'; rfl
  | function ref => cases h'; rfl
  | null => cases h'; rfl
  | boolean b => cases h'; rfl
  | text s => cases h'; rfl
  | number hfinite =>
      cases h' with
      | number _ => rfl
      | infinite hinfinite => rw [hfinite] at hinfinite; cases hinfinite
  | infinite hinfinite =>
      cases h' with
      | number hfinite => rw [hfinite] at hinfinite; cases hinfinite
      | infinite _ => rfl
  | arrayCut hmem =>
      cases h' with
      | arrayCut _ => rfl
      | array hnot _ => exact absurd hmem hnot
  | array hnot _ ih =>
      cases h' with
      | arrayCut hmem => exact absurd hmem hnot
      | array _ hitems =>
          congr 2
          refine List.map_congr_left fun item hmem => ?_
          rw [ih item hmem (hitems item hmem)]
  | objectCut hmem =>
      cases h' with
      | objectCut _ => rfl
      | object hnot _ => exact absurd hmem hnot
  | object hnot _ ih =>
      cases h' with
      | objectCut hmem => exact absurd hmem hnot
      | object _ hproperties =>
          congr 3
          refine List.filterMap_congr fun entry hmem => ?_
          rw [ih entry hmem (hproperties entry hmem)]

/-! ## The room of a path -/

/-- The references to all cells that hold others. -/
def Heap.containers (heap : Heap) : List Value :=
  (List.range heap.objects.size).map (.object ⟨·⟩) ++ (List.range heap.arrays.size).map (.array ⟨·⟩)

/-- The number of cells that are not on a path. -/
def Heap.room (heap : Heap) (path : List Value) : Nat :=
  (heap.containers.filter (· ∉ path)).length

namespace Heap

variable {heap : Heap} {path : List Value}

lemma room_le (heap : Heap) (path : List Value) :
    heap.room path ≤ heap.objects.size + heap.arrays.size := by
  refine (List.length_filter_le _ _).trans ?_
  simp [containers]

/-- A step down to a cell that is not on the path yet takes room. -/
lemma room_cons_lt {v : Value} (hv : v ∈ heap.containers) (hpath : v ∉ path) :
    heap.room (v :: path) < heap.room path := by
  have hsub : heap.containers.filter (· ∉ v :: path)
      = (heap.containers.filter (· ∉ path)).filter (· ≠ v) := by
    rw [List.filter_filter]
    refine List.filter_congr fun u _ => ?_
    simp [not_or]
  have hmem : v ∈ heap.containers.filter (· ∉ path) := by
    simpa [List.mem_filter] using ⟨hv, hpath⟩
  unfold room
  rw [hsub, List.length_filter_lt_length_iff_exists]
  exact ⟨v, hmem, by simp⟩

lemma mem_containers_object {ref : ObjectRef} :
    .object ref ∈ heap.containers ↔ ref.index < heap.objects.size := by
  obtain ⟨n⟩ := ref
  simp [containers]

lemma mem_containers_array {ref : ArrayRef} :
    .array ref ∈ heap.containers ↔ ref.index < heap.arrays.size := by
  obtain ⟨n⟩ := ref
  simp [containers]

/-- An array with an element is a cell of the heap. -/
lemma mem_containers_of_mem_arrayAt {ref : ArrayRef} {item : Value}
    (h : item ∈ (heap.arrayAt ref).toList) : .array ref ∈ heap.containers := by
  rw [mem_containers_array]
  by_contra hge
  have hempty : heap.arrayAt ref = #[] := by
    rw [arrayAt, Array.getD_eq_getD_getElem?, Array.getElem?_eq_none (Nat.le_of_not_lt hge)]
    rfl
  simp [hempty] at h

/-- The induction goes down a path on which every value leads to the next one.  Where nothing leads
back to itself none of them comes up again, so the path has less and less room. -/
lemma induction_path {r : Value → Value → Prop} (hcell : ∀ v u, r v u → v ∈ heap.containers)
    {P : List Value → Value → Prop}
    (step : ∀ path v, (∀ u, Relation.ReflTransGen r v u → ¬ Relation.TransGen r u u) →
      (∀ u, r v u → heap.room (v :: path) < heap.room path ∧ P (v :: path) u) → P path v)
    (path : List Value) {v : Value} (hpath : ∀ u ∈ path, Relation.TransGen r u v)
    (h : ∀ u, Relation.ReflTransGen r v u → ¬ Relation.TransGen r u u) : P path v := by
  obtain ⟨room, hroom⟩ : ∃ room, room = heap.room path := ⟨_, rfl⟩
  induction room using Nat.strongRecOn generalizing path v with
  | ind room ih =>
    refine step path v h fun u hu => ?_
    have hnew : v ∉ path := fun hmem => h v .refl (hpath v hmem)
    have hless := room_cons_lt (hcell v u hu) hnew
    have hbelow : ∀ w ∈ v :: path, Relation.TransGen r w u := by
      intro w hw
      rcases List.mem_cons.mp hw with rfl | hw
      · exact .single hu
      · exact .tail (hpath w hw) hu
    exact ⟨hless, ih _ (hroom ▸ hless) _ hbelow (fun w hw => h w (.head hu hw)) rfl⟩

/-- An object with a property is a cell of the heap. -/
lemma mem_containers_of_mem_objectAt {ref : ObjectRef} {entry : String × Value}
    (h : entry ∈ (heap.objectAt ref).properties) : .object ref ∈ heap.containers := by
  rw [mem_containers_object]
  by_contra hge
  have hempty : heap.objectAt ref = ⟨false, []⟩ := by
    rw [objectAt, Array.getD_eq_getD_getElem?, Array.getElem?_eq_none (Nat.le_of_not_lt hge)]
    rfl
  simp [hempty] at h

end Heap

/-! ## The search -/

/-- The search finds the tree of a value as long as its bound exceeds the room of the path. -/
theorem unfolds_unfold (heap : Heap) {bound : Nat} {path : List Value} (v : Value)
    (hroom : heap.room path < bound) : Unfolds heap path v (heap.unfold bound path v) := by
  induction bound generalizing path v with
  | zero => exact absurd hroom (Nat.not_lt_zero _)
  | succ bound ih =>
  have below {cell item : Value} (hcell : cell ∈ heap.containers) (hpath : cell ∉ path) :
      Unfolds heap (cell :: path) item (heap.unfold bound (cell :: path) item) :=
    ih item (by have := Heap.room_cons_lt hcell hpath; omega)
  cases v with
  | undefined => exact .undefined
  | function ref => exact .function ref
  | null => exact .null
  | boolean b => exact .boolean b
  | text s => exact .text s
  | number x =>
      simp only [Heap.unfold, Heap.numberToJson]
      split
      · next hfinite => exact .number hfinite
      · next hinfinite => exact .infinite (by simpa using hinfinite)
  | array ref =>
      simp only [Heap.unfold, List.contains_eq_mem, decide_eq_true_eq]
      split
      · next hmem => exact .arrayCut hmem
      · next hnot =>
          exact .array hnot fun item hitem =>
            below (Heap.mem_containers_of_mem_arrayAt hitem) hnot
  | object ref =>
      simp only [Heap.unfold, List.contains_eq_mem, decide_eq_true_eq]
      split
      · next hmem => exact .objectCut hmem
      · next hnot =>
          exact .object hnot fun entry hentry =>
            below (Heap.mem_containers_of_mem_objectAt hentry) hnot

/-- The search from the root finds the tree of a value. -/
lemma unfolds_root (heap : Heap) (v : Value) :
    Unfolds heap [] v (heap.unfold (heap.depthBound + 1) [] v) := by
  have hroom := heap.room_le []
  exact unfolds_unfold heap v (by unfold Heap.depthBound; omega)

lemma toJson_of_unfolds {heap : Heap} {v : Value} {tree : Option Json}
    (h : Unfolds heap [] v tree) : heap.toJson v = tree.getD .null := by
  rw [h.unique (unfolds_root heap v)]
  rfl

/-- **The document of a value.**  On every heap a value unfolds to one tree, and its document is that
tree; at the root `null` stands for a value that has none. -/
theorem toJson_eq_iff (heap : Heap) (v : Value) :
    (∃! tree, Unfolds heap [] v tree) ∧
      ∀ document, heap.toJson v = document ↔
        ∃ tree, Unfolds heap [] v tree ∧ tree.getD .null = document := by
  refine ⟨⟨_, unfolds_root heap v, fun other h => h.unique (unfolds_root heap v)⟩,
    fun document => ⟨?_, ?_⟩⟩
  · rintro rfl
    exact ⟨_, unfolds_root heap v, rfl⟩
  · rintro ⟨tree, htree, rfl⟩
    exact toJson_of_unfolds htree

/-- An object that holds itself, twice in an array: it is written out at both places, and cut off
below itself. -/
example :
    let heap : Heap := ⟨#[⟨false, [("self", .object ⟨0⟩), ("f", .function ⟨0⟩)]⟩],
      #[#[.object ⟨0⟩, .object ⟨0⟩, .undefined]], #[], #[]⟩
    heap.toJson (.array ⟨0⟩)
      = .array [.object [("self", .null)], .object [("self", .null)], .null] := rfl

end ModuleRunner.Script
