import ModuleRunner.Proofs.Script.Tryless
import ModuleRunner.Script.Document
import ModuleRunner.Script.Failure

/-!
# Realms

A realm is a part of the heap that nothing leads out of: cells, the native functions that they may
hold, and whether their code may catch failures.  It is chosen once, by the numbers of the cells, and
every cell that is yet to be made belongs to it.  So what reads or writes inside the realm, and what
is made from values inside, stays inside; each operation of the heap has its law here, and what runs
in the realm needs no other.

* `Realm` — the numbers of cells, the native functions, the code.
* `Realm.value`, `Realm.code`, `Realm.failure`, … — what is inside.
* `Row` — cells of one kind, with the laws of adding and changing one.
* `Realm.Closed` — a heap whose cells inside hold nothing from outside, with the laws of the heap's
  operations.
-/

namespace ModuleRunner.Script

/-- A part of the heap, and what its cells may hold. -/
structure Realm where
  /-- The objects inside. -/
  object : Nat → Prop
  /-- The arrays inside. -/
  array : Nat → Prop
  /-- The functions inside. -/
  function : Nat → Prop
  /-- The scopes inside. -/
  scope : Nat → Prop
  /-- The native functions that functions inside may be. -/
  native : Native → Prop
  /-- Whether code inside may catch failures. -/
  catches : Prop
  arrayMethod : ∀ method, native (.arrayMethod method)
  textMethod : ∀ method, native (.textMethod method)
  require : ∀ base, native (.require base)
  resolve : ∀ base, native (.resolve base)
  /-- A text that is evaluated may catch failures. -/
  evaluate : native (.reflection .evaluate) → catches

namespace Realm

variable (R : Realm)

/-! ## What is inside -/

/-- A value inside. -/
def value : Value → Prop
  | .object ref => R.object ref.index
  | .array ref => R.array ref.index
  | .function ref => R.function ref.index
  | _ => True

/-- Code of which it is known whether it catches nothing. -/
def allows (isTryless : Bool) : Prop := R.catches ∨ isTryless = true

/-- A source text whose code is allowed. -/
def source (text : String) : Prop := ∀ body, parse text = .ok body → R.allows (bodyIsTryless body)

/-- What a function inside may do. -/
def code : Code → Prop
  | .script literal scope => R.allows literal.isTryless ∧ R.scope scope.index
  | .native native => R.native native

/-- Properties with values inside. -/
def table (properties : Table Value) : Prop := ∀ entry ∈ properties, R.value entry.2

/-- What an object inside holds. -/
def objectCell (cell : ObjectCell) : Prop := R.table cell.properties

/-- What an array inside holds. -/
def items (items : Array Value) : Prop := ∀ item ∈ items, R.value item

/-- What a function inside holds. -/
def functionCell (cell : FunctionCell) : Prop := R.code cell.code ∧ R.table cell.properties

/-- What a scope inside holds. -/
def scopeCell (cell : ScopeCell) : Prop :=
  (∀ entry ∈ cell.bindings, R.value entry.2.value) ∧
    ∀ parent, cell.parent = some parent → R.scope parent.index

/-- A failure that carries nothing from outside. -/
def failure : Failure → Prop
  | .thrown value => R.value value
  | _ => True

/-- What a captured run may come to. -/
def outcome {α : Type} (Q : α → Prop) : Except Failure α → Prop
  | .ok a => Q a
  | .error failure => R.failure failure

variable {R}

lemma allows_and {a b : Bool} : R.allows (a && b) ↔ R.allows a ∧ R.allows b := by
  unfold allows
  rw [Bool.and_eq_true]
  exact or_and_left

lemma catches_of_allows (h : R.allows false) : R.catches := h.resolve_right Bool.false_ne_true

lemma table_put {properties : Table Value} (h : R.table properties) (key : String) {v : Value}
    (hv : R.value v) : R.table (Table.put key v properties) := by
  intro entry hmem
  rcases Table.mem_put hmem with rfl | hmem
  · exact hv
  · exact h entry hmem

/-- A property that is read, or `undefined`. -/
lemma table_getD {properties : Table Value} (h : R.table properties) (key : String) :
    R.value ((properties.get? key).getD .undefined) := by
  cases hget : properties.get? key with
  | none => trivial
  | some v => exact h (key, v) (Table.mem_of_get? hget)

lemma table_nil : R.table [] := by
  rintro entry ⟨⟩

end Realm

/-! ## Rows of cells -/

/-- Cells of one kind: those inside are as they have to be, and those yet to be made are inside. -/
structure Row {α : Type} [Inhabited α] (inside : Nat → Prop) (p : α → Prop) (cells : Array α) :
    Prop where
  cell : ∀ i, inside i → p (cells.getD i default)
  fresh : ∀ i, cells.size ≤ i → inside i

namespace Row

variable {α : Type} [Inhabited α] {inside : Nat → Prop} {p : α → Prop} {cells : Array α}

/-- A cell that was never made holds nothing. -/
lemma getD_of_size_le {i : Nat} (h : cells.size ≤ i) : cells.getD i default = default := by
  rw [Array.getD_eq_getD_getElem?, Array.getElem?_eq_none h]
  rfl

/-- The cells that are yet to be made. -/
lemma ofNew (h : p default) (cells : Array α) : Row (cells.size ≤ ·) p cells where
  cell _ hi := (getD_of_size_le hi).symm ▸ h
  fresh _ hi := hi

/-- A new cell. -/
lemma push (h : Row inside p cells) {x : α} (hx : p x) : Row inside p (cells.push x) where
  cell i hi := by
    by_cases hlast : i = cells.size
    · subst hlast
      simpa using hx
    · have hsame : (cells.push x).getD i default = cells.getD i default := by
        simp [Array.getD_eq_getD_getElem?, Array.getElem?_push, hlast]
      rw [hsame]
      exact h.cell i hi
  fresh i hi := h.fresh i (by rw [Array.size_push] at hi; omega)

/-- A changed cell. -/
lemma modify (h : Row inside p cells) (i : Nat) {f : α → α}
    (hf : inside i → p (f (cells.getD i default))) : Row inside p (cells.modify i f) where
  cell j hj := by
    by_cases hij : i = j
    · subst hij
      by_cases hlt : i < cells.size
      · have hhere : (cells.modify i f).getD i default = f (cells.getD i default) := by
          simp [Array.getD_eq_getD_getElem?, Array.getElem_modify, hlt]
        rw [hhere]
        exact hf hj
      · have hsame : (cells.modify i f).getD i default = cells.getD i default := by
          simp [Array.getD_eq_getD_getElem?, hlt]
        rw [hsame]
        exact h.cell i hj
    · have hsame : (cells.modify i f).getD j default = cells.getD j default := by
        simp [Array.getD_eq_getD_getElem?, Array.getElem?_modify, hij]
      rw [hsame]
      exact h.cell j hj
  fresh j hj := h.fresh j (by rwa [Array.size_modify] at hj)

end Row

/-! ## Closed heaps -/

/-- A heap whose cells inside hold nothing from outside. -/
structure Realm.Closed (R : Realm) (heap : Heap) : Prop where
  objects : Row R.object R.objectCell heap.objects
  arrays : Row R.array R.items heap.arrays
  functions : Row R.function R.functionCell heap.functions
  scopes : Row R.scope R.scopeCell heap.scopes

namespace Realm.Closed

variable {R : Realm}

section Heap

variable {heap : Heap} (h : R.Closed heap)

include h

/-! ### Allocation -/

lemma newObject {cell : ObjectCell} (hcell : R.objectCell cell) :
    R.object (heap.newObject cell).1.index ∧ R.Closed (heap.newObject cell).2 :=
  ⟨h.objects.fresh _ le_rfl, h.objects.push hcell, h.arrays, h.functions, h.scopes⟩

lemma newArray {items : Array Value} (hitems : R.items items) :
    R.array (heap.newArray items).1.index ∧ R.Closed (heap.newArray items).2 :=
  ⟨h.arrays.fresh _ le_rfl, h.objects, h.arrays.push hitems, h.functions, h.scopes⟩

lemma newFunction {cell : FunctionCell} (hcell : R.functionCell cell) :
    R.function (heap.newFunction cell).1.index ∧ R.Closed (heap.newFunction cell).2 :=
  ⟨h.functions.fresh _ le_rfl, h.objects, h.arrays, h.functions.push hcell, h.scopes⟩

lemma newScope {parent : Option ScopeRef} (hparent : ∀ s, parent = some s → R.scope s.index) :
    R.scope (heap.newScope parent).1.index ∧ R.Closed (heap.newScope parent).2 := by
  refine ⟨h.scopes.fresh _ le_rfl, h.objects, h.arrays, h.functions, h.scopes.push ⟨?_, hparent⟩⟩
  rintro entry ⟨⟩

/-! ### Changes -/

lemma modifyObject (ref : ObjectRef) {change : ObjectCell → ObjectCell}
    (hchange : ∀ cell, R.objectCell cell → R.objectCell (change cell)) :
    R.Closed (heap.modifyObject ref change) :=
  ⟨h.objects.modify ref.index fun href => hchange _ (h.objects.cell ref.index href), h.arrays,
    h.functions, h.scopes⟩

lemma modifyArray (ref : ArrayRef) {change : Array Value → Array Value}
    (hchange : ∀ items, R.items items → R.items (change items)) :
    R.Closed (heap.modifyArray ref change) :=
  ⟨h.objects, h.arrays.modify ref.index fun href => hchange _ (h.arrays.cell ref.index href),
    h.functions, h.scopes⟩

lemma modifyFunction (ref : FunctionRef) {change : FunctionCell → FunctionCell}
    (hchange : ∀ cell, R.functionCell cell → R.functionCell (change cell)) :
    R.Closed (heap.modifyFunction ref change) :=
  ⟨h.objects, h.arrays,
    h.functions.modify ref.index fun href => hchange _ (h.functions.cell ref.index href), h.scopes⟩

lemma modifyScope (ref : ScopeRef) {change : ScopeCell → ScopeCell}
    (hchange : ∀ cell, R.scopeCell cell → R.scopeCell (change cell)) :
    R.Closed (heap.modifyScope ref change) :=
  ⟨h.objects, h.arrays, h.functions,
    h.scopes.modify ref.index fun href => hchange _ (h.scopes.cell ref.index href)⟩

/-! ### Names -/

lemma ownBinding {scope : ScopeRef} {name : String} {binding : Binding}
    (hscope : R.scope scope.index) (hget : heap.ownBinding? scope name = some binding) :
    R.value binding.value :=
  (h.scopes.cell scope.index hscope).1 (name, binding) (Table.mem_of_get? hget)

/-- The walk outward that finds the holder of a name stays inside. -/
lemma holderWithin {name : String} {holder : ScopeRef} :
    ∀ {steps : Nat} {scope : ScopeRef}, R.scope scope.index →
      heap.holderWithin name steps scope = some holder → R.scope holder.index
  | 0, _, _, hfound => by cases hfound
  | steps + 1, scope, hscope, hfound => by
      rw [Heap.holderWithin] at hfound
      split at hfound
      · cases hfound
        exact hscope
      · split at hfound
        · cases hfound
        · next parent hparent =>
            exact holderWithin ((h.scopes.cell scope.index hscope).2 parent hparent) hfound

lemma lookup {scope : ScopeRef} {name : String} {v : Value} (hscope : R.scope scope.index)
    (hfound : heap.lookup scope name = some v) : R.value v := by
  rw [Heap.lookup, Option.bind_eq_some_iff] at hfound
  obtain ⟨holder, hholder, hbinding⟩ := hfound
  rw [Option.map_eq_some_iff] at hbinding
  obtain ⟨binding, hget, rfl⟩ := hbinding
  exact h.ownBinding (h.holderWithin hscope hholder) hget

lemma declare {scope : ScopeRef} (name : String) {v : Value} (isMutable : Bool) (hv : R.value v) :
    R.Closed (heap.declare scope name v isMutable) := by
  refine h.modifyScope scope fun cell hcell => ⟨fun entry hmem => ?_, hcell.2⟩
  rcases Table.mem_put hmem with rfl | hmem
  · exact hv
  · exact hcell.1 entry hmem

lemma assign {scope : ScopeRef} (name : String) {v : Value} (hv : R.value v) :
    R.Closed (heap.assign scope name v).2 := by
  unfold Heap.assign
  split
  · exact h
  · split
    · exact h.declare name true hv
    · exact h

/-! ### Properties -/

lemma get {v : Value} (key : String) (hv : R.value v) : R.value (heap.get v key) := by
  cases v with
  | object ref => exact table_getD (h.objects.cell ref.index hv) key
  | function ref =>
      have hcell := (h.functions.cell ref.index hv).2
      show R.value (Heap.functionProperty (heap.functionAt ref) key)
      unfold Heap.functionProperty
      split
      · next found hget => exact hcell (key, found) (Table.mem_of_get? hget)
      · split
        · trivial
        · split <;> trivial
  | array ref =>
      have hitems := h.arrays.cell ref.index hv
      show R.value (Heap.arrayProperty (heap.arrayAt ref) key)
      unfold Heap.arrayProperty
      split
      · trivial
      · cases hfound : (arrayIndex? key).bind fun i => (heap.arrayAt ref)[i]? with
        | none => trivial
        | some item =>
            obtain ⟨i, -, hitem⟩ := Option.bind_eq_some_iff.mp hfound
            exact hitems item (Array.mem_of_getElem? hitem)
  | text s =>
      show R.value (Heap.textProperty s key)
      unfold Heap.textProperty
      split
      · trivial
      · split <;> trivial
  | _ => trivial

omit h in
lemma resize {items : Array Value} (hitems : R.items items) (length : Nat) :
    R.items (Heap.resize items length) := by
  intro item hmem
  unfold Heap.resize at hmem
  split at hmem
  · rw [Array.take_eq_extract] at hmem
    obtain ⟨i, hi, rfl⟩ := Array.getElem_of_mem hmem
    rw [Array.getElem_extract]
    exact hitems _ (Array.getElem_mem _)
  · rcases Array.mem_append.mp hmem with hmem | hmem
    · exact hitems item hmem
    · rw [(Array.mem_replicate.mp hmem).2]
      trivial

omit h in
lemma storeAt {items : Array Value} (hitems : R.items items) (i : Nat) {v : Value}
    (hv : R.value v) : R.items (Heap.storeAt items i v) := by
  intro item hmem
  unfold Heap.storeAt at hmem
  split at hmem
  · rcases Array.mem_or_eq_of_mem_setIfInBounds hmem with hmem | rfl
    · exact hitems item hmem
    · exact hv
  · rcases Array.mem_push.mp hmem with hmem | rfl
    · exact resize hitems i item hmem
    · exact hv

lemma write {target : Value} (key : String) {v : Value} (hv : R.value v) :
    R.Closed (heap.write target key v).2 := by
  cases target with
  | object ref =>
      exact h.modifyObject ref fun cell hcell => table_put hcell key hv
  | function ref =>
      exact h.modifyFunction ref fun cell hcell => ⟨hcell.1, table_put hcell.2 key hv⟩
  | array ref =>
      simp only [Heap.write]
      split
      · unfold Heap.writeLength
        split
        · exact h
        · split
          · exact h
          · exact h.modifyArray ref fun _ hitems => resize hitems _
      · unfold Heap.writeElement
        split
        · exact h
        · split
          · exact h.modifyArray ref fun _ hitems => storeAt hitems _ hv
          · exact h
  | _ => exact h

end Heap

/-! ### Documents and failures -/

mutual

/-- The value of a document is made inside. -/
lemma ofJson {heap : Heap} (h : R.Closed heap) :
    ∀ document : Json, R.value (heap.ofJson document).1 ∧ R.Closed (heap.ofJson document).2
  | .null => ⟨trivial, h⟩
  | .boolean _ => ⟨trivial, h⟩
  | .number _ => ⟨trivial, h⟩
  | .text _ => ⟨trivial, h⟩
  | .array items => by
      have hitems := ofJsonItems h items
      exact newArray hitems.2 fun item hmem => hitems.1 item (List.mem_toArray.mp hmem)
  | .object entries => by
      have hentries := ofJsonEntries h entries
      exact newObject hentries.2 hentries.1

lemma ofJsonItems {heap : Heap} (h : R.Closed heap) :
    ∀ items : List Json, (∀ v ∈ (heap.ofJsonItems items).1, R.value v) ∧
      R.Closed (heap.ofJsonItems items).2
  | [] => ⟨by rintro v ⟨⟩, h⟩
  | item :: rest => by
      have hfirst := ofJson h item
      have hrest := ofJsonItems hfirst.2 rest
      refine ⟨fun v hmem => ?_, hrest.2⟩
      rcases List.mem_cons.mp hmem with rfl | hmem
      · exact hfirst.1
      · exact hrest.1 v hmem

lemma ofJsonEntries {heap : Heap} (h : R.Closed heap) :
    ∀ entries : List (String × Json), R.table (heap.ofJsonEntries entries).1 ∧
      R.Closed (heap.ofJsonEntries entries).2
  | [] => ⟨table_nil, h⟩
  | (key, item) :: rest => by
      have hfirst := ofJson h item
      have hrest := ofJsonEntries hfirst.2 rest
      refine ⟨fun entry hmem => ?_, hrest.2⟩
      rcases List.mem_cons.mp hmem with rfl | hmem
      · exact hfirst.1
      · exact hrest.1 entry hmem

end

lemma errorCell (name message : String) : R.objectCell (Failure.errorCell name message) := by
  intro entry hmem
  simp only [Failure.errorCell, List.mem_cons, List.not_mem_nil, or_false] at hmem
  rcases hmem with rfl | rfl <;> trivial

/-- What a handler is given is inside. -/
lemma caught {heap : Heap} (h : R.Closed heap) {failure : Failure} (hfailure : R.failure failure) :
    R.value (failure.caught heap).1 ∧ R.Closed (failure.caught heap).2 := by
  cases failure with
  | thrown v => exact ⟨hfailure, h⟩
  | _ => exact h.newObject (errorCell _ _)

end Realm.Closed

end ModuleRunner.Script
