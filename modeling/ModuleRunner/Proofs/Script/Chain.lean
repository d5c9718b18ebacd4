import ModuleRunner.Proofs.Script.Scope

/-!
# Chains of scopes

A name is looked up outward, from scope to scope, and the walk takes as many steps at most as the number
of its first scope tells.  That is enough wherever the scope around a scope is older: then the walk goes
by everything that stands around, and a name that is bound in one of the scopes that it leads to is found.

Runs add scopes and bind names, and take nothing away.  So what a walk leads to, and that a name is found,
lasts.

* `Heap.Grows` — scopes are added and names are bound, and no more.
* `Heap.Bound` — a scope binds names by now.
* `Heap.Within` — the scopes that a walk outward leads to.
* `Heap.Layered` — the scope around a scope is older.
* `Heap.Clear` — a walk outward past scopes that do not bind a name.
* `Heap.Finds` — a name is found, for reading and for assigning.
-/

namespace ModuleRunner.Script.Heap

/-! ## Heaps that grow -/

/-- Scopes are added and names are bound.  What stands around a scope stays there, and what is bound
stays bound. -/
structure Grows (heap heap' : Heap) : Prop where
  size : heap.scopes.size ≤ heap'.scopes.size
  parent : ∀ s : ScopeRef, s.index < heap.scopes.size →
    (heap'.scopeAt s).parent = (heap.scopeAt s).parent
  binds : ∀ s name, (heap.ownBinding? s name).isSome → (heap'.ownBinding? s name).isSome

namespace Grows

variable {heap heap' heap'' : Heap}

/-- A scope that is there stays. -/
lemma made {s : ScopeRef} (h : heap.Grows heap') (hs : s.index < heap.scopes.size) :
    s.index < heap'.scopes.size :=
  hs.trans_le h.size

lemma refl (heap : Heap) : heap.Grows heap := ⟨le_rfl, fun _ _ => rfl, fun _ _ => id⟩

lemma trans (h : heap.Grows heap') (h' : heap'.Grows heap'') : heap.Grows heap'' :=
  ⟨h.size.trans h'.size,
    fun s hs => (h'.parent s (h.made hs)).trans (h.parent s hs),
    fun s name hbound => h'.binds s name (h.binds s name hbound)⟩

/-- Where nothing is added. -/
lemma of_alike (h : heap.Alike heap') : heap.Grows heap' :=
  ⟨h.size.ge, fun s _ => h.parent s, fun s name hbound => by rwa [h.binds]⟩

lemma newScope (heap : Heap) (parent : Option ScopeRef) : heap.Grows (heap.newScope parent).2 := by
  refine ⟨?_, fun s hs => ?_, fun s name hbound => ?_⟩
  · rw [size_newScope]
    exact Nat.le_succ _
  · rw [scopeAt_newScope_of_lt _ _ hs]
  · rwa [ownBinding?, scopeAt_newScope_of_lt _ _ (lt_of_ownBinding? hbound)]

lemma newFunction (heap : Heap) (cell : FunctionCell) : heap.Grows (heap.newFunction cell).2 :=
  ⟨le_rfl, fun _ _ => rfl, fun _ _ => id⟩

lemma declare (heap : Heap) (scope : ScopeRef) (name : String) (value : Value) (isMutable : Bool) :
    heap.Grows (heap.declare scope name value isMutable) :=
  ⟨(size_declare ..).ge, fun _ _ => parent_declare .., fun _ _ => isSome_ownBinding?_declare _ _⟩

end Grows

/-- A scope that was there before binds names now. -/
def Bound (heap heap' : Heap) (scope : ScopeRef) (names : List String) : Prop :=
  scope.index < heap.scopes.size → ∀ name ∈ names, (heap'.ownBinding? scope name).isSome

namespace Bound

variable {heap heap' heap'' : Heap} {scope : ScopeRef} {name : String} {names : List String}

lemma nil : heap.Bound heap' scope [] := fun _ _ h => nomatch h

lemma cons (hfirst : heap.Bound heap' scope [name]) (hrest : heap.Bound heap' scope names) :
    heap.Bound heap' scope (name :: names) := fun hmade =>
  List.forall_mem_cons.mpr ⟨hfirst hmade name List.mem_cons_self, hrest hmade⟩

lemma append {names' : List String} (h : heap.Bound heap' scope names)
    (h' : heap.Bound heap' scope names') : heap.Bound heap' scope (names ++ names') :=
  fun hmade => List.forall_mem_append.mpr ⟨h hmade, h' hmade⟩

lemma of_isSome (h : (heap'.ownBinding? scope name).isSome) : heap.Bound heap' scope [name] :=
  fun _ _ hmem => List.mem_singleton.mp hmem ▸ h

lemma declare (heap : Heap) (scope : ScopeRef) (name : String) (value : Value) (isMutable : Bool) :
    heap.Bound (heap.declare scope name value isMutable) scope [name] := by
  intro hmade other hmem
  rw [List.mem_singleton.mp hmem, ownBinding?_declare_self _ _ _ _ _ hmade]
  rfl

/-- What is bound stays bound. -/
lemma later (h : heap.Bound heap' scope names) (hgrows : heap'.Grows heap'') :
    heap.Bound heap'' scope names :=
  fun hmade name hname => hgrows.binds scope name (h hmade name hname)

/-- What was there before is there. -/
lemma sooner (h : heap'.Bound heap'' scope names) (hgrows : heap.Grows heap') :
    heap.Bound heap'' scope names :=
  fun hmade => h (hgrows.made hmade)

end Bound

/-! ## Walks outward -/

/-- A walk outward from a scope leads to another one. -/
inductive Within (heap : Heap) (target : ScopeRef) : ScopeRef → Prop where
  | here : Within heap target target
  | outward {s parent : ScopeRef} (hparent : (heap.scopeAt s).parent = some parent)
      (hrest : Within heap target parent) : Within heap target s

section Within

variable {heap heap' : Heap} {target s : ScopeRef}

/-- Where a walk led once, it leads for ever. -/
lemma Within.grows (h : heap.Within target s) (hgrows : heap.Grows heap') : heap'.Within target s := by
  induction h with
  | here => exact .here
  | outward hparent _ ih =>
      exact .outward ((hgrows.parent _ (lt_of_parent hparent)).trans hparent) ih

/-- A new scope leads where the one around it leads. -/
lemma Within.newScope (h : heap.Within target s) :
    (heap.newScope (some s)).2.Within target (heap.newScope (some s)).1 := by
  refine .outward ?_ (h.grows (.newScope _ _))
  rw [scopeAt_newScope_self]

end Within

/-! ## Layers -/

/-- The scope around a scope is older. -/
def Layered (heap : Heap) : Prop :=
  ∀ s parent, (heap.scopeAt s).parent = some parent → parent.index < s.index

namespace Layered

variable {heap heap' : Heap}

lemma of_parent (h : heap.Layered) (hparent : ∀ s, (heap'.scopeAt s).parent = (heap.scopeAt s).parent) :
    heap'.Layered :=
  fun s parent hs => h s parent ((hparent s).symm.trans hs)

/-- A new scope is younger than all others. -/
lemma newScope (h : heap.Layered) {parent : Option ScopeRef}
    (hparent : ∀ p ∈ parent, p.index < heap.scopes.size) : (heap.newScope parent).2.Layered := by
  intro s p hp
  have hmade := lt_of_parent hp
  rw [size_newScope, Nat.lt_succ_iff_lt_or_eq] at hmade
  rcases hmade with hlt | heq
  · rw [scopeAt_newScope_of_lt _ _ hlt] at hp
    exact h s p hp
  · obtain rfl : s = (heap.newScope parent).1 := congrArg ScopeRef.mk heq
    rw [scopeAt_newScope_self] at hp
    exact hparent p hp

end Layered

section Layered

variable {heap : Heap} (hlayered : heap.Layered) (name : String)

include hlayered

/-- As many steps as the number of a scope tells are enough. -/
lemma holderWithin_eq_of_lt {steps steps' : Nat} {s : ScopeRef} (h : s.index < steps)
    (h' : s.index < steps') : heap.holderWithin name steps s = heap.holderWithin name steps' s := by
  induction steps generalizing steps' s with
  | zero => omega
  | succ steps ih =>
      obtain ⟨rest, rfl⟩ : ∃ rest, steps' = rest + 1 := ⟨steps' - 1, by omega⟩
      rw [holderWithin, holderWithin]
      split
      · rfl
      · cases hparent : (heap.scopeAt s).parent with
        | none => rfl
        | some parent =>
            have holder := hlayered s parent hparent
            exact ih (by omega) (by omega)

/-- What holds a name is the scope itself or what holds it from the scope around. -/
theorem holder?_eq (s : ScopeRef) : heap.holder? s name =
    if (heap.ownBinding? s name).isSome then some s
    else (heap.scopeAt s).parent.bind fun parent => heap.holder? parent name := by
  rw [holder?, holderWithin]
  split
  · rfl
  · cases hparent : (heap.scopeAt s).parent with
    | none => rfl
    | some parent =>
        have holder := hlayered s parent hparent
        exact holderWithin_eq_of_lt hlayered name (by omega) (Nat.lt_succ_self _)

end Layered

/-! ## Names that are not bound on the way -/

/-- A walk outward from a scope leads to another one, and none of the scopes before that binds a name. -/
inductive Clear (heap : Heap) (name : String) (target : ScopeRef) : ScopeRef → Prop where
  | here : Clear heap name target target
  | outward {s parent : ScopeRef} (hfree : heap.ownBinding? s name = none)
      (hparent : (heap.scopeAt s).parent = some parent) (hrest : Clear heap name target parent) :
      Clear heap name target s

lemma Clear.trans {heap : Heap} {name : String} {target target' s : ScopeRef}
    (h : heap.Clear name target s) (h' : heap.Clear name target' target) : heap.Clear name target' s := by
  induction h with
  | here => exact h'
  | outward hfree hparent _ ih => exact .outward hfree hparent ih

/-- What is not bound on the way is held as from the end of it. -/
theorem holder?_of_clear {heap : Heap} (hlayered : heap.Layered) {name : String}
    {target s : ScopeRef} (h : heap.Clear name target s) :
    heap.holder? s name = heap.holder? target name := by
  induction h with
  | here => rfl
  | outward hfree hparent _ ih =>
      rw [holder?_eq hlayered, hfree, hparent]
      exact ih

section Holder

variable {heap : Heap} {name : String} {s s' : ScopeRef}

/-- What the same scope holds is read alike. -/
lemma lookup_congr (h : heap.holder? s name = heap.holder? s' name) :
    heap.lookup s name = heap.lookup s' name := by
  rw [lookup, h, ← lookup]

/-- What the same scope holds is assigned alike. -/
lemma assign_congr (h : heap.holder? s name = heap.holder? s' name) (v : Value) :
    heap.assign s name v = heap.assign s' name v := by
  rw [assign, h, ← assign]

end Holder

/-! ## Names that are found -/

/-- A name is found from a scope, for reading and for assigning: neither comes to nothing. -/
structure Finds (heap : Heap) (s : ScopeRef) (name : String) : Prop where
  read : (heap.lookup s name).isSome
  assign : ∀ value, (heap.assign s name value).1 ≠ .unbound

section Finds

variable {heap heap' : Heap} {target s : ScopeRef} {name : String}

/-- A name that is held somewhere is found. -/
lemma finds_of_isSome_holder? (h : (heap.holder? s name).isSome) : heap.Finds s name := by
  obtain ⟨holder, hholder⟩ := Option.isSome_iff_exists.mp h
  have hbound := (holder?_induction (P := fun _ => True) (fun _ _ _ _ => trivial) trivial hholder).2
  obtain ⟨binding, hbinding⟩ := Option.isSome_iff_exists.mp hbound
  refine ⟨?_, fun value => ?_⟩
  · rw [lookup, hholder]
    simp [hbinding]
  · rw [assign, hholder]
    dsimp only
    split <;> simp

/-- A name that is bound where the walk leads is found. -/
theorem finds_of_within (hlayered : heap.Layered) (h : heap.Within target s)
    (hbound : (heap.ownBinding? target name).isSome) : heap.Finds s name := by
  refine finds_of_isSome_holder? ?_
  induction h with
  | here =>
      rw [holder?_eq hlayered, if_pos hbound]
      rfl
  | outward hparent _ ih =>
      rw [holder?_eq hlayered]
      split
      · rfl
      · rwa [hparent]

end Finds

end ModuleRunner.Script.Heap
