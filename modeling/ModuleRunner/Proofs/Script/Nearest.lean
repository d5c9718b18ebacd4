import Mathlib.Logic.Relation
import ModuleRunner.Proofs.Script.Chain

/-!
# The nearest binding

Reading a name and assigning it are two walks outward over the same scopes, and each of them stops where
the name is bound first.  Where the scope around a scope is older, no walk comes back to where it was, and
every walk ends; so the two walks stop at the same scope.  What an assignment changes is what this scope
binds the name to.  Scopes further out keep what they bind the name to, and nothing sees it from within.

* `Heap.Inside`, `Layered.acyclic` — the scope right around a scope; no scope is inside itself.
* `Heap.Walk`, `walk_holder?` — a walk outward that nothing bounds, and that it ends.
* `Heap.Nearest`, `nearest_iff` — the nearest scope that binds a name.
* `lookup_eq_some_iff`, `lookup_eq_none_iff` — what is read.
* `Heap.Rebinds`, `Heap.Assigned`, `assigned_assign` — what is assigned.
-/

namespace ModuleRunner.Script.Heap

/-! ## Walks that nothing bounds -/

/-- A scope is right inside another one. -/
def Inside (heap : Heap) (s parent : ScopeRef) : Prop := (heap.scopeAt s).parent = some parent

/-- A walk outward from a scope for a name: it goes on until a scope binds the name or none is left.
Whether there is such a walk at all is whether the search for the name ends. -/
inductive Walk (heap : Heap) (name : String) : ScopeRef → Option ScopeRef → Prop where
  | found {s : ScopeRef} (hbound : (heap.ownBinding? s name).isSome) : Walk heap name s (some s)
  | missed {s : ScopeRef} (hfree : heap.ownBinding? s name = none)
      (houtermost : (heap.scopeAt s).parent = none) : Walk heap name s none
  | outward {s parent : ScopeRef} {result : Option ScopeRef}
      (hfree : heap.ownBinding? s name = none) (hparent : heap.Inside s parent)
      (hrest : Walk heap name parent result) : Walk heap name s result

/-- The nearest scope, from a given one outward, that binds a name. -/
def Nearest (heap : Heap) (s : ScopeRef) (name : String) (holder : ScopeRef) : Prop :=
  heap.Clear name holder s ∧ (heap.ownBinding? holder name).isSome

section Walk

variable {heap : Heap} {name : String} {s holder : ScopeRef}

/-- There is one walk for a name. -/
lemma Walk.unique {result result' : Option ScopeRef} (h : heap.Walk name s result)
    (h' : heap.Walk name s result') : result = result' := by
  induction h with
  | found hbound =>
    cases h' with
    | found => rfl
    | missed hfree => simp [hfree] at hbound
    | outward hfree => simp [hfree] at hbound
  | missed hfree houtermost =>
    cases h' with
    | found hbound => simp [hfree] at hbound
    | missed => rfl
    | outward _ hparent => cases houtermost.symm.trans hparent
  | outward hfree hparent _ ih =>
    cases h' with
    | found hbound => simp [hfree] at hbound
    | missed _ houtermost => cases houtermost.symm.trans hparent
    | outward _ hparent' hrest' =>
      cases hparent.symm.trans hparent'
      exact ih hrest'

/-- A walk stops at the nearest scope that binds the name. -/
lemma nearest_iff_walk : heap.Nearest s name holder ↔ heap.Walk name s (some holder) := by
  constructor
  · rintro ⟨hclear, hbound⟩
    induction hclear with
    | here => exact .found hbound
    | outward hfree hparent _ ih => exact .outward hfree hparent ih
  · intro h
    generalize hresult : some holder = result at h
    induction h with
    | found hbound =>
      cases hresult
      exact ⟨.here, hbound⟩
    | missed => cases hresult
    | outward hfree hparent _ ih =>
      obtain ⟨hclear, hbound⟩ := ih hresult
      exact ⟨.outward hfree hparent hclear, hbound⟩

lemma Nearest.unique {other : ScopeRef} (h : heap.Nearest s name holder)
    (h' : heap.Nearest s name other) : holder = other :=
  Option.some.inj ((nearest_iff_walk.mp h).unique (nearest_iff_walk.mp h'))

/-- Walks are the same in heaps that are alike. -/
lemma Walk.alike {heap' : Heap} {result : Option ScopeRef} (h : heap.Walk name s result)
    (halike : heap.Alike heap') : heap'.Walk name s result := by
  have hfree' {s : ScopeRef} (hfree : heap.ownBinding? s name = none) :
      heap'.ownBinding? s name = none := by
    rw [← Option.isNone_iff_eq_none, ← Option.not_isSome, halike.binds, hfree]
    rfl
  induction h with
  | found hbound => exact .found (by rwa [halike.binds])
  | missed hfree houtermost => exact .missed (hfree' hfree) (by rwa [halike.parent])
  | outward hfree hparent _ ih => exact .outward (hfree' hfree) ((halike.parent _).trans hparent) ih

lemma Clear.within (h : heap.Clear name holder s) : heap.Within holder s := by
  induction h with
  | here => exact .here
  | outward _ hparent _ ih => exact .outward hparent ih

end Walk

/-! ## Layers -/

section Layered

variable {heap : Heap} (hlayered : heap.Layered)

include hlayered

/-- No scope is inside itself, not even with others in between. -/
theorem Layered.acyclic (s : ScopeRef) : ¬ Relation.TransGen heap.Inside s s := by
  have holder {s t : ScopeRef} (h : Relation.TransGen heap.Inside s t) : t.index < s.index := by
    induction h with
    | single hparent => exact hlayered _ _ hparent
    | tail _ hparent ih => exact (hlayered _ _ hparent).trans ih
  exact fun h => lt_irrefl _ (holder h)

/-- Every walk ends, with what the search for the holder of a name answers. -/
theorem walk_holder? (name : String) (s : ScopeRef) : heap.Walk name s (heap.holder? s name) := by
  induction hn : s.index using Nat.strongRecOn generalizing s with
  | ind n ih =>
    rw [holder?_eq hlayered]
    split
    · next hbound => exact .found hbound
    · next hfree =>
      rw [Option.not_isSome_iff_eq_none] at hfree
      cases hparent : (heap.scopeAt s).parent with
      | none => exact .missed hfree hparent
      | some parent =>
        exact .outward hfree hparent (ih parent.index (hn ▸ hlayered s parent hparent) parent rfl)

variable {name : String} {s holder : ScopeRef}

theorem nearest_iff : heap.Nearest s name holder ↔ heap.holder? s name = some holder := by
  rw [nearest_iff_walk]
  constructor
  · exact fun h => ((walk_holder? hlayered name s).unique h)
  · intro h
    rw [← h]
    exact walk_holder? hlayered name s

/-! ## Reading -/

/-- The value of a name is what the nearest scope that binds it binds it to. -/
theorem lookup_eq_some_iff {v : Value} : heap.lookup s name = some v ↔
    ∃ holder isMutable, heap.Nearest s name holder ∧
      heap.ownBinding? holder name = some ⟨v, isMutable⟩ := by
  simp only [nearest_iff hlayered, lookup, Option.bind_eq_some_iff, Option.map_eq_some_iff]
  constructor
  · rintro ⟨holder, hholder, ⟨v, isMutable⟩, hbinding, rfl⟩
    exact ⟨holder, isMutable, hholder, hbinding⟩
  · rintro ⟨holder, isMutable, hholder, hbinding⟩
    exact ⟨holder, hholder, _, hbinding, rfl⟩

/-- A name without a value is bound nowhere on the way outward. -/
theorem lookup_eq_none_iff : heap.lookup s name = none ↔
    ∀ t, heap.Within t s → heap.ownBinding? t name = none := by
  constructor
  · intro hnone t hwithin
    by_contra hbound
    have hread := (finds_of_within hlayered hwithin (Option.isSome_iff_ne_none.mpr hbound)).read
    rw [hnone] at hread
    cases hread
  · intro hfree
    rw [Option.eq_none_iff_forall_ne_some]
    intro v hread
    obtain ⟨holder, isMutable, ⟨hclear, hbound⟩, -⟩ := (lookup_eq_some_iff hlayered).mp hread
    rw [hfree holder hclear.within] at hbound
    cases hbound

end Layered

/-! ## Assigning -/

/-- What a scope binds a name to has changed, to a value that may change again, and nothing else has. -/
structure Rebinds (heap : Heap) (holder : ScopeRef) (name : String) (v : Value) (later : Heap) :
    Prop where
  bound : later.ownBinding? holder name = some ⟨v, true⟩
  others : ∀ t other, t ≠ holder ∨ other ≠ name →
    later.ownBinding? t other = heap.ownBinding? t other
  parents : ∀ t, (later.scopeAt t).parent = (heap.scopeAt t).parent
  rest : later = { heap with scopes := later.scopes }

/-- What an assignment comes to, and what it leaves.  The name is bound to the value if the nearest scope
that binds it does not bind it for good; else nothing changes. -/
inductive Assigned (heap : Heap) (s : ScopeRef) (name : String) (v : Value) : Assignment → Heap → Prop where
  | done {holder : ScopeRef} {old : Value} {later : Heap} (hnearest : heap.Nearest s name holder)
      (hbinding : heap.ownBinding? holder name = some ⟨old, true⟩)
      (hrebinds : heap.Rebinds holder name v later) (hread : later.lookup s name = some v) :
      Assigned heap s name v .done later
  | constant {holder : ScopeRef} {old : Value} (hnearest : heap.Nearest s name holder)
      (hbinding : heap.ownBinding? holder name = some ⟨old, false⟩) : Assigned heap s name v .constant heap
  | unbound (hnone : heap.lookup s name = none) : Assigned heap s name v .unbound heap

section Assigned

variable {heap : Heap} {s holder : ScopeRef} {name : String}

/-- Binding a name where it is bound already, and not for good, changes this binding. -/
lemma rebinds_declare {old : Value} (v : Value) (hbinding : heap.ownBinding? holder name = some ⟨old, true⟩) :
    heap.Rebinds holder name v (heap.declare holder name v true) where
  bound := ownBinding?_declare_self _ _ _ _ _ (lt_of_ownBinding? (by rw [hbinding]; rfl))
  others _ _ h := ownBinding?_declare_of_ne _ _ _ _ _ h
  parents _ := parent_declare ..
  rest := rfl

/-- **Assignments.**  Where the scope around a scope is older, an assignment goes by the nearest scope that
binds the name. -/
theorem assigned_assign (hlayered : heap.Layered) (s : ScopeRef) (name : String) (v : Value) :
    heap.Assigned s name v (heap.assign s name v).1 (heap.assign s name v).2 := by
  rw [assign]
  cases hholder : heap.holder? s name with
  | none =>
    refine .unbound ?_
    rw [lookup, hholder]
    rfl
  | some holder =>
    have hnearest := (nearest_iff hlayered).mpr hholder
    obtain ⟨⟨old, isMutable⟩, hbinding⟩ := Option.isSome_iff_exists.mp hnearest.2
    dsimp only
    rw [hbinding]
    cases isMutable with
    | false => exact .constant hnearest hbinding
    | true =>
      have hrebinds := rebinds_declare v hbinding
      -- The walk is the same afterwards, for the same names are bound in the same scopes.
      have hlater : (heap.declare holder name v true).Nearest s name holder :=
        nearest_iff_walk.mpr ((nearest_iff_walk.mp hnearest).alike (Steady.declare v hbinding).toAlike)
      exact .done hnearest hbinding hrebinds
        ((lookup_eq_some_iff (hlayered.of_parent hrebinds.parents)).mpr ⟨holder, true, hlater, hrebinds.bound⟩)

end Assigned

end ModuleRunner.Script.Heap
