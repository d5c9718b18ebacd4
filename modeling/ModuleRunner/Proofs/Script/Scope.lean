import Mathlib.Tactic
import ModuleRunner.Script.Document
import ModuleRunner.Script.Failure

/-!
# The scopes of a heap

What the operations on scopes do to the scopes: a new scope binds nothing and leaves the others
alone, and binding a name changes the scope it is bound in and no other.  Which names are bound where,
and what stands around a scope, is all that looking up a name goes by; two heaps are alike if they
agree on that, and the second has no functions of scripts that the first has not.

* `scopeAt_newScope`, `scopeAt_declare`, … — the laws of making a scope and of binding a name.
* `holder?_induction` — what is handed outward holds of the scope that binds a name.
* `Heap.Alike` — heaps that agree on scopes, up to the values of names, and on code.
* `Heap.Steady` — alike, and what is bound for good is bound to the same.
-/

namespace ModuleRunner.Script.Heap

/-! ## Laws -/

section Laws

variable (heap : Heap)

@[simp] lemma scopeAt_newScope_self (parent : Option ScopeRef) :
    (heap.newScope parent).2.scopeAt (heap.newScope parent).1 = ⟨[], parent⟩ := by
  simp [newScope, scopeAt]

lemma scopeAt_newScope_of_lt (parent : Option ScopeRef) {s : ScopeRef}
    (h : s.index < heap.scopes.size) : (heap.newScope parent).2.scopeAt s = heap.scopeAt s := by
  simp [newScope, scopeAt, Array.getD_eq_getD_getElem?, Array.getElem?_push, h.ne]

@[simp] lemma size_newScope (parent : Option ScopeRef) :
    (heap.newScope parent).2.scopes.size = heap.scopes.size + 1 :=
  Array.size_push _

/-- A new function leaves the others alone. -/
lemma functionAt_newFunction_of_ne (cell : FunctionCell) {f : FunctionRef}
    (h : f ≠ (heap.newFunction cell).1) :
    (heap.newFunction cell).2.functionAt f = heap.functionAt f := by
  have h' : f.index ≠ heap.functions.size := fun e => h (congrArg FunctionRef.mk e)
  simp [newFunction, functionAt, Array.getD_eq_getD_getElem?, Array.getElem?_push, h']

/-- No function is lost. -/
lemma size_functions_newFunction_le (cell : FunctionCell) :
    heap.functions.size ≤ (heap.newFunction cell).2.functions.size := by
  simp [newFunction]

variable (scope : ScopeRef) (name : String) (value : Value) (isMutable : Bool)

lemma scopeAt_declare_of_ne {s : ScopeRef} (h : s ≠ scope) :
    (heap.declare scope name value isMutable).scopeAt s = heap.scopeAt s := by
  have h' : scope.index ≠ s.index := fun e => h (by cases s; cases scope; simp_all)
  simp [declare, modifyScope, scopeAt, Array.getD_eq_getD_getElem?, Array.getElem?_modify, h']

lemma scopeAt_declare_self (h : scope.index < heap.scopes.size) :
    (heap.declare scope name value isMutable).scopeAt scope =
      { heap.scopeAt scope with
        bindings := (heap.scopeAt scope).bindings.put name ⟨value, isMutable⟩ } := by
  simp [declare, modifyScope, scopeAt, Array.getD_eq_getD_getElem?, Array.getElem_modify, h]

/-- Nothing is bound in a scope that was never made. -/
lemma declare_of_size_le (h : heap.scopes.size ≤ scope.index) :
    heap.declare scope name value isMutable = heap := by
  have hsame (change : ScopeCell → ScopeCell) :
      heap.scopes.modify scope.index change = heap.scopes := by
    apply Array.ext
    · exact Array.size_modify
    · intro i hi hi'
      rw [Array.getElem_modify, if_neg (by omega)]
  rw [declare, modifyScope, hsame]

@[simp] lemma size_declare :
    (heap.declare scope name value isMutable).scopes.size = heap.scopes.size :=
  Array.size_modify

@[simp] lemma functionAt_declare (f : FunctionRef) :
    (heap.declare scope name value isMutable).functionAt f = heap.functionAt f := rfl

@[simp] lemma parent_declare (s : ScopeRef) :
    ((heap.declare scope name value isMutable).scopeAt s).parent = (heap.scopeAt s).parent := by
  by_cases hs : s = scope
  · subst hs
    rcases Nat.lt_or_ge s.index heap.scopes.size with hlt | hge
    · rw [scopeAt_declare_self _ _ _ _ _ hlt]
    · rw [declare_of_size_le _ _ _ _ _ hge]
  · rw [scopeAt_declare_of_ne _ _ _ _ _ hs]

/-- Binding a name leaves the other names of the scope. -/
lemma ownBinding?_declare_of_ne {s : ScopeRef} {other : String} (h : s ≠ scope ∨ other ≠ name) :
    (heap.declare scope name value isMutable).ownBinding? s other = heap.ownBinding? s other := by
  by_cases hs : s = scope
  · subst hs
    rcases Nat.lt_or_ge s.index heap.scopes.size with hlt | hge
    · rw [ownBinding?, scopeAt_declare_self _ _ _ _ _ hlt, ownBinding?]
      exact Table.get?_put_of_ne _ (h.resolve_left (fun hne => hne rfl)) _
    · rw [declare_of_size_le _ _ _ _ _ hge]
  · rw [ownBinding?, scopeAt_declare_of_ne _ _ _ _ _ hs, ownBinding?]

lemma ownBinding?_declare_self (h : scope.index < heap.scopes.size) :
    (heap.declare scope name value isMutable).ownBinding? scope name = some ⟨value, isMutable⟩ := by
  rw [ownBinding?, scopeAt_declare_self _ _ _ _ _ h]
  exact Table.get?_put_self _ _ _

variable {heap scope name}

/-- A scope that binds a name was made. -/
lemma lt_of_ownBinding? {s : ScopeRef} {n : String} (h : (heap.ownBinding? s n).isSome) :
    s.index < heap.scopes.size := by
  by_contra hge
  rw [ownBinding?, scopeAt, Array.getD_eq_getD_getElem?, Array.getElem?_eq_none (Nat.not_lt.mp hge)]
    at h
  cases h

/-- A scope with a scope around it was made. -/
lemma lt_of_parent {s parent : ScopeRef} (h : (heap.scopeAt s).parent = some parent) :
    s.index < heap.scopes.size := by
  by_contra hge
  rw [scopeAt, Array.getD_eq_getD_getElem?, Array.getElem?_eq_none (Nat.not_lt.mp hge)] at h
  cases h

/-- A name stays bound where it is bound. -/
lemma isSome_ownBinding?_declare {s : ScopeRef} {other : String}
    (h : (heap.ownBinding? s other).isSome) :
    ((heap.declare scope name value isMutable).ownBinding? s other).isSome := by
  by_cases hhere : s = scope ∧ other = name
  · obtain ⟨rfl, rfl⟩ := hhere
    rw [ownBinding?_declare_self _ _ _ _ _ (lt_of_ownBinding? h)]
    rfl
  · rwa [ownBinding?_declare_of_ne _ _ _ _ _ (not_and_or.mp hhere)]

end Laws

/-! ## Looking up -/

/-- The walk outward that finds the holder of a name, for what each scope hands to the scope around
it. -/
lemma holderWithin_induction {heap : Heap} {P : ScopeRef → Prop}
    (houtward : ∀ s parent, P s → (heap.scopeAt s).parent = some parent → P parent) {name : String}
    {holder : ScopeRef} : ∀ {steps : Nat} {scope : ScopeRef}, P scope →
      heap.holderWithin name steps scope = some holder →
        P holder ∧ (heap.ownBinding? holder name).isSome
  | 0, _, _, hfound => by cases hfound
  | steps + 1, scope, hscope, hfound => by
      rw [holderWithin] at hfound
      split at hfound
      · next hbound =>
          cases hfound
          exact ⟨hscope, hbound⟩
      · split at hfound
        · cases hfound
        · next parent hparent =>
            exact holderWithin_induction houtward (houtward scope parent hscope hparent) hfound

/-- What is handed outward holds of the scope that binds a name, and that scope binds it. -/
lemma holder?_induction {heap : Heap} {P : ScopeRef → Prop}
    (houtward : ∀ s parent, P s → (heap.scopeAt s).parent = some parent → P parent) {name : String}
    {scope holder : ScopeRef} (hscope : P scope) (hfound : heap.holder? scope name = some holder) :
    P holder ∧ (heap.ownBinding? holder name).isSome :=
  holderWithin_induction houtward hscope hfound

/-! ## Heaps alike -/

/-- The scopes are the same, up to the values of their names, and no function of a script is new. -/
structure Alike (heap heap' : Heap) : Prop where
  size : heap'.scopes.size = heap.scopes.size
  parent : ∀ s, (heap'.scopeAt s).parent = (heap.scopeAt s).parent
  binds : ∀ s name, (heap'.ownBinding? s name).isSome = (heap.ownBinding? s name).isSome
  code : ∀ f literal s, (heap'.functionAt f).code = .script literal s →
    (heap.functionAt f).code = .script literal s

namespace Alike

variable {heap heap' heap'' : Heap}

lemma refl (heap : Heap) : heap.Alike heap := ⟨rfl, fun _ => rfl, fun _ _ => rfl, fun _ _ _ => id⟩

lemma trans (h : heap.Alike heap') (h' : heap'.Alike heap'') : heap.Alike heap'' :=
  ⟨h'.size.trans h.size, fun s => (h'.parent s).trans (h.parent s),
    fun s name => (h'.binds s name).trans (h.binds s name),
    fun f literal s hcode => h.code f literal s (h'.code f literal s hcode)⟩

end Alike

/-- Alike, what is bound for good is bound to the same, and no function is lost. -/
structure Steady (heap heap' : Heap) : Prop extends heap.Alike heap' where
  constants : ∀ s name v, heap.ownBinding? s name = some ⟨v, false⟩ →
    heap'.ownBinding? s name = some ⟨v, false⟩
  mutables : ∀ s name v, heap.ownBinding? s name = some ⟨v, true⟩ →
    ∃ v', heap'.ownBinding? s name = some ⟨v', true⟩
  functions : heap.functions.size ≤ heap'.functions.size
  closures : ∀ f literal s, (heap.functionAt f).code = .script literal s →
    (heap'.functionAt f).code = .script literal s

namespace Steady

variable {heap heap' heap'' : Heap}

lemma refl (heap : Heap) : heap.Steady heap :=
  ⟨.refl heap, fun _ _ _ => id, fun _ _ v hbound => ⟨v, hbound⟩, le_rfl, fun _ _ _ => id⟩

lemma trans (h : heap.Steady heap') (h' : heap'.Steady heap'') : heap.Steady heap'' where
  toAlike := h.toAlike.trans h'.toAlike
  constants s name v hbound := h'.constants s name v (h.constants s name v hbound)
  mutables s name v hbound :=
    have ⟨_, hbound'⟩ := h.mutables s name v hbound
    h'.mutables s name _ hbound'
  functions := h.functions.trans h'.functions
  closures f literal s hcode := h'.closures f literal s (h.closures f literal s hcode)

/-- What touches objects and arrays only. -/
lemma of_eq (hscopes : heap'.scopes = heap.scopes) (hfunctions : heap'.functions = heap.functions) :
    heap.Steady heap' := by
  have hscope (s : ScopeRef) : heap'.scopeAt s = heap.scopeAt s := by rw [scopeAt, hscopes, scopeAt]
  have hbinding (s : ScopeRef) (name : String) : heap'.ownBinding? s name = heap.ownBinding? s name := by
    rw [ownBinding?, hscope, ownBinding?]
  have hfunction (f : FunctionRef) : heap'.functionAt f = heap.functionAt f := by
    rw [functionAt, hfunctions, functionAt]
  exact ⟨⟨by rw [hscopes], fun s => by rw [hscope], fun s name => by rw [hbinding],
      fun f literal s hcode => by rwa [hfunction] at hcode⟩,
    fun s name v hbound => by rw [hbinding, hbound],
    fun s name v hbound => ⟨v, by rw [hbinding, hbound]⟩, by rw [hfunctions],
    fun f literal s hcode => by rwa [hfunction]⟩

/-- What touches functions and leaves their code, or makes native ones where there were none. -/
lemma of_functions {functions : Array FunctionCell} (hsize : heap.functions.size ≤ functions.size)
    (hcode : ∀ i, (functions.getD i default).code = (heap.functions.getD i default).code ∨
      heap.functions.size ≤ i ∧ (functions.getD i default).isNative = true) :
    heap.Steady { heap with functions := functions } := by
  refine ⟨⟨rfl, fun _ => rfl, fun _ _ => rfl, fun f literal s hscript => ?_⟩, fun _ _ _ => id,
    fun _ _ v hbound => ⟨v, hbound⟩, hsize, fun f literal s hscript => ?_⟩
  · have hscript : (functions.getD f.index default).code = .script literal s := hscript
    rcases hcode f.index with hsame | ⟨-, hnative⟩
    · exact hsame ▸ hscript
    · rw [FunctionCell.isNative, hscript] at hnative
      cases hnative
  · have hscript : (heap.functions.getD f.index default).code = .script literal s := hscript
    rcases hcode f.index with hsame | ⟨hnew, -⟩
    · exact hsame.trans hscript
    · rw [Array.getD_eq_getD_getElem?, Array.getElem?_eq_none hnew] at hscript
      cases hscript

lemma newNative (heap : Heap) (name : String) (native : Native) :
    heap.Steady (heap.newFunction ⟨name, .native native, []⟩).2 := by
  refine of_functions (heap.size_functions_newFunction_le _) fun i => ?_
  by_cases hlast : i = heap.functions.size
  · subst hlast
    exact .inr ⟨le_rfl, by simp [FunctionCell.isNative]⟩
  · exact .inl (by simp [Array.getD_eq_getD_getElem?, Array.getElem?_push, hlast])

lemma modifyFunction (heap : Heap) (ref : FunctionRef) {change : FunctionCell → FunctionCell}
    (hchange : ∀ cell, (change cell).code = cell.code) :
    heap.Steady (heap.modifyFunction ref change) := by
  refine of_functions Array.size_modify.ge fun i => .inl ?_
  by_cases hhere : ref.index = i
  · subst hhere
    rw [Array.getD_eq_getD_getElem?, Array.getElem?_modify, Array.getD_eq_getD_getElem?, if_pos rfl]
    cases heap.functions[ref.index]? with
    | none => rfl
    | some cell => exact hchange cell
  · simp [Array.getD_eq_getD_getElem?, Array.getElem?_modify, hhere]

/-- Giving a name another value where it is bound already, and not for good. -/
lemma declare {scope : ScopeRef} {name : String} {old : Value} (value : Value)
    (hbound : heap.ownBinding? scope name = some ⟨old, true⟩) :
    heap.Steady (heap.declare scope name value true) := by
  have hsome : (heap.ownBinding? scope name).isSome := by
    rw [hbound]
    rfl
  refine ⟨⟨size_declare .., fun _ => parent_declare .., fun s other => ?_, fun _ _ _ => id⟩,
    fun s other v hconstant => ?_, fun s other v hvariable => ?_, le_rfl, fun _ _ _ => id⟩
  · by_cases hhere : s = scope ∧ other = name
    · obtain ⟨rfl, rfl⟩ := hhere
      rw [hsome, isSome_ownBinding?_declare _ _ hsome]
    · rw [ownBinding?_declare_of_ne _ _ _ _ _ (not_and_or.mp hhere)]
  · have hhere : ¬ (s = scope ∧ other = name) := by
      rintro ⟨rfl, rfl⟩
      rw [hbound] at hconstant
      cases hconstant
    rwa [ownBinding?_declare_of_ne _ _ _ _ _ (not_and_or.mp hhere)]
  · by_cases hhere : s = scope ∧ other = name
    · obtain ⟨rfl, rfl⟩ := hhere
      exact ⟨value, ownBinding?_declare_self _ _ _ _ _ (lt_of_ownBinding? hsome)⟩
    · exact ⟨v, by rw [ownBinding?_declare_of_ne _ _ _ _ _ (not_and_or.mp hhere), hvariable]⟩

lemma assign (heap : Heap) (scope : ScopeRef) (name : String) (value : Value) :
    heap.Steady (heap.assign scope name value).2 := by
  unfold Heap.assign
  split
  · exact refl heap
  · split
    · next hbinding => exact declare _ hbinding
    · exact refl heap

lemma write (heap : Heap) (target : Value) (key : String) (v : Value) :
    heap.Steady (heap.write target key v).2 := by
  cases target with
  | object ref => exact .of_eq rfl rfl
  | function ref => exact .modifyFunction _ _ fun _ => rfl
  | array ref =>
      simp only [Heap.write]
      split
      · unfold Heap.writeLength
        split
        · exact .refl _
        · split
          · exact .refl _
          · exact .of_eq rfl rfl
      · unfold Heap.writeElement
        split
        · exact .refl _
        · split
          · exact .of_eq rfl rfl
          · exact .refl _
  | _ => exact .refl _

lemma caught (heap : Heap) (failure : Failure) : heap.Steady (failure.caught heap).2 := by
  cases failure with
  | thrown v => exact .refl heap
  | _ => exact .of_eq rfl rfl

end Steady

/-! ## Documents -/

mutual

/-- The value of a document is made of objects and arrays. -/
lemma rows_ofJson (heap : Heap) : ∀ document : Json,
    (heap.ofJson document).2.scopes = heap.scopes ∧
      (heap.ofJson document).2.functions = heap.functions
  | .null => ⟨rfl, rfl⟩
  | .boolean _ => ⟨rfl, rfl⟩
  | .number _ => ⟨rfl, rfl⟩
  | .text _ => ⟨rfl, rfl⟩
  | .array items => rows_ofJsonItems heap items
  | .object entries => rows_ofJsonEntries heap entries

lemma rows_ofJsonItems (heap : Heap) : ∀ items : List Json,
    (heap.ofJsonItems items).2.scopes = heap.scopes ∧
      (heap.ofJsonItems items).2.functions = heap.functions
  | [] => ⟨rfl, rfl⟩
  | item :: rest => by
      have hfirst := rows_ofJson heap item
      have hrest := rows_ofJsonItems (heap.ofJson item).2 rest
      exact ⟨hrest.1.trans hfirst.1, hrest.2.trans hfirst.2⟩

lemma rows_ofJsonEntries (heap : Heap) : ∀ entries : List (String × Json),
    (heap.ofJsonEntries entries).2.scopes = heap.scopes ∧
      (heap.ofJsonEntries entries).2.functions = heap.functions
  | [] => ⟨rfl, rfl⟩
  | (_, item) :: rest => by
      have hfirst := rows_ofJson heap item
      have hrest := rows_ofJsonEntries (heap.ofJson item).2 rest
      exact ⟨hrest.1.trans hfirst.1, hrest.2.trans hfirst.2⟩

end

lemma Steady.ofJson (heap : Heap) (document : Json) : heap.Steady (heap.ofJson document).2 :=
  .of_eq (heap.rows_ofJson document).1 (heap.rows_ofJson document).2

end ModuleRunner.Script.Heap
