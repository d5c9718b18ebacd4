import ModuleRunner.Proofs.Evaluation.Agreement

/-!
# Worlds whose scopes are there

A scope stands inside an older one, a function closes over a scope that was made, and so was the global
scope of each interpreter.  Whatever runs, it stays so; and what lasts while heaps grow stays as well.

* `World.Standing`, `Regime.standing` — the scopes that anything refers to are there.
* `Regime.lasting` — a property of heaps that lasts while they grow.
-/

namespace ModuleRunner.Evaluation

open Script Run

/-- The scopes that scopes stand in, functions close over and interpreters run in are there. -/
structure World.Standing (w : World) : Prop where
  layered : w.heap.Layered
  closures : ∀ f literal s, (w.heap.functionAt f).code = .script literal s →
    s.index < w.heap.scopes.size
  globals : ∀ i, (w.interpreter i).globals.index < w.heap.scopes.size

namespace World.Standing

variable {w w' : World} {scope : ScopeRef}

lemma calm (h : w.Standing) (hcalm : w.Calm w') : w'.Standing where
  layered := h.layered.of_parent hcalm.heap.parent
  closures f literal s hcode := by
    rw [hcalm.heap.size]
    exact h.closures f literal s (hcalm.heap.code f literal s hcode)
  globals i := by
    rw [hcalm.heap.size, hcalm.globals]
    exact h.globals i

lemma newScope (h : w.Standing) (hscope : scope.index < w.heap.scopes.size) :
    { w with heap := (w.heap.newScope (some scope)).2 }.Standing := by
  have hsize {s : ScopeRef} (hs : s.index < w.heap.scopes.size) :
      s.index < (w.heap.newScope (some scope)).2.scopes.size := by
    rw [Heap.size_newScope]
    exact hs.trans (Nat.lt_succ_self _)
  exact ⟨h.layered.newScope (by rintro _ ⟨⟩; exact hscope),
    fun f literal s hcode => hsize (h.closures f literal s hcode), fun i => hsize (h.globals i)⟩

lemma newClosure (h : w.Standing) (name : String) (literal : FunctionLiteral)
    (hscope : scope.index < w.heap.scopes.size) :
    { w with heap := (w.heap.newFunction ⟨name, .script literal scope, []⟩).2 }.Standing where
  layered := h.layered
  closures f other s hcode := by
    by_cases hf : f = (w.heap.newFunction ⟨name, .script literal scope, []⟩).1
    · rw [hf, Heap.functionAt_newFunction_self] at hcode
      cases hcode
      exact hscope
    · rw [Heap.functionAt_newFunction_of_ne _ _ hf] at hcode
      exact h.closures f other s hcode
  globals := h.globals

lemma declare (h : w.Standing) (scope : ScopeRef) (name : String) (v : Value) (isMutable : Bool) :
    { w with heap := w.heap.declare scope name v isMutable }.Standing where
  layered := h.layered.of_parent fun _ => Heap.parent_declare ..
  closures f literal s hcode := by
    rw [Heap.size_declare]
    exact h.closures f literal s hcode
  globals i := by
    rw [Heap.size_declare]
    exact h.globals i

end World.Standing

namespace Regime

/-- Phrases run in scopes that are there. -/
def standing : Regime where
  Sound := World.Standing
  Place heap s := s.index < heap.scopes.size
  Around heap s := s.index < heap.scopes.size
  Code _ := True
  Ready _ _ _ := True
  around := id
  place_grows := Heap.Grows.made
  around_grows := Heap.Grows.made
  ready_grows _ := id
  leading _ _ _ := trivial
  other _ _ _ := trivial
  alone _ _ _ _ _ := trivial
  hoisted _ _ _ _ _ _ := trivial
  calm := World.Standing.calm
  newScope := World.Standing.newScope
  place_newScope _ _ := by
    rw [Heap.size_newScope]
    exact Nat.lt_succ_self _
  newClosure name h hscope _ := h.newClosure name _ hscope
  declare name v isMutable h _ _ := h.declare _ name v isMutable

lemma standing_whole : standing.Whole where
  frame _ _ := by
    show _ < (Heap.newScope _ _).2.scopes.size
    rw [Heap.size_newScope]
    exact Nat.lt_succ_self _
  globals h := h.globals
  closures h hcode := ⟨h.closures _ _ _ hcode, fun _ _ => trivial⟩
  parsed _ _ _ := trivial

lemma standing_lenient : standing.Lenient := fun _ _ => trivial

/-- What lasts while heaps grow, lasts whatever runs. -/
def lasting (P : Heap → Prop) (hP : ∀ {heap heap'}, heap.Grows heap' → P heap → P heap') : Regime where
  Sound w := P w.heap
  Place _ _ := True
  Around _ _ := True
  Code _ := True
  Ready _ _ _ := True
  around := id
  place_grows _ := id
  around_grows _ := id
  ready_grows _ := id
  leading _ _ _ := trivial
  other _ _ _ := trivial
  alone _ _ _ _ _ := trivial
  hoisted _ _ _ _ _ _ := trivial
  calm h hcalm := hP (.of_alike hcalm.heap.toAlike) h
  newScope h _ := hP (.newScope _ _) h
  place_newScope _ := id
  newClosure _ h _ _ := hP (.newFunction _ _) h
  declare _ _ _ h _ _ := hP (.declare ..) h

lemma lasting_whole {P : Heap → Prop} (hP : ∀ {heap heap'}, heap.Grows heap' → P heap → P heap') :
    (lasting P hP).Whole where
  frame _ := id
  globals _ _ := trivial
  closures _ _ := ⟨trivial, fun _ _ => trivial⟩
  parsed _ _ _ := trivial

lemma lasting_lenient {P : Heap → Prop} (hP : ∀ {heap heap'}, heap.Grows heap' → P heap → P heap') :
    (lasting P hP).Lenient :=
  fun _ _ => trivial

end Regime

end ModuleRunner.Evaluation
