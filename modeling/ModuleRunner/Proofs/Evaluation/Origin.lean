import ModuleRunner.Proofs.Evaluation.Agreement

/-!
# The code of programs

All code that runs comes from texts that were parsed: what a phrase evaluates are its parts, and the
functions in the heap are made of phrases of programs, as long as no others are brought along.

* `Phrase.IsParsed`, `Heap.IsParsed` — the phrases of programs, and heaps of functions made of them.
* `Regime.parsed` — the regime under which such phrases run, wherever.
-/

namespace ModuleRunner

open Evaluation

namespace Script

/-- A phrase of some program. -/
def Phrase.IsParsed (p : Phrase) : Prop :=
  ∃ source body, parse source = .ok body ∧ Phrase.Inside body p

namespace Phrase.IsParsed

variable {p : Phrase}

lemma leading (h : p.IsParsed) : ∀ q ∈ p.leading, q.IsParsed := by
  obtain ⟨source, body, hparse, hp⟩ := h
  exact fun q hq => ⟨source, body, hparse, hp.leading hq⟩

lemma other (h : p.IsParsed) : ∀ q ∈ p.others, q.IsParsed := by
  obtain ⟨source, body, hparse, hp⟩ := h
  exact fun q hq => ⟨source, body, hparse, hp.other hq⟩

end Phrase.IsParsed

/-- The functions of scripts in the heap are made of phrases of programs. -/
def Heap.IsParsed (heap : Heap) : Prop :=
  ∀ f literal scope, (heap.functionAt f).code = .script literal scope →
    ∀ s ∈ literal.body, Phrase.IsParsed (.statement s)

namespace Heap.IsParsed

variable {heap heap' : Heap}

/-- Where no function of a script is new. -/
lemma alike (h : heap.IsParsed) (halike : heap.Alike heap') : heap'.IsParsed :=
  fun f literal scope hcode => h f literal scope (halike.code f literal scope hcode)

lemma newFunction (h : heap.IsParsed) (name : String) {literal : FunctionLiteral} (scope : ScopeRef)
    (hbody : ∀ s ∈ literal.body, Phrase.IsParsed (.statement s)) :
    (heap.newFunction ⟨name, .script literal scope, []⟩).2.IsParsed := by
  intro f literal' scope' hcode
  by_cases hf : f = (heap.newFunction ⟨name, .script literal scope, []⟩).1
  · rw [hf, functionAt_newFunction_self] at hcode
    cases hcode
    exact hbody
  · rw [functionAt_newFunction_of_ne _ _ hf] at hcode
    exact h f literal' scope' hcode

end Heap.IsParsed

end Script

namespace Evaluation.Regime

open Script

/-- Phrases of programs run, wherever. -/
def parsed : Regime where
  Sound w := w.heap.IsParsed
  Place _ _ := True
  Around _ _ := True
  Code p := p.IsParsed
  Ready _ _ _ := True
  around := id
  place_grows _ := id
  around_grows _ := id
  ready_grows _ := id
  leading := Phrase.IsParsed.leading
  other := Phrase.IsParsed.other
  alone _ _ _ _ _ := trivial
  hoisted _ _ _ _ _ _ := trivial
  calm h hcalm := h.alike hcalm.heap.toAlike
  newScope h _ := h
  place_newScope _ := id
  newClosure name h _ hbody := h.newFunction name _ hbody
  declare _ _ _ h _ _ := h

lemma parsed_whole : parsed.Whole where
  frame _ := id
  globals _ _ := trivial
  closures h hcode := ⟨trivial, h _ _ _ hcode⟩
  parsed hparse _ hs := ⟨_, _, hparse, .statement hs⟩

lemma parsed_lenient : parsed.Lenient := fun _ _ => trivial

end Evaluation.Regime

end ModuleRunner
