import ModuleRunner.Proofs.Evaluation.Origin
import ModuleRunner.Proofs.Parsing.Form
import ModuleRunner.Proofs.Session.Regime

/-!
# Sessions run the code of programs

All code that a session runs was parsed, and what was parsed assigns to names and properties only.  So
evaluation never finds an assignment that it has no target for, and the failure that it has at hand for
that case, which has no place in any text, is never raised.

* `HostAct.KeepsParsed` — acts that bring no other code along.
* `performAll_parsed` — every phrase that a session evaluates or executes is of some program.
* `Moment.FallsBack` — evaluation has no target.
* `assignments_have_targets` — trees and sessions.
-/

namespace ModuleRunner

open Evaluation ModuleRunner.Module Script Run

/-! ## Sessions -/

/-- An act that leaves functions made of phrases of programs, if there were only such. -/
def HostAct.KeepsParsed : HostAct → Prop
  | handle change => ∀ heap : Heap, heap.IsParsed → (change heap).IsParsed
  | _ => True

lemma HostAct.KeepsParsed.keeps {act : HostAct} (h : act.KeepsParsed) : Regime.parsed.Keeps act := by
  cases act with
  | handle change => exact fun w => h w.heap
  | interpret globals maxDepth =>
      intro w hw f literal scope hcode
      have hmade := bind_of_ok (f := fun _ => pure ()) (newInterpreter_eq globals maxDepth w)
      rw [HostAct.perform, after_of_ok hmade, Heap.functionAt_declareTable] at hcode
      exact hw f literal scope hcode
  | _ => trivial

/-- A session evaluates and executes phrases of programs only, and makes functions of nothing else. -/
theorem performAll_parsed {w : World} (hw : w.heap.IsParsed) {acts : List HostAct}
    (hacts : ∀ act ∈ acts, act.KeepsParsed) :
    ((performAll acts).after w).heap.IsParsed ∧ ¬ Passes acts w fun μ => ¬ μ.phrase.IsParsed := by
  obtain ⟨hsound, hpasses⟩ := Regime.performAll_permitted Regime.parsed_whole Regime.parsed_lenient
    (fun act hact => (hacts act hact).keeps) hw
  refine ⟨hsound, ?_⟩
  rintro ⟨detour, hspares, hdiffers⟩
  exact hpasses ⟨detour, fun μ hμ => hspares μ (not_not_intro (not_not.mp hμ).code), hdiffers⟩

/-! ## Targets -/

/-- What a phrase assigns to or updates. -/
def Script.Phrase.targets : Phrase → List Expression
  | .expression (.assign _ target _) => [target]
  | .expression (.update _ _ target) => [target]
  | _ => []

/-- The phrase of the moment assigns to or updates an expression that is no target to any machine. -/
def Evaluation.Moment.FallsBack (μ : Moment) : Prop :=
  ∃ target ∈ μ.phrase.targets, ∀ m i scope,
    evaluateTarget m i scope target = Run.fail (.malformed ⟨.badTarget .assignment, 0, 0⟩)

/-- There is a place for what a name or a property is assigned. -/
lemma Script.Expression.IsTarget.evaluateTarget_ne {e : Expression} (h : e.IsTarget)
    (i : InterpreterRef) (scope : ScopeRef) (failure : Failure) :
    evaluateTarget Machine.spent i scope e ≠ Run.fail failure := by
  intro heq
  have hrun := congrFun heq World.empty
  cases h <;> cases hrun

lemma Script.Phrase.WellFormed.isTarget {p : Phrase} (h : p.WellFormed) :
    ∀ target ∈ p.targets, target.IsTarget := by
  intro target htarget
  unfold targets at htarget
  split at htarget
  · exact List.mem_singleton.mp htarget ▸ h
  · exact List.mem_singleton.mp htarget ▸ h
  · cases htarget

lemma Script.Phrase.IsParsed.wellFormed {p : Phrase} (h : p.IsParsed) : p.WellFormed := by
  obtain ⟨source, body, hparse, hp⟩ := h
  exact Phrase.Built.wellFormed_of_inside (parse_built hparse) hp

/-- In every accepted text, assignments and updates are of names and properties, constants have values,
and something follows every `try`.  So no session passes a moment at which evaluation has no target for
an assignment or an update, whatever texts it evaluates and whatever modules it loads. -/
theorem assignments_have_targets :
    (∀ source body, parse source = .ok body → ∀ p, Phrase.Inside body p → p.WellFormed) ∧
    ∀ (w : World) (acts : List HostAct), w.heap.IsParsed → (∀ act ∈ acts, act.KeepsParsed) →
      ¬ Passes acts w Moment.FallsBack := by
  refine ⟨fun source body hparse p hp => Phrase.IsParsed.wellFormed ⟨source, body, hparse, hp⟩, ?_⟩
  intro w acts hw hacts hpasses
  obtain ⟨detour, hspares, hdiffers⟩ := hpasses
  refine (performAll_parsed hw hacts).2 ⟨detour, fun μ hμ => hspares μ ?_, hdiffers⟩
  rintro ⟨target, htarget, hfallback⟩
  have hform := (not_not.mp hμ).wellFormed.isTarget target htarget
  exact hform.evaluateTarget_ne ⟨0⟩ ⟨0⟩ _ (hfallback Machine.spent ⟨0⟩ ⟨0⟩)

/-- Sends a run away from where something is assigned or updated. -/
def detourAtTargets : Detour := fun μ =>
  if μ.phrase.targets.isEmpty then .none else some World.empty

/-- A session that assigns something, and has somewhere to assign it to. -/
theorem assignments_have_targets_evaluated :
    let source := "const own = 'x'; try { name = own; } catch (e) {} name;"
    let acts : List HostAct := [.interpret [("name", .null)] 5, .evaluate ⟨0⟩ source]
    (∃ body, parse source = .ok body ∧ ∀ p, Phrase.Inside body p → p.WellFormed) ∧
      World.empty.heap.IsParsed ∧ (∀ act ∈ acts, act.KeepsParsed) ∧
      ¬ Passes acts World.empty Moment.FallsBack ∧
      Passes acts World.empty (fun μ => μ.phrase.targets ≠ []) ∧
      ((performAll acts).after World.empty).heap.lookup ⟨0⟩ "name" = some (.text "x") := by
  intro source acts
  have hheap : World.empty.heap.IsParsed := by
    rintro f literal scope ⟨⟩
  have hacts : ∀ act ∈ acts, act.KeepsParsed := by
    intro act hmem
    obtain rfl | hmem := List.mem_cons.mp hmem
    · trivial
    · obtain rfl := List.mem_singleton.mp hmem
      trivial
  have hname : ((performAll acts).after World.empty).heap.lookup ⟨0⟩ "name" = some (.text "x") := by
    decide +kernel
  refine ⟨?_, hheap, hacts, assignments_have_targets.2 World.empty acts hheap hacts, ?_, hname⟩
  · have haccepted : (parse source).toOption.isSome = true := by decide +kernel
    cases hparse : parse source with
    | error e => simp [hparse, Except.toOption] at haccepted
    | ok body => exact ⟨body, rfl, assignments_have_targets.1 source body hparse⟩
  · refine ⟨detourAtTargets, fun μ hμ => ?_, fun hsame => ?_⟩
    · rw [detourAtTargets, if_pos (List.isEmpty_iff.mpr (not_not.mp hμ))]
    · have hstopped : ((watchAll detourAtTargets acts).after World.empty).heap.scopes.size = 0 := by
        decide +kernel
      have hmade : ((performAll acts).after World.empty).heap.scopes.size ≠ 0 := by decide +kernel
      rw [after, hsame] at hstopped
      exact hmade hstopped

end ModuleRunner
