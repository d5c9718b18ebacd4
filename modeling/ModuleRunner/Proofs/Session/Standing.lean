import ModuleRunner.Proofs.Evaluation.Standing
import ModuleRunner.Proofs.Session.Regime

/-!
# Sessions whose scopes are there

A session begins with an interpreter, whose global scope stands alone.  From then on, the scopes that
anything refers to are there, unless the host takes them away.

* `World.standing_newInterpreter` — where a session begins.
* `HostAct.Respects` — acts that keep a property of worlds.
* `performAll_standing` — whole sessions.
-/

namespace ModuleRunner

open Evaluation Script Run

/-- With one more interpreter, all scopes are there if they were. -/
lemma Evaluation.World.standing_newInterpreter {w : World} (hlayered : w.heap.Layered)
    (hclosures : ∀ f literal s, (w.heap.functionAt f).code = .script literal s →
      s.index < w.heap.scopes.size)
    (hglobals : ∀ i : InterpreterRef, i.index < w.interpreters.size →
      (w.interpreter i).globals.index < w.heap.scopes.size)
    (granted : Table Value) (maxDepth : Nat) :
    ((newInterpreter granted maxDepth).after w).Standing := by
  rw [after_of_ok (newInterpreter_eq granted maxDepth w)]
  have hsize : ((w.heap.newScope none).2.declareTable ⟨w.heap.scopes.size⟩ granted).scopes.size
      = w.heap.scopes.size + 1 := by
    rw [Heap.size_declareTable, Heap.size_newScope]
  refine ⟨?_, fun f literal s hcode => ?_, fun i => ?_⟩
  · exact (hlayered.newScope (by rintro _ ⟨⟩)).of_parent fun s => Heap.parent_declareTable ..
  · rw [Heap.functionAt_declareTable] at hcode
    exact hsize ▸ (hclosures f literal s hcode).trans (Nat.lt_succ_self _)
  · show ((w.interpreters.push _).getD i.index default).globals.index < _
    rw [hsize, Array.getD_eq_getD_getElem?, Array.getElem?_push]
    split
    · exact Nat.lt_succ_self _
    · by_cases hi : i.index < w.interpreters.size
      · have hglobal := hglobals i hi
        rw [World.interpreter, Array.getD_eq_getD_getElem?] at hglobal
        exact hglobal.trans (Nat.lt_succ_self _)
      · rw [Array.getElem?_eq_none (Nat.le_of_not_lt hi)]
        exact Nat.succ_pos _

/-- A world with one interpreter, and nothing else. -/
lemma Evaluation.World.standing_first (granted : Table Value) (maxDepth : Nat) :
    ((newInterpreter granted maxDepth).after World.empty).Standing :=
  standing_newInterpreter (by rintro s parent ⟨⟩) (by rintro f literal s ⟨⟩) (by rintro i ⟨⟩) _ _

/-- An act that keeps a property of worlds, if it is one by which the host changes values. -/
def HostAct.Respects (P : World → Prop) : HostAct → Prop
  | handle change => ∀ w : World, P w → P { w with heap := change w.heap }
  | _ => True

lemma HostAct.Respects.keeps {R : Regime} {act : HostAct} (h : act.Respects R.Sound)
    (hmade : ∀ granted maxDepth w, R.Sound w → R.Sound ((newInterpreter granted maxDepth).after w)) :
    R.Keeps act := by
  cases act with
  | handle change => exact h
  | interpret granted maxDepth =>
      intro w hw
      have hsound := hmade granted maxDepth w hw
      rw [after_of_ok (newInterpreter_eq granted maxDepth w)] at hsound
      have hrun := bind_of_ok (f := fun _ => pure ()) (newInterpreter_eq granted maxDepth w)
      rw [HostAct.perform, after_of_ok hrun]
      exact hsound
  | _ => trivial

lemma Evaluation.World.Standing.newInterpreter {w : World} (hw : w.Standing) (granted : Table Value)
    (maxDepth : Nat) : ((newInterpreter granted maxDepth).after w).Standing :=
  standing_newInterpreter hw.layered hw.closures (fun i _ => hw.globals i) granted maxDepth

/-- All scopes that anything refers to are there, in every world that a session comes to. -/
theorem performAll_standing {w : World} (hw : w.Standing) {acts : List HostAct}
    (hacts : ∀ act ∈ acts, act.Respects World.Standing) : ((performAll acts).after w).Standing :=
  (Regime.performAll_permitted Regime.standing_whole Regime.standing_lenient
    (fun act hact => (hacts act hact).keeps (R := .standing) fun granted maxDepth _ hw =>
      hw.newInterpreter granted maxDepth) hw).1

end ModuleRunner
