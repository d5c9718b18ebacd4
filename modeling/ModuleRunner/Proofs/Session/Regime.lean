import ModuleRunner.Proofs.Evaluation.Agreement
import ModuleRunner.Proofs.Session.Privacy

/-!
# Sessions under a regime

What the host has done by evaluation keeps to a regime by itself.  Besides, the host makes interpreters
and handles values, and where it does so within the regime too, all moments that the session passes are
within it.

* `Regime.Keeps` — an act that keeps worlds sound.
* `watchAll_eq` — a session comes to the same with two detours that end the same runs.
* `performAll_permitted` — a session leaves a sound world, and passes permitted moments only.
-/

namespace ModuleRunner

open Evaluation ModuleRunner.Module Script Run

variable {R : Regime}

/-- An act that keeps worlds sound, if it is not one that evaluation does. -/
def Evaluation.Regime.Keeps (R : Regime) (act : HostAct) : Prop :=
  match act with
  | .interpret .. | .handle .. => ∀ w, R.Sound w → R.Sound (act.perform.after w)
  | _ => True

namespace Evaluation.Regime

section Acts

variable (hR : R.Whole) {detour cut : Detour} (hcuts : R.Cuts detour cut)

include hR hcuts

lemma watchedEntryPoint {τ : R.Stage} (id function : String) (argument : Value) :
    Agree τ (Session.watchedEntryPoint detour id function argument)
      (Session.watchedEntryPoint cut id function argument) := by
  have hm := watchedMachines_related hR hcuts levels
  refine (hm.loadStep hR id "").andThen fun _ _ exports => (Agrees.calm (calm_readHeap _)).andThen
    fun _ _ entryPoint => .guarded ?_
  exact (Agrees.calm calm_get).andThen fun _ _ w => hm.callStep w.host hR _ _ _

/-- An act comes to the same watched either way, and keeps the world sound. -/
lemma watched_eq {act : HostAct} (hkeeps : R.Keeps act) {w : World} (hw : R.Sound w) :
    act.watched detour w = act.watched cut w ∧ R.Sound ((act.watched cut).after w) := by
  have hm := watchedMachines_related hR hcuts levels
  have done {α : Type} {x y : Run α} (h : Agree (⟨w, hw⟩ : R.Stage) x y) :
      (do let _ ← x : Run Unit) w = (do let _ ← y : Run Unit) w ∧
        R.Sound ((do let _ ← y : Run Unit).after w) :=
    (h.andThen fun _ _ _ => Agrees.done).same
  cases act with
  | load request base => exact done (hm.loadStep hR request base)
  | enter id function argument => exact done (watchedEntryPoint hR hcuts id function argument)
  | call i function receiver arguments => exact done (hm.callStep i hR function receiver arguments)
  | evaluate i source => exact done (hm.evaluateSource i hR source)
  | interpret globals maxDepth => exact ⟨rfl, hkeeps w hw⟩
  | handle change => exact ⟨rfl, hkeeps w hw⟩
  | register id value =>
      have hcalm : (Session.register id value).Calm := (calm_note _).bind fun _ => calm_modifyRegistry _
      exact ⟨rfl, R.calm hw (hcalm w)⟩
  | registerNative id provider =>
      have hcalm : (Session.registerNative id provider).Calm :=
        (calm_newProvider provider).bind fun _ => (calm_note _).bind fun _ => calm_modifyRegistry _
      exact ⟨rfl, R.calm hw (hcalm w)⟩

/-- A session comes to the same watched either way, and leaves a sound world. -/
theorem watchAll_eq {acts : List HostAct} (hkeeps : ∀ act ∈ acts, R.Keeps act) {w : World}
    (hw : R.Sound w) :
    watchAll detour acts w = watchAll cut acts w ∧ R.Sound ((watchAll cut acts).after w) := by
  induction acts generalizing w with
  | nil => exact ⟨rfl, hw⟩
  | cons act rest ih =>
      obtain ⟨hact, hrest⟩ := List.forall_mem_cons.mp hkeeps
      obtain ⟨hsame, hsound⟩ := watched_eq hR hcuts hact hw
      have hcaught : capture (act.watched detour) w = capture (act.watched cut) w := by
        unfold Run.capture
        rw [hsame]
      rw [← after_capture] at hsound
      rw [watchAll, watchAll]
      cases hrun : capture (act.watched cut) w with
      | ok outcome w' =>
          rw [after_of_ok hrun] at hsound
          rw [bind_of_ok (hcaught.trans hrun), bind_of_ok hrun, after_bind_of_ok hrun]
          exact ih hrest hsound
      | error e w' =>
          rw [after_of_error hrun] at hsound
          rw [bind_of_error (hcaught.trans hrun), bind_of_error hrun, after_of_error (bind_of_error hrun)]
          exact ⟨rfl, hsound⟩

end Acts

/-- A session under a regime leaves a sound world, and all moments that it passes are permitted. -/
theorem performAll_permitted (hR : R.Whole) (hfree : R.Lenient) {acts : List HostAct}
    (hkeeps : ∀ act ∈ acts, R.Keeps act) {w : World} (hw : R.Sound w) :
    R.Sound ((performAll acts).after w) ∧ ¬ Passes acts w fun μ => ¬ R.Permits μ := by
  have hunwatched : R.Spares .none := fun _ _ => rfl
  rw [← watchAll_none]
  refine ⟨(watchAll_eq hR (hunwatched.cuts hfree) hkeeps hw).2, ?_⟩
  rintro ⟨detour, hspares, hdiffers⟩
  have hspared : R.Spares detour := fun μ hμ => hspares μ (not_not_intro hμ)
  rw [← watchAll_none] at hdiffers
  exact hdiffers (watchAll_eq hR (hspared.cuts hfree) hkeeps hw).1

end Evaluation.Regime

end ModuleRunner
