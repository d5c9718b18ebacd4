import Mathlib.Tactic
import ModuleRunner.Evaluation.World

/-!
# What runs come to

A run takes a world to a result and the world that it leaves.  The ways of putting runs together each
have their laws here, by how the part that runs first ends: sequences, caught failures, and calls
that count while they run.

* `Run.after` — the world that a run leaves.
* `Run.bind_of_ok`, `Run.bind_of_error`, `Run.capture_of_ok`, … — sequences and caught failures.
* `Unfailing` — a run that no failure gets out of.
* `Calling`, `nested_calling` — the ways a call ends.
-/

namespace ModuleRunner.Evaluation

open Script

/-- An interpreter, as a world has it. -/
def World.interpreter (w : World) (i : InterpreterRef) : Interpreter :=
  w.interpreters.getD i.index default

namespace Run

variable {α β : Type}

/-- The world that a run leaves, however it ends. -/
def after (run : Run α) (w : World) : World :=
  match run w with
  | .ok _ w' => w'
  | .error _ w' => w'

lemma after_of_ok {run : Run α} {w w' : World} {a : α} (h : run w = .ok a w') :
    run.after w = w' := by
  rw [after, h]

lemma after_of_error {run : Run α} {w w' : World} {e : Stop} (h : run w = .error e w') :
    run.after w = w' := by
  rw [after, h]

lemma bind_of_ok {x : Run α} {f : α → Run β} {w w' : World} {a : α} (h : x w = .ok a w') :
    (x >>= f) w = f a w' := by
  simp only [bind, EStateM.bind, h]

lemma bind_of_error {x : Run α} {f : α → Run β} {w w' : World} {e : Stop}
    (h : x w = .error e w') : (x >>= f) w = .error e w' := by
  simp only [bind, EStateM.bind, h]

/-- Reading the heap first is taking it from the world. -/
lemma bind_readHeap (f : Heap → α) (k : α → Run β) (w : World) :
    (readHeap f >>= k) w = k (f w.heap) w := rfl

lemma text_of_text? {v : Value} {w : World} {t : String} (h : w.heap.text? v = some t) :
    text v w = .ok t w := by
  rw [text, bind_readHeap, h]
  rfl

lemma after_bind_of_ok {x : Run α} {f : α → Run β} {w w' : World} {a : α} (h : x w = .ok a w') :
    (x >>= f).after w = (f a).after w' := by
  unfold after
  rw [bind_of_ok h]

lemma capture_of_ok {x : Run α} {w w' : World} {a : α} (h : x w = .ok a w') :
    capture x w = .ok (.ok a) w' := by
  simp only [capture, h]

lemma capture_of_failed {x : Run α} {w w' : World} {failure : Failure}
    (h : x w = .error (.failed failure) w') : capture x w = .ok (.error failure) w' := by
  simp only [capture, h]

lemma capture_of_exhausted {x : Run α} {w w' : World} (h : x w = .error .exhausted w') :
    capture x w = .error .exhausted w' := by
  simp only [capture, h]

/-- Catching a failure leaves the world as the failure left it. -/
lemma after_capture (x : Run α) (w : World) : (capture x).after w = x.after w := by
  unfold after capture
  cases x w with
  | ok a w' => rfl
  | error e w' => cases e <;> rfl

end Run

open Run

/-! ## Failures -/

/-- A run that no failure gets out of. -/
def Unfailing {α : Type} (run : Run α) : Prop :=
  ∀ w failure w', run w ≠ .error (.failed failure) w'

lemma unfailing_capture {α : Type} (x : Run α) : Unfailing (capture x) := by
  intro w failure w' hfail
  cases h : x w with
  | ok a w₁ =>
      rw [capture_of_ok h] at hfail
      cases hfail
  | error e w₁ =>
  cases e with
  | failed f =>
      rw [capture_of_failed h] at hfail
      cases hfail
  | exhausted =>
      rw [capture_of_exhausted h] at hfail
      cases hfail

lemma Unfailing.bind {α β : Type} {x : Run α} {f : α → Run β} (hx : Unfailing x)
    (hf : ∀ a, Unfailing (f a)) : Unfailing (x >>= f) := by
  intro w failure w' hfail
  cases h : x w with
  | ok a w₁ =>
      rw [bind_of_ok h] at hfail
      exact hf a w₁ failure w' hfail
  | error e w₁ =>
      rw [bind_of_error h] at hfail
      cases hfail
      exact hx w failure w' h

lemma unfailing_pure {α : Type} (a : α) : Unfailing (pure a : Run α) := by
  rintro w failure w' ⟨⟩

/-! ## Calls -/

/-- A world with a count set. -/
def World.counting (w : World) (i : InterpreterRef) (depth : Nat) : World := (setDepth i depth).after w

/-- How a run as one more call can end.  At the limit of nesting it fails, and nothing else happens;
below the limit the call counts while it runs, and no longer. -/
inductive Calling {α : Type} (i : InterpreterRef) (x : Run α) (w : World) :
    EStateM.Result Stop World α → Prop where
  | refused (hlimit : (w.interpreter i).maxDepth ≤ (w.interpreter i).depth) :
      Calling i x w (.error (.failed (.range "Maximum call stack size exceeded")) w)
  | returned {a : α} {w' : World} (hlimit : (w.interpreter i).depth < (w.interpreter i).maxDepth)
      (hrun : x (w.counting i ((w.interpreter i).depth + 1)) = .ok a w') :
      Calling i x w (.ok a (w'.counting i (w.interpreter i).depth))
  | stopped {e : Stop} {w' : World} (hlimit : (w.interpreter i).depth < (w.interpreter i).maxDepth)
      (hrun : x (w.counting i ((w.interpreter i).depth + 1)) = .error e w') :
      Calling i x w (.error e (w'.counting i (w.interpreter i).depth))

section Calls

variable {α : Type} {i : InterpreterRef} {w : World} (x : Run α)

lemma nested_of_limit (h : (w.interpreter i).maxDepth ≤ (w.interpreter i).depth) :
    Run.nested i x w = .error (.failed (.range "Maximum call stack size exceeded")) w := by
  have hread : Run.interpreter i w = .ok (w.interpreter i) w := rfl
  rw [Run.nested, bind_of_ok hread, if_pos h]
  rfl

lemma nested_of_lt (h : (w.interpreter i).depth < (w.interpreter i).maxDepth) :
    Run.nested i x w = atDepth i ((w.interpreter i).depth + 1) (w.interpreter i).depth x w := by
  have hread : Run.interpreter i w = .ok (w.interpreter i) w := rfl
  rw [Run.nested, bind_of_ok hread, if_neg (Nat.not_le_of_lt h)]

/-- Below the limit a run ends as it does while the call counts, and the count is set back. -/
lemma nested_of_ok (h : (w.interpreter i).depth < (w.interpreter i).maxDepth) {a : α} {w' : World}
    (hrun : x (w.counting i ((w.interpreter i).depth + 1)) = .ok a w') :
    Run.nested i x w = .ok a (w'.counting i (w.interpreter i).depth) := by
  have hset : (setDepth i ((w.interpreter i).depth + 1) >>= fun _ => x) w = .ok a w' := hrun
  rw [nested_of_lt x h]
  unfold atDepth
  rw [hset]
  rfl

lemma nested_of_error (h : (w.interpreter i).depth < (w.interpreter i).maxDepth) {e : Stop}
    {w' : World} (hrun : x (w.counting i ((w.interpreter i).depth + 1)) = .error e w') :
    Run.nested i x w = .error e (w'.counting i (w.interpreter i).depth) := by
  have hset : (setDepth i ((w.interpreter i).depth + 1) >>= fun _ => x) w = .error e w' := hrun
  rw [nested_of_lt x h]
  unfold atDepth
  rw [hset]
  rfl

/-- The way a call ends. -/
theorem nested_calling (i : InterpreterRef) (w : World) : Calling i x w (Run.nested i x w) := by
  rcases Nat.lt_or_ge (w.interpreter i).depth (w.interpreter i).maxDepth with hlt | hge
  · have hset : (setDepth i ((w.interpreter i).depth + 1) >>= fun _ => x) w
        = x (w.counting i ((w.interpreter i).depth + 1)) := rfl
    rw [nested_of_lt x hlt]
    unfold atDepth
    rw [hset]
    cases hrun : x (w.counting i ((w.interpreter i).depth + 1)) with
    | ok a w' => exact .returned hlt hrun
    | error e w' => exact .stopped hlt hrun
  · rw [nested_of_limit x hge]
    exact .refused hge

end Calls

end ModuleRunner.Evaluation
