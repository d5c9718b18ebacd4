import ModuleRunner.Proofs.Evaluation.Hereditary

/-!
# What a run leaves alone

A relation between the world a run is given and the world it leaves speaks about both ends of a run,
success or not.  Where it is a preorder and does not look at the heap, the console or the
interpreters, evaluation cannot break it: whether it holds of a session is decided by loading alone.

A run that is out of levels leaves things half done, so of such a run less may hold.  Two relations, one
for runs that end and one for all others, go together if the second is what is left of the first.

* `Run.Keeps` — the worlds before and after a run are related, wherever it starts.
* `Frame` — a relation that does not look at what scripts compute with.
* `Frame.hereditary` — evaluation hands such a relation on.
* `World.Spans`, `Span`, `Span.hereditary` — the same of two relations, told apart by how a run ends.
-/

namespace ModuleRunner.Evaluation

open Script

namespace Run

variable {α β : Type}

/-- The worlds before and after a run are related, wherever it starts. -/
def Keeps (R : World → World → Prop) (run : Run α) : Prop := ∀ w, R w (run.after w)

/-- What two runs keep, one after the other keeps if it composes. -/
lemma Keeps.bind {R : World → World → Prop} (htrans : ∀ {u v w : World}, R u v → R v w → R u w)
    {x : Run α} {f : α → Run β} (hx : x.Keeps R) (hf : ∀ a, (f a).Keeps R) :
    (x >>= f).Keeps R := by
  intro w
  have hxw := hx w
  cases h : x w with
  | ok a w' =>
      have hfw := hf a w'
      rw [after_of_ok h] at hxw
      rw [after, bind_of_ok h]
      exact htrans hxw hfw
  | error e w' =>
      rw [after_of_error h] at hxw
      rwa [after_of_error (bind_of_error h)]

end Run

/-- A preorder on worlds that does not look at what scripts compute with. -/
structure Frame (R : World → World → Prop) : Prop where
  refl : ∀ w, R w w
  trans : ∀ {u v w}, R u v → R v w → R u w
  heap : ∀ w heap, R w { w with heap := heap }
  console : ∀ w console, R w { w with console := console }
  interpreters : ∀ w interpreters, R w { w with interpreters := interpreters }

namespace Frame

variable {R : World → World → Prop} (hR : Frame R)

include hR

lemma bind {α β : Type} {x : Run α} {f : α → Run β} (hx : x.Keeps R)
    (hf : ∀ a, (f a).Keeps R) : (x >>= f).Keeps R :=
  Run.Keeps.bind (R := R) hR.trans hx hf

lemma nested {α : Type} {x : Run α} (i : InterpreterRef) (hx : x.Keeps R) :
    (Run.nested i x).Keeps R := by
  intro w
  have hinside : R w (x.after (w.counting i ((w.interpreter i).depth + 1))) :=
    hR.trans (hR.interpreters w _) (hx _)
  have hway := nested_calling x i w
  rw [Run.after]
  generalize Run.nested i x w = result at hway ⊢
  cases hway with
  | refused _ => exact hR.refl w
  | returned _ hrun =>
      rw [Run.after_of_ok hrun] at hinside
      exact hR.trans hinside (hR.interpreters _ _)
  | stopped _ hrun =>
      rw [Run.after_of_error hrun] at hinside
      exact hR.trans hinside (hR.interpreters _ _)

/-- Evaluation hands on every relation that does not look at what scripts compute with. -/
theorem hereditary : Hereditary fun _ run => run.Keeps R where
  pure _ w := hR.refl w
  throw _ w := hR.refl w
  bind hx hf := hR.bind hx hf
  capture {_ x} hx w := by
    rw [Run.after_capture]
    exact hx w
  get w := hR.refl w
  withHeap _ w := hR.heap w _
  console _ w := hR.console w _
  nested i hx := hR.nested i hx

end Frame

/-! ## Runs that are out of levels -/

/-- The world that a run leaves is related to one before it: by `S` if the run ends, in success or
failure, and by `T` if it is out of levels. -/
def World.Spans {α : Type} (S T : World → World → Prop) (w : World) :
    EStateM.Result Stop World α → Prop
  | .ok _ w' => S w w'
  | .error (.failed _) w' => S w w'
  | .error .exhausted w' => T w w'

/-- A frame for runs that end, with what is left of it when a run is out of levels. -/
structure Span (S T : World → World → Prop) : Prop where
  ends : Frame S
  stops : ∀ {u v}, S u v → T u v
  trans : ∀ {u v w}, S u v → T v w → T u w
  interpreters : ∀ {u v}, T u v → ∀ interpreters, T u { v with interpreters := interpreters }

namespace Span

variable {α β : Type} {S T : World → World → Prop} (h : Span S T) {w w₁ : World}

include h

lemma of_error {stop : Stop} (hw : S w w₁) :
    w.Spans S T (.error stop w₁ : EStateM.Result Stop World α) := by
  cases stop with
  | failed failure => exact hw
  | exhausted => exact h.stops hw

/-- A run starts where the one before left. -/
lemma after {result : EStateM.Result Stop World α} (hw : S w w₁) (hrun : w₁.Spans S T result) :
    w.Spans S T result := by
  match result with
  | .ok a w' => exact h.ends.trans hw hrun
  | .error (.failed failure) w' => exact h.ends.trans hw hrun
  | .error .exhausted w' => exact h.trans hw hrun

lemma bind {x : Run α} {f : α → Run β} (hx : w.Spans S T (x w))
    (hf : ∀ a w₁, x w = .ok a w₁ → w₁.Spans S T (f a w₁)) : w.Spans S T ((x >>= f) w) := by
  cases hrun : x w with
  | ok a w' =>
      rw [hrun] at hx
      rw [Run.bind_of_ok hrun]
      exact h.after hx (hf a w' hrun)
  | error e w' =>
      rw [hrun] at hx
      rw [Run.bind_of_error hrun]
      cases e <;> exact hx

omit h in
lemma capture {x : Run α} (hx : w.Spans S T (x w)) : w.Spans S T (Run.capture x w) := by
  cases hrun : x w with
  | ok a w' =>
      rw [hrun] at hx
      rw [Run.capture_of_ok hrun]
      exact hx
  | error e w' =>
      rw [hrun] at hx
      cases e with
      | failed failure =>
          rw [Run.capture_of_failed hrun]
          exact hx
      | exhausted =>
          rw [Run.capture_of_exhausted hrun]
          exact hx

lemma nested {x : Run α} {i : InterpreterRef}
    (hx : (w.counting i ((w.interpreter i).depth + 1)).Spans S T
      (x (w.counting i ((w.interpreter i).depth + 1)))) : w.Spans S T (Run.nested i x w) := by
  have hinside := h.after (h.ends.interpreters w _) hx
  have hway := nested_calling x i w
  generalize Run.nested i x w = result at hway ⊢
  cases hway with
  | refused _ => exact h.of_error (h.ends.refl w)
  | returned _ hrun =>
      rw [hrun] at hinside
      exact h.ends.trans hinside (h.ends.interpreters _ _)
  | @stopped e _ _ hrun =>
      rw [hrun] at hinside
      cases e with
      | failed failure => exact h.ends.trans hinside (h.ends.interpreters _ _)
      | exhausted => exact h.interpreters hinside _

/-- Evaluation hands on what loading does. -/
theorem hereditary : Hereditary fun _ run => ∀ w : World, w.Spans S T (run w) where
  pure _ w := h.ends.refl w
  throw _ w := h.of_error (h.ends.refl w)
  bind hx hf w := h.bind (hx w) fun a w₁ _ => hf a w₁
  capture hx w := capture (hx w)
  get w := h.ends.refl w
  withHeap _ w := h.ends.heap w _
  console _ w := h.ends.console w _
  nested _ hx _ := h.nested (hx _)

end Span

end ModuleRunner.Evaluation
