import ModuleRunner.Proofs.Loading.Enclosure

/-!
# Runs stay inside

What runs inside a realm stays there: what it returns is inside, what it throws is inside, and the
world that it leaves is enclosed again.  If no function inside prints, it prints nothing.  All of
this is one contract, which loading keeps to as well: it catches failures of its own, but what is
caught is inside.

* `Confined` — the contract.
* `machine_confined` — every level of evaluation, in every realm.
-/

namespace ModuleRunner.Script.Realm

open Evaluation

/-- What becomes of a world: it is enclosed, and if nothing inside prints, nothing was printed. -/
structure Continues (R : Realm) (w w' : World) : Prop where
  encloses : R.Encloses w'
  silent : (∀ level, ¬ R.native (.print level)) → w'.console = w.console

/-- How a run inside a realm can end. -/
inductive Ends (R : Realm) {α : Type} (Q : α → Prop) (w : World) :
    EStateM.Result Stop World α → Prop where
  | ok {a : α} {w' : World} (ha : Q a) (h : R.Continues w w') : Ends R Q w (.ok a w')
  | failed {failure : Failure} {w' : World} (hfailure : R.failure failure)
      (h : R.Continues w w') : Ends R Q w (.error (.failed failure) w')
  | exhausted {w' : World} (h : R.Continues w w') : Ends R Q w (.error .exhausted w')

variable {R : Realm} {α : Type} {Q : α → Prop} {w w' w'' : World}

lemma Continues.trans (h : R.Continues w w') (h' : R.Continues w' w'') : R.Continues w w'' :=
  ⟨h'.encloses, fun hR => (h'.silent hR).trans (h.silent hR)⟩

/-- What keeps the console and stays enclosed. -/
lemma Encloses.continues (h : R.Encloses w') (hconsole : w'.console = w.console) :
    R.Continues w w' :=
  ⟨h, fun _ => hconsole⟩

/-- A run starts where the one before left. -/
lemma Ends.after (h : R.Continues w w') {result : EStateM.Result Stop World α}
    (hresult : R.Ends Q w' result) : R.Ends Q w result := by
  cases hresult with
  | ok ha h' => exact .ok ha (h.trans h')
  | failed hfailure h' => exact .failed hfailure (h.trans h')
  | exhausted h' => exact .exhausted (h.trans h')

/-- A heap that is closed again. -/
lemma Encloses.withHeap (h : R.Encloses w) {heap : Heap} (hheap : R.Closed heap) :
    R.Encloses { w with heap } :=
  ⟨hheap, h.globals, h.values, h.records, h.providers, h.sources⟩

lemma Encloses.withConsole (h : R.Encloses w) (console : Console) :
    R.Encloses { w with console } :=
  ⟨h.heap, h.globals, h.values, h.records, h.providers, h.sources⟩

/-- A count that is set changes nothing that a realm encloses. -/
lemma Encloses.counting (h : R.Encloses w) (i : InterpreterRef) (depth : Nat) :
    R.Encloses (w.counting i depth) where
  heap := h.heap
  globals j := by
    have hsame : ((w.counting i depth).interpreter j).globals = (w.interpreter j).globals := by
      show (Array.getD (w.interpreters.modify i.index _) j.index default).globals = _
      rw [Array.getD_eq_getD_getElem?, Array.getElem?_modify, World.interpreter,
        Array.getD_eq_getD_getElem?]
      split
      · cases w.interpreters[j.index]? <;> rfl
      · rfl
    exact hsame ▸ h.globals j
  values := h.values
  records := h.records
  providers := h.providers
  sources := h.sources

end ModuleRunner.Script.Realm

namespace ModuleRunner.Evaluation

open Script ModuleRunner.Module Run

/-- A run that stays inside a realm, wherever inside it starts. -/
def Confined (R : Realm) (α : Type) (Q : α → Prop) (x : Run α) : Prop :=
  ∀ w, R.Encloses w → R.Ends Q w (x w)

namespace Confined

variable {R : Realm} {α β : Type} {Q : α → Prop} {S : β → Prop} {x : Run α}

/-- The world that such a run leaves. -/
lemma continues (hx : Confined R α Q x) {w : World} (hw : R.Encloses w) :
    R.Continues w (x.after w) := by
  have hend := hx w hw
  unfold after
  generalize x w = result at hend ⊢
  cases hend with
  | ok _ h => exact h
  | failed _ h => exact h
  | exhausted h => exact h

/-- A run that changes the world in one step. -/
lemma of_step {f : World → α} {g : World → World}
    (h : ∀ w, R.Encloses w → Q (f w) ∧ R.Continues w (g w)) :
    Confined R α Q fun w => .ok (f w) (g w) :=
  fun w hw => .ok (h w hw).1 (h w hw).2

lemma bind {f : α → Run β} (hx : Confined R α Q x) (hf : ∀ a, Q a → Confined R β S (f a)) :
    Confined R β S (x >>= f) := by
  intro w hw
  have hend := hx w hw
  cases h : x w with
  | ok a w₁ =>
      rw [h] at hend
      cases hend with
      | ok ha hw₁ =>
          rw [bind_of_ok h]
          exact (hf a ha w₁ hw₁.encloses).after hw₁
  | error e w₁ =>
      rw [h] at hend
      rw [bind_of_error h]
      cases hend with
      | failed hfailure hw₁ => exact .failed hfailure hw₁
      | exhausted hw₁ => exact .exhausted hw₁

lemma capture (hx : Confined R α Q x) :
    Confined R (Except Failure α) (R.outcome Q) (Run.capture x) := by
  intro w hw
  have hend := hx w hw
  generalize hresult : x w = result at hend
  cases hend with
  | ok ha hw₁ =>
      rw [capture_of_ok hresult]
      exact .ok ha hw₁
  | failed hfailure hw₁ =>
      rw [capture_of_failed hresult]
      exact .ok hfailure hw₁
  | exhausted hw₁ =>
      rw [capture_of_exhausted hresult]
      exact .exhausted hw₁

lemma nested (i : InterpreterRef) (hx : Confined R α Q x) : Confined R α Q (Run.nested i x) := by
  intro w hw
  have hset := (hw.counting i ((w.interpreter i).depth + 1)).continues (w := w) rfl
  have hend := (hx _ hset.encloses).after hset
  have hback {w₁ : World} (h : R.Continues w w₁) :
      R.Continues w (w₁.counting i (w.interpreter i).depth) :=
    h.trans ((h.encloses.counting i _).continues rfl)
  have hway := nested_calling x i w
  generalize Run.nested i x w = result at hway ⊢
  cases hway with
  | refused _ => exact .failed trivial (hw.continues rfl)
  | returned _ hrun =>
      rw [hrun] at hend
      cases hend with
      | ok ha h => exact .ok ha (hback h)
  | stopped _ hrun =>
      rw [hrun] at hend
      cases hend with
      | failed hfailure h => exact .failed hfailure (hback h)
      | exhausted h => exact .exhausted (hback h)

end Confined

/-- Staying inside is a contract. -/
theorem confined (R : Realm) : Contract R (Confined R) where
  pure hQ _ hw := .ok hQ (hw.continues rfl)
  fail hfailure _ hw := .failed hfailure (hw.continues rfl)
  exhausted _ hw := .exhausted (hw.continues rfl)
  bind hx hf := hx.bind hf
  capture _ _ _ _ hx := hx.capture
  get _ hw := .ok hw (hw.continues rfl)
  withHeap hf w hw :=
    have hheap := hf w.heap hw.heap
    .ok hheap.1 ((hw.withHeap hheap.2).continues rfl)
  console level hlevel _ := .of_step fun _ hw =>
    ⟨trivial, hw.withConsole _, fun hR => absurd hlevel (hR level)⟩
  nested i hx := hx.nested i

/-- Every level of evaluation stays inside every realm. -/
theorem machine_confined (R : Realm) (n : Nat) : (machine n).Honours R (Confined R) :=
  (confined R).machine (fun _ hm => (confined R).loadStep Confined.capture
    (fun _ _ hsame hbook => .of_step fun w hw =>
      ⟨(hbook w hw).1, (hbook w hw).2.continues (hsame w).2⟩) hm) n

end ModuleRunner.Evaluation
