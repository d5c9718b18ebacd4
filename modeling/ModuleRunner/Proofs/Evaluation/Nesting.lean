import ModuleRunner.Proofs.Evaluation.Frame

/-!
# Calls nest and unwind

An interpreter counts its calls in progress, and remembers the most that there ever were.  The count
is raised in one place only, when a call starts below the limit, and set back there when the call is
over, however it ends.  So whatever is evaluated leaves the count as it was, and the most that it
ever came to stays within the limit.

* `World.Rewinds` — every count is as it was, and passed no limit meanwhile.
* `Operation`, `operate` — what a host does with an interpreter.
* `calls_nest_within_limit` — all operations, and calls at the limit.
-/

namespace ModuleRunner.Evaluation

open Script ModuleRunner.Module Run

/-! ## The counts of a world -/

namespace World

/-- An interpreter that may call was made. -/
lemma size_of_maxDepth_pos {w : World} {i : InterpreterRef} (h : 0 < (w.interpreter i).maxDepth) :
    i.index < w.interpreters.size := by
  by_contra hout
  have hnone : w.interpreter i = default := by
    simp [interpreter, Array.getD_eq_getD_getElem?, Nat.le_of_not_lt hout]
  rw [hnone] at h
  exact absurd h (by decide)

/-- Setting a count remembers it, if it is the greatest. -/
lemma interpreter_counting_self {w : World} {i : InterpreterRef} (depth : Nat)
    (h : i.index < w.interpreters.size) :
    (w.counting i depth).interpreter i
      = { w.interpreter i with depth, peak := max (w.interpreter i).peak depth } := by
  simp [counting, after, setDepth, interpreter, Array.getD_eq_getD_getElem?,
    Array.getElem_modify, h]

lemma interpreter_counting_of_ne {w : World} {i j : InterpreterRef} (depth : Nat) (h : j ≠ i) :
    (w.counting i depth).interpreter j = w.interpreter j := by
  have h' : i.index ≠ j.index := fun e => h (by cases i; cases j; simp_all)
  simp [counting, after, setDepth, interpreter, Array.getD_eq_getD_getElem?,
    Array.getElem?_modify, h']

/-- Every interpreter of a world has as many calls in progress in another one, where the most that
there ever were has grown within the limit at most. -/
structure Rewinds (w w' : World) : Prop where
  depth : ∀ i, (w'.interpreter i).depth = (w.interpreter i).depth
  maxDepth : ∀ i, (w'.interpreter i).maxDepth = (w.interpreter i).maxDepth
  peak_le : ∀ i, (w.interpreter i).peak ≤ (w'.interpreter i).peak
  peak_within : ∀ i,
    (w'.interpreter i).peak ≤ max (w.interpreter i).peak (w.interpreter i).maxDepth

/-- Where no interpreter changes, none has to be set back. -/
lemma rewinds_of_eq {w w' : World} (h : w'.interpreters = w.interpreters) : Rewinds w w' := by
  have hsame (i : InterpreterRef) : w'.interpreter i = w.interpreter i := by
    rw [interpreter, interpreter, h]
  refine ⟨fun i => ?_, fun i => ?_, fun i => ?_, fun i => ?_⟩
  · rw [hsame]
  · rw [hsame]
  · rw [hsame]
  · rw [hsame]
    exact le_max_left _ _

lemma Rewinds.trans {u v w : World} (huv : Rewinds u v) (hvw : Rewinds v w) : Rewinds u w := by
  refine ⟨fun i => ?_, fun i => ?_, fun i => ?_, fun i => ?_⟩
  · rw [hvw.depth, huv.depth]
  · rw [hvw.maxDepth, huv.maxDepth]
  · exact (huv.peak_le i).trans (hvw.peak_le i)
  · have h₁ := huv.peak_within i
    have h₂ := hvw.peak_within i
    rw [huv.maxDepth] at h₂
    omega

/-- A call in between: it starts below the limit, and its count is taken back. -/
lemma Rewinds.call {w w' : World} {i : InterpreterRef}
    (hlt : (w.interpreter i).depth < (w.interpreter i).maxDepth)
    (hinside : Rewinds (w.counting i ((w.interpreter i).depth + 1)) w') :
    Rewinds w (w'.counting i (w.interpreter i).depth) := by
  have hhere : i.index < w.interpreters.size := size_of_maxDepth_pos (by omega)
  have hsize : i.index < w'.interpreters.size := by
    refine size_of_maxDepth_pos ?_
    rw [hinside.maxDepth, interpreter_counting_self _ hhere]
    exact Nat.zero_lt_of_lt hlt
  have key (j : InterpreterRef) : j = i ∨ j ≠ i := eq_or_ne j i
  refine ⟨fun j => ?_, fun j => ?_, fun j => ?_, fun j => ?_⟩ <;> rcases key j with rfl | hne
  · rw [interpreter_counting_self _ hsize]
  · rw [interpreter_counting_of_ne _ hne, hinside.depth, interpreter_counting_of_ne _ hne]
  · rw [interpreter_counting_self _ hsize, hinside.maxDepth, interpreter_counting_self _ hhere]
  · rw [interpreter_counting_of_ne _ hne, hinside.maxDepth, interpreter_counting_of_ne _ hne]
  · have hle := hinside.peak_le j
    rw [interpreter_counting_self _ hhere] at hle
    rw [interpreter_counting_self _ hsize]
    exact ((le_max_left _ _).trans hle).trans (le_max_left _ _)
  · have hle := hinside.peak_le j
    rw [interpreter_counting_of_ne _ hne] at hle
    rwa [interpreter_counting_of_ne _ hne]
  · have hle := hinside.peak_within j
    rw [interpreter_counting_self _ hhere] at hle
    rw [interpreter_counting_self _ hsize]
    dsimp only at hle ⊢
    omega
  · have hle := hinside.peak_within j
    rw [interpreter_counting_of_ne _ hne] at hle
    rwa [interpreter_counting_of_ne _ hne]

end World

open World

/-! ## Calls -/

lemma rewinds_nested {α : Type} {x : Run α} (i : InterpreterRef) (hx : x.Keeps Rewinds) :
    (Run.nested i x).Keeps Rewinds := by
  intro w
  have hinside := hx (w.counting i ((w.interpreter i).depth + 1))
  have hway := nested_calling x i w
  rw [after]
  generalize Run.nested i x w = result at hway ⊢
  cases hway with
  | refused _ => exact rewinds_of_eq rfl
  | returned hlimit hrun =>
      rw [after_of_ok hrun] at hinside
      exact Rewinds.call hlimit hinside
  | stopped hlimit hrun =>
      rw [after_of_error hrun] at hinside
      exact Rewinds.call hlimit hinside

/-- Evaluation sets every count back. -/
theorem hereditary_rewinds : Hereditary fun _ run => run.Keeps Rewinds where
  pure _ _ := rewinds_of_eq rfl
  throw _ _ := rewinds_of_eq rfl
  bind hx hf := Keeps.bind (R := Rewinds) Rewinds.trans hx hf
  capture {_ x} hx w := by
    rw [after_capture]
    exact hx w
  get _ := rewinds_of_eq rfl
  withHeap _ _ := rewinds_of_eq rfl
  console _ _ := rewinds_of_eq rfl
  nested i hx := rewinds_nested i hx

/-- Every level of evaluation sets every count back. -/
theorem machine_rewinds (n : Nat) : (machine n).Has fun _ run => run.Keeps Rewinds :=
  hereditary_rewinds.machine
    (fun _ hm => hereditary_rewinds.loadStep hm fun _ _ hsame w => rewinds_of_eq (hsame w)) n

/-! ## Operations -/

/-- What a host does with an interpreter. -/
inductive Operation where
  /-- Evaluates a source text. -/
  | eval (i : InterpreterRef) (source : String)
  /-- Calls a function. -/
  | call (i : InterpreterRef) (function receiver : Value) (arguments : List Value)
  /-- Constructs with a function. -/
  | construct (i : InterpreterRef) (function : Value) (arguments : List Value)

/-- The value of an operation. -/
def Operation.run : Operation → Run Value
  | eval i source => Interpreter.eval i source
  | call i function receiver arguments => Interpreter.call i function receiver arguments
  | construct i function arguments => Interpreter.construct i function arguments

/-- One operation after another, whether they succeed or fail. -/
def operate : List Operation → Run Unit
  | [] => return ()
  | operation :: rest => do
    let _ ← capture operation.run
    operate rest

lemma Operation.rewinds (operation : Operation) : operation.run.Keeps Rewinds := by
  have h := hereditary_rewinds
  have hm := machine_rewinds levels
  cases operation with
  | eval i source => exact h.evaluateSource hm i source
  | call i function receiver arguments => exact h.callStep hm i function receiver arguments
  | construct i function arguments => exact h.construct hm i function arguments

lemma operate_rewinds : ∀ operations : List Operation, (operate operations).Keeps Rewinds
  | [] => hereditary_rewinds.pure ()
  | operation :: rest =>
      hereditary_rewinds.bind (hereditary_rewinds.capture operation.rewinds) fun _ =>
        operate_rewinds rest

/-- **Calls nest within the limit.**  A sequence of operations, and each operation by itself from
whatever world and whether it succeeds or fails, leaves the number of calls in progress as it was;
and the most calls that were ever in progress stay within the limit.  A call of a function at the
limit, by whatever part of evaluation, fails before anything else happens. -/
theorem calls_nest_within_limit (operations : List Operation) (w : World) (i : InterpreterRef)
    (hpeak : (w.interpreter i).peak ≤ (w.interpreter i).maxDepth) :
    (((operate operations).after w).interpreter i).depth = (w.interpreter i).depth ∧
    (((operate operations).after w).interpreter i).peak ≤ (w.interpreter i).maxDepth ∧
    (∀ (operation : Operation) (u : World),
      ((operation.run.after u).interpreter i).depth = (u.interpreter i).depth ∧
      ((operation.run.after u).interpreter i).maxDepth = (u.interpreter i).maxDepth ∧
      (u.interpreter i).peak ≤ ((operation.run.after u).interpreter i).peak ∧
      ((operation.run.after u).interpreter i).peak
        ≤ max (u.interpreter i).peak (u.interpreter i).maxDepth) ∧
    ∀ (m : Machine) (u : World) (function : FunctionRef) (receiver : Value)
      (arguments : List Value), (u.interpreter i).maxDepth ≤ (u.interpreter i).depth →
        callStep m i (.function function) receiver arguments u
          = .error (.failed (.range "Maximum call stack size exceeded")) u := by
  have hall := operate_rewinds operations w
  refine ⟨hall.depth i, (hall.peak_within i).trans (max_le hpeak le_rfl), fun operation u => ?_,
    fun m u function receiver arguments hlimit => nested_of_limit _ hlimit⟩
  have hone := operation.rewinds u
  exact ⟨hone.depth i, hone.maxDepth i, hone.peak_le i, hone.peak_within i⟩

/-- A program that calls itself without end, from its block, its handler and its final block: the
limit of three calls is reached, and no call is left in progress. -/
theorem calls_nest_within_limit_endless :
    let w : World :=
      { World.empty with
        heap := { Heap.empty with scopes := #[⟨[], none⟩] }
        interpreters := #[⟨⟨0⟩, 0, 3, 0⟩] }
    let endless : List Operation := [.eval ⟨0⟩ ("function f() \x7b return f(); \x7d " ++
      "try \x7b f(); \x7d catch (e) \x7b f(); \x7d finally \x7b f(); \x7d")]
    (w.interpreter ⟨0⟩).peak ≤ (w.interpreter ⟨0⟩).maxDepth ∧
    (((operate endless).after w).interpreter ⟨0⟩).depth = 0 ∧
    (((operate endless).after w).interpreter ⟨0⟩).peak ≤ 3 ∧
    (((operate endless).after w).interpreter ⟨0⟩).peak = 3 := by
  intro w endless
  have hpeak : (w.interpreter ⟨0⟩).peak ≤ (w.interpreter ⟨0⟩).maxDepth := by decide
  have hall := calls_nest_within_limit endless w ⟨0⟩ hpeak
  exact ⟨hpeak, hall.1, hall.2.1, by decide +kernel⟩

end ModuleRunner.Evaluation
