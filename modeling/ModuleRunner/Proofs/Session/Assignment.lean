import ModuleRunner.Proofs.Script.Nearest
import ModuleRunner.Proofs.Session.Standing

/-!
# Assignments in sessions

Scopes are made by calls, blocks, rounds of loops, `catch` clauses and functions with a name, and by the
host.  Each is made inside one that was there, and none is ever put inside another one later.  So from the
first interpreter on, and at all moments of all that runs, no scope is inside itself; names are looked up
and assigned at the nearest scope that binds them, and an assignment that fails has changed nothing.

* `Heap.Binds` — the nearest binding of a name.
* `assign_cases` — the ways an assignment ends.
* `World.AssignsNearest` — reading and assigning go by the nearest binding.
* `Heap.Handled`, `HostAct.Handles` — what a host does to scopes.
* `World.IsBare` — a world before its first interpreter.
* `sessions_assign_nearest` — all sessions.
-/

namespace ModuleRunner

open Evaluation Script Run

/-! ## The nearest binding -/

namespace Script.Heap

/-- The nearest scope that binds a name binds it so. -/
def Binds (heap : Heap) (s : ScopeRef) (name : String) (b : Binding) : Prop :=
  ∃ holder, heap.Nearest s name holder ∧ heap.ownBinding? holder name = some b

/-- The scope that an assignment changes is the one that binds the name, and it binds the value after. -/
def RebindsNearest (heap : Heap) (s : ScopeRef) (name : String) (v : Value) (later : Heap) : Prop :=
  ∃ holder, heap.Nearest s name holder ∧ heap.Rebinds holder name v later ∧
    later.lookup s name = some v

variable {heap : Heap} {s : ScopeRef} {name : String}

lemma Binds.unique {b b' : Binding} (h : heap.Binds s name b) (h' : heap.Binds s name b') : b = b' := by
  obtain ⟨holder, hnearest, hbinding⟩ := h
  obtain ⟨other, hother, hbinding'⟩ := h'
  obtain rfl := hnearest.unique hother
  exact Option.some.inj (hbinding.symm.trans hbinding')

lemma lookup_eq_some_iff_binds (hlayered : heap.Layered) {v : Value} :
    heap.lookup s name = some v ↔ ∃ isMutable, heap.Binds s name ⟨v, isMutable⟩ := by
  rw [lookup_eq_some_iff hlayered]
  exact exists_comm

lemma Binds.lookup_ne_none (hlayered : heap.Layered) {b : Binding} (h : heap.Binds s name b) :
    heap.lookup s name ≠ none := by
  rw [(lookup_eq_some_iff_binds hlayered).mpr ⟨b.isMutable, h⟩]
  exact Option.some_ne_none _

end Script.Heap

/-! ## Assigning in a world -/

namespace Evaluation

/-- The ways an assignment ends. -/
inductive Assigns (w : World) (s : ScopeRef) (name : String) (v : Value) :
    EStateM.Result Stop World Unit → Prop where
  | done {old : Value} {later : Heap} (hbinds : w.heap.Binds s name ⟨old, true⟩)
      (hrebinds : w.heap.RebindsNearest s name v later) : Assigns w s name v (.ok () { w with heap := later })
  | constant {old : Value} (hbinds : w.heap.Binds s name ⟨old, false⟩) :
      Assigns w s name v (.error (.failed (.type "Assignment to constant variable.")) w)
  | unbound (hnone : w.heap.lookup s name = none) :
      Assigns w s name v (.error (.failed (.reference name)) w)

lemma assign_cases {w : World} (hlayered : w.heap.Layered) {s : ScopeRef} {name : String} {v : Value}
    {result : EStateM.Result Stop World Unit} (hresult : Run.assign s name v w = result) :
    Assigns w s name v result := by
  subst hresult
  have hassigned := Heap.assigned_assign hlayered s name v
  have hrun : Run.withHeap (·.assign s name v) w =
    .ok (w.heap.assign s name v).1 { w with heap := (w.heap.assign s name v).2 } := rfl
  rw [Run.assign, bind_of_ok hrun]
  generalize w.heap.assign s name v = answer at hassigned
  obtain ⟨outcome, later⟩ := answer
  cases hassigned with
  | done hnearest hbinding hrebinds hread =>
    exact .done ⟨_, hnearest, hbinding⟩ ⟨_, hnearest, hrebinds, hread⟩
  | constant hnearest hbinding => exact .constant ⟨_, hnearest, hbinding⟩
  | unbound hnone => exact .unbound hnone

/-- Reading and assigning go by the nearest binding, for every scope, every name and every value. -/
structure World.AssignsNearest (w : World) : Prop where
  /-- No scope is inside itself. -/
  acyclic : ∀ s, ¬ Relation.TransGen w.heap.Inside s s
  /-- Walks outward end, without a bound, where the bounded search stops. -/
  ends : ∀ s name, w.heap.Walk name s (w.heap.holder? s name)
  /-- What is read is what the nearest scope binds. -/
  reads : ∀ s name v, w.heap.lookup s name = some v ↔ ∃ isMutable, w.heap.Binds s name ⟨v, isMutable⟩
  /-- What is not found is bound nowhere outward. -/
  missing : ∀ s name, w.heap.lookup s name = none ↔
    ∀ t, w.heap.Within t s → w.heap.ownBinding? t name = none
  /-- Names that may change are assigned, and no others. -/
  succeeds : ∀ s name v,
    (∃ w', Run.assign s name v w = .ok () w') ↔ ∃ old, w.heap.Binds s name ⟨old, true⟩
  /-- Then the name is read as the value, and no other binding of any scope has changed. -/
  stored : ∀ s name v w', Run.assign s name v w = .ok () w' →
    w' = { w with heap := w'.heap } ∧ w.heap.RebindsNearest s name v w'.heap
  /-- A name that is not found is refused, and no other. -/
  reference : ∀ s name v, (∃ w', Run.assign s name v w = .error (.failed (.reference name)) w') ↔
    w.heap.lookup s name = none
  /-- All other failures are those of names that are bound for good. -/
  type : ∀ s name v stop w', Run.assign s name v w = .error stop w' → w.heap.lookup s name ≠ none →
    stop = .failed (.type "Assignment to constant variable.") ∧
      ∃ old, w.heap.Binds s name ⟨old, false⟩
  /-- A failure changes nothing. -/
  unchanged : ∀ s name v stop w', Run.assign s name v w = .error stop w' → w' = w

/-- Where the scope around a scope is older, reading and assigning go by the nearest binding. -/
theorem World.assignsNearest {w : World} (hlayered : w.heap.Layered) : w.AssignsNearest where
  acyclic := hlayered.acyclic
  ends s name := Heap.walk_holder? hlayered name s
  reads _ _ _ := Heap.lookup_eq_some_iff_binds hlayered
  missing _ _ := Heap.lookup_eq_none_iff hlayered
  succeeds s name v := by
    generalize hrun : Run.assign s name v w = result
    cases assign_cases hlayered hrun with
    | done hbinds => exact iff_of_true ⟨_, rfl⟩ ⟨_, hbinds⟩
    | constant hbinds =>
      refine iff_of_false (by rintro ⟨w', ⟨⟩⟩) ?_
      rintro ⟨old, hbinds'⟩
      cases hbinds.unique hbinds'
    | unbound hnone =>
      refine iff_of_false (by rintro ⟨w', ⟨⟩⟩) ?_
      rintro ⟨old, hbinds⟩
      exact hbinds.lookup_ne_none hlayered hnone
  stored s name v w' hrun := by
    cases assign_cases hlayered hrun with
    | done _ hrebinds => exact ⟨rfl, hrebinds⟩
  reference s name v := by
    generalize hrun : Run.assign s name v w = result
    cases assign_cases hlayered hrun with
    | done hbinds => exact iff_of_false (by rintro ⟨w', ⟨⟩⟩) (hbinds.lookup_ne_none hlayered)
    | constant hbinds => exact iff_of_false (by rintro ⟨w', ⟨⟩⟩) (hbinds.lookup_ne_none hlayered)
    | unbound hnone => exact iff_of_true ⟨w, rfl⟩ hnone
  type s name v stop w' hrun hfound := by
    cases assign_cases hlayered hrun with
    | constant hbinds => exact ⟨rfl, _, hbinds⟩
    | unbound hnone => exact absurd hnone hfound
  unchanged s name v stop w' hrun := by
    cases assign_cases hlayered hrun <;> rfl

end Evaluation

/-! ## Hosts -/

/-- What a host does to scopes and to the code of functions: it makes scopes inside such as are there,
binds names, and makes functions that close over scopes that are there.  All else leaves them alone. -/
inductive Script.Heap.Handled : Heap → Heap → Prop where
  | alike {heap heap' : Heap} (h : heap.Alike heap') : Handled heap heap'
  | scope (heap : Heap) {parent : Option ScopeRef} (hparent : ∀ p ∈ parent, p.index < heap.scopes.size) :
      Handled heap (heap.newScope parent).2
  | bind (heap : Heap) (scope : ScopeRef) (name : String) (v : Value) (isMutable : Bool) :
      Handled heap (heap.declare scope name v isMutable)
  | closure (heap : Heap) (name : String) (literal : FunctionLiteral) {scope : ScopeRef}
      (hscope : scope.index < heap.scopes.size) :
      Handled heap (heap.newFunction ⟨name, .script literal scope, []⟩).2
  | trans {heap heap' heap'' : Heap} (h : Handled heap heap') (h' : Handled heap' heap'') :
      Handled heap heap''

/-- An act that does nothing else to scopes, if it is one by which the host changes values. -/
def HostAct.Handles : HostAct → Prop
  | handle change => ∀ heap : Heap, heap.Handled (change heap)
  | _ => True

/-- The scopes that anything refers to are there after what a host does. -/
lemma Script.Heap.Handled.standing {heap heap' : Heap} (h : heap.Handled heap') {w : World}
    (hheap : w.heap = heap) (hw : w.Standing) : { w with heap := heap' }.Standing := by
  induction h generalizing w with
  | alike h =>
    subst hheap
    refine ⟨hw.layered.of_parent h.parent, fun f literal s hcode => ?_, fun i => ?_⟩
    · exact h.size ▸ hw.closures f literal s (h.code f literal s hcode)
    · exact h.size ▸ hw.globals i
  | scope heap hparent =>
    subst hheap
    have hgrows := Heap.Grows.newScope w.heap
    exact ⟨hw.layered.newScope hparent,
      fun f literal s hcode => (hgrows _).made (hw.closures f literal s hcode),
      fun i => (hgrows _).made (hw.globals i)⟩
  | bind heap scope name v isMutable =>
    subst hheap
    exact hw.declare scope name v isMutable
  | closure heap name literal hscope =>
    subst hheap
    exact hw.newClosure name literal hscope
  | @trans _ heap' _ _ _ ih ih' => exact @ih' { w with heap := heap' } rfl (ih hheap hw)

lemma HostAct.Handles.respects {act : HostAct} (h : act.Handles) : act.Respects World.Standing := by
  cases act with
  | handle change => exact fun w hw => (h w.heap).standing rfl hw
  | _ => trivial

/-! ## Sessions -/

/-- A world before its first interpreter: no scope has been made, and no function of a script. -/
structure Evaluation.World.IsBare (w : World) : Prop where
  scopes : w.heap.scopes = #[]
  closures : ∀ f literal s, (w.heap.functionAt f).code ≠ .script literal s
  interpreters : w.interpreters = #[]

/-- A session that begins in such a world begins with all scopes that anything refers to. -/
lemma Opening.standing_start {o : Opening} (h : o.world.IsBare) : o.start.Standing := by
  have hlayered : o.world.heap.Layered := by
    intro s parent hparent
    have hmade := Heap.lt_of_parent hparent
    rw [h.scopes] at hmade
    cases hmade
  have hfirst := World.standing_newInterpreter hlayered
    (fun f literal s hcode => absurd hcode (h.closures f literal s))
    (fun i hi => by rw [h.interpreters] at hi; cases hi) o.granted o.maxDepth
  rw [after_of_ok (newInterpreter_eq _ _ _)] at hfirst
  exact ⟨hfirst.layered, hfirst.closures, hfirst.globals⟩

lemma Passes.mono {acts : List HostAct} {w : World} {there there' : Moment → Prop}
    (h : Passes acts w there) (hle : ∀ μ, there μ → there' μ) : Passes acts w there' := by
  obtain ⟨detour, hspares, hdiffers⟩ := h
  exact ⟨detour, fun μ hμ => hspares μ fun hthere => hμ (hle μ hthere), hdiffers⟩

/-- **Assignments in sessions.**  Let a session begin with the first interpreter, with whatever is granted
and wherever modules are, and let the host do whatever it likes but put a scope or a function around what is
not there.  At all moments that the session passes, and in the end, no scope is inside itself and walks
outward end.  An assignment succeeds exactly if the nearest scope that binds the name binds it so that it
may change; then the name has the value, and no other binding has changed.  It fails for a reference exactly
if reading the name finds nothing, and else for a type; and then nothing has changed. -/
theorem sessions_assign_nearest (o : Opening) (hbare : o.world.IsBare) {acts : List HostAct}
    (hacts : ∀ act ∈ acts, act.Handles) :
    ((performAll acts).after o.start).AssignsNearest ∧
      ¬ Passes acts o.start fun μ => ¬ μ.world.AssignsNearest := by
  obtain ⟨hstanding, hpermitted⟩ := Regime.performAll_permitted Regime.standing_whole
    Regime.standing_lenient (fun act hact => (hacts act hact).respects.keeps (R := .standing)
      fun granted maxDepth _ hw => hw.newInterpreter granted maxDepth) (Opening.standing_start hbare)
  refine ⟨World.assignsNearest hstanding.layered, fun hpasses => hpermitted ?_⟩
  exact hpasses.mono fun μ hμ hpermits => hμ (World.assignsNearest hpermits.sound.layered)

/-- A function assigns a name of its own that covers a global one; afterwards a constant cannot be
assigned, nor a name that is not bound. -/
theorem sessions_assign_nearest_covered :
    let o : Opening := ⟨World.empty, [], 5, fun _ => .ok none⟩
    let source := "const k = 'a'; var x = 'a'; function f() \x7b let x = 'b'; x = 'c'; return x; \x7d var y = f();"
    let acts : List HostAct := [.evaluate ⟨0⟩ source, .handle fun heap => (heap.newScope none).2]
    let w := (performAll acts).after o.start
    o.world.IsBare ∧ (∀ act ∈ acts, act.Handles) ∧
      w.heap.lookup ⟨0⟩ "x" = some (.text "a") ∧ w.heap.lookup ⟨0⟩ "y" = some (.text "c") ∧
      (¬ ∃ w', Run.assign ⟨0⟩ "k" (.text "b") w = .ok () w') ∧
      ∃ w', Run.assign ⟨0⟩ "z" (.text "b") w = .error (.failed (.reference "z")) w' := by
  intro o source acts w
  have hbare : o.world.IsBare := ⟨rfl, fun f literal s h => (by cases h), rfl⟩
  have hacts : ∀ act ∈ acts, act.Handles := by
    simp only [acts, List.forall_mem_cons, HostAct.Handles]
    exact ⟨trivial, fun heap => .scope heap (by rintro p ⟨⟩), fun _ hnone => nomatch hnone⟩
  obtain ⟨hassigns, -⟩ := sessions_assign_nearest o hbare hacts
  have hvalues : w.heap.lookup ⟨0⟩ "x" = some (.text "a") ∧ w.heap.lookup ⟨0⟩ "y" = some (.text "c") ∧
      w.heap.lookup ⟨0⟩ "z" = none ∧ (w.heap.ownBinding? ⟨0⟩ "k").map (·.isMutable) = some false := by
    decide +kernel
  obtain ⟨hx, hy, hz, hk⟩ := hvalues
  refine ⟨hbare, hacts, hx, hy, fun hsucceeds => ?_, (hassigns.reference _ _ _).mpr hz⟩
  obtain ⟨old, hbinds⟩ := (hassigns.succeeds _ _ _).mp hsucceeds
  obtain ⟨b, hbinding, hfinal⟩ := Option.map_eq_some_iff.mp hk
  have hconstant : w.heap.Binds ⟨0⟩ "k" b := ⟨⟨0⟩, ⟨.here, by rw [hbinding]; rfl⟩, hbinding⟩
  rw [hconstant.unique hbinds] at hfinal
  cases hfinal

end ModuleRunner
