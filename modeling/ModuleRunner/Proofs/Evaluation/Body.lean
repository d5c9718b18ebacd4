import ModuleRunner.Proofs.Evaluation.Standing

/-!
# The runs of a body

A body, of a function or of a program, runs in a frame: the scope of its call, or the global one.  Its
phrases run in the frame or in scopes inside it, and what the body calls runs wherever it may.  To tell
the body's own moments from those of the bodies that it calls, they are watched with detours of their own.

Entering a body binds names in the frame, and from then on they are found from all scopes inside it,
whatever runs there.

* `bodyMachine`, `PassesIn` — a body, watched.
* `Moment.Knows` — a name that can be read and assigned.
* `enterBody`, `aheadNames` — entering a body, and the names that it binds.
* `Moment.Binds`, `Moment.FindsDeclared` — declarations that are reached.
* `Moment.Beside`, `Moment.InBody` — what holds of all moments, and of a body's own.
* `Course`, `invokeScript_course`, `evaluateSource_course` — calls and programs.
-/

namespace ModuleRunner.Evaluation

open Script Run

/-! ## A body, watched -/

/-- The machine of each level, with one detour in the body that it runs and another one in all that the
body calls. -/
def bodyMachine (own others : Detour) : Nat → Machine
  | 0 => Machine.spent
  | n + 1 =>
    { patience := n
      evaluate := fun i scope e =>
        watch own scope (.expression e) (evaluateStep (bodyMachine own others n) i scope e)
      execute := fun i scope s =>
        watch own scope (.statement s) (executeStep (bodyMachine own others n) i scope s)
      call := fun i function receiver arguments =>
        callStep (watchedMachine others n) i function receiver arguments
      load := fun request base => loadStep (watchedMachine others n) request base }

/-- A run passes one of some moments of the body itself, or one of some moments in what the body calls,
if it makes a difference to be sent on a detour there. -/
def PassesIn {α : Type} (run : Machine → Run α) (n : Nat) (w : World) (own others : Moment → Prop) :
    Prop :=
  ∃ d d' : Detour, (∀ μ, ¬ own μ → d μ = .none) ∧ (∀ μ, ¬ others μ → d' μ = .none) ∧
    run (bodyMachine d d' n) w ≠ run (machine n) w

lemma PassesIn.mono {α : Type} {run : Machine → Run α} {n : Nat} {w : World}
    {own own' others others' : Moment → Prop} (h : PassesIn run n w own others)
    (hown : ∀ μ, own μ → own' μ) (hothers : ∀ μ, others μ → others' μ) :
    PassesIn run n w own' others' :=
  have ⟨d, d', hd, hd', hdiffers⟩ := h
  ⟨d, d', fun μ hμ => hd μ (mt (hown μ) hμ), fun μ hμ => hd' μ (mt (hothers μ) hμ), hdiffers⟩

/-- A run that is sent somewhere with other scopes, passes what it is sent from. -/
lemma passesIn_of_size {α : Type} {run : Machine → Run α} {n : Nat} {w : World} {own : Moment → Prop}
    (detour : Detour) (hspares : ∀ μ, ¬ own μ → detour μ = .none)
    (hsize : ((run (bodyMachine detour .none n)).after w).heap.scopes.size
      ≠ ((run (machine n)).after w).heap.scopes.size) :
    PassesIn run n w own fun _ => False :=
  ⟨detour, .none, hspares, fun _ _ => rfl, fun hsame => hsize (by rw [after, hsame, ← after])⟩

namespace Regime

variable {R S : Regime} {α : Type} {x y : Run α}

/-- What agrees under a regime agrees under another one with no fewer sound worlds. -/
lemma Agrees.under (h : ∀ w, S.Sound w → R.Sound w) {τ : R.Stage} (σ : S.Stage)
    (hσ : σ.world = τ.world) (hx : Agree σ x y) : Agree τ x y := by
  obtain ⟨υ, result, hle, hleaves, hx, hy⟩ := hx
  rw [hσ] at hx hy
  have hle : τ.world.heap.Grows υ.world.heap := hσ ▸ hle
  cases hleaves with
  | ok => exact ⟨⟨υ.world, h _ υ.sound⟩, _, hle, .ok trivial, hx, hy⟩
  | error => exact ⟨⟨υ.world, h _ υ.sound⟩, _, hle, .error, hx, hy⟩

/-- Watching a body changes nothing, if no detour leads away from where its own phrases may run, and none
from where others may. -/
theorem bodyMachine_related (hS : S.Whole) (hR : R.Lenient) (hfree : S.Lenient)
    (hsound : ∀ w, R.Sound w ↔ S.Sound w) {own others : Detour} (hown : R.Spares own)
    (hothers : S.Spares others) :
    ∀ n : Nat, R.Relates (bodyMachine own others n) (machine n)
  | 0 =>
    { patience := rfl
      evaluate := fun _ _ _ _ _ => .exhausted
      execute := fun _ _ _ _ _ _ => .exhausted
      call := fun _ _ _ _ => .exhausted
      load := fun _ _ => .exhausted }
  | n + 1 =>
    have hm := bodyMachine_related hS hR hfree hsound hown hothers n
    have hcalled := watchedMachine_related hS hfree hothers n
    { patience := rfl
      evaluate := fun i _ _ hs he => .watch hown hR hs he (by rintro _ ⟨⟩) (hm.evaluateStep i hs he)
      execute := fun i _ _ hs hcode hready =>
        .watch hown hR hs hcode (by rintro _ ⟨⟩; exact hready)
          (hm.executeStep i hs hcode fun _ _ => hR _ _)
      call := fun {τ} i function receiver arguments =>
        Agrees.under (fun w => (hsound w).mpr) ⟨τ.world, (hsound _).mp τ.sound⟩ rfl
          (hcalled.callStep i hS function receiver arguments)
      load := fun {τ} request base =>
        Agrees.under (fun w => (hsound w).mpr) ⟨τ.world, (hsound _).mp τ.sound⟩ rfl
          (hcalled.loadStep hS request base) }

end Regime

/-! ## Names that are known -/

/-- A name that can be read and assigned: neither fails because the name is not bound. -/
structure Moment.Knows (μ : Moment) (name : String) : Prop where
  read : ∀ w, Run.lookup μ.scope name μ.world ≠ .error (.failed (.reference name)) w
  assign : ∀ v w, Run.assign μ.scope name v μ.world ≠ .error (.failed (.reference name)) w

/-- What is found is known. -/
lemma Moment.knows_of_finds {μ : Moment} {name : String} (h : μ.world.heap.Finds μ.scope name) :
    μ.Knows name := by
  obtain ⟨v, hread⟩ := Option.isSome_iff_exists.mp h.read
  refine ⟨fun w hfails => ?_, fun v w hfails => ?_⟩
  · have hlook : readHeap (·.lookup μ.scope name) μ.world = .ok (some v) μ.world :=
      congrArg (EStateM.Result.ok · μ.world) hread
    rw [Run.lookup, bind_of_ok hlook] at hfails
    cases hfails
  · have hput : withHeap (·.assign μ.scope name v) μ.world =
        .ok (μ.world.heap.assign μ.scope name v).1
          { μ.world with heap := (μ.world.heap.assign μ.scope name v).2 } := rfl
    rw [Run.assign, bind_of_ok hput] at hfails
    cases hcame : (μ.world.heap.assign μ.scope name v).1 with
    | done =>
        rw [hcame] at hfails
        cases hfails
    | constant =>
        rw [hcame] at hfails
        cases hfails
    | unbound => exact h.assign v hcame

/-! ## The names of a body -/

/-- What entering a body does: names declared by `var` are bound, and then the functions declared in it. -/
def enterBody (frame : ScopeRef) (body : List Statement) : Run Unit := do
  hoistVariables frame body
  hoistFunctions frame body

/-- What a call answers when its body completes: the value that the body returns, if it returns one. -/
def Completion.answer : Completion → Value
  | .returned value => value
  | _ => .undefined

/-- A call binds the receiver and the parameters in a new frame, enters the body and executes it. -/
lemma invokeScript_eq (m : Machine) (i : InterpreterRef) (literal : FunctionLiteral) (scope : ScopeRef)
    (receiver : Value) (arguments : List Value) :
    invokeScript m i literal scope receiver arguments = (do
      let frame ← Run.newScope scope
      Run.declare frame receiverName receiver false
      bindParameters frame literal.parameters arguments
      enterBody frame literal.body
      return (← executeAll m i frame literal.body).answer) := by
  simp only [invokeScript, enterBody, bind_assoc]
  refine bind_congr fun _ => bind_congr fun _ => bind_congr fun _ => bind_congr fun _ =>
    bind_congr fun _ => bind_congr fun completion => ?_
  cases completion <;> rfl

/-- A program is entered in the global scope and executed. -/
lemma evaluateSource_eq (m : Machine) (i : InterpreterRef) (source : String) :
    evaluateSource m i source = (do
      let body ← parsed source
      let frame := (← Run.interpreter i).globals
      enterBody frame body
      runProgram m i frame .undefined body) := by
  simp only [evaluateSource, enterBody, bind_assoc]

/-- The names that entering a body binds. -/
def aheadNames (body : List Statement) : List String := bodyVarNames body ++ functionNames body

/-- A declaration inside a body that is not in a list of statements: the branch of a choice, or the body
of a loop. -/
def Bare (body : List Statement) (literal : FunctionLiteral) : Prop :=
  ∃ p, Phrase.Inside body p ∧ .function literal ∈ p.alone

/-- A moment at which the frame binds the body's names, so that they are known inside the frame. -/
structure Moment.Beside (frame : ScopeRef) (body : List Statement) (μ : Moment) : Prop where
  binds : ∀ name ∈ aheadNames body, (μ.world.heap.ownBinding? frame name).isSome
  knows : μ.world.heap.Within frame μ.scope → ∀ name ∈ aheadNames body, μ.Knows name

/-- A moment at which the very scope binds a name, so that it is known. -/
structure Moment.Binds (μ : Moment) (name : String) : Prop where
  standing : μ.world.Standing
  bound : (μ.world.heap.ownBinding? μ.scope name).isSome
  known : μ.Knows name

/-- A moment at which a declaration finds its name bound, unless it stands alone. -/
def Moment.FindsDeclared (body : List Statement) (μ : Moment) : Prop :=
  ∀ literal, μ.phrase = .statement (.function literal) →
    Bare body literal ∨ μ.Binds (literal.name.getD "")

/-- A moment of a body itself: it is inside the frame, and declarations find their names bound. -/
structure Moment.InBody (frame : ScopeRef) (body : List Statement) (μ : Moment) : Prop
    extends μ.Beside frame body where
  within : μ.world.heap.Within frame μ.scope
  declared : μ.FindsDeclared body

/-- How a run of a body goes: all its own moments are as they are to be, and so are all others; and in the
end the frame binds the body's names. -/
structure Course {α : Type} (run : Machine → Run α) (frame : ScopeRef) (body : List Statement) (n : Nat)
    (w : World) : Prop where
  passes : ¬ PassesIn run n w (fun μ => ¬ μ.InBody frame body) fun μ => ¬ μ.Beside frame body
  binds : ∀ name ∈ aheadNames body, (((run (machine n)).after w).heap.ownBinding? frame name).isSome

/-- A run that starts with a body from another world goes as the body does. -/
lemma Course.of_eq {α : Type} {run : Machine → Run α} {frame : ScopeRef} {body : List Statement}
    {n : Nat} {w : World} (run' : Machine → Run α) (w' : World) (h : Course run' frame body n w')
    (heq : ∀ m, run m w = run' m w') : Course run frame body n w := by
  refine ⟨?_, fun name hname => ?_⟩
  · rintro ⟨d, d', hd, hd', hdiffers⟩
    rw [heq, heq] at hdiffers
    exact h.passes ⟨d, d', hd, hd', hdiffers⟩
  · have hbinds := h.binds name hname
    rwa [after, ← heq] at hbinds

namespace Regime

/-- Names that are bound stay bound. -/
lemma bound_lasts (frame : ScopeRef) (names : List String) {heap heap' : Heap}
    (hgrows : heap.Grows heap') (h : ∀ name ∈ names, (heap.ownBinding? frame name).isSome) :
    ∀ name ∈ names, (heap'.ownBinding? frame name).isSome :=
  fun name hname => hgrows.binds frame name (h name hname)

/-- Scopes that are there, of which one binds names. -/
def bound (frame : ScopeRef) (names : List String) : Regime :=
  standing.meet (lasting _ (bound_lasts frame names))

lemma bound_whole (frame : ScopeRef) (names : List String) : (bound frame names).Whole :=
  standing_whole.meet (lasting_whole (bound_lasts frame names))

lemma beside_of_bound {frame : ScopeRef} {body : List Statement} {μ : Moment}
    (h : (bound frame (aheadNames body)).Sound μ.world) : μ.Beside frame body :=
  ⟨h.2, fun hwithin name hname =>
    Moment.knows_of_finds (Heap.finds_of_within h.1.layered hwithin (h.2 name hname))⟩

/-- The phrases of a body run inside its frame. -/
def inside (frame : ScopeRef) (body : List Statement) : Regime where
  Sound _ := True
  Place heap s := heap.Within frame s ∧ s.index < heap.scopes.size
  Around _ _ := True
  Code p := p.Inside body
  Ready heap scope s := ∀ literal, s = .function literal →
    Bare body literal ∨ (heap.ownBinding? scope (literal.name.getD "")).isSome
  around _ := trivial
  place_grows hgrows h := ⟨h.1.grows hgrows, hgrows.made h.2⟩
  around_grows _ := id
  ready_grows hgrows h literal hs := (h literal hs).imp_right (hgrows.binds _ _)
  leading h _ hq := .leading h hq
  other h _ hq := .other h hq
  alone h s hs _ _ literal hliteral := .inl ⟨_, h, hliteral ▸ hs⟩
  hoisted hgrows h hbody hbound s hs literal hliteral := by
    refine .inr (hbound h.2 _ (List.mem_map_of_mem ?_))
    exact List.mem_filterMap.mpr ⟨s, hs, by rw [hliteral]⟩
  calm _ _ := trivial
  newScope _ _ := trivial
  place_newScope _ h := by
    refine ⟨h.1.newScope, ?_⟩
    rw [Heap.size_newScope]
    exact Nat.lt_succ_self _
  newClosure _ _ _ _ := trivial
  declare _ _ _ _ _ _ := trivial

lemma bound_lenient (frame : ScopeRef) (names : List String) : (bound frame names).Lenient :=
  standing_lenient.meet (lasting_lenient (bound_lasts frame names))

lemma inside_lenient (frame : ScopeRef) (body : List Statement) : (inside frame body).Lenient :=
  fun _ _ => trivial

section Course

variable {frame : ScopeRef} {body : List Statement} {α : Type} {rest : Machine → Run α} {w : World}

/-- A body that is entered in a frame that is there. -/
theorem enter_course
    (hrest : ∀ {R : Regime} {m m' : Machine} {τ : R.Stage}, R.Relates m m' → τ.Has frame →
      (∀ s ∈ body, R.Code (.statement s)) → (∀ s ∈ body, τ.Awaits frame s) →
        Agree τ (rest m) (rest m'))
    (hw : w.Standing) (hframe : frame.index < w.heap.scopes.size) (n : Nat) :
    Course (fun m => do
      enterBody frame body
      rest m) frame body n w := by
  have hcode : ∀ s ∈ body, standing.Code (.statement s) := fun _ _ => trivial
  obtain ⟨υ, a, hle, ⟨hbound, -⟩, hentry⟩ :=
    Goes.enter (R := standing) (τ := ⟨w, hw⟩) ⟨hframe, .inr trivial⟩ hcode
  refine Course.of_eq rest υ.world ?_ fun m => bind_of_ok hentry
  have hmade : frame.index < υ.world.heap.scopes.size := Heap.Grows.made hle hframe
  have hnames := hbound hframe
  -- the body's own moments, and those of what it calls
  let S := bound frame (aheadNames body)
  let R := S.meet (inside frame body)
  have hready (s : Statement) (hs : s ∈ body) : R.Ready υ.world.heap frame s :=
    ⟨⟨trivial, trivial⟩, (inside frame body).hoisted (.refl _) ⟨.here, hmade⟩
      (fun _ hs => .statement hs) (fun _ name hname => hnames name (List.mem_append_right _ hname)) s hs⟩
  have hagree (own others : Detour) (hown : ∀ μ : Moment, μ.InBody frame body → own μ = .none)
      (hothers : ∀ μ : Moment, μ.Beside frame body → others μ = .none) :
      Agree (⟨υ.world, ⟨υ.sound, hnames⟩, trivial⟩ : R.Stage) (rest (bodyMachine own others n))
        (rest (machine n)) := by
    refine hrest (bodyMachine_related (bound_whole _ _)
      ((bound_lenient _ _).meet (inside_lenient _ _)) (bound_lenient _ _)
      (fun w => and_iff_left trivial) ?_ ?_ n)
      ⟨⟨hmade, trivial⟩, .here, hmade⟩ (fun s hs => ⟨⟨trivial, trivial⟩, .statement hs⟩) hready
    · intro μ hμ
      refine hown μ ⟨beside_of_bound hμ.sound.1, hμ.place.2.1, fun literal hphrase => ?_⟩
      have hstanding : μ.world.Standing := hμ.sound.1.1
      refine ((hμ.ready _ hphrase).2 literal rfl).imp_right fun hbound => ⟨hstanding, hbound, ?_⟩
      exact Moment.knows_of_finds (Heap.finds_of_within hstanding.layered .here hbound)
    · exact fun μ hμ => hothers μ (beside_of_bound hμ.sound)
  refine ⟨?_, ?_⟩
  · rintro ⟨own, others, hown, hothers, hdiffers⟩
    exact hdiffers (hagree own others (fun μ hμ => hown μ (not_not_intro hμ)) fun μ hμ =>
      hothers μ (not_not_intro hμ)).same.1
  · have hsound := (hagree .none .none (fun _ _ => rfl) fun _ _ => rfl).same.2
    exact hsound.1.2

end Course

end Regime

/-! ## Calls and programs -/

/-- A call of a function of a script, in its frame. -/
theorem invokeScript_course (n : Nat) (i : InterpreterRef) (literal : FunctionLiteral)
    {scope : ScopeRef} (receiver : Value) (arguments : List Value) {w : World} (hw : w.Standing)
    (hscope : scope.index < w.heap.scopes.size) :
    Course (fun m => invokeScript m i literal scope receiver arguments) ⟨w.heap.scopes.size⟩
      literal.body n w := by
  let frame : ScopeRef := ⟨w.heap.scopes.size⟩
  let τ : Regime.standing.Stage := ⟨_, hw.newScope hscope⟩
  have hframe : τ.Owns frame :=
    ⟨Regime.standing.place_newScope hw hscope, Regime.standing_lenient frame⟩
  -- the frame binds the receiver and the parameters first
  obtain ⟨υ, a, hle, -, hstart⟩ :=
    (Regime.Goes.declare hframe.has (hframe.free receiverName) receiver false).bind
    (S := fun _ _ => True) fun _ hle _ _ =>
      Regime.Goes.bindParameters literal.parameters arguments (hframe.mono hle)
  refine Course.of_eq (fun m => do
    enterBody frame literal.body
    return (← executeAll m i frame literal.body).answer) υ.world ?_ fun m => ?_
  · refine Regime.enter_course (fun hm hs hbody hready => ?_) υ.sound (hframe.mono hle).has n
    exact (hm.executeAll i hs hbody hready).andThen fun _ _ _ => .done
  · have hmade : Run.newScope scope w = .ok frame τ.world := rfl
    rw [invokeScript_eq, bind_of_ok hmade, ← bind_assoc]
    exact bind_of_ok hstart

/-- A program, in the global scope. -/
theorem evaluateSource_course (n : Nat) (i : InterpreterRef) {source : String} {body : List Statement}
    (hparse : parse source = .ok body) {w : World} (hw : w.Standing) :
    Course (fun m => evaluateSource m i source) (w.interpreter i).globals body n w := by
  refine Course.of_eq (fun m => do
    enterBody (w.interpreter i).globals body
    runProgram m i (w.interpreter i).globals .undefined body) w ?_ fun m => ?_
  · exact Regime.enter_course (fun hm hs hbody hready => hm.runProgram i _ hs hbody hready) hw
      (hw.globals i) n
  · have hparsed : parsed source w = .ok body w := by
      unfold parsed
      rw [hparse]
      rfl
    have hread : Run.interpreter i w = .ok (w.interpreter i) w := rfl
    rw [evaluateSource_eq, bind_of_ok hparsed, bind_of_ok hread]

end ModuleRunner.Evaluation
