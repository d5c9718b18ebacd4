import ModuleRunner.Proofs.Evaluation.Calm
import ModuleRunner.Proofs.Evaluation.Moment
import ModuleRunner.Proofs.Script.Chain

/-!
# Regimes

What scripts do to scopes and to code comes down to a few things: a scope is made inside another one, a
name is bound, and a function is made of a literal.  All else is calm.  A regime says where phrases run,
which code there is and which worlds are sound, so that these few things keep worlds sound.  Then a
machine under the regime may be exchanged for another one that does the same where phrases run: all runs
come to the same.  With a watched machine this is a fact about all moments of a run.

A regime may also say which names are free to be bound where.  In a scope of its own a body binds what it
likes, and names that are not bound yet are free as well.  The functions of programs are bound in global
scopes in any case, and what else is bound is up to declarations that run.

* `Regime`, `Regime.Whole` — what is kept, and that the bodies of functions and programs are within it.
* `Regime.meet` — two regimes at once.
* `Regime.Stage` — a sound world, ordered by what was added.
* `Stage.Owns`, `Stage.Opens` — scopes in which all names are free, and scopes that bodies are entered in.
* `Agrees` — two runs that come to the same at a stage, and leave a later one.
* `Agrees.bind`, `Agrees.capture`, `Agrees.nested` — the ways of putting runs together.
* `Agrees.calm` — calm runs agree with themselves.
* `Goes`, `Goes.newScope`, `Goes.newClosure`, `Goes.declare` — the runs that are not calm, and what they
  leave.
* `Goes.enter` — what entering a body binds.
* `Cuts.watch`, `Agrees.watch` — a watched phrase.
-/

namespace ModuleRunner.Evaluation

open Script Run

/-- The names that a list of statements binds to functions ahead. -/
def functionNames (body : List Statement) : List String :=
  (declaredFunctions body).map fun literal => literal.name.getD ""

/-- The world in which one more function is made and bound. -/
def World.declaring (w : World) (frame : ScopeRef) (literal : FunctionLiteral) : World :=
  let name := literal.name.getD ""
  let made := w.heap.newFunction ⟨name, .script literal frame, []⟩
  { w with heap := made.2.declare frame name (.function made.1) true }

/-! ## What is kept -/

/-- What is kept while scripts run. -/
structure Regime where
  /-- The worlds that runs start from and leave. -/
  Sound : World → Prop
  /-- The scopes that phrases run in. -/
  Place : Heap → ScopeRef → Prop
  /-- The scopes that functions close over. -/
  Around : Heap → ScopeRef → Prop
  /-- The phrases that run. -/
  Code : Phrase → Prop
  /-- The statements that a run may reach in a scope. -/
  Ready : Heap → ScopeRef → Statement → Prop
  /-- The names that may be bound in a scope. -/
  Free : ScopeRef → String → Prop := fun _ _ => True
  /-- The scopes that the functions of programs may be bound in. -/
  Global : ScopeRef → Prop := fun _ => True
  around : ∀ {heap s}, Place heap s → Around heap s
  place_grows : ∀ {heap heap' s}, heap.Grows heap' → Place heap s → Place heap' s
  around_grows : ∀ {heap heap' s}, heap.Grows heap' → Around heap s → Around heap' s
  ready_grows : ∀ {heap heap' scope s}, heap.Grows heap' → Ready heap scope s → Ready heap' scope s
  /-- The parts of a phrase run. -/
  leading : ∀ {p}, Code p → ∀ q ∈ p.leading, Code q
  other : ∀ {p}, Code p → ∀ q ∈ p.others, Code q
  /-- A statement that is alone is reached wherever it stands. -/
  alone : ∀ {p}, Code p → ∀ s ∈ p.alone, ∀ heap scope, Ready heap scope s
  /-- Statements in a list are reached once the functions that they declare are bound. -/
  hoisted : ∀ {heap heap' scope body}, heap.Grows heap' → Place heap scope →
    (∀ s ∈ body, Code (.statement s)) → heap.Bound heap' scope (functionNames body) →
    ∀ s ∈ body, Ready heap' scope s
  calm : ∀ {w w'}, Sound w → w.Calm w' → Sound w'
  newScope : ∀ {w parent}, Sound w → Around w.heap parent →
    Sound { w with heap := (w.heap.newScope (some parent)).2 }
  place_newScope : ∀ {w parent}, Sound w → Place w.heap parent →
    Place (w.heap.newScope (some parent)).2 ⟨w.heap.scopes.size⟩
  newClosure : ∀ {w scope literal} (name : String), Sound w → Around w.heap scope →
    (∀ s ∈ literal.body, Code (.statement s)) →
    Sound { w with heap := (w.heap.newFunction ⟨name, .script literal scope, []⟩).2 }
  /-- In a new scope all names are free, and elsewhere those that are not bound yet. -/
  free_newScope : ∀ {w}, Sound w → ∀ name, Free ⟨w.heap.scopes.size⟩ name := by intros; trivial
  free_missing : ∀ {w scope name}, Sound w → Place w.heap scope →
    w.heap.ownBinding? scope name = none → Free scope name := by intros; trivial
  global : ∀ {w}, Sound w → ∀ i, Global (w.interpreter i).globals := by intros; trivial
  declare : ∀ {w scope} (name : String) (v : Value) (isMutable : Bool), Sound w →
    Place w.heap scope → Free scope name →
    Sound { w with heap := w.heap.declare scope name v isMutable }
  /-- A function of a program, under a name that is not free. -/
  redeclare : ∀ {w scope literal}, ¬ Free scope (literal.name.getD "") → Sound w →
    Place w.heap scope → Global scope → (∀ s ∈ literal.body, Code (.statement s)) →
    Sound (w.declaring scope literal) := by intro _ _ _ hfree; exact absurd trivial hfree

namespace Regime

/-- A function that is made and bound, under a name that is free or in a global scope. -/
lemma declaring (R : Regime) {w : World} {scope : ScopeRef} {literal : FunctionLiteral}
    (hw : R.Sound w) (hscope : R.Place w.heap scope)
    (hname : R.Free scope (literal.name.getD "") ∨ R.Global scope)
    (hbody : ∀ s ∈ literal.body, R.Code (.statement s)) : R.Sound (w.declaring scope literal) := by
  by_cases hfree : R.Free scope (literal.name.getD "")
  · exact R.declare _ _ true (R.newClosure _ hw (R.around hscope) hbody)
      (R.place_grows (.newFunction _ _) hscope) hfree
  · exact R.redeclare hfree hw hscope (hname.resolve_left hfree) hbody

/-- What a function of the heap runs, and what programs run, is within the regime. -/
structure Whole (R : Regime) : Prop where
  /-- The scope of a call, in one that functions close over. -/
  frame : ∀ {w s}, R.Sound w → R.Around w.heap s →
    R.Place (w.heap.newScope (some s)).2 ⟨w.heap.scopes.size⟩
  /-- The global scopes. -/
  globals : ∀ {w}, R.Sound w → ∀ i, R.Place w.heap (w.interpreter i).globals
  /-- The functions of scripts. -/
  closures : ∀ {w f literal s}, R.Sound w → (w.heap.functionAt f).code = .script literal s →
    R.Around w.heap s ∧ ∀ s ∈ literal.body, R.Code (.statement s)
  /-- The statements of programs. -/
  parsed : ∀ {source body}, parse source = .ok body → ∀ s ∈ body, R.Code (.statement s)

/-- Two regimes at once. -/
def meet (R S : Regime) : Regime where
  Sound w := R.Sound w ∧ S.Sound w
  Place heap s := R.Place heap s ∧ S.Place heap s
  Around heap s := R.Around heap s ∧ S.Around heap s
  Code p := R.Code p ∧ S.Code p
  Ready heap scope s := R.Ready heap scope s ∧ S.Ready heap scope s
  Free scope name := R.Free scope name ∧ S.Free scope name
  Global scope := R.Global scope ∧ S.Global scope
  around h := ⟨R.around h.1, S.around h.2⟩
  place_grows hgrows h := ⟨R.place_grows hgrows h.1, S.place_grows hgrows h.2⟩
  around_grows hgrows h := ⟨R.around_grows hgrows h.1, S.around_grows hgrows h.2⟩
  ready_grows hgrows h := ⟨R.ready_grows hgrows h.1, S.ready_grows hgrows h.2⟩
  leading h q hq := ⟨R.leading h.1 q hq, S.leading h.2 q hq⟩
  other h q hq := ⟨R.other h.1 q hq, S.other h.2 q hq⟩
  alone h s hs heap scope := ⟨R.alone h.1 s hs heap scope, S.alone h.2 s hs heap scope⟩
  hoisted hgrows h hbody hbound s hs :=
    ⟨R.hoisted hgrows h.1 (fun s hs => (hbody s hs).1) hbound s hs,
      S.hoisted hgrows h.2 (fun s hs => (hbody s hs).2) hbound s hs⟩
  calm h hcalm := ⟨R.calm h.1 hcalm, S.calm h.2 hcalm⟩
  newScope h hs := ⟨R.newScope h.1 hs.1, S.newScope h.2 hs.2⟩
  place_newScope h hs := ⟨R.place_newScope h.1 hs.1, S.place_newScope h.2 hs.2⟩
  newClosure name h hs hbody :=
    ⟨R.newClosure name h.1 hs.1 fun s hs => (hbody s hs).1,
      S.newClosure name h.2 hs.2 fun s hs => (hbody s hs).2⟩
  free_newScope h name := ⟨R.free_newScope h.1 name, S.free_newScope h.2 name⟩
  free_missing h hs hnone := ⟨R.free_missing h.1 hs.1 hnone, S.free_missing h.2 hs.2 hnone⟩
  global h i := ⟨R.global h.1 i, S.global h.2 i⟩
  declare name v isMutable h hs hfree :=
    ⟨R.declare name v isMutable h.1 hs.1 hfree.1, S.declare name v isMutable h.2 hs.2 hfree.2⟩
  redeclare _ h hs hglobal hbody :=
    ⟨R.declaring h.1 hs.1 (.inr hglobal.1) fun s hs => (hbody s hs).1,
      S.declaring h.2 hs.2 (.inr hglobal.2) fun s hs => (hbody s hs).2⟩

/-- All names are free everywhere. -/
def Lenient (R : Regime) : Prop := ∀ scope name, R.Free scope name

lemma Lenient.meet {R S : Regime} (hR : R.Lenient) (hS : S.Lenient) : (R.meet S).Lenient :=
  fun scope name => ⟨hR scope name, hS scope name⟩

lemma Whole.meet {R S : Regime} (hR : R.Whole) (hS : S.Whole) : (R.meet S).Whole where
  frame h hs := ⟨hR.frame h.1 hs.1, hS.frame h.2 hs.2⟩
  globals h i := ⟨hR.globals h.1 i, hS.globals h.2 i⟩
  closures h hcode :=
    have ⟨hsR, hbodyR⟩ := hR.closures h.1 hcode
    have ⟨hsS, hbodyS⟩ := hS.closures h.2 hcode
    ⟨⟨hsR, hsS⟩, fun s hs => ⟨hbodyR s hs, hbodyS s hs⟩⟩
  parsed hparse s hs := ⟨hR.parsed hparse s hs, hS.parsed hparse s hs⟩

/-! ## Stages -/

/-- A sound world. -/
structure Stage (R : Regime) where
  /-- The world. -/
  world : World
  sound : R.Sound world

variable {R : Regime}

instance : Preorder R.Stage where
  le τ υ := τ.world.heap.Grows υ.world.heap
  le_refl _ := .refl _
  le_trans _ _ _ := .trans

namespace Stage

variable {τ υ : R.Stage} {scope : ScopeRef} {s : Statement}

/-- A scope that phrases run in. -/
def Has (τ : R.Stage) (scope : ScopeRef) : Prop := R.Place τ.world.heap scope

lemma Has.mono (h : τ.Has scope) (hle : τ ≤ υ) : υ.Has scope := R.place_grows hle h

/-- A scope that is new: all names are free there. -/
structure Owns (τ : R.Stage) (scope : ScopeRef) : Prop where
  has : τ.Has scope
  free : ∀ name, R.Free scope name

lemma Owns.mono (h : τ.Owns scope) (hle : τ ≤ υ) : υ.Owns scope := ⟨h.has.mono hle, h.free⟩

/-- A scope that a body is entered in: all names are free, or those of its functions need not be. -/
structure Opens (τ : R.Stage) (scope : ScopeRef) : Prop where
  has : τ.Has scope
  names : (∀ name, R.Free scope name) ∨ R.Global scope

lemma Opens.mono (h : τ.Opens scope) (hle : τ ≤ υ) : υ.Opens scope := ⟨h.has.mono hle, h.names⟩

lemma Owns.opens (h : τ.Owns scope) : τ.Opens scope := ⟨h.has, .inl h.free⟩

/-- A scope that functions close over. -/
def Lends (τ : R.Stage) (scope : ScopeRef) : Prop := R.Around τ.world.heap scope

lemma Has.lends (h : τ.Has scope) : τ.Lends scope := R.around h

/-- A statement that a run may reach. -/
def Awaits (τ : R.Stage) (scope : ScopeRef) (s : Statement) : Prop := R.Ready τ.world.heap scope s

lemma Awaits.mono (h : τ.Awaits scope s) (hle : τ ≤ υ) : υ.Awaits scope s := R.ready_grows hle h

end Stage

/-! ## Runs that agree -/

variable {α β : Type}

/-- The result of a run that leaves a stage. -/
inductive Leaves (υ : R.Stage) (Q : α → Prop) : EStateM.Result Stop World α → Prop where
  | ok {a : α} (ha : Q a) : Leaves υ Q (.ok a υ.world)
  | error {e : Stop} : Leaves υ Q (.error e υ.world)

/-- Two runs come to the same at a stage, and leave a later one. -/
def Agrees (τ : R.Stage) (Q : R.Stage → α → Prop) (x y : Run α) : Prop :=
  ∃ υ result, τ ≤ υ ∧ Leaves υ (Q υ) result ∧ x τ.world = result ∧ y τ.world = result

/-- Two runs come to the same at a stage, whatever they come to. -/
abbrev Agree (τ : R.Stage) (x y : Run α) : Prop := Agrees τ (fun _ _ => True) x y

namespace Agrees

variable {τ : R.Stage} {Q : R.Stage → α → Prop} {S : R.Stage → β → Prop} {x y x' y' : Run α}

lemma pure {a : α} (h : Q τ a) : Agrees τ Q (Pure.pure a) (Pure.pure a) :=
  ⟨τ, _, le_rfl, .ok h, rfl, rfl⟩

lemma done {a : α} : Agree τ (Pure.pure a) (Pure.pure a) := pure trivial

lemma fail {failure : Failure} : Agrees τ Q (Run.fail failure) (Run.fail failure) :=
  ⟨τ, _, le_rfl, .error, rfl, rfl⟩

lemma exhausted : Agrees τ Q Run.exhausted Run.exhausted := ⟨τ, _, le_rfl, .error, rfl, rfl⟩

/-- A run after another starts at the stage that the other one leaves. -/
lemma bind {f g : α → Run β} (hx : Agrees τ Q x y)
    (hf : ∀ υ, τ ≤ υ → ∀ a, Q υ a → Agrees υ S (f a) (g a)) : Agrees τ S (x >>= f) (y >>= g) := by
  obtain ⟨υ, result, hle, hleaves, hx, hy⟩ := hx
  cases hleaves with
  | ok ha =>
      obtain ⟨ω, result', hle', hleaves', hf, hg⟩ := hf υ hle _ ha
      exact ⟨ω, result', hle.trans hle', hleaves', (bind_of_ok hx).trans hf, (bind_of_ok hy).trans hg⟩
  | error => exact ⟨υ, _, hle, .error, bind_of_error hx, bind_of_error hy⟩

/-- A run after another, whatever the other one came to. -/
lemma andThen {f g : α → Run β} (hx : Agree τ x y)
    (hf : ∀ υ, τ ≤ υ → ∀ a, Agrees υ S (f a) (g a)) : Agrees τ S (x >>= f) (y >>= g) :=
  bind hx fun υ hle a _ => hf υ hle a

/-- What agrees is the same, and leaves a sound world. -/
lemma same (hx : Agrees τ Q x y) : x τ.world = y τ.world ∧ R.Sound (y.after τ.world) := by
  obtain ⟨υ, result, -, hleaves, hx, hy⟩ := hx
  refine ⟨hx.trans hy.symm, ?_⟩
  rw [after, hy]
  cases hleaves with
  | ok ha => exact υ.sound
  | error => exact υ.sound

/-- Two runs one after the other, before a third. -/
lemma before {x₁ : Run Unit} {x₂ : Unit → Run α} {f g : α → Run β}
    (hx : Agrees τ Q (x₁ >>= x₂) (x₁ >>= x₂))
    (hf : ∀ υ, τ ≤ υ → ∀ a, Q υ a → Agrees υ S (f a) (g a)) :
    Agrees τ S (x₁ >>= fun u => x₂ u >>= f) (x₁ >>= fun u => x₂ u >>= g) := by
  rw [← bind_assoc, ← bind_assoc]
  exact hx.bind hf

lemma capture (hx : Agrees τ Q x y) : Agree τ (Run.capture x) (Run.capture y) := by
  obtain ⟨υ, result, hle, hleaves, hx, hy⟩ := hx
  cases hleaves with
  | ok ha => exact ⟨υ, _, hle, .ok trivial, capture_of_ok hx, capture_of_ok hy⟩
  | @error e =>
      cases e with
      | failed failure => exact ⟨υ, _, hle, .ok trivial, capture_of_failed hx, capture_of_failed hy⟩
      | exhausted => exact ⟨υ, _, hle, .error, capture_of_exhausted hx, capture_of_exhausted hy⟩

lemma ite {c : Prop} [Decidable c] (hx : Agrees τ Q x y) (hx' : Agrees τ Q x' y') :
    Agrees τ Q (if c then x else x') (if c then y else y') := by
  split
  · exact hx
  · exact hx'

/-- A check before something else. -/
lemma guarded {c : Prop} [Decidable c] {failure : Failure} (hx : Agrees τ Q x y) :
    Agrees τ Q (if c then (Run.fail failure : Run PUnit) >>= fun _ => x else x)
      (if c then (Run.fail failure : Run PUnit) >>= fun _ => y else y) :=
  ite (bind (Q := fun _ _ => False) fail fun _ _ _ h => h.elim) hx

/-! ### Calm runs -/

/-- The stage that a calm step leaves. -/
lemma exists_calm (τ : R.Stage) {w : World} (h : τ.world.Calm w) : ∃ υ : R.Stage, τ ≤ υ ∧ υ.world = w :=
  ⟨⟨w, R.calm τ.sound h⟩, .of_alike h.heap.toAlike, rfl⟩

lemma calm (h : x.Calm) : Agree τ x x := by
  have hworld := h τ.world
  rw [after] at hworld
  generalize hrun : x τ.world = result at hworld
  cases result with
  | ok a w =>
      obtain ⟨υ, hle, rfl⟩ := exists_calm τ hworld
      exact ⟨υ, _, hle, .ok trivial, hrun, hrun⟩
  | error e w =>
      obtain ⟨υ, hle, rfl⟩ := exists_calm τ hworld
      exact ⟨υ, _, hle, .error, hrun, hrun⟩

/-- What follows a look at the world may go by what is there. -/
lemma look {γ : Type} {f g : γ → Run α} (look : World → γ)
    (h : Agrees τ Q (f (look τ.world)) (g (look τ.world))) :
    Agrees τ Q ((fun w => .ok (look w) w : Run γ) >>= f) ((fun w => .ok (look w) w : Run γ) >>= g) :=
  h

/-- A run as one more call: the count changes before and after. -/
lemma nested (i : InterpreterRef) (hx : ∀ υ : R.Stage, τ ≤ υ → Agree υ x y) :
    Agree τ (Run.nested i x) (Run.nested i y) := by
  by_cases hlimit : (τ.world.interpreter i).maxDepth ≤ (τ.world.interpreter i).depth
  · exact ⟨τ, _, le_rfl, .error, nested_of_limit _ hlimit, nested_of_limit _ hlimit⟩
  have hlt := Nat.lt_of_not_le hlimit
  obtain ⟨σ, hσ, hinside⟩ :=
    exists_calm τ (.counting τ.world i ((τ.world.interpreter i).depth + 1))
  obtain ⟨υ, result, hle, hleaves, hx, hy⟩ := hx σ hσ
  obtain ⟨ω, hω, houtside⟩ := exists_calm υ (.counting υ.world i (τ.world.interpreter i).depth)
  have hto : τ ≤ ω := hσ.trans (hle.trans hω)
  rw [hinside] at hx hy
  cases hleaves with
  | @ok a ha =>
      refine ⟨ω, .ok a ω.world, hto, .ok trivial, ?_, ?_⟩
      · rw [nested_of_ok x hlt hx, houtside]
      · rw [nested_of_ok y hlt hy, houtside]
  | @error e =>
      refine ⟨ω, .error e ω.world, hto, .error, ?_, ?_⟩
      · rw [nested_of_error x hlt hx, houtside]
      · rw [nested_of_error y hlt hy, houtside]

/-! ### Source texts -/

/-- What follows the parsing of a text may go by what was parsed. -/
lemma parsed (hR : R.Whole) {source : String} {f g : List Statement → Run α}
    (h : ∀ body, (∀ s ∈ body, R.Code (.statement s)) → Agrees τ Q (f body) (g body)) :
    Agrees τ Q (Evaluation.parsed source >>= f) (Evaluation.parsed source >>= g) := by
  unfold Evaluation.parsed
  cases hparse : parse source with
  | ok body => exact h body (hR.parsed hparse)
  | error fault => exact ⟨τ, _, le_rfl, .error, rfl, rfl⟩

end Agrees

/-! ## Scopes, functions and names -/

/-- A run that succeeds at a stage, and leaves a later one. -/
def Goes (τ : R.Stage) (Q : R.Stage → α → Prop) (x : Run α) : Prop :=
  ∃ υ a, τ ≤ υ ∧ Q υ a ∧ x τ.world = .ok a υ.world

namespace Goes

variable {γ : Type} {τ : R.Stage} {Q : R.Stage → α → Prop} {S : R.Stage → β → Prop}
  {U : R.Stage → γ → Prop} {x : Run α} {scope parent : ScopeRef}

/-- What succeeds agrees with itself. -/
lemma agrees (h : Goes τ Q x) : Agrees τ Q x x :=
  have ⟨υ, _, hle, ha, hx⟩ := h
  ⟨υ, _, hle, .ok ha, hx, hx⟩

lemma pure {a : α} (h : Q τ a) : Goes τ Q (Pure.pure a) := ⟨τ, a, le_rfl, h, rfl⟩

lemma bind {f : α → Run β} (hx : Goes τ Q x) (hf : ∀ υ, τ ≤ υ → ∀ a, Q υ a → Goes υ S (f a)) :
    Goes τ S (x >>= f) := by
  obtain ⟨υ, a, hle, ha, hx⟩ := hx
  obtain ⟨ω, b, hle', hb, hf⟩ := hf υ hle a ha
  exact ⟨ω, b, hle.trans hle', hb, (bind_of_ok hx).trans hf⟩

/-- Two runs one after the other, before a third. -/
lemma before {x₁ : Run β} {x₂ : β → Run α} {f : α → Run γ} (hx : Goes τ Q (x₁ >>= x₂))
    (hf : ∀ υ, τ ≤ υ → ∀ a, Q υ a → Goes υ U (f a)) :
    Goes τ U (x₁ >>= fun b => x₂ b >>= f) := by
  rw [← bind_assoc]
  exact hx.bind hf

lemma imp {Q' : R.Stage → α → Prop} (hx : Goes τ Q x) (himp : ∀ υ, τ ≤ υ → ∀ a, Q υ a → Q' υ a) :
    Goes τ Q' x :=
  have ⟨υ, a, hle, ha, hx⟩ := hx
  ⟨υ, a, hle, himp υ hle a ha, hx⟩

lemma newScope (h : τ.Has parent) : Goes τ (fun υ own => υ.Owns own) (Run.newScope parent) :=
  ⟨⟨_, R.newScope τ.sound h.lends⟩, _, .newScope _ _,
    ⟨R.place_newScope τ.sound h, R.free_newScope τ.sound⟩, rfl⟩

/-- The scope of a call. -/
lemma frame (hR : R.Whole) (h : τ.Lends parent) :
    Goes τ (fun υ own => υ.Owns own) (Run.newScope parent) :=
  ⟨⟨_, R.newScope τ.sound h⟩, _, .newScope _ _,
    ⟨hR.frame τ.sound h, R.free_newScope τ.sound⟩, rfl⟩

lemma newClosure (h : τ.Lends scope) (name : String) {literal : FunctionLiteral}
    (hbody : ∀ s ∈ literal.body, R.Code (.statement s)) :
    Goes τ (fun _ _ => True) (newFunction name (.script literal scope)) :=
  ⟨⟨_, R.newClosure name τ.sound h hbody⟩, _, .newFunction _ _, trivial, rfl⟩

lemma declare (h : τ.Has scope) {name : String} (hfree : R.Free scope name) (v : Value)
    (isMutable : Bool) : Goes τ (fun υ _ => τ.world.heap.Bound υ.world.heap scope [name])
      (Run.declare scope name v isMutable) :=
  ⟨⟨_, R.declare name v isMutable τ.sound h hfree⟩, _, .declare .., .declare _ _ _ _ _, rfl⟩

lemma makeClosure (h : τ.Has scope) {literal : FunctionLiteral}
    (hbody : ∀ s ∈ literal.body, R.Code (.statement s)) :
    Goes τ (fun _ _ => True) (Evaluation.makeClosure scope literal) := by
  unfold Evaluation.makeClosure
  cases literal.name with
  | none => exact newClosure h.lends "" hbody
  | some name =>
      exact (newScope h).bind fun υ _ own hown => (newClosure hown.has.lends name hbody).bind
        fun ω hle _ _ => (declare (hown.mono hle).has (hown.free name) _ _).bind
          fun _ _ _ _ => pure trivial

/-! ### Names declared ahead -/

lemma declareMissing : ∀ (names : List String) {τ : R.Stage}, τ.Has scope →
    Goes τ (fun υ _ => τ.world.heap.Bound υ.world.heap scope names)
      (Evaluation.declareMissing scope names)
  | [], _, _ => pure .nil
  | name :: rest, τ, h => by
      have hrest {υ : R.Stage} (hle : τ ≤ υ) (hfirst : τ.world.heap.Bound υ.world.heap scope [name]) :
          Goes υ (fun ω _ => τ.world.heap.Bound ω.world.heap scope (name :: rest))
            (Evaluation.declareMissing scope rest) :=
        (declareMissing rest (h.mono hle)).imp fun ω hle' _ hbound =>
          .cons (hfirst.later hle') (hbound.sooner hle)
      have hlook : Goes τ (fun υ found => υ = τ ∧ found = τ.world.heap.ownBinding? scope name)
          (readHeap (·.ownBinding? scope name)) :=
        ⟨τ, _, le_rfl, ⟨rfl, rfl⟩, rfl⟩
      refine hlook.bind fun υ _ found hfound => ?_
      obtain ⟨rfl, rfl⟩ := hfound
      dsimp only
      split
      · next hnone =>
          have hfree := R.free_missing υ.sound h (Option.isNone_iff_eq_none.mp hnone)
          exact (declare h hfree _ _).bind fun _ hle _ hfirst => hrest hle hfirst
      · next hsome =>
          refine hrest le_rfl (.of_isSome ?_)
          rwa [Option.isNone_iff_eq_none, ← ne_eq, Option.ne_none_iff_isSome] at hsome

/-- The names that a body declares by `var` are bound. -/
lemma hoistVariables (h : τ.Has scope) (body : List Statement) :
    Goes τ (fun υ _ => τ.world.heap.Bound υ.world.heap scope (bodyVarNames body))
      (Evaluation.hoistVariables scope body) :=
  declareMissing _ h

lemma bindParameters : ∀ (names : List String) (arguments : List Value) {τ : R.Stage}, τ.Owns scope →
    Goes τ (fun _ _ => True) (Evaluation.bindParameters scope names arguments)
  | [], _, _, _ => pure trivial
  | name :: rest, arguments, _, h => (declare h.has (h.free name) _ _).bind fun _ hle _ _ =>
      bindParameters rest (arguments.drop 1) (h.mono hle)

/-- A function that is made and bound. -/
lemma declareFunction (h : τ.Opens scope) {literal : FunctionLiteral}
    (hbody : ∀ s ∈ literal.body, R.Code (.statement s)) :
    Goes τ (fun υ _ => τ.world.heap.Bound υ.world.heap scope [literal.name.getD ""])
      (do
        let function ← newFunction (literal.name.getD "") (.script literal scope)
        Run.declare scope (literal.name.getD "") function true) :=
  ⟨⟨_, R.declaring τ.sound h.has (h.names.imp_left fun hfree => hfree _) hbody⟩, (),
    (Heap.Grows.newFunction _ _).trans (.declare ..),
    (Heap.Bound.declare _ _ _ _ _).sooner (.newFunction _ _), rfl⟩

lemma declareFunctions : ∀ {literals : List FunctionLiteral} {τ : R.Stage}, τ.Opens scope →
    (∀ literal ∈ literals, ∀ s ∈ literal.body, R.Code (.statement s)) →
      Goes τ (fun υ _ => τ.world.heap.Bound υ.world.heap scope
          (literals.map fun literal => literal.name.getD ""))
        (Evaluation.declareFunctions scope literals)
  | [], _, _, _ => pure .nil
  | literal :: rest, τ, h, hcode => by
      obtain ⟨hfirst, hrest⟩ := List.forall_mem_cons.mp hcode
      rw [Evaluation.declareFunctions]
      refine .before (declareFunction h hfirst) fun υ hle _ hname => ?_
      exact (declareFunctions (h.mono hle) hrest).imp fun _ hle' _ hbound =>
        .cons (hname.later hle') (hbound.sooner hle)

/-- The functions declared directly in a body are bound, and its statements may be reached. -/
lemma hoistFunctions (h : τ.Opens scope) {body : List Statement}
    (hbody : ∀ s ∈ body, R.Code (.statement s)) :
    Goes τ (fun υ _ => τ.world.heap.Bound υ.world.heap scope (functionNames body) ∧
        ∀ s ∈ body, υ.Awaits scope s)
      (Evaluation.hoistFunctions scope body) := by
  have hcode : ∀ literal ∈ declaredFunctions body, ∀ s ∈ literal.body, R.Code (.statement s) := by
    intro literal hmem
    obtain ⟨s, hs, hliteral⟩ := List.mem_filterMap.mp hmem
    have hother := R.other (hbody s hs)
    split at hliteral
    · cases hliteral
      exact List.forall_mem_map.mp hother
    · cases hliteral
  exact (declareFunctions h hcode).imp fun υ hle _ hbound =>
    ⟨hbound, R.hoisted hle h.has hbody hbound⟩

/-- A body that is entered: all its names are bound, and its statements may be reached. -/
lemma enter (h : τ.Opens scope) {body : List Statement} (hbody : ∀ s ∈ body, R.Code (.statement s)) :
    Goes τ (fun υ _ =>
        τ.world.heap.Bound υ.world.heap scope (bodyVarNames body ++ functionNames body) ∧
          ∀ s ∈ body, υ.Awaits scope s)
      (do
        Evaluation.hoistVariables scope body
        Evaluation.hoistFunctions scope body) :=
  (hoistVariables h.has body).bind fun _ hle _ hvars =>
    (hoistFunctions (h.mono hle) hbody).imp fun _ hle' _ hfunctions =>
      ⟨.append (hvars.later hle') (hfunctions.1.sooner hle), hfunctions.2⟩

end Goes

/-! ## Moments -/

/-- A moment at which a phrase of the regime runs where it may. -/
structure Permits (R : Regime) (μ : Moment) : Prop where
  sound : R.Sound μ.world
  place : R.Place μ.world.heap μ.scope
  code : R.Code μ.phrase
  ready : ∀ s, μ.phrase = .statement s → R.Ready μ.world.heap μ.scope s

/-- A detour that leaves all such moments alone. -/
def Spares (R : Regime) (detour : Detour) : Prop := ∀ μ, R.Permits μ → detour μ = .none

/-- At such moments a detour does what another one does, which is to end some of the runs: those that
would bind a name which is not free. -/
structure Cuts (R : Regime) (detour cut : Detour) : Prop where
  same : ∀ μ, R.Permits μ → detour μ = cut μ
  stays : ∀ μ world, R.Permits μ → cut μ = some world → world = μ.world
  free : ∀ μ, R.Permits μ → cut μ = .none → ∀ name ∈ μ.phrase.lexicalNames, R.Free μ.scope name

/-- Where all names are free, runs need not be stopped. -/
lemma Spares.cuts {detour : Detour} (hspares : R.Spares detour) (hfree : R.Lenient) :
    R.Cuts detour .none :=
  ⟨hspares, fun _ _ _ hstop => (nomatch hstop), fun _ _ _ name _ => hfree _ name⟩

section Watch

variable {τ : R.Stage} {Q : R.Stage → α → Prop} {x y : Run α} {scope : ScopeRef} {phrase : Phrase}
  {detour cut : Detour}

/-- Where a phrase may run, it may end as well. -/
lemma Stage.permits (h : τ.Has scope) (hcode : R.Code phrase)
    (hready : ∀ s, phrase = .statement s → τ.Awaits scope s) :
    R.Permits ⟨τ.world, scope, phrase⟩ :=
  ⟨τ.sound, h, hcode, hready⟩

/-- Looking up at a moment at which a phrase may run: either the run goes on, or it is over there. -/
lemma Cuts.look (hcuts : R.Cuts detour cut) (h : R.Permits ⟨τ.world, scope, phrase⟩) :
    Agrees τ (fun υ _ => υ = τ ∧ cut ⟨τ.world, scope, phrase⟩ = .none)
      (Evaluation.look detour scope phrase) (Evaluation.look cut scope phrase) := by
  have hsame := hcuts.same _ h
  cases hstop : cut ⟨τ.world, scope, phrase⟩ with
  | none => exact ⟨τ, _, le_rfl, .ok ⟨rfl, rfl⟩, look_of_none (hsame.trans hstop), look_of_none hstop⟩
  | some stop =>
      obtain rfl := hcuts.stays _ _ h hstop
      exact ⟨τ, _, le_rfl, .error, look_of_some (hsame.trans hstop), look_of_some hstop⟩

/-- Watching a phrase that may run comes to the same, if both detours end the same runs.  If the run goes
on, the names that the phrase itself binds are free. -/
lemma Cuts.watch (hcuts : R.Cuts detour cut) (h : τ.Has scope) (hcode : R.Code phrase)
    (hready : ∀ s, phrase = .statement s → τ.Awaits scope s)
    (hx : (∀ name ∈ phrase.lexicalNames, R.Free scope name) → Agrees τ Q x y) :
    Agrees τ Q (Evaluation.watch detour scope phrase x) (Evaluation.watch cut scope phrase y) := by
  have hstart := Stage.permits h hcode hready
  refine (hcuts.look hstart).bind fun υ _ _ hgoes => ?_
  obtain ⟨rfl, hgoes⟩ := hgoes
  refine (hx (hcuts.free _ hstart hgoes)).bind fun υ hle a ha => ?_
  have hend := Stage.permits (h.mono hle) hcode fun s hs => (hready s hs).mono hle
  refine (hcuts.look hend).bind fun ω _ _ hover => ?_
  obtain ⟨rfl, -⟩ := hover
  exact .pure ha

/-- Watching a phrase that may run changes nothing, if the detour leaves the moments alone at which
phrases may run. -/
lemma Agrees.watch (hspares : R.Spares detour) (hfree : R.Lenient) (h : τ.Has scope)
    (hcode : R.Code phrase) (hready : ∀ s, phrase = .statement s → τ.Awaits scope s)
    (hx : Agrees τ Q x y) : Agrees τ Q (Evaluation.watch detour scope phrase x) y := by
  rw [← watch_none scope phrase y]
  exact (hspares.cuts hfree).watch h hcode hready fun _ => hx

end Watch

end Regime

end ModuleRunner.Evaluation
