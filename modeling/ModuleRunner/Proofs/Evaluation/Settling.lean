import ModuleRunner.Proofs.Evaluation.Home

/-!
# Runs that settle

A run settles at a stage if it leaves a later stage, and comes to the same whatever detour it is
watched with, as long as the detour leaves private moments alone: so all moments that it passes are
private, by the homes of the stage that it leaves.  Runs are taken with the detour that they are
watched with; most of them are the same whatever the detour is.

* `Settles` — the property, with what is said of the result at the stage that is left.
* `Settles.bind`, `Settles.capture`, `Settles.nested` — the ways of putting runs together.
* `Settles.calm` — every calm run that stays inside the realm.
* `Settles.newScope`, `Settles.newClosure`, `Settles.declare` — the three runs that are not calm.
* `Settles.watch` — a watched phrase, in a scope of its home.
-/

namespace ModuleRunner.Evaluation

open Script ModuleRunner.Module Run

variable {G : Grounds} {α β : Type}

/-- The result of a run that leaves a stage. -/
inductive Leaves (υ : Stage G) (Q : α → Prop) : EStateM.Result Stop World α → Prop
  | ok {a : α} (ha : Q a) : Leaves υ Q (.ok a υ.world)
  | failed {failure : Failure} (hfailure : G.realm.failure failure) :
      Leaves υ Q (.error (.failed failure) υ.world)
  | exhausted : Leaves υ Q (.error .exhausted υ.world)

/-- A run that settles at a stage. -/
def Settles (τ : Stage G) (Q : Stage G → α → Prop) (x : Detour → Run α) : Prop :=
  ∃ υ result, τ ≤ υ ∧ Leaves υ (Q υ) result ∧
    ∀ detour, υ.Spares detour → x detour τ.world = result

namespace Settles

variable {τ : Stage G} {Q : Stage G → α → Prop} {S : Stage G → β → Prop} {x : Detour → Run α}

/-! ## The ways of putting runs together -/

lemma pure {a : α} (h : Q τ a) : Settles τ Q fun _ => Pure.pure a :=
  ⟨τ, _, le_rfl, .ok h, fun _ _ => rfl⟩

lemma fail {failure : Failure} (h : G.realm.failure failure) :
    Settles τ Q fun _ => Run.fail failure :=
  ⟨τ, _, le_rfl, .failed h, fun _ _ => rfl⟩

lemma exhausted : Settles τ Q fun _ => Run.exhausted := ⟨τ, _, le_rfl, .exhausted, fun _ _ => rfl⟩

lemma imp {Q' : Stage G → α → Prop} (h : Settles τ Q x) (himp : ∀ υ, τ ≤ υ → ∀ a, Q υ a → Q' υ a) :
    Settles τ Q' x := by
  obtain ⟨υ, result, hle, hleaves, hsame⟩ := h
  refine ⟨υ, result, hle, ?_, hsame⟩
  cases hleaves with
  | ok ha => exact .ok (himp υ hle _ ha)
  | failed hfailure => exact .failed hfailure
  | exhausted => exact .exhausted

/-- A run after another starts at the stage that the other one leaves. -/
lemma bind {f : Detour → α → Run β} (hx : Settles τ Q x)
    (hf : ∀ υ, τ ≤ υ → ∀ a, Q υ a → Settles υ S fun detour => f detour a) :
    Settles τ S fun detour => x detour >>= f detour := by
  obtain ⟨υ, result, hle, hleaves, hsame⟩ := hx
  cases hleaves with
  | ok ha =>
      obtain ⟨ω, result', hle', hleaves', hsame'⟩ := hf υ hle _ ha
      refine ⟨ω, result', hle.trans hle', hleaves', fun detour hspares => ?_⟩
      exact (bind_of_ok (hsame detour (hspares.before hle'))).trans (hsame' detour hspares)
  | failed hfailure =>
      exact ⟨υ, _, hle, .failed hfailure, fun detour hspares => bind_of_error (hsame detour hspares)⟩
  | exhausted =>
      exact ⟨υ, _, hle, .exhausted, fun detour hspares => bind_of_error (hsame detour hspares)⟩

lemma capture (hx : Settles τ Q x) :
    Settles τ (fun υ => G.realm.outcome (Q υ)) fun detour => Run.capture (x detour) := by
  obtain ⟨υ, result, hle, hleaves, hsame⟩ := hx
  cases hleaves with
  | ok ha =>
      exact ⟨υ, .ok (.ok _) _, hle, .ok ha, fun detour hspares =>
        capture_of_ok (hsame detour hspares)⟩
  | failed hfailure =>
      exact ⟨υ, .ok (.error _) _, hle, .ok hfailure, fun detour hspares =>
        capture_of_failed (hsame detour hspares)⟩
  | exhausted =>
      exact ⟨υ, _, hle, .exhausted, fun detour hspares =>
        capture_of_exhausted (hsame detour hspares)⟩

/-- A choice that does not depend on the detour. -/
lemma ite {c : Prop} [Decidable c] {y : Detour → Run α} (hx : c → Settles τ Q x)
    (hy : ¬ c → Settles τ Q y) : Settles τ Q fun detour => if c then x detour else y detour := by
  split
  · next h => exact hx h
  · next h => exact hy h

/-- A check before something else. -/
lemma guarded {c : Prop} [Decidable c] {failure : Failure} (hfailure : G.realm.failure failure)
    (hx : Settles τ Q x) :
    Settles τ Q fun detour =>
      if c then (Run.fail failure : Run PUnit) >>= fun _ => x detour else x detour :=
  ite (fun _ => bind (Q := fun _ _ => False) (fail hfailure) fun _ _ _ h => h.elim) fun _ => hx

/-! ## Calm runs -/

/-- What is read at a stage. -/
lemma read (f : World → α) : Settles τ (fun υ a => υ = τ ∧ a = f τ.world) fun _ w => .ok (f w) w :=
  ⟨τ, _, le_rfl, .ok ⟨rfl, rfl⟩, fun _ _ => rfl⟩

/-- A run that stays inside the realm and leaves scopes and code alone. -/
lemma alike {Q : α → Prop} {x : Run α} (hx : Confined G.realm α Q x) (halike : x.Keeps World.Alike) :
    Settles τ (fun _ => Q) fun _ => x := by
  have hends := hx τ.world τ.homed.encloses
  have hworld := halike τ.world
  rw [after] at hworld
  generalize hrun : x τ.world = result at hends hworld
  cases hends with
  | ok ha h =>
      exact ⟨τ.onward hworld h.encloses, _, Stage.le_onward _ _, .ok ha, fun _ _ => hrun⟩
  | failed hfailure h =>
      exact ⟨τ.onward hworld h.encloses, _, Stage.le_onward _ _, .failed hfailure, fun _ _ => hrun⟩
  | exhausted h =>
      exact ⟨τ.onward hworld h.encloses, _, Stage.le_onward _ _, .exhausted, fun _ _ => hrun⟩

/-- A calm run that stays inside the realm. -/
lemma calm {Q : α → Prop} {x : Run α} (hx : Confined G.realm α Q x) (hcalm : x.Calm) :
    Settles τ (fun _ => Q) fun _ => x :=
  alike hx fun w => (hcalm w).alike

/-- A run as one more call: the count changes before and after. -/
lemma nested {Q : α → Prop} (i : InterpreterRef)
    (hx : ∀ υ, τ ≤ υ → Settles υ (fun _ => Q) x) :
    Settles τ (fun _ => Q) fun detour => Run.nested i (x detour) := by
  have hcounting (υ : Stage G) (depth : Nat) :
      ∃ ω : Stage G, υ ≤ ω ∧ ω.world = υ.world.counting i depth :=
    ⟨_, Stage.le_onward (World.Calm.counting υ.world i depth).alike (υ.homed.encloses.counting i depth), rfl⟩
  by_cases hlimit : (τ.world.interpreter i).maxDepth ≤ (τ.world.interpreter i).depth
  · exact ⟨τ, .error (.failed (.range _)) _, le_rfl, .failed trivial, fun _ _ =>
      nested_of_limit _ hlimit⟩
  have hlt := Nat.lt_of_not_le hlimit
  obtain ⟨σ, hσ, hinside⟩ := hcounting τ ((τ.world.interpreter i).depth + 1)
  obtain ⟨υ, result, hle, hleaves, hsame⟩ := hx σ hσ
  obtain ⟨ω, hω, houtside⟩ := hcounting υ (τ.world.interpreter i).depth
  have hto : τ ≤ ω := hσ.trans (hle.trans hω)
  have hrun (detour : Detour) (hspares : ω.Spares detour) :
      x detour (τ.world.counting i ((τ.world.interpreter i).depth + 1)) = result :=
    hinside ▸ hsame detour (hspares.before hω)
  cases hleaves with
  | ok ha =>
      exact ⟨ω, _, hto, .ok ha, fun detour hspares =>
        (nested_of_ok _ hlt (hrun detour hspares)).trans (by rw [houtside])⟩
  | failed hfailure =>
      exact ⟨ω, _, hto, .failed hfailure, fun detour hspares =>
        (nested_of_error _ hlt (hrun detour hspares)).trans (by rw [houtside])⟩
  | exhausted =>
      exact ⟨ω, _, hto, .exhausted, fun detour hspares =>
        (nested_of_error _ hlt (hrun detour hspares)).trans (by rw [houtside])⟩

/-! ## Scopes, functions and names -/

/-- A scope made in one that harbours a home. -/
lemma newScopeIn {h : Home} {parent : ScopeRef} (hparent : Harbours G τ.home τ.world h parent)
    (hroot : parent = G.globals → h.rooted ⟨τ.size⟩ = h) :
    Settles τ (fun υ own => υ.Sits h own) fun _ => Run.newScope parent := by
  obtain ⟨υ, hle, hworld, hsits⟩ := τ.sits_newScope hparent hroot
  exact ⟨υ, .ok ⟨τ.size⟩ υ.world, hle, .ok hsits, fun _ _ => by rw [hworld]; rfl⟩

/-- A scope made in one of a home is of the same home. -/
lemma newScope {h : Home} {parent : ScopeRef} (hparent : τ.Sits h parent) :
    Settles τ (fun υ own => υ.Sits h own) fun _ => Run.newScope parent :=
  newScopeIn hparent.toHarbours fun e => (hparent.apart e).elim

/-- A scope made in one that code of a home closes over is of a home of the same code: if it is the
global one, the home starts in the new scope. -/
lemma newFrame {h : Home} {parent : ScopeRef} (hparent : Harbours G τ.home τ.world h parent) :
    Settles τ (fun υ own => ∃ h' : Home, h'.code G.brought = h.code G.brought ∧ υ.Sits h' own)
      fun _ => Run.newScope parent := by
  by_cases hglobal : parent = G.globals
  · have hrooted : Harbours G τ.home τ.world (h.rooted ⟨τ.size⟩) parent :=
      ⟨hparent.inside, hparent.made, .inl hglobal, (Home.started_rooted _).mpr hparent.started⟩
    exact (newScopeIn hrooted fun _ => Home.rooted_rooted _ _).imp fun _ _ _ hown =>
      ⟨_, Home.code_rooted _, hown⟩
  · exact (newScopeIn hparent fun e => (hglobal e).elim).imp fun _ _ _ hown => ⟨h, rfl, hown⟩

/-- A function made of code of a home in a scope that harbours it. -/
lemma newClosure {h : Home} {scope : ScopeRef} (hscope : Harbours G τ.home τ.world h scope)
    (name : String) {literal : FunctionLiteral}
    (hbody : ∀ stmt ∈ literal.body, h.code G.brought (.statement stmt)) :
    Settles τ (fun _ => G.realm.value) fun _ => Run.newFunction name (.script literal scope) := by
  refine ⟨⟨τ.home, _, τ.homed.newClosure hscope name hbody⟩, _,
    ⟨le_rfl, fun _ _ => rfl, List.suffix_rfl⟩, .ok ?_, fun _ _ => rfl⟩
  exact τ.homed.encloses.heap.functions.fresh _ le_rfl

/-- A name bound in a scope that is not the global one. -/
lemma declare {scope : ScopeRef} (hscope : scope ≠ G.globals) (name : String) {v : Value}
    (isMutable : Bool) (hv : G.realm.value v) :
    Settles τ (fun _ _ => True) fun _ => Run.declare scope name v isMutable :=
  ⟨⟨τ.home, _, τ.homed.declare hscope name isMutable hv⟩, _,
    ⟨(Heap.size_declare ..).ge, fun _ _ => rfl, List.suffix_rfl⟩, .ok trivial, fun _ _ => rfl⟩

/-! ## Watched phrases -/

section Watched

variable {h : Home} {scope : ScopeRef} {phrase : Phrase}

/-- A moment at which a phrase starts or ends in a scope of its home is private. -/
lemma look (hs : τ.Sits h scope) (hcode : h.code G.brought phrase) :
    Settles τ (fun υ _ => υ = τ) fun detour => Evaluation.look detour scope phrase := by
  refine ⟨τ, .ok () τ.world, le_rfl, .ok rfl, fun detour hspares => ?_⟩
  have hnone : detour ⟨τ.world, scope, phrase⟩ = .none := hspares _ le_rfl (hs.private hcode)
  show Evaluation.look detour scope phrase τ.world = _
  unfold Evaluation.look
  rw [hnone]

lemma watch (hs : τ.Sits h scope) (hcode : h.code G.brought phrase) (hx : Settles τ Q x) :
    Settles τ Q fun detour => Evaluation.watch detour scope phrase (x detour) := by
  refine (look hs hcode).bind fun υ _ _ hυ => ?_
  subst hυ
  refine hx.bind fun υ hle a ha => (look (hs.mono hle) hcode).bind fun ω _ _ hω => ?_
  subst hω
  exact pure ha

end Watched

end Settles

end ModuleRunner.Evaluation
