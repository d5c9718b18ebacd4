import ModuleRunner.Proofs.Session.Standing

/-!
# Names that are bound for good

A `const` binds its name in the scope that it is executed in.  Whoever finds the name there reads the value
that it was given, and whoever assigns it fails and leaves everything as it was: assignments of all kinds
come down to `Heap.assign`, which looks at the binding first.

Declaring does not look.  A `let` or a `const` gives the name anew where it is executed in the very scope,
and so does a function declaration where a program is evaluated in a global scope.  Everything else binds
names in a scope of its own, or names that are not bound yet.  So a run keeps the value up to the first
moment at which such a phrase comes up in the scope, and what is left to tell apart are the functions of
programs, for no phrase stands for binding them: they leave a function behind that closes over the scope.

* `Heap.Fixes` — wherever a name is found in a scope, it has a value, for good.
* `Moment.Declares` — a phrase that would give a name anew.
* `World.Redeclares` — what a function declaration leaves behind that gave it anew.
* `World.Upholds` — the invariant: the name is bound for good, or a function declaration gave it anew.
* `Regime.upholding` — it is kept by all that runs, but for the phrases that declare the name.
* `Detour.upTo` — a detour that ends runs at some moments.
* `constants_keep_value` — all that runs, and all that the host does.
-/

namespace ModuleRunner

open Evaluation Script Run

/-! ## Scopes -/

namespace Script.Heap

/-- Wherever a name is found in a scope, it has a value, and assigning it does nothing. -/
def Fixes (heap : Heap) (s : ScopeRef) (x : String) (v : Value) : Prop :=
  ∀ t, heap.holder? t x = some s →
    heap.lookup t x = some v ∧ ∀ u, heap.assign t x u = (.constant, heap)

variable {heap : Heap} {s : ScopeRef} {x : String} {v : Value}

lemma fixes_of_ownBinding? (h : heap.ownBinding? s x = some ⟨v, false⟩) : heap.Fixes s x v := by
  intro t hholder
  refine ⟨?_, fun u => ?_⟩
  · rw [lookup, hholder, Option.bind_some, h]
    rfl
  · rw [assign, hholder]
    dsimp only
    rw [h]

/-- A function of a script was made. -/
lemma lt_of_code {f : FunctionRef} {literal : FunctionLiteral}
    (h : (heap.functionAt f).code = .script literal s) : f.index < heap.functions.size := by
  by_contra hge
  rw [functionAt, Array.getD_eq_getD_getElem?, Array.getElem?_eq_none (Nat.not_lt.mp hge)] at h
  cases h

end Script.Heap

namespace Evaluation

/-- A `let` or `const` declaration of a name comes up in a scope. -/
def Moment.Declares (s : ScopeRef) (x : String) (μ : Moment) : Prop :=
  μ.scope = s ∧ x ∈ μ.phrase.lexicalNames

instance (s : ScopeRef) (x : String) : DecidablePred (Moment.Declares s x) :=
  fun _ => inferInstanceAs (Decidable (_ ∧ _))

/-- Between two worlds, a function declaration has given a name anew in a global scope: the name can be
assigned there, and a function of that name closes over the scope that was not there before. -/
structure World.Redeclares (w : World) (s : ScopeRef) (x : String) (w' : World) : Prop where
  global : ∃ i, (w.interpreter i).globals = s
  assignable : ∃ u, w'.heap.ownBinding? s x = some ⟨u, true⟩
  function : ∃ f literal, w.heap.functions.size ≤ f.index ∧
    (w'.heap.functionAt f).code = .script literal s ∧ literal.name.getD "" = x

/-- A name keeps the value that it was bound to for good, unless a function declaration has given it
anew. -/
def World.Keeps (w : World) (s : ScopeRef) (x : String) (v : Value) (w' : World) : Prop :=
  w'.heap.Fixes s x v ∨ w.Redeclares s x w'

/-- What holds from a world on in which a scope binds a name for good: the scope still does, or a function
declaration has given the name anew.  No scope becomes a global one, and no function is lost. -/
structure World.Upholds (w : World) (s : ScopeRef) (x : String) (v : Value) (w' : World) : Prop where
  standing : w'.Standing
  functions : w.heap.functions.size ≤ w'.heap.functions.size
  globals : ∀ i, (w'.interpreter i).globals = s → ∃ i, (w.interpreter i).globals = s
  bound : w'.heap.ownBinding? s x = some ⟨v, false⟩ ∨ w.Redeclares s x w'

/-- The world in which a scope binds one more name for good. -/
def World.withConstant (w : World) (s : ScopeRef) (x : String) (v : Value) : World :=
  { w with heap := w.heap.declare s x v false }

variable {w w' w'' : World} {s : ScopeRef} {x : String} {v : Value}

namespace World.Redeclares

/-- What a function declaration has left behind stays, where the scope keeps its binding, up to the value,
and functions keep their code. -/
lemma imp (h : w.Redeclares s x w')
    (hbinding : ∀ u, w'.heap.ownBinding? s x = some ⟨u, true⟩ →
      ∃ u, w''.heap.ownBinding? s x = some ⟨u, true⟩)
    (hcode : ∀ f literal, (w'.heap.functionAt f).code = .script literal s →
      (w''.heap.functionAt f).code = .script literal s) : w.Redeclares s x w'' := by
  obtain ⟨u, hu⟩ := h.assignable
  obtain ⟨f, literal, hnew, hclosure, hname⟩ := h.function
  exact ⟨h.global, hbinding u hu, f, literal, hnew, hcode f literal hclosure, hname⟩

end World.Redeclares

namespace World.Upholds

/-- The scope binds the name, in one way or the other. -/
lemma isSome (h : w.Upholds s x v w') : (w'.heap.ownBinding? s x).isSome := by
  rcases h.bound with hconstant | hredeclares
  · rw [hconstant]
    rfl
  · obtain ⟨u, hu⟩ := hredeclares.assignable
    rw [hu]
    rfl

lemma made (h : w.Upholds s x v w') : s.index < w'.heap.scopes.size := Heap.lt_of_ownBinding? h.isSome

lemma keeps (h : w.Upholds s x v w') : w.Keeps s x v w' := h.bound.imp_left Heap.fixes_of_ownBinding?

/-- A scope that is made is another one. -/
lemma ne_new (h : w.Upholds s x v w') : (⟨w'.heap.scopes.size⟩ : ScopeRef) ≠ s :=
  fun heq => (heq ▸ h.made).false

/-- Where a `const` has been executed. -/
lemma withConstant (hw : w.Standing) (hs : s.index < w.heap.scopes.size) :
    w.Upholds s x v (w.withConstant s x v) where
  standing := hw.declare s x v false
  functions := le_rfl
  globals i hi := ⟨i, hi⟩
  bound := .inl (Heap.ownBinding?_declare_self _ _ _ _ _ hs)

/-- What leaves the scope and the code of functions alone. -/
lemma bound_of_same (h : w.Upholds s x v w')
    (hbinding : w''.heap.ownBinding? s x = w'.heap.ownBinding? s x)
    (hcode : ∀ f literal, (w'.heap.functionAt f).code = .script literal s →
      (w''.heap.functionAt f).code = .script literal s) :
    w''.heap.ownBinding? s x = some ⟨v, false⟩ ∨ w.Redeclares s x w'' :=
  h.bound.imp hbinding.trans fun hredeclares =>
    hredeclares.imp (fun u hu => ⟨u, hbinding.trans hu⟩) hcode

/-- One more interpreter has a global scope of its own. -/
lemma newInterpreter (h : w.Upholds s x v w') (granted : Table Value) (maxDepth : Nat) :
    w.Upholds s x v ((newInterpreter granted maxDepth).after w') := by
  have hbinding : ((w'.heap.newScope none).2.declareTable ⟨w'.heap.scopes.size⟩ granted).ownBinding? s x
      = w'.heap.ownBinding? s x := by
    rw [Heap.ownBinding?, Heap.scopeAt_declareTable_of_ne _ _ h.ne_new.symm,
      Heap.scopeAt_newScope_of_lt _ _ h.made, Heap.ownBinding?]
  refine ⟨h.standing.newInterpreter granted maxDepth, ?_, fun i hi => ?_, ?_⟩
  · rw [after_of_ok (newInterpreter_eq granted maxDepth w'), Heap.functions_declareTable]
    exact h.functions
  · rw [globals_newInterpreter] at hi
    split at hi
    · exact (h.ne_new hi).elim
    · exact h.globals i hi
  · rw [after_of_ok (newInterpreter_eq granted maxDepth w')]
    refine h.bound_of_same hbinding fun f literal hcode => ?_
    rw [Heap.functionAt_declareTable]
    exact hcode

lemma calm (h : w.Upholds s x v w') (hcalm : w'.Calm w'') : w.Upholds s x v w'' where
  standing := h.standing.calm hcalm
  functions := h.functions.trans hcalm.heap.functions
  globals i hi := h.globals i ((hcalm.globals i).symm.trans hi)
  bound := h.bound.imp (hcalm.heap.constants s x v) fun hredeclares =>
    hredeclares.imp (hcalm.heap.mutables s x) fun f literal => hcalm.heap.closures f literal s

section Steps

variable {scope : ScopeRef} {name : String} {literal : FunctionLiteral}

lemma newScope (h : w.Upholds s x v w') (hscope : scope.index < w'.heap.scopes.size) :
    w.Upholds s x v { w' with heap := (w'.heap.newScope (some scope)).2 } where
  standing := h.standing.newScope hscope
  functions := h.functions
  globals := h.globals
  bound := by
    refine h.bound_of_same ?_ fun _ _ => id
    rw [Heap.ownBinding?, Heap.scopeAt_newScope_of_lt _ _ h.made, Heap.ownBinding?]

lemma newClosure (h : w.Upholds s x v w') (name : String) (literal : FunctionLiteral)
    (hscope : scope.index < w'.heap.scopes.size) :
    w.Upholds s x v { w' with heap := (w'.heap.newFunction ⟨name, .script literal scope, []⟩).2 } where
  standing := h.standing.newClosure name literal hscope
  functions := h.functions.trans (Heap.size_functions_newFunction_le _ _)
  globals := h.globals
  bound := h.bound_of_same rfl fun _ _ hcode =>
    (congrArg FunctionCell.code (Heap.functionAt_newFunction_of_ne _ _ fun heq =>
      (heq ▸ Heap.lt_of_code hcode).false)).trans hcode

/-- What is not bound yet is another name, or in another scope. -/
lemma free_of_missing (h : w.Upholds s x v w') (hnone : w'.heap.ownBinding? scope name = none) :
    scope ≠ s ∨ name ≠ x := by
  refine not_and_or.mp ?_
  rintro ⟨rfl, rfl⟩
  exact Option.isSome_iff_ne_none.mp h.isSome hnone

/-- Another name is bound, or one in another scope. -/
lemma declare (h : w.Upholds s x v w') (hfree : scope ≠ s ∨ name ≠ x) (u : Value) (isMutable : Bool) :
    w.Upholds s x v { w' with heap := w'.heap.declare scope name u isMutable } where
  standing := h.standing.declare scope name u isMutable
  functions := h.functions
  globals := h.globals
  bound := h.bound_of_same
    (Heap.ownBinding?_declare_of_ne _ _ _ _ _ (hfree.imp Ne.symm Ne.symm)) fun _ _ => id

/-- A function declaration gives the name anew, in a global scope. -/
lemma redeclare (h : w.Upholds s x v w') (htaken : ¬ (scope ≠ s ∨ literal.name.getD "" ≠ x))
    (hscope : scope.index < w'.heap.scopes.size)
    (hglobal : scope = s → ∃ i, (w.interpreter i).globals = s) :
    w.Upholds s x v (w'.declaring scope literal) := by
  rw [not_or, not_not, not_not] at htaken
  obtain ⟨rfl, rfl⟩ := htaken
  have hmade := h.newClosure (literal.name.getD "") literal hscope
  refine ⟨hmade.standing.declare scope _ _ true, hmade.functions, h.globals, .inr ⟨hglobal rfl, ?_, ?_⟩⟩
  · exact ⟨_, Heap.ownBinding?_declare_self _ _ _ _ _ hscope⟩
  · exact ⟨⟨w'.heap.functions.size⟩, literal, h.functions,
      congrArg FunctionCell.code (Heap.functionAt_newFunction_self _ _), rfl⟩

end Steps

end World.Upholds

/-! ## What runs -/

/-- From a world on, a scope keeps the value of a name.  The name is not free in the scope, and functions of
programs are bound in scopes that were global then. -/
def Regime.upholding (w : World) (s : ScopeRef) (x : String) (v : Value) : Regime where
  Sound := w.Upholds s x v
  Place heap t := t.index < heap.scopes.size
  Around heap t := t.index < heap.scopes.size
  Code _ := True
  Ready _ _ _ := True
  Free t name := t ≠ s ∨ name ≠ x
  Global t := t = s → ∃ i, (w.interpreter i).globals = s
  around h := h
  place_grows := Heap.Grows.made
  around_grows := Heap.Grows.made
  ready_grows _ := id
  leading _ _ _ := trivial
  other _ _ _ := trivial
  alone _ _ _ _ _ := trivial
  hoisted _ _ _ _ _ _ := trivial
  calm := World.Upholds.calm
  newScope := World.Upholds.newScope
  place_newScope h := standing.place_newScope h.standing
  newClosure name h hscope _ := h.newClosure name _ hscope
  free_newScope h _ := .inl h.ne_new
  free_missing h _ := h.free_of_missing
  global h i := h.globals i
  declare _ u isMutable h _ hfree := h.declare hfree u isMutable
  redeclare htaken h hscope hglobal _ := h.redeclare htaken hscope hglobal

lemma Regime.upholding_whole (w : World) (s : ScopeRef) (x : String) (v : Value) :
    (upholding w s x v).Whole where
  frame h hparent := Regime.standing.place_newScope h.standing hparent
  globals h := h.standing.globals
  closures h hcode := ⟨h.standing.closures _ _ _ hcode, fun _ _ => trivial⟩
  parsed _ _ _ := trivial

/-! ## Runs that are cut -/

/-- A detour, but for some moments, at which runs are over. -/
def Detour.upTo (detour : Detour) (ends : Moment → Prop) [DecidablePred ends] : Detour := fun μ =>
  if ends μ then some μ.world else detour μ

/-- The detour that only ends runs. -/
abbrev cutAt (ends : Moment → Prop) [DecidablePred ends] : Detour := Detour.none.upTo ends

/-- Ending runs where the name comes up in the scope to be declared. -/
lemma Regime.upholding_cuts {detour : Detour}
    (hspares : ∀ μ : Moment, w.Keeps s x v μ.world → detour μ = .none) :
    (upholding w s x v).Cuts (detour.upTo (Moment.Declares s x)) (cutAt (Moment.Declares s x)) where
  same μ hμ := by
    have hdetour : detour μ = Detour.none μ := hspares μ (World.Upholds.keeps hμ.sound)
    rw [Detour.upTo, hdetour, cutAt, Detour.upTo]
  stays μ stop _ hstop := by
    rw [cutAt, Detour.upTo] at hstop
    split at hstop
    · exact (Option.some.inj hstop).symm
    · cases hstop
  free μ _ hgoes name hname := by
    rw [cutAt, Detour.upTo] at hgoes
    split at hgoes
    · cases hgoes
    · next hdeclares =>
        refine not_and_or.mp ?_
        rintro ⟨rfl, rfl⟩
        exact hdeclares ⟨rfl, hname⟩

/-- What a `const` does: the scope binds the name to the value of the declarator, for good. -/
lemma declareAll_constant (m : Machine) (i : InterpreterRef) {d : Declarator} {rest : List Declarator}
    {w₀ : World} {u : Option Value} (hvalue : evaluateOption m i s d.value w₀ = .ok u w) :
    declareAll m i s .constant (d :: rest) w₀ =
      declareAll m i s .constant rest (w.withConstant s d.name (u.getD .undefined)) := by
  obtain ⟨name, value⟩ := d
  cases value with
  | none =>
      cases hvalue
      rfl
  | some e =>
      have hstep : declareAll m i s .constant (⟨name, some e⟩ :: rest) =
          m.evaluate i s e >>= fun a => Run.declare s name a false >>= fun _ =>
            declareAll m i s .constant rest := rfl
      cases hrun : m.evaluate i s e w₀ with
      | ok a w₁ =>
          rw [evaluateOption, bind_of_ok hrun] at hvalue
          cases hvalue
          rw [hstep, bind_of_ok hrun]
          rfl
      | error stop w₁ =>
          rw [evaluateOption, bind_of_error hrun] at hvalue
          cases hvalue

end Evaluation

/-- **Constants.**  A `const` binds its name in the scope that it is executed in to the value of its
declarator.  From then on, in what is left of the declaration, in the statements behind it, in whatever is
evaluated, executed, called or loaded and whatever the host does, wherever the name is found in that scope
it has this value, and assigning it fails and changes nothing.  That is so at all moments and in the end,
until a `let` or a `const` of the name comes up in the very scope, and up to a function declaration that
has given the name anew in a global scope. -/
theorem constants_keep_value (w : World) (hw : w.Standing) (s : ScopeRef)
    (hs : s.index < w.heap.scopes.size) (x : String) (v : Value) :
    (∀ m i d rest w₀ u, evaluateOption m i s d.value w₀ = .ok u w → d.name = x →
      u.getD .undefined = v → declareAll m i s .constant (d :: rest) w₀ =
        declareAll m i s .constant rest (w.withConstant s x v)) ∧
    w.Upholds s x v (w.withConstant s x v) ∧
    ∀ w', w.Upholds s x v w' → w.Keeps s x v w' ∧
      ∀ detour : Detour, (∀ μ : Moment, w.Keeps s x v μ.world → detour μ = .none) →
        let here := detour.upTo (Moment.Declares s x)
        let cut := cutAt (Moment.Declares s x)
        (∀ n, (watchedMachine here n).Same (watchedMachine cut n) w'
          (fun t => t.index < w'.heap.scopes.size) (w.Upholds s x v)) ∧
        (∀ n i t kind rest, t.index < w'.heap.scopes.size → (∀ d ∈ rest, d.name ≠ x) →
          declareAll (watchedMachine here n) i t kind rest w' =
              declareAll (watchedMachine cut n) i t kind rest w' ∧
            w.Upholds s x v ((declareAll (watchedMachine cut n) i t kind rest).after w')) ∧
        (∀ n i t body, t.index < w'.heap.scopes.size →
          executeAll (watchedMachine here n) i t body w' =
              executeAll (watchedMachine cut n) i t body w' ∧
            w.Upholds s x v ((executeAll (watchedMachine cut n) i t body).after w')) ∧
        ∀ acts : List HostAct, (∀ act ∈ acts, act.Respects (w.Upholds s x v)) →
          watchAll here acts w' = watchAll cut acts w' ∧
            w.Upholds s x v ((watchAll cut acts).after w') ∧
            (¬ Passes acts w' (Moment.Declares s x) → watchAll cut acts w' = performAll acts w') := by
  have hwhole := Regime.upholding_whole w s x v
  refine ⟨fun m i d rest w₀ u hvalue hname hu => ?_, .withConstant hw hs, fun w' hw' => ⟨hw'.keeps,
    fun detour hspares => ?_⟩⟩
  · subst hname hu
    exact declareAll_constant m i hvalue
  let τ : (Regime.upholding w s x v).Stage := ⟨w', hw'⟩
  have hcuts := Regime.upholding_cuts hspares
  have hrelated (n : Nat) := Regime.watchedMachines_related hwhole hcuts n
  refine ⟨fun n => ?_, fun n i t kind rest ht hrest => ?_, fun n i t body ht => ?_, fun acts hacts => ?_⟩
  · exact (hrelated n).same (fun _ => trivial) (fun _ _ _ => trivial) hw'
  · exact ((hrelated n).declareAll (τ := τ) i kind ht (fun _ _ _ _ => trivial)
      (.inr fun d hd => .inr (hrest d hd))).same
  · exact ((hrelated n).executeAll (τ := τ) i ht (fun _ _ => trivial) fun _ _ => trivial).same
  · obtain ⟨hsame, hupholds⟩ := Regime.watchAll_eq hwhole hcuts
      (fun act hact => HostAct.Respects.keeps (R := .upholding w s x v) (hacts act hact)
        fun granted maxDepth w' hw' => hw'.newInterpreter granted maxDepth) hw'
    refine ⟨hsame, hupholds, fun hpasses => ?_⟩
    by_contra hdiffers
    exact hpasses ⟨_, fun μ hμ => if_neg hμ, hdiffers⟩

/-- A constant that another program assigns, and one that another program gives anew by a function. -/
theorem constants_keep_value_assigned :
    let w : World := (newInterpreter [] 5).after World.empty
    let declared := w.withConstant ⟨0⟩ "x" (.text "a")
    let cut := cutAt (Moment.Declares ⟨0⟩ "x")
    let assigning := "var kept; try \x7b x = 'b'; \x7d catch (e) { kept = e.name; } var y = x;"
    let kept := (watchAll cut [.evaluate ⟨0⟩ assigning]).after declared
    let given := (watchAll cut [.evaluate ⟨0⟩ "function x() { }"]).after declared
    w.Standing ∧ 0 < w.heap.scopes.size ∧
    declareAll (machine levels) ⟨0⟩ ⟨0⟩ .constant [⟨"x", some (.text "a")⟩] w = .ok () declared ∧
    (watchedMachine cut levels).Same (watchedMachine cut levels) declared
      (fun t => t.index < declared.heap.scopes.size) (w.Upholds ⟨0⟩ "x" (.text "a")) ∧
    w.Keeps ⟨0⟩ "x" (.text "a") kept ∧ kept.heap.lookup ⟨0⟩ "y" = some (.text "a") ∧
    kept.heap.lookup ⟨0⟩ "kept" = some (.text "TypeError") ∧
    w.Keeps ⟨0⟩ "x" (.text "a") given ∧
    given.heap.lookup ⟨0⟩ "x" = some (.function ⟨0⟩) := by
  intro w declared cut assigning kept given
  have hw : w.Standing := World.standing_first _ _
  have hsize : (⟨0⟩ : ScopeRef).index < w.heap.scopes.size := by decide +kernel
  obtain ⟨hconst, hupholds, hlater⟩ := constants_keep_value w hw ⟨0⟩ hsize "x" (.text "a")
  obtain ⟨hruns, -, -, hsessions⟩ := (hlater declared hupholds).2 .none fun _ _ => rfl
  have keeps (acts : List HostAct)
      (hacts : ∀ act ∈ acts, act.Respects (w.Upholds ⟨0⟩ "x" (.text "a"))) :
      w.Keeps ⟨0⟩ "x" (.text "a") ((watchAll cut acts).after declared) :=
    (hlater _ (hsessions acts hacts).2.1).1
  have hevaluate (source : String) : ∀ act ∈ [HostAct.evaluate ⟨0⟩ source],
      act.Respects (w.Upholds ⟨0⟩ "x" (.text "a")) := by
    intro act hmem
    rw [List.mem_singleton.mp hmem]
    trivial
  refine ⟨hw, hsize, ?_, hruns levels, keeps _ (hevaluate assigning), ?_, ?_, keeps _ (hevaluate _), ?_⟩
  · exact hconst (machine levels) ⟨0⟩ ⟨"x", some (.text "a")⟩ [] w (some (.text "a")) rfl rfl rfl
  · decide +kernel
  · decide +kernel
  · decide +kernel

/-- A program whose constant is given anew in its own scope, by a `let`. -/
theorem constants_given_anew :
    let source := "const x = 'a'; var before = x; let x = 'b'; var later = x;"
    let w := (performAll [.interpret [] 5, .evaluate ⟨0⟩ source]).after World.empty
    (parse source).isOk = true ∧ w.heap.holder? ⟨0⟩ "x" = some ⟨0⟩ ∧
      w.heap.lookup ⟨0⟩ "before" = some (.text "a") ∧ w.heap.lookup ⟨0⟩ "later" = some (.text "b") := by
  decide +kernel

end ModuleRunner
