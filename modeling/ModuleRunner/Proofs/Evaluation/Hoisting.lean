import ModuleRunner.Proofs.Evaluation.Body
import ModuleRunner.Proofs.Session.Standing

/-!
# Names that are bound ahead

A name that a body declares by `var`, nested functions left aside, is bound when the body is entered, in
whatever kind of statement it is declared, and it is known from then on wherever the body runs.  Entering
leaves alone what the frame binds already; only the functions that the body declares directly are bound
anew, as the last thing before its statements run.

A function that is declared in a list of statements is bound when the list is entered, and so it is when
its declaration is reached.  A declaration that stands alone, as a branch or as the body of a loop, is in
no list, and nothing binds its name.

* `StatementOf`, `DeclaresVar` — the names that a body declares by `var`, by what it is made of.
* `enterBody_keeps`, `enterBody_binds` — what entering a body leaves alone, and what not.
* `var_names_known` — names declared by `var`, and the counterexample `declared_function_takes_over`.
* `declarations_find_bound` — declarations that are reached.
-/

namespace ModuleRunner.Evaluation

open Script Run

/-! ## Declared by `var` -/

/-- The statements of a body, and the statements that they are made of, outside nested functions. -/
inductive StatementOf (body : List Statement) : Statement → Prop where
  | direct {s : Statement} (hs : s ∈ body) : StatementOf body s
  | part {s t : Statement} (hs : StatementOf body s) (hfunction : ∀ literal, s ≠ .function literal)
      (ht : .statement t ∈ Phrase.others (.statement s)) : StatementOf body t

/-- A body declares a name by `var`, outside nested functions. -/
def DeclaresVar (body : List Statement) (name : String) : Prop :=
  ∃ declarators, StatementOf body (.declaration .var declarators) ∧
    ∃ d ∈ declarators, d.name = name

section Collecting

variable {body : List Statement} {name : String}

lemma mem_bodyVarNames : name ∈ bodyVarNames body ↔ ∃ s ∈ body, name ∈ s.varNames := by
  induction body with
  | nil => simp [bodyVarNames]
  | cons s rest ih => simp [bodyVarNames, ih]

/-- A statement declares what it declares itself, and what the statements that it is made of declare. -/
lemma mem_varNames {s : Statement} : name ∈ s.varNames ↔
    (∃ declarators, s = .declaration .var declarators ∧ ∃ d ∈ declarators, d.name = name) ∨
      (∀ literal, s ≠ .function literal) ∧
        ∃ t, .statement t ∈ Phrase.others (.statement s) ∧ name ∈ t.varNames := by
  cases s with
  | declaration kind declarators =>
      cases kind <;> simp [Statement.varNames, Phrase.others, Phrase.othersOfStatement]
  | block body => simp [Statement.varNames, mem_bodyVarNames, Phrase.others, Phrase.othersOfStatement]
  | conditional test yes no =>
      cases no <;>
        simp [Statement.varNames, optionVarNames, Phrase.others, Phrase.othersOfStatement]
  | whileLoop test body => simp [Statement.varNames, Phrase.others, Phrase.othersOfStatement]
  | forLoop start test update body =>
      cases start <;>
        simp [Statement.varNames, optionVarNames, Phrase.others, Phrase.othersOfStatement, or_and_right,
          exists_or]
  | attempt block handler finalizer =>
      rcases handler with _ | ⟨parameter, caught⟩ <;> cases finalizer <;>
        simp [Statement.varNames, handlerVarNames, finalizerVarNames, mem_bodyVarNames, Phrase.others,
          Phrase.othersOfStatement, or_and_right, exists_or]
  | _ => simp [Statement.varNames, Phrase.others, Phrase.othersOfStatement]

/-- What a statement is made of is smaller. -/
lemma sizeOf_part {s t : Statement} (h : .statement t ∈ Phrase.others (.statement s)) :
    sizeOf t < sizeOf s := by
  have hlist {body : List Statement} (hmem : t ∈ body) : sizeOf t < sizeOf body :=
    List.sizeOf_lt_of_mem hmem
  cases s <;> simp [Phrase.others, Phrase.othersOfStatement] at h ⊢
  case function literal =>
    obtain ⟨name, parameters, body⟩ := literal
    have hlt : sizeOf t < sizeOf body := hlist h
    simp
    omega
  case block body =>
    have hlt := hlist h
    omega
  case conditional test yes no =>
    rcases h with rfl | rfl
    · omega
    · simp
      omega
  case whileLoop test body =>
    subst h
    omega
  case forLoop start test update body =>
    rcases h with rfl | rfl
    · simp
      omega
    · omega
  case attempt block handler finalizer =>
    rcases h with h | ⟨⟨parameter, caught⟩, rfl, h⟩ | ⟨last, rfl, h⟩
    · have hlt := hlist h
      omega
    · have hlt : sizeOf t < sizeOf caught := hlist h
      simp
      omega
    · have hlt := hlist h
      simp
      omega

/-- The names that are collected are those that the body declares by `var`. -/
theorem declaresVar_iff : DeclaresVar body name ↔ name ∈ bodyVarNames body := by
  constructor
  · rintro ⟨declarators, hs, d, hd, rfl⟩
    have hcollected {s : Statement} (hs : StatementOf body s) :
        ∀ name ∈ s.varNames, name ∈ bodyVarNames body := by
      induction hs with
      | direct hs => exact fun name hname => mem_bodyVarNames.mpr ⟨_, hs, hname⟩
      | part _ hfunction ht ih =>
          exact fun name hname => ih name (mem_varNames.mpr (.inr ⟨hfunction, _, ht, hname⟩))
    exact hcollected hs _ (List.mem_map_of_mem hd)
  · have hdeclared (s : Statement) (hs : StatementOf body s) (hname : name ∈ s.varNames) :
        DeclaresVar body name := by
      induction hsize : sizeOf s using Nat.strong_induction_on generalizing s with
      | _ size ih =>
          obtain ⟨declarators, rfl, hd⟩ | ⟨hfunction, t, ht, hname⟩ := mem_varNames.mp hname
          · exact ⟨declarators, hs, hd⟩
          · exact ih _ (hsize ▸ sizeOf_part ht) t (.part hs hfunction ht) hname rfl
    intro hname
    obtain ⟨s, hs, hname⟩ := mem_bodyVarNames.mp hname
    exact hdeclared s (.direct hs) hname

instance : Decidable (DeclaresVar body name) := decidable_of_iff _ declaresVar_iff.symm

end Collecting

/-! ## Entering -/

section Entering

variable {frame : ScopeRef} {name : String} {binding : Binding}

/-- Names are bound if they were not, and what is bound is left alone. -/
lemma declareMissing_goes (frame : ScopeRef) (names : List String) (w : World) :
    ∃ w', declareMissing frame names w = .ok () w' ∧ w'.heap.scopes.size = w.heap.scopes.size ∧
      ∀ name binding, w.heap.ownBinding? frame name = some binding →
        w'.heap.ownBinding? frame name = some binding := by
  induction names generalizing w with
  | nil => exact ⟨w, rfl, rfl, fun _ _ => id⟩
  | cons missing rest ih =>
      rw [declareMissing, bind_readHeap]
      split
      · next hnone =>
          have hdeclared : Run.declare frame missing .undefined true w
              = .ok () { w with heap := w.heap.declare frame missing .undefined true } := rfl
          rw [bind_of_ok hdeclared]
          obtain ⟨w', hrun, hsize, hkept⟩ :=
            ih { w with heap := w.heap.declare frame missing .undefined true }
          refine ⟨w', hrun, hsize.trans (Heap.size_declare ..),
            fun name binding hbound => hkept name binding ?_⟩
          have hne : name ≠ missing := by
            rintro rfl
            rw [hbound] at hnone
            cases hnone
          rwa [Heap.ownBinding?_declare_of_ne _ _ _ _ _ (.inr hne)]
      · exact ih w

lemma after_declareFunctions_cons (literal : FunctionLiteral) (rest : List FunctionLiteral) (w : World) :
    (declareFunctions frame (literal :: rest)).after w =
      (declareFunctions frame rest).after (w.declaring frame literal) :=
  rfl

/-- Other names are left alone, and so are the functions that were there. -/
lemma declareFunctions_keeps {literals : List FunctionLiteral}
    (hname : name ∉ literals.map fun literal => literal.name.getD "") :
    (declareFunctions frame literals).Keeps fun w w' =>
      w'.heap.ownBinding? frame name = w.heap.ownBinding? frame name ∧
        ∀ f : FunctionRef, f.index < w.heap.functions.size →
          w'.heap.functionAt f = w.heap.functionAt f := by
  intro w
  induction literals generalizing w with
  | nil => exact ⟨rfl, fun _ _ => rfl⟩
  | cons literal rest ih =>
      rw [List.map_cons, List.mem_cons, not_or] at hname
      rw [after_declareFunctions_cons]
      obtain ⟨hbinding, hfunctions⟩ := ih hname.2 (w.declaring frame literal)
      refine ⟨hbinding.trans (Heap.ownBinding?_declare_of_ne _ _ _ _ _ (.inr hname.1)), fun f hf => ?_⟩
      have hsize : (w.declaring frame literal).heap.functions.size = w.heap.functions.size + 1 :=
        Array.size_push _
      rw [hfunctions f (by omega)]
      exact Heap.functionAt_newFunction_of_ne _ _ fun e => lt_irrefl _ (e ▸ hf)

/-- The name of a function that is declared is bound to a function of that name. -/
lemma declareFunctions_binds {literals : List FunctionLiteral} {w : World}
    (hframe : frame.index < w.heap.scopes.size)
    (hname : name ∈ literals.map fun literal => literal.name.getD "") :
    ∃ f, ∃ literal ∈ literals, literal.name.getD "" = name ∧
      ((declareFunctions frame literals).after w).heap.ownBinding? frame name
        = some ⟨.function f, true⟩ ∧
      (((declareFunctions frame literals).after w).heap.functionAt f).code
        = .script literal frame := by
  induction literals generalizing w with
  | nil => cases hname
  | cons first rest ih =>
      have hsize : (w.declaring frame first).heap.scopes.size = w.heap.scopes.size :=
        Heap.size_declare ..
      rw [after_declareFunctions_cons]
      by_cases hlater : name ∈ rest.map fun literal => literal.name.getD ""
      · obtain ⟨f, literal, hmem, hnamed⟩ := ih (hsize ▸ hframe) hlater
        exact ⟨f, literal, List.mem_cons_of_mem _ hmem, hnamed⟩
      · -- the last function of the name is the first one of the list
        obtain rfl : name = first.name.getD "" :=
          (List.mem_cons.mp hname).resolve_right hlater
        obtain ⟨hbinding, hfunctions⟩ := declareFunctions_keeps hlater (w.declaring frame first)
        refine ⟨⟨w.heap.functions.size⟩, first, List.mem_cons_self, rfl, ?_, ?_⟩
        · rw [hbinding]
          exact Heap.ownBinding?_declare_self _ _ _ _ _ hframe
        · rw [hfunctions _ (by simp [World.declaring, Heap.newFunction, Heap.declare, Heap.modifyScope])]
          exact congrArg FunctionCell.code (Heap.functionAt_newFunction_self _ _)

/-- Entering a body keeps what the frame binds, up to the functions that the body declares. -/
lemma enterBody_keeps {body : List Statement} (hname : name ∉ functionNames body) {w : World}
    (hbound : w.heap.ownBinding? frame name = some binding) :
    ((enterBody frame body).after w).heap.ownBinding? frame name = some binding := by
  obtain ⟨w', hrun, -, hkept⟩ := declareMissing_goes frame (bodyVarNames body) w
  rw [enterBody, hoistVariables, after_bind_of_ok hrun]
  exact (declareFunctions_keeps hname w').1.trans (hkept name binding hbound)

/-- Entering a body binds the functions that it declares. -/
lemma enterBody_binds {body : List Statement} (hname : name ∈ functionNames body) {w : World}
    (hframe : frame.index < w.heap.scopes.size) :
    ∃ f, ∃ literal ∈ declaredFunctions body, literal.name.getD "" = name ∧
      ((enterBody frame body).after w).heap.ownBinding? frame name = some ⟨.function f, true⟩ ∧
      (((enterBody frame body).after w).heap.functionAt f).code = .script literal frame := by
  obtain ⟨w', hrun, hsize, -⟩ := declareMissing_goes frame (bodyVarNames body) w
  rw [enterBody, hoistVariables, after_bind_of_ok hrun]
  exact declareFunctions_binds (hsize ▸ hframe) hname

end Entering

/-! ## Names declared by `var` -/

/-- A moment at which the frame of a body binds what the body declares by `var`, and all of it is known
inside the frame. -/
structure Moment.HasVariables (frame : ScopeRef) (body : List Statement) (μ : Moment) : Prop where
  binds : ∀ name, DeclaresVar body name → (μ.world.heap.ownBinding? frame name).isSome
  knows : μ.world.heap.Within frame μ.scope → ∀ name, DeclaresVar body name → μ.Knows name

/-- What a body declares by `var` is bound and known throughout a run of the body: at all moments of its
own, which are inside the frame, at those of all that it calls, and in the end. -/
structure KnownThroughout {α : Type} (run : Machine → Run α) (frame : ScopeRef) (body : List Statement)
    (n : Nat) (w : World) : Prop where
  passes : ¬ PassesIn run n w
    (fun μ => ¬ (μ.HasVariables frame body ∧ μ.world.heap.Within frame μ.scope))
    fun μ => ¬ μ.HasVariables frame body
  binds : ∀ name, DeclaresVar body name →
    (((run (machine n)).after w).heap.ownBinding? frame name).isSome

lemma Moment.Beside.hasVariables {frame : ScopeRef} {body : List Statement} {μ : Moment}
    (h : μ.Beside frame body) : μ.HasVariables frame body :=
  have hahead {name : String} (hname : DeclaresVar body name) : name ∈ aheadNames body :=
    List.mem_append_left _ (declaresVar_iff.mp hname)
  ⟨fun name hname => h.binds name (hahead hname),
    fun hwithin name hname => h.knows hwithin name (hahead hname)⟩

lemma Course.knownThroughout {α : Type} {run : Machine → Run α} {frame : ScopeRef}
    {body : List Statement} {n : Nat} {w : World} (h : Course run frame body n w) :
    KnownThroughout run frame body n w where
  passes hpasses := h.passes (hpasses.mono
    (fun _ hμ hin => hμ ⟨hin.toBeside.hasVariables, hin.within⟩)
    fun _ hμ hbeside => hμ hbeside.hasVariables)
  binds name hname := h.binds name (List.mem_append_left _ (declaresVar_iff.mp hname))

/-- **What a body declares by `var`.**  In every call of a function and every run of a program, the frame
binds all names that the body declares by `var`, nested functions left aside, from when the body is
entered until the run is over, however it ends; wherever inside the frame something runs meanwhile, these
names can be read and assigned.  Entering a body leaves alone what the frame binds already, parameters
among it, unless the body directly declares a function of that name, which the name is bound to then. -/
theorem var_names_known :
    (∀ (n : Nat) (i : InterpreterRef) (literal : FunctionLiteral) (scope : ScopeRef) (receiver : Value)
      (arguments : List Value) (w : World), w.Standing → scope.index < w.heap.scopes.size →
      KnownThroughout (fun m => invokeScript m i literal scope receiver arguments)
        ⟨w.heap.scopes.size⟩ literal.body n w) ∧
    (∀ (n : Nat) (i : InterpreterRef) (source : String) (body : List Statement) (w : World),
      parse source = .ok body → w.Standing →
      KnownThroughout (fun m => evaluateSource m i source) (w.interpreter i).globals body n w) ∧
    ∀ (frame : ScopeRef) (body : List Statement) (name : String) (w : World),
      (∀ binding, w.heap.ownBinding? frame name = some binding → name ∉ functionNames body →
        ((enterBody frame body).after w).heap.ownBinding? frame name = some binding) ∧
      (frame.index < w.heap.scopes.size → name ∈ functionNames body →
        ∃ f, ∃ literal ∈ declaredFunctions body, literal.name.getD "" = name ∧
          ((enterBody frame body).after w).heap.ownBinding? frame name = some ⟨.function f, true⟩ ∧
          (((enterBody frame body).after w).heap.functionAt f).code = .script literal frame) := by
  refine ⟨fun n i literal scope receiver arguments w hw hscope => ?_,
    fun n i source body w hparse hw => ?_, fun frame body name w => ⟨fun binding hbound hname => ?_,
    fun hframe hname => ?_⟩⟩
  · exact (invokeScript_course n i literal receiver arguments hw hscope).knownThroughout
  · exact (evaluateSource_course n i hparse hw).knownThroughout
  · exact enterBody_keeps hname hbound
  · exact enterBody_binds hname hframe

/-- A parameter that is declared by `var` as well, where a function of its name takes its place. -/
theorem declared_function_takes_over :
    let body : List Statement := [.declaration .var [⟨"x", none⟩], .function ⟨some "x", [], []⟩,
      .returnValue (some (.unary .typeof (.name "x")))]
    let source := "function f(x) { var x; function x() {} return typeof x; } var kind = f('v');"
    let entered : World := (do
      let frame ← Run.newScope ⟨0⟩
      Run.declare frame receiverName .undefined false
      bindParameters frame ["x"] [.text "v"] : Run Unit).after
        ((newInterpreter [] 5).after World.empty)
    DeclaresVar body "x" ∧ (entered.heap.ownBinding? ⟨1⟩ "x").map (·.value) = some (.text "v") ∧
      (((enterBody ⟨1⟩ body).after entered).heap.ownBinding? ⟨1⟩ "x").map (·.value)
        = some (.function ⟨0⟩) ∧
      ((performAll [.interpret [] 5, .evaluate ⟨0⟩ source]).after World.empty).heap.lookup ⟨0⟩ "kind"
        = some (.text "function") := by
  decide +kernel

/-- A program that declares a name where it never comes to, and reads it; a function that does so; and a
body that is entered where one of its names is bound. -/
theorem var_names_known_late :
    let w : World := (newInterpreter [("kept", .text "v")] 5).after World.empty
    let source := "if (false) { var late; } late;"
    let literal : FunctionLiteral := ⟨some "g", ["p"], [.conditional (.boolean false)
      (.declaration .var [⟨"inner", none⟩]) none, .returnValue (some (.name "inner"))]⟩
    let entered : List Statement := [.declaration .var [⟨"kept", none⟩], .function ⟨some "f", [], []⟩]
    w.Standing ∧
    (DeclaresVar literal.body "inner" ∧
      KnownThroughout (fun m => invokeScript m ⟨0⟩ literal ⟨0⟩ .undefined []) ⟨1⟩ literal.body levels w ∧
      PassesIn (fun m => invokeScript m ⟨0⟩ literal ⟨0⟩ .undefined []) levels w
        (fun μ => μ.phrase = .expression (.name "inner")) fun _ => False) ∧
    (∃ body, parse source = .ok body ∧ DeclaresVar body "late" ∧
      KnownThroughout (fun m => evaluateSource m ⟨0⟩ source) ⟨0⟩ body levels w ∧
      PassesIn (fun m => evaluateSource m ⟨0⟩ source) levels w
        (fun μ => μ.phrase = .expression (.name "late")) fun _ => False) ∧
    (∃ binding, w.heap.ownBinding? ⟨0⟩ "kept" = some binding ∧ binding.value = .text "v" ∧
      ((enterBody ⟨0⟩ entered).after w).heap.ownBinding? ⟨0⟩ "kept" = some binding) ∧
      ∃ f, ((enterBody ⟨0⟩ entered).after w).heap.ownBinding? ⟨0⟩ "f" = some ⟨.function f, true⟩ := by
  intro w source literal entered
  have hw : w.Standing := World.standing_first _ _
  obtain ⟨hcalls, hprograms, hentering⟩ := var_names_known
  refine ⟨hw, ⟨by decide +kernel, hcalls levels ⟨0⟩ literal ⟨0⟩ .undefined [] w hw (by decide +kernel),
    ?_⟩, ?_, ?_, ?_⟩
  · refine passesIn_of_size (detourAt "inner") (fun μ hμ => detourAt_of_ne hμ) ?_
    decide +kernel
  · have hnames : (parse source).toOption.any (fun body => "late" ∈ bodyVarNames body) = true := by
      decide +kernel
    cases hparse : parse source with
    | error e => simp [hparse, Except.toOption] at hnames
    | ok body =>
        rw [hparse] at hnames
        refine ⟨body, rfl, declaresVar_iff.mpr (by simpa [Except.toOption] using hnames),
          hprograms levels ⟨0⟩ source body w hparse hw, ?_⟩
        refine passesIn_of_size (detourAt "late") (fun μ hμ => detourAt_of_ne hμ) ?_
        decide +kernel
  · have hvalue : (w.heap.ownBinding? ⟨0⟩ "kept").map (·.value) = some (.text "v") := by decide +kernel
    obtain ⟨binding, hbound, hvalue⟩ := Option.map_eq_some_iff.mp hvalue
    exact ⟨binding, hbound, hvalue,
      (hentering ⟨0⟩ entered "kept" w).1 binding hbound (by decide +kernel)⟩
  · obtain ⟨f, -, -, -, hbound, -⟩ :=
      (hentering ⟨0⟩ entered "f" w).2 (by decide +kernel) (by decide +kernel)
    exact ⟨f, hbound⟩

/-! ## Declarations of functions -/

lemma Course.findsDeclared {α : Type} {run : Machine → Run α} {frame : ScopeRef}
    {body : List Statement} {n : Nat} {w : World} (h : Course run frame body n w) :
    ¬ PassesIn run n w (fun μ => ¬ μ.FindsDeclared body) fun _ => False :=
  fun hpasses => h.passes (hpasses.mono (fun _ hμ hin => hμ hin.declared) fun _ => False.elim)

/-- A name that a scope binds is known from then on. -/
lemma Regime.same_of_binds {μ : Moment} {name : String} (hbinds : μ.Binds name) {n : Nat}
    {detour : Detour}
    (hspares : ∀ μ' : Moment, (μ'.world.heap.Within μ.scope μ'.scope → μ'.Knows name) →
      detour μ' = .none) :
    (watchedMachine detour n).Same (machine n) μ.world
      (fun scope => scope.index < μ.world.heap.scopes.size)
      fun w' => (w'.heap.ownBinding? μ.scope name).isSome := by
  let R := bound μ.scope [name]
  have hpermitted : R.Spares detour := by
    refine fun μ' hμ' => hspares μ' fun hwithin => Moment.knows_of_finds ?_
    exact Heap.finds_of_within hμ'.sound.1.layered hwithin (hμ'.sound.2 name List.mem_cons_self)
  have hsound : R.Sound μ.world := ⟨hbinds.standing, List.forall_mem_singleton.mpr hbinds.bound⟩
  have hsame := (watchedMachine_related (bound_whole μ.scope [name]) (bound_lenient μ.scope [name])
    hpermitted n).same (fun _ => ⟨trivial, trivial⟩) (fun _ _ _ => ⟨trivial, trivial⟩) hsound
  exact hsame.imp (fun _ hmade => ⟨hmade, trivial⟩) fun _ hsound => hsound.2 name List.mem_cons_self

/-- **Declarations of functions that are reached.**  In every call of a function and every run of a
program, a declaration of a function that the run reaches finds its name bound in the scope that it is
reached in, and known there, unless it stands alone, as a branch or as the body of a loop.  A name that a
scope binds is known from then on wherever inside that scope something runs, and stays bound. -/
theorem declarations_find_bound (n : Nat) (i : InterpreterRef) (w : World) (hw : w.Standing) :
    (∀ (literal : FunctionLiteral) (scope : ScopeRef) (receiver : Value) (arguments : List Value),
      scope.index < w.heap.scopes.size →
      ¬ PassesIn (fun m => invokeScript m i literal scope receiver arguments) n w
        (fun μ => ¬ μ.FindsDeclared literal.body) fun _ => False) ∧
    (∀ (source : String) (body : List Statement), parse source = .ok body →
      ¬ PassesIn (fun m => evaluateSource m i source) n w
        (fun μ => ¬ μ.FindsDeclared body) fun _ => False) ∧
    ∀ (μ : Moment) (name : String), μ.Binds name → ∀ detour : Detour,
      (∀ μ' : Moment, (μ'.world.heap.Within μ.scope μ'.scope → μ'.Knows name) → detour μ' = .none) →
      (watchedMachine detour n).Same (machine n) μ.world
        (fun scope => scope.index < μ.world.heap.scopes.size)
        fun w' => (w'.heap.ownBinding? μ.scope name).isSome := by
  refine ⟨fun literal scope receiver arguments hscope => ?_, fun source body hparse => ?_,
    fun μ name hbinds detour hspares => ?_⟩
  · exact (invokeScript_course n i literal receiver arguments hw hscope).findsDeclared
  · exact (evaluateSource_course n i hparse hw).findsDeclared
  · exact Regime.same_of_binds hbinds fun μ' hknows => hspares μ' hknows

/-- Sends a run away from where a function is declared. -/
def detourAtDeclarations : Detour := fun μ =>
  match μ.phrase with
  | .statement (.function _) => some World.empty
  | _ => .none

lemma detourAtDeclarations_of_ne {μ : Moment} (hμ : ¬ ∃ literal, μ.phrase = .statement (.function literal)) :
    detourAtDeclarations μ = .none := by
  unfold detourAtDeclarations
  split
  · next literal hphrase => exact (hμ ⟨literal, hphrase⟩).elim
  · rfl

/-- A program with a declaration in its list of statements, which its own code finds bound, and one that
stands alone, whose name is not bound when it is used later; a function with a declaration in a block;
and a name that is bound. -/
theorem declarations_find_bound_beside_bare :
    let w : World := (newInterpreter [("seen", .null)] 5).after World.empty
    let source := "function f() {} if (f) function g() {} try { g(); } catch (e) { seen = e.name; }"
    let literal : FunctionLiteral := ⟨none, [], [.block [.function ⟨some "inner", [], []⟩]]⟩
    let μ : Moment := ⟨w, ⟨0⟩, .expression (.name "seen")⟩
    let declares (μ : Moment) : Prop := ∃ literal, μ.phrase = .statement (.function literal)
    w.Standing ∧
    (¬ PassesIn (fun m => invokeScript m ⟨0⟩ literal ⟨0⟩ .undefined []) levels w
        (fun μ => ¬ μ.FindsDeclared literal.body) (fun _ => False) ∧
      PassesIn (fun m => invokeScript m ⟨0⟩ literal ⟨0⟩ .undefined []) levels w declares
        fun _ => False) ∧
    (∃ body, parse source = .ok body ∧
      ¬ PassesIn (fun m => evaluateSource m ⟨0⟩ source) levels w (fun μ => ¬ μ.FindsDeclared body)
        (fun _ => False) ∧
      PassesIn (fun m => evaluateSource m ⟨0⟩ source) levels w declares fun _ => False) ∧
    ((evaluateSource (machine levels) ⟨0⟩ source).after w).heap.lookup ⟨0⟩ "seen"
      = some (.text "ReferenceError") ∧
    μ.Binds "seen" ∧ (watchedMachine .none levels).Same (machine levels) w
      (fun scope => scope.index < w.heap.scopes.size)
      fun w' => (w'.heap.ownBinding? ⟨0⟩ "seen").isSome := by
  intro w source literal μ declares
  have hw : w.Standing := World.standing_first _ _
  obtain ⟨hcalls, hprograms, hlater⟩ := declarations_find_bound levels ⟨0⟩ w hw
  have hbound : (μ.world.heap.ownBinding? μ.scope "seen").isSome := by decide +kernel
  have hbinds : μ.Binds "seen" :=
    ⟨hw, hbound, Moment.knows_of_finds (Heap.finds_of_within hw.layered .here hbound)⟩
  refine ⟨hw, ⟨hcalls literal ⟨0⟩ .undefined [] (by decide +kernel), ?_⟩, ?_,
    by decide +kernel, hbinds, hlater μ "seen" hbinds .none fun _ _ => rfl⟩
  · refine passesIn_of_size detourAtDeclarations (fun μ => detourAtDeclarations_of_ne) ?_
    decide +kernel
  · have haccepted : (parse source).toOption.isSome = true := by decide +kernel
    cases hparse : parse source with
    | error e => simp [hparse, Except.toOption] at haccepted
    | ok body =>
        refine ⟨body, rfl, hprograms source body hparse, ?_⟩
        refine passesIn_of_size detourAtDeclarations (fun μ => detourAtDeclarations_of_ne) ?_
        decide +kernel

end ModuleRunner.Evaluation
