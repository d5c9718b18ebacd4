import ModuleRunner.Proofs.Session.Standing

/-!
# Functions that see themselves

A function that is made of a literal with a name closes over a scope of its own, which binds that name to
the function and nothing else.  A method of an object literal is such a function, since the parser names
it after its key; the same method behind a colon has no name, and closes over the scope of the literal
itself.  Between the two, names are found alike, all but the key: nothing ever runs in the scope that the
named function has for its name, so it stays as it was made.

* `Heap.NamesSelf` — a scope that binds a function's own name and nothing else.
* `Heap.ResolvesAround` — how names are found from there.
* `Regime.naming` — it stays so, whatever runs.
* `methods_resolve_around` — methods beside functions without a name.
-/

namespace ModuleRunner

open Evaluation Script Run

/-! ## A scope for a name -/

namespace Script.Heap

/-- A scope inside another one that binds a name to a function, for good, and nothing else. -/
structure NamesSelf (heap : Heap) (own scope : ScopeRef) (key : String) (f : FunctionRef) : Prop where
  parent : (heap.scopeAt own).parent = some scope
  self : heap.ownBinding? own key = some ⟨.function f, false⟩
  only : ∀ name, name ≠ key → heap.ownBinding? own name = none

/-- A name is read and assigned from one scope as from another. -/
structure ResolvesAs (heap : Heap) (name : String) (s scope : ScopeRef) : Prop where
  read : heap.lookup s name = heap.lookup scope name
  assign : ∀ v, heap.assign s name v = heap.assign scope name v

/-- Names that are not bound before the walk comes to the scope of a function's name are found as from
the scope around it, and so are they if the walk comes there at once; the function's own name is the
function, for good. -/
structure ResolvesAround (heap : Heap) (own scope : ScopeRef) (key : String) (f : FunctionRef) :
    Prop where
  named : ∀ s name, heap.Clear name own s → name ≠ key → heap.ResolvesAs name s scope
  plain : ∀ s name, heap.Clear name scope s → heap.ResolvesAs name s scope
  self : ∀ s, heap.Clear key own s →
    heap.lookup s key = some (.function f) ∧ ∀ v, heap.assign s key v = (.constant, heap)

namespace NamesSelf

variable {heap heap' : Heap} {own scope : ScopeRef} {key : String} {f : FunctionRef}

lemma made (h : heap.NamesSelf own scope key f) : own.index < heap.scopes.size := lt_of_parent h.parent

/-- A scope that is left alone. -/
lemma of_scopeAt (h : heap.NamesSelf own scope key f) (hsame : heap'.scopeAt own = heap.scopeAt own) :
    heap'.NamesSelf own scope key f := by
  refine ⟨by rw [hsame, h.parent], ?_, fun name hname => ?_⟩
  · rw [ownBinding?, hsame]
    exact h.self
  · rw [ownBinding?, hsame]
    exact h.only name hname

lemma steady (h : heap.NamesSelf own scope key f) (hsteady : heap.Steady heap') :
    heap'.NamesSelf own scope key f := by
  refine ⟨by rw [hsteady.parent, h.parent], hsteady.constants _ _ _ h.self, fun name hname => ?_⟩
  have hbinds := hsteady.binds own name
  rw [h.only name hname] at hbinds
  exact Option.isSome_eq_false_iff.mp hbinds |> Option.isNone_iff_eq_none.mp

lemma newScope (h : heap.NamesSelf own scope key f) (parent : Option ScopeRef) :
    (heap.newScope parent).2.NamesSelf own scope key f :=
  h.of_scopeAt (scopeAt_newScope_of_lt _ _ h.made)

lemma declare (h : heap.NamesSelf own scope key f) {other : ScopeRef} (hother : other ≠ own)
    (name : String) (v : Value) (isMutable : Bool) :
    (heap.declare other name v isMutable).NamesSelf own scope key f :=
  h.of_scopeAt (scopeAt_declare_of_ne _ _ _ _ _ hother.symm)

lemma declareTable (h : heap.NamesSelf own scope key f) {other : ScopeRef} (hother : other ≠ own)
    (entries : Table Value) : (heap.declareTable other entries).NamesSelf own scope key f :=
  h.of_scopeAt (scopeAt_declareTable_of_ne _ _ hother.symm)

/-- How names are found from a scope that binds a function's own name only. -/
theorem resolvesAround (h : heap.NamesSelf own scope key f) (hlayered : heap.Layered) :
    heap.ResolvesAround own scope key f := by
  have resolves {s : ScopeRef} {name : String} (hclear : heap.Clear name scope s) :
      heap.ResolvesAs name s scope :=
    ⟨lookup_congr (holder?_of_clear hlayered hclear), assign_congr (holder?_of_clear hlayered hclear)⟩
  refine ⟨fun s name hclear hname => ?_, fun s name => resolves, fun s hclear => ?_⟩
  · exact resolves (hclear.trans (.outward (h.only name hname) h.parent .here))
  · have hholder : heap.holder? s key = some own := by
      rw [holder?_of_clear hlayered hclear, holder?_eq hlayered, h.self]
      rfl
    refine ⟨?_, fun v => ?_⟩
    · rw [lookup, hholder, Option.bind_some, h.self]
      rfl
    · rw [assign, hholder]
      dsimp only
      rw [h.self]

end NamesSelf

end Script.Heap

/-! ## Whatever runs -/

namespace Evaluation

/-- A scope for a function's name, that is nobody's global scope. -/
structure World.NamesSelf (w : World) (own scope : ScopeRef) (key : String) (f : FunctionRef) : Prop where
  heap : w.heap.NamesSelf own scope key f
  globals : ∀ i, (w.interpreter i).globals ≠ own

/-- Nothing runs in the scope of a function's name. -/
def Regime.naming (own scope : ScopeRef) (key : String) (f : FunctionRef) : Regime where
  Sound w := w.NamesSelf own scope key f
  Place _ s := s ≠ own
  Around _ _ := True
  Code _ := True
  Ready _ _ _ := True
  around _ := trivial
  place_grows _ := id
  around_grows _ := id
  ready_grows _ := id
  leading _ _ _ := trivial
  other _ _ _ := trivial
  alone _ _ _ _ _ := trivial
  hoisted _ _ _ _ _ _ := trivial
  calm h hcalm := ⟨h.heap.steady hcalm.heap, fun i => by rw [hcalm.globals]; exact h.globals i⟩
  newScope h _ := ⟨h.heap.newScope _, h.globals⟩
  place_newScope h _ := fun heq => (heq ▸ h.heap.made).false
  newClosure _ h _ _ := ⟨h.heap.of_scopeAt rfl, h.globals⟩
  declare name v isMutable h hs _ := ⟨h.heap.declare hs name v isMutable, h.globals⟩

lemma Regime.naming_whole (own scope : ScopeRef) (key : String) (f : FunctionRef) :
    (naming own scope key f).Whole where
  frame h _ := fun heq => (heq ▸ h.heap.made).false
  globals h := h.globals
  closures _ _ := ⟨trivial, fun _ _ => trivial⟩
  parsed _ _ _ := trivial

lemma Regime.naming_lenient (own scope : ScopeRef) (key : String) (f : FunctionRef) :
    (naming own scope key f).Lenient :=
  fun _ _ => trivial

/-- A function that is made of a literal with a name, and the scope that it has for it. -/
def World.withNamed (w : World) (scope : ScopeRef) (key : String) (parameters : List String)
    (body : List Statement) : World :=
  let own := w.heap.newScope (some scope)
  let made := own.2.newFunction ⟨key, .script ⟨some key, parameters, body⟩ own.1, []⟩
  { w with heap := made.2.declare own.1 key (.function made.1) false }

/-- A function that is made of a literal without a name. -/
def World.withPlain (w : World) (scope : ScopeRef) (parameters : List String)
    (body : List Statement) : World :=
  { w with heap := (w.heap.newFunction ⟨"", .script ⟨none, parameters, body⟩ scope, []⟩).2 }

section Made

variable {w : World} {scope : ScopeRef} {key : String} {parameters : List String}
  {body : List Statement}

lemma World.Standing.withNamed (hw : w.Standing) (hscope : scope.index < w.heap.scopes.size) :
    (w.withNamed scope key parameters body).Standing := by
  have hmade := Regime.standing.place_newScope hw hscope
  exact ((hw.newScope hscope).newClosure key ⟨some key, parameters, body⟩ hmade).declare
    ⟨w.heap.scopes.size⟩ key (.function ⟨w.heap.functions.size⟩) false

lemma World.Standing.namesSelf (hw : w.Standing) :
    (w.withNamed scope key parameters body).NamesSelf ⟨w.heap.scopes.size⟩ scope key
      ⟨w.heap.functions.size⟩ := by
  let own : ScopeRef := ⟨w.heap.scopes.size⟩
  let around := (w.heap.newScope (some scope)).2
  have hnew : around.scopeAt own = ⟨[], some scope⟩ := Heap.scopeAt_newScope_self _ _
  have hmade : own.index < around.scopes.size := by
    rw [Heap.size_newScope]
    exact Nat.lt_succ_self _
  refine ⟨⟨?_, Heap.ownBinding?_declare_self _ _ _ _ _ hmade, fun name hname => ?_⟩, fun i heq => ?_⟩
  · exact (Heap.parent_declare ..).trans (congrArg ScopeCell.parent hnew)
  · refine (Heap.ownBinding?_declare_of_ne _ _ _ _ _ (.inr hname)).trans ?_
    exact congrArg (fun cell => cell.bindings.get? name) hnew
  · have hglobal := hw.globals i
    have heq : (w.interpreter i).globals = own := heq
    rw [heq] at hglobal
    exact hglobal.false

end Made

/-- One more interpreter has a global scope of its own. -/
lemma World.NamesSelf.newInterpreter {w : World} {own scope : ScopeRef} {key : String} {f : FunctionRef}
    (h : w.NamesSelf own scope key f) (granted : Table Value) (maxDepth : Nat) :
    ((newInterpreter granted maxDepth).after w).NamesSelf own scope key f := by
  have hnew : (⟨w.heap.scopes.size⟩ : ScopeRef) ≠ own := fun heq => (heq ▸ h.heap.made).false
  refine ⟨?_, fun i => ?_⟩
  · rw [after_of_ok (newInterpreter_eq granted maxDepth w)]
    exact (h.heap.newScope none).declareTable hnew granted
  · rw [globals_newInterpreter]
    split
    · exact hnew
    · exact h.globals i

/-- All scopes are there, and the one for a function's name is as it was made. -/
def World.Names (own scope : ScopeRef) (key : String) (f : FunctionRef) (w : World) : Prop :=
  w.Standing ∧ w.NamesSelf own scope key f

/-- Whatever runs from a world in which the scope of a function's name is as it was made, names are
found around it, at all moments and in the end. -/
theorem World.Names.same {own scope : ScopeRef} {key : String} {f : FunctionRef} {w : World}
    (hw : w.Names own scope key f) {n : Nat} {detour : Detour}
    (hspares : ∀ μ : Moment, μ.world.heap.ResolvesAround own scope key f → detour μ = .none) :
    (watchedMachine detour n).Same (machine n) w
      (fun s => s.index < w.heap.scopes.size ∧ s ≠ own)
      fun w' => w'.heap.ResolvesAround own scope key f := by
  let R := Regime.standing.meet (.naming own scope key f)
  have hpermitted : R.Spares detour := fun μ hμ =>
    hspares μ (hμ.sound.2.heap.resolvesAround hμ.sound.1.layered)
  have hsame := (Regime.watchedMachine_related
    (Regime.standing_whole.meet (Regime.naming_whole own scope key f))
    (Regime.standing_lenient.meet (Regime.naming_lenient own scope key f)) hpermitted n).same
    (fun _ => ⟨trivial, trivial⟩) (fun _ _ _ => ⟨trivial, trivial⟩) hw
  exact hsame.imp (fun _ => id) fun _ hsound => hsound.2.heap.resolvesAround hsound.1.layered

end Evaluation

/-- Whatever the host does from such a world on, names are found around the scope of the function's name. -/
theorem performAll_names {own scope : ScopeRef} {key : String} {f : FunctionRef} {w : World}
    (hw : w.Names own scope key f) {acts : List HostAct}
    (hacts : ∀ act ∈ acts, act.Respects (World.Names own scope key f)) :
    ((performAll acts).after w).heap.ResolvesAround own scope key f ∧
      ¬ Passes acts w fun μ => ¬ μ.world.heap.ResolvesAround own scope key f := by
  let R := Regime.standing.meet (.naming own scope key f)
  have hwhole : R.Whole := Regime.standing_whole.meet (Regime.naming_whole own scope key f)
  have hfree : R.Lenient := Regime.standing_lenient.meet (Regime.naming_lenient own scope key f)
  obtain ⟨hsound, hpasses⟩ := Regime.performAll_permitted hwhole hfree
    (fun act hact => HostAct.Respects.keeps (R := R) (hacts act hact) fun granted maxDepth w hw =>
      ⟨hw.1.newInterpreter granted maxDepth, hw.2.newInterpreter granted maxDepth⟩) hw
  refine ⟨hsound.2.heap.resolvesAround hsound.1.layered, ?_⟩
  rintro ⟨detour, hspares, hdiffers⟩
  refine hpasses ⟨detour, fun μ hμ => hspares μ (not_not_intro ?_), hdiffers⟩
  have hpermits := not_not.mp hμ
  exact hpermits.sound.2.heap.resolvesAround hpermits.sound.1.layered

/-! ## Methods -/

namespace Script.Parser

variable (deeper : Level)

/-- The rest of a function is read alike, whatever the function is named. -/
lemma functionRest_named (name : Option String) :
    functionRest deeper name = do
      let literal ← functionRest deeper none
      return { literal with name := name } := by
  simp only [functionRest, bind_assoc]
  refine bind_congr fun _ => bind_congr fun closed => ?_
  cases closed <;> simp

/-- A property of an object literal with parentheses behind its key is a function named after the key;
its parameters and its body are read as those of a function without a name. -/
lemma property_method {tokens : Array Token} {c c' : Cursor} {key : String}
    (hkey : expectProperty tokens c = .ok (key, c'))
    (hparen : (tokens.getD c'.taken nowhere).kind = .mark .leftParen) :
    property deeper tokens c = (do
      let literal ← functionRest deeper none
      return (key, .function { literal with name := some key }) : Parser (String × Expression)) tokens c' := by
  have hstep {α β : Type} {x : Parser α} {f : α → Parser β} {c c' : Cursor} {a : α}
      (h : x tokens c = .ok (a, c')) : (x >>= f) tokens c = f a tokens c' := by
    simp only [bind, ReaderT.bind, StateT.bind, Except.bind, h]
  have hsees (m : Mark) : sees m tokens c' = .ok (decide (Kind.mark .leftParen = .mark m), c') := by
    rw [← hparen]
    rfl
  have hcolon : accept .colon tokens c' = .ok (false, c') := hstep (hsees .colon)
  rw [property, hstep hkey, hstep hcolon, if_neg Bool.false_ne_true, hstep (hsees .leftParen),
    if_pos (decide_eq_true rfl), functionRest_named, bind_assoc]
  simp only [pure_bind]

end Script.Parser

/-- **Methods beside functions without a name.**  A method of an object literal in shorthand is a function
named after its key, whose parameters and body are read like those of a function without a name.  Made in
any scope, the method closes over a new scope inside that one, and the function without a name closes over
the scope itself.  From then on, whatever is evaluated, executed, called or loaded and whatever the host
does, names that are free in the method are read and assigned as they are around the literal, just as in
the function without a name, all but the key: in the method that is the method itself, for good. -/
theorem methods_resolve_around (w : World) (hw : w.Standing) (scope : ScopeRef)
    (hscope : scope.index < w.heap.scopes.size) (key : String) (parameters : List String)
    (body : List Statement) :
    (∀ (deeper : Level) (tokens : Array Token) (c c' : Cursor),
      expectProperty tokens c = .ok (key, c') →
      (tokens.getD c'.taken nowhere).kind = .mark .leftParen →
      property deeper tokens c = (do
        let literal ← functionRest deeper none
        return (key, .function { literal with name := some key }) :
          Parser (String × Expression)) tokens c') ∧
    ∃ named plain : World,
      let own : ScopeRef := ⟨w.heap.scopes.size⟩
      let f : FunctionRef := ⟨w.heap.functions.size⟩
      (∀ m i, evaluateStep m i scope (.function ⟨some key, parameters, body⟩) w
        = .ok (.function f) named) ∧
      (∀ m i, evaluateStep m i scope (.function ⟨none, parameters, body⟩) w
        = .ok (.function f) plain) ∧
      (named.heap.functionAt f).code = .script ⟨some key, parameters, body⟩ own ∧
      (plain.heap.functionAt f).code = .script ⟨none, parameters, body⟩ scope ∧
      named.heap.ResolvesAround own scope key f ∧
      (∀ (n : Nat) (detour : Detour),
        (∀ μ : Moment, μ.world.heap.ResolvesAround own scope key f → detour μ = .none) →
        (watchedMachine detour n).Same (machine n) named
          (fun s => s.index < named.heap.scopes.size ∧ s ≠ own)
          fun w' => w'.heap.ResolvesAround own scope key f) ∧
      ∀ acts : List HostAct, (∀ act ∈ acts, act.Respects (World.Names own scope key f)) →
        ((performAll acts).after named).heap.ResolvesAround own scope key f ∧
          ¬ Passes acts named fun μ => ¬ μ.world.heap.ResolvesAround own scope key f := by
  have hnames : World.Names ⟨w.heap.scopes.size⟩ scope key ⟨w.heap.functions.size⟩
      (w.withNamed scope key parameters body) := ⟨hw.withNamed hscope, hw.namesSelf⟩
  refine ⟨fun deeper tokens c c' => Parser.property_method deeper,
    w.withNamed scope key parameters body, w.withPlain scope parameters body,
    fun m i => rfl, fun m i => rfl, ?_, ?_, ?_, fun n detour hspares => ?_, fun acts hacts => ?_⟩
  · exact congrArg FunctionCell.code (Heap.functionAt_newFunction_self _ _)
  · exact congrArg FunctionCell.code (Heap.functionAt_newFunction_self _ _)
  · exact hnames.2.heap.resolvesAround hnames.1.layered
  · exact hnames.same hspares
  · exact performAll_names hnames hacts

/-- A method whose key is bound around the literal, to something else; a name that is assigned later; and
a session that calls the method and the same function behind a colon. -/
theorem methods_resolve_around_shadowed :
    let w : World := (newInterpreter [("f", .text "x"), ("g", .text "y")] 5).after World.empty
    let body : List Statement := [.returnValue (some (.name "f"))]
    let ts : Array Token := #[⟨.name "f", ⟨0, 1, 1, 1⟩, false⟩, ⟨.mark .leftParen, ⟨1, 2, 1, 2⟩, false⟩,
      ⟨.mark .rightParen, ⟨2, 3, 1, 3⟩, false⟩, ⟨.mark .leftBrace, ⟨3, 4, 1, 4⟩, false⟩,
      ⟨.mark .rightBrace, ⟨4, 5, 1, 5⟩, false⟩]
    let acts : List HostAct := [.evaluate ⟨0⟩ "g = 'z';"]
    let source := "var o = { f() { return f; }, h: function() { return f; } }, a = o.f(), b = o.h();"
    let session : List HostAct := [.interpret [("f", .text "x")] 5, .evaluate ⟨0⟩ source]
    w.Standing ∧
    property (level 1) ts ⟨0, 0⟩ = (do
      let literal ← functionRest (level 1) none
      return ("f", .function { literal with name := some "f" }) :
        Parser (String × Expression)) ts ⟨1, 0⟩ ∧
    (∃ named : World,
      (∀ m i, evaluateStep m i ⟨0⟩ (.function ⟨some "f", [], body⟩) w = .ok (.function ⟨0⟩) named) ∧
      (watchedMachine .none levels).Same (machine levels) named
        (fun s => s.index < named.heap.scopes.size ∧ s ≠ ⟨1⟩)
        (fun w' => w'.heap.ResolvesAround ⟨1⟩ ⟨0⟩ "f" ⟨0⟩) ∧
      ((performAll acts).after named).heap.ResolvesAround ⟨1⟩ ⟨0⟩ "f" ⟨0⟩ ∧
      ((performAll acts).after named).heap.lookup ⟨1⟩ "g" = some (.text "z") ∧
      ((performAll acts).after named).heap.lookup ⟨1⟩ "f" = some (.function ⟨0⟩) ∧
      ((performAll acts).after named).heap.lookup ⟨0⟩ "f" = some (.text "x")) ∧
    ((performAll session).after World.empty).heap.lookup ⟨0⟩ "a" = some (.function ⟨0⟩) ∧
      ((performAll session).after World.empty).heap.lookup ⟨0⟩ "b" = some (.text "x") := by
  intro w body ts acts source session
  have hw : w.Standing := World.standing_first _ _
  have hacts : ∀ act ∈ acts, act.Respects (World.Names ⟨1⟩ ⟨0⟩ "f" ⟨0⟩) := by
    intro act hmem
    rw [List.mem_singleton.mp hmem]
    trivial
  obtain ⟨hread, named, plain, hnamed, -, -, -, -, hruns, hsessions⟩ :=
    methods_resolve_around w hw ⟨0⟩ (by decide +kernel) "f" [] body
  have hmade : named = w.withNamed ⟨0⟩ "f" [] body := by
    have hboth := (hnamed Machine.spent ⟨0⟩).symm.trans
      (rfl : _ = EStateM.Result.ok (Value.function ⟨0⟩) (w.withNamed ⟨0⟩ "f" [] body))
    injection hboth
  have haround := (hsessions acts hacts).1
  refine ⟨hw, hread (level 1) ts ⟨0, 0⟩ ⟨1, 0⟩ (by rfl) (by rfl),
    ⟨named, hnamed, hruns levels .none fun _ _ => rfl, haround, ?_, ?_, ?_⟩, ?_⟩
  · rw [(haround.named ⟨1⟩ "g" .here (by decide)).read, hmade]
    decide +kernel
  · exact (haround.self ⟨1⟩ .here).1
  · rw [hmade]
    decide +kernel
  · decide +kernel

end ModuleRunner
