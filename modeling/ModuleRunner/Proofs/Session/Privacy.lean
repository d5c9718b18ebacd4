import ModuleRunner.Proofs.Loading.Privacy
import ModuleRunner.Proofs.Session.Act

/-!
# Sessions whose modules keep to themselves

The host begins a session with an interpreter of its own, whose global scope binds what is granted and
nothing else, and has modules loaded and functions called.  However the functions of the modules call
each other meanwhile, the code of each runs in scopes of its own, and finds no names but its own and
the granted ones.

* `HostAct.watched`, `watchAll` — sessions, watched.
* `Passes` — whether a session passes one of some moments.
* `Opening`, `Opening.Sourceless` — where a session begins, and that nothing in it evaluates sources.
* `Opening.homed` — a session begins with homes.
* `modules_keep_private` — all sessions.
-/

namespace ModuleRunner

open Evaluation ModuleRunner.Module Script Run

/-! ## Watched sessions -/

/-- What calling a function that a module exports does, watched. -/
def Session.watchedEntryPoint (detour : Detour) (id function : String) (argument : Value) :
    Run Value := do
  let exports ← loadStep (watchedMachine detour levels) id ""
  let entryPoint ← readHeap (·.get exports function)
  if !entryPoint.isCallable then fail (.load (.entryPoint id function))
  callStep (watchedMachine detour levels) (← get).host entryPoint exports [argument]

/-- What an act does, watched. -/
def HostAct.watched (detour : Detour) : HostAct → Run Unit
  | load request base => do let _ ← loadStep (watchedMachine detour levels) request base
  | enter id function argument => do
    let _ ← Session.watchedEntryPoint detour id function argument
  | call i function receiver arguments => do
    let _ ← callStep (watchedMachine detour levels) i function receiver arguments
  | evaluate i source => do let _ ← evaluateSource (watchedMachine detour levels) i source
  | act => act.perform

/-- A session, watched. -/
def watchAll (detour : Detour) : List HostAct → Run Unit
  | [] => return ()
  | act :: rest => do
    let _ ← capture (act.watched detour)
    watchAll detour rest

lemma HostAct.watched_none (act : HostAct) : act.watched .none = act.perform := by
  cases act with
  | load => rw [watched, watchedMachine_none]; rfl
  | enter => rw [watched, Session.watchedEntryPoint, watchedMachine_none]; rfl
  | call => rw [watched, watchedMachine_none]; rfl
  | evaluate => rw [watched, watchedMachine_none]; rfl
  | interpret => rfl
  | handle => rfl
  | register => rfl
  | registerNative => rfl

/-- Watching alone changes nothing. -/
theorem watchAll_none (acts : List HostAct) : watchAll .none acts = performAll acts := by
  induction acts with
  | nil => rfl
  | cons act rest ih => rw [watchAll, performAll, act.watched_none, ih]

/-- A session passes one of some moments, if it makes a difference to be sent on a detour there. -/
def Passes (acts : List HostAct) (w : World) (there : Moment → Prop) : Prop :=
  ∃ detour : Detour, (∀ μ, ¬ there μ → detour μ = .none) ∧ watchAll detour acts w ≠ performAll acts w

/-! ## Acts -/

/-- An act that evaluates no source text, makes no global scope, and leaves the scopes and the code of
the heap as they are. -/
def HostAct.KeepsScopes : HostAct → Prop
  | evaluate .. | interpret .. => False
  | handle change => ∀ heap : Heap, heap.Alike (change heap)
  | _ => True

section Acts

variable {G : Grounds} {τ : Stage G}

/-- Functions that modules export are called like all others. -/
lemma Evaluation.Settles.entryPoint (id function : String) {argument : Value}
    (hargument : G.realm.value argument) :
    Settles τ (fun _ => G.realm.value) fun detour =>
      Session.watchedEntryPoint detour id function argument := by
  have hm := watchedMachine_settled G levels
  refine (hm.loadStep id "").bind fun _ _ exports hexports => ?_
  refine (Settles.calm (G.contract.readHeap fun _ hheap => hheap.get function hexports)
    (calm_readHeap _)).bind fun _ _ entryPoint hentry => ?_
  dsimp only
  refine .guarded trivial ((Settles.read fun w => w).bind fun _ _ w _ => ?_)
  refine hm.callStep w.host hentry hexports fun v hmem => ?_
  rw [List.mem_singleton.mp hmem]
  exact hargument

lemma HostAct.settles {act : HostAct} (hwithin : act.Within G.realm) (hkeeps : act.KeepsScopes) :
    Settles τ (fun _ _ => True) fun detour => act.watched detour := by
  have hm := watchedMachine_settled G levels
  cases act with
  | load request base => exact (hm.loadStep request base).bind fun _ _ _ _ => .pure trivial
  | enter id function argument =>
      exact (Settles.entryPoint id function hwithin).bind fun _ _ _ _ => .pure trivial
  | call i function receiver arguments =>
      exact (hm.callStep i hwithin.1 hwithin.2.1 hwithin.2.2).bind fun _ _ _ _ => .pure trivial
  | evaluate i source => exact hkeeps.elim
  | interpret globals maxDepth => exact hkeeps.elim
  | handle change =>
      have hinside : Confined G.realm Unit (fun _ => True) (withHeap fun heap => ((), change heap)) :=
        G.contract.withHeap fun heap hheap => ⟨trivial, hwithin heap hheap⟩
      exact .alike hinside fun w => ⟨hkeeps w.heap, fun _ => rfl, rfl, rfl, List.suffix_rfl⟩
  | register id value =>
      exact (Settles.note (.supplied id)).bind fun _ _ _ _ =>
        Settles.modifyRegistry (·.register id value) fun _ hw => hw.register id hwithin
  | registerNative id provider =>
      refine Settles.bind (Q := fun _ _ => True) ?_ fun _ _ ref _ =>
        (Settles.note (.supplied id)).bind fun _ _ _ _ =>
          Settles.modifyRegistry (·.registerProvider id ref) fun _ hw => hw.registerProvider id ref
      exact Settles.books (fun w => ⟨.refl _, fun _ => rfl, rfl, rfl, List.suffix_rfl⟩)
        fun _ hw => ⟨trivial, hw.newProvider hwithin⟩

/-- A session settles, act by act. -/
theorem watchAll_settles {acts : List HostAct}
    (hacts : ∀ act ∈ acts, act.Within G.realm ∧ act.KeepsScopes) :
    Settles τ (fun _ _ => True) fun detour => watchAll detour acts := by
  induction acts generalizing τ with
  | nil => exact .pure trivial
  | cons act rest ih =>
      obtain ⟨hact, hrest⟩ := List.forall_mem_cons.mp hacts
      exact (HostAct.settles hact.1 hact.2).capture.bind fun _ _ _ _ => ih hrest

/-- A session from a world with homes: the world that it leaves has homes as well, and by these all
moments that it passes are private. -/
theorem performAll_homed {home : ScopeRef → Home} {w : World} (hw : Homed G home w)
    {acts : List HostAct} (hacts : ∀ act ∈ acts, act.Within G.realm ∧ act.KeepsScopes) :
    ∃ home', Homed G home' ((performAll acts).after w) ∧
      ¬ Passes acts w fun μ => ¬ μ.Private G home' := by
  obtain ⟨υ, result, -, hleaves, hsame⟩ := watchAll_settles (τ := ⟨home, w, hw⟩) hacts
  have hrun : performAll acts w = result := by
    rw [← watchAll_none]
    exact hsame .none fun _ _ _ => rfl
  have hworld : (performAll acts).after w = υ.world := by
    rw [after, hrun]
    cases hleaves <;> rfl
  refine ⟨υ.home, hworld ▸ υ.homed, ?_⟩
  rintro ⟨detour, hspares, hdiffers⟩
  refine hdiffers ?_
  rw [hrun]
  exact hsame detour fun μ _ hμ => hspares μ (not_not_intro hμ)

end Acts

/-! ## Where sessions begin -/

namespace Script.Heap

/-- Binds names in a scope, in order. -/
def declareTable (heap : Heap) (scope : ScopeRef) : Table Value → Heap
  | [] => heap
  | (name, v) :: rest => (heap.declare scope name v true).declareTable scope rest

variable {scope : ScopeRef}

@[simp] lemma size_declareTable (heap : Heap) (entries : Table Value) :
    (heap.declareTable scope entries).scopes.size = heap.scopes.size := by
  induction entries generalizing heap with
  | nil => rfl
  | cons entry rest ih => rw [declareTable, ih, size_declare]

@[simp] lemma parent_declareTable (heap : Heap) (entries : Table Value) (s : ScopeRef) :
    ((heap.declareTable scope entries).scopeAt s).parent = (heap.scopeAt s).parent := by
  induction entries generalizing heap with
  | nil => rfl
  | cons entry rest ih => rw [declareTable, ih, parent_declare]

@[simp] lemma functions_declareTable (heap : Heap) (entries : Table Value) :
    (heap.declareTable scope entries).functions = heap.functions := by
  induction entries generalizing heap with
  | nil => rfl
  | cons entry rest ih => exact ih _

@[simp] lemma functionAt_declareTable (heap : Heap) (entries : Table Value) (f : FunctionRef) :
    (heap.declareTable scope entries).functionAt f = heap.functionAt f := by
  rw [functionAt, functions_declareTable, functionAt]

/-- Other scopes are left alone. -/
lemma scopeAt_declareTable_of_ne (heap : Heap) (entries : Table Value) {s : ScopeRef}
    (h : s ≠ scope) : (heap.declareTable scope entries).scopeAt s = heap.scopeAt s := by
  induction entries generalizing heap with
  | nil => rfl
  | cons entry rest ih => rw [declareTable, ih, scopeAt_declare_of_ne _ _ _ _ _ h]

/-- The names of the table are bound, next to those that were. -/
lemma binds_declareTable (heap : Heap) (entries : Table Value) (h : scope.index < heap.scopes.size)
    (name : String) : ((heap.declareTable scope entries).ownBinding? scope name).isSome ↔
      (heap.ownBinding? scope name).isSome ∨ name ∈ entries.keys := by
  induction entries generalizing heap with
  | nil => simp [declareTable, Table.keys]
  | cons entry rest ih =>
      rw [declareTable, ih _ (by rwa [size_declare])]
      by_cases hname : name = entry.1
      · subst hname
        simp [ownBinding?_declare_self _ _ _ _ _ h, Table.keys]
      · rw [ownBinding?_declare_of_ne _ _ _ _ _ (.inr hname)]
        simp [Table.keys, hname]

lemma closed_declareTable {R : Realm} {heap : Heap} (h : R.Closed heap) {entries : Table Value}
    (hentries : R.table entries) : R.Closed (heap.declareTable scope entries) := by
  induction entries generalizing heap with
  | nil => exact h
  | cons entry rest ih =>
      obtain ⟨hfirst, hrest⟩ := List.forall_mem_cons.mp hentries
      exact ih (h.declare entry.1 true hfirst) hrest

end Script.Heap

/-- Making an interpreter, at once. -/
lemma newInterpreter_eq (granted : Table Value) (maxDepth : Nat) (w : World) :
    newInterpreter granted maxDepth w = .ok ⟨w.interpreters.size⟩ { w with
      heap := (w.heap.newScope none).2.declareTable ⟨w.heap.scopes.size⟩ granted
      interpreters := w.interpreters.push ⟨⟨w.heap.scopes.size⟩, 0, maxDepth, 0⟩ } := by
  have hloop (scope : ScopeRef) : ∀ (entries : Table Value) (w : World),
      (forIn entries PUnit.unit fun entry _ => do
        Run.declare scope entry.1 entry.2 true
        return ForInStep.yield PUnit.unit : Run PUnit) w
        = .ok PUnit.unit { w with heap := w.heap.declareTable scope entries } := by
    intro entries
    induction entries with
    | nil => intro w; rfl
    | cons entry rest ih =>
        intro w
        rw [List.forIn_cons]
        exact ih _
  have hmade := hloop ⟨w.heap.scopes.size⟩ granted { w with heap := (w.heap.newScope none).2 }
  exact bind_of_ok hmade

/-- The global scope of the new interpreter is new, and the others keep theirs. -/
lemma globals_newInterpreter (granted : Table Value) (maxDepth : Nat) (w : World) (i : InterpreterRef) :
    (((newInterpreter granted maxDepth).after w).interpreter i).globals =
      if i.index = w.interpreters.size then ⟨w.heap.scopes.size⟩ else (w.interpreter i).globals := by
  rw [after_of_ok (newInterpreter_eq granted maxDepth w)]
  show ((w.interpreters.push _).getD i.index default).globals = _
  rw [Array.getD_eq_getD_getElem?, Array.getElem?_push, World.interpreter,
    Array.getD_eq_getD_getElem?]
  split <;> rfl

/-- Where a session begins, and with what. -/
structure Opening where
  /-- The world before. -/
  world : World
  /-- What is granted. -/
  granted : Table Value
  /-- How deeply calls may nest. -/
  maxDepth : Nat
  /-- Where modules are. -/
  locate : String → Except LoadError (Option Resource)

namespace Opening

/-- The global scope of module code. -/
def globals (o : Opening) : ScopeRef := ⟨o.world.heap.scopes.size⟩

/-- The world that the session begins in. -/
def start (o : Opening) : World :=
  { o.world with
    heap := (o.world.heap.newScope none).2.declareTable o.globals o.granted
    interpreters := o.world.interpreters.push ⟨o.globals, 0, o.maxDepth, 0⟩
    locate := o.locate
    host := ⟨o.world.interpreters.size⟩
    isClosed := false }

/-- Every session with an interpreter of its own begins so. -/
theorem after_start (w : World) (granted : Table Value) (maxDepth : Nat) (locator : Locator)
    (entryFunction : String) (around : Surroundings) :
    (do
      let host ← newInterpreter granted maxDepth
      Setup.start ⟨locator, host, entryFunction⟩ around : Run Session).after w
      = start ⟨w, granted, maxDepth, locator.locate around.storage around.network⟩ := by
  rw [after_bind_of_ok (newInterpreter_eq _ _ _)]
  rfl

/-- Nothing that the session can reach evaluates source texts, and the functions and scopes there are
have the scopes that they need. -/
structure Sourceless (o : Opening) (R : Realm) : Prop where
  catches : R.catches
  native : ¬ R.native (.reflection .evaluate)
  encloses : R.Encloses o.world
  granted : R.table o.granted
  closures : ∀ f literal s, R.function f.index →
    (o.world.heap.functionAt f).code = .script literal s → s.index < o.world.heap.scopes.size
  parents : ∀ s parent, R.scope s.index → (o.world.heap.scopeAt s).parent = some parent →
    parent.index < o.world.heap.scopes.size

variable {o : Opening} {R : Realm}

/-- What such a session starts from. -/
def Sourceless.grounds (h : o.Sourceless R) : Grounds where
  realm := R
  catches := h.catches
  sourceless := h.native
  brought body := ∃ f literal s, R.function f.index ∧
    (o.world.heap.functionAt f).code = .script literal s ∧ literal.body = body
  globals := o.globals
  granted name := name ∈ o.granted.keys
  locate := o.locate

lemma Sourceless.encloses_start (h : o.Sourceless R) : R.Encloses o.start := by
  have hclosed : R.Closed (o.world.heap.newScope none).2 :=
    (h.encloses.heap.newScope (by rintro _ ⟨⟩)).2
  have hstate : R.Encloses { o.world with
      interpreters := o.world.interpreters.push ⟨o.globals, 0, o.maxDepth, 0⟩ } :=
    h.encloses.newInterpreter (h.encloses.heap.scopes.fresh _ le_rfl)
  rw [start]
  exact ⟨Heap.closed_declareTable hclosed h.granted, hstate.globals, hstate.values, hstate.records,
    hstate.providers, fun _ _ _ _ _ => .inl h.catches⟩

/-- The scopes that a session begins with stand in scopes that were there. -/
lemma Sourceless.parents_start (h : o.Sourceless R) {s parent : ScopeRef} (hs : R.scope s.index)
    (hparent : (o.start.heap.scopeAt s).parent = some parent) :
    parent.index < o.start.heap.scopes.size := by
  rw [start, Heap.parent_declareTable] at hparent
  rw [start, Heap.size_declareTable, Heap.size_newScope]
  have hmade := Heap.lt_of_parent hparent
  rw [Heap.size_newScope, Nat.lt_succ_iff_lt_or_eq] at hmade
  rcases hmade with hlt | heq
  · rw [Heap.scopeAt_newScope_of_lt _ _ hlt] at hparent
    exact (h.parents s parent hs hparent).trans (Nat.lt_succ_self _)
  · obtain rfl : s = (o.world.heap.newScope none).1 := congrArg ScopeRef.mk heq
    rw [Heap.scopeAt_newScope_self] at hparent
    cases hparent

/-- A session begins with the scopes that were there, at home with the host, and the global one. -/
theorem Sourceless.homed (h : o.Sourceless R) : Homed h.grounds (fun _ => .host) o.start where
  encloses := h.encloses_start
  locate := rfl
  globals := by
    have hlast : o.start.interpreter o.start.host = ⟨o.globals, 0, o.maxDepth, 0⟩ := by
      rw [start]
      simp [World.interpreter, Array.getD_eq_getD_getElem?]
    exact congrArg Interpreter.globals hlast
  made := by
    rw [start, Heap.size_declareTable, Heap.size_newScope]
    exact Nat.lt_succ_self _
  outermost := by
    rw [start, Heap.parent_declareTable]
    exact congrArg ScopeCell.parent (o.world.heap.scopeAt_newScope_self none)
  names name := by
    have hmade : o.globals.index < (o.world.heap.newScope none).2.scopes.size := by
      rw [Heap.size_newScope]
      exact Nat.lt_succ_self _
    have hnone : (o.world.heap.newScope none).2.ownBinding? o.globals name = none := by
      rw [Heap.ownBinding?]
      exact congrArg (fun cell : ScopeCell => cell.bindings.get? name)
        (o.world.heap.scopeAt_newScope_self none)
    rw [start]
    refine (Heap.binds_declareTable _ _ hmade name).trans ?_
    rw [hnone]
    exact or_iff_right Bool.false_ne_true
  around s parent hs hparent := ⟨h.parents_start hs hparent, .inr rfl⟩
  started _ _ _ _ := trivial
  closures f literal s hf hcode := by
    have hinside := (h.encloses_start.heap.functions.cell f.index hf).1
    have hscope : R.scope s.index := ((congrArg R.code hcode).mp hinside).2
    rw [start, Heap.functionAt_declareTable] at hcode
    refine ⟨.host, ⟨hscope, ?_, .inr rfl, trivial⟩, fun stmt hmem => ?_⟩
    · rw [start, Heap.size_declareTable, Heap.size_newScope]
      exact (h.closures f literal s hf hcode).trans (Nat.lt_succ_self _)
    · exact ⟨literal.body, ⟨f, literal, s, hf, hcode, rfl⟩, .statement hmem⟩

end Opening

/-! ## The theorem -/

/-- **Modules keep to themselves.**  Let a session begin with an interpreter of its own, and let
nothing that it can reach evaluate source texts.  Whatever the host has loaded and called then, the
global scope binds the granted names and no others, at the end and at each moment that the session
passes.  There are homes for all scopes that the session makes: a scope made in the global one is where
a module's body runs, a scope made elsewhere has the home of the scope around it, and so it is with
the scope that a function closes over.  And at each moment that the session passes, the phrase that
starts or ends is of the code of its scope's home, and every name leads to the global scope or to one
of the same home. -/
theorem modules_keep_private (o : Opening) (R : Realm) (h : o.Sourceless R) (acts : List HostAct)
    (hacts : ∀ act ∈ acts, act.Within R ∧ act.KeepsScopes) :
    (∀ name, (((performAll acts).after o.start).heap.ownBinding? o.globals name).isSome ↔
      name ∈ o.granted.keys) ∧
    ∃ home, Homed h.grounds home ((performAll acts).after o.start) ∧
      ¬ Passes acts o.start fun μ => ¬ μ.Private h.grounds home := by
  obtain ⟨home, hend, hpasses⟩ := performAll_homed (G := h.grounds) h.homed hacts
  exact ⟨hend.names, home, hend, hpasses⟩

/-- Sends a run away from where a name is read. -/
def detourAt (name : String) : Detour := fun μ =>
  match μ.phrase with
  | .expression (.name n) => if n = name then some World.empty else .none
  | _ => .none

lemma detourAt_of_ne {name : String} {μ : Moment} (hμ : μ.phrase ≠ .expression (.name name)) :
    detourAt name μ = .none := by
  unfold detourAt
  split
  · next n hphrase =>
      refine if_neg fun hn => hμ ?_
      rw [hphrase, hn]
  · rfl

/-- Two modules: what the first one declares is there for its own function, which the second one calls,
and not for the second one. -/
theorem modules_keep_private_beside_caller :
    let main := "var own = 'x'; exports.seen = require('ask').ask(function () { return own; });"
    let ask := "exports.ask = function (f) { return typeof own + f(); };"
    let o : Opening := ⟨World.empty, [("granted", .boolean true)], 5, fun id =>
      .ok (some ⟨id, id ++ ".js", if id = "main" then main else ask⟩)⟩
    let acts : List HostAct := [.load "main" ""]
    ∃ (R : Realm) (h : o.Sourceless R),
      (∀ act ∈ acts, act.Within R ∧ act.KeepsScopes) ∧
      (∀ name, (((performAll acts).after o.start).heap.ownBinding? o.globals name).isSome ↔
        name ∈ o.granted.keys) ∧
      (∃ home, Homed h.grounds home ((performAll acts).after o.start) ∧
        ¬ Passes acts o.start fun μ => ¬ μ.Private h.grounds home) ∧
      (Passes acts o.start fun μ => μ.phrase = .expression (.name "own")) ∧
      (((performAll acts).after o.start).heap.objects.any fun cell =>
        cell.properties.get? "seen" = some (.text "undefinedx")) = true := by
  intro main ask o acts
  let R : Realm :=
    { object := fun _ => True, array := fun _ => True, function := fun _ => True
      scope := fun _ => True, native := fun native => native ≠ .reflection .evaluate
      catches := True, arrayMethod := by simp, textMethod := by simp, require := by simp
      resolve := by simp, evaluate := by simp }
  have hvalue (v : Value) : R.value v := by cases v <;> trivial
  have hrow {α : Type} [Inhabited α] {p : α → Prop} (hp : p default) : Row (fun _ => True) p #[] :=
    ⟨fun i _ => by rwa [Row.getD_of_size_le (Nat.zero_le i)], fun _ _ => trivial⟩
  have hsourceless : o.Sourceless R :=
    { catches := trivial
      native := fun h => h rfl
      encloses :=
        { heap := ⟨hrow fun _ _ => hvalue _, hrow fun _ _ => hvalue _,
            hrow ⟨by rintro ⟨⟩, fun _ _ => hvalue _⟩, hrow ⟨fun _ _ => hvalue _, fun _ _ => trivial⟩⟩
          globals := fun _ => trivial
          values := by rintro id v ⟨⟩
          records := by rintro id record ⟨⟩
          providers := fun _ _ => .fail ""
          sources := fun _ _ _ _ _ => .inl trivial }
      granted := fun entry _ => hvalue entry.2
      closures := by rintro f literal s - ⟨⟩
      parents := by rintro s parent - ⟨⟩ }
  have hacts : ∀ act ∈ acts, act.Within R ∧ act.KeepsScopes := by
    intro act hmem
    rw [List.mem_singleton.mp hmem]
    exact ⟨trivial, trivial⟩
  obtain ⟨hnames, hprivate⟩ := modules_keep_private o R hsourceless acts hacts
  have hseen : (((performAll acts).after o.start).heap.objects.any fun cell =>
      cell.properties.get? "seen" = some (.text "undefinedx")) = true := by decide +kernel
  refine ⟨R, hsourceless, hacts, hnames, hprivate, ?_, hseen⟩
  -- a detour from the name ends the session, and nothing was made
  refine ⟨detourAt "own", fun μ hμ => detourAt_of_ne hμ, fun hsame => ?_⟩
  have hstopped : ((watchAll (detourAt "own") acts).after o.start).heap.objects.size = 0 := by
    decide +kernel
  rw [after, hsame] at hstopped
  have hnone : ((performAll acts).after o.start).heap.objects = #[] :=
    Array.size_eq_zero_iff.mp hstopped
  simp [hnone] at hseen

end ModuleRunner
