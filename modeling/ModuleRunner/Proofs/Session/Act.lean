import ModuleRunner.Proofs.Evaluation.Frame
import ModuleRunner.Session

/-!
# Sessions as sequences of acts

What a session can come to is decided by what its host does with it: load modules, call what they
export, evaluate sources, register values and providers, and handle values of its own.  An act that
fails is over and the next one follows; an act that runs out of levels ends the session.

* `HostAct`, `HostAct.perform` — one thing that a host does.
* `performAll` — a session.
* `HostAct.Supplies` — the acts that supply an id.
* `World.IsFresh` — where a session starts.
* `HostAct.Within` — an act inside a realm.
* `Contract.performAll`, `Hereditary.performAll`, `Frame.performAll` — a session hands on what
  evaluation and registering hand on.
-/

namespace ModuleRunner

open Evaluation ModuleRunner.Module Script Run

/-- What a host does with a session. -/
inductive HostAct where
  /-- Loads a module for code whose own id is `base`. -/
  | load (request base : String)
  /-- Loads a module and calls a function that it exports. -/
  | enter (id function : String) (argument : Value)
  /-- Calls a function in an interpreter. -/
  | call (i : InterpreterRef) (function receiver : Value) (arguments : List Value)
  /-- Evaluates a source text in an interpreter. -/
  | evaluate (i : InterpreterRef) (source : String)
  /-- Makes an interpreter. -/
  | interpret (globals : Table Value) (maxDepth : Nat)
  /-- Makes or changes values. -/
  | handle (change : Heap → Heap)
  /-- Registers a value. -/
  | register (id : String) (value : Value)
  /-- Registers a provider. -/
  | registerNative (id : String) (provider : Provider)

/-- What an act does. -/
def HostAct.perform : HostAct → Run Unit
  | load request base => do let _ ← Session.load request base
  | enter id function argument => do let _ ← Session.runEntryPoint id function argument
  | call i function receiver arguments => do
    let _ ← Interpreter.call i function receiver arguments
  | evaluate i source => do let _ ← Interpreter.eval i source
  | interpret globals maxDepth => do let _ ← newInterpreter globals maxDepth
  | handle change => withHeap fun heap => ((), change heap)
  | register id value => Session.register id value
  | registerNative id provider => Session.registerNative id provider

/-- One act after another, whether they succeed or fail. -/
def performAll : List HostAct → Run Unit
  | [] => return ()
  | act :: rest => do
    let _ ← capture act.perform
    performAll rest

lemma performAll_append (before rest : List HostAct) :
    performAll (before ++ rest) = performAll before >>= fun _ => performAll rest := by
  induction before with
  | nil => rfl
  | cons act before ih => rw [List.cons_append, performAll, performAll, ih, bind_assoc]

/-- An act by which the host supplies an id. -/
inductive HostAct.Supplies (id : String) : HostAct → Prop where
  | value (value : Value) : Supplies id (.register id value)
  | provider (provider : Provider) : Supplies id (.registerNative id provider)

/-- The world after the host has supplied an id. -/
lemma HostAct.Supplies.perform {id : String} {act : HostAct} (h : act.Supplies id) (w : World) :
    ∃ w₁, act.perform w = .ok () w₁ ∧ w₁.history = .supplied id :: w.history ∧
      ∀ value, act = .register id value → w₁.registry = w.registry.register id value := by
  cases h with
  | value value =>
      refine ⟨{ w with
        history := .supplied id :: w.history
        registry := w.registry.register id value }, rfl, rfl, ?_⟩
      rintro _ ⟨⟩
      rfl
  | provider provider =>
      refine ⟨{ w with
        history := .supplied id :: w.history
        providers := w.providers.push provider
        registry := w.registry.registerProvider id ⟨w.providers.size⟩ }, rfl, rfl, ?_⟩
      rintro _ ⟨⟩

/-- A session that has not begun: nothing is registered or loaded, and nothing has happened. -/
structure Evaluation.World.IsFresh (w : World) : Prop where
  history : w.history = []
  registry : w.registry = .empty
  isClosed : w.isClosed = false

/-- An act that a host does inside a realm. -/
def HostAct.Within (R : Realm) : HostAct → Prop
  | load .. => True
  | enter _ _ argument => R.value argument
  | call _ function receiver arguments =>
    R.value function ∧ R.value receiver ∧ ∀ v ∈ arguments, R.value v
  | evaluate _ source => R.source source
  | interpret globals _ => R.table globals
  | handle change => ∀ heap, R.Closed heap → R.Closed (change heap)
  | register _ value => R.value value
  | registerNative _ provider => ∀ n, (provider.act n).Within R.value

lemma HostAct.within_whole (act : HostAct) : act.Within .whole := by
  cases act with
  | load => trivial
  | enter id function argument => exact Realm.whole_value argument
  | call i function receiver arguments =>
      exact ⟨Realm.whole_value _, Realm.whole_value _, fun v _ => Realm.whole_value v⟩
  | evaluate i source => exact fun _ _ => Realm.whole_allows _
  | interpret globals maxDepth => exact fun entry _ => Realm.whole_value entry.2
  | handle change => exact fun heap _ => Realm.whole_closed (change heap)
  | register id value => exact Realm.whole_value value
  | registerNative id provider =>
      exact fun n => ProviderAct.within_of_forall Realm.whole_value (provider.act n)

/-! ## Sessions -/

namespace Evaluation.Contract

variable {R : Realm} {P : (α : Type) → (α → Prop) → Run α → Prop} (h : Contract R P)
  (hpush : ∀ state : Interpreter, R.scope state.globals.index →
    P InterpreterRef (fun _ => True) fun w =>
      .ok ⟨w.interpreters.size⟩ { w with interpreters := w.interpreters.push state })

include h

lemma declareEach (scope : ScopeRef) : ∀ {entries : Table Value}, R.table entries →
    P PUnit (fun _ => True) (forIn entries PUnit.unit fun entry _ => do
      Run.declare scope entry.1 entry.2 true
      return ForInStep.yield PUnit.unit : Run PUnit)
  | [], _ => h.pure trivial
  | entry :: rest, hentries => by
      have ih := declareEach scope fun other hmem => hentries other (List.mem_cons_of_mem _ hmem)
      rw [List.forIn_cons]
      refine h.bind (Q := fun _ => True) ?_ fun step _ => ?_
      · exact h.bind (h.declare _ _ _ (hentries entry List.mem_cons_self)) fun _ _ =>
          h.pure trivial
      · cases step with
        | done => exact h.pure trivial
        | yield => exact ih

include hpush in
lemma newInterpreter {globals : Table Value} (hglobals : R.table globals) (maxDepth : Nat) :
    P InterpreterRef (fun _ => True) (Run.newInterpreter globals maxDepth) :=
  h.bind (h.withHeap fun _ hheap => hheap.newScope (by rintro _ ⟨⟩)) fun _ hscope =>
    h.bind (h.declareEach _ hglobals) fun _ _ => hpush _ hscope

section Machine

variable (hm : ∀ n, (Evaluation.machine n).Honours R P)

include hm

lemma runEntryPoint (id function : String) {argument : Value} (hargument : R.value argument) :
    P Value R.value (Session.runEntryPoint id function argument) := by
  refine h.bind ((hm (levels + 1)).load id "") fun exports hexports =>
    h.bind (h.readHeap fun _ hheap => hheap.get function hexports) fun entryPoint hentry => ?_
  have called : P Value R.value (do
      Interpreter.call (← MonadState.get).host entryPoint exports [argument]) := by
    refine h.bind h.get fun w _ => h.callStep (hm levels) w.host hentry hexports fun v hmem => ?_
    rw [List.mem_singleton.mp hmem]
    exact hargument
  dsimp only
  split
  · exact h.bind (Q := fun _ => True) (h.fail trivial) fun _ _ => called
  · exact called

include hpush

/-- **Sessions.**  A contract that evaluation and the registrations of a session keep to, the session
keeps to. -/
theorem performAll
    (hcapture : ∀ {α : Type} {Q : α → Prop} {x : Run α}, P α Q x →
      P (Except Failure α) (R.outcome Q) (Run.capture x))
    (acts : List HostAct) (hacts : ∀ act ∈ acts, act.Within R)
    (hvalue : ∀ id value, .register id value ∈ acts →
      P Unit (fun _ => True) (Session.register id value))
    (hprovider : ∀ id provider, .registerNative id provider ∈ acts →
      P Unit (fun _ => True) (Session.registerNative id provider)) :
    P Unit (fun _ => True) (ModuleRunner.performAll acts) := by
  induction acts with
  | nil => exact h.pure trivial
  | cons act rest ih =>
      have hrest := ih (fun other hmem => hacts other (List.mem_cons_of_mem _ hmem))
        (fun id value hmem => hvalue id value (List.mem_cons_of_mem _ hmem))
        (fun id provider hmem => hprovider id provider (List.mem_cons_of_mem _ hmem))
      have hwithin := hacts act List.mem_cons_self
      have hact : P Unit (fun _ => True) act.perform := by
        cases act with
        | load request base =>
            exact h.bind ((hm (levels + 1)).load request base) fun _ _ => h.pure trivial
        | enter id function argument =>
            exact h.bind (h.runEntryPoint hm id function hwithin) fun _ _ => h.pure trivial
        | call i function receiver arguments =>
            exact h.bind (h.callStep (hm levels) i hwithin.1 hwithin.2.1 hwithin.2.2) fun _ _ =>
              h.pure trivial
        | evaluate i source =>
            exact h.bind (h.evaluateSource (hm levels) i hwithin) fun _ _ => h.pure trivial
        | interpret globals maxDepth =>
            exact h.bind (h.newInterpreter hpush hwithin maxDepth) fun _ _ => h.pure trivial
        | handle change =>
            exact h.withHeap (f := fun heap => ((), change heap)) fun heap hheap =>
              ⟨trivial, hwithin heap hheap⟩
        | register id value => exact hvalue id value List.mem_cons_self
        | registerNative id provider => exact hprovider id provider List.mem_cons_self
      exact h.bind (hcapture hact) fun _ _ => hrest

end Machine

end Evaluation.Contract

/-- What evaluation and the registrations of a session have, the session has. -/
theorem Evaluation.Hereditary.performAll {P : (α : Type) → Run α → Prop} (h : Hereditary P)
    (hm : ∀ n, (Evaluation.machine n).Has P)
    (hpush : ∀ state : Interpreter, P InterpreterRef fun w =>
      .ok ⟨w.interpreters.size⟩ { w with interpreters := w.interpreters.push state })
    (acts : List HostAct)
    (hvalue : ∀ id value, .register id value ∈ acts → P Unit (Session.register id value))
    (hprovider : ∀ id provider, .registerNative id provider ∈ acts →
      P Unit (Session.registerNative id provider)) :
    P Unit (ModuleRunner.performAll acts) :=
  (h.contract.performAll (fun state _ => ⟨hpush state, fun _ _ _ _ => trivial⟩)
    (fun n => (hm n).honours) (h.contract.capture trivial) acts
    (fun act _ => act.within_whole) (fun id value hmem => ⟨hvalue id value hmem, fun _ _ _ _ => trivial⟩)
    fun id provider hmem => ⟨hprovider id provider hmem, fun _ _ _ _ => trivial⟩).1

/-- Of what does not look at what scripts compute with, it is enough that loading hands it on. -/
theorem Evaluation.Frame.performAll {R : World → World → Prop} (hR : Frame R)
    (hload : ∀ m : Machine, m.Has (fun _ run => run.Keeps R) →
      ∀ request base, (loadStep m request base).Keeps R)
    (acts : List HostAct)
    (hvalue : ∀ id value, .register id value ∈ acts → (Session.register id value).Keeps R)
    (hprovider : ∀ id provider, .registerNative id provider ∈ acts →
      (Session.registerNative id provider).Keeps R) :
    (ModuleRunner.performAll acts).Keeps R :=
  hR.hereditary.performAll (hR.hereditary.machine hload) (fun _ w => hR.interpreters w _) acts
    hvalue hprovider

end ModuleRunner
