import ModuleRunner.Evaluation.Interpreter
import ModuleRunner.Proofs.Evaluation.Run
import ModuleRunner.Proofs.Script.Realm

/-!
# Contracts of runs

Evaluation is built from few runs: reading the world, changing the heap or the console, stopping,
and running as one more call.  A contract says of runs what they return and what they may do, when
they start in a world that a realm encloses.  Whatever holds of the few, and of sequences and of
caught failures, holds of everything evaluation does with values of the realm — as soon as it holds
of loading a module, which is the one thing that the list leaves out.

* `Realm.Encloses` — a world in which nothing that scripts can reach leads out of a realm.
* `Contract` — a property of runs and of their results that evaluation hands on.
* `Machine.Honours` — a machine all of whose entry points keep to the contract.
* the runs that need no machine: `Contract.text`, `Contract.write`, `Contract.binary`,
  `Contract.textMethod`, `Contract.arrayMethod`, and those they are made of.
-/

namespace ModuleRunner.Script.Realm

open Evaluation

variable (R : Realm)

/-- A completion that carries nothing from outside. -/
def completion : Completion → Prop
  | .returned v => R.value v
  | _ => True

/-- An assignment target inside. -/
def target : Target → Prop
  | .name _ => True
  | .property object _ => R.value object

end ModuleRunner.Script.Realm

namespace ModuleRunner.Evaluation

open Script ModuleRunner.Module

/-! ## Enclosed worlds -/

/-- A provider that answers with values of its own and of a set only, as long as the loads it makes
answer with values of the set. -/
inductive ProviderAct.Within (S : Value → Prop) : ProviderAct → Prop where
  | fail (reason : String) : Within S (.fail reason)
  | give (document : Json) (extras : List (String × Json)) : Within S (.give document extras)
  | hand {value : Value} (h : S value) : Within S (.hand value)
  | ask {id base : String} {next : Except String Value → ProviderAct}
      (h : ∀ answer, (∀ value, answer = .ok value → S value) → (next answer).Within S) :
      Within S (.ask id base next)

/-- A provider can hand out nothing but what is in a set of all values. -/
lemma ProviderAct.within_of_forall {S : Value → Prop} (h : ∀ v, S v) :
    ∀ act : ProviderAct, act.Within S
  | .fail reason => .fail reason
  | .give document extras => .give document extras
  | .hand v => .hand (h v)
  | .ask _ _ next => .ask fun answer _ => within_of_forall h (next answer)

end ModuleRunner.Evaluation

namespace ModuleRunner.Script.Realm

open Evaluation ModuleRunner.Module

/-- A world in which nothing that scripts can reach leads out of a realm. -/
structure Encloses (R : Realm) (w : World) : Prop where
  heap : R.Closed w.heap
  globals : ∀ i, R.scope (w.interpreter i).globals.index
  values : ∀ id value, w.registry.values.get? id = some value → R.value value
  records : ∀ id record, w.registry.records.get? id = some record → R.object record.module.index
  providers : ∀ (ref : ProviderRef) (n : Nat),
    ((w.providers.getD ref.index default).act n).Within R.value
  sources : ∀ id resource, w.locate id = .ok (some resource) → R.source resource.content

end ModuleRunner.Script.Realm

namespace ModuleRunner.Evaluation

open Script ModuleRunner.Module

/-! ## Contracts -/

/-- A property of runs and of their results that evaluation hands on inside a realm. -/
structure Contract (R : Realm) (P : (α : Type) → (α → Prop) → Run α → Prop) : Prop where
  /-- A run that only returns. -/
  pure : ∀ {α : Type} {Q : α → Prop} {a : α}, Q a → P α Q (pure a)
  /-- A run that only fails. -/
  fail : ∀ {α : Type} {Q : α → Prop} {failure : Failure}, R.failure failure →
    P α Q (Run.fail failure)
  /-- A run that is out of levels. -/
  exhausted : ∀ {α : Type} {Q : α → Prop}, P α Q Run.exhausted
  /-- One run after another. -/
  bind : ∀ {α β : Type} {Q : α → Prop} {S : β → Prop} {x : Run α} {f : α → Run β},
    P α Q x → (∀ a, Q a → P β S (f a)) → P β S (x >>= f)
  /-- A run whose failure is a result. -/
  capture : R.catches → ∀ {α : Type} {Q : α → Prop} {x : Run α}, P α Q x →
    P (Except Failure α) (R.outcome Q) (Run.capture x)
  /-- Reading the world. -/
  get : P World R.Encloses get
  /-- Changing the heap. -/
  withHeap : ∀ {α : Type} {Q : α → Prop} {f : Heap → α × Heap},
    (∀ heap, R.Closed heap → Q (f heap).1 ∧ R.Closed (f heap).2) → P α Q (Run.withHeap f)
  /-- Changing the console. -/
  console : ∀ level, R.native (.print level) → ∀ f : Console → Console,
    P PUnit (fun _ => True) (modify fun w => { w with console := f w.console })
  /-- A run as one more call. -/
  nested : ∀ {α : Type} {Q : α → Prop} {x : Run α} (i : InterpreterRef), P α Q x →
    P α Q (Run.nested i x)

/-- Every entry point of a machine keeps to a contract. -/
structure Machine.Honours (m : Machine) (R : Realm)
    (P : (α : Type) → (α → Prop) → Run α → Prop) : Prop where
  evaluate : ∀ i {scope : ScopeRef} {e : Expression}, R.scope scope.index →
    R.allows e.isTryless → P Value R.value (m.evaluate i scope e)
  execute : ∀ i {scope : ScopeRef} {s : Statement}, R.scope scope.index →
    R.allows s.isTryless → P Completion R.completion (m.execute i scope s)
  call : ∀ i {function receiver : Value} {arguments : List Value}, R.value function →
    R.value receiver → (∀ v ∈ arguments, R.value v) →
      P Value R.value (m.call i function receiver arguments)
  load : ∀ request base, P Value R.value (m.load request base)

namespace Contract

variable {R : Realm} {P : (α : Type) → (α → Prop) → Run α → Prop} (h : Contract R P)

/-- A check before something else, which may follow a refusal as well. -/
lemma guarded {α : Type} {Q : α → Prop} {c : Prop} [Decidable c] {refused rest : Run α}
    (hrest : P α Q rest) (hrefused : P α Q rest → P α Q refused) :
    P α Q (if c then refused else rest) := by
  split
  · exact hrefused hrest
  · exact hrest

include h

/-! ### Reading and stopping -/

lemma ofOption {α : Type} {Q : α → Prop} :
    ∀ a : Option α, (∀ v, a = some v → Q v) → P α Q (Run.ofOption a)
  | some v, hv => h.pure (hv v rfl)
  | none, _ => h.exhausted

lemma ofExcept {α : Type} {Q : α → Prop} :
    ∀ outcome : Except Failure α, R.outcome Q outcome → P α Q (Run.ofExcept outcome)
  | .ok _, houtcome => h.pure houtcome
  | .error _, houtcome => h.fail houtcome

lemma readHeap {α : Type} {Q : α → Prop} {f : Heap → α} (hf : ∀ heap, R.Closed heap → Q (f heap)) :
    P α Q (Run.readHeap f) :=
  h.bind h.get fun w hw => h.pure (hf w.heap hw.heap)

/-- What is read need not be inside, if only a text, a number or a decision is made of it. -/
lemma readAny {α : Type} (f : Heap → α) : P α (fun _ => True) (Run.readHeap f) :=
  h.readHeap fun _ _ => trivial

lemma anyOf {α : Type} (a : Option α) : P α (fun _ => True) (Run.ofOption a) :=
  h.ofOption a fun _ _ => trivial

lemma interpreter (i : InterpreterRef) :
    P Interpreter (fun state => R.scope state.globals.index) (Run.interpreter i) :=
  h.bind h.get fun _ hw => h.pure (hw.globals i)

lemma text (v : Value) : P String (fun _ => True) (Run.text v) :=
  h.bind (h.readAny _) fun _ _ => h.anyOf _

lemma number (v : Value) : P Float (fun _ => True) (Run.number v) :=
  h.bind (h.readAny _) fun _ _ => h.anyOf _

/-! ### The heap -/

lemma newObject {cell : ObjectCell} (hcell : R.objectCell cell) :
    P Value R.value (Run.newObject cell) :=
  h.withHeap fun _ hheap => hheap.newObject hcell

lemma newArray {items : List Value} (hitems : ∀ v ∈ items, R.value v) :
    P Value R.value (Run.newArray items) :=
  h.withHeap fun _ hheap => hheap.newArray fun v hmem => hitems v (List.mem_toArray.mp hmem)

lemma newFunction (name : String) {code : Code} (hcode : R.code code) :
    P Value R.value (Run.newFunction name code) :=
  h.withHeap fun _ hheap => hheap.newFunction ⟨hcode, Realm.table_nil⟩

lemma newScope {parent : ScopeRef} (hparent : R.scope parent.index) :
    P ScopeRef (fun scope => R.scope scope.index) (Run.newScope parent) :=
  h.withHeap fun _ hheap => hheap.newScope (by rintro _ ⟨⟩; exact hparent)

lemma declare (scope : ScopeRef) (name : String) {v : Value} (isMutable : Bool) (hv : R.value v) :
    P Unit (fun _ => True) (Run.declare scope name v isMutable) :=
  h.withHeap fun _ hheap => ⟨trivial, hheap.declare name isMutable hv⟩

lemma lookup {scope : ScopeRef} (hscope : R.scope scope.index) (name : String) :
    P Value R.value (Run.lookup scope name) :=
  h.bind (h.readHeap (Q := fun found => ∀ v, found = some v → R.value v)
    fun _ hheap _ hfound => hheap.lookup hscope hfound) fun
    | some v, hfound => h.pure (hfound v rfl)
    | none, _ => h.fail trivial

lemma assign (scope : ScopeRef) (name : String) {v : Value} (hv : R.value v) :
    P Unit (fun _ => True) (Run.assign scope name v) :=
  h.bind (h.withHeap (Q := fun _ => True) fun _ hheap => ⟨trivial, hheap.assign name hv⟩) fun
    | .done, _ => h.pure trivial
    | .constant, _ => h.fail trivial
    | .unbound, _ => h.fail trivial

lemma write (target : Value) (key : String) {v : Value} (hv : R.value v) :
    P Bool (fun _ => True) (Run.write target key v) :=
  h.bind (h.withHeap (Q := fun _ => True) fun _ hheap => ⟨trivial, hheap.write key hv⟩) fun
    | none, _ => h.exhausted
    | some .stored, _ => h.pure trivial
    | some .dropped, _ => h.pure trivial
    | some .invalidLength, _ => h.fail trivial

/-! ### Operators -/

lemma arithmetic (op : Float → Float → Float) (left right : Value) :
    P Value R.value (Run.arithmetic op left right) :=
  h.bind (h.number left) fun _ _ => h.bind (h.number right) fun _ _ => h.pure trivial

lemma ordered (test : Ordering → Bool) (left right : Value) :
    P Value R.value (Run.ordered test left right) :=
  h.bind (h.readAny _) fun _ _ =>
    h.bind (h.anyOf _) fun _ _ => h.pure trivial

lemma looseEquals (left right : Value) :
    P Bool (fun _ => True) (Run.looseEquals left right) :=
  h.bind (h.readAny _) fun _ _ => h.anyOf _

lemma binary (op : BinaryOp) (left right : Value) :
    P Value R.value (Run.binary op left right) := by
  cases op with
  | add =>
      rw [Run.binary]
      split
      · exact h.bind (h.text left) fun _ _ => h.bind (h.text right) fun _ _ => h.pure trivial
      · exact h.arithmetic _ left right
  | sub => exact h.arithmetic _ left right
  | mul => exact h.arithmetic _ left right
  | div => exact h.arithmetic _ left right
  | mod => exact h.arithmetic _ left right
  | equal => exact h.bind (h.looseEquals left right) fun _ _ => h.pure trivial
  | notEqual => exact h.bind (h.looseEquals left right) fun _ _ => h.pure trivial
  | strictEqual => exact h.pure trivial
  | strictNotEqual => exact h.pure trivial
  | less => exact h.ordered _ left right
  | lessEqual => exact h.ordered _ left right
  | greater => exact h.ordered _ left right
  | greaterEqual => exact h.ordered _ left right

/-! ### The built-in functions -/

omit h in
lemma value_argument {arguments : List Value} (harguments : ∀ v ∈ arguments, R.value v) (n : Nat) :
    R.value (argument arguments n) := by
  unfold argument
  rw [List.getD_eq_getElem?_getD]
  cases hget : arguments[n]? with
  | none => trivial
  | some v => exact harguments v (List.mem_of_getElem? hget)

lemma sliceIndex (length default : Nat) (v : Value) :
    P Nat (fun _ => True) (Run.sliceIndex length default v) := by
  unfold Run.sliceIndex
  split
  · exact h.pure trivial
  · exact h.bind (h.number _) fun _ _ => h.pure trivial

lemma textMethod (method : TextMethod) (receiver : Value) (arguments : List Value) :
    P Value R.value (Run.textMethod method receiver arguments) := by
  unfold Run.textMethod
  split
  case h_2 => exact h.fail trivial
  case h_1 s =>
  cases method with
  | toUpperCase => exact h.pure trivial
  | toLowerCase => exact h.pure trivial
  | indexOf =>
      cases arguments with
      | nil =>
          refine h.bind (Q := fun _ => True) (h.pure trivial) fun needle _ => ?_
          dsimp only
          split <;> exact h.pure trivial
      | cons v rest =>
          refine h.bind (h.text v) fun needle _ => ?_
          dsimp only
          split <;> exact h.pure trivial
  | slice =>
      exact h.bind (h.sliceIndex _ _ _) fun _ _ => h.bind (h.sliceIndex _ _ _) fun _ _ =>
        h.pure trivial

lemma push (ref : ArrayRef) {values : List Value} (hvalues : ∀ v ∈ values, R.value v) :
    P Value R.value (Run.push ref values) := by
  refine h.bind (h.readAny _) fun size _ => ?_
  dsimp only
  refine guarded ?_ fun pushed => h.bind (Q := fun _ => True) (h.fail trivial) fun _ _ => pushed
  refine h.bind (h.withHeap (Q := fun _ => True) fun _ hheap => ⟨trivial, ?_⟩) fun _ _ =>
    h.pure trivial
  refine hheap.modifyArray ref fun items hitems v hmem => ?_
  rcases Array.mem_append.mp hmem with hmem | hmem
  · exact hitems v hmem
  · exact hvalues v (List.mem_toArray.mp hmem)

lemma arrayMethod (method : ArrayMethod) (receiver : Value) {arguments : List Value}
    (harguments : ∀ v ∈ arguments, R.value v) :
    P Value R.value (Run.arrayMethod method receiver arguments) := by
  unfold Run.arrayMethod
  split
  case h_2 => exact h.fail trivial
  case h_1 ref =>
  cases method with
  | push => exact h.push ref harguments
  | join =>
      have joined (separator : String) : P Value R.value (do
          return .text (← Run.ofOption (← Run.readHeap fun heap =>
            heap.joined? separator (heap.arrayAt ref).toList))) :=
        h.bind (h.readAny _) fun _ _ =>
          h.bind (h.anyOf _) fun _ _ => h.pure trivial
      dsimp only
      split
      · exact h.bind (Q := fun _ => True) (h.pure trivial) fun _ _ => joined _
      · exact h.bind (h.text _) fun _ _ => joined _
  | indexOf =>
      refine h.bind (h.readAny _) fun items _ => ?_
      split <;> exact h.pure trivial

lemma makeError (name : String) (arguments : List Value) :
    P Value R.value (Run.makeError name arguments) := by
  have made (message : String) :
      P Value R.value (Run.newObject (Failure.errorCell name message)) :=
    h.newObject (Realm.Closed.errorCell name message)
  unfold Run.makeError
  dsimp only
  split
  · exact h.bind (Q := fun _ => True) (h.pure trivial) fun _ _ => made _
  · exact h.bind (h.text _) fun _ _ => made _

lemma texts : ∀ values : List Value, P (List String) (fun _ => True) (Run.texts values)
  | [] => h.pure trivial
  | v :: rest => h.bind (h.text v) fun _ _ => h.bind (texts rest) fun _ _ => h.pure trivial

lemma print (level : ConsoleLevel) (hlevel : R.native (.print level)) (arguments : List Value) :
    P Value R.value (Run.print level arguments) := by
  refine h.bind (h.texts arguments) fun lines _ => ?_
  refine h.bind (Q := fun _ => True) ?_ fun _ _ => h.pure trivial
  cases level with
  | log => exact h.console _ hlevel fun c => { c with out := c.out ++ _ }
  | info => exact h.console _ hlevel fun c => { c with out := c.out ++ _ }
  | warn => exact h.console _ hlevel fun c => { c with err := c.err ++ "Warning: " ++ _ }
  | error => exact h.console _ hlevel fun c => { c with err := c.err ++ _ }

omit h in
/-- The built-in methods are inside every realm. -/
lemma native_builtinMethod {v : Value} {key : String} {method : Native}
    (hmethod : builtinMethod? v key = some method) : R.native method := by
  unfold builtinMethod? at hmethod
  split at hmethod
  · obtain ⟨found, -, rfl⟩ := Option.map_eq_some_iff.mp hmethod
    exact R.arrayMethod found
  · obtain ⟨found, -, rfl⟩ := Option.map_eq_some_iff.mp hmethod
    exact R.textMethod found
  · cases hmethod

end Contract

end ModuleRunner.Evaluation
