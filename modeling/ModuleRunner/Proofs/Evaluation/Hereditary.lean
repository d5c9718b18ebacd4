import ModuleRunner.Proofs.Loading.Enclosure

/-!
# Hereditary properties of runs

Many properties say nothing of what a run returns and hold wherever it starts.  Such a property is a
contract in the realm that everything is inside of: there is no side condition left, and whatever
holds of the few runs that evaluation is built from, of sequences and of caught failures, holds of
everything evaluation does.

* `Hereditary` — such a property.
* `Machine.Has` — a machine all of whose entry points have the property.
* `Hereditary.and` — two such properties, side by side.
* `Hereditary.contract` — the contract that such a property is.
* `Hereditary.evaluateSource`, `Hereditary.callStep`, `Hereditary.runBody`, `Hereditary.perform`,
  `Hereditary.loadStep`, `Hereditary.level`, `Hereditary.machine` — what evaluation does.
-/

namespace ModuleRunner.Script

/-! ## The realm of everything -/

/-- The realm that everything is inside of. -/
def Realm.whole : Realm where
  object _ := True
  array _ := True
  function _ := True
  scope _ := True
  native _ := True
  catches := True
  arrayMethod _ := trivial
  textMethod _ := trivial
  require _ := trivial
  resolve _ := trivial
  evaluate := id

namespace Realm

lemma whole_value (v : Value) : whole.value v := by
  cases v <;> trivial

lemma whole_allows (isTryless : Bool) : whole.allows isTryless := .inl trivial

lemma whole_completion (completion : Evaluation.Completion) : whole.completion completion := by
  cases completion
  case returned v => exact whole_value v
  all_goals trivial

lemma whole_failure (failure : Failure) : whole.failure failure := by
  cases failure
  case thrown v => exact whole_value v
  all_goals trivial

lemma whole_functionCell (cell : FunctionCell) : whole.functionCell cell := by
  refine ⟨?_, fun entry _ => whole_value entry.2⟩
  cases cell.code with
  | script literal scope => exact ⟨whole_allows _, trivial⟩
  | native native => trivial

lemma whole_closed (heap : Heap) : whole.Closed heap where
  objects := ⟨fun _ _ entry _ => whole_value entry.2, fun _ _ => trivial⟩
  arrays := ⟨fun _ _ item _ => whole_value item, fun _ _ => trivial⟩
  functions := ⟨fun _ _ => whole_functionCell _, fun _ _ => trivial⟩
  scopes := ⟨fun _ _ => ⟨fun entry _ => whole_value entry.2.value, fun _ _ => trivial⟩,
    fun _ _ => trivial⟩

lemma whole_encloses (w : Evaluation.World) : whole.Encloses w where
  heap := whole_closed w.heap
  globals _ := trivial
  values _ v _ := whole_value v
  records _ _ _ := trivial
  providers _ _ := Evaluation.ProviderAct.within_of_forall whole_value _
  sources _ _ _ _ _ := whole_allows _

end Realm

end ModuleRunner.Script

namespace ModuleRunner.Evaluation

open Script

/-! ## Hereditary properties -/

/-- A property of runs that evaluation hands on. -/
structure Hereditary (P : (α : Type) → Run α → Prop) : Prop where
  /-- A run that only returns. -/
  pure : ∀ {α : Type} (a : α), P α (pure a)
  /-- A run that only stops. -/
  throw : ∀ {α : Type} (e : Stop), P α (throw e)
  /-- One run after another. -/
  bind : ∀ {α β : Type} {x : Run α} {f : α → Run β}, P α x → (∀ a, P β (f a)) → P β (x >>= f)
  /-- A run whose failure is a result. -/
  capture : ∀ {α : Type} {x : Run α}, P α x → P (Except Failure α) (Run.capture x)
  /-- Reading the world. -/
  get : P World get
  /-- Changing the heap. -/
  withHeap : ∀ {α : Type} (f : Heap → α × Heap), P α (Run.withHeap f)
  /-- Changing the console. -/
  console : ∀ f : Console → Console, P PUnit (modify fun w => { w with console := f w.console })
  /-- A run as one more call. -/
  nested : ∀ {α : Type} {x : Run α} (i : InterpreterRef), P α x → P α (Run.nested i x)

/-- Every entry point of a machine has a property. -/
structure Machine.Has (m : Machine) (P : (α : Type) → Run α → Prop) : Prop where
  evaluate : ∀ i scope e, P Value (m.evaluate i scope e)
  execute : ∀ i scope s, P Completion (m.execute i scope s)
  call : ∀ i function receiver arguments, P Value (m.call i function receiver arguments)
  load : ∀ request base, P Value (m.load request base)

/-- A property that follows from one that all entry points have. -/
lemma Machine.Has.imp {m : Machine} {P Q : (α : Type) → Run α → Prop} (hm : m.Has P)
    (himp : ∀ {α : Type} {x : Run α}, P α x → Q α x) : m.Has Q where
  evaluate i scope e := himp (hm.evaluate i scope e)
  execute i scope s := himp (hm.execute i scope s)
  call i function receiver arguments := himp (hm.call i function receiver arguments)
  load request base := himp (hm.load request base)

/-- Two properties that are handed on side by side. -/
lemma Hereditary.and {P Q : (α : Type) → Run α → Prop} (h : Hereditary P) (h' : Hereditary Q) :
    Hereditary fun α x => P α x ∧ Q α x where
  pure a := ⟨h.pure a, h'.pure a⟩
  throw e := ⟨h.throw e, h'.throw e⟩
  bind hx hf := ⟨h.bind hx.1 fun a => (hf a).1, h'.bind hx.2 fun a => (hf a).2⟩
  capture hx := ⟨h.capture hx.1, h'.capture hx.2⟩
  get := ⟨h.get, h'.get⟩
  withHeap f := ⟨h.withHeap f, h'.withHeap f⟩
  console f := ⟨h.console f, h'.console f⟩
  nested i hx := ⟨h.nested i hx.1, h'.nested i hx.2⟩

/-- What a run returns, if it returns, wherever it starts. -/
def Run.Returns {α : Type} (Q : α → Prop) (run : Run α) : Prop :=
  ∀ w a w', run w = .ok a w' → Q a

namespace Run.Returns

variable {α : Type} {Q : α → Prop} {x : Run α} (h : x.Returns Q)

include h

lemma bind {β : Type} {S : β → Prop} {f : α → Run β} (hf : ∀ a, Q a → (f a).Returns S) :
    (x >>= f).Returns S := by
  intro w b w' hrun
  cases hx : x w with
  | ok a w₁ =>
      rw [Run.bind_of_ok hx] at hrun
      exact hf a (h w a w₁ hx) w₁ b w' hrun
  | error e w₁ =>
      rw [Run.bind_of_error hx] at hrun
      cases hrun

lemma capture {R : Realm} (hfailure : ∀ failure, R.failure failure) :
    (Run.capture x).Returns (R.outcome Q) := by
  intro w outcome w' hrun
  cases hx : x w with
  | ok a w₁ =>
      rw [Run.capture_of_ok hx] at hrun
      cases hrun
      exact h w a _ hx
  | error e w₁ =>
      cases e with
      | failed failure =>
          rw [Run.capture_of_failed hx] at hrun
          cases hrun
          exact hfailure failure
      | exhausted =>
          rw [Run.capture_of_exhausted hx] at hrun
          cases hrun

lemma nested (i : InterpreterRef) : (Run.nested i x).Returns Q := by
  intro w a w' hrun
  have hway := nested_calling x i w
  rw [hrun] at hway
  cases hway with
  | returned _ hinside => exact h _ _ _ hinside

end Run.Returns

/-- A machine that has a property keeps to the contract that the property is. -/
lemma Machine.Has.honours {m : Machine} {P : (α : Type) → Run α → Prop} (hm : m.Has P) :
    m.Honours .whole fun α Q x => P α x ∧ x.Returns Q where
  evaluate i _ _ _ _ := ⟨hm.evaluate i _ _, fun _ v _ _ => Realm.whole_value v⟩
  execute i _ _ _ _ := ⟨hm.execute i _ _, fun _ completion _ _ => Realm.whole_completion completion⟩
  call i _ _ _ _ _ _ := ⟨hm.call i _ _ _, fun _ v _ _ => Realm.whole_value v⟩
  load request base := ⟨hm.load request base, fun _ v _ _ => Realm.whole_value v⟩

namespace Hereditary

variable {P : (α : Type) → Run α → Prop} (h : Hereditary P)

include h

/-- What follows a run has to be right for what the run can return only. -/
lemma bind_of_returns {α β : Type} {Q : α → Prop} {x : Run α} {f : α → Run β} (hx : P α x)
    (hreturns : x.Returns Q) (hf : ∀ a, Q a → P β (f a)) : P β (x >>= f) := by
  classical
  -- `f` is asked of every value, so it is cut off where the first run cannot get to
  have hsame : (x >>= f) = x >>= fun a => if Q a then f a else Run.exhausted := by
    funext w
    simp only [Bind.bind, EStateM.bind]
    split
    · next a w' hrun => rw [if_pos (hreturns w a w' hrun)]
    · rfl
  rw [hsame]
  refine h.bind hx fun a => ?_
  split
  · next ha => exact hf a ha
  · exact h.throw _

/-- A hereditary property, as a contract. -/
theorem contract : Contract .whole fun α Q x => P α x ∧ x.Returns Q where
  pure hQ := ⟨h.pure _, by rintro w a w' ⟨⟩; exact hQ⟩
  fail _ := ⟨h.throw _, by rintro w a w' ⟨⟩⟩
  exhausted := ⟨h.throw _, by rintro w a w' ⟨⟩⟩
  bind hx hf := ⟨h.bind_of_returns hx.1 hx.2 fun a ha => (hf a ha).1,
    hx.2.bind fun a ha => (hf a ha).2⟩
  capture _ _ _ _ hx := ⟨h.capture hx.1, hx.2.capture Realm.whole_failure⟩
  get := ⟨h.get, fun _ a _ _ => Realm.whole_encloses a⟩
  withHeap hf := ⟨h.withHeap _, by
    rintro w a w' ⟨⟩
    exact (hf w.heap (Realm.whole_closed w.heap)).1⟩
  console _ _ f := ⟨h.console f, fun _ _ _ _ => trivial⟩
  nested i hx := ⟨h.nested i hx.1, hx.2.nested i⟩

/-! ## What evaluation does -/

lemma fail {α : Type} (failure : Failure) : P α (Run.fail failure) := h.throw _

section Machine

variable {m : Machine} (hm : m.Has P)

include hm

theorem evaluateSource (i : InterpreterRef) (source : String) :
    P Value (evaluateSource m i source) :=
  (h.contract.evaluateSource hm.honours i fun _ _ => Realm.whole_allows _).1

theorem callStep (i : InterpreterRef) (function receiver : Value) (arguments : List Value) :
    P Value (callStep m i function receiver arguments) :=
  (h.contract.callStep hm.honours i (Realm.whole_value _) (Realm.whole_value _)
    fun _ _ => Realm.whole_value _).1

theorem construct (i : InterpreterRef) (function : Value) (arguments : List Value) :
    P Value (construct m i function arguments) :=
  (h.contract.construct hm.honours i (Realm.whole_value _) fun _ _ => Realm.whole_value _).1

/-- The body of a module, from its text to its end. -/
theorem runBody (record : Module.Record) (resource : Module.Resource) :
    P Unit (runBody m record resource) :=
  (h.contract.runBody hm.honours trivial fun _ _ => Realm.whole_allows _).1

/-- What a provider does, however many modules it asks for. -/
theorem perform (act : ProviderAct) : P (Except String Value) (perform m act) :=
  (h.contract.perform (h.contract.capture trivial) hm.honours
    (ProviderAct.within_of_forall Realm.whole_value act)).1

/-- The step of loading a module, of a property that the session's books have. -/
theorem loadStep
    (hbooks : ∀ {α : Type} (f : World → α) (g : World → World),
      (∀ w, (g w).interpreters = w.interpreters) → P α fun w => .ok (f w) (g w))
    (request base : String) : P Value (loadStep m request base) := by
  refine (h.contract.loadStep (h.contract.capture trivial) ?_ hm.honours request base).1
  intro α Q f g hsame hbook
  refine ⟨hbooks f g fun w => (hsame w).1, ?_⟩
  rintro w a w' ⟨⟩
  exact (hbook w (Realm.whole_encloses w)).1

end Machine

/-- The steps over a machine that has a property have it, if what they load modules by does. -/
theorem level {m : Machine} (hm : m.Has P) {load : (request base : String) → Run Value}
    (hload : ∀ request base, P Value (load request base)) (n : Nat) :
    Machine.Has
      { patience := n
        evaluate := fun i scope e => evaluateStep m i scope e
        execute := fun i scope s => executeStep m i scope s
        call := fun i function receiver arguments =>
          Evaluation.callStep m i function receiver arguments
        load := load } P where
  evaluate i _ _ := (h.contract.evaluateStep hm.honours i trivial (Realm.whole_allows _)).1
  execute i _ _ := (h.contract.executeStep hm.honours i trivial (Realm.whole_allows _)).1
  call i function receiver arguments := h.callStep hm i function receiver arguments
  load := hload

/-- A machine without a level has every such property. -/
lemma spent : Machine.spent.Has P where
  evaluate _ _ _ := h.throw _
  execute _ _ _ := h.throw _
  call _ _ _ _ := h.throw _
  load _ _ := h.throw _

/-- Every level of evaluation has a property that loading hands on as well. -/
theorem machine
    (hload : ∀ m : Machine, m.Has P → ∀ request base, P Value (Evaluation.loadStep m request base))
    (n : Nat) : (machine n).Has P := by
  induction n with
  | zero => exact h.spent
  | succ n hm => exact h.level hm (hload _ hm) n

end Hereditary

end ModuleRunner.Evaluation
