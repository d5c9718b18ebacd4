import ModuleRunner.Proofs.Evaluation.Steps

/-!
# Loading inside a realm

The session's modules are a part of what a realm encloses.  A module object is made inside and holds
an exports value from inside; what the registry gives back is what it was given.  So loading hands a
contract on as soon as the contract holds of the few runs that only keep the session's books, and of
runs whose failure is caught.

* `Realm.Encloses.find`, `Realm.Encloses.create`, … — the laws of the session's books.
* `Contract.loadStep` — the step of loading a module.
-/

namespace ModuleRunner.Script.Realm

open Evaluation ModuleRunner.Module

variable {R : Realm}

/-- A module object is made inside. -/
lemma Closed.newRecord {heap : Heap} (h : R.Closed heap) (id origin : String) {exports : Value}
    (hexports : R.value exports) :
    R.object (Registry.newRecord heap id origin exports).1.module.index ∧
      R.Closed (Registry.newRecord heap id origin exports).2 := by
  refine h.newObject fun entry hmem => ?_
  simp only [List.mem_cons, List.not_mem_nil, or_false] at hmem
  rcases hmem with rfl | rfl | rfl
  · trivial
  · trivial
  · exact hexports

namespace Encloses

variable {w : World} (h : R.Encloses w)

include h

/-! ## The session's books -/

lemma note (event : Event) : R.Encloses { w with history := event :: w.history } :=
  ⟨h.heap, h.globals, h.values, h.records, h.providers, h.sources⟩

/-- A record whose module object is inside goes in. -/
lemma put (key : String) {record : Record} (hrecord : R.object record.module.index) {heap : Heap}
    (hheap : R.Closed heap) (values : Table Value)
    (hvalues : ∀ id v, values.get? id = some v → R.value v) :
    R.Encloses { w with
      registry := { w.registry with values, records := w.registry.records.put key record }
      heap } where
  heap := hheap
  globals := h.globals
  values := hvalues
  records id found hfound := by
    rcases Table.of_get?_put hfound with ⟨-, rfl⟩ | hfound
    · exact hrecord
    · exact h.records id found hfound
  providers := h.providers
  sources := h.sources

lemma find (id : String) :
    (∀ record, (w.registry.find w.heap id).1 = some record → R.object record.module.index) ∧
      R.Encloses { w with
        registry := (w.registry.find w.heap id).2.1
        heap := (w.registry.find w.heap id).2.2 } := by
  unfold Registry.find
  split
  · next record hfound =>
      refine ⟨?_, h⟩
      rintro _ ⟨⟩
      exact h.records id record hfound
  · split
    · exact ⟨by rintro _ ⟨⟩, h⟩
    · next v hv =>
        have hmade := h.heap.newRecord id ("host:" ++ id) (h.values id v hv)
        refine ⟨?_, h.put id hmade.1 hmade.2 _ fun other found hfound =>
          h.values other found (Table.get?_of_get?_erase hfound)⟩
        rintro _ ⟨⟩
        exact hmade.1

lemma create (key id origin : String) :
    R.object (w.registry.create w.heap key id origin).1.module.index ∧
      R.Encloses { w with
        registry := (w.registry.create w.heap key id origin).2.1
        heap := (w.registry.create w.heap key id origin).2.2 } := by
  have hempty : R.objectCell ⟨false, []⟩ := Realm.table_nil
  have hobject := h.heap.newObject hempty
  have hexports : R.value (.object (w.heap.newObject ⟨false, []⟩).1) := hobject.1
  have hmade := hobject.2.newRecord id origin hexports
  exact ⟨hmade.1, h.put key hmade.1 hmade.2 _ h.values⟩

lemma insertNative (id : String) {value : Value} (hvalue : R.value value) :
    R.object (w.registry.insertNative w.heap id value).1.module.index ∧
      R.Encloses { w with
        registry := (w.registry.insertNative w.heap id value).2.1
        heap := (w.registry.insertNative w.heap id value).2.2 } := by
  have hmade := h.heap.newRecord id ("native:" ++ id) hvalue
  exact ⟨hmade.1, h.put id hmade.1 hmade.2 _ h.values⟩

lemma remove (key : String) : R.Encloses { w with registry := w.registry.remove key } :=
  ⟨h.heap, h.globals, h.values,
    fun id record hfound => h.records id record (Table.get?_of_get?_erase hfound), h.providers,
    h.sources⟩

lemma takeProvider (id : String) :
    R.Encloses { w with registry := (w.registry.takeProvider id).2 } :=
  ⟨h.heap, h.globals, h.values, h.records, h.providers, h.sources⟩

lemma restoreProvider (id : String) (ref : ProviderRef) :
    R.Encloses { w with registry := w.registry.restoreProvider id ref } where
  heap := h.heap
  globals := h.globals
  values other v hv := h.values other v (by rwa [Registry.values_restoreProvider] at hv)
  records other record hrecord :=
    h.records other record (by rwa [Registry.records_restoreProvider] at hrecord)
  providers := h.providers
  sources := h.sources

lemma countCall (ref : ProviderRef) (calls : Nat) :
    R.Encloses { w with
      providers := w.providers.modify ref.index fun provider => { provider with calls } } where
  heap := h.heap
  globals := h.globals
  values := h.values
  records := h.records
  providers other n := by
    have hact : ((w.providers.modify ref.index fun provider => { provider with calls }).getD
        other.index default).act = (w.providers.getD other.index default).act := by
      rw [Array.getD_eq_getD_getElem?, Array.getElem?_modify, Array.getD_eq_getD_getElem?]
      split
      · cases w.providers[other.index]? <;> rfl
      · rfl
    exact hact ▸ h.providers other n
  sources := h.sources

/-! ## What the host supplies -/

lemma register (id : String) {value : Value} (hvalue : R.value value) :
    R.Encloses { w with registry := w.registry.register id value } where
  heap := h.heap
  globals := h.globals
  values other v hv := by
    rcases Table.of_get?_put hv with ⟨-, rfl⟩ | hv
    · exact hvalue
    · exact h.values other v hv
  records := h.records
  providers := h.providers
  sources := h.sources

lemma registerProvider (id : String) (ref : ProviderRef) :
    R.Encloses { w with registry := w.registry.registerProvider id ref } :=
  ⟨h.heap, h.globals, h.values, h.records, h.providers, h.sources⟩

/-- A provider or an interpreter that is new stands behind those that were there. -/
lemma newProvider {provider : Provider} (hprovider : ∀ n, (provider.act n).Within R.value) :
    R.Encloses { w with providers := w.providers.push provider } where
  heap := h.heap
  globals := h.globals
  values := h.values
  records := h.records
  providers ref n := by
    by_cases hlast : ref.index = w.providers.size
    · simpa [Array.getD_eq_getD_getElem?, hlast] using hprovider n
    · have hsame : (w.providers.push provider).getD ref.index default
          = w.providers.getD ref.index default := by
        simp [Array.getD_eq_getD_getElem?, Array.getElem?_push, hlast]
      exact hsame ▸ h.providers ref n
  sources := h.sources

lemma newInterpreter {state : Interpreter} (hstate : R.scope state.globals.index) :
    R.Encloses { w with interpreters := w.interpreters.push state } where
  heap := h.heap
  globals i := by
    by_cases hlast : i.index = w.interpreters.size
    · simpa [World.interpreter, Array.getD_eq_getD_getElem?, hlast] using hstate
    · have hsame : (w.interpreters.push state).getD i.index default = w.interpreter i := by
        simp [World.interpreter, Array.getD_eq_getD_getElem?, Array.getElem?_push, hlast]
      exact (congrArg (fun state => R.scope state.globals.index) hsame).mpr (h.globals i)
  values := h.values
  records := h.records
  providers := h.providers
  sources := h.sources

end Encloses

end ModuleRunner.Script.Realm

namespace ModuleRunner.Evaluation.Contract

open Script ModuleRunner.Module

/-! ## The step -/

variable {R : Realm} {P : (α : Type) → (α → Prop) → Run α → Prop} (h : Contract R P)
  (hcapture : ∀ {α : Type} {Q : α → Prop} {x : Run α}, P α Q x →
    P (Except Failure α) (R.outcome Q) (Run.capture x))
  (hbooks : ∀ {α : Type} {Q : α → Prop} (f : World → α) (g : World → World),
    (∀ w, (g w).interpreters = w.interpreters ∧ (g w).console = w.console) →
      (∀ w, R.Encloses w → Q (f w) ∧ R.Encloses (g w)) → P α Q fun w => .ok (f w) (g w))
  {m : Machine}

section Books

include hbooks

lemma note (event : Event) : P Unit (fun _ => True) (Run.note event) :=
  hbooks _ _ (fun _ => ⟨rfl, rfl⟩) fun _ hw => ⟨trivial, hw.note event⟩

lemma findRecord (id : String) : P (Option Record)
    (fun found => ∀ record, found = some record → R.object record.module.index)
    (findRecord id) :=
  hbooks _ _ (fun _ => ⟨rfl, rfl⟩) fun _ hw => hw.find id

lemma createRecord (key : String) (resource : Resource) :
    P Record (fun record => R.object record.module.index) (createRecord key resource) :=
  hbooks _ _ (fun _ => ⟨rfl, rfl⟩) fun _ hw => hw.create key _ _

lemma insertNative (id : String) {value : Value} (hvalue : R.value value) :
    P Record (fun record => R.object record.module.index) (insertNative id value) :=
  hbooks _ _ (fun _ => ⟨rfl, rfl⟩) fun _ hw => hw.insertNative id hvalue

lemma takeProvider (id : String) :
    P (Option ProviderRef) (fun _ => True) (takeProvider id) :=
  hbooks _ _ (fun _ => ⟨rfl, rfl⟩) fun _ hw => ⟨trivial, hw.takeProvider id⟩

lemma countCall (ref : ProviderRef) :
    P (Nat × ProviderAct) (fun counted => counted.2.Within R.value) (countCall ref) :=
  hbooks _ _ (fun _ => ⟨rfl, rfl⟩) fun _ hw => ⟨hw.providers ref _, hw.countCall ref _⟩

include h

lemma locateResource (id : String) : P (Option Resource)
    (fun found => ∀ resource, found = some resource → R.source resource.content)
    (locateResource id) := by
  refine h.bind (note hbooks _) fun _ _ => h.bind h.get fun w hw => ?_
  split
  · next found hfound =>
      refine h.pure fun resource hresource => ?_
      subst hresource
      exact hw.sources id resource hfound
  · exact h.fail trivial

lemma conclude (request base : String) {outcome : Except Failure Record}
    (houtcome : R.outcome (fun record => R.object record.module.index) outcome) :
    P Value R.value (conclude request base outcome) := by
  cases outcome with
  | ok record => exact h.bind (note hbooks _) fun _ _ => h.exportsOf houtcome
  | error failure => exact h.bind (note hbooks _) fun _ _ => h.fail houtcome

end Books

include h hcapture hbooks

lemma buildNative (hm : m.Honours R P) (id : String) (ref : ProviderRef) :
    P Record (fun record => R.object record.module.index) (buildNative m id ref) := by
  have hcalled : P (Except String Value) (fun answer => ∀ v, answer = .ok v → R.value v)
      (callProvider m ref) :=
    h.bind (countCall hbooks ref) fun _ hact => h.perform hcapture hm hact
  refine h.bind (note hbooks _) fun _ _ => h.bind hcalled fun answer hanswer => ?_
  cases answer with
  | ok value =>
      exact h.bind (note hbooks _) fun _ _ => insertNative hbooks id (hanswer value rfl)
  | error reason =>
      exact h.bind (note hbooks _) fun _ _ =>
        h.bind (Q := fun _ => True)
          (hbooks _ _ (fun _ => ⟨rfl, rfl⟩) fun _ hw => ⟨trivial, hw.restoreProvider id ref⟩)
          fun _ _ => h.fail trivial

lemma loadResource (hm : m.Honours R P) (key : String) {resource : Resource}
    (hsource : R.source resource.content) :
    P Record (fun record => R.object record.module.index) (loadResource m key resource) := by
  refine h.bind (createRecord hbooks key resource) fun record hrecord =>
    h.bind (note hbooks _) fun _ _ =>
      h.bind (hcapture (h.runBody hm hrecord hsource)) fun outcome houtcome => ?_
  cases outcome with
  | ok _ => exact h.bind (note hbooks _) fun _ _ => h.pure hrecord
  | error failure =>
      exact h.bind (note hbooks _) fun _ _ =>
        h.bind (Q := fun _ => True)
          (hbooks _ _ (fun _ => ⟨rfl, rfl⟩) fun _ hw => ⟨trivial, hw.remove key⟩)
          fun _ _ => h.fail houtcome

lemma recordFor (hm : m.Honours R P) (request base : String) :
    P Record (fun record => R.object record.module.index) (recordFor m request base) := by
  refine h.bind (findRecord hbooks request) fun found hfound => ?_
  cases found with
  | some record => exact h.pure (hfound record rfl)
  | none =>
  refine h.bind (takeProvider hbooks request) fun provider _ => ?_
  cases provider with
  | some ref => exact h.buildNative hcapture hbooks hm request ref
  | none =>
  refine h.bind (h.locateResource hbooks _) fun found hfound => ?_
  cases found with
  | none => exact h.fail trivial
  | some resource => exact h.loadResource hcapture hbooks hm request (hfound resource rfl)

/-- The step of loading a module, of a contract that the session's books keep to. -/
theorem loadStep (hm : m.Honours R P) (request base : String) :
    P Value R.value (loadStep m request base) := by
  have hasked := h.bind (note hbooks (.requested request base)) fun _ _ =>
    h.bind (hcapture (h.recordFor hcapture hbooks hm request base)) fun _ houtcome =>
      h.conclude hbooks request base houtcome
  refine h.bind h.get fun w _ => ?_
  dsimp only
  exact guarded hasked fun asked => h.bind (Q := fun _ => True) (h.fail trivial) fun _ _ => asked

end ModuleRunner.Evaluation.Contract
