import ModuleRunner.Proofs.Evaluation.Privacy

/-!
# Loading keeps to homes

The body of a module is a function made of the source text that was found for it, in the global scope
of module code.  Its home is the module, from when its start is noted; and the global scope harbours
code of everyone.  All the rest of loading keeps the session's books, and is calm.

* `Settles.findRecord`, `Settles.createRecord`, … — the session's books.
* `Settled.runBody` — the body of a module, which has a home of its own.
* `Settled.loadStep` — the step of loading a module.
* `watchedMachine_settled` — every level of evaluation.
-/

namespace ModuleRunner.Evaluation

open Script ModuleRunner.Module Run

variable {G : Grounds} {τ : Stage G}

namespace Settles

/-! ## The session's books -/

/-- What only keeps the session's books. -/
lemma books {α : Type} {Q : α → Prop} {f : World → α} {g : World → World}
    (hcalm : ∀ w : World, w.Calm (g w))
    (hbook : ∀ w, G.realm.Encloses w → Q (f w) ∧ G.realm.Encloses (g w)) :
    Settles τ (fun _ => Q) fun _ w => .ok (f w) (g w) :=
  have ⟨ha, hencloses⟩ := hbook τ.world τ.homed.encloses
  ⟨τ.onward (hcalm τ.world).alike hencloses, _, Stage.le_onward _ _, .ok ha, fun _ _ => rfl⟩

/-- An event that is noted is in the history from then on. -/
lemma note (event : Event) :
    Settles τ (fun υ _ => event ∈ υ.world.history) fun _ => Run.note event :=
  ⟨τ.onward (calm_note event τ.world).alike (τ.homed.encloses.note event), _, Stage.le_onward _ _,
    .ok List.mem_cons_self, fun _ _ => rfl⟩

lemma modifyRegistry (change : Registry → Registry)
    (hbook : ∀ w, G.realm.Encloses w → G.realm.Encloses { w with registry := change w.registry }) :
    Settles τ (fun _ _ => True) fun _ => Evaluation.modifyRegistry change :=
  books (calm_modifyRegistry change) fun w hw => ⟨trivial, hbook w hw⟩

lemma findRecord (id : String) :
    Settles τ (fun _ found => ∀ record, found = some record → G.realm.object record.module.index)
      fun _ => Evaluation.findRecord id :=
  books (calm_findRecord id) fun _ hw => hw.find id

lemma createRecord (key : String) (resource : Resource) :
    Settles τ (fun _ record => G.realm.object record.module.index ∧
      resource = ⟨record.id, record.origin, resource.content⟩)
      fun _ => Evaluation.createRecord key resource :=
  books (calm_createRecord key resource) fun _ hw =>
    have hmade := hw.create key resource.id resource.origin
    ⟨⟨hmade.1, rfl⟩, hmade.2⟩

lemma insertNative (id : String) {value : Value} (hvalue : G.realm.value value) :
    Settles τ (fun _ record => G.realm.object record.module.index)
      fun _ => Evaluation.insertNative id value :=
  books (calm_insertNative id value) fun _ hw => hw.insertNative id hvalue

lemma takeProvider (id : String) : Settles τ (fun _ _ => True) fun _ => Evaluation.takeProvider id :=
  books (calm_takeProvider id) fun _ hw => ⟨trivial, hw.takeProvider id⟩

lemma countCall (ref : ProviderRef) :
    Settles τ (fun _ counted => counted.2.Within G.realm.value) fun _ => Evaluation.countCall ref :=
  books (calm_countCall ref) fun _ hw => ⟨hw.providers ref _, hw.countCall ref _⟩

/-- What is found for an id is there, for the whole session. -/
lemma locateResource (id : String) :
    Settles τ (fun _ found => ∀ resource, found = some resource →
      ∃ id, G.locate id = .ok (some resource)) fun _ => Evaluation.locateResource id := by
  refine (note (.located id)).bind fun υ _ _ _ => (read fun w => w).bind fun σ _ w hw => ?_
  obtain ⟨rfl, rfl⟩ := hw
  rw [σ.homed.locate]
  cases hfound : G.locate id with
  | ok found => exact pure fun resource hresource => ⟨id, hresource ▸ hfound⟩
  | error e => exact fail trivial

lemma conclude (request base : String) {outcome : Except Failure Record}
    (houtcome : G.realm.outcome (fun record => G.realm.object record.module.index) outcome) :
    Settles τ (fun _ => G.realm.value) fun _ => Evaluation.conclude request base outcome := by
  cases outcome with
  | ok record =>
      exact (note _).bind fun _ _ _ _ =>
        calm (G.contract.exportsOf houtcome) (calm_exportsOf record)
  | error failure => exact (note _).bind fun _ _ _ _ => fail houtcome

/-! ## The function of a body -/

/-- The function of a module's body closes over the global scope. -/
lemma compileFunction {key : String} {record : Record} {source : String}
    (hstarted : (Home.module key record source G.globals).Started G.locate τ.world.history)
    (name : String) (parameters : List String) :
    Settles τ (fun _ => G.realm.value) fun _ =>
      Evaluation.compileFunction τ.world.host name parameters source := by
  have hparsed : Settles τ (fun υ body => υ = τ ∧ parse source = .ok body) fun _ =>
      parsed source := by
    unfold parsed
    cases hparse : parse source with
    | ok body => exact pure ⟨rfl, rfl⟩
    | error fault => exact fail trivial
  refine hparsed.bind fun υ _ body hbody => ?_
  obtain ⟨rfl, hparse⟩ := hbody
  refine (read fun w => w.interpreter υ.world.host).bind fun σ _ state hstate => ?_
  obtain ⟨rfl, rfl⟩ := hstate
  rw [σ.homed.globals]
  have hglobals : Harbours G σ.home σ.world (.module key record source G.globals) G.globals :=
    ⟨σ.homed.globals ▸ σ.homed.encloses.globals σ.world.host, σ.homed.made, .inl rfl, hstarted⟩
  exact newClosure hglobals name fun s hmem => ⟨body, hparse, .statement hmem⟩

end Settles

/-! ## Providers -/

namespace Settled

variable {M : Detour → Machine} (hm : Settled G M)

include hm

/-- What a provider does, however many modules it asks for. -/
theorem perform {act : ProviderAct} (hact : act.Within G.realm.value) :
    Settles τ (fun _ answer => ∀ v, answer = .ok v → G.realm.value v) fun detour =>
      perform (M detour) act := by
  induction hact generalizing τ with
  | fail reason => exact .pure (by rintro _ ⟨⟩)
  | give document extras =>
      refine (Settles.calm (G.contract.withHeap fun _ hheap => hheap.ofJson document)
        (calm_withHeap fun _ => .ofJson _ _)).bind fun _ _ v hv => ?_
      refine (Settles.calm (G.contract.setExtras Confined.capture v extras)
        (calm_setExtras v extras)).bind fun _ _ _ _ => .pure ?_
      rintro _ ⟨⟩
      exact hv
  | hand hv =>
      refine .pure ?_
      rintro _ ⟨⟩
      exact hv
  | @ask id base next _ ih =>
      refine (hm.load id base).capture.bind fun _ _ outcome houtcome => ?_
      exact (Settles.calm (G.contract.reported houtcome) (calm_reported outcome)).bind
        fun _ _ answer hanswer => ih answer hanswer

lemma buildNative (id : String) (ref : ProviderRef) :
    Settles τ (fun _ record => G.realm.object record.module.index) fun detour =>
      buildNative (M detour) id ref := by
  refine (Settles.note (.entered id ref)).bind fun _ _ _ _ => ?_
  have hcalled {υ : Stage G} : Settles υ (fun _ answer => ∀ v, answer = .ok v → G.realm.value v)
      fun detour => callProvider (M detour) ref :=
    (Settles.countCall ref).bind fun _ _ _ hact => hm.perform hact
  refine hcalled.bind fun _ _ answer hanswer => ?_
  cases answer with
  | ok value =>
      exact (Settles.note (.left id ref true)).bind fun _ _ _ _ => .insertNative id (hanswer value rfl)
  | error reason =>
      exact (Settles.note (.left id ref false)).bind fun _ _ _ _ =>
        (Settles.modifyRegistry (·.restoreProvider id ref)
          fun _ hw => hw.restoreProvider id ref).bind fun _ _ _ _ => .fail trivial

/-! ## Resources -/

/-- The body of a module runs in a scope of its own home. -/
theorem runBody {key : String} {record : Record} {resource : Resource}
    (hrecord : G.realm.object record.module.index)
    (hstarted : (Home.module key record resource.content G.globals).Started G.locate
      τ.world.history) :
    Settles τ (fun _ _ => True) fun detour => runBody (M detour) record resource := by
  refine (Settles.read fun w => w).bind fun υ _ w hw => ?_
  obtain ⟨rfl, rfl⟩ := hw
  refine (Settles.compileFunction hstarted resource.id moduleParameters).bind fun _ _ body hbody => ?_
  refine (Settles.calm (G.contract.requireFunction resource.id)
    (calm_requireFunction resource.id)).bind fun _ _ require hrequire => ?_
  have hmodule : G.realm.value (.object record.module) := hrecord
  refine (Settles.calm (G.contract.write require "main" hmodule) (calm_write require _ _)).bind
    fun _ _ _ _ => ?_
  refine (Settles.calm (G.contract.exportsOf hrecord) (calm_exportsOf record)).bind
    fun _ _ exports hexports => ?_
  refine (hm.call _ hbody hexports fun v hmem => ?_).bind fun _ _ _ _ => .pure trivial
  simp only [List.mem_cons, List.not_mem_nil, or_false] at hmem
  rcases hmem with rfl | rfl | rfl
  · exact hrequire
  · exact hrecord
  · exact hexports

/-- A module that is found has its home from when its start is noted. -/
lemma loadResource (key : String) {resource : Resource}
    (hfound : ∃ id, G.locate id = .ok (some resource)) :
    Settles τ (fun _ record => G.realm.object record.module.index) fun detour =>
      loadResource (M detour) key resource := by
  refine (Settles.createRecord key resource).bind fun _ _ record hmade => ?_
  obtain ⟨hrecord, hresource⟩ := hmade
  refine (Settles.note (.started key record)).bind fun υ _ _ hstart => ?_
  have hstarted : (Home.module key record resource.content G.globals).Started G.locate
      υ.world.history := ⟨hstart, hresource ▸ hfound⟩
  refine (hm.runBody hrecord hstarted).capture.bind fun _ _ outcome houtcome => ?_
  cases outcome with
  | ok _ => exact (Settles.note (.ended key record true)).bind fun _ _ _ _ => .pure hrecord
  | error failure =>
      exact (Settles.note (.ended key record false)).bind fun _ _ _ _ =>
        (Settles.modifyRegistry (·.remove key) fun _ hw => hw.remove key).bind fun _ _ _ _ =>
          .fail houtcome

/-! ## Requests -/

lemma recordFor (request base : String) :
    Settles τ (fun _ record => G.realm.object record.module.index) fun detour =>
      recordFor (M detour) request base := by
  refine (Settles.findRecord request).bind fun _ _ found hfound => ?_
  cases found with
  | some record => exact .pure (hfound record rfl)
  | none =>
  refine (Settles.takeProvider request).bind fun _ _ provider _ => ?_
  cases provider with
  | some ref => exact hm.buildNative request ref
  | none =>
  refine (Settles.locateResource (resolve request base)).bind fun _ _ found hfound => ?_
  cases found with
  | none => exact .fail trivial
  | some resource => exact hm.loadResource request (hfound resource rfl)

/-- The step of loading a module. -/
theorem loadStep (request base : String) :
    Settles τ (fun _ => G.realm.value) fun detour => loadStep (M detour) request base := by
  refine (Settles.read fun w => w).bind fun _ _ w _ => ?_
  dsimp only
  refine .guarded trivial ?_
  exact (Settles.note (.requested request base)).bind fun _ _ _ _ =>
    (hm.recordFor request base).capture.bind fun _ _ _ houtcome => .conclude request base houtcome

end Settled

/-! ## Levels -/

/-- Every level of evaluation keeps to homes. -/
theorem watchedMachine_settled (G : Grounds) :
    ∀ n : Nat, Settled G fun detour => watchedMachine detour n
  | 0 =>
    { patience := ⟨0, fun _ => rfl⟩
      evaluate := fun _ _ _ _ _ => .exhausted
      execute := fun _ _ _ _ _ => .exhausted
      call := fun _ _ _ _ _ _ _ => .exhausted
      load := fun _ _ => .exhausted }
  | n + 1 =>
    have hm := watchedMachine_settled G n
    { patience := ⟨n, fun _ => rfl⟩
      evaluate := fun i _ _ hs he => (hm.evaluateStep i hs he).watch hs he
      execute := fun i _ _ hs hcode => (hm.executeStep i hs hcode).watch hs hcode
      call := fun i _ _ _ hfunction hreceiver harguments =>
        hm.callStep i hfunction hreceiver harguments
      load := fun request base => hm.loadStep request base }

end ModuleRunner.Evaluation
