import ModuleRunner.Proofs.Loading.Confinement
import ModuleRunner.Proofs.Session.Act

/-!
# Sessions without a console

A script can write only by a function of the console, and it can come by a function only along the
references of the heap.  So if none leads from what a session starts with to a function of the
console, none ever will, and nothing is written.

* `Cell`, `Heap.Leads` — the references of a heap.
* `World.Reachable` — what leads from the global scopes, the registry and the host's own cells.
* `World.realm` — all that is reachable or yet to be made.
* `World.Silent` — no function of the console is reachable.
* `silent_sessions_write_nothing` — all sessions, and those that a configuration starts.
-/

namespace ModuleRunner.Script

/-! ## References -/

/-- A cell of a heap. -/
inductive Cell where
  | object (ref : ObjectRef)
  | array (ref : ArrayRef)
  | function (ref : FunctionRef)
  | scope (ref : ScopeRef)

/-- The cell that a value is a reference to. -/
def Value.cell? : Value → Option Cell
  | .object ref => some (.object ref)
  | .array ref => some (.array ref)
  | .function ref => some (.function ref)
  | _ => none

namespace Heap

/-- One cell holds a reference to another one. -/
inductive Leads (heap : Heap) : Cell → Cell → Prop where
  | property {ref : ObjectRef} {entry : String × Value} {c : Cell}
      (hmem : entry ∈ (heap.objectAt ref).properties) (hc : entry.2.cell? = some c) :
      Leads heap (.object ref) c
  | item {ref : ArrayRef} {item : Value} {c : Cell} (hmem : item ∈ heap.arrayAt ref)
      (hc : item.cell? = some c) : Leads heap (.array ref) c
  | functionProperty {ref : FunctionRef} {entry : String × Value} {c : Cell}
      (hmem : entry ∈ (heap.functionAt ref).properties) (hc : entry.2.cell? = some c) :
      Leads heap (.function ref) c
  | closure {ref : FunctionRef} {literal : FunctionLiteral} {scope : ScopeRef}
      (hcode : (heap.functionAt ref).code = .script literal scope) :
      Leads heap (.function ref) (.scope scope)
  | binding {ref : ScopeRef} {entry : String × Binding} {c : Cell}
      (hmem : entry ∈ (heap.scopeAt ref).bindings) (hc : entry.2.value.cell? = some c) :
      Leads heap (.scope ref) c
  | parent {ref parent : ScopeRef} (hparent : (heap.scopeAt ref).parent = some parent) :
      Leads heap (.scope ref) (.scope parent)

/-- A cell that is yet to be made. -/
def IsNew (heap : Heap) : Cell → Prop
  | .object ref => heap.objects.size ≤ ref.index
  | .array ref => heap.arrays.size ≤ ref.index
  | .function ref => heap.functions.size ≤ ref.index
  | .scope ref => heap.scopes.size ≤ ref.index

end Heap

/-- Whether a cell is inside a realm. -/
def Realm.cell (R : Realm) : Cell → Prop
  | .object ref => R.object ref.index
  | .array ref => R.array ref.index
  | .function ref => R.function ref.index
  | .scope ref => R.scope ref.index

lemma Realm.value_iff {R : Realm} {v : Value} :
    R.value v ↔ ∀ c, v.cell? = some c → R.cell c := by
  cases v <;> simp [value, Value.cell?, cell]

/-- Whether a native function writes to the console. -/
def Native.writes : Native → Bool
  | .print _ => true
  | _ => false

/-- The realm of some cells, in which no function writes to the console. -/
def Realm.silent (inside : Cell → Prop) : Realm where
  object i := inside (.object ⟨i⟩)
  array i := inside (.array ⟨i⟩)
  function i := inside (.function ⟨i⟩)
  scope i := inside (.scope ⟨i⟩)
  native native := native.writes = false
  catches := True
  arrayMethod _ := rfl
  textMethod _ := rfl
  require _ := rfl
  resolve _ := rfl
  evaluate _ := trivial

namespace Realm

variable {inside : Cell → Prop}

lemma silent_cell {c : Cell} : (silent inside).cell c ↔ inside c := by
  cases c <;> rfl

lemma silent_value {v : Value} (h : ∀ c, v.cell? = some c → inside c) : (silent inside).value v :=
  value_iff.mpr fun c hc => silent_cell.mpr (h c hc)

lemma not_native_print (level : ConsoleLevel) : ¬ (silent inside).native (.print level) := by
  rintro ⟨⟩

end Realm

/-- What a cell inside a realm leads to is inside. -/
lemma Realm.Closed.leads {R : Realm} {heap : Heap} (h : R.Closed heap) {c d : Cell}
    (hc : R.cell c) (hleads : heap.Leads c d) : R.cell d := by
  cases hleads with
  | property hmem hd => exact value_iff.mp (h.objects.cell _ hc _ hmem) _ hd
  | item hmem hd => exact value_iff.mp (h.arrays.cell _ hc _ hmem) _ hd
  | functionProperty hmem hd => exact value_iff.mp ((h.functions.cell _ hc).2 _ hmem) _ hd
  | closure hcode =>
      have hinside := (h.functions.cell _ hc).1
      exact (hcode ▸ hinside : R.code (.script _ _)).2
  | binding hmem hd => exact value_iff.mp ((h.scopes.cell _ hc).1 _ hmem) _ hd
  | parent hparent => exact (h.scopes.cell _ hc).2 _ hparent

/-- The cells that are yet to be made are a realm in every heap. -/
lemma Heap.closed_new (heap : Heap) : (Realm.silent heap.IsNew).Closed heap where
  objects := .ofNew Realm.table_nil _
  arrays := .ofNew (by rintro item ⟨⟨⟩⟩) _
  functions := .ofNew ⟨rfl, Realm.table_nil⟩ _
  scopes := .ofNew ⟨by rintro entry ⟨⟩, by rintro parent ⟨⟩⟩ _

end ModuleRunner.Script

namespace ModuleRunner.Evaluation

open Script ModuleRunner.Module Run

/-! ## What is reachable -/

namespace World

/-- Where references start: at the global scopes, at the session's modules, and at what the host
holds. -/
inductive Root (w : World) (held : Cell → Prop) : Cell → Prop where
  | globals (i : InterpreterRef) : Root w held (.scope (w.interpreter i).globals)
  | value {id : String} {v : Value} {c : Cell} (hvalue : w.registry.values.get? id = some v)
      (hc : v.cell? = some c) : Root w held c
  | record {id : String} {record : Record} (hrecord : w.registry.records.get? id = some record) :
      Root w held (.object record.module)
  | held {c : Cell} (hc : held c) : Root w held c

/-- What references lead to. -/
inductive Reachable (w : World) (held : Cell → Prop) : Cell → Prop where
  | root {c : Cell} (hroot : w.Root held c) : Reachable w held c
  | step {c d : Cell} (hc : w.Reachable held c) (hleads : w.heap.Leads c d) : Reachable w held d

/-- No function of the console is reachable. -/
def Silent (w : World) (held : Cell → Prop) : Prop :=
  ∀ ref level, w.Reachable held (.function ref) →
    (w.heap.functionAt ref).code ≠ .native (.print level)

/-- A cell that is reachable or yet to be made. -/
def Offers (w : World) (held : Cell → Prop) (c : Cell) : Prop :=
  w.Reachable held c ∨ w.heap.IsNew c

/-- The realm of what is reachable or yet to be made, where no function prints. -/
def realm (w : World) (held : Cell → Prop) : Realm := .silent (w.Offers held)

variable {w : World} {held : Cell → Prop}

/-- What is reachable leads to what is reachable, and what is yet to be made leads to no more. -/
lemma offers_of_leads {c d : Cell} (hc : w.Offers held c) (hleads : w.heap.Leads c d) :
    w.Offers held d :=
  hc.imp (fun hreach => .step hreach hleads) fun hnew =>
    Realm.silent_cell.mp (w.heap.closed_new.leads (Realm.silent_cell.mpr hnew) hleads)

/-- What a realm encloses, nothing reachable is outside of. -/
lemma Reachable.inside {R : Realm} {w' : World} (h : R.Encloses w') {S : Cell → Prop}
    (hheld : ∀ c, S c → R.cell c) {c : Cell} (hc : w'.Reachable S c) : R.cell c := by
  induction hc with
  | root hroot =>
      cases hroot with
      | globals i => exact h.globals i
      | value hvalue hc => exact Realm.value_iff.mp (h.values _ _ hvalue) _ hc
      | record hrecord => exact h.records _ _ hrecord
      | held hc => exact hheld _ hc
  | step _ hleads ih => exact h.heap.leads ih hleads

/-- Where a realm without printing functions encloses a world, the world is silent. -/
lemma silent_of_encloses {R : Realm} {w' : World} (h : R.Encloses w')
    (hR : ∀ level, ¬ R.native (.print level)) {S : Cell → Prop} (hheld : ∀ c, S c → R.cell c) :
    w'.Silent S := by
  intro ref level hreach hcode
  have hcell := (h.heap.functions.cell ref.index (hreach.inside h hheld)).1
  exact hR level (hcode ▸ hcell : R.code (.native (.print level)))

/-- No function inside prints: one that is reachable does not, and one that is yet to be made only
fails. -/
lemma realm_code (hsilent : w.Silent held) {ref : FunctionRef}
    (href : w.Offers held (.function ref)) : (w.realm held).code (w.heap.functionAt ref).code := by
  rcases href with hreach | hnew
  · cases hcode : (w.heap.functionAt ref).code with
    | script literal scope => exact ⟨.inl trivial, .inl (.step hreach (.closure hcode))⟩
    | native native =>
        cases native with
        | print level => exact absurd hcode (hsilent ref level hreach)
        | _ => rfl
  · have hdefault : w.heap.functionAt ref = default := Row.getD_of_size_le hnew
    rw [hdefault]
    rfl

/-- The realm of a silent world encloses it, if the providers hand out nothing else. -/
lemma realm_encloses (hsilent : w.Silent held)
    (hproviders : ∀ (ref : ProviderRef) (n : Nat),
      ((w.providers.getD ref.index default).act n).Within (w.realm held).value) :
    (w.realm held).Encloses w where
  heap :=
    { objects := ⟨fun _ hi _ hmem =>
        Realm.silent_value fun _ hc => offers_of_leads hi (.property hmem hc), fun _ => .inr⟩
      arrays := ⟨fun _ hi _ hmem =>
        Realm.silent_value fun _ hc => offers_of_leads hi (.item hmem hc), fun _ => .inr⟩
      functions := ⟨fun _ hi => ⟨realm_code hsilent hi, fun _ hmem =>
        Realm.silent_value fun _ hc => offers_of_leads hi (.functionProperty hmem hc)⟩,
        fun _ => .inr⟩
      scopes := ⟨fun _ hi => ⟨fun _ hmem =>
        Realm.silent_value fun _ hc => offers_of_leads hi (.binding hmem hc),
        fun _ hparent => offers_of_leads hi (.parent hparent)⟩, fun _ => .inr⟩ }
  globals i := .inl (.root (.globals i))
  values _ _ hv := Realm.silent_value fun _ hc => .inl (.root (.value hv hc))
  records _ _ hrecord := .inl (.root (.record hrecord))
  providers := hproviders
  sources _ _ _ _ _ := .inl trivial

end World

/-! ## Sessions stay inside -/

/-- A session whose host acts inside a realm stays inside. -/
theorem confined_performAll (R : Realm) (acts : List HostAct) (hacts : ∀ act ∈ acts, act.Within R) :
    Confined R Unit (fun _ => True) (performAll acts) := by
  have h := confined R
  refine h.performAll (fun state hstate => .of_step fun w hw =>
    ⟨trivial, (hw.newInterpreter hstate).continues rfl⟩) (machine_confined R) Confined.capture acts
    hacts ?_ ?_
  · intro id value hmem
    exact Confined.of_step fun w hw =>
      ⟨trivial, ((hw.note _).register id (hacts _ hmem)).continues rfl⟩
  · intro id provider hmem
    exact Confined.of_step fun w hw =>
      ⟨trivial, (((hw.newProvider (hacts _ hmem)).note _).registerProvider id _).continues rfl⟩

end ModuleRunner.Evaluation

namespace ModuleRunner

open Evaluation ModuleRunner.Module Script Run

/-! ## Configurations -/

/-- Native functions that are made inside, next to what was granted before. -/
lemma Script.Realm.Closed.addNatives {R : Realm} :
    ∀ (natives : List (String × Native)) (granted : Table Value) {heap : Heap}, R.Closed heap →
      (∀ entry ∈ natives, R.native entry.2) →
        (∀ entry ∈ (Capabilities.addNatives heap granted natives).1,
          entry ∈ granted ∨ R.value entry.2) ∧
        R.Closed (Capabilities.addNatives heap granted natives).2
  | [], _, _, h, _ => ⟨fun _ => .inl, h⟩
  | (name, native) :: rest, granted, heap, h, hnatives => by
      have hcell : R.functionCell ⟨name, .native native, []⟩ :=
        ⟨hnatives _ List.mem_cons_self, Realm.table_nil⟩
      have hmade := h.newFunction hcell
      have ih := addNatives rest
        (granted.put name (.function (heap.newFunction ⟨name, .native native, []⟩).1)) hmade.2
        fun entry hmem => hnatives entry (List.mem_cons_of_mem _ hmem)
      refine ⟨fun entry hmem => ?_, ih.2⟩
      rcases ih.1 entry hmem with hput | hinside
      · rcases Table.mem_put hput with rfl | hgranted
        · exact .inr hmade.1
        · exact .inl hgranted
      · exact .inr hinside

namespace Config

/-- The realm of what is made after the console. -/
def unconsoled : Realm := .silent (Capabilities.console Heap.empty).2.IsNew

/-- Without the console, what is granted was made after it. -/
lemma standard_unconsoled :
    unconsoled.table (Table.erase (Capabilities.standard Heap.empty).1 "console") ∧
      unconsoled.Closed (Capabilities.standard Heap.empty).2 := by
  have hmade := Realm.Closed.addNatives
    (["Error", "TypeError", "RangeError"].map fun name => (name, .makeError name))
    (Table.put "console" (Capabilities.console Heap.empty).1 [])
    (Capabilities.console Heap.empty).2.closed_new (by
      intro entry hmem
      obtain ⟨name, -, rfl⟩ := List.mem_map.mp hmem
      rfl)
  -- what was granted before the constructors is the console, and it is erased
  refine ⟨fun entry hmem => ?_, hmade.2⟩
  obtain ⟨hmem, hkept⟩ := List.mem_filter.mp hmem
  rcases hmade.1 entry hmem with hgranted | hinside
  · rw [List.mem_singleton.mp hgranted] at hkept
    simp at hkept
  · exact hinside

lemma confined_registerDocuments {R : Realm} (modules : List (String × Json)) :
    Confined R Unit (fun _ => True) (Session.registerDocuments modules) := by
  have h := confined R
  induction modules with
  | nil => exact h.pure trivial
  | cons entry rest ih =>
      refine h.bind (Q := fun _ => True) ?_ fun _ _ => ih
      refine h.bind (h.withHeap fun _ hheap => hheap.ofJson entry.2) fun v hv => ?_
      exact Confined.of_step fun _ hw => ⟨trivial, ((hw.note _).register entry.1 hv).continues rfl⟩

lemma capabilities_unconsoled (config : Config) (hconsole : config.console = false) :
    ∃ granted w, config.capabilities World.empty = .ok granted w ∧ unconsoled.table granted ∧
      unconsoled.Continues World.empty w := by
  refine ⟨Table.erase (Capabilities.standard Heap.empty).1 "console",
    { World.empty with heap := (Capabilities.standard Heap.empty).2 }, ?_,
    standard_unconsoled.1, ?_, fun _ => rfl⟩
  · unfold capabilities
    rw [hconsole]
    rfl
  · exact
      { heap := standard_unconsoled.2
        globals := fun _ => Nat.zero_le _
        values := by rintro id v ⟨⟩
        records := by rintro id record ⟨⟩
        providers := fun _ _ => .fail ""
        sources := fun _ _ _ _ _ => .inl trivial }

/-- A session that starts without the console is inside of what is made after the console. -/
lemma start_unconsoled (config : Config) (hconsole : config.console = false)
    (around : Surroundings) :
    unconsoled.Continues World.empty ((config.start around).after World.empty) := by
  have h := confined unconsoled
  obtain ⟨granted, w, hcapabilities, hgranted, hw⟩ := config.capabilities_unconsoled hconsole
  rw [Config.start, after_bind_of_ok hcapabilities]
  refine hw.trans (Confined.continues (Q := fun _ => True) ?_ hw.encloses)
  refine h.bind (confined_registerDocuments _) fun _ _ => ?_
  split
  · exact h.fail trivial
  · refine h.bind (h.newInterpreter (fun state hstate => ?_) hgranted _) fun host _ => ?_
    · exact Confined.of_step fun _ hw => ⟨trivial, (hw.newInterpreter hstate).continues rfl⟩
    · exact Confined.of_step (Q := fun _ => True) fun _ hw => ⟨trivial,
        ⟨hw.heap, hw.globals, hw.values, hw.records, hw.providers, fun _ _ _ _ _ => .inl trivial⟩,
        fun _ => rfl⟩

end Config

/-! ## The theorem -/

/-- **Sessions without a console write nothing.**  If no function of the console is reachable from
what a session starts with — the global scopes, the records and values of the registry, what the
host holds and what its providers hand out — then whatever the host does with what is reachable or
made later, nothing is written, and no function of the console becomes reachable, not even from all
that was made meanwhile.  So it is with every session that a configuration starts which withholds
the console, as long as the host has the functions of the console from nowhere else. -/
theorem silent_sessions_write_nothing :
    (∀ (w : World) (held : Cell → Prop), w.Silent held →
      (∀ (ref : ProviderRef) (n : Nat),
        ((w.providers.getD ref.index default).act n).Within (w.realm held).value) →
      ∀ acts : List HostAct, (∀ act ∈ acts, act.Within (w.realm held)) →
        ((performAll acts).after w).console = w.console ∧
          ((performAll acts).after w).Silent (w.Offers held)) ∧
    ∀ (config : Config) (around : Surroundings), config.console = false →
      ∀ acts : List HostAct, (∀ act ∈ acts, act.Within Config.unconsoled) →
        ((performAll acts).after ((config.start around).after World.empty)).console
            = World.empty.console ∧
          ((performAll acts).after ((config.start around).after World.empty)).Silent
            Config.unconsoled.cell := by
  refine ⟨fun w held hsilent hproviders acts hacts => ?_, fun config around hconsole acts hacts => ?_⟩
  · have hend := (confined_performAll (w.realm held) acts hacts).continues
      (World.realm_encloses hsilent hproviders)
    exact ⟨hend.silent Realm.not_native_print, World.silent_of_encloses hend.encloses
      Realm.not_native_print fun _ => Realm.silent_cell.mpr⟩
  · have hstart := config.start_unconsoled hconsole around
    have hend := hstart.trans ((confined_performAll _ acts hacts).continues hstart.encloses)
    exact ⟨hend.silent Realm.not_native_print, World.silent_of_encloses hend.encloses
      Realm.not_native_print fun _ => id⟩

/-- A module that looks for the console beside a function of the console that nothing leads to, and a
configuration that withholds the console. -/
theorem silent_sessions_write_nothing_beside_log :
    let w : World :=
      { World.empty with
        heap :=
          { Heap.empty with
            functions := #[⟨"log", .native (.print .log), []⟩]
            scopes := #[⟨[], none⟩] }
        interpreters := #[⟨⟨0⟩, 0, 3, 0⟩]
        locate := fun id => .ok (some ⟨id, id ++ ".js",
          "exports.kind = typeof console; console.log(exports.kind);"⟩) }
    let config : Config := { console := false }
    let around : Surroundings := ⟨⟨[], []⟩, Network.unreachable⟩
    let acts : List HostAct := [.load "main" ""]
    w.Silent (fun _ => False) ∧
    ((performAll acts).after w).console = w.console ∧
    ((performAll acts).after w).history.head?
      = some (.refused "main" "" (.reference "console")) ∧
    config.console = false ∧
    ((performAll acts).after ((config.start around).after World.empty)).console
      = World.empty.console := by
  intro w config around acts
  have hroot : ∀ c, w.Reachable (fun _ => False) c → c = .scope ⟨0⟩ := by
    intro c hreach
    induction hreach with
    | root hroot =>
        cases hroot with
        | globals i =>
            obtain ⟨i⟩ := i
            cases i <;> rfl
        | value hvalue _ => cases hvalue
        | record hrecord => cases hrecord
        | held hheld => exact hheld.elim
    | step _ hleads ih =>
        subst ih
        cases hleads with
        | binding hmem _ => cases hmem
        | parent hparent => cases hparent
  have hsilent : w.Silent fun _ => False := by
    intro ref level hreach
    cases hroot _ hreach
  have hacts (R : Realm) : ∀ act ∈ acts, act.Within R := by
    intro act hmem
    rw [List.mem_singleton.mp hmem]
    trivial
  have hsession := silent_sessions_write_nothing.1 w _ hsilent (fun _ _ => .fail "") acts (hacts _)
  have hconfig := silent_sessions_write_nothing.2 config around rfl acts (hacts _)
  exact ⟨hsilent, hsession.1, by decide +kernel, rfl, hconfig.1⟩

end ModuleRunner
