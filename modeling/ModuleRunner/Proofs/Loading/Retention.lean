import ModuleRunner.Proofs.Loading.Request

/-!
# Records outlive the loads that find them

A load may run any code, and that code may load anything, fail, catch failures and try again.  Still
no load touches a record that was there when it started: the only keys that are put or removed are
keys of requests that found nothing, and while such a request is being answered it is the request's
own key that changes hands.

* `World.Retains` — every record of one world is in another.
* `World.RetainsBut` — every record but that under one key; what the parts of a load do.
* `load_retains_records` — the whole load.
-/

namespace ModuleRunner.Evaluation

open Script ModuleRunner.Module Run

namespace World

/-- Every record of a world is under the same key in another one. -/
def Retains (w w' : World) : Prop :=
  ∀ key record, w.registry.records.get? key = some record →
    w'.registry.records.get? key = some record

/-- Every record of a world, but for the one under `key`, is under the same key in another one. -/
def RetainsBut (key : String) (w w' : World) : Prop :=
  ∀ other record, other ≠ key → w.registry.records.get? other = some record →
    w'.registry.records.get? other = some record

/-- Where a key has no record, nothing is lost under it. -/
lemma RetainsBut.retains {key : String} {w w' : World} (h : RetainsBut key w w')
    (hkey : w.registry.records.get? key = none) : Retains w w' := by
  intro other record hrecord
  have hne : other ≠ key := by
    rintro rfl
    rw [hkey] at hrecord
    cases hrecord
  exact h other record hne hrecord

lemma Retains.retainsBut {w w' : World} (h : Retains w w') (key : String) :
    RetainsBut key w w' :=
  fun other record _ hrecord => h other record hrecord

theorem frame_retains : Frame Retains where
  refl _ _ _ hrecord := hrecord
  trans h₁ h₂ key record hrecord := h₂ key record (h₁ key record hrecord)
  heap _ _ _ _ hrecord := hrecord
  console _ _ _ _ hrecord := hrecord
  interpreters _ _ _ _ hrecord := hrecord

theorem frame_retainsBut (key : String) : Frame (RetainsBut key) where
  refl _ _ _ _ hrecord := hrecord
  trans h₁ h₂ other record hne hrecord := h₂ other record hne (h₁ other record hne hrecord)
  heap _ _ _ _ _ hrecord := hrecord
  console _ _ _ _ _ hrecord := hrecord
  interpreters _ _ _ _ _ hrecord := hrecord

/-- Putting a record changes no other key. -/
lemma retainsBut_put {key : String} {w w' : World} {record : Record}
    (h : w'.registry.records = w.registry.records.put key record) : RetainsBut key w w' := by
  intro other found hne hfound
  rw [h, Table.get?_put_of_ne record hne]
  exact hfound

/-- Removing a record changes no other key. -/
lemma retainsBut_erase {key : String} {w w' : World}
    (h : w'.registry.records = w.registry.records.erase key) : RetainsBut key w w' := by
  intro other found hne hfound
  rw [h, Table.get?_erase_of_ne hne]
  exact hfound

end World

open World

section Load

variable {m : Machine} (hm : m.Has fun _ run => run.Keeps Retains)

include hm

/-- Scripts that cannot lose a record cannot lose one but for some key. -/
lemma Machine.Has.retainsBut (key : String) : m.Has fun _ run => run.Keeps (RetainsBut key) :=
  hm.imp fun hx w => (hx w).retainsBut key

/-- A provider's value goes under the provider's key, whatever it loaded before. -/
lemma keeps_buildNative (id : String) (ref : ProviderRef) :
    (buildNative m id ref).Keeps (RetainsBut id) := by
  have hR := (frame_retainsBut id).hereditary
  have hnote (e : Event) : (note e).Keeps (RetainsBut id) := fun _ _ _ _ hrecord => hrecord
  have hcount : (countCall ref).Keeps (RetainsBut id) := fun _ _ _ _ hrecord => hrecord
  have hcalled : (callProvider m ref).Keeps (RetainsBut id) :=
    hR.bind hcount fun _ => hR.perform (hm.retainsBut id) _
  refine hR.bind (hnote _) fun _ => hR.bind hcalled fun answer => ?_
  cases answer with
  | ok value => exact hR.bind (hnote _) fun _ w => retainsBut_put rfl
  | error reason =>
      refine hR.bind (hnote _) fun _ => hR.bind (fun w => ?_) fun _ => hR.fail _
      intro other record _ hrecord
      show (w.restoring id ref).registry.records.get? other = some record
      rw [records_restoring]
      exact hrecord

/-- The body of a module runs with its record in place; if it fails, that record is what goes. -/
lemma retainsBut_loadResource (key : String) (resource : Resource) (w : World) :
    RetainsBut key w ((loadResource m key resource).after w) := by
  have hR := frame_retainsBut key
  have hstart : RetainsBut key w (w.starting key resource) :=
    retainsBut_put (w.records_starting key resource)
  have hbody := hR.hereditary.runBody (hm.retainsBut key) (w.newRecord key resource) resource
    (w.starting key resource)
  have hend := hR.trans hstart hbody
  have hway := loadResource_execution m key resource w
  rw [after]
  generalize loadResource m key resource w = result at hway ⊢
  cases hway with
  | finished h =>
      rw [after_of_ok h] at hend
      exact hend
  | failed h =>
      rw [after_of_error h] at hend
      exact hR.trans hend (retainsBut_erase rfl)
  | exhausted h =>
      rw [after_of_error h] at hend
      exact hend

/-- A request that finds a record changes none, and one that does not changes only its own key. -/
lemma keeps_recordFor (request base : String) : (recordFor m request base).Keeps Retains := by
  intro w
  have hway := recordFor_answer m request base w
  rw [after]
  generalize recordFor m request base w = result at hway ⊢
  cases hway with
  | cached _ => exact frame_retains.refl w
  | hosted hrecord _ => exact RetainsBut.retains (retainsBut_put rfl) hrecord
  | built hrecord _ _ =>
      exact RetainsBut.retains (keeps_buildNative hm request _ (w.withoutProvider request)) hrecord
  | refused => exact fun _ _ hrecord => hrecord
  | absent => exact fun _ _ hrecord => hrecord
  | loaded hrecord _ _ _ =>
      exact RetainsBut.retains (retainsBut_loadResource hm request _ (w.noting _)) hrecord

/-- The record that is found for a request is in the registry then. -/
lemma recordFor_present {request base : String} {w w' : World} {record : Record}
    (h : recordFor m request base w = .ok record w') :
    w'.registry.records.get? request = some record := by
  have hway := recordFor_answer m request base w
  rw [h] at hway
  generalize hresult : EStateM.Result.ok record w' = result at hway
  cases hway with
  | cached hrecord =>
      cases hresult
      exact hrecord
  | hosted _ _ =>
      cases hresult
      exact Table.get?_put_self _ _ _
  | @built ref _ _ _ =>
      have hbuilding := buildNative_building m request ref (w.withoutProvider request)
      rw [← hresult] at hbuilding
      cases hbuilding with
      | made _ => exact Table.get?_put_self _ _ _
  | refused => cases hresult
  | absent => cases hresult
  | @loaded resource _ _ _ _ =>
      have hexecution := loadResource_execution m request resource
        (w.noting (.located (resolve request base)))
      rw [← hresult] at hexecution
      cases hexecution with
      | finished hbody =>
          have hkept := frame_retains.hereditary.runBody hm
            ((w.noting (.located (resolve request base))).newRecord request resource) resource
            ((w.noting (.located (resolve request base))).starting request resource)
          rw [after_of_ok hbody] at hkept
          refine hkept request _ ?_
          rw [records_starting]
          exact Table.get?_put_self _ _ _

lemma keeps_loadStep (request base : String) : (loadStep m request base).Keeps Retains := by
  have hnote (e : Event) : (note e).Keeps Retains := fun _ _ _ hrecord => hrecord
  exact frame_retains.loading (hnote _) (keeps_recordFor hm request base) (fun _ => hnote _)
    fun _ => hnote _

end Load

/-- Every level of evaluation leaves all records in place. -/
theorem machine_retains (n : Nat) : (machine n).Has fun _ run => run.Keeps Retains :=
  frame_retains.hereditary.machine (fun _ hm => keeps_loadStep hm) n

/-- **Records outlive loads.**  Every record that is in the registry when a load starts is there when
it ends, in success or in failure: under the same key and with the same id, origin and module
object. -/
theorem load_retains_records (n : Nat) (request base : String) (w : World) (key : String)
    (record : Record) (hrecord : w.registry.records.get? key = some record) :
    ((loadStep (machine n) request base).after w).registry.records.get? key = some record :=
  keeps_loadStep (machine_retains n) request base w key record hrecord

/-- A record stays while a module beside it is loaded whose source is malformed. -/
theorem load_retains_records_beside_malformed :
    let kept : Record := ⟨"lib/kept", "lib/kept.js", ⟨0⟩⟩
    let w : World :=
      { World.empty with
        registry := ⟨[("./kept", kept)], [], []⟩
        locate := fun id => .ok (some ⟨id, id ++ ".js", "exports.x = ;"⟩) }
    w.registry.records.get? "./kept" = some kept ∧
    ((loadStep (machine levels) "./broken" "lib/main").after w).registry.records.get? "./kept"
      = some kept := by
  refine ⟨?_, load_retains_records levels "./broken" "lib/main" _ "./kept" _ ?_⟩ <;>
    simp [Table.get?]

end ModuleRunner.Evaluation
