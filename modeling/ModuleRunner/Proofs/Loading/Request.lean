import ModuleRunner.Proofs.Evaluation.Frame

/-!
# What a request can do

A request takes one of six ways: a record is there; a value of the host becomes a record; a provider
is called; the locator fails, finds nothing, or finds a source that is run.  This file says it once,
with the worlds that each way goes through, so that no other proof opens the functions of a load.

* `World.noting`, `World.hosting`, `World.inserting`, `World.starting`, `World.evicting`, … — the
  worlds between the parts of a load.
* `Answer`, `recordFor_answer` — the ways of a request.
* `Building`, `buildNative_building` — the ways the call of a provider ends.
* `Execution`, `loadResource_execution` — the ways a module body ends.
* `Reply`, `loadStep_reply` — the ways a load ends.
* `Frame.loading` — what a load hands on.
-/

namespace ModuleRunner.Evaluation

open Script ModuleRunner.Module Run

/-! ## The worlds between -/

namespace World

/-- A world with one more event. -/
def noting (w : World) (e : Event) : World := { w with history := e :: w.history }

/-- The record of a value of the host. -/
def hostRecord (w : World) (id : String) (value : Value) : Record :=
  (Registry.newRecord w.heap id ("host:" ++ id) value).1

/-- The world in which a value of the host has become a record. -/
def hosting (w : World) (id : String) (value : Value) : World :=
  { w with
    heap := (Registry.newRecord w.heap id ("host:" ++ id) value).2
    registry :=
      { w.registry with
        values := w.registry.values.erase id
        records := w.registry.records.put id (w.hostRecord id value) } }

/-- The world in which the provider of an id is out of the registry. -/
def withoutProvider (w : World) (id : String) : World :=
  { w with registry := { w.registry with providers := w.registry.providers.erase id } }

/-- The record of a value that a provider made. -/
def nativeRecord (w : World) (id : String) (value : Value) : Record :=
  (w.registry.insertNative w.heap id value).1

/-- The world in which a value that a provider made has become a record. -/
def inserting (w : World) (id : String) (value : Value) : World :=
  { w with
    registry := (w.registry.insertNative w.heap id value).2.1
    heap := (w.registry.insertNative w.heap id value).2.2 }

/-- The world in which the provider of an id is back, unless there is a newer one. -/
def restoring (w : World) (id : String) (ref : ProviderRef) : World :=
  { w with registry := w.registry.restoreProvider id ref }

/-- The record that a module gets when its body starts. -/
def newRecord (w : World) (key : String) (resource : Resource) : Record :=
  (w.registry.create w.heap key resource.id resource.origin).1

/-- The world in which a module has got its record. -/
def creating (w : World) (key : String) (resource : Resource) : World :=
  { w with
    registry := (w.registry.create w.heap key resource.id resource.origin).2.1
    heap := (w.registry.create w.heap key resource.id resource.origin).2.2 }

/-- The world in which the body of a module starts. -/
def starting (w : World) (key : String) (resource : Resource) : World :=
  (w.creating key resource).noting (.started key (w.newRecord key resource))

/-- The world in which the record under a key is gone. -/
def evicting (w : World) (key : String) : World :=
  { w with registry := w.registry.remove key }

@[simp] lemma history_noting (w : World) (e : Event) :
    (w.noting e).history = e :: w.history := rfl

/-- Bringing a provider back touches no record and no value. -/
@[simp] lemma records_restoring (w : World) (id : String) (ref : ProviderRef) :
    (w.restoring id ref).registry.records = w.registry.records :=
  w.registry.records_restoreProvider id ref

@[simp] lemma values_restoring (w : World) (id : String) (ref : ProviderRef) :
    (w.restoring id ref).registry.values = w.registry.values :=
  w.registry.values_restoreProvider id ref

/-- A provider that waits after one was brought back waited before, or is that one. -/
lemma of_providers_restoring {w : World} {id key : String} {ref found : ProviderRef}
    (h : (w.restoring id ref).registry.providers.get? key = some found) :
    key = id ∨ w.registry.providers.get? key = some found := by
  unfold restoring Registry.restoreProvider at h
  split at h
  · exact .inr h
  · rcases Table.of_get?_put h with ⟨rfl, -⟩ | h
    · exact .inl rfl
    · exact .inr h

/-- A module that starts is in the registry, in place of what was there. -/
lemma records_starting (w : World) (key : String) (resource : Resource) :
    (w.starting key resource).registry.records
      = w.registry.records.put key (w.newRecord key resource) := rfl

end World

/-! ## The ways of a request -/

/-- How a request by code with the id `base` can be answered in a world. -/
inductive Answer (m : Machine) (request base : String) (w : World) :
    EStateM.Result Stop World Record → Prop where
  /-- A record is there. -/
  | cached {record : Record} (hrecord : w.registry.records.get? request = some record) :
      Answer m request base w (.ok record w)
  /-- A value of the host becomes a record. -/
  | hosted {value : Value} (hrecord : w.registry.records.get? request = none)
      (hvalue : w.registry.values.get? request = some value) :
      Answer m request base w (.ok (w.hostRecord request value) (w.hosting request value))
  /-- A provider is called. -/
  | built {ref : ProviderRef} (hrecord : w.registry.records.get? request = none)
      (hvalue : w.registry.values.get? request = none)
      (hprovider : w.registry.providers.get? request = some ref) :
      Answer m request base w (buildNative m request ref (w.withoutProvider request))
  /-- The locator fails. -/
  | refused {e : LoadError} (hrecord : w.registry.records.get? request = none)
      (hvalue : w.registry.values.get? request = none)
      (hprovider : w.registry.providers.get? request = none)
      (hlocate : w.locate (resolve request base) = .error e) :
      Answer m request base w
        (.error (.failed (.load e)) (w.noting (.located (resolve request base))))
  /-- The locator finds nothing. -/
  | absent (hrecord : w.registry.records.get? request = none)
      (hvalue : w.registry.values.get? request = none)
      (hprovider : w.registry.providers.get? request = none)
      (hlocate : w.locate (resolve request base) = .ok none) :
      Answer m request base w
        (.error (.failed (.load (.notFound request))) (w.noting (.located (resolve request base))))
  /-- The locator finds a source, which is run. -/
  | loaded {resource : Resource} (hrecord : w.registry.records.get? request = none)
      (hvalue : w.registry.values.get? request = none)
      (hprovider : w.registry.providers.get? request = none)
      (hlocate : w.locate (resolve request base) = .ok (some resource)) :
      Answer m request base w
        (loadResource m request resource (w.noting (.located (resolve request base))))

lemma findRecord_of_record {w : World} {id : String} {record : Record}
    (h : w.registry.records.get? id = some record) :
    findRecord id w = .ok (some record) w := by
  simp only [findRecord, Registry.find, h]

lemma findRecord_of_value {w : World} {id : String} {value : Value}
    (hrecord : w.registry.records.get? id = none) (hvalue : w.registry.values.get? id = some value) :
    findRecord id w = .ok (some (w.hostRecord id value)) (w.hosting id value) := by
  simp only [findRecord, Registry.find, hrecord, hvalue]
  rfl

lemma findRecord_of_none {w : World} {id : String}
    (hrecord : w.registry.records.get? id = none) (hvalue : w.registry.values.get? id = none) :
    findRecord id w = .ok none w := by
  simp only [findRecord, Registry.find, hrecord, hvalue]

/-- What the locator answers, or fails with. -/
lemma locateResource_of_error {w : World} {id : String} {e : LoadError}
    (h : w.locate id = .error e) :
    locateResource id w = .error (.failed (.load e)) (w.noting (.located id)) := by
  have hnote : note (.located id) w = .ok () (w.noting (.located id)) := rfl
  have hget : (get : Run World) (w.noting (.located id))
      = .ok (w.noting (.located id)) (w.noting (.located id)) := rfl
  have hlocate : (w.noting (.located id)).locate id = .error e := h
  rw [locateResource, bind_of_ok hnote, bind_of_ok hget, hlocate]
  rfl

lemma locateResource_of_ok {w : World} {id : String} {found : Option Resource}
    (h : w.locate id = .ok found) : locateResource id w = .ok found (w.noting (.located id)) := by
  have hnote : note (.located id) w = .ok () (w.noting (.located id)) := rfl
  have hget : (get : Run World) (w.noting (.located id))
      = .ok (w.noting (.located id)) (w.noting (.located id)) := rfl
  have hlocate : (w.noting (.located id)).locate id = .ok found := h
  rw [locateResource, bind_of_ok hnote, bind_of_ok hget, hlocate]
  rfl

/-- The way of a request, found by looking at the registry and then at the locator. -/
theorem recordFor_answer (m : Machine) (request base : String) (w : World) :
    Answer m request base w (recordFor m request base w) := by
  unfold recordFor
  cases hrecord : w.registry.records.get? request with
  | some record =>
      rw [bind_of_ok (findRecord_of_record hrecord)]
      exact .cached hrecord
  | none =>
  cases hvalue : w.registry.values.get? request with
  | some value =>
      rw [bind_of_ok (findRecord_of_value hrecord hvalue)]
      exact .hosted hrecord hvalue
  | none =>
  rw [bind_of_ok (findRecord_of_none hrecord hvalue)]
  have htake : takeProvider request w
      = .ok (w.registry.providers.get? request) (w.withoutProvider request) := rfl
  dsimp only
  rw [bind_of_ok htake]
  cases hprovider : w.registry.providers.get? request with
  | some ref => exact .built hrecord hvalue hprovider
  | none =>
  -- nothing was taken out, so the world is what it was
  have hw : w.withoutProvider request = w := by
    rw [World.withoutProvider, Table.erase_of_get?_eq_none hprovider]
  dsimp only
  rw [hw]
  cases hlocate : w.locate (resolve request base) with
  | error e =>
      rw [bind_of_error (locateResource_of_error hlocate)]
      exact .refused hrecord hvalue hprovider hlocate
  | ok found =>
      rw [bind_of_ok (locateResource_of_ok hlocate)]
      cases found with
      | none => exact .absent hrecord hvalue hprovider hlocate
      | some resource => exact .loaded hrecord hvalue hprovider hlocate

/-! ## The ways of a provider -/

lemma unfailing_setExtras (value : Value) :
    ∀ extras : List (String × Json), Unfailing (setExtras value extras)
  | [] => unfailing_pure _
  | _ :: rest => by
      refine Unfailing.bind ?_ fun extra => (unfailing_capture _).bind fun _ =>
        unfailing_setExtras value rest
      rintro w failure w' ⟨⟩

lemma unfailing_reported : ∀ outcome : Except Failure Value, Unfailing (reported outcome)
  | .ok _ => unfailing_pure _
  | .error failure => by
      have hread : Unfailing (readHeap (failure.message? ·)) := by
        rintro w failure w' ⟨⟩
      refine hread.bind fun message => Unfailing.bind ?_ fun _ => unfailing_pure _
      cases message with
      | some text => exact unfailing_pure _
      | none => rintro w failure w' ⟨⟩

/-- What goes wrong while a provider is called becomes its answer. -/
lemma unfailing_callProvider (m : Machine) (ref : ProviderRef) :
    Unfailing (callProvider m ref) := by
  have hperform (act : ProviderAct) : Unfailing (perform m act) := by
    induction act with
    | fail reason => exact unfailing_pure _
    | give document extras =>
        refine Unfailing.bind ?_ fun value => (unfailing_setExtras value extras).bind fun _ =>
          unfailing_pure _
        rintro w failure w' ⟨⟩
    | hand value => exact unfailing_pure _
    | ask id base next ih =>
        exact (unfailing_capture _).bind fun outcome => (unfailing_reported outcome).bind ih
  have hcount : Unfailing (countCall ref) := by
    rintro w failure w' ⟨⟩
  exact hcount.bind fun _ => hperform _

/-- How the call of a provider can end.  One that fails is back in the registry afterwards. -/
inductive Building (m : Machine) (id : String) (ref : ProviderRef) (w : World) :
    EStateM.Result Stop World Record → Prop where
  | made {w' : World} {value : Value}
      (hcall : callProvider m ref (w.noting (.entered id ref)) = .ok (.ok value) w') :
      Building m id ref w (.ok ((w'.noting (.left id ref true)).nativeRecord id value)
        ((w'.noting (.left id ref true)).inserting id value))
  | failed {w' : World} {reason : String}
      (hcall : callProvider m ref (w.noting (.entered id ref)) = .ok (.error reason) w') :
      Building m id ref w (.error (.failed (.load (.native id reason)))
        ((w'.noting (.left id ref false)).restoring id ref))
  | exhausted {w' : World}
      (hcall : callProvider m ref (w.noting (.entered id ref)) = .error .exhausted w') :
      Building m id ref w (.error .exhausted w')

/-- The way the call of a provider ends. -/
theorem buildNative_building (m : Machine) (id : String) (ref : ProviderRef) (w : World) :
    Building m id ref w (buildNative m id ref w) := by
  have hnote : note (.entered id ref) w = .ok () (w.noting (.entered id ref)) := rfl
  rw [buildNative, bind_of_ok hnote]
  cases hcall : callProvider m ref (w.noting (.entered id ref)) with
  | error e w' =>
      cases e with
      | failed failure => exact absurd hcall (unfailing_callProvider m ref _ failure w')
      | exhausted =>
          rw [bind_of_error hcall]
          exact .exhausted hcall
  | ok answer w' =>
      rw [bind_of_ok hcall]
      cases answer with
      | ok value => exact .made hcall
      | error reason => exact .failed hcall

/-! ## The ways of a body -/

/-- How the body of a module can end, started in a world.  A body that fails takes its record out;
one that runs out of levels leaves everything as it is. -/
inductive Execution (m : Machine) (key : String) (resource : Resource) (w : World) :
    EStateM.Result Stop World Record → Prop where
  | finished {w' : World}
      (hbody : runBody m (w.newRecord key resource) resource (w.starting key resource)
        = .ok () w') :
      Execution m key resource w (.ok (w.newRecord key resource)
        (w'.noting (.ended key (w.newRecord key resource) true)))
  | failed {w' : World} {failure : Failure}
      (hbody : runBody m (w.newRecord key resource) resource (w.starting key resource)
        = .error (.failed failure) w') :
      Execution m key resource w (.error (.failed failure)
        ((w'.noting (.ended key (w.newRecord key resource) false)).evicting key))
  | exhausted {w' : World}
      (hbody : runBody m (w.newRecord key resource) resource (w.starting key resource)
        = .error .exhausted w') :
      Execution m key resource w (.error .exhausted w')

/-- The way a body ends. -/
theorem loadResource_execution (m : Machine) (key : String) (resource : Resource) (w : World) :
    Execution m key resource w (loadResource m key resource w) := by
  have hcreate : createRecord key resource w
      = .ok (w.newRecord key resource) (w.creating key resource) := rfl
  have hnote : note (.started key (w.newRecord key resource)) (w.creating key resource)
      = .ok () (w.starting key resource) := rfl
  rw [loadResource, bind_of_ok hcreate, bind_of_ok hnote]
  cases hbody : runBody m (w.newRecord key resource) resource (w.starting key resource) with
  | ok a w' =>
      rw [bind_of_ok (capture_of_ok hbody)]
      exact .finished hbody
  | error e w' =>
      cases e with
      | failed failure =>
          rw [bind_of_ok (capture_of_failed hbody)]
          exact .failed hbody
      | exhausted =>
          rw [bind_of_error (capture_of_exhausted hbody)]
          exact .exhausted hbody

/-! ## The exports -/

/-- A session that is over answers nothing. -/
lemma loadStep_of_closed {m : Machine} {request base : String} {w : World}
    (h : w.isClosed = true) :
    loadStep m request base w = .error (.failed (.load .closed)) w := by
  have hget : (get : Run World) w = .ok w w := rfl
  rw [loadStep, bind_of_ok hget, h]
  rfl

/-- A session that is not over notes the request, finds the record and notes how that ended. -/
lemma loadStep_of_open {m : Machine} {request base : String} {w : World}
    (h : w.isClosed = false) :
    loadStep m request base w
      = (capture (recordFor m request base) >>= conclude request base)
          (w.noting (.requested request base)) := by
  have hget : (get : Run World) w = .ok w w := rfl
  rw [loadStep, bind_of_ok hget, h]
  rfl

/-- A request whose record is there is answered at once, and nothing else happens. -/
lemma loadStep_of_record {m : Machine} {request base : String} {w : World} {record : Record}
    (hopen : w.isClosed = false) (h : w.registry.records.get? request = some record) :
    loadStep m request base w = .ok (record.exports w.heap)
      ((w.noting (.requested request base)).noting (.answered request base record)) := by
  have hthere : findRecord request (w.noting (.requested request base))
      = .ok (some record) (w.noting (.requested request base)) := findRecord_of_record h
  have hfound : recordFor m request base (w.noting (.requested request base))
      = .ok record (w.noting (.requested request base)) := by
    rw [recordFor, bind_of_ok hthere]
    rfl
  rw [loadStep_of_open hopen, bind_of_ok (capture_of_ok hfound)]
  rfl

/-- How a load can end. -/
inductive Reply (m : Machine) (request base : String) (w : World) :
    EStateM.Result Stop World Value → Prop where
  /-- The session is over. -/
  | closed (hclosed : w.isClosed = true) :
      Reply m request base w (.error (.failed (.load .closed)) w)
  /-- There is no record; the load fails as the search for it did. -/
  | refused {w' : World} {failure : Failure} (hopen : w.isClosed = false)
      (hrecord : recordFor m request base (w.noting (.requested request base))
        = .error (.failed failure) w') :
      Reply m request base w
        (.error (.failed failure) (w'.noting (.refused request base failure)))
  /-- The search for a record runs out of levels. -/
  | exhausted {w' : World} (hopen : w.isClosed = false)
      (hrecord : recordFor m request base (w.noting (.requested request base))
        = .error .exhausted w') :
      Reply m request base w (.error .exhausted w')
  /-- There is a record; its exports are read as they are now. -/
  | answered {w' : World} {record : Record} (hopen : w.isClosed = false)
      (hrecord : recordFor m request base (w.noting (.requested request base)) = .ok record w') :
      Reply m request base w
        (.ok (record.exports w'.heap) (w'.noting (.answered request base record)))

/-- The way a load ends. -/
theorem loadStep_reply (m : Machine) (request base : String) (w : World) :
    Reply m request base w (loadStep m request base w) := by
  cases hclosed : w.isClosed with
  | true =>
      rw [loadStep_of_closed hclosed]
      exact .closed hclosed
  | false =>
      rw [loadStep_of_open hclosed]
      cases hrecord : recordFor m request base (w.noting (.requested request base)) with
      | ok record w' =>
          rw [bind_of_ok (capture_of_ok hrecord)]
          exact .answered hclosed hrecord
      | error e w' =>
      cases e with
      | failed failure =>
          rw [bind_of_ok (capture_of_failed hrecord)]
          exact .refused hclosed hrecord
      | exhausted =>
          rw [bind_of_error (capture_of_exhausted hrecord)]
          exact .exhausted hclosed hrecord

/-- What finding its record hands on, and noting it and its end do, a load hands on. -/
lemma Frame.loading {R : World → World → Prop} (hR : Frame R) {m : Machine}
    {request base : String} (hrequested : (note (.requested request base)).Keeps R)
    (hrecord : (recordFor m request base).Keeps R)
    (hanswered : ∀ record, (note (.answered request base record)).Keeps R)
    (hrefused : ∀ failure, (note (.refused request base failure)).Keeps R) :
    (loadStep m request base).Keeps R := by
  intro w
  have hasked : R w (w.noting (.requested request base)) := hrequested w
  have hfound := hR.trans hasked (hrecord (w.noting (.requested request base)))
  have hway := loadStep_reply m request base w
  rw [after]
  generalize loadStep m request base w = result at hway ⊢
  cases hway with
  | closed _ => exact hR.refl w
  | @refused w' failure _ hresult =>
      rw [after_of_error hresult] at hfound
      exact hR.trans hfound (hrefused failure w')
  | exhausted _ hresult =>
      rw [after_of_error hresult] at hfound
      exact hfound
  | @answered w' record _ hresult =>
      rw [after_of_ok hresult] at hfound
      exact hR.trans hfound (hanswered record w')

/-- **What a load returns.**  The exports of a record as they are at its end, which is the event that
says so. -/
theorem loadStep_answered {m : Machine} {request base : String} {w w' : World} {value : Value}
    (h : loadStep m request base w = .ok value w') :
    ∃ record earlier, w'.history = .answered request base record :: earlier ∧
      value = record.exports w'.heap := by
  have hway := loadStep_reply m request base w
  rw [h] at hway
  cases hway with
  | answered _ _ => exact ⟨_, _, rfl, rfl⟩

end ModuleRunner.Evaluation
