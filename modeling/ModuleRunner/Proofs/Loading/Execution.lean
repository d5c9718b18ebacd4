import ModuleRunner.Proofs.Loading.Request
import ModuleRunner.Proofs.Session.Act

/-!
# Module bodies are executed in turn

The history of a session tells where the executions of the body under a key stand: none yet, one in
progress, or the last one over.  While one is in progress, and ever after one that succeeded, the
record it started with is in the registry; so requests under the key are answered at once, and no
second execution starts.

The invariant speaks about one key, and so do the steps: what is done for another key is quiet, and
what is done for the key itself is followed event by event.

* `Phase`, `phase` — where the executions under a key stand.
* `InTurn` — the place of an event among the others.
* `Orderly`, `Advances` — the invariant, and what every part of evaluation does to it.
* `body_executions_in_turn` — the whole session.
-/

namespace ModuleRunner.Evaluation

open Script ModuleRunner.Module Run

/-! ## Phases -/

/-- Where the executions of the body under a key stand. -/
inductive Phase where
  /-- None has started. -/
  | unstarted
  /-- One is in progress, with the module object of a record. -/
  | running (record : Record)
  /-- The last one failed. -/
  | failed
  /-- The last one succeeded, with the module object of a record. -/
  | finished (record : Record)
deriving DecidableEq

/-- The record of an execution that is in progress or has succeeded. -/
def Phase.record? : Phase → Option Record
  | unstarted => none
  | running record => some record
  | failed => none
  | finished record => some record

/-- The phase that a history, last event first, leads to. -/
def phase (key : String) : List Event → Phase
  | [] => .unstarted
  | .started k record :: earlier => if k = key then .running record else phase key earlier
  | .ended k record success :: earlier =>
    if k = key then if success then .finished record else .failed else phase key earlier
  | _ :: earlier => phase key earlier

/-- The place of an event among the later ones (the next event last) and the earlier ones.  A body
starts only if none is in progress and none has succeeded; it ends only while it is in progress; and
a request made while it is in progress, or after it succeeded, is answered by its record and by the
very next event. -/
def InTurn (key : String) (later : List Event) (e : Event) (earlier : List Event) : Prop :=
  match e with
  | .started k _ => k = key → phase key earlier = .unstarted ∨ phase key earlier = .failed
  | .ended k record _ => k = key → phase key earlier = .running record
  | .requested k base => k = key → ∀ record, (phase key earlier).record? = some record →
      later.getLast? = some (.answered key base record)
  | _ => True

/-- Every event of a history is in its place. -/
def EachInTurn (key : String) (history : List Event) : Prop :=
  ∀ later e earlier, history = later ++ e :: earlier → InTurn key later e earlier

/-- An event that neither starts nor ends the body under a key, nor asks for it. -/
def Quiet (key : String) : Event → Prop
  | .started k _ => k ≠ key
  | .ended k _ _ => k ≠ key
  | .requested k _ => k ≠ key
  | _ => True

lemma phase_cons_of_quiet {key : String} {e : Event} (h : Quiet key e) (earlier : List Event) :
    phase key (e :: earlier) = phase key earlier := by
  cases e with
  | started k record => exact if_neg h
  | ended k record success => exact if_neg h
  | _ => rfl

lemma inTurn_of_quiet {key : String} {e : Event} (h : Quiet key e) (later earlier : List Event) :
    InTurn key later e earlier := by
  cases e with
  | started k record => exact fun hk => absurd hk h
  | ended k record success => exact fun hk => absurd hk h
  | requested k base => exact fun hk => absurd hk h
  | _ => trivial

/-- More events do not move an event out of its place. -/
lemma InTurn.later {key : String} {later : List Event} {e : Event} {earlier : List Event}
    (h : InTurn key later e earlier) (next : Event) : InTurn key (next :: later) e earlier := by
  cases e with
  | requested k base =>
      intro hk record hrecord
      rw [List.getLast?_cons, h hk record hrecord]
      rfl
  | _ => exact h

lemma eachInTurn_nil (key : String) : EachInTurn key [] := by
  intro later e earlier h
  simp at h

lemma EachInTurn.cons {key : String} {e : Event} {history : List Event}
    (h : EachInTurn key history) (he : InTurn key [] e history) : EachInTurn key (e :: history) := by
  intro later e' earlier heq
  cases later with
  | nil =>
      obtain ⟨rfl, rfl⟩ := List.cons.inj heq
      exact he
  | cons next later =>
      obtain ⟨rfl, hrest⟩ := List.cons.inj heq
      exact (h later e' earlier hrest).later _

/-- A request and its answer, one right after the other. -/
lemma EachInTurn.answered {key base : String} {record : Record} {history : List Event}
    (h : EachInTurn key history) (hrecord : (phase key history).record? = some record) :
    EachInTurn key (.answered key base record :: .requested key base :: history) := by
  intro later e earlier heq
  match later with
  | [] =>
      obtain ⟨rfl, rfl⟩ := List.cons.inj heq
      trivial
  | [next] =>
      obtain ⟨rfl, hrest⟩ := List.cons.inj heq
      obtain ⟨rfl, rfl⟩ := List.cons.inj hrest
      intro _ record' hrecord'
      rw [hrecord] at hrecord'
      cases hrecord'
      rfl
  | next :: second :: later =>
      obtain ⟨rfl, hrest⟩ := List.cons.inj heq
      obtain ⟨rfl, hsplit⟩ := List.cons.inj hrest
      exact ((h later e earlier hsplit).later _).later _

/-! ## The invariant -/

/-- What a session keeps to under a key that has no provider. -/
structure Orderly (key : String) (w : World) : Prop where
  isOpen : w.isClosed = false
  eachInTurn : EachInTurn key w.history
  /-- The record of an execution in progress, or of one that succeeded, is in the registry. -/
  present : ∀ record, (phase key w.history).record? = some record →
    w.registry.records.get? key = some record
  unprovided : w.registry.providers.get? key = none

/-- What every part of evaluation does: it keeps to the order, and it leaves an execution that is in
progress, or has succeeded, as it is. -/
def Advances (key : String) (w w' : World) : Prop :=
  Orderly key w → Orderly key w' ∧
    ∀ record, (phase key w.history).record? = some record →
      phase key w'.history = phase key w.history

/-- Where neither the history nor anything under the key changes, nothing advances. -/
lemma advances_of_eq {key : String} {w w' : World} (hclosed : w'.isClosed = w.isClosed)
    (hhistory : w'.history = w.history)
    (hrecord : w'.registry.records.get? key = w.registry.records.get? key)
    (hprovider : w'.registry.providers.get? key = w.registry.providers.get? key) :
    Advances key w w' := by
  intro h
  refine ⟨⟨hclosed.trans h.isOpen, hhistory ▸ h.eachInTurn, ?_, hprovider.trans h.unprovided⟩,
    fun _ _ => by rw [hhistory]⟩
  intro record hphase
  rw [hhistory] at hphase
  exact hrecord.trans (h.present record hphase)

theorem frame_advances (key : String) : Frame (Advances key) where
  refl _ := advances_of_eq rfl rfl rfl rfl
  trans := by
    intro u v w huv hvw hu
    obtain ⟨hv, huv⟩ := huv hu
    obtain ⟨hw, hvw⟩ := hvw hv
    refine ⟨hw, fun record hrecord => ?_⟩
    have hsame := huv record hrecord
    rw [hvw record (by rw [hsame]; exact hrecord), hsame]
  heap _ _ := advances_of_eq rfl rfl rfl rfl
  console _ _ := advances_of_eq rfl rfl rfl rfl
  interpreters _ _ := advances_of_eq rfl rfl rfl rfl

lemma advances_noting {key : String} {e : Event} (he : Quiet key e) (w : World) :
    Advances key w (w.noting e) := by
  intro h
  have hphase := phase_cons_of_quiet he w.history
  refine ⟨⟨h.isOpen, h.eachInTurn.cons (inTurn_of_quiet he _ _), ?_, h.unprovided⟩,
    fun _ _ => hphase⟩
  intro record hrecord
  rw [World.history_noting, hphase] at hrecord
  exact h.present record hrecord

section Load

variable {key : String} {m : Machine} (hm : m.Has fun _ run => run.Keeps (Advances key))

/-! ## Requests for other keys -/

section Other

variable {request : String} (hne : request ≠ key)

include hne

lemma advances_findRecord : (findRecord request).Keeps (Advances key) := by
  intro w
  cases hrecord : w.registry.records.get? request with
  | some record =>
      rw [after_of_ok (findRecord_of_record hrecord)]
      exact (frame_advances key).refl w
  | none =>
  cases hvalue : w.registry.values.get? request with
  | none =>
      rw [after_of_ok (findRecord_of_none hrecord hvalue)]
      exact (frame_advances key).refl w
  | some value =>
      rw [after_of_ok (findRecord_of_value hrecord hvalue)]
      exact advances_of_eq rfl rfl (Table.get?_put_of_ne _ (Ne.symm hne) _) rfl

lemma advances_takeProvider : (takeProvider request).Keeps (Advances key) :=
  fun _ => advances_of_eq rfl rfl rfl (Table.get?_erase_of_ne (Ne.symm hne) _)

lemma advances_restoreProvider (ref : ProviderRef) :
    (modifyRegistry (·.restoreProvider request ref)).Keeps (Advances key) := by
  intro w
  show Advances key w { w with registry := w.registry.restoreProvider request ref }
  rw [Registry.restoreProvider]
  split
  · exact (frame_advances key).refl w
  · exact advances_of_eq rfl rfl rfl (Table.get?_put_of_ne _ (Ne.symm hne) _)

include hm

lemma advances_buildNative (ref : ProviderRef) :
    (buildNative m request ref).Keeps (Advances key) := by
  have h := (frame_advances key).hereditary
  have hcount : (countCall ref).Keeps (Advances key) := fun _ => advances_of_eq rfl rfl rfl rfl
  have hcalled : (callProvider m ref).Keeps (Advances key) :=
    h.bind hcount fun _ => h.perform hm _
  refine h.bind (advances_noting trivial) fun _ => h.bind hcalled fun answer => ?_
  cases answer with
  | ok value =>
      exact h.bind (advances_noting trivial) fun _ _ =>
        advances_of_eq rfl rfl (Table.get?_put_of_ne _ (Ne.symm hne) _) rfl
  | error reason =>
      exact h.bind (advances_noting trivial) fun _ =>
        h.bind (advances_restoreProvider hne ref) fun _ => h.fail _

lemma advances_loadResource_of_ne (resource : Resource) :
    (loadResource m request resource).Keeps (Advances key) := by
  have h := (frame_advances key).hereditary
  have hcreate : (createRecord request resource).Keeps (Advances key) :=
    fun _ => advances_of_eq rfl rfl (Table.get?_put_of_ne _ (Ne.symm hne) _) rfl
  have hremove : (modifyRegistry (·.remove request)).Keeps (Advances key) :=
    fun _ => advances_of_eq rfl rfl (Table.get?_erase_of_ne (Ne.symm hne) _) rfl
  refine h.bind hcreate fun record => h.bind (advances_noting hne) fun _ =>
    h.bind (h.capture (h.runBody hm record resource)) fun outcome => ?_
  cases outcome with
  | ok _ => exact h.bind (advances_noting hne) fun _ => h.pure _
  | error failure =>
      exact h.bind (advances_noting hne) fun _ => h.bind hremove fun _ => h.fail _

lemma advances_recordFor_of_ne (base : String) :
    (recordFor m request base).Keeps (Advances key) := by
  have h := (frame_advances key).hereditary
  have hlocate (id : String) : (locateResource id).Keeps (Advances key) := by
    refine h.bind (advances_noting trivial) fun _ => h.bind h.get fun w => ?_
    cases w.locate id with
    | ok found => exact h.pure _
    | error e => exact h.fail _
  refine h.bind (advances_findRecord hne) fun found => ?_
  cases found with
  | some record => exact h.pure _
  | none =>
  refine h.bind (advances_takeProvider hne) fun provider => ?_
  cases provider with
  | some ref => exact advances_buildNative hm hne ref
  | none =>
  refine h.bind (hlocate _) fun found => ?_
  cases found with
  | none => exact h.fail _
  | some resource => exact advances_loadResource_of_ne hm hne resource

lemma advances_loadStep_of_ne (base : String) :
    (loadStep m request base).Keeps (Advances key) :=
  (frame_advances key).loading (advances_noting hne) (advances_recordFor_of_ne hm hne base)
    (fun _ => advances_noting trivial) fun _ => advances_noting trivial

end Other

/-! ## Requests for the key itself -/

/-- An execution may start when none is in progress and none has succeeded. -/
lemma Orderly.starting {w : World} (h : Orderly key w)
    (hidle : (phase key w.history).record? = none) (resource : Resource) :
    Orderly key (w.starting key resource) := by
  refine ⟨h.isOpen, h.eachInTurn.cons fun _ => ?_, fun record hrecord => ?_, h.unprovided⟩
  · cases hphase : phase key w.history with
    | unstarted => exact .inl rfl
    | failed => exact .inr rfl
    | running record => rw [hphase] at hidle; cases hidle
    | finished record => rw [hphase] at hidle; cases hidle
  · have hphase : phase key (w.starting key resource).history
        = .running (w.newRecord key resource) := if_pos rfl
    rw [hphase] at hrecord
    cases hrecord
    rw [w.records_starting]
    exact Table.get?_put_self _ _ _

/-- An execution that is in progress may succeed; its record stays. -/
lemma Orderly.finishing {w : World} {record : Record} (h : Orderly key w)
    (hphase : phase key w.history = .running record) :
    Orderly key (w.noting (.ended key record true)) := by
  refine ⟨h.isOpen, h.eachInTurn.cons fun _ => hphase, fun kept hkept => ?_, h.unprovided⟩
  have hlast : phase key (w.noting (.ended key record true)).history = .finished record := if_pos rfl
  rw [hlast] at hkept
  exact h.present kept (by rw [hphase]; exact hkept)

/-- An execution that is in progress may fail; its record goes. -/
lemma Orderly.failing {w : World} {record : Record} (h : Orderly key w)
    (hphase : phase key w.history = .running record) :
    Orderly key ((w.noting (.ended key record false)).evicting key) := by
  refine ⟨h.isOpen, h.eachInTurn.cons fun _ => hphase, fun kept hkept => ?_, h.unprovided⟩
  have hlast : phase key ((w.noting (.ended key record false)).evicting key).history = .failed :=
    if_pos rfl
  rw [hlast] at hkept
  cases hkept

include hm

/-- An execution from its start to its end.  Its body finds the phase it started, since nothing that
runs inside can end it. -/
lemma orderly_loadResource (resource : Resource) {w : World} (h : Orderly key w)
    (hidle : (phase key w.history).record? = none) :
    Orderly key ((loadResource m key resource).after w) := by
  have hstart : phase key (w.starting key resource).history
      = .running (w.newRecord key resource) := if_pos rfl
  obtain ⟨hend, hsame⟩ := (frame_advances key).hereditary.runBody hm (w.newRecord key resource)
    resource (w.starting key resource) (h.starting hidle resource)
  have hphase := hsame _ (by rw [hstart]; rfl)
  rw [hstart] at hphase
  have hway := loadResource_execution m key resource w
  rw [after]
  generalize loadResource m key resource w = result at hway ⊢
  cases hway with
  | finished hbody =>
      rw [after_of_ok hbody] at hend hphase
      exact hend.finishing hphase
  | failed hbody =>
      rw [after_of_error hbody] at hend hphase
      exact hend.failing hphase
  | exhausted hbody =>
      rw [after_of_error hbody] at hend
      exact hend

/-- A request while no execution is in progress or has succeeded. -/
lemma orderly_recordFor (base : String) {w : World} (h : Orderly key w)
    (hidle : (phase key w.history).record? = none) :
    Orderly key ((recordFor m key base).after w) := by
  have hlocated := (advances_noting (e := .located (resolve key base)) trivial w h).1
  have hway := recordFor_answer m key base w
  rw [after]
  generalize recordFor m key base w = result at hway ⊢
  cases hway with
  | cached _ => exact h
  | hosted hrecord hvalue =>
      refine ⟨h.isOpen, h.eachInTurn, fun record hactive => ?_, h.unprovided⟩
      rw [show phase key (w.hosting key _).history = phase key w.history from rfl, hidle] at hactive
      cases hactive
  | built _ _ hprovider =>
      rw [h.unprovided] at hprovider
      cases hprovider
  | refused _ _ _ _ => exact hlocated
  | absent _ _ _ _ => exact hlocated
  | loaded _ _ _ _ => exact orderly_loadResource hm _ hlocated hidle

lemma advances_loadStep_self (base : String) : (loadStep m key base).Keeps (Advances key) := by
  intro w h
  cases hactive : (phase key w.history).record? with
  | some record =>
      rw [after_of_ok (loadStep_of_record h.isOpen (h.present record hactive))]
      refine ⟨⟨h.isOpen, h.eachInTurn.answered hactive, h.present, h.unprovided⟩, fun _ _ => rfl⟩
  | none =>
      refine ⟨?_, fun record hrecord => by cases hrecord⟩
      have hasked : Orderly key (w.noting (.requested key base)) := by
        refine ⟨h.isOpen, h.eachInTurn.cons fun _ record hrecord => ?_, h.present, h.unprovided⟩
        rw [hactive] at hrecord
        cases hrecord
      have hfound := orderly_recordFor hm base hasked hactive
      have hway := loadStep_reply m key base w
      rw [after]
      generalize loadStep m key base w = result at hway ⊢
      cases hway with
      | closed hclosed =>
          rw [h.isOpen] at hclosed
          cases hclosed
      | @refused w' failure _ hrecord =>
          rw [after_of_error hrecord] at hfound
          exact (advances_noting (e := .refused key base failure) trivial w' hfound).1
      | exhausted _ hrecord =>
          rw [after_of_error hrecord] at hfound
          exact hfound
      | @answered w' record _ hrecord =>
          rw [after_of_ok hrecord] at hfound
          exact (advances_noting (e := .answered key base record) trivial w' hfound).1

lemma advances_loadStep (request base : String) :
    (loadStep m request base).Keeps (Advances key) := by
  by_cases h : request = key
  · subst h
    exact advances_loadStep_self hm base
  · exact advances_loadStep_of_ne hm h base

end Load

/-! ## Sessions -/

lemma IsFresh.orderly {key : String} {w : World} (h : w.IsFresh) : Orderly key w where
  isOpen := h.isClosed
  eachInTurn := h.history ▸ eachInTurn_nil key
  present record hrecord := by
    rw [h.history] at hrecord
    cases hrecord
  unprovided := by
    rw [h.registry]
    rfl

/-- A session keeps to the order under a key that it registers no provider for. -/
theorem advances_performAll {key : String} {acts : List HostAct}
    (hacts : ∀ provider, .registerNative key provider ∉ acts) :
    (performAll acts).Keeps (Advances key) := by
  have hR := frame_advances key
  have h := hR.hereditary
  refine hR.performAll (fun _ hm => advances_loadStep hm) acts ?_ ?_
  · intro id value _
    exact h.bind (advances_noting trivial) fun _ _ => advances_of_eq rfl rfl rfl rfl
  · intro id provider hmem
    have hne : key ≠ id := by
      rintro rfl
      exact hacts provider hmem
    have hnew : (newProvider provider).Keeps (Advances key) :=
      fun _ => advances_of_eq rfl rfl rfl rfl
    exact h.bind hnew fun ref => h.bind (advances_noting trivial) fun _ _ =>
      advances_of_eq rfl rfl rfl (Table.get?_put_of_ne _ hne _)

end ModuleRunner.Evaluation
