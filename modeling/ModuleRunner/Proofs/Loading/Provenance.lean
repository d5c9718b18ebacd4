import ModuleRunner.Proofs.Loading.Request
import ModuleRunner.Proofs.Session.Act

/-!
# Where answers come from

The registry is asked for the very words of a request, and only a request that finds nothing there is
resolved.  So the module that made a record decides what the record holds, and every later request of
the same words gets it, from whatever directory.

The invariant says of each record which request made it.  A record that no host value and no provider
stands behind was made right after its request was resolved and located, and the history shows the
three events side by side.

* `Sourced` — why a record answers a key.
* `Traced`, `Traces` — the invariant, and what every part of evaluation does to it.
* `answers_sourced` — the whole session.
* `answer_from_another_directory` — two directories with one spelling.
-/

namespace ModuleRunner.Evaluation

open Script ModuleRunner.Module Run

variable {locate : String → Except LoadError (Option Resource)}

/-! ## The invariant -/

/-- Why a record answers requests under a key, as a history tells it. -/
inductive Sourced (locate : String → Except LoadError (Option Resource)) (key : String)
    (record : Record) (history : List Event) : Prop where
  /-- The host registered a value or a provider. -/
  | supplied (hmem : .supplied key ∈ history)
  /-- A request was resolved for the module that made it, and the body found there was started with
  the record. -/
  | located (base : String) (resource : Resource) (later older : List Event)
      (hhistory : history = later ++
        .started key record :: .located (resolve key base) :: .requested key base :: older)
      (hlocate : locate (resolve key base) = .ok (some resource))
      (hid : record.id = resource.id) (horigin : record.origin = resource.origin)

/-- What a session keeps to. -/
structure Traced (locate : String → Except LoadError (Option Resource)) (w : World) : Prop where
  locates : w.locate = locate
  values : ∀ id value, w.registry.values.get? id = some value → .supplied id ∈ w.history
  providers : ∀ id ref, w.registry.providers.get? id = some ref → .supplied id ∈ w.history
  records : ∀ key record, w.registry.records.get? key = some record →
    Sourced locate key record w.history
  /-- A record that answered was sourced when it did. -/
  answers : ∀ later request base record earlier,
    w.history = later ++ .answered request base record :: earlier →
      Sourced locate request record earlier

/-- What every part of evaluation does: it goes on with the history, and leaves it traced. -/
def Traces (locate : String → Except LoadError (Option Resource)) (w w' : World) : Prop :=
  Traced locate w → Traced locate w' ∧ w.history <:+ w'.history

/-- A reason is one for ever. -/
lemma Sourced.later {key : String} {record : Record} {history history' : List Event}
    (h : Sourced locate key record history) (hsuffix : history <:+ history') :
    Sourced locate key record history' := by
  obtain ⟨front, rfl⟩ := hsuffix
  cases h with
  | supplied hmem => exact .supplied (List.mem_append_right _ hmem)
  | located base resource later older hhistory hlocate hid horigin =>
      refine .located base resource (front ++ later) older ?_ hlocate hid horigin
      rw [hhistory, List.append_assoc]

/-- Where the history stays, it is enough that whatever is new in the registry has its reason. -/
lemma Traced.of_registry {w w' : World} (h : Traced locate w) (hlocate : w'.locate = w.locate)
    (hhistory : w'.history = w.history)
    (hvalues : ∀ id value, w'.registry.values.get? id = some value →
      w.registry.values.get? id = some value ∨ .supplied id ∈ w.history)
    (hproviders : ∀ id ref, w'.registry.providers.get? id = some ref →
      w.registry.providers.get? id = some ref ∨ .supplied id ∈ w.history)
    (hrecords : ∀ key record, w'.registry.records.get? key = some record →
      w.registry.records.get? key = some record ∨ Sourced locate key record w.history) :
    Traced locate w' := by
  refine ⟨hlocate.trans h.locates, ?_, ?_, ?_, ?_⟩
  · intro id value hvalue
    rw [hhistory]
    rcases hvalues id value hvalue with hvalue | hmem
    · exact h.values id value hvalue
    · exact hmem
  · intro id ref hprovider
    rw [hhistory]
    rcases hproviders id ref hprovider with hprovider | hmem
    · exact h.providers id ref hprovider
    · exact hmem
  · intro key record hrecord
    rw [hhistory]
    rcases hrecords key record hrecord with hrecord | hsourced
    · exact h.records key record hrecord
    · exact hsourced
  · rw [hhistory]
    exact h.answers

/-- A record that has its reason may come. -/
lemma Traced.of_put {w w' : World} {key : String} {record : Record} (h : Traced locate w)
    (hsourced : Sourced locate key record w.history) (hlocate : w'.locate = w.locate)
    (hhistory : w'.history = w.history)
    (hvalues : ∀ id value, w'.registry.values.get? id = some value →
      w.registry.values.get? id = some value)
    (hproviders : w'.registry.providers = w.registry.providers)
    (hrecords : w'.registry.records = w.registry.records.put key record) : Traced locate w' := by
  refine h.of_registry hlocate hhistory (fun id value hvalue => .inl (hvalues id value hvalue)) ?_ ?_
  · rw [hproviders]
    exact fun _ _ => .inl
  · rw [hrecords]
    intro other found hfound
    rcases Table.of_get?_put hfound with ⟨rfl, rfl⟩ | hfound
    · exact .inr hsourced
    · exact .inl hfound

/-- What neither the locator nor the history nor the registry shows leaves no trace. -/
lemma traces_of_eq {w w' : World} (hlocate : w'.locate = w.locate)
    (hhistory : w'.history = w.history) (hregistry : w'.registry = w.registry) :
    Traces locate w w' := by
  intro h
  refine ⟨h.of_registry hlocate hhistory ?_ ?_ ?_, ?_⟩
  · rw [hregistry]
    exact fun _ _ => .inl
  · rw [hregistry]
    exact fun _ _ => .inl
  · rw [hregistry]
    exact fun _ _ => .inl
  · rw [hhistory]

/-- An event that answers with a sourced record, or answers nothing, may follow. -/
lemma Traced.noting {w : World} (h : Traced locate w) {e : Event}
    (he : ∀ request base record, e = .answered request base record →
      Sourced locate request record w.history) : Traced locate (w.noting e) := by
  have hsuffix : w.history <:+ (w.noting e).history := List.suffix_cons e w.history
  refine ⟨h.locates, ?_, ?_, ?_, ?_⟩
  · intro id value hvalue
    exact hsuffix.mem (h.values id value hvalue)
  · intro id ref hprovider
    exact hsuffix.mem (h.providers id ref hprovider)
  · intro key record hrecord
    exact (h.records key record hrecord).later hsuffix
  · intro later request base record earlier hhistory
    cases later with
    | nil =>
        obtain ⟨rfl, rfl⟩ := List.cons.inj hhistory
        exact he request base record rfl
    | cons _ later =>
        obtain ⟨-, hrest⟩ := List.cons.inj hhistory
        exact h.answers later request base record earlier hrest

theorem frame_traces : Frame (Traces locate) where
  refl w h := ⟨h, List.suffix_refl _⟩
  trans := by
    intro u v w huv hvw hu
    obtain ⟨hv, huv⟩ := huv hu
    obtain ⟨hw, hvw⟩ := hvw hv
    exact ⟨hw, huv.trans hvw⟩
  heap _ _ := traces_of_eq rfl rfl rfl
  console _ _ := traces_of_eq rfl rfl rfl
  interpreters _ _ := traces_of_eq rfl rfl rfl

/-! ## The registrations of a session -/

/-- A value waits under an id that the host supplied. -/
lemma traces_register (id : String) (value : Value) :
    (Session.register id value).Keeps (Traces locate) := by
  intro w h
  have hnoted : Traced locate (w.noting (.supplied id)) := h.noting (by rintro _ _ _ ⟨⟩)
  refine ⟨hnoted.of_registry rfl rfl ?_ (fun _ _ => .inl) (fun _ _ => .inl),
    List.suffix_cons _ w.history⟩
  intro other found hfound
  rcases Table.of_get?_put hfound with ⟨rfl, -⟩ | hfound
  · exact .inr List.mem_cons_self
  · exact .inl hfound

/-- So does a provider. -/
lemma traces_registerNative (id : String) (provider : Provider) :
    (Session.registerNative id provider).Keeps (Traces locate) := by
  intro w h
  have hpushed : Traces locate w { w with providers := w.providers.push provider } :=
    traces_of_eq rfl rfl rfl
  have hnoted := (hpushed h).1.noting (e := .supplied id) (by rintro _ _ _ ⟨⟩)
  refine ⟨hnoted.of_registry rfl rfl (fun _ _ => .inl) ?_ (fun _ _ => .inl),
    List.suffix_cons _ w.history⟩
  intro other found hfound
  rcases Table.of_get?_put hfound with ⟨rfl, -⟩ | hfound
  · exact .inr List.mem_cons_self
  · exact .inl hfound

/-! ## Requests -/

/-- What a request that is being answered leaves: a traced world, and a sourced record if it leaves
one. -/
def Finds (locate : String → Except LoadError (Option Resource)) (key : String) (w : World) :
    EStateM.Result Stop World Record → Prop
  | .ok record w' =>
    Traced locate w' ∧ w.history <:+ w'.history ∧ Sourced locate key record w'.history
  | .error _ w' => Traced locate w' ∧ w.history <:+ w'.history

/-- A request may be followed from later on. -/
lemma Finds.of_suffix {key : String} {w w₁ : World} {result : EStateM.Result Stop World Record}
    (h : Finds locate key w₁ result) (hsuffix : w.history <:+ w₁.history) :
    Finds locate key w result := by
  cases result with
  | ok record w' =>
      obtain ⟨hend, hlong, hsourced⟩ := h
      exact ⟨hend, hsuffix.trans hlong, hsourced⟩
  | error e w' =>
      obtain ⟨hend, hlong⟩ := h
      exact ⟨hend, hsuffix.trans hlong⟩

section Load

variable {m : Machine} (hm : m.Has fun _ run => run.Keeps (Traces locate))

include hm

lemma traces_callProvider (ref : ProviderRef) : (callProvider m ref).Keeps (Traces locate) := by
  have h := frame_traces.hereditary (R := Traces locate)
  have hcount : (countCall ref).Keeps (Traces locate) := fun _ => traces_of_eq rfl rfl rfl
  exact h.bind hcount fun _ => h.perform hm _

/-- What a provider makes has the provider for its reason. -/
lemma finds_buildNative {id : String} {w : World} (h : Traced locate w)
    (hsupplied : .supplied id ∈ w.history) (ref : ProviderRef) :
    Finds locate id w (buildNative m id ref w) := by
  have hentered : Traced locate (w.noting (.entered id ref)) := h.noting (by rintro _ _ _ ⟨⟩)
  have hcalled := traces_callProvider hm ref _ hentered
  have hway := buildNative_building m id ref w
  generalize buildNative m id ref w = result at hway ⊢
  cases hway with
  | @made w' value hcall =>
      rw [after_of_ok hcall] at hcalled
      obtain ⟨hend, hsuffix⟩ := hcalled
      have hlong : w.history <:+ .left id ref true :: w'.history :=
        (List.suffix_cons _ _).trans (hsuffix.trans (List.suffix_cons _ _))
      have hleft : Traced locate (w'.noting (.left id ref true)) :=
        hend.noting (by rintro _ _ _ ⟨⟩)
      exact ⟨hleft.of_put (.supplied (hlong.mem hsupplied)) rfl rfl (fun _ _ hvalue => hvalue) rfl rfl,
        hlong, .supplied (hlong.mem hsupplied)⟩
  | @failed w' reason hcall =>
      rw [after_of_ok hcall] at hcalled
      obtain ⟨hend, hsuffix⟩ := hcalled
      have hlong : w.history <:+ .left id ref false :: w'.history :=
        (List.suffix_cons _ _).trans (hsuffix.trans (List.suffix_cons _ _))
      have hleft : Traced locate (w'.noting (.left id ref false)) :=
        hend.noting (by rintro _ _ _ ⟨⟩)
      refine ⟨hleft.of_registry ?_ ?_ ?_ ?_ ?_, hlong⟩
      · rfl
      · rfl
      · rw [World.values_restoring]
        exact fun _ _ => .inl
      · intro key found hfound
        rcases World.of_providers_restoring hfound with rfl | hfound
        · exact .inr (hlong.mem hsupplied)
        · exact .inl hfound
      · rw [World.records_restoring]
        exact fun _ _ => .inl
  | exhausted hcall =>
      rw [after_of_error hcall] at hcalled
      obtain ⟨hend, hsuffix⟩ := hcalled
      exact ⟨hend, (List.suffix_cons _ _).trans hsuffix⟩

/-- A body starts right after its id was located for the request; what runs inside only adds to the
history. -/
lemma finds_loadResource {key base : String} {resource : Resource} {w : World} {older : List Event}
    (h : Traced locate w)
    (hhistory : w.history = .located (resolve key base) :: .requested key base :: older)
    (hlocate : locate (resolve key base) = .ok (some resource)) :
    Finds locate key w (loadResource m key resource w) := by
  have hsourced : Sourced locate key (w.newRecord key resource)
      (w.starting key resource).history := by
    refine .located base resource [] older ?_ hlocate rfl rfl
    rw [List.nil_append, ← hhistory]
    rfl
  have hfresh : w.history <:+ (w.starting key resource).history := List.suffix_cons _ _
  have hstart : Traced locate (w.starting key resource) := by
    have hnoted := h.noting (e := .started key (w.newRecord key resource)) (by rintro _ _ _ ⟨⟩)
    exact hnoted.of_put hsourced rfl rfl (fun _ _ hvalue => hvalue) rfl (w.records_starting key resource)
  have hrun := frame_traces.hereditary.runBody hm (w.newRecord key resource) resource
    (w.starting key resource) hstart
  have hway := loadResource_execution m key resource w
  generalize loadResource m key resource w = result at hway ⊢
  cases hway with
  | @finished w' hbody =>
      rw [after_of_ok hbody] at hrun
      obtain ⟨hend, hsuffix⟩ := hrun
      have hlong := hsuffix.trans
        (List.suffix_cons (.ended key (w.newRecord key resource) true) w'.history)
      exact ⟨hend.noting (by rintro _ _ _ ⟨⟩), hfresh.trans hlong, hsourced.later hlong⟩
  | @failed w' failure hbody =>
      rw [after_of_error hbody] at hrun
      obtain ⟨hend, hsuffix⟩ := hrun
      have hended : Traced locate (w'.noting (.ended key (w.newRecord key resource) false)) :=
        hend.noting (by rintro _ _ _ ⟨⟩)
      refine ⟨hended.of_registry rfl rfl (fun _ _ => .inl) (fun _ _ => .inl) ?_,
        hfresh.trans (hsuffix.trans (List.suffix_cons _ _))⟩
      intro other record hrecord
      exact .inl (Table.get?_of_get?_erase hrecord)
  | exhausted hbody =>
      rw [after_of_error hbody] at hrun
      obtain ⟨hend, hsuffix⟩ := hrun
      exact ⟨hend, hfresh.trans hsuffix⟩

/-- A record that was there has its reason already, and a new one gets it on each way. -/
lemma finds_recordFor {request base : String} {w : World} {older : List Event}
    (h : Traced locate w) (hhistory : w.history = .requested request base :: older) :
    Finds locate request w (recordFor m request base w) := by
  have hlocated : Traced locate (w.noting (.located (resolve request base))) :=
    h.noting (by rintro _ _ _ ⟨⟩)
  have hway := recordFor_answer m request base w
  generalize recordFor m request base w = result at hway ⊢
  cases hway with
  | @cached record hrecord => exact ⟨h, List.suffix_refl _, h.records request record hrecord⟩
  | @hosted value hrecord hvalue =>
      have hsupplied := h.values request value hvalue
      exact ⟨h.of_put (.supplied hsupplied) rfl rfl (fun _ _ => Table.get?_of_get?_erase) rfl rfl,
        List.suffix_refl _, .supplied hsupplied⟩
  | @built ref hrecord hvalue hprovider =>
      have hsupplied := h.providers request ref hprovider
      have htaken : Traced locate (w.withoutProvider request) :=
        h.of_registry rfl rfl (fun _ _ => .inl)
          (fun _ _ hfound => .inl (Table.get?_of_get?_erase hfound)) (fun _ _ => .inl)
      exact finds_buildNative hm htaken hsupplied ref
  | refused => exact ⟨hlocated, List.suffix_cons _ _⟩
  | absent => exact ⟨hlocated, List.suffix_cons _ _⟩
  | @loaded resource hrecord hvalue hprovider hlocate =>
      rw [h.locates] at hlocate
      have hhistory' : (w.noting (.located (resolve request base))).history
          = .located (resolve request base) :: .requested request base :: older := by
        rw [World.history_noting, hhistory]
      have hfound := finds_loadResource hm hlocated hhistory' hlocate
      have hlong : w.history <:+ (w.noting (.located (resolve request base))).history :=
        List.suffix_cons _ _
      exact hfound.of_suffix hlong

lemma traces_loadStep (request base : String) :
    (loadStep m request base).Keeps (Traces locate) := by
  intro w h
  have hasked : Traced locate (w.noting (.requested request base)) :=
    h.noting (by rintro _ _ _ ⟨⟩)
  have hlong : w.history <:+ (w.noting (.requested request base)).history := List.suffix_cons _ _
  have hfound := (finds_recordFor hm hasked (World.history_noting w _)).of_suffix hlong
  have hway := loadStep_reply m request base w
  rw [after]
  generalize loadStep m request base w = result at hway ⊢
  cases hway with
  | closed => exact ⟨h, List.suffix_refl _⟩
  | refused _ hrecord =>
      rw [hrecord] at hfound
      obtain ⟨hend, hsuffix⟩ := hfound
      exact ⟨hend.noting (by rintro _ _ _ ⟨⟩), hsuffix.trans (List.suffix_cons _ _)⟩
  | exhausted _ hrecord =>
      rw [hrecord] at hfound
      exact hfound
  | answered _ hrecord =>
      rw [hrecord] at hfound
      obtain ⟨hend, hsuffix, hsourced⟩ := hfound
      refine ⟨hend.noting ?_, hsuffix.trans (List.suffix_cons _ _)⟩
      rintro _ _ _ ⟨⟩
      exact hsourced

end Load

/-! ## Sessions -/

lemma IsFresh.traced {w : World} (h : w.IsFresh) : Traced w.locate w where
  locates := rfl
  values id value hvalue := by
    rw [h.registry] at hvalue
    cases hvalue
  providers id ref hprovider := by
    rw [h.registry] at hprovider
    cases hprovider
  records key record hrecord := by
    rw [h.registry] at hrecord
    cases hrecord
  answers later request base record earlier hhistory := by
    rw [h.history] at hhistory
    simp at hhistory

/-- A session stays traced. -/
theorem traces_performAll (acts : List HostAct) : (performAll acts).Keeps (Traces locate) :=
  frame_traces.performAll (fun _ hm => traces_loadStep hm) acts
    (fun id value _ => traces_register id value)
    (fun id provider _ => traces_registerNative id provider)

/-- The module that a request stands for answers it, if nobody used the words of the request for
another one. -/
lemma Sourced.of_agreeing {request base : String} {record : Record} {earlier : List Event}
    (h : Sourced locate request record earlier)
    (hagree : ∀ other, .requested request other ∈ earlier →
      resolve request other = resolve request base) :
    .supplied request ∈ earlier ∨
      ∃ resource, locate (resolve request base) = .ok (some resource) ∧
        record.id = resource.id ∧ record.origin = resource.origin := by
  cases h with
  | supplied hmem => exact .inl hmem
  | located other resource later older hhistory hlocate hid horigin =>
      have hmem : .requested request other ∈ earlier := by
        rw [hhistory]
        simp
      rw [hagree other hmem] at hlocate
      exact .inr ⟨resource, hlocate, hid, horigin⟩

/-- **Where answers come from.**  In a session whose locator does not change, every answer is the
record of the host's own value or provider, or of the resource that was found for an earlier request
of the same words, or for this one.  So it is what this request stands for whenever the requests of
these words up to now all stand for the same.  What a load returns is the present exports of the
record that answers it. -/
theorem answers_sourced (acts : List HostAct) (w : World) (hw : w.IsFresh) :
    (∀ later request base record earlier,
      ((performAll acts).after w).history = later ++ .answered request base record :: earlier →
        Sourced w.locate request record earlier ∧
        ((∀ other, .requested request other ∈ earlier →
            resolve request other = resolve request base) →
          .supplied request ∈ earlier ∨
          ∃ resource, w.locate (resolve request base) = .ok (some resource) ∧
            record.id = resource.id ∧ record.origin = resource.origin)) ∧
    ∀ n request base u u' value, loadStep (machine n) request base u = .ok value u' →
      ∃ record earlier, u'.history = .answered request base record :: earlier ∧
        value = record.exports u'.heap := by
  have h := (traces_performAll acts w (IsFresh.traced hw)).1
  refine ⟨fun later request base record earlier hhistory => ?_, fun _ _ _ _ _ _ hu => ?_⟩
  · have hsourced := h.answers later request base record earlier hhistory
    exact ⟨hsourced, hsourced.of_agreeing⟩
  · exact loadStep_answered hu

/-! ## Two directories -/

/-- Two modules in two directories, each with a neighbour `x` that it asks for as `./x`. -/
def twoDirectories : World :=
  { World.empty with
    heap := { Heap.empty with scopes := #[⟨[], none⟩] }
    interpreters := #[⟨⟨0⟩, 0, defaultMaxDepth, 0⟩]
    locate := fun id => .ok <|
      if id = "a/m" ∨ id = "b/m" then some ⟨id, id ++ ".js", "require('./x');"⟩
      else if id = "a/x" ∨ id = "b/x" then some ⟨id, id ++ ".js", ""⟩
      else none }

/-- The history of a session that loads one module after the other. -/
def twoDirectoriesHistory : List Event :=
  ((performAll [.load "a/m" "", .load "b/m" ""]).after twoDirectories).history

lemma twoDirectories_isFresh : twoDirectories.IsFresh := ⟨rfl, rfl, rfl⟩

/-- The second module gets the neighbour of the first. -/
lemma answered_mem_twoDirectoriesHistory :
    .answered "./x" "b/m" ⟨"a/x", "a/x.js", ⟨3⟩⟩ ∈ twoDirectoriesHistory := by
  decide +kernel

lemma supplied_notMem_twoDirectoriesHistory : .supplied "./x" ∉ twoDirectoriesHistory := by
  decide +kernel

/-- The neighbour of the first module answers the second one, and has its reason. -/
theorem answers_sourced_two_directories :
    twoDirectories.IsFresh ∧
    ∃ later earlier, twoDirectoriesHistory
        = later ++ .answered "./x" "b/m" ⟨"a/x", "a/x.js", ⟨3⟩⟩ :: earlier ∧
      Sourced twoDirectories.locate "./x" ⟨"a/x", "a/x.js", ⟨3⟩⟩ earlier := by
  obtain ⟨later, earlier, hsplit⟩ := List.append_of_mem answered_mem_twoDirectoriesHistory
  have hsourced := (answers_sourced _ twoDirectories twoDirectories_isFresh).1 later "./x" "b/m"
    _ earlier hsplit
  exact ⟨twoDirectories_isFresh, later, earlier, hsplit, hsourced.1⟩

/-- An answer need not come from where its own request stands for: of two modules that ask for `./x`
in two directories, the second gets the first one's. -/
theorem answer_from_another_directory :
    ¬ ∀ (acts : List HostAct) (w : World), w.IsFresh →
      ∀ later request base record earlier,
        ((performAll acts).after w).history = later ++ .answered request base record :: earlier →
          .supplied request ∈ earlier ∨
          ∃ resource, w.locate (resolve request base) = .ok (some resource) ∧
            record.id = resource.id := by
  intro h
  obtain ⟨later, earlier, hsplit⟩ := List.append_of_mem answered_mem_twoDirectoriesHistory
  rcases h _ twoDirectories twoDirectories_isFresh later "./x" "b/m" _ earlier hsplit with
    hmem | ⟨resource, hlocate, hid⟩
  · refine supplied_notMem_twoDirectoriesHistory ?_
    rw [hsplit]
    exact List.mem_append_right _ (List.mem_cons_of_mem _ hmem)
  · have hresolve : resolve "./x" "b/m" = "b/x" := by decide +kernel
    have hthere : twoDirectories.locate "b/x" = .ok (some ⟨"b/x", "b/x.js", ""⟩) := rfl
    rw [hresolve, hthere] at hlocate
    cases hlocate
    simp at hid

end ModuleRunner.Evaluation
