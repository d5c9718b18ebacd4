import ModuleRunner.Proofs.Loading.Ledger
import ModuleRunner.Proofs.Loading.Request

/-!
# Runs and the ledger

A ledger accounts for a world if it has the history of the world, its lines fit, and the providers that
wait by it are those in the registry.  Every run goes on with the ledger: it leaves a world that a
longer ledger accounts for, in which no call has returned that was in progress when the run started, and
unless the run is out of levels, the calls in progress are those that were.

* `World.Accounts` — a world and a ledger.
* `World.Continues`, `World.Resumes`, `Accounted` — what a run does to the ledger.
* `resumes_of_called`, `accounted_loadStep` — calls of providers, and loads.
* `buildNative_kept` — what waits in the world that a failing call leaves.
-/

namespace ModuleRunner.Evaluation

open Script ModuleRunner.Module Run Ledger

/-! ## Accounts -/

/-- A ledger tells of a world which providers were registered, wait and are being called. -/
structure World.Accounts (w : World) (ledger : Ledger) : Prop where
  /-- It is the history. -/
  history : ledger.map Line.event = w.history
  /-- What waits by it waits in the registry. -/
  waiting : waiting ledger = w.registry.providers
  /-- Its lines fit. -/
  orderly : ledger.Orderly
  /-- The providers that it knows were made. -/
  made : ∀ ref, service ref ledger ≠ .unknown → ref.index < w.providers.size

namespace World.Accounts

variable {w w' : World} {ledger : Ledger} (h : w.Accounts ledger)

include h

/-- A world with the same history and providers has the same ledger. -/
lemma of_eq (hhistory : w'.history = w.history)
    (hwaiting : w'.registry.providers = w.registry.providers)
    (hmade : w'.providers.size = w.providers.size) : w'.Accounts ledger where
  history := h.history.trans hhistory.symm
  waiting := h.waiting.trans hwaiting.symm
  orderly := h.orderly
  made ref hknown := hmade ▸ h.made ref hknown

/-- A line that fits, about a provider that was made. -/
lemma cons {line : Line} (hfits : line.Fits ledger) (hhistory : w'.history = line.event :: w.history)
    (hwaiting : w'.registry.providers = Ledger.waiting (line :: ledger))
    (hmade : w.providers.size ≤ w'.providers.size)
    (habout : ∀ ref, line.provider? = some ref → ref.index < w'.providers.size) :
    w'.Accounts (line :: ledger) where
  history := by rw [hhistory, List.map_cons, h.history]
  waiting := hwaiting.symm
  orderly := .cons hfits h.orderly
  made ref hknown := by
    by_cases hline : line.provider? = some ref
    · exact habout ref hline
    · rw [service_cons_of_ne hline] at hknown
      exact (h.made ref hknown).trans_le hmade

/-- An event that is no part of a call. -/
lemma aside {e : Event} (haside : e.IsAside) (hhistory : w'.history = e :: w.history)
    (hwaiting : w'.registry.providers = w.registry.providers)
    (hmade : w'.providers.size = w.providers.size) : w'.Accounts (.happening e :: ledger) := by
  refine h.cons (haside.fits ledger) hhistory ?_ hmade.ge fun ref habout => ?_
  · rw [haside.waiting, hwaiting, h.waiting]
  · cases e with
    | entered | left => exact haside.elim
    | _ => cases habout

/-- A registration. -/
lemma registration (id : String) (provider : Provider)
    (hhistory : w'.history = .supplied id :: w.history)
    (hwaiting : w'.registry.providers = w.registry.providers.put id ⟨w.providers.size⟩)
    (hmade : w'.providers = w.providers.push provider) :
    w'.Accounts (.registration id ⟨w.providers.size⟩ :: ledger) := by
  have hsize : w'.providers.size = w.providers.size + 1 := by rw [hmade, Array.size_push]
  refine h.cons ?_ hhistory ?_ (hsize ▸ Nat.le_succ _) fun ref habout => ?_
  · show service ⟨w.providers.size⟩ ledger = .unknown
    by_contra hknown
    exact Nat.lt_irrefl _ (h.made _ hknown)
  · rw [hwaiting, Ledger.waiting, h.waiting]
  · obtain rfl := Option.some.inj habout
    exact hsize ▸ Nat.lt_succ_self _

/-- A provider that waits is taken out and called. -/
lemma entered {id : String} {ref : ProviderRef} (hwaits : w.registry.providers.get? id = some ref) :
    ((w.withoutProvider id).noting (.entered id ref)).Accounts
      (.happening (.entered id ref) :: ledger) := by
  have hfits : (Ledger.waiting ledger).get? id = some ref := by rw [h.waiting, hwaits]
  refine h.cons hfits rfl ?_ le_rfl fun other habout => ?_
  · rw [Ledger.waiting, h.waiting]
    rfl
  · obtain rfl := Option.some.inj habout
    exact h.made ref (h.orderly.posted.waiting hfits ▸ Service.noConfusion)

/-- A provider that is being called returns. -/
lemma left {id : String} {ref : ProviderRef} {success : Bool} {outer : List (String × ProviderRef)}
    (htop : underWay ledger = (id, ref) :: outer)
    (hhistory : w'.history = .left id ref success :: w.history)
    (hwaiting : w'.registry.providers = Ledger.waiting (.happening (.left id ref success) :: ledger))
    (hmade : w'.providers.size = w.providers.size) :
    w'.Accounts (.happening (.left id ref success) :: ledger) := by
  refine h.cons ⟨outer, htop⟩ hhistory hwaiting hmade.ge fun other habout => ?_
  obtain rfl := Option.some.inj habout
  have hserving := h.orderly.posted.underWay (htop ▸ List.mem_cons_self)
  exact hmade ▸ h.made ref (hserving ▸ Service.noConfusion)

end World.Accounts

/-! ## Runs -/

/-- No call that is in progress after a ledger returns. -/
def Ledger.Undisturbed (ledger new : Ledger) : Prop :=
  ∀ id ref, (id, ref) ∈ underWay ledger → Remains ref new

lemma Ledger.undisturbed_nil (ledger : Ledger) : ledger.Undisturbed [] :=
  fun _ ref _ => remains_nil ref

lemma Ledger.Undisturbed.append {ledger new newer : Ledger} (h : ledger.Undisturbed new)
    (hnewer : (new ++ ledger).Undisturbed newer)
    (hsame : underWay (new ++ ledger) = underWay ledger) : ledger.Undisturbed (newer ++ new) :=
  fun id ref hmem => (h id ref hmem).append (hnewer id ref (hsame ▸ hmem))

namespace World

/-- A world in which the ledger of an earlier one goes on, and no call has returned that was in progress
then. -/
def Continues (w w' : World) : Prop :=
  ∀ ledger, w.Accounts ledger → ∃ new, w'.Accounts (new ++ ledger) ∧ ledger.Undisturbed new

/-- A world in which the ledger of an earlier one goes on, and what was in progress then is what is. -/
def Resumes (w w' : World) : Prop :=
  ∀ ledger, w.Accounts ledger → ∃ new, w'.Accounts (new ++ ledger) ∧ ledger.Undisturbed new ∧
    underWay (new ++ ledger) = underWay ledger

variable {w w' : World}

lemma resumes_of_eq (hhistory : w'.history = w.history)
    (hwaiting : w'.registry.providers = w.registry.providers)
    (hmade : w'.providers.size = w.providers.size) : w.Resumes w' :=
  fun ledger h => ⟨[], h.of_eq hhistory hwaiting hmade, ledger.undisturbed_nil, rfl⟩

/-- An event that is no part of a call. -/
lemma resumes_aside (e : Event) (hhistory : w'.history = e :: w.history)
    (hwaiting : w'.registry.providers = w.registry.providers)
    (hmade : w'.providers.size = w.providers.size) (haside : e.IsAside) : w.Resumes w' := by
  intro ledger h
  refine ⟨[.happening e], h.aside haside hhistory hwaiting hmade, fun _ ref _ => ?_,
    haside.underWay ledger⟩
  refine (remains_nil ref).cons ?_
  rintro id success ⟨⟩
  exact haside

/-- What runs do to the ledger, with what is left of it when they are out of levels. -/
lemma span_resumes : Span Resumes Continues where
  ends :=
    { refl := fun _ => resumes_of_eq rfl rfl rfl
      trans := fun h h' ledger hw => by
        obtain ⟨new, haccounts, hundisturbed, hsame⟩ := h ledger hw
        obtain ⟨newer, hafter, hrest, hback⟩ := h' _ haccounts
        exact ⟨newer ++ new, by rwa [List.append_assoc], hundisturbed.append hrest hsame,
          by rw [List.append_assoc, hback, hsame]⟩
      heap := fun _ _ => resumes_of_eq rfl rfl rfl
      console := fun _ _ => resumes_of_eq rfl rfl rfl
      interpreters := fun _ _ => resumes_of_eq rfl rfl rfl }
  stops h ledger hw := by
    obtain ⟨new, haccounts, hundisturbed, -⟩ := h ledger hw
    exact ⟨new, haccounts, hundisturbed⟩
  trans h h' ledger hw := by
    obtain ⟨new, haccounts, hundisturbed, hsame⟩ := h ledger hw
    obtain ⟨newer, hafter, hrest⟩ := h' _ haccounts
    exact ⟨newer ++ new, by rwa [List.append_assoc], hundisturbed.append hrest hsame⟩
  interpreters h _ ledger hw := by
    obtain ⟨new, haccounts, hundisturbed⟩ := h ledger hw
    exact ⟨new, haccounts.of_eq rfl rfl rfl, hundisturbed⟩

end World

/-- A run that goes on with the ledger. -/
def Accounted {α : Type} (run : Run α) : Prop := ∀ w : World, w.Spans World.Resumes World.Continues (run w)

namespace Accounted

variable {α β : Type}

/-- Evaluation goes on with the ledger as far as loading does. -/
theorem hereditary : Hereditary fun _ => Accounted := World.span_resumes.hereditary

/-- A run that leaves the history and the providers alone. -/
lemma of_eq {f : World → α} {g : World → World} (hhistory : ∀ w, (g w).history = w.history)
    (hwaiting : ∀ w, (g w).registry.providers = w.registry.providers)
    (hmade : ∀ w, (g w).providers.size = w.providers.size) :
    Accounted fun w => .ok (f w) (g w) :=
  fun w => World.resumes_of_eq (hhistory w) (hwaiting w) (hmade w)

lemma bind {x : Run α} {f : α → Run β} (hx : Accounted x) (hf : ∀ a, Accounted (f a)) :
    Accounted (x >>= f) :=
  hereditary.bind hx hf

/-- A run leaves a world that has a ledger. -/
lemma exists_accounts {run : Run α} (h : Accounted run) {w : World} {ledger : Ledger}
    (hw : w.Accounts ledger) : ∃ ledger', (run.after w).Accounts ledger' := by
  have hrun := h w
  have hcontinues : w.Continues (run.after w) := by
    cases hresult : run w with
    | ok a w' =>
        rw [hresult] at hrun
        rw [after_of_ok hresult]
        exact World.span_resumes.stops hrun
    | error e w' =>
        rw [hresult] at hrun
        rw [after_of_error hresult]
        cases e with
        | failed failure => exact World.span_resumes.stops hrun
        | exhausted => exact hrun
  obtain ⟨new, haccounts, -⟩ := hcontinues ledger hw
  exact ⟨_, haccounts⟩

end Accounted

/-! ## Calls of providers -/

section Calls

variable {w w' : World} {ledger inner : Ledger} {id : String} {ref : ProviderRef}

/-- No other call returns before a provider that is called does. -/
lemma undisturbed_call (hinner : Undisturbed (.happening (.entered id ref) :: ledger) inner) :
    ledger.Undisturbed (inner ++ [.happening (.entered id ref)]) := by
  intro key other hmem
  have hcalled : Remains other [.happening (.entered id ref)] :=
    (remains_nil other).cons fun _ _ heq => by cases heq
  exact hcalled.append (hinner key other (List.mem_cons_of_mem _ hmem))

/-- A provider that waits is none of those that are being called. -/
lemma World.Accounts.ne_of_underWay (h : w.Accounts ledger)
    (hwaits : w.registry.providers.get? id = some ref) {key : String} {other : ProviderRef}
    (hmem : (key, other) ∈ underWay ledger) : other ≠ ref := by
  rintro rfl
  have hready := h.orderly.posted.waiting (h.waiting ▸ hwaits)
  exact Service.noConfusion (hready.symm.trans (h.orderly.posted.underWay hmem))

/-- What waits after a provider is back waits by the ledger. -/
lemma World.Accounts.waiting_restoring (h : w.Accounts ledger) (id : String) (ref : ProviderRef) :
    (w.registry.restoreProvider id ref).providers
      = Ledger.waiting (.happening (.left id ref false) :: ledger) := by
  rw [Registry.restoreProvider, Ledger.waiting, h.waiting]
  split <;> rfl

/-- The call of a provider that waits, from the event that says so to its return. -/
lemma resumes_of_called (hwaits : w.registry.providers.get? id = some ref) {success : Bool}
    {w₁ : World}
    (hcalled : World.Resumes ((w.withoutProvider id).noting (.entered id ref)) w₁)
    (hhistory : w'.history = .left id ref success :: w₁.history)
    (hwaiting : ∀ ledger, w₁.Accounts ledger →
      w'.registry.providers = Ledger.waiting (.happening (.left id ref success) :: ledger))
    (hmade : w'.providers.size = w₁.providers.size) : w.Resumes w' := by
  intro ledger h
  obtain ⟨inner, haccounts, hinner, hsame⟩ := hcalled _ (h.entered hwaits)
  have hreturned := haccounts.left hsame hhistory (hwaiting _ haccounts) hmade
  refine ⟨.happening (.left id ref success) :: (inner ++ [.happening (.entered id ref)]), ?_, ?_, ?_⟩
  · rwa [List.cons_append, List.append_assoc, List.singleton_append]
  · intro key other hmem
    refine (undisturbed_call hinner key other hmem).cons ?_
    rintro _ _ ⟨⟩
    exact h.ne_of_underWay hwaits hmem rfl
  · rw [List.cons_append, List.append_assoc, List.singleton_append, underWay, hsame, underWay,
      List.tail_cons]

end Calls

/-! ## Loading -/

section Load

variable {m : Machine} (hm : m.Has fun _ => Accounted) {w : World}

include hm

lemma accounted_callProvider (ref : ProviderRef) : Accounted (callProvider m ref) := by
  have hcount : Accounted (countCall ref) :=
    .of_eq (fun _ => rfl) (fun _ => rfl) fun _ => Array.size_modify
  exact hcount.bind fun _ => Accounted.hereditary.perform hm _

/-- The call of a provider that waits. -/
lemma buildNative_spans {id : String} {ref : ProviderRef}
    (hwaits : w.registry.providers.get? id = some ref) :
    w.Spans World.Resumes World.Continues (buildNative m id ref (w.withoutProvider id)) := by
  have hcalled := accounted_callProvider hm ref ((w.withoutProvider id).noting (.entered id ref))
  have hway := buildNative_building m id ref (w.withoutProvider id)
  generalize buildNative m id ref (w.withoutProvider id) = result at hway ⊢
  cases hway with
  | made hcall =>
      rw [hcall] at hcalled
      exact resumes_of_called hwaits hcalled rfl (fun _ h => h.waiting.symm) rfl
  | failed hcall =>
      rw [hcall] at hcalled
      exact resumes_of_called hwaits hcalled rfl (fun _ h => h.waiting_restoring id ref) rfl
  | exhausted hcall =>
      rw [hcall] at hcalled
      intro ledger h
      obtain ⟨inner, haccounts, hinner⟩ := hcalled _ (h.entered hwaits)
      exact ⟨inner ++ [.happening (.entered id ref)],
        by rwa [List.append_assoc, List.singleton_append], undisturbed_call hinner⟩

/-- **Failing calls.**  What waits in the world that the failing call of a provider leaves. -/
theorem buildNative_kept {ledger : Ledger} (h : w.Accounts ledger) {id : String} {ref : ProviderRef}
    (hwaits : w.registry.providers.get? id = some ref) {failure : Failure} {w₂ : World}
    (hfails : buildNative m id ref (w.withoutProvider id) = .error (.failed failure) w₂) :
    ∃ inner, w₂.Accounts (.happening (.left id ref false) ::
        (inner ++ .happening (.entered id ref) :: ledger)) ∧
      Remains ref inner ∧ Kept id ref inner w₂.registry.providers := by
  have hcalled := accounted_callProvider hm ref ((w.withoutProvider id).noting (.entered id ref))
  have hway := buildNative_building m id ref (w.withoutProvider id)
  rw [hfails] at hway
  cases hway with
  | @failed w' reason hcall =>
      rw [hcall] at hcalled
      obtain ⟨inner, haccounts, hinner, hsame⟩ := hcalled _ (h.entered hwaits)
      have hremains : Remains ref inner := hinner id ref List.mem_cons_self
      have hreturned : ((w'.noting (.left id ref false)).restoring id ref).Accounts
          (.happening (.left id ref false) :: (inner ++ .happening (.entered id ref) :: ledger)) :=
        haccounts.left hsame rfl (haccounts.waiting_restoring id ref) rfl
      refine ⟨inner, hreturned, hremains, ?_⟩
      rw [← hreturned.waiting]
      exact hreturned.orderly.kept hremains

/-- The body of a module, from the event that says so to its end. -/
lemma loadResource_spans (key : String) (resource : Resource) :
    w.Spans World.Resumes World.Continues (loadResource m key resource w) := by
  have hstarted : w.Resumes (w.starting key resource) :=
    World.resumes_aside (.started key (w.newRecord key resource)) rfl rfl rfl trivial
  have hrun := World.span_resumes.after hstarted
    (Accounted.hereditary.runBody hm (w.newRecord key resource) resource (w.starting key resource))
  have hway := loadResource_execution m key resource w
  generalize loadResource m key resource w = result at hway ⊢
  have htrans := @World.span_resumes.ends.trans
  cases hway with
  | finished hbody =>
      rw [hbody] at hrun
      exact htrans hrun (World.resumes_aside (.ended key (w.newRecord key resource) true)
        rfl rfl rfl trivial)
  | failed hbody =>
      rw [hbody] at hrun
      exact htrans hrun (World.resumes_aside (.ended key (w.newRecord key resource) false)
        rfl rfl rfl trivial)
  | exhausted hbody =>
      rw [hbody] at hrun
      exact hrun

/-- The record for a request. -/
lemma accounted_recordFor (request base : String) : Accounted (recordFor m request base) := by
  intro w
  have hlocated : w.Resumes (w.noting (.located (resolve request base))) :=
    World.resumes_aside (.located (resolve request base)) rfl rfl rfl trivial
  have hway := recordFor_answer m request base w
  generalize recordFor m request base w = result at hway ⊢
  cases hway with
  | cached _ => exact World.span_resumes.ends.refl w
  | hosted _ _ => exact World.resumes_of_eq rfl rfl rfl
  | built _ _ hprovider => exact buildNative_spans hm hprovider
  | refused _ _ _ _ => exact hlocated
  | absent _ _ _ _ => exact hlocated
  | loaded _ _ _ _ => exact World.span_resumes.after hlocated (loadResource_spans hm request _)

/-- A load goes on with the ledger. -/
theorem accounted_loadStep (request base : String) : Accounted (loadStep m request base) := by
  intro w
  have hrequested : w.Resumes (w.noting (.requested request base)) :=
    World.resumes_aside (.requested request base) rfl rfl rfl trivial
  have hfound := World.span_resumes.after hrequested
    (accounted_recordFor hm request base (w.noting (.requested request base)))
  have hway := loadStep_reply m request base w
  generalize loadStep m request base w = result at hway ⊢
  have htrans := @World.span_resumes.ends.trans
  cases hway with
  | closed _ => exact World.span_resumes.ends.refl w
  | @refused _ failure _ hrecord =>
      rw [hrecord] at hfound
      exact htrans hfound (World.resumes_aside (.refused request base failure) rfl rfl rfl trivial)
  | exhausted _ hrecord =>
      rw [hrecord] at hfound
      exact hfound
  | @answered _ record _ hrecord =>
      rw [hrecord] at hfound
      exact htrans hfound (World.resumes_aside (.answered request base record) rfl rfl rfl trivial)

end Load

end ModuleRunner.Evaluation
