import Mathlib.Tactic
import ModuleRunner.Evaluation.World

/-!
# The ledger of the providers

The history of a session tells which providers were called and which returned, but of a registration
only the id.  A ledger is a history whose registrations name their providers.  It tells which providers
wait for a request, which calls are in progress, and how far each provider is: registered for an id,
being called, or done.

A line fits behind a ledger if a provider that is registered is new, one that is called waits for the
id, and one that returns is the one called last.  What becomes of providers is about ledgers of fitting
lines alone.  The crux is that a provider is at one place at a time: where it waits it is not
being called, where it is being called it does not wait, and once it has answered it does neither.

* `Line`, `Ledger`, `waiting`, `underWay`, `Service`, `service` — ledgers, and what they tell.
* `Line.Fits`, `Orderly`, `Orderly.posted` — fitting lines; a provider is at one place at a time.
* `Orderly.apart`, `Orderly.answers_once` — calls of a provider are apart, and one at most succeeds.
* `Kept`, `Orderly.kept` — what waits for an id after a call that failed.
-/

namespace ModuleRunner.Evaluation

open ModuleRunner.Module

/-! ## Ledgers -/

/-- A line of a ledger. -/
inductive Line where
  /-- A provider is registered for an id. -/
  | registration (id : String) (provider : ProviderRef)
  /-- Anything else happens. -/
  | happening (event : Event)
deriving DecidableEq

/-- The event of a line. -/
def Line.event : Line → Event
  | registration id _ => .supplied id
  | happening event => event

/-- The provider that a line is about. -/
def Line.provider? : Line → Option ProviderRef
  | registration _ ref => some ref
  | happening (.entered _ ref) => some ref
  | happening (.left _ ref _) => some ref
  | happening _ => none

/-- A history whose registrations name their providers, last line first. -/
abbrev Ledger := List Line

/-- How far a provider is. -/
inductive Service where
  /-- It was never registered. -/
  | unknown
  /-- It was registered for an id, and is not being called. -/
  | ready (id : String)
  /-- It is being called for an id. -/
  | serving (id : String)
  /-- It has answered. -/
  | served
deriving DecidableEq

namespace Ledger

/-- The providers that wait for a request. -/
def waiting : Ledger → Table ProviderRef
  | [] => []
  | .registration id ref :: earlier => (waiting earlier).put id ref
  | .happening (.entered id _) :: earlier => (waiting earlier).erase id
  | .happening (.left id ref false) :: earlier =>
    if (waiting earlier).contains id then waiting earlier else (waiting earlier).put id ref
  | .happening _ :: earlier => waiting earlier

/-- The calls in progress, the innermost first. -/
def underWay : Ledger → List (String × ProviderRef)
  | [] => []
  | .happening (.entered id ref) :: earlier => (id, ref) :: underWay earlier
  | .happening (.left ..) :: earlier => (underWay earlier).tail
  | _ :: earlier => underWay earlier

/-- How far a provider is. -/
def service (ref : ProviderRef) : Ledger → Service
  | [] => .unknown
  | .registration id other :: earlier => if other = ref then .ready id else service ref earlier
  | .happening (.entered id other) :: earlier =>
    if other = ref then .serving id else service ref earlier
  | .happening (.left id other success) :: earlier =>
    if other = ref then if success then .served else .ready id else service ref earlier
  | .happening _ :: earlier => service ref earlier

/-- The provider that was registered for an id last. -/
def newest (id : String) : Ledger → Option ProviderRef
  | [] => none
  | .registration key ref :: earlier => if key = id then some ref else newest id earlier
  | .happening _ :: earlier => newest id earlier

end Ledger

open Ledger

/-- An event that is no part of a call of a provider. -/
def Event.IsAside : Event → Prop
  | entered .. => False
  | left .. => False
  | _ => True

/-- An event of a call is a line of the ledger. -/
lemma Ledger.exists_line {ledger : Ledger} {e : Event} {later earlier : List Event}
    (hsplit : ledger.map Line.event = later ++ e :: earlier) (hcall : ¬ e.IsAside) :
    ∃ above below, ledger = above ++ .happening e :: below ∧ above.map Line.event = later ∧
      below.map Line.event = earlier := by
  obtain ⟨above, rest, rfl, hlater, hrest⟩ := List.map_eq_append_iff.mp hsplit
  obtain ⟨line, below, rfl, hline, hearlier⟩ := List.map_eq_cons_iff.mp hrest
  cases line with
  | registration id ref =>
      obtain rfl : .supplied id = e := hline
      exact absurd trivial hcall
  | happening event =>
      obtain rfl : event = e := hline
      exact ⟨above, below, rfl, hlater, hearlier⟩

section Aside

variable {e : Event} (h : e.IsAside) (earlier : Ledger)

include h

lemma Event.IsAside.waiting : waiting (.happening e :: earlier) = waiting earlier := by
  cases e with
  | entered | left => exact h.elim
  | _ => rfl

lemma Event.IsAside.underWay : underWay (.happening e :: earlier) = underWay earlier := by
  cases e with
  | entered | left => exact h.elim
  | _ => rfl

lemma Event.IsAside.service (ref : ProviderRef) :
    service ref (.happening e :: earlier) = service ref earlier := by
  cases e with
  | entered | left => exact h.elim
  | _ => rfl

end Aside

/-- What waits after a failing call: what waited before, or else the provider that failed. -/
lemma Ledger.get?_waiting_left_self (id : String) (ref : ProviderRef) (earlier : Ledger) :
    (waiting (.happening (.left id ref false) :: earlier)).get? id
      = some (((waiting earlier).get? id).getD ref) := by
  rw [waiting, Table.contains]
  cases h : (waiting earlier).get? id with
  | none => exact Table.get?_put_self id ref _
  | some found => exact h

lemma Ledger.get?_waiting_left_of_ne {id other : String} (ref : ProviderRef) (success : Bool)
    (earlier : Ledger) (h : other ≠ id) :
    (waiting (.happening (.left id ref success) :: earlier)).get? other
      = (waiting earlier).get? other := by
  cases success with
  | true => rfl
  | false =>
      rw [waiting]
      split
      · rfl
      · exact Table.get?_put_of_ne ref h _

/-! ## Fitting lines -/

/-- Whether a line fits behind a ledger. -/
def Line.Fits : Line → Ledger → Prop
  | registration _ ref, earlier => service ref earlier = .unknown
  | happening (.entered id ref), earlier => (waiting earlier).get? id = some ref
  | happening (.left id ref _), earlier => ∃ outer, underWay earlier = (id, ref) :: outer
  | happening _, _ => True

lemma Event.IsAside.fits {e : Event} (h : e.IsAside) (earlier : Ledger) :
    (Line.happening e).Fits earlier := by
  cases e with
  | entered | left => exact h.elim
  | _ => trivial

namespace Ledger

/-- Every line fits. -/
inductive Orderly : Ledger → Prop where
  | nil : Orderly []
  | cons {line : Line} {earlier : Ledger} (hfits : line.Fits earlier) (hearlier : Orderly earlier) :
      Orderly (line :: earlier)

namespace Orderly

lemma fits {line : Line} {earlier : Ledger} (h : Orderly (line :: earlier)) : line.Fits earlier := by
  cases h with
  | cons hfits _ => exact hfits

lemma tail {line : Line} {earlier : Ledger} (h : Orderly (line :: earlier)) : Orderly earlier := by
  cases h with
  | cons _ hearlier => exact hearlier

lemma of_append {later earlier : Ledger} (h : Orderly (later ++ earlier)) : Orderly earlier := by
  induction later with
  | nil => exact h
  | cons line later ih => exact ih h.tail

end Orderly

/-- A provider is at one place at a time. -/
structure Posted (ledger : Ledger) : Prop where
  /-- A provider that waits is not being called. -/
  waiting : ∀ {id ref}, (waiting ledger).get? id = some ref → service ref ledger = .ready id
  /-- A call in progress is a call of a provider that has not answered. -/
  underWay : ∀ {id ref}, (id, ref) ∈ underWay ledger → service ref ledger = .serving id
  /-- No two calls in progress are of one provider. -/
  nodup : ((Ledger.underWay ledger).map (·.2)).Nodup

namespace Posted

variable {earlier : Ledger} {id : String} {ref : ProviderRef} (h : Posted earlier)

include h

lemma registration (hfits : service ref earlier = .unknown) :
    Posted (.registration id ref :: earlier) where
  waiting {key other} hget := by
    rw [service]
    rcases Table.of_get?_put hget with ⟨rfl, rfl⟩ | hget
    · exact if_pos rfl
    · have hne : ref ≠ other := by
        rintro rfl
        exact Service.noConfusion (hfits.symm.trans (h.waiting hget))
      rw [if_neg hne, h.waiting hget]
  underWay {key other} hmem := by
    have hold : service other earlier = .serving key := h.underWay hmem
    have hne : ref ≠ other := by
      rintro rfl
      exact Service.noConfusion (hfits.symm.trans hold)
    rw [service, if_neg hne, hold]
  nodup := h.nodup

lemma entered (hfits : (Ledger.waiting earlier).get? id = some ref) :
    Posted (.happening (.entered id ref) :: earlier) where
  waiting {key other} hget := by
    have hkey : key ≠ id := by
      rintro rfl
      rw [Ledger.waiting, Table.get?_erase_self] at hget
      cases hget
    have hold := h.waiting (Table.get?_of_get?_erase hget)
    have hne : ref ≠ other := by
      rintro rfl
      exact hkey (Service.ready.inj (hold.symm.trans (h.waiting hfits)))
    rw [service, if_neg hne, hold]
  underWay {key other} hmem := by
    rw [service]
    rcases List.mem_cons.mp hmem with hnew | hold
    · cases hnew
      exact if_pos rfl
    · have hne : ref ≠ other := by
        rintro rfl
        exact Service.noConfusion ((h.waiting hfits).symm.trans (h.underWay hold))
      rw [if_neg hne, h.underWay hold]
  nodup := by
    refine List.nodup_cons.mpr ⟨fun hmem => ?_, h.nodup⟩
    obtain ⟨⟨key, other⟩, hold, rfl⟩ := List.mem_map.mp hmem
    exact Service.noConfusion ((h.waiting hfits).symm.trans (h.underWay hold))

lemma left {outer : List (String × ProviderRef)} (success : Bool)
    (hfits : Ledger.underWay earlier = (id, ref) :: outer) :
    Posted (.happening (.left id ref success) :: earlier) := by
  have hserving : service ref earlier = .serving id := h.underWay (hfits ▸ List.mem_cons_self)
  have hnodup := h.nodup
  rw [hfits, List.map_cons, List.nodup_cons] at hnodup
  refine ⟨fun {key other} hget => ?_, fun {key other} hmem => ?_, ?_⟩
  · -- one that waited before is not the one that returns
    have hold (hget : (Ledger.waiting earlier).get? key = some other) :
        service other (.happening (.left id ref success) :: earlier) = .ready key := by
      have hne : ref ≠ other := by
        rintro rfl
        exact Service.noConfusion (hserving.symm.trans (h.waiting hget))
      rw [service, if_neg hne, h.waiting hget]
    cases success with
    | true => exact hold hget
    | false =>
        rw [Ledger.waiting] at hget
        split at hget
        · exact hold hget
        · rcases Table.of_get?_put hget with ⟨rfl, rfl⟩ | hget
          · rw [service, if_pos rfl]
            rfl
          · exact hold hget
  · rw [Ledger.underWay, hfits, List.tail_cons] at hmem
    have hne : ref ≠ other := by
      rintro rfl
      exact hnodup.1 (List.mem_map.mpr ⟨_, hmem, rfl⟩)
    rw [service, if_neg hne, h.underWay (hfits ▸ List.mem_cons_of_mem _ hmem)]
  · rw [Ledger.underWay, hfits]
    exact hnodup.2

lemma aside {e : Event} (haside : e.IsAside) : Posted (.happening e :: earlier) where
  waiting hget := by
    rw [haside.waiting] at hget
    rw [haside.service, h.waiting hget]
  underWay hmem := by
    rw [haside.underWay] at hmem
    rw [haside.service, h.underWay hmem]
  nodup := by
    rw [haside.underWay]
    exact h.nodup

end Posted

/-- In an orderly ledger a provider is at one place at a time. -/
theorem Orderly.posted {ledger : Ledger} (h : Orderly ledger) : Posted ledger := by
  induction h with
  | nil => exact ⟨by rintro _ _ ⟨⟩, by rintro _ _ ⟨⟩, List.nodup_nil⟩
  | @cons line earlier hfits _ ih =>
      cases line with
      | registration id ref => exact ih.registration hfits
      | happening e =>
          cases e with
          | entered id ref => exact ih.entered hfits
          | left id ref success =>
              obtain ⟨outer, htop⟩ := hfits
              exact ih.left success htop
          | _ => exact ih.aside trivial

/-! ## What becomes of a provider -/

lemma service_cons_of_ne {line : Line} {ref : ProviderRef} (h : line.provider? ≠ some ref)
    (earlier : Ledger) : service ref (line :: earlier) = service ref earlier := by
  cases line with
  | registration id other => exact if_neg fun hsame => h (congrArg some hsame)
  | happening e =>
      cases e with
      | entered id other => exact if_neg fun hsame => h (congrArg some hsame)
      | left id other success => exact if_neg fun hsame => h (congrArg some hsame)
      | _ => rfl

/-- A provider that was registered stays known. -/
lemma service_ne_unknown {ref : ProviderRef} {earlier : Ledger}
    (h : service ref earlier ≠ .unknown) (later : Ledger) :
    service ref (later ++ earlier) ≠ .unknown := by
  induction later with
  | nil => exact h
  | cons line later ih =>
      rw [List.cons_append]
      by_cases habout : line.provider? = some ref
      · cases line with
        | registration id other =>
            rw [service, if_pos (Option.some.inj habout)]
            exact Service.noConfusion
        | happening e =>
            cases e with
            | entered id other =>
                rw [service, if_pos (Option.some.inj habout)]
                exact Service.noConfusion
            | left id other success =>
                rw [service, if_pos (Option.some.inj habout)]
                cases success <;> exact Service.noConfusion
            | _ => cases habout
      · rwa [service_cons_of_ne habout]

namespace Orderly

variable {ref : ProviderRef} {line : Line} {earlier later : Ledger}

/-- What can happen to a provider, and how far it is by then. -/
lemma service_of_provider (h : Orderly (line :: earlier)) (habout : line.provider? = some ref) :
    (∃ id, line = .registration id ref ∧ service ref earlier = .unknown) ∨
      (∃ id, line = .happening (.entered id ref) ∧ service ref earlier = .ready id) ∨
        ∃ id success, line = .happening (.left id ref success) ∧
          service ref earlier = .serving id := by
  have hposted : Posted earlier := h.tail.posted
  have hfits := h.fits
  cases line with
  | registration id other =>
      obtain rfl := Option.some.inj habout
      exact .inl ⟨id, rfl, hfits⟩
  | happening e =>
      cases e with
      | entered id other =>
          obtain rfl := Option.some.inj habout
          exact .inr (.inl ⟨id, rfl, hposted.waiting hfits⟩)
      | left id other success =>
          obtain rfl := Option.some.inj habout
          obtain ⟨outer, htop⟩ := hfits
          exact .inr (.inr ⟨id, success, rfl, hposted.underWay (htop ▸ List.mem_cons_self)⟩)
      | _ => cases habout

/-- A provider that is being called goes on being called until it returns. -/
lemma service_of_serving (h : Orderly (line :: earlier)) {id : String}
    (hserving : service ref earlier = .serving id) :
    service ref (line :: earlier) = .serving id ∨
      ∃ success, line = .happening (.left id ref success) := by
  by_cases habout : line.provider? = some ref
  · rcases h.service_of_provider habout with
      ⟨_, -, hunknown⟩ | ⟨_, -, hready⟩ | ⟨key, success, rfl, hkey⟩
    · exact Service.noConfusion (hserving.symm.trans hunknown)
    · exact Service.noConfusion (hserving.symm.trans hready)
    · obtain rfl := Service.serving.inj (hserving.symm.trans hkey)
      exact .inr ⟨success, rfl⟩
  · exact .inl ((service_cons_of_ne habout earlier).trans hserving)

/-- A provider that has answered is done. -/
lemma service_of_served (h : Orderly (line :: earlier)) (hserved : service ref earlier = .served) :
    service ref (line :: earlier) = .served := by
  by_cases habout : line.provider? = some ref
  · rcases h.service_of_provider habout with ⟨_, -, hother⟩ | ⟨_, -, hother⟩ | ⟨_, _, -, hother⟩
    all_goals exact Service.noConfusion (hserved.symm.trans hother)
  · exact (service_cons_of_ne habout earlier).trans hserved

lemma service_append_of_served (h : Orderly (later ++ earlier))
    (hserved : service ref earlier = .served) : service ref (later ++ earlier) = .served := by
  induction later with
  | nil => exact hserved
  | cons line later ih => exact h.service_of_served (ih h.tail)

/-- How far a provider is after it was called: it is being called still, or it has answered, or it has
failed since. -/
lemma service_of_entered {key : String}
    (h : Orderly (later ++ .happening (.entered key ref) :: earlier)) :
    service ref (later ++ .happening (.entered key ref) :: earlier) = .serving key ∨
      service ref (later ++ .happening (.entered key ref) :: earlier) = .served ∨
      .happening (.left key ref false) ∈ later := by
  induction later with
  | nil => exact .inl (if_pos rfl)
  | cons line later ih =>
      rcases ih h.tail with hserving | hserved | hleft
      · rcases h.service_of_serving hserving with hstill | ⟨success, rfl⟩
        · exact .inl hstill
        · cases success with
          | true => exact .inr (.inl (if_pos rfl))
          | false => exact .inr (.inr List.mem_cons_self)
      · exact .inr (.inl (h.service_of_served hserved))
      · exact .inr (.inr (List.mem_cons_of_mem _ hleft))

/-- **Calls are apart.**  Between two calls of a provider, the first of them failed. -/
theorem apart {id key : String} {mid : Ledger}
    (h : Orderly (.happening (.entered id ref) :: (mid ++ .happening (.entered key ref) :: earlier))) :
    .happening (.left key ref false) ∈ mid := by
  have hready := h.tail.posted.waiting h.fits
  rcases h.tail.service_of_entered with hserving | hserved | hleft
  · exact Service.noConfusion (hready.symm.trans hserving)
  · exact Service.noConfusion (hready.symm.trans hserved)
  · exact hleft

/-- **One answer.**  Of the calls of a provider one at most succeeds. -/
theorem answers_once {id key : String} {mid : Ledger} :
    ¬ Orderly
      (.happening (.left id ref true) :: (mid ++ .happening (.left key ref true) :: earlier)) := by
  intro h
  obtain ⟨outer, htop⟩ := h.fits
  have hserving := h.tail.posted.underWay (htop ▸ List.mem_cons_self)
  have hserved : service ref (.happening (.left key ref true) :: earlier) = .served := if_pos rfl
  exact Service.noConfusion (hserving.symm.trans (h.tail.service_append_of_served hserved))

end Orderly

/-! ## What is kept -/

/-- No call of a provider returns. -/
def Remains (ref : ProviderRef) (ledger : Ledger) : Prop :=
  ∀ id success, .happening (.left id ref success) ∉ ledger

lemma remains_nil (ref : ProviderRef) : Remains ref [] := fun _ _ hmem => by cases hmem

lemma Remains.of_cons {ref : ProviderRef} {line : Line} {ledger : Ledger}
    (h : Remains ref (line :: ledger)) : Remains ref ledger :=
  fun id success hmem => h id success (List.mem_cons_of_mem _ hmem)

lemma Remains.cons {ref : ProviderRef} {line : Line} {ledger : Ledger} (h : Remains ref ledger)
    (hline : ∀ id success, line ≠ .happening (.left id ref success)) :
    Remains ref (line :: ledger) := by
  intro id success hmem
  rcases List.mem_cons.mp hmem with hnew | hold
  · exact hline id success hnew.symm
  · exact h id success hold

lemma Remains.append {ref : ProviderRef} {later earlier : Ledger} (h : Remains ref earlier)
    (hlater : Remains ref later) : Remains ref (later ++ earlier) := by
  intro id success hmem
  rcases List.mem_append.mp hmem with hnew | hold
  · exact hlater id success hnew
  · exact h id success hold

/-- What waits for an id after a call that failed, of which `meanwhile` tells what happened in
between: the provider that failed if no newer one was registered, and else the newest, unless that one
has answered already. -/
structure Kept (id : String) (ref : ProviderRef) (meanwhile : Ledger)
    (providers : Table ProviderRef) : Prop where
  /-- A provider waits. -/
  found : ∃ kept, providers.get? id = some kept ∧ (kept = ref ∨ .registration id kept ∈ meanwhile)
  /-- If no newer one was registered, it is the one that failed. -/
  again : newest id meanwhile = none → providers.get? id = some ref
  /-- If a newer one was registered, it is the newest, unless that one has answered. -/
  newer : ∀ {newer}, newest id meanwhile = some newer →
    (∀ key, .happening (.left key newer true) ∉ meanwhile) → providers.get? id = some newer

lemma newest_cons_eq_none {id : String} {line : Line} {earlier : Ledger} :
    newest id (line :: earlier) = none ↔ newest id [line] = none ∧ newest id earlier = none := by
  cases line with
  | registration key ref =>
      rw [newest, newest]
      split
      · simp
      · simp [newest]
  | happening e => simp [newest]

lemma mem_of_newest {id : String} {ref : ProviderRef} :
    ∀ {ledger : Ledger}, newest id ledger = some ref →
      ∃ later earlier, ledger = later ++ .registration id ref :: earlier ∧ newest id later = none
  | .registration key other :: rest, h => by
      rw [newest] at h
      split at h
      · next hkey =>
          subst hkey
          obtain rfl := Option.some.inj h
          exact ⟨[], rest, rfl, rfl⟩
      · next hkey =>
          obtain ⟨later, earlier, rfl, hnone⟩ := mem_of_newest h
          exact ⟨.registration key other :: later, earlier, rfl, by rw [newest, if_neg hkey, hnone]⟩
  | .happening e :: rest, h => by
      have hrest : newest id rest = some ref := h
      obtain ⟨later, earlier, rfl, hnone⟩ := mem_of_newest hrest
      exact ⟨.happening e :: later, earlier, rfl, hnone⟩

lemma not_mem_of_newest {id : String} :
    ∀ {ledger : Ledger}, newest id ledger = none → ∀ ref, .registration id ref ∉ ledger
  | [], _, _ => List.not_mem_nil
  | .registration key other :: rest, h, ref => by
      rw [newest] at h
      split at h
      · cases h
      · next hkey =>
          rintro (_ | ⟨_, hold⟩)
          · exact hkey rfl
          · exact not_mem_of_newest h ref hold
  | .happening e :: rest, h, ref => by
      have hrest : newest id rest = none := h
      rintro (_ | ⟨_, hold⟩)
      exact not_mem_of_newest hrest ref hold

/-- What is on top of a call in progress: where `inner` tells what happened since it started, all that
is called for the same id on top of it, and all that waits for the id, was registered since. -/
structure OnTop (id : String) (ref : ProviderRef) (earlier inner : Ledger)
    (above : List (String × ProviderRef)) : Prop where
  stack : underWay (inner ++ .happening (.entered id ref) :: earlier)
    = above ++ (id, ref) :: underWay earlier
  called : ∀ other, (id, other) ∈ above → .registration id other ∈ inner
  waits : ∀ other, (waiting (inner ++ .happening (.entered id ref) :: earlier)).get? id = some other →
    .registration id other ∈ inner

namespace OnTop

variable {id : String} {ref : ProviderRef} {earlier inner : Ledger}
  {above : List (String × ProviderRef)}

lemma start : OnTop id ref earlier [] [] where
  stack := rfl
  called := by rintro other ⟨⟩
  waits other hget := by
    rw [List.nil_append, waiting, Table.get?_erase_self] at hget
    cases hget

variable (h : OnTop id ref earlier inner above)

include h

lemma registration (key : String) (new : ProviderRef) :
    OnTop id ref earlier (.registration key new :: inner) above where
  stack := h.stack
  called other hmem := List.mem_cons_of_mem _ (h.called other hmem)
  waits other hget := by
    rcases Table.of_get?_put hget with ⟨rfl, rfl⟩ | hget
    · exact List.mem_cons_self
    · exact List.mem_cons_of_mem _ (h.waits other hget)

lemma entered {key : String} {new : ProviderRef}
    (hfits : (waiting (inner ++ .happening (.entered id ref) :: earlier)).get? key = some new) :
    OnTop id ref earlier (.happening (.entered key new) :: inner) ((key, new) :: above) where
  stack := by rw [List.cons_append, underWay, h.stack, List.cons_append]
  called other hmem := by
    rcases List.mem_cons.mp hmem with hnew | hold
    · cases hnew
      exact List.mem_cons_of_mem _ (h.waits _ hfits)
    · exact List.mem_cons_of_mem _ (h.called other hold)
  waits other hget := List.mem_cons_of_mem _ (h.waits other (Table.get?_of_get?_erase hget))

lemma aside {e : Event} (haside : e.IsAside) :
    OnTop id ref earlier (.happening e :: inner) above where
  stack := by rw [List.cons_append, haside.underWay, h.stack]
  called other hmem := List.mem_cons_of_mem _ (h.called other hmem)
  waits other hget := by
    rw [List.cons_append, haside.waiting] at hget
    exact List.mem_cons_of_mem _ (h.waits other hget)

/-- If nothing was registered for the id, nothing waits for it. -/
lemma absent (hnone : newest id inner = none) :
    (waiting (inner ++ .happening (.entered id ref) :: earlier)).get? id = none := by
  rw [Option.eq_none_iff_forall_ne_some]
  exact fun other hget => not_mem_of_newest hnone other (h.waits other hget)

lemma mem_underWay : (id, ref) ∈ underWay (inner ++ .happening (.entered id ref) :: earlier) := by
  rw [h.stack]
  exact List.mem_append_right _ List.mem_cons_self

end OnTop

/-- What was called last on top of a call returns. -/
lemma OnTop.left {id key : String} {ref new : ProviderRef} {earlier inner : Ledger}
    {above : List (String × ProviderRef)} (h : OnTop id ref earlier inner ((key, new) :: above))
    (success : Bool) : OnTop id ref earlier (.happening (.left key new success) :: inner) above where
  stack := by rw [List.cons_append, underWay, h.stack, List.cons_append, List.tail_cons]
  called other hmem := List.mem_cons_of_mem _ (h.called other (List.mem_cons_of_mem _ hmem))
  waits other hget := by
    refine List.mem_cons_of_mem _ ?_
    rw [List.cons_append] at hget
    by_cases hkey : id = key
    · subst hkey
      cases success with
      | true => exact h.waits other hget
      | false =>
          -- it waits again unless another one does, and either was registered since
          rw [get?_waiting_left_self] at hget
          cases hfound : (waiting (inner ++ .happening (.entered id ref) :: earlier)).get? id with
          | none =>
              rw [hfound] at hget
              cases hget
              exact h.called new List.mem_cons_self
          | some found =>
              rw [hfound] at hget
              cases hget
              exact h.waits found hfound
    · rw [get?_waiting_left_of_ne _ _ _ hkey] at hget
      exact h.waits other hget

namespace Orderly

variable {id : String} {ref : ProviderRef} {earlier inner : Ledger}

/-- A call that has not returned has all that is called since on top of it. -/
lemma exists_onTop (h : Orderly (inner ++ .happening (.entered id ref) :: earlier))
    (hremains : Remains ref inner) : ∃ above, OnTop id ref earlier inner above := by
  induction inner with
  | nil => exact ⟨[], .start⟩
  | cons line inner ih =>
      obtain ⟨above, hold⟩ := ih h.tail hremains.of_cons
      have hfits := h.fits
      cases line with
      | registration key new => exact ⟨above, hold.registration key new⟩
      | happening e =>
          cases e with
          | entered key new => exact ⟨(key, new) :: above, hold.entered hfits⟩
          | left key new success =>
              obtain ⟨outer, htop⟩ := hfits
              have htop' : above ++ (id, ref) :: underWay earlier = (key, new) :: outer :=
                hold.stack.symm.trans htop
              cases above with
              | nil =>
                  cases htop'
                  exact absurd List.mem_cons_self (hremains id success)
              | cons first above =>
                  cases htop'
                  exact ⟨above, hold.left success⟩
          | _ => exact ⟨above, hold.aside trivial⟩

/-- Where a call returns, nothing is called on top of it. -/
lemma underWay_of_left {success : Bool}
    (h : Orderly
      (.happening (.left id ref success) :: (inner ++ .happening (.entered id ref) :: earlier)))
    (hremains : Remains ref inner) :
    underWay (inner ++ .happening (.entered id ref) :: earlier) = (id, ref) :: underWay earlier := by
  obtain ⟨above, hon⟩ := h.tail.exists_onTop hremains
  obtain ⟨outer, htop⟩ := h.fits
  cases above with
  | nil => exact hon.stack
  | cons first above =>
      -- the same provider would be called twice
      have hnodup := h.tail.posted.nodup
      have hfirst : first = (id, ref) := (List.cons.inj (hon.stack.symm.trans htop)).1
      rw [hon.stack, hfirst, List.cons_append, List.map_cons, List.map_append, List.map_cons,
        List.nodup_cons] at hnodup
      exact absurd (List.mem_append_right _ List.mem_cons_self) hnodup.1

end Orderly

/-- Where a provider is that was registered for an id last: it waits for the id, or it is being called
and none was registered for the id since. -/
inductive Foremost (id : String) (ref : ProviderRef) (ledger : Ledger) : Prop where
  | waiting (hwaits : (waiting ledger).get? id = some ref)
  | serving {inner older : Ledger} (hsplit : ledger = inner ++ .happening (.entered id ref) :: older)
      (hremains : Remains ref inner) (hnone : newest id inner = none)

namespace Foremost

variable {id : String} {ref : ProviderRef} {line : Line} {earlier : Ledger}
  (h : Orderly (line :: earlier)) (hnone : newest id [line] = none)
  (hanswers : ∀ key, line ≠ .happening (.left key ref true))

include h hnone

lemma of_waiting (hwaits : (Ledger.waiting earlier).get? id = some ref) :
    Foremost id ref (line :: earlier) := by
  have hfits := h.fits
  cases line with
  | registration key other =>
      have hkey : id ≠ key := by
        rintro rfl
        rw [newest, if_pos rfl] at hnone
        cases hnone
      exact .waiting ((Table.get?_put_of_ne other hkey _).trans hwaits)
  | happening e =>
      cases e with
      | entered key called =>
          by_cases hkey : id = key
          · subst hkey
            obtain rfl := Option.some.inj (hwaits.symm.trans hfits)
            exact .serving (List.nil_append _).symm (remains_nil _) rfl
          · exact .waiting ((Table.get?_erase_of_ne hkey _).trans hwaits)
      | left key called success =>
          refine .waiting ?_
          by_cases hkey : id = key
          · subst hkey
            cases success with
            | true => exact hwaits
            | false => rw [get?_waiting_left_self, hwaits, Option.getD_some]
          · rw [get?_waiting_left_of_ne _ _ _ hkey, hwaits]
      | _ => exact .waiting hwaits

include hanswers

lemma of_serving {inner older : Ledger}
    (hsplit : earlier = inner ++ .happening (.entered id ref) :: older) (hremains : Remains ref inner) (hinner : newest id inner = none) :
    Foremost id ref (line :: earlier) := by
  subst hsplit
  by_cases hleft : ∃ key success, line = .happening (.left key ref success)
  · obtain ⟨key, success, rfl⟩ := hleft
    cases success with
    | true => exact absurd rfl (hanswers key)
    | false =>
        obtain ⟨above, hon⟩ := h.tail.exists_onTop hremains
        obtain ⟨outer, htop⟩ := h.fits
        have hposted := h.tail.posted
        have hserving := hposted.underWay (htop ▸ List.mem_cons_self)
        obtain rfl := Service.serving.inj (hserving.symm.trans (hposted.underWay hon.mem_underWay))
        exact .waiting (by rw [get?_waiting_left_self, hon.absent hinner, Option.getD_none])
  · refine .serving (List.cons_append ..).symm
      (hremains.cons fun key success heq => hleft ⟨key, success, heq⟩) ?_
    cases line with
    | registration key other =>
        rw [newest] at hnone ⊢
        split at hnone
        · cases hnone
        · next hkey => rw [if_neg hkey, hinner]
    | happening e => exact hinner

end Foremost

namespace Orderly

variable {id : String} {ref : ProviderRef} {earlier inner : Ledger}

/-- As long as none is registered for the id after it, and it does not answer, a provider is the
foremost of its id. -/
lemma foremost {recent : Ledger} (h : Orderly (recent ++ .registration id ref :: earlier))
    (hnewest : newest id recent = none) (hanswers : ∀ key, .happening (.left key ref true) ∉ recent) :
    Foremost id ref (recent ++ .registration id ref :: earlier) := by
  induction recent with
  | nil => exact .waiting (Table.get?_put_self id ref _)
  | cons line recent ih =>
      obtain ⟨hline, hrest⟩ := newest_cons_eq_none.mp hnewest
      have hstill := ih h.tail hrest fun key hmem => hanswers key (List.mem_cons_of_mem _ hmem)
      cases hstill with
      | waiting hwaits => exact .of_waiting h hline hwaits
      | serving hsplit hremains hnone =>
          refine .of_serving h hline (fun key heq => hanswers key ?_) hsplit hremains hnone
          rw [heq]
          exact List.mem_cons_self

/-- **What is kept.**  What waits after a call that failed. -/
theorem kept
    (h : Orderly
      (.happening (.left id ref false) :: (inner ++ .happening (.entered id ref) :: earlier)))
    (hremains : Remains ref inner) :
    Kept id ref inner (waiting
      (.happening (.left id ref false) :: (inner ++ .happening (.entered id ref) :: earlier))) := by
  obtain ⟨above, hon⟩ := h.tail.exists_onTop hremains
  have hget := get?_waiting_left_self id ref (inner ++ .happening (.entered id ref) :: earlier)
  refine ⟨⟨_, hget, ?_⟩, fun hnone => ?_, fun {newer} hnewest hanswers => ?_⟩
  · cases hfound : (waiting (inner ++ .happening (.entered id ref) :: earlier)).get? id with
    | none => exact .inl rfl
    | some found => exact .inr (hon.waits found hfound)
  · rwa [hon.absent hnone, Option.getD_none] at hget
  · have hstack := h.underWay_of_left hremains
    have hbefore := h.tail
    obtain ⟨recent, old, rfl, hnone⟩ := mem_of_newest hnewest
    simp only [List.append_assoc, List.cons_append] at hbefore hget hstack ⊢
    cases hbefore.foremost hnone fun key hmem => hanswers key (List.mem_append_left _ hmem) with
    | waiting hwaits => rwa [hwaits, Option.getD_some] at hget
    | serving hsplit hwindow _ =>
        -- being called still, it would be under the call that returns, and thus be older
        have hregistered : Orderly
            (.registration id newer :: (old ++ .happening (.entered id ref) :: earlier)) :=
          hbefore.of_append
        have hstart : Orderly (.happening (.entered id ref) :: earlier) := hregistered.tail.of_append
        rw [hsplit] at hbefore hstack
        obtain ⟨_, hover⟩ := hbefore.exists_onTop hwindow
        have hcalled : (id, newer) ∈ underWay (.happening (.entered id ref) :: earlier) := by
          rw [underWay, ← hstack]
          exact hover.mem_underWay
        have hknown : service newer (.happening (.entered id ref) :: earlier) ≠ .unknown := by
          rw [hstart.posted.underWay hcalled]
          exact Service.noConfusion
        exact absurd hregistered.fits (service_ne_unknown hknown old)

end Orderly

end Ledger

end ModuleRunner.Evaluation
