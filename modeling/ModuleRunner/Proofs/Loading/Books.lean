import ModuleRunner.Proofs.Loading.Retention
import ModuleRunner.Proofs.Session.Act

/-!
# The books of a session

What a session knows of its modules, and what happened to them, are its books.  They change in few
ways only: a request starts, finds its record, and ends; a provider is taken out, called, and
returns; a body starts and ends; the host supplies something.  Most of what is claimed about loading
is about the order of these moves alone, and whatever scripts do, the books go from move to move.

What is in progress at a moment is a stack that the history tells.  A move that ends something ends
what is on top of the stack, and evaluation leaves the stack as it was, unless it runs out of levels.

* `Activity`, `inProgress` — what is in progress.
* `Throughout` — what holds of each event and its past.
* `Books`, `Move`, `Path` — the moves of the books.
* `Lawful` — a run whose books move, and which sets back what is in progress.
* `machine_lawful`, `lawful_performAll` — evaluation and sessions.
-/

namespace ModuleRunner.Evaluation

open Script ModuleRunner.Module Run

/-! ## What is in progress -/

/-- Something that is in progress. -/
inductive Activity where
  /-- A request by code whose own id is `base`. -/
  | request (request base : String)
  /-- The body of the module under a key. -/
  | body (key : String) (record : Record)
  /-- The call of a provider. -/
  | call (id : String) (provider : ProviderRef)
deriving DecidableEq

/-- What is in progress after a history, the innermost first. -/
def inProgress : List Event → List Activity
  | [] => []
  | .requested request base :: earlier => .request request base :: inProgress earlier
  | .started key record :: earlier => .body key record :: inProgress earlier
  | .entered id provider :: earlier => .call id provider :: inProgress earlier
  | .answered .. :: earlier => (inProgress earlier).tail
  | .refused .. :: earlier => (inProgress earlier).tail
  | .ended .. :: earlier => (inProgress earlier).tail
  | .left .. :: earlier => (inProgress earlier).tail
  | .supplied _ :: earlier => inProgress earlier
  | .located _ :: earlier => inProgress earlier

/-- What has to have happened for something to be in progress. -/
def Activity.start : Activity → Event
  | .request id base => .requested id base
  | .body key record => .started key record
  | .call id provider => .entered id provider

/-- What is in progress was started, by an event before which everything outside of it was in
progress already. -/
lemma exists_start {activity : Activity} {outer : List Activity} :
    ∀ {history : List Event} {inner : List Activity},
      inProgress history = inner ++ activity :: outer →
      ∃ later earlier, history = later ++ activity.start :: earlier ∧ inProgress earlier = outer
  | [], inner, h => by
      cases inner <;> cases h
  | e :: earlier, inner, h => by
      have hpass {inner' : List Activity} (h : inProgress earlier = inner' ++ activity :: outer) :
          ∃ later older, e :: earlier = later ++ activity.start :: older ∧
            inProgress older = outer := by
        obtain ⟨later, older, rfl, houter⟩ := exists_start h
        exact ⟨e :: later, older, rfl, houter⟩
      have hpush {first : Activity} (hstart : first.start = e)
          (h : first :: inProgress earlier = inner ++ activity :: outer) :
          ∃ later older, e :: earlier = later ++ activity.start :: older ∧
            inProgress older = outer := by
        cases inner with
        | nil =>
            obtain ⟨rfl, houter⟩ := List.cons.inj h
            exact ⟨[], earlier, by rw [List.nil_append, hstart], houter⟩
        | cons _ inner => exact hpass (List.cons.inj h).2
      have hpop (h : (inProgress earlier).tail = inner ++ activity :: outer) :
          ∃ later older, e :: earlier = later ++ activity.start :: older ∧
            inProgress older = outer := by
        cases hstack : inProgress earlier with
        | nil =>
            rw [hstack] at h
            cases inner <;> cases h
        | cons first rest =>
            rw [hstack, List.tail_cons] at h
            have hwhole : inProgress earlier = (first :: inner) ++ activity :: outer := by
              rw [hstack, h, List.cons_append]
            exact hpass hwhole
      cases e with
      | requested request base => exact hpush rfl h
      | started key record => exact hpush rfl h
      | entered id provider => exact hpush rfl h
      | supplied id => exact hpass h
      | located id => exact hpass h
      | answered request base record => exact hpop h
      | refused request base failure => exact hpop h
      | ended key record success => exact hpop h
      | left id provider success => exact hpop h

/-- What is on top of what is in progress was started. -/
lemma exists_start_of_top {activity : Activity} {outer : List Activity} {history : List Event}
    (h : inProgress history = activity :: outer) :
    ∃ later earlier, history = later ++ activity.start :: earlier ∧ inProgress earlier = outer := by
  have hsplit : inProgress history = [] ++ activity :: outer := h
  exact exists_start hsplit

lemma start_mem_of_inProgress {activity : Activity} {history : List Event}
    (h : activity ∈ inProgress history) : activity.start ∈ history := by
  obtain ⟨inner, outer, hsplit⟩ := List.append_of_mem h
  obtain ⟨later, earlier, rfl, -⟩ := exists_start hsplit
  exact List.mem_append_right _ List.mem_cons_self

/-! ## Events and their past -/

/-- What holds of each event of a history and of what was earlier. -/
def Throughout (p : Event → List Event → Prop) (history : List Event) : Prop :=
  ∀ later e earlier, history = later ++ e :: earlier → p e earlier

lemma throughout_nil (p : Event → List Event → Prop) : Throughout p [] := by
  intro later e earlier h
  simp at h

@[simp] lemma throughout_cons {p : Event → List Event → Prop} {e : Event} {history : List Event} :
    Throughout p (e :: history) ↔ p e history ∧ Throughout p history := by
  refine ⟨fun h => ⟨h [] e history rfl, fun later e' earlier hsplit => ?_⟩, fun ⟨he, h⟩ => ?_⟩
  · exact h (e :: later) e' earlier (by rw [hsplit, List.cons_append])
  · intro later e' earlier hsplit
    cases later with
    | nil =>
        obtain ⟨rfl, rfl⟩ := List.cons.inj hsplit
        exact he
    | cons _ later => exact h later e' earlier (List.cons.inj hsplit).2

/-- What holds throughout a history held throughout its past. -/
lemma Throughout.of_suffix {p : Event → List Event → Prop} {history earlier : List Event}
    (h : Throughout p history) (hsuffix : earlier <:+ history) : Throughout p earlier := by
  obtain ⟨later, rfl⟩ := hsuffix
  intro front e older hsplit
  exact h (later ++ front) e older (by rw [hsplit, List.append_assoc])

/-! ## The moves -/

/-- What a session knows of its modules, and what happened to them. -/
structure Books where
  /-- The modules. -/
  registry : Registry
  /-- What happened, last event first. -/
  history : List Event

namespace Books

/-- What is in progress. -/
def stack (b : Books) : List Activity := inProgress b.history

/-- The books after an event, the modules being what they are then. -/
def turn (b : Books) (e : Event) (registry : Registry) : Books := ⟨registry, e :: b.history⟩

end Books

/-- Neither a record nor a value of the host is there under an id. -/
structure Unknown (registry : Registry) (id : String) : Prop where
  record : registry.records.get? id = none
  value : registry.values.get? id = none

lemma Unknown.of_eq {registry registry' : Registry} {id : String} (h : Unknown registry' id)
    (hrecord : registry'.records.get? id = registry.records.get? id)
    (hvalue : registry'.values.get? id = registry.values.get? id) : Unknown registry id :=
  ⟨hrecord ▸ h.record, hvalue ▸ h.value⟩

/-- The books of a world. -/
def World.books (w : World) : Books := ⟨w.registry, w.history⟩

/-- One change of the books. -/
inductive Move (b : Books) : Books → Prop where
  /-- The host supplies a value. -/
  | suppliedValue (id : String) (value : Value) :
      Move b (b.turn (.supplied id) (b.registry.register id value))
  /-- The host supplies a provider. -/
  | suppliedProvider (id : String) (ref : ProviderRef) :
      Move b (b.turn (.supplied id) (b.registry.registerProvider id ref))
  /-- A request starts. -/
  | requested (request base : String) : Move b (b.turn (.requested request base) b.registry)
  /-- A request finds a value of the host, which becomes a record. -/
  | hosted {request base : String} {older : List Event} {value : Value} (record : Record)
      (hhead : b.history = .requested request base :: older)
      (hrecord : b.registry.records.get? request = none)
      (hvalue : b.registry.values.get? request = some value) :
      Move b ⟨{ b.registry with
        values := b.registry.values.erase request
        records := b.registry.records.put request record }, b.history⟩
  /-- A request finds a provider, which is taken out and called. -/
  | entered {request base : String} {older : List Event} {ref : ProviderRef}
      (hhead : b.history = .requested request base :: older) (hunknown : Unknown b.registry request)
      (hprovider : b.registry.providers.get? request = some ref) :
      Move b (b.turn (.entered request ref) (b.registry.takeProvider request).2)
  /-- A provider returns a value, which becomes a record. -/
  | made {id : String} {ref : ProviderRef} {outer : List Activity} (record : Record)
      (htop : b.stack = .call id ref :: outer) :
      Move b (b.turn (.left id ref true)
        { b.registry with records := b.registry.records.put id record })
  /-- A provider fails, and waits again. -/
  | gaveUp {id : String} {ref : ProviderRef} {outer : List Activity}
      (htop : b.stack = .call id ref :: outer) :
      Move b (b.turn (.left id ref false) (b.registry.restoreProvider id ref))
  /-- A request finds nothing, and the locator is asked. -/
  | located {request base : String} {older : List Event}
      (hhead : b.history = .requested request base :: older) (hunknown : Unknown b.registry request)
      (hprovider : b.registry.providers.get? request = none) :
      Move b (b.turn (.located (resolve request base)) b.registry)
  /-- The locator has found a source, whose body starts with a new record. -/
  | started {request base : String} {older : List Event} (record : Record)
      (hhead : b.history = .located (resolve request base) :: .requested request base :: older)
      (hunknown : Unknown b.registry request) (hprovider : b.registry.providers.get? request = none) :
      Move b (b.turn (.started request record)
        { b.registry with records := b.registry.records.put request record })
  /-- A body succeeds. -/
  | finished {key : String} {record : Record} {outer : List Activity}
      (htop : b.stack = .body key record :: outer) :
      Move b (b.turn (.ended key record true) b.registry)
  /-- A body fails, and its record goes. -/
  | failed {key : String} {record : Record} {outer : List Activity}
      (htop : b.stack = .body key record :: outer) :
      Move b (b.turn (.ended key record false) (b.registry.remove key))
  /-- A request is answered by the record that is there. -/
  | answered {request base : String} {record : Record} {outer : List Activity}
      (htop : b.stack = .request request base :: outer)
      (hrecord : b.registry.records.get? request = some record) :
      Move b (b.turn (.answered request base record) b.registry)
  /-- A request fails. -/
  | refused {request base : String} {outer : List Activity} (failure : Failure)
      (htop : b.stack = .request request base :: outer) :
      Move b (b.turn (.refused request base failure) b.registry)

lemma Move.history_suffix {b b' : Books} (h : Move b b') : b.history <:+ b'.history := by
  cases h with
  | hosted => exact List.suffix_rfl
  | _ => exact List.suffix_cons _ _

/-- Moves, none of which ends what is in progress below them. -/
def Path (floor : List Activity) : Books → Books → Prop :=
  Relation.ReflTransGen fun b b' => Move b b' ∧ floor <:+ b'.stack

namespace Path

variable {floor : List Activity} {b b' : Books}

lemma refl : Path floor b b := Relation.ReflTransGen.refl

lemma trans {b'' : Books} (h : Path floor b b') (h' : Path floor b' b'') : Path floor b b'' :=
  Relation.ReflTransGen.trans h h'

lemma of_move (h : Move b b') (hfloor : floor <:+ b'.stack) : Path floor b b' :=
  .single ⟨h, hfloor⟩

lemma of_suffix {lower : List Activity} (h : Path floor b b') (hlower : lower <:+ floor) :
    Path lower b b' :=
  Relation.ReflTransGen.mono (fun _ _ hmove => ⟨hmove.1, hlower.trans hmove.2⟩) _ _ h

/-- A path inside something that has just started. -/
lemma inside {b₁ : Books} {activity : Activity} (hstart : Move b b₁)
    (hpush : b₁.stack = activity :: b.stack) (h : Path b₁.stack b₁ b') : Path b.stack b b' :=
  have hsuffix : b.stack <:+ b₁.stack := hpush ▸ List.suffix_cons _ _
  (of_move hstart hsuffix).trans (h.of_suffix hsuffix)

/-- Something from its start to its end. -/
lemma around {b₁ b₂ : Books} {activity : Activity} (hstart : Move b b₁)
    (hpush : b₁.stack = activity :: b.stack)
    (h : Path b₁.stack b₁ b' ∧ b'.stack = b₁.stack)
    (hend : b'.stack = activity :: b.stack → Move b' b₂) (hpop : b₂.stack = b'.stack.tail) :
    Path b.stack b b₂ ∧ b₂.stack = b.stack := by
  have htop : b'.stack = activity :: b.stack := h.2.trans hpush
  have hback : b₂.stack = b.stack := by rw [hpop, htop, List.tail_cons]
  exact ⟨(h.1.inside hstart hpush).trans (.of_move (hend htop) (hback ▸ List.suffix_rfl)), hback⟩

/-- What every move keeps, a path keeps. -/
theorem keeps {P : Books → Prop} (h : Path floor b b') (hb : P b)
    (hstep : ∀ {u v : Books}, Move u v → P u → P v) : P b' := by
  induction h with
  | refl => exact hb
  | tail _ hmove ih => exact hstep hmove.1 ih

/-- A history only goes on. -/
lemma history_suffix (h : Path floor b b') : b.history <:+ b'.history :=
  h.keeps (P := fun u => b.history <:+ u.history) List.suffix_rfl fun hmove hu =>
    hu.trans hmove.history_suffix

/-- What is in progress at the start is in progress at every moment in between. -/
lemma floor_suffix_of_past (h : Path floor b b') (hb : floor <:+ b.stack) {earlier : List Event}
    (hsince : b.history <:+ earlier) (hpast : earlier <:+ b'.history) :
    floor <:+ inProgress earlier := by
  induction h with
  | refl =>
      have hsame : earlier = b.history := hpast.eq_of_length_le hsince.length_le
      exact hsame ▸ hb
  | @tail u v hpath hmove ih =>
      by_cases hnow : earlier = v.history
      · exact hnow ▸ hmove.2
      · refine ih ?_
        cases hmove.1 with
        | hosted => exact hpast
        | _ => exact (List.suffix_cons_iff.mp hpast).resolve_left hnow

end Path

/-! ## Lawful runs -/

/-- The books went along a path, and unless the run is out of levels, what is in progress is what it
was. -/
def World.Proceeds {α : Type} (w : World) : EStateM.Result Stop World α → Prop
  | .ok _ w' => Path w.books.stack w.books w'.books ∧ w'.books.stack = w.books.stack
  | .error (.failed _) w' => Path w.books.stack w.books w'.books ∧ w'.books.stack = w.books.stack
  | .error .exhausted w' => Path w.books.stack w.books w'.books

/-- A run whose books move, and which sets back what is in progress. -/
def Lawful {α : Type} (run : Run α) : Prop := ∀ w : World, w.Proceeds (run w)

namespace World

/-- The books of one world are on a path to those of another one, and in progress is what was. -/
def Returns (w w' : World) : Prop :=
  Path w.books.stack w.books w'.books ∧ w'.books.stack = w.books.stack

lemma returns_of_eq {w w' : World} (h : w'.books = w.books) : w.Returns w' := by
  rw [Returns, h]
  exact ⟨.refl, rfl⟩

/-- What runs do to the books, with what is left of it when they are out of levels. -/
lemma span_returns : Span Returns fun w w' => Path w.books.stack w.books w'.books where
  ends :=
    { refl := fun _ => returns_of_eq rfl
      trans := fun h h' => ⟨h.1.trans (h.2 ▸ h'.1), h'.2.trans h.2⟩
      heap := fun _ _ => returns_of_eq rfl
      console := fun _ _ => returns_of_eq rfl
      interpreters := fun _ _ => returns_of_eq rfl }
  stops h := h.1
  trans h h' := h.1.trans (h.2 ▸ h')
  interpreters h _ := h

variable {α β : Type} {w w₁ : World}

lemma proceeds_iff {result : EStateM.Result Stop World α} : w.Proceeds result ↔
    w.Spans Returns (fun w w' => Path w.books.stack w.books w'.books) result := by
  match result with
  | .ok _ _ => exact Iff.rfl
  | .error (.failed _) _ => exact Iff.rfl
  | .error .exhausted _ => exact Iff.rfl

/-- A run starts where the one before left. -/
lemma Proceeds.after {result : EStateM.Result Stop World α}
    (hpath : Path w.books.stack w.books w₁.books) (hstack : w₁.books.stack = w.books.stack)
    (h : w₁.Proceeds result) : w.Proceeds result :=
  proceeds_iff.mpr (span_returns.after ⟨hpath, hstack⟩ (proceeds_iff.mp h))

/-- A run that leaves the books alone proceeds. -/
lemma proceeds_of_eq (h : w₁.books = w.books) (a : α) :
    w.Proceeds (.ok a w₁ : EStateM.Result Stop World α) := returns_of_eq h

lemma proceeds_of_error (e : Stop) : w.Proceeds (.error e w : EStateM.Result Stop World α) :=
  proceeds_iff.mpr (span_returns.of_error (returns_of_eq rfl))

/-- Along the way. -/
lemma Proceeds.path {x : Run α} (hx : w.Proceeds (x w)) :
    Path w.books.stack w.books (x.after w).books := by
  cases h : x w with
  | ok a w' =>
      rw [h] at hx
      rw [after_of_ok h]
      exact hx.1
  | error e w' =>
      rw [h] at hx
      rw [after_of_error h]
      cases e with
      | failed failure => exact hx.1
      | exhausted => exact hx

lemma Proceeds.bind {x : Run α} {f : α → Run β} (hx : w.Proceeds (x w))
    (hf : ∀ a w₁, x w = .ok a w₁ → w₁.Proceeds (f a w₁)) : w.Proceeds ((x >>= f) w) :=
  proceeds_iff.mpr (span_returns.bind (proceeds_iff.mp hx) fun a w₁ hrun =>
    proceeds_iff.mp (hf a w₁ hrun))

/-- Counting calls is not in the books. -/
lemma Proceeds.nested {x : Run α} {i : InterpreterRef}
    (hx : (w.counting i ((w.interpreter i).depth + 1)).Proceeds
      (x (w.counting i ((w.interpreter i).depth + 1)))) : w.Proceeds (Run.nested i x w) :=
  proceeds_iff.mpr (span_returns.nested (proceeds_iff.mp hx))

end World

open World

namespace Lawful

variable {α β : Type}

/-- A run that leaves the books alone. -/
lemma of_books {f : World → α} {g : World → World} (h : ∀ w, (g w).books = w.books) :
    Lawful fun w => .ok (f w) (g w) :=
  fun w => proceeds_of_eq (h w) _

lemma bind {x : Run α} {f : α → Run β} (hx : Lawful x) (hf : ∀ a, Lawful (f a)) :
    Lawful (x >>= f) :=
  fun w => (hx w).bind fun a w₁ _ => hf a w₁

/-- Evaluation is lawful as far as loading is. -/
theorem hereditary : Hereditary fun _ => Lawful where
  pure _ := of_books fun _ => rfl
  throw e _ := proceeds_of_error e
  bind := bind
  capture hx w := proceeds_iff.mpr (Span.capture (proceeds_iff.mp (hx w)))
  get := of_books fun _ => rfl
  withHeap _ := of_books fun _ => rfl
  console _ := of_books fun _ => rfl
  nested _ hx _ := (hx _).nested

end Lawful

/-! ## Loading -/

section Load

variable {m : Machine} (hm : m.Has fun _ => Lawful)

include hm

lemma lawful_callProvider (ref : ProviderRef) : Lawful (callProvider m ref) := by
  have hcount : Lawful (countCall ref) := Lawful.of_books fun _ => rfl
  exact hcount.bind fun _ => Lawful.hereditary.perform hm _

/-- The call of a provider for a request that has just started. -/
lemma buildNative_proceeds {request base : String} {older : List Event} {ref : ProviderRef}
    {w : World} (hhead : w.history = .requested request base :: older)
    (hunknown : Unknown w.registry request)
    (hprovider : w.registry.providers.get? request = some ref) :
    w.Proceeds (buildNative m request ref (w.withoutProvider request)) := by
  have hstart : Move w.books ((w.withoutProvider request).noting (.entered request ref)).books :=
    .entered (b := w.books) hhead hunknown hprovider
  have hcalled := lawful_callProvider hm ref
    ((w.withoutProvider request).noting (.entered request ref))
  have hway := buildNative_building m request ref (w.withoutProvider request)
  generalize buildNative m request ref (w.withoutProvider request) = result at hway ⊢
  cases hway with
  | made hcall =>
      rw [hcall] at hcalled
      exact Path.around hstart rfl hcalled (.made _) rfl
  | failed hcall =>
      rw [hcall] at hcalled
      exact Path.around hstart rfl hcalled .gaveUp rfl
  | exhausted hcall =>
      rw [hcall] at hcalled
      exact Path.inside hstart rfl hcalled

/-- The body of a module whose source has just been located for a request. -/
lemma loadResource_proceeds {request base : String} {older : List Event} {w : World}
    (hhead : w.history = .located (resolve request base) :: .requested request base :: older)
    (hunknown : Unknown w.registry request)
    (hprovider : w.registry.providers.get? request = none) (resource : Resource) :
    w.Proceeds (loadResource m request resource w) := by
  have hstart : Move w.books (w.starting request resource).books :=
    .started (b := w.books) _ hhead hunknown hprovider
  have hrun := Lawful.hereditary.runBody hm (w.newRecord request resource) resource
    (w.starting request resource)
  have hway := loadResource_execution m request resource w
  generalize loadResource m request resource w = result at hway ⊢
  cases hway with
  | finished hbody =>
      rw [hbody] at hrun
      exact Path.around hstart rfl hrun .finished rfl
  | failed hbody =>
      rw [hbody] at hrun
      exact Path.around hstart rfl hrun .failed rfl
  | exhausted hbody =>
      rw [hbody] at hrun
      exact Path.inside hstart rfl hrun

/-- The record for a request that has just started. -/
lemma recordFor_proceeds {request base : String} {older : List Event} {w : World}
    (hhead : w.history = .requested request base :: older) :
    w.Proceeds (recordFor m request base w) := by
  have hlocated (hunknown : Unknown w.registry request)
      (hprovider : w.registry.providers.get? request = none) :
      Path w.books.stack w.books (w.noting (.located (resolve request base))).books :=
    .of_move (.located (b := w.books) hhead hunknown hprovider) List.suffix_rfl
  have hway := recordFor_answer m request base w
  generalize recordFor m request base w = result at hway ⊢
  cases hway with
  | cached hrecord => exact proceeds_of_eq rfl _
  | hosted hrecord hvalue =>
      exact ⟨.of_move (.hosted (b := w.books) _ hhead hrecord hvalue) List.suffix_rfl, rfl⟩
  | built hrecord hvalue hprovider =>
      exact buildNative_proceeds hm hhead ⟨hrecord, hvalue⟩ hprovider
  | refused hrecord hvalue hprovider _ => exact ⟨hlocated ⟨hrecord, hvalue⟩ hprovider, rfl⟩
  | absent hrecord hvalue hprovider _ => exact ⟨hlocated ⟨hrecord, hvalue⟩ hprovider, rfl⟩
  | @loaded resource hrecord hvalue hprovider _ =>
      have hhead' : (w.noting (.located (resolve request base))).history
          = .located (resolve request base) :: .requested request base :: older := by
        rw [World.history_noting, hhead]
      exact (loadResource_proceeds hm hhead' ⟨hrecord, hvalue⟩ hprovider resource).after
        (hlocated ⟨hrecord, hvalue⟩ hprovider) rfl

/-- A load is lawful: it ends its own request last. -/
lemma lawful_loadStep (hretains : m.Has fun _ run => run.Keeps Retains) (request base : String) :
    Lawful (loadStep m request base) := by
  intro w
  have hstart : Move w.books (w.noting (.requested request base)).books :=
    .requested (b := w.books) request base
  have hfound := recordFor_proceeds hm (World.history_noting w (.requested request base))
  have hway := loadStep_reply m request base w
  generalize loadStep m request base w = result at hway ⊢
  cases hway with
  | closed _ => exact proceeds_of_error _
  | refused _ hrecord =>
      rw [hrecord] at hfound
      exact Path.around hstart rfl hfound (.refused _) rfl
  | exhausted _ hrecord =>
      rw [hrecord] at hfound
      exact Path.inside hstart rfl hfound
  | answered _ hrecord =>
      have hpresent := recordFor_present hretains hrecord
      rw [hrecord] at hfound
      exact Path.around hstart rfl hfound (fun htop => .answered htop hpresent) rfl

end Load

/-- Every level of evaluation is lawful. -/
theorem machine_lawful (n : Nat) : (machine n).Has fun _ => Lawful :=
  ((Lawful.hereditary.and frame_retains.hereditary).machine (fun _ hm request base =>
    ⟨lawful_loadStep (hm.imp And.left) (hm.imp And.right) request base,
      keeps_loadStep (hm.imp And.right) request base⟩) n).imp And.left

/-! ## Sessions -/

/-- A session is lawful. -/
theorem lawful_performAll (acts : List HostAct) : Lawful (performAll acts) := by
  refine Lawful.hereditary.performAll machine_lawful (fun _ => Lawful.of_books fun _ => rfl) acts
    ?_ ?_
  · intro id value _ w
    exact ⟨.of_move (.suppliedValue (b := w.books) id value) List.suffix_rfl, rfl⟩
  · intro id provider _ w
    exact ⟨.of_move (.suppliedProvider (b := w.books) id ⟨w.providers.size⟩) List.suffix_rfl, rfl⟩

end ModuleRunner.Evaluation
