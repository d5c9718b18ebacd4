import ModuleRunner.Proofs.Loading.Books
import ModuleRunner.Proofs.Loading.Confinement

/-!
# Failures pass through modules unchanged

Where no code catches anything, the failure of a load ends whatever asked for it: the script frames
between, the body of the module that they belong to, the load of that module, and so on outward.
Each of these hands the failure on as it came, and each body takes its record out.  Only a provider
makes a failure of its own of one that it meets; so the way is free as long as none is being called.

* `World.Tryless` — no code of a world catches failures.
* `Refused` — a load that fails meanwhile, with what is in progress on top of the start.
* `Passing` — a run that hands such a failure on.
* `failures_pass_unchanged` — all levels of evaluation.
-/

namespace ModuleRunner.Script

/-- The realm of code that catches nothing. -/
def Realm.tryless : Realm where
  object _ := True
  array _ := True
  function _ := True
  scope _ := True
  native native := native ≠ .reflection .evaluate
  catches := False
  arrayMethod _ := by rintro ⟨⟩
  textMethod _ := by rintro ⟨⟩
  require _ := by rintro ⟨⟩
  resolve _ := by rintro ⟨⟩
  evaluate h := h rfl

lemma Realm.tryless_value (v : Value) : tryless.value v := by
  cases v <;> trivial

end ModuleRunner.Script

namespace ModuleRunner.Evaluation

open Script ModuleRunner.Module Run

/-- Nothing in a world catches failures: no function and no source has a `try` statement, and no
function runs texts that could have one. -/
structure World.Tryless (w : World) : Prop where
  functions : ∀ ref literal scope, (w.heap.functionAt ref).code = .script literal scope →
    literal.isTryless = true
  natives : ∀ ref, (w.heap.functionAt ref).code ≠ .native (.reflection .evaluate)
  sources : ∀ id resource body, w.locate id = .ok (some resource) →
    parse resource.content = .ok body → bodyIsTryless body = true

lemma World.Tryless.encloses {w : World} (h : w.Tryless) : Realm.tryless.Encloses w where
  heap :=
    { objects := ⟨fun _ _ entry _ => Realm.tryless_value entry.2, fun _ _ => trivial⟩
      arrays := ⟨fun _ _ item _ => Realm.tryless_value item, fun _ _ => trivial⟩
      functions := by
        refine ⟨fun i _ => ⟨?_, fun entry _ => Realm.tryless_value entry.2⟩, fun _ _ => trivial⟩
        have hfunctions := h.functions ⟨i⟩
        have hnatives := h.natives ⟨i⟩
        unfold Heap.functionAt at hfunctions hnatives
        cases hcode : (w.heap.functions.getD i default).code with
        | script literal scope => exact ⟨.inr (hfunctions literal scope hcode), trivial⟩
        | native native =>
            rintro rfl
            exact hnatives hcode
      scopes := ⟨fun _ _ => ⟨fun entry _ => Realm.tryless_value entry.2.value, fun _ _ => trivial⟩,
        fun _ _ => trivial⟩ }
  globals _ := trivial
  values _ v _ := Realm.tryless_value v
  records _ _ _ := trivial
  providers _ _ := ProviderAct.within_of_forall Realm.tryless_value _
  sources id resource hfound body hbody := .inr (h.sources id resource body hfound hbody)

/-! ## Loads that fail meanwhile -/

/-- Between two moments a load fails, while `above` is in progress on top of what was in progress at
the first one, and none of it is the call of a provider. -/
structure Refused (start now : List Event) (failure : Failure) (above : List Activity) : Prop where
  past : ∃ request base earlier, .refused request base failure :: earlier <:+ now ∧
    start <:+ earlier ∧ inProgress earlier = above ++ inProgress start
  calls : ∀ id ref, .call id ref ∉ above

namespace Refused

variable {start mid now : List Event} {failure : Failure} {above : List Activity}

/-- In no time nothing fails. -/
lemma not_self : ¬ Refused start start failure above := by
  rintro ⟨⟨request, base, earlier, hpast, hsince, -⟩, -⟩
  have h₁ := hpast.length_le
  have h₂ := hsince.length_le
  rw [List.length_cons] at h₁
  omega

/-- What came last, if it was no failure of a load, does not matter. -/
lemma of_cons {e : Event} (he : ∀ request base other, e ≠ .refused request base other)
    (h : Refused start (e :: now) failure above) : Refused start now failure above := by
  obtain ⟨⟨request, base, earlier, hpast, hrest⟩, hcalls⟩ := h
  rcases List.suffix_cons_iff.mp hpast with hhead | hpast
  · exact absurd (List.cons.inj hhead).1.symm (he request base failure)
  · exact ⟨⟨request, base, earlier, hpast, hrest⟩, hcalls⟩

/-- A load fails before a moment or after it. -/
lemma split (hmid : mid <:+ now) (hstack : inProgress mid = inProgress start)
    (h : Refused start now failure above) :
    Refused start mid failure above ∨ Refused mid now failure above := by
  obtain ⟨⟨request, base, earlier, hpast, hsince, hchain⟩, hcalls⟩ := h
  rcases List.suffix_or_suffix_of_suffix hpast hmid with hbefore | hafter
  · exact .inl ⟨⟨request, base, earlier, hbefore, hsince, hchain⟩, hcalls⟩
  · rcases List.suffix_cons_iff.mp hafter with rfl | hafter
    · exact .inl ⟨⟨request, base, earlier, List.suffix_rfl, hsince, hchain⟩, hcalls⟩
    · exact .inr ⟨⟨request, base, earlier, hpast, hafter, hstack ▸ hchain⟩, hcalls⟩

/-- A load fails inside something that starts first and is in progress all the time. -/
lemma inside {e : Event} {activity : Activity} {b b' : Books}
    (he : ∀ request base other, e ≠ .refused request base other) (hhead : b.history = e :: start)
    (hpush : b.stack = activity :: inProgress start) (hpath : Path b.stack b b')
    (h : Refused start b'.history failure above) :
    ∃ inner, above = inner ++ [activity] ∧ Refused b.history b'.history failure inner := by
  obtain ⟨⟨request, base, earlier, hpast, hsince, hchain⟩, hcalls⟩ := h
  -- the start itself came before the load failed, since nothing happened before the start
  have hstarted : b.history <:+ earlier := by
    rcases List.suffix_or_suffix_of_suffix hpast hpath.history_suffix with hbefore | hafter
    · rw [hhead] at hbefore
      rcases List.suffix_cons_iff.mp hbefore with hsame | hbefore
      · exact absurd (List.cons.inj hsame).1.symm (he request base failure)
      · have h₁ := hbefore.length_le
        have h₂ := hsince.length_le
        rw [List.length_cons] at h₁
        omega
    · rcases List.suffix_cons_iff.mp hafter with hsame | hafter
      · rw [hhead] at hsame
        exact absurd (List.cons.inj hsame).1 (he request base failure)
      · exact hafter
  obtain ⟨inner, hinner⟩ := hpath.floor_suffix_of_past List.suffix_rfl hstarted
    ((List.suffix_cons _ _).trans hpast)
  have habove : above = inner ++ [activity] := by
    have hsame : (inner ++ [activity]) ++ inProgress start = above ++ inProgress start := by
      rw [List.append_assoc, List.singleton_append, ← hpush, hinner, hchain]
    exact (List.append_cancel_right hsame).symm
  refine ⟨inner, habove, ⟨request, base, earlier, hpast, hstarted, hinner.symm⟩, ?_⟩
  intro id ref hcall
  exact hcalls id ref (habove ▸ List.mem_append_left _ hcall)

/-- A load that fails last is the one, or one failed before. -/
lemma of_refused {request base : String} {last : Failure}
    (h : Refused start (.refused request base last :: now) failure above) :
    (last = failure ∧ inProgress now = above ++ inProgress start) ∨
      Refused start now failure above := by
  obtain ⟨⟨request', base', earlier, hpast, hsince, hchain⟩, hcalls⟩ := h
  rcases List.suffix_cons_iff.mp hpast with hhead | hpast
  · cases hhead
    exact .inl ⟨rfl, hchain⟩
  · exact .inr ⟨⟨request', base', earlier, hpast, hsince, hchain⟩, hcalls⟩

end Refused

/-- A run that failed as something in it did, after which no module that was being executed has a
record. -/
def Passed {α : Type} (failure : Failure) (above : List Activity)
    (result : EStateM.Result Stop World α) : Prop :=
  ∃ w, result = .error (.failed failure) w ∧
    ∀ key record, .body key record ∈ above → w.registry.records.get? key = none

/-- A run inside a realm that hands on the failures of loads. -/
structure Passing (R : Realm) (α : Type) (Q : α → Prop) (x : Run α) : Prop where
  confined : Confined R α Q x
  proceeds : ∀ {w}, R.Encloses w → w.Proceeds (x w)
  passes : ∀ {w failure above}, R.Encloses w →
    Refused w.history (x.after w).history failure above → Passed failure above (x w)

namespace Passing

variable {R : Realm} {α β : Type} {Q : α → Prop} {S : β → Prop} {x : Run α}

/-- A run that leaves the books alone. -/
lemma of_books {f : World → α} {g : World → World}
    (hconfined : Confined R α Q fun w => .ok (f w) (g w)) (hsame : ∀ w, (g w).books = w.books) :
    Passing R α Q fun w => .ok (f w) (g w) where
  confined := hconfined
  proceeds _ := World.proceeds_of_eq (hsame _) _
  passes {w _ _} _ h := by
    have hhistory : (g w).history = w.history := congrArg Books.history (hsame w)
    exact absurd (hhistory ▸ h) Refused.not_self

/-- A run that stops at once. -/
lemma of_stop (e : Stop) (hconfined : Confined R α Q (throw e)) : Passing R α Q (throw e) where
  confined := hconfined
  proceeds _ := World.proceeds_of_error e
  passes _ h := absurd h Refused.not_self

lemma bind {f : α → Run β} (hx : Passing R α Q x) (hf : ∀ a, Q a → Passing R β S (f a)) :
    Passing R β S (x >>= f) where
  confined := hx.confined.bind fun a ha => (hf a ha).confined
  proceeds {w} hw := by
    refine (hx.proceeds hw).bind fun a w₁ hrun => ?_
    have hend := hx.confined w hw
    rw [hrun] at hend
    cases hend with
    | ok ha hw₁ => exact (hf a ha).proceeds hw₁.encloses
  passes {w failure above} hw h := by
    have hend := hx.confined w hw
    have hproceeds := hx.proceeds hw
    have hpasses : Refused w.history (x.after w).history failure above →
        Passed failure above (x w) := hx.passes hw
    generalize hrun : x w = result at hend hproceeds hpasses
    cases hend with
    | @ok a w₁ ha hw₁ =>
        rw [after_of_ok hrun] at hpasses
        rw [after_bind_of_ok hrun] at h
        rw [bind_of_ok hrun]
        have hlater := ((hf a ha).proceeds hw₁.encloses).path.history_suffix
        -- a load that fails in the first run ends it, but the first run has returned
        rcases h.split hlater hproceeds.2 with hfirst | hlast
        · obtain ⟨w', hresult, -⟩ := hpasses hfirst
          cases hresult
        · exact (hf a ha).passes hw₁.encloses hlast
    | @failed f w₁ _ _ =>
        rw [after_of_error hrun] at hpasses
        rw [after_of_error (bind_of_error hrun)] at h
        rw [bind_of_error hrun]
        obtain ⟨w', hresult, hgone⟩ := hpasses h
        cases hresult
        exact ⟨w₁, rfl, hgone⟩
    | @exhausted w₁ _ =>
        rw [after_of_error hrun] at hpasses
        rw [after_of_error (bind_of_error hrun)] at h
        obtain ⟨w', hresult, -⟩ := hpasses h
        cases hresult

lemma nested (i : InterpreterRef) (hx : Passing R α Q x) : Passing R α Q (Run.nested i x) where
  confined := hx.confined.nested i
  proceeds hw := (hx.proceeds (hw.counting i _)).nested
  passes {w failure above} hw h := by
    have hinside := hw.counting i ((w.interpreter i).depth + 1)
    have hpasses : Refused w.history
        (x.after (w.counting i ((w.interpreter i).depth + 1))).history failure above →
          Passed failure above (x (w.counting i ((w.interpreter i).depth + 1))) :=
      hx.passes hinside
    have hway := nested_calling x i w
    rw [after] at h
    generalize Run.nested i x w = result at hway h ⊢
    cases hway with
    | refused _ => exact absurd h Refused.not_self
    | returned _ hrun =>
        rw [after_of_ok hrun, hrun] at hpasses
        obtain ⟨w', hresult, -⟩ := hpasses h
        cases hresult
    | stopped _ hrun =>
        rw [after_of_error hrun, hrun] at hpasses
        obtain ⟨w', hresult, hgone⟩ := hpasses h
        cases hresult
        exact ⟨_, rfl, hgone⟩

end Passing

/-- Evaluation hands on the failures of loads, where nothing catches them. -/
theorem passing {R : Realm} (hcatches : ¬ R.catches) : Contract R (Passing R) where
  pure hQ := .of_books ((confined R).pure hQ) fun _ => rfl
  fail hfailure := .of_stop _ ((confined R).fail hfailure)
  exhausted := .of_stop _ (confined R).exhausted
  bind hx hf := hx.bind hf
  capture h := absurd h hcatches
  get := .of_books (confined R).get fun _ => rfl
  withHeap hf := .of_books ((confined R).withHeap hf) fun _ => rfl
  console level hlevel f := .of_books ((confined R).console level hlevel f) fun _ => rfl
  nested i hx := hx.nested i

/-! ## Loading -/

section Load

variable {R : Realm} (hcatches : ¬ R.catches) {m : Machine} (hm : m.Honours R (Passing R))
  (hlawful : m.Has fun _ => Lawful) {w : World} {failure : Failure} {above : List Activity}

section Bodies

include hcatches hm

/-- A failure that a body meets ends the body, which takes its record out. -/
lemma loadResource_passes (hw : R.Encloses w) {key : String} {resource : Resource}
    (hsource : R.source resource.content)
    (h : Refused w.history ((loadResource m key resource).after w).history failure above) :
    Passed failure above (loadResource m key resource w) := by
  have hmade := hw.create key resource.id resource.origin
  have hbody : Passing R Unit (fun _ => True) (runBody m (w.newRecord key resource) resource) :=
    (passing hcatches).runBody hm hmade.1 hsource
  have hstart : R.Encloses (w.starting key resource) := hmade.2.note _
  have hpath := (hbody.proceeds hstart).path
  have hinside (h : Refused w.history
      ((runBody m (w.newRecord key resource) resource).after (w.starting key resource)).history
      failure above) :
      ∃ inner, above = inner ++ [.body key (w.newRecord key resource)] ∧ Passed failure inner
        (runBody m (w.newRecord key resource) resource (w.starting key resource)) := by
    obtain ⟨inner, habove, hinner⟩ := h.inside (by rintro _ _ _ ⟨⟩) rfl rfl hpath
    exact ⟨inner, habove, hbody.passes hstart hinner⟩
  have hway := loadResource_execution m key resource w
  rw [after] at h
  generalize loadResource m key resource w = result at hway h ⊢
  cases hway with
  | finished hrun =>
      rw [after_of_ok hrun, hrun] at hinside
      obtain ⟨inner, -, w', hresult, -⟩ := hinside (h.of_cons (by rintro _ _ _ ⟨⟩))
      cases hresult
  | exhausted hrun =>
      rw [after_of_error hrun, hrun] at hinside
      obtain ⟨inner, -, w', hresult, -⟩ := hinside h
      cases hresult
  | failed hrun =>
      rw [after_of_error hrun, hrun] at hinside
      obtain ⟨inner, rfl, w', hresult, hgone⟩ := hinside (h.of_cons (by rintro _ _ _ ⟨⟩))
      cases hresult
      -- the records of the bodies inside are gone already, and the body's own goes now
      refine ⟨_, rfl, fun other record hmem => ?_⟩
      by_cases hother : other = key
      · subst hother
        exact Table.get?_erase_self _ _
      · have hinner := (List.mem_append.mp hmem).resolve_right fun hlast => by
          cases List.mem_singleton.mp hlast
          exact hother rfl
        exact (Table.get?_erase_of_ne hother _).trans (hgone other record hinner)

end Bodies

section Calls

include hlawful

/-- While a provider is called, there is the call in progress. -/
lemma not_refused_buildNative {id : String} {ref : ProviderRef} :
    ¬ Refused w.history ((buildNative m id ref).after w).history failure above := by
  intro h
  have hpath := (lawful_callProvider hlawful ref (w.noting (.entered id ref))).path
  have hcalled (h : Refused w.history
      ((callProvider m ref).after (w.noting (.entered id ref))).history failure above) : False := by
    obtain ⟨inner, rfl, -⟩ := h.inside (by rintro _ _ _ ⟨⟩) rfl rfl hpath
    exact h.calls id ref (List.mem_append_right _ List.mem_cons_self)
  have hway := buildNative_building m id ref w
  rw [after] at h
  generalize buildNative m id ref w = result at hway h
  cases hway with
  | made hcall =>
      rw [after_of_ok hcall] at hcalled
      exact hcalled (h.of_cons (by rintro _ _ _ ⟨⟩))
  | failed hcall =>
      rw [after_of_ok hcall] at hcalled
      exact hcalled (h.of_cons (by rintro _ _ _ ⟨⟩))
  | exhausted hcall =>
      rw [after_of_error hcall] at hcalled
      exact hcalled h

end Calls

include hcatches hm hlawful

lemma recordFor_passes (hw : R.Encloses w) {request base : String} {older : List Event}
    (hhead : w.history = .requested request base :: older)
    (h : Refused w.history ((recordFor m request base).after w).history failure above) :
    Passed failure above (recordFor m request base w) := by
  have hlocated : ¬ Refused w.history (.located (resolve request base) :: w.history) failure above :=
    fun h => (h.of_cons (by rintro _ _ _ ⟨⟩)).not_self
  have hway := recordFor_answer m request base w
  rw [after] at h
  generalize hresult : recordFor m request base w = result at hway h ⊢
  cases hway with
  | cached _ => exact absurd h Refused.not_self
  | hosted _ _ => exact absurd h Refused.not_self
  | built _ _ _ => exact absurd h (not_refused_buildNative hlawful (w := w.withoutProvider request))
  | refused _ _ _ _ => exact absurd h hlocated
  | absent _ _ _ _ => exact absurd h hlocated
  | @loaded resource hrecord hvalue hprovider hfound =>
      have hhead' : (w.noting (.located (resolve request base))).history
          = .located (resolve request base) :: .requested request base :: older := by
        rw [World.history_noting, hhead]
      have hproceeds := loadResource_proceeds hlawful hhead' ⟨hrecord, hvalue⟩ hprovider resource
      have hsuffix : .located (resolve request base) :: w.history
          <:+ ((loadResource m request resource).after
            (w.noting (.located (resolve request base)))).history := hproceeds.path.history_suffix
      refine loadResource_passes hcatches hm (hw.note _) (hw.sources _ _ hfound) ?_
      have hstack : inProgress (.located (resolve request base) :: w.history)
          = inProgress w.history := rfl
      exact (h.split hsuffix hstack).resolve_left hlocated

/-- A failure that a load meets ends the load. -/
lemma loadStep_passes (hw : R.Encloses w) {request base : String}
    (h : Refused w.history ((loadStep m request base).after w).history failure above) :
    Passed failure above (loadStep m request base w) := by
  have hfound := recordFor_proceeds hlawful (World.history_noting w (.requested request base))
  have hpath := hfound.path
  have hinside (h : Refused w.history
      ((recordFor m request base).after (w.noting (.requested request base))).history
      failure above) :
      ∃ inner, above = inner ++ [.request request base] ∧ Passed failure inner
        (recordFor m request base (w.noting (.requested request base))) := by
    obtain ⟨inner, habove, hinner⟩ := h.inside (by rintro _ _ _ ⟨⟩) rfl rfl hpath
    exact ⟨inner, habove, recordFor_passes hcatches hm hlawful (hw.note _) rfl hinner⟩
  have hway := loadStep_reply m request base w
  rw [after] at h
  generalize loadStep m request base w = result at hway h ⊢
  cases hway with
  | closed _ => exact absurd h Refused.not_self
  | exhausted _ hrun =>
      rw [after_of_error hrun, hrun] at hinside
      obtain ⟨inner, -, w', hresult, -⟩ := hinside h
      cases hresult
  | answered _ hrun =>
      rw [after_of_ok hrun, hrun] at hinside
      obtain ⟨inner, -, w', hresult, -⟩ := hinside (h.of_cons (by rintro _ _ _ ⟨⟩))
      cases hresult
  | @refused w₁ last _ hrun =>
      rw [after_of_error hrun, hrun] at hinside
      rw [hrun] at hfound
      rcases h.of_refused with ⟨rfl, hchain⟩ | hearlier
      · -- it is the outer load itself that fails, and no body is in progress on top
        have habove : above = [.request request base] := by
          have hstack : inProgress w₁.history = .request request base :: inProgress w.history :=
            hfound.2
          rw [hstack] at hchain
          exact (List.append_cancel_right hchain).symm
        refine ⟨_, rfl, fun key record hmem => ?_⟩
        rw [habove] at hmem
        cases List.mem_singleton.mp hmem
      · obtain ⟨inner, rfl, w', hresult, hgone⟩ := hinside hearlier
        cases hresult
        refine ⟨_, rfl, fun key record hmem => hgone key record ?_⟩
        exact (List.mem_append.mp hmem).resolve_right fun hlast => by
          cases List.mem_singleton.mp hlast

end Load

/-- Every level of evaluation hands on the failures of loads, where nothing catches them. -/
theorem machine_passing {R : Realm} (hcatches : ¬ R.catches) (n : Nat) :
    (machine n).Honours R (Passing R) :=
  (passing hcatches).machine (fun n hm request base =>
    { confined := (machine_confined R (n + 1)).load request base
      proceeds := fun _ => (machine_lawful (n + 1)).load request base _
      passes := fun hw h => loadStep_passes hcatches hm (machine_lawful n) hw h }) n

end ModuleRunner.Evaluation
