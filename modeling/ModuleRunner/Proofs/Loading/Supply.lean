import ModuleRunner.Proofs.Loading.Books

/-!
# What the host supplies

An id for which the host has registered a value or a provider before anybody asks for it is the
host's: its requests go neither to the locator nor to a file, and all of them are answered by one
record.  There is one way out of this.  While a provider is called it is out of the registry, and
there is no record yet; a request for the same id that is made meanwhile finds nothing, is located
like any other, and what the provider returns then takes the place of the record that was made.

The invariants are about the books only, so they are shown of each move.

* `InCall`, `Undisturbed` — the call of an id's provider, and that nobody asks for the id meanwhile.
* `Event.Bypasses`, `Event.Concerns` — the locator or a file is used for an id; or that, its answer or the
  call of its provider.
* `Books.Serves`, `Supplied`, `Steady` — the invariants.
* `supplied_id_answered_by_host` — the whole session.
* `supplied_id_bypassed_in_call` — a provider that lets a file answer for it.
-/

namespace ModuleRunner.Evaluation

open Script ModuleRunner.Module Run

/-! ## Calls in progress -/

/-- A call of a provider for an id is in progress. -/
def InCall (id : String) (history : List Event) : Prop :=
  ∃ ref, .call id ref ∈ inProgress history

/-- Nobody asks for an id while a provider is called for it. -/
def Undisturbed (id : String) (history : List Event) : Prop :=
  Throughout (fun e earlier => ∀ base, e = .requested id base → ¬ InCall id earlier) history

/-- The host supplies an id before anybody asks for it. -/
def FirstSupplied (id : String) (history : List Event) : Prop :=
  Throughout (fun e earlier => ∀ base, e = .requested id base → .supplied id ∈ earlier) history

/-- An event by which the locator is asked, or a file is run, for a request of an id. -/
def Event.Bypasses (id : String) (earlier : List Event) : Event → Prop
  | .located _ => ∃ base older, earlier = .requested id base :: older
  | .started key _ => key = id
  | _ => False

/-- An event by which a request of an id is served. -/
def Event.Serves (id : String) : Event → Prop
  | .started key _ => key = id
  | .entered key _ => key = id
  | _ => False

/-- An event by which a request of an id is answered, or goes past what the host supplied, or its
provider is called. -/
def Event.Concerns (id : String) (earlier : List Event) : Event → Prop
  | .answered key _ _ => key = id
  | .entered key _ => key = id
  | e => e.Bypasses id earlier

lemma Event.Bypasses.concerns {id : String} {earlier : List Event} {e : Event}
    (h : e.Bypasses id earlier) : e.Concerns id earlier := by
  cases e with
  | answered => exact h.elim
  | entered => exact h.elim
  | _ => exact h

lemma FirstSupplied.supplied_of_requested {id base : String} {history : List Event}
    (h : FirstSupplied id history) (hmem : .requested id base ∈ history) :
    .supplied id ∈ history := by
  obtain ⟨later, earlier, rfl⟩ := List.append_of_mem hmem
  have hearlier := h later _ earlier rfl base rfl
  exact List.mem_append_right _ (List.mem_cons_of_mem _ hearlier)

lemma inCall_requested {id request base : String} {earlier : List Event} :
    InCall id (.requested request base :: earlier) ↔ InCall id earlier := by
  simp [InCall, inProgress]

/-- A request that is undisturbed starts outside of calls. -/
lemma Undisturbed.not_inCall_of_head {id base : String} {history older : List Event}
    (h : Undisturbed id history) (hhead : history = .requested id base :: older) :
    ¬ InCall id history := by
  rw [hhead, inCall_requested]
  exact h [] _ older hhead base rfl

lemma inCall_of_tail {id : String} {stack : List Activity} (h : ∃ ref, .call id ref ∈ stack.tail) :
    ∃ ref, .call id ref ∈ stack :=
  h.imp fun _ => List.mem_of_mem_tail

/-- What ends something else does not end a call. -/
lemma inCall_of_outer {id : String} {first : Activity} {outer : List Activity}
    (hfirst : ∀ ref, first ≠ .call id ref) (h : ∃ ref, .call id ref ∈ first :: outer) :
    ∃ ref, .call id ref ∈ outer := by
  obtain ⟨ref, hmem⟩ := h
  rcases List.mem_cons.mp hmem with heq | hmem
  · exact absurd heq.symm (hfirst ref)
  · exact ⟨ref, hmem⟩

/-! ## What answers an id -/

/-- What answers requests for an id, now or when a call is over. -/
inductive Books.Serves (b : Books) (id : String) : Prop where
  | record {record : Record} (h : b.registry.records.get? id = some record)
  | value {value : Value} (h : b.registry.values.get? id = some value)
  | provider {ref : ProviderRef} (h : b.registry.providers.get? id = some ref)
  | call (h : ∃ ref, .call id ref ∈ b.stack)

/-- Where nothing changes under an id, the same answers it. -/
lemma Books.Serves.of_eq {b b' : Books} {id : String} (h : b.Serves id)
    (hrecord : b'.registry.records.get? id = b.registry.records.get? id)
    (hvalue : b'.registry.values.get? id = b.registry.values.get? id)
    (hprovider : b'.registry.providers.get? id = b.registry.providers.get? id)
    (hcall : (∃ ref, .call id ref ∈ b.stack) → ∃ ref, .call id ref ∈ b'.stack) :
    b'.Serves id := by
  cases h with
  | record h => exact .record (hrecord.trans h)
  | value h => exact .value (hvalue.trans h)
  | provider h => exact .provider (hprovider.trans h)
  | call h => exact .call (hcall h)

/-! ## The invariant -/

/-- What the books keep to under an id that is supplied before anybody asks for it. -/
structure Supplied (id : String) (b : Books) : Prop where
  /-- Once it is supplied, something answers. -/
  serves : .supplied id ∈ b.history → b.Serves id
  /-- The locator and files are used for it during a call of its provider only. -/
  bypasses : Throughout (fun e earlier => e.Bypasses id earlier → InCall id earlier) b.history

namespace Supplied

variable {id : String} {b b' : Books}

/-- A body that runs under the id runs inside a call of its provider. -/
lemma inCall_of_body (h : Supplied id b) {record : Record} {outer : List Activity}
    (htop : b.stack = .body id record :: outer) : ∃ ref, .call id ref ∈ outer := by
  obtain ⟨later, earlier, hsplit, rfl⟩ := exists_start_of_top htop
  exact h.bypasses later _ earlier hsplit rfl

/-- A request that finds nothing is made during a call. -/
lemma inCall_of_unknown (h : Supplied id b) (hfirst : FirstSupplied id b.history) {base : String}
    (hasked : .requested id base ∈ b.history) (hunknown : Unknown b.registry id)
    (hprovider : b.registry.providers.get? id = none) : InCall id b.history := by
  cases h.serves (hfirst.supplied_of_requested hasked) with
  | record hrecord =>
      rw [hunknown.record] at hrecord
      cases hrecord
  | value hvalue =>
      rw [hunknown.value] at hvalue
      cases hvalue
  | provider hfound =>
      rw [hprovider] at hfound
      cases hfound
  | call hcall => exact hcall

/-- If nobody asks for the id during a call, a request that finds nothing is for another one. -/
lemma ne_of_unknown (h : Supplied id b) (hfirst : FirstSupplied id b.history)
    (hundisturbed : Undisturbed id b.history) {request base : String} {older : List Event}
    (hhead : b.history = .requested request base :: older ∨
      b.history = .located (resolve request base) :: .requested request base :: older)
    (hunknown : Unknown b.registry request) (hprovider : b.registry.providers.get? request = none) :
    id ≠ request := by
  rintro rfl
  have hasked : .requested id base ∈ b.history := by
    rcases hhead with hhead | hhead <;> simp [hhead]
  have hin := h.inCall_of_unknown hfirst hasked hunknown hprovider
  rcases hhead with hhead | hhead
  · exact hundisturbed.not_inCall_of_head hhead hin
  · have hbefore : Undisturbed id (.requested id base :: older) :=
      Throughout.of_suffix hundisturbed (hhead ▸ List.suffix_cons _ _)
    rw [hhead] at hin
    exact hbefore.not_inCall_of_head rfl hin

/-- What answers an id goes on to answer it, or something else takes its place. -/
lemma serves_of_serves (h : Supplied id b) (hmove : Move b b') (hserves : b.Serves id) :
    b'.Serves id := by
  have hpushed {first : Activity} (hcall : ∃ ref, .call id ref ∈ b.stack) :
      ∃ ref, .call id ref ∈ first :: b.stack := hcall.imp fun _ => List.mem_cons_of_mem _
  have hpopped {first : Activity} {outer : List Activity} (htop : b.stack = first :: outer)
      (hfirst : ∀ ref, first ≠ .call id ref) (hcall : ∃ ref, .call id ref ∈ b.stack) :
      ∃ ref, .call id ref ∈ b.stack.tail := by
    rw [htop] at hcall ⊢
    exact inCall_of_outer hfirst hcall
  cases hmove with
  | suppliedValue other value =>
      by_cases hid : id = other
      · subst hid
        exact .value (Table.get?_put_self _ _ _)
      · exact hserves.of_eq rfl (Table.get?_put_of_ne _ hid _) rfl fun hcall => hcall
  | suppliedProvider other ref =>
      by_cases hid : id = other
      · subst hid
        exact .provider (Table.get?_put_self _ _ _)
      · exact hserves.of_eq rfl rfl (Table.get?_put_of_ne _ hid _) fun hcall => hcall
  | requested request base => exact hserves.of_eq rfl rfl rfl hpushed
  | @hosted request base older value record hhead hrecord hvalue =>
      by_cases hid : id = request
      · subst hid
        exact .record (Table.get?_put_self _ _ _)
      · exact hserves.of_eq (Table.get?_put_of_ne _ hid _) (Table.get?_erase_of_ne hid _) rfl
          fun hcall => hcall
  | @entered request base older ref hhead hunknown hprovider =>
      by_cases hid : id = request
      · subst hid
        exact .call ⟨ref, List.mem_cons_self⟩
      · exact hserves.of_eq rfl rfl (Table.get?_erase_of_ne hid _) hpushed
  | @made request ref outer record htop =>
      by_cases hid : id = request
      · subst hid
        exact .record (Table.get?_put_self _ _ _)
      · exact hserves.of_eq (Table.get?_put_of_ne _ hid _) rfl rfl
          (hpopped htop (by rintro _ ⟨⟩; exact hid rfl))
  | @gaveUp request ref outer htop =>
      by_cases hid : id = request
      · subst hid
        obtain ⟨found, hfound⟩ := b.registry.get?_restoreProvider_self id ref
        exact .provider hfound
      · exact hserves.of_eq (congrArg (Table.get? · id) (b.registry.records_restoreProvider request ref))
          (congrArg (Table.get? · id) (b.registry.values_restoreProvider request ref))
          (b.registry.get?_restoreProvider_of_ne ref hid)
          (hpopped htop (by rintro _ ⟨⟩; exact hid rfl))
  | located hhead hunknown hprovider => exact hserves.of_eq rfl rfl rfl fun hcall => hcall
  | @started request base older record hhead hunknown hprovider =>
      by_cases hid : id = request
      · subst hid
        exact .record (Table.get?_put_self _ _ _)
      · exact hserves.of_eq (Table.get?_put_of_ne _ hid _) rfl rfl hpushed
  | finished htop => exact hserves.of_eq rfl rfl rfl (hpopped htop (by rintro _ ⟨⟩))
  | @failed key record outer htop =>
      by_cases hid : id = key
      · subst hid
        have hcall := h.inCall_of_body htop
        rw [show outer = b.stack.tail by rw [htop, List.tail_cons]] at hcall
        exact .call hcall
      · exact hserves.of_eq (Table.get?_erase_of_ne hid _) rfl rfl (hpopped htop (by rintro _ ⟨⟩))
  | answered htop hrecord => exact hserves.of_eq rfl rfl rfl (hpopped htop (by rintro _ ⟨⟩))
  | refused failure htop => exact hserves.of_eq rfl rfl rfl (hpopped htop (by rintro _ ⟨⟩))

/-- Once the id is supplied, something answers it after each move: what was supplied just now, or what
answered before. -/
lemma serves_move (h : Supplied id b) (hmove : Move b b') (hsupplied : .supplied id ∈ b'.history) :
    b'.Serves id := by
  by_cases hbefore : .supplied id ∈ b.history
  · exact h.serves_of_serves hmove (h.serves hbefore)
  have hnew {e : Event} (hmem : .supplied id ∈ e :: b.history) : .supplied id = e :=
    (List.mem_cons.mp hmem).resolve_right hbefore
  cases hmove with
  | hosted => exact absurd hsupplied hbefore
  | suppliedValue other value =>
      obtain rfl := Event.supplied.inj (hnew hsupplied)
      exact .value (Table.get?_put_self _ _ _)
  | suppliedProvider other ref =>
      obtain rfl := Event.supplied.inj (hnew hsupplied)
      exact .provider (Table.get?_put_self _ _ _)
  | _ => cases hnew hsupplied

/-- The invariant is kept by each move. -/
theorem move (h : Supplied id b) (hmove : Move b b') (hfirst : FirstSupplied id b.history) :
    Supplied id b' := by
  refine ⟨h.serves_move hmove, ?_⟩
  have hadd {e : Event} (he : e.Bypasses id b.history → InCall id b.history) :
      Throughout (fun e earlier => e.Bypasses id earlier → InCall id earlier) (e :: b.history) :=
    throughout_cons.mpr ⟨he, h.bypasses⟩
  cases hmove with
  | hosted => exact h.bypasses
  | @located request base older hhead hunknown hprovider =>
      refine hadd ?_
      rintro ⟨base', older', hhead'⟩
      rw [hhead] at hhead'
      obtain ⟨rfl, rfl⟩ := Event.requested.inj (List.cons.inj hhead').1
      have hasked : .requested request base ∈ b.history := by simp [hhead]
      exact h.inCall_of_unknown hfirst hasked hunknown hprovider
  | @started request base older record hhead hunknown hprovider =>
      refine hadd ?_
      rintro rfl
      have hasked : .requested request base ∈ b.history := by simp [hhead]
      exact h.inCall_of_unknown hfirst hasked hunknown hprovider
  | _ => exact hadd (by rintro ⟨⟩)

end Supplied

/-! ## Undisturbed calls -/

/-- What the books keep to besides if nobody asks for the id during a call of its provider. -/
structure Steady (id : String) (b : Books) : Prop where
  /-- The locator and files are not used for it. -/
  unbypassed : Throughout (fun e earlier => ¬ e.Bypasses id earlier) b.history
  /-- Its provider is not called during a call. -/
  entered : Throughout (fun e earlier => ∀ ref, e = .entered id ref → ¬ InCall id earlier) b.history
  /-- What answered is there still. -/
  answers : ∀ base record, .answered id base record ∈ b.history →
    b.registry.records.get? id = some record
  /-- Nothing is there during a call. -/
  idle : InCall id b.history → b.registry.records.get? id = none

namespace Steady

variable {id : String} {b b' : Books}

/-- What is called for an id is called once at a time. -/
lemma not_inCall_of_outer (h : Steady id b) {ref : ProviderRef} {outer : List Activity}
    (htop : b.stack = .call id ref :: outer) : ¬ ∃ ref, .call id ref ∈ outer := by
  obtain ⟨later, earlier, hsplit, rfl⟩ := exists_start_of_top htop
  exact h.entered later _ earlier hsplit ref rfl

/-- Where there is no record, nothing was answered. -/
lemma not_answered (h : Steady id b) (hnone : b.registry.records.get? id = none) (base : String)
    (record : Record) : .answered id base record ∉ b.history := by
  intro hmem
  rw [h.answers base record hmem] at hnone
  cases hnone

/-- The records stay, and so do the calls: nothing is said about the id. -/
lemma of_eq (h : Steady id b) {e : Event} {registry : Registry}
    (hconcerns : ¬ e.Concerns id b.history)
    (hrecord : registry.records.get? id = b.registry.records.get? id)
    (hcall : InCall id (e :: b.history) → InCall id b.history) :
    Steady id (b.turn e registry) where
  unbypassed := throughout_cons.mpr ⟨mt Event.Bypasses.concerns hconcerns, h.unbypassed⟩
  entered := throughout_cons.mpr ⟨fun ref heq => absurd (heq ▸ rfl) hconcerns, h.entered⟩
  answers base record hmem := by
    have hne : .answered id base record ≠ e := by
      rintro rfl
      exact hconcerns rfl
    exact hrecord.trans (h.answers base record ((List.mem_cons.mp hmem).resolve_left hne))
  idle hin := hrecord.trans (h.idle (hcall hin))

/-- The invariant is kept by each move. -/
theorem move (h : Steady id b) (hs : Supplied id b) (hmove : Move b b')
    (hfirst : FirstSupplied id b.history) (hundisturbed : Undisturbed id b.history) :
    Steady id b' := by
  cases hmove with
  | suppliedValue other value => exact h.of_eq not_false rfl fun hin => hin
  | suppliedProvider other ref => exact h.of_eq not_false rfl fun hin => hin
  | requested request base => exact h.of_eq not_false rfl inCall_requested.mp
  | @hosted request base older value record hhead hrecord hvalue =>
      by_cases hid : id = request
      · subst hid
        exact ⟨h.unbypassed, h.entered,
          fun base' record' hmem => absurd hmem (h.not_answered hrecord base' record'),
          fun hin => absurd hin (hundisturbed.not_inCall_of_head hhead)⟩
      · have hsame := Table.get?_put_of_ne record hid b.registry.records
        exact ⟨h.unbypassed, h.entered, fun base' record' hmem =>
          hsame.trans (h.answers base' record' hmem), fun hin => hsame.trans (h.idle hin)⟩
  | @entered request base older ref hhead hunknown hprovider =>
      by_cases hid : id = request
      · subst hid
        have hout := hundisturbed.not_inCall_of_head hhead
        refine ⟨throughout_cons.mpr ⟨not_false, h.unbypassed⟩,
          throughout_cons.mpr ⟨fun _ _ => hout, h.entered⟩, fun base' record' hmem => ?_,
          fun _ => hunknown.record⟩
        exact h.answers base' record' ((List.mem_cons.mp hmem).resolve_left (by rintro ⟨⟩))
      · exact h.of_eq (Ne.symm hid) rfl (inCall_of_outer (by rintro _ ⟨⟩; exact hid rfl))
  | @made request ref outer record htop =>
      by_cases hid : id = request
      · subst hid
        have hnone := h.idle ⟨ref, by rw [← Books.stack, htop]; exact List.mem_cons_self⟩
        have hout : ¬ ∃ ref, .call id ref ∈ b.stack.tail := by
          rw [htop]
          exact h.not_inCall_of_outer htop
        refine ⟨throughout_cons.mpr ⟨not_false, h.unbypassed⟩,
          throughout_cons.mpr ⟨by rintro _ ⟨⟩, h.entered⟩, fun base' record' hmem => ?_,
          fun hin => absurd hin hout⟩
        exact absurd ((List.mem_cons.mp hmem).resolve_left (by rintro ⟨⟩))
          (h.not_answered hnone base' record')
      · exact h.of_eq not_false (Table.get?_put_of_ne record hid _) inCall_of_tail
  | gaveUp htop =>
      exact h.of_eq not_false
        (congrArg (Table.get? · id) (b.registry.records_restoreProvider _ _)) inCall_of_tail
  | @located request base older hhead hunknown hprovider =>
      have hid := hs.ne_of_unknown hfirst hundisturbed (.inl hhead) hunknown hprovider
      refine h.of_eq ?_ rfl fun hin => hin
      rintro ⟨base', older', hhead'⟩
      rw [hhead] at hhead'
      exact hid (Event.requested.inj (List.cons.inj hhead').1).1.symm
  | @started request base older record hhead hunknown hprovider =>
      have hid := hs.ne_of_unknown hfirst hundisturbed (.inr hhead) hunknown hprovider
      exact h.of_eq (Ne.symm hid) (Table.get?_put_of_ne record hid _)
        (inCall_of_outer (by rintro _ ⟨⟩))
  | finished htop => exact h.of_eq not_false rfl inCall_of_tail
  | @failed key record outer htop =>
      have hid : id ≠ key := by
        rintro rfl
        obtain ⟨later, earlier, hsplit, -⟩ := exists_start_of_top htop
        exact h.unbypassed later _ earlier hsplit rfl
      exact h.of_eq not_false (Table.get?_erase_of_ne hid _) inCall_of_tail
  | @answered request base record outer htop hrecord =>
      refine ⟨throughout_cons.mpr ⟨not_false, h.unbypassed⟩,
        throughout_cons.mpr ⟨by rintro _ ⟨⟩, h.entered⟩, fun base' record' hmem => ?_,
        fun hin => h.idle (inCall_of_tail hin)⟩
      rcases List.mem_cons.mp hmem with heq | hmem
      · obtain ⟨rfl, rfl, rfl⟩ := Event.answered.inj heq
        exact hrecord
      · exact h.answers base' record' hmem
  | refused failure htop => exact h.of_eq not_false rfl inCall_of_tail

end Steady

/-! ## Values -/

/-- What the books keep to under an id that a value was registered for. -/
structure Backed (id : String) (b : Books) : Prop where
  known : ¬ Unknown b.registry id
  unentered : ∀ ref, .entered id ref ∉ b.history
  unstarted : ∀ record, .started id record ∉ b.history

namespace Backed

variable {id : String} {b b' : Books}

/-- Where the value and the record stay, only a provider or a body could change anything. -/
lemma of_eq (h : Backed id b) {e : Event} {registry : Registry}
    (hserves : ¬ e.Serves id) (hknown : ¬ Unknown registry id) : Backed id (b.turn e registry) where
  known := hknown
  unentered ref hmem := by
    rcases List.mem_cons.mp hmem with rfl | hmem
    · exact hserves rfl
    · exact h.unentered ref hmem
  unstarted record hmem := by
    rcases List.mem_cons.mp hmem with rfl | hmem
    · exact hserves rfl
    · exact h.unstarted record hmem

/-- The invariant is kept by each move. -/
theorem move (h : Backed id b) (hmove : Move b b') : Backed id b' := by
  cases hmove with
  | suppliedValue other value =>
      refine h.of_eq not_false fun hunknown => ?_
      by_cases hid : id = other
      · subst hid
        have hvalue := hunknown.value
        rw [Registry.register, Table.get?_put_self] at hvalue
        cases hvalue
      · exact h.known (hunknown.of_eq rfl (Table.get?_put_of_ne value hid _))
  | suppliedProvider other ref =>
      exact h.of_eq not_false fun hunknown =>
        h.known (hunknown.of_eq rfl rfl)
  | requested request base => exact h.of_eq not_false h.known
  | @hosted request base older value record hhead hrecord hvalue =>
      refine ⟨fun hunknown => ?_, h.unentered, h.unstarted⟩
      by_cases hid : id = request
      · subst hid
        have hnone := hunknown.record
        rw [Table.get?_put_self] at hnone
        cases hnone
      · exact h.known (hunknown.of_eq (Table.get?_put_of_ne record hid _)
          (Table.get?_erase_of_ne hid _))
  | @entered request base older ref hhead hunknown hprovider =>
      have hid : id ≠ request := by
        rintro rfl
        exact h.known hunknown
      exact h.of_eq (Ne.symm hid) fun hunknown =>
        h.known (hunknown.of_eq rfl rfl)
  | @made other ref outer record htop =>
      refine h.of_eq not_false fun hunknown => ?_
      by_cases hid : id = other
      · subst hid
        have hnone := hunknown.record
        rw [Table.get?_put_self] at hnone
        cases hnone
      · exact h.known (hunknown.of_eq (Table.get?_put_of_ne record hid _) rfl)
  | @gaveUp other ref outer htop =>
      refine h.of_eq not_false fun hunknown => h.known (hunknown.of_eq ?_ ?_)
      · rw [Registry.records_restoreProvider]
      · rw [Registry.values_restoreProvider]
  | located hhead hunknown hprovider => exact h.of_eq not_false h.known
  | @started request base older record hhead hunknown hprovider =>
      have hid : id ≠ request := by
        rintro rfl
        exact h.known hunknown
      exact h.of_eq (Ne.symm hid) fun hunknown =>
        h.known (hunknown.of_eq (Table.get?_put_of_ne record hid _) rfl)
  | finished htop => exact h.of_eq not_false h.known
  | @failed key record outer htop =>
      have hid : id ≠ key := by
        rintro rfl
        have hstarted : (Activity.body id record).start ∈ b.history :=
          start_mem_of_inProgress (by rw [← Books.stack, htop]; exact List.mem_cons_self)
        exact h.unstarted record hstarted
      exact h.of_eq not_false fun hunknown =>
        h.known (hunknown.of_eq (Table.get?_erase_of_ne hid _) rfl)
  | answered htop hrecord => exact h.of_eq not_false h.known
  | refused failure htop => exact h.of_eq not_false h.known

/-- The provider of an id with a value is never called, so nobody disturbs it. -/
lemma undisturbed (h : Backed id b) : Undisturbed id b.history := by
  rintro later e earlier hsplit base rfl ⟨ref, hmem⟩
  have hentered : (Activity.call id ref).start ∈ earlier := start_mem_of_inProgress hmem
  refine h.unentered ref ?_
  rw [hsplit]
  exact List.mem_append_right _ (List.mem_cons_of_mem _ hentered)

end Backed

/-! ## Before anybody asks -/

/-- Only a request makes a provider or a body run for an id. -/
lemma Move.requested_of_serves {id : String} {b b' : Books} (hmove : Move b b')
    (h : ∀ e ∈ b.history, e.Serves id → ∃ base, .requested id base ∈ b.history) :
    ∀ e ∈ b'.history, e.Serves id → ∃ base, .requested id base ∈ b'.history := by
  have hadd {first : Event}
      (hfirst : first.Serves id → ∃ base, .requested id base ∈ b.history) :
      ∀ e ∈ first :: b.history, e.Serves id → ∃ base, .requested id base ∈ first :: b.history := by
    intro e hmem hserves
    rcases List.mem_cons.mp hmem with rfl | hmem
    · exact (hfirst hserves).imp fun _ => List.mem_cons_of_mem _
    · exact (h e hmem hserves).imp fun _ => List.mem_cons_of_mem _
  cases hmove with
  | hosted => exact h
  | @entered request base older ref hhead =>
      refine hadd ?_
      rintro rfl
      exact ⟨base, by simp [hhead]⟩
  | @started request base older record hhead =>
      refine hadd ?_
      rintro rfl
      exact ⟨base, by simp [hhead]⟩
  | _ => exact hadd (by rintro ⟨⟩)

/-- Where an id is supplied, requests that follow are not the first to name it. -/
lemma Move.firstSupplied {id : String} {b b' : Books} (hmove : Move b b')
    (h : .supplied id ∈ b.history ∧ FirstSupplied id b.history) :
    .supplied id ∈ b'.history ∧ FirstSupplied id b'.history := by
  refine ⟨hmove.history_suffix.mem h.1, ?_⟩
  cases hmove with
  | hosted => exact h.2
  | _ => exact throughout_cons.mpr ⟨fun _ _ => h.1, h.2⟩

lemma firstSupplied_of_not_requested {id : String} {history : List Event}
    (h : ∀ base, .requested id base ∉ history) : FirstSupplied id history := by
  rintro later e earlier rfl base rfl
  exact absurd (List.mem_append_right _ List.mem_cons_self) (h base)

lemma undisturbed_of_not_requested {id : String} {history : List Event}
    (h : ∀ base, .requested id base ∉ history) : Undisturbed id history := by
  rintro later e earlier rfl base rfl
  exact absurd (List.mem_append_right _ List.mem_cons_self) (h base)

/-! ## Sessions -/

/-- How a session goes on from the act that supplies an id. -/
lemma after_performAll_supply {id : String} {supply : HostAct} (hsupply : supply.Supplies id)
    (before rest : List HostAct) (w : World) :
    (performAll (before ++ supply :: rest)).after w = (performAll before).after w ∨
    ∃ w₁ : World, (performAll (before ++ supply :: rest)).after w = (performAll rest).after w₁ ∧
      w₁.history = .supplied id :: ((performAll before).after w).history ∧
      ∀ value, supply = .register id value →
        w₁.registry = ((performAll before).after w).registry.register id value := by
  rw [performAll_append]
  cases h : performAll before w with
  | error e w₀ =>
      rw [after_of_error (bind_of_error h), after_of_error h]
      exact .inl rfl
  | ok _ w₀ =>
      obtain ⟨w₁, hperform, hhistory, hvalue⟩ := hsupply.perform w₀
      rw [after_bind_of_ok h, after_of_ok h, performAll,
        after_bind_of_ok (capture_of_ok hperform)]
      exact .inr ⟨w₁, rfl, hhistory, hvalue⟩

/-- The id stays first supplied. -/
lemma firstSupplied_performAll {id : String} {supply : HostAct} (hsupply : supply.Supplies id)
    (before rest : List HostAct) {w : World}
    (hbefore : ∀ base, .requested id base ∉ ((performAll before).after w).history) :
    FirstSupplied id ((performAll (before ++ supply :: rest)).after w).history := by
  rcases after_performAll_supply hsupply before rest w with hsame | ⟨w₁, hsame, hhistory, -⟩
  · rw [hsame]
    exact firstSupplied_of_not_requested hbefore
  · have hstart : .supplied id ∈ w₁.history ∧ FirstSupplied id w₁.history := by
      rw [hhistory]
      exact ⟨List.mem_cons_self,
        throughout_cons.mpr ⟨by rintro _ ⟨⟩, firstSupplied_of_not_requested hbefore⟩⟩
    rw [hsame]
    exact ((lawful_performAll rest w₁).path.keeps
      (P := fun b => .supplied id ∈ b.history ∧ FirstSupplied id b.history) hstart
      fun hmove h => hmove.firstSupplied h).2

/-- An id with a value stays undisturbed. -/
lemma undisturbed_performAll_register {id : String} (value : Value) (before rest : List HostAct)
    {w : World} (hw : w.IsFresh)
    (hbefore : ∀ base, .requested id base ∉ ((performAll before).after w).history) :
    Undisturbed id ((performAll (before ++ .register id value :: rest)).after w).history := by
  rcases after_performAll_supply (.value value) before rest w with
    hsame | ⟨w₁, hsame, hhistory, hregistry⟩
  · rw [hsame]
    exact undisturbed_of_not_requested hbefore
  · have hserves : ∀ e ∈ ((performAll before).after w).history, e.Serves id →
        ∃ base, .requested id base ∈ ((performAll before).after w).history := by
      refine (lawful_performAll before w).path.keeps
        (P := fun b => ∀ e ∈ b.history, e.Serves id → ∃ base, .requested id base ∈ b.history) ?_
        fun hmove h => hmove.requested_of_serves h
      intro e hmem
      rw [World.books, hw.history] at hmem
      cases hmem
    have hunserved (e : Event) (hserved : e.Serves id) (hne : e ≠ .supplied id) :
        e ∉ w₁.history := by
      intro hmem
      rw [hhistory] at hmem
      obtain ⟨base, hasked⟩ := hserves e ((List.mem_cons.mp hmem).resolve_left hne) hserved
      exact hbefore base hasked
    have hstart : Backed id w₁.books := by
      refine ⟨fun hunknown => ?_, fun ref => hunserved _ rfl (by rintro ⟨⟩),
        fun record => hunserved _ rfl (by rintro ⟨⟩)⟩
      have hvalue := hunknown.value
      rw [World.books, hregistry value rfl, Registry.register, Table.get?_put_self] at hvalue
      cases hvalue
    rw [hsame]
    exact ((lawful_performAll rest w₁).path.keeps hstart fun hmove h => h.move hmove).undisturbed

/-- The invariants are kept along a path. -/
lemma Path.supplied {id : String} {floor : List Activity} {b b' : Books} (hpath : Path floor b b')
    (h : Supplied id b) (hfirst : FirstSupplied id b'.history) : Supplied id b' :=
  hpath.keeps (P := fun u => FirstSupplied id u.history → Supplied id u) (fun _ => h)
    (fun hmove hu hfirst =>
      have hbefore := hfirst.of_suffix hmove.history_suffix
      (hu hbefore).move hmove hbefore) hfirst

lemma Path.steady {id : String} {floor : List Activity} {b b' : Books} (hpath : Path floor b b')
    (h : Supplied id b ∧ Steady id b) (hfirst : FirstSupplied id b'.history)
    (hundisturbed : Undisturbed id b'.history) : Steady id b' := by
  refine (hpath.keeps (P := fun u => FirstSupplied id u.history → Undisturbed id u.history →
    Supplied id u ∧ Steady id u) (fun _ _ => h) ?_ hfirst hundisturbed).2
  intro u v hmove hu hfirst hundisturbed
  have hfirst' := hfirst.of_suffix hmove.history_suffix
  have hundisturbed' := hundisturbed.of_suffix hmove.history_suffix
  obtain ⟨hsupplied, hsteady⟩ := hu hfirst' hundisturbed'
  exact ⟨hsupplied.move hmove hfirst', hsteady.move hsupplied hmove hfirst' hundisturbed'⟩

lemma World.IsFresh.supplied {id : String} {w : World} (hw : w.IsFresh) :
    Supplied id w.books ∧ Steady id w.books := by
  have hbooks : w.books = ⟨.empty, []⟩ := by rw [World.books, hw.history, hw.registry]
  rw [hbooks]
  refine ⟨⟨?_, throughout_nil _⟩, throughout_nil _, throughout_nil _, ?_, fun _ => rfl⟩
  · rintro ⟨⟩
  · rintro base record ⟨⟩

/-- **The host answers for what it supplies.**  In a session in which the host supplies an id before
anybody asks for it, the locator is asked and a file is run for the id during a call of its provider
only.  If what was supplied is a value, or nobody asks for the id during a call of its provider, that
does not happen at all, and one and the same record answers all requests of the id.  What a load
returns is the present exports of the record that answers it. -/
theorem supplied_id_answered_by_host (id : String) (before rest : List HostAct) (supply : HostAct)
    (hsupply : supply.Supplies id) (w : World) (hw : w.IsFresh)
    (hbefore : ∀ base, .requested id base ∉ ((performAll before).after w).history) :
    (∀ later e earlier, ((performAll (before ++ supply :: rest)).after w).history
      = later ++ e :: earlier → e.Bypasses id earlier → InCall id earlier) ∧
    ((∃ value, supply = .register id value) ∨
        Undisturbed id ((performAll (before ++ supply :: rest)).after w).history →
      (∀ later e earlier, ((performAll (before ++ supply :: rest)).after w).history
        = later ++ e :: earlier → ¬ e.Bypasses id earlier) ∧
      ∀ base base' record record',
        .answered id base record ∈ ((performAll (before ++ supply :: rest)).after w).history →
        .answered id base' record' ∈ ((performAll (before ++ supply :: rest)).after w).history →
          record = record') ∧
    ∀ n request base u u' value, loadStep (machine n) request base u = .ok value u' →
      ∃ record earlier, u'.history = .answered request base record :: earlier ∧
        value = record.exports u'.heap := by
  have hfirst := firstSupplied_performAll hsupply before rest hbefore
  have hpath := (lawful_performAll (before ++ supply :: rest) w).path
  have hsupplied := hpath.supplied hw.supplied.1 hfirst
  refine ⟨hsupplied.bypasses, fun hcase => ?_, fun n request base u u' value hu =>
    loadStep_answered hu⟩
  have hundisturbed :
      Undisturbed id ((performAll (before ++ supply :: rest)).after w).history := by
    rcases hcase with ⟨value, rfl⟩ | hundisturbed
    · exact undisturbed_performAll_register value before rest hw hbefore
    · exact hundisturbed
  have hsteady := hpath.steady hw.supplied hfirst hundisturbed
  refine ⟨hsteady.unbypassed, fun base base' record record' hmem hmem' => ?_⟩
  have hrecord := hsteady.answers base record hmem
  rw [hsteady.answers base' record' hmem'] at hrecord
  exact (Option.some.inj hrecord).symm

/-- A provider that fails when it is called first, and makes a value when it is called again: the
record of that value answers from two places. -/
theorem supplied_id_answered_by_host_retried :
    let supply : HostAct := .registerNative "x"
      ⟨fun n => if n ≤ 1 then .fail "busy" else .give (.text "ready") [], 0⟩
    let rest : List HostAct := [.load "x" "", .load "x" "", .load "x" "lib/b"]
    let history := ((performAll ([] ++ supply :: rest)).after World.empty).history
    let made : Record := ⟨"x", "native:x", ⟨0⟩⟩
    supply.Supplies "x" ∧ World.empty.IsFresh ∧ Undisturbed "x" history ∧
    .answered "x" "" made ∈ history ∧ .answered "x" "lib/b" made ∈ history ∧
    ∀ base base' record record', .answered "x" base record ∈ history →
      .answered "x" base' record' ∈ history → record = record' := by
  intro supply rest history made
  have hsupply : supply.Supplies "x" := .provider _
  have hfresh : World.empty.IsFresh := ⟨rfl, rfl, rfl⟩
  have hbefore : ∀ base, .requested "x" base ∉ ((performAll []).after World.empty).history := by
    rintro base ⟨⟩
  have hhistory : history = [.answered "x" "lib/b" made, .requested "x" "lib/b",
      .answered "x" "" made, .left "x" ⟨0⟩ true, .entered "x" ⟨0⟩, .requested "x" "",
      .refused "x" "" (.load (.native "x" "busy")), .left "x" ⟨0⟩ false, .entered "x" ⟨0⟩,
      .requested "x" "", .supplied "x"] := by decide +kernel
  have hundisturbed : Undisturbed "x" history := by
    rw [hhistory]
    simp [Undisturbed, InCall, inProgress, throughout_nil]
  have hall := supplied_id_answered_by_host "x" [] rest supply hsupply World.empty hfresh hbefore
  refine ⟨hsupply, hfresh, hundisturbed, ?_, ?_, (hall.2.1 (.inr hundisturbed)).2⟩
  · simp [hhistory]
  · simp [hhistory]

/-- A provider that asks for its own id lets a file answer, and its own value takes the place of the
record of the file: two records answer the id. -/
theorem supplied_id_bypassed_in_call :
    let w : World :=
      { World.empty with
        heap := { Heap.empty with scopes := #[⟨[], none⟩] }
        interpreters := #[⟨⟨0⟩, 0, defaultMaxDepth, 0⟩]
        locate := fun _ => .ok (some ⟨"x", "x.js", ""⟩) }
    let acts : List HostAct := [.registerNative "x" ⟨fun _ => .load "x" "", 0⟩, .load "x" ""]
    let history := ((performAll acts).after w).history
    .started "x" ⟨"x", "x.js", ⟨1⟩⟩ ∈ history ∧ .answered "x" "" ⟨"x", "x.js", ⟨1⟩⟩ ∈ history ∧
    .answered "x" "" ⟨"x", "native:x", ⟨2⟩⟩ ∈ history := by
  decide +kernel

end ModuleRunner.Evaluation
