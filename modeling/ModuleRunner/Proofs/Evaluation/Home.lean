import ModuleRunner.Proofs.Evaluation.Calm
import ModuleRunner.Proofs.Evaluation.Moment
import ModuleRunner.Proofs.Loading.Confinement

/-!
# Whose scopes and whose code

All modules of a session share one heap, and their functions call each other freely.  What keeps them
apart is that a function closes over a scope of the code that it is part of.  To say so, every scope
but the global one is given a home when it is made: the run of a module's body that it is made for, or
the host, whose functions were there before.  A heap does not show homes, and later scopes have theirs
from what happens later; so the assignment of homes grows along a run, and nothing is ever taken back.

* `Home`, `Home.code`, `Home.Started` — whom scopes belong to, and whose code is whose.
* `Grounds`, `Homed` — what a session starts from, and the invariant: the global scope binds what was
  granted, what stands around a scope has the same home or is global, and so it is with the scope that
  a function closes over.
* `Homed.newScope`, `Homed.newClosure`, `Homed.declare` — what hands the invariant on, next to calm
  runs.
* `Stage` — a world with homes, ordered by time.
* `Moment.Private` — a moment at which code runs at home, and finds no names but its own and the
  granted ones.
-/

namespace ModuleRunner.Evaluation

open Script ModuleRunner.Module Run

/-! ## Homes -/

/-- Whom a scope is made for. -/
inductive Home where
  /-- The host, who brings functions of scripts along. -/
  | host
  /-- The module under a key, whose body is started with a record from a source text and runs in the
  scope `root`; and its functions ever after. -/
  | module (key : String) (record : Record) (source : String) (root : ScopeRef)

/-- The phrases of a home, given the bodies of the functions that the host brings along. -/
def Home.code (brought : List Statement → Prop) : Home → Phrase → Prop
  | host, p => ∃ body, brought body ∧ p.Inside body
  | module _ _ source _, p => ∃ body, parse source = .ok body ∧ p.Inside body

/-- The home of the same code that runs in another scope. -/
def Home.rooted (root : ScopeRef) : Home → Home
  | host => host
  | module key record source _ => module key record source root

/-- A home that is there: the body of the module was started, with a source text that was found. -/
def Home.Started (locate : String → Except LoadError (Option Resource)) (history : List Event) :
    Home → Prop
  | host => True
  | module key record source _ =>
    .started key record ∈ history ∧ ∃ id, locate id = .ok (some ⟨record.id, record.origin, source⟩)

section Homes

variable {brought : List Statement → Prop} {h : Home} {p : Phrase}

/-- The parts of a phrase are of its home. -/
lemma Home.code_leading (hp : h.code brought p) : ∀ q ∈ p.leading, h.code brought q := by
  cases h <;> exact fun _ hq => hp.imp fun _ hp => ⟨hp.1, .leading hp.2 hq⟩

lemma Home.code_other (hp : h.code brought p) : ∀ q ∈ p.others, h.code brought q := by
  cases h <;> exact fun _ hq => hp.imp fun _ hp => ⟨hp.1, .other hp.2 hq⟩

lemma Home.Started.later {locate : String → Except LoadError (Option Resource)}
    {history history' : List Event} (hstarted : h.Started locate history)
    (hsuffix : history <:+ history') : h.Started locate history' := by
  cases h with
  | host => trivial
  | module key record source root => exact ⟨hsuffix.subset hstarted.1, hstarted.2⟩

lemma Home.code_rooted (root : ScopeRef) : (h.rooted root).code brought = h.code brought := by
  cases h <;> rfl

lemma Home.started_rooted {locate : String → Except LoadError (Option Resource)}
    {history : List Event} (root : ScopeRef) :
    (h.rooted root).Started locate history ↔ h.Started locate history := by
  cases h <;> rfl

lemma Home.rooted_rooted (root root' : ScopeRef) : (h.rooted root').rooted root = h.rooted root := by
  cases h <;> rfl

end Homes

/-! ## The invariant -/

/-- What a session starts from. -/
structure Grounds where
  /-- All that the session can reach or make. -/
  realm : Realm
  /-- Whatever code there is may catch failures. -/
  catches : realm.catches
  /-- No function evaluates a source text in the global scope. -/
  sourceless : ¬ realm.native (.reflection .evaluate)
  /-- The bodies of the functions that the host brings along. -/
  brought : List Statement → Prop
  /-- The global scope of module code. -/
  globals : ScopeRef
  /-- The granted names. -/
  granted : String → Prop
  /-- Where modules are. -/
  locate : String → Except LoadError (Option Resource)

variable {G : Grounds}

/-- A scope that code of a home may close over: one of its own, or the global one. -/
structure Harbours (G : Grounds) (home : ScopeRef → Home) (w : World) (h : Home) (scope : ScopeRef) :
    Prop where
  inside : G.realm.scope scope.index
  made : scope.index < w.heap.scopes.size
  home : scope = G.globals ∨ home scope = h
  started : h.Started G.locate w.history

/-- What is harboured stays so, as long as homes are only added. -/
lemma Harbours.later {home home' : ScopeRef → Home} {w w' : World} {h : Home} {scope : ScopeRef}
    (hs : Harbours G home w h scope) (hsize : w.heap.scopes.size ≤ w'.heap.scopes.size)
    (hhome : ∀ s : ScopeRef, s.index < w.heap.scopes.size → home' s = home s)
    (hhistory : w.history <:+ w'.history) : Harbours G home' w' h scope :=
  ⟨hs.inside, hs.made.trans_le hsize, hs.home.imp_right (hhome scope hs.made).trans,
    hs.started.later hhistory⟩

/-- A world with the right homes. -/
structure Homed (G : Grounds) (home : ScopeRef → Home) (w : World) : Prop where
  encloses : G.realm.Encloses w
  locate : w.locate = G.locate
  globals : (w.interpreter w.host).globals = G.globals
  made : G.globals.index < w.heap.scopes.size
  outermost : (w.heap.scopeAt G.globals).parent = none
  names : ∀ name, (w.heap.ownBinding? G.globals name).isSome ↔ G.granted name
  around : ∀ s parent, G.realm.scope s.index → (w.heap.scopeAt s).parent = some parent →
    parent.index < w.heap.scopes.size ∧
      (parent = G.globals ∧ (home s).rooted s = home s ∨ home parent = home s)
  started : ∀ s, G.realm.scope s.index → s.index < w.heap.scopes.size → s ≠ G.globals →
    (home s).Started G.locate w.history
  closures : ∀ f literal s, G.realm.function f.index →
    (w.heap.functionAt f).code = .script literal s →
      ∃ h, Harbours G home w h s ∧ ∀ stmt ∈ literal.body, h.code G.brought (.statement stmt)

/-- What leaves scopes and code alone. -/
lemma Homed.alike {home : ScopeRef → Home} {w w' : World} (hw : Homed G home w) (h : w.Alike w')
    (hencloses : G.realm.Encloses w') : Homed G home w' where
  encloses := hencloses
  locate := h.locate.trans hw.locate
  globals := by rw [h.globals, h.host, hw.globals]
  made := h.heap.size ▸ hw.made
  outermost := (h.heap.parent _).trans hw.outermost
  names name := by rw [h.heap.binds, hw.names]
  around s parent hs hparent := by
    rw [h.heap.size]
    exact hw.around s parent hs ((h.heap.parent s).symm.trans hparent)
  started s hs hmade hne := (hw.started s hs (h.heap.size ▸ hmade) hne).later h.history
  closures f literal s hf hcode := by
    obtain ⟨owner, hs, hbody⟩ := hw.closures f literal s hf (h.heap.code f literal s hcode)
    exact ⟨owner, hs.later h.heap.size.ge (fun _ _ => rfl) h.history, hbody⟩

/-! ### A new scope -/

/-- The homes with one more, of the scope that is made next. -/
def World.housing (w : World) (home : ScopeRef → Home) (h : Home) : ScopeRef → Home :=
  Function.update home ⟨w.heap.scopes.size⟩ h

lemma World.housing_of_lt {w : World} (home : ScopeRef → Home) (h : Home) {s : ScopeRef}
    (hs : s.index < w.heap.scopes.size) : w.housing home h s = home s :=
  Function.update_of_ne (fun e => lt_irrefl _ (e ▸ hs)) _ _

/-- A scope made for code of a home is one of that home, which starts in it if it is made in the global
scope. -/
lemma Homed.newScope {home : ScopeRef → Home} {w : World} (hw : Homed G home w) {h : Home}
    {parent : ScopeRef} (hparent : Harbours G home w h parent)
    (hroot : parent = G.globals → h.rooted ⟨w.heap.scopes.size⟩ = h) :
    Homed G (w.housing home h) { w with heap := (w.heap.newScope (some parent)).2 } := by
  have hold {s : ScopeRef} (hs : s.index < w.heap.scopes.size) :
      (w.heap.newScope (some parent)).2.scopeAt s = w.heap.scopeAt s :=
    w.heap.scopeAt_newScope_of_lt _ hs
  have hsize : w.heap.scopes.size ≤ (w.heap.newScope (some parent)).2.scopes.size :=
    (Heap.size_newScope _ _).ge.trans' (Nat.le_succ _)
  -- a scope is one of the old ones or the new one
  have hcases {s : ScopeRef} (hs : s.index < (w.heap.newScope (some parent)).2.scopes.size) :
      s.index < w.heap.scopes.size ∨ s = (w.heap.newScope (some parent)).1 := by
    rw [Heap.size_newScope] at hs
    rcases Nat.lt_succ_iff_lt_or_eq.mp hs with hlt | heq
    · exact .inl hlt
    · exact .inr (congrArg ScopeRef.mk heq)
  have hself : w.housing home h (w.heap.newScope (some parent)).1 = h := Function.update_self _ _ _
  exact
    { encloses := hw.encloses.withHeap
        (hw.encloses.heap.newScope (by rintro _ ⟨⟩; exact hparent.inside)).2
      locate := hw.locate
      globals := hw.globals
      made := hw.made.trans_le hsize
      outermost := by rw [hold hw.made, hw.outermost]
      names := fun name => by
        rw [Heap.ownBinding?, hold hw.made]
        exact hw.names name
      around := fun s around hs haround => by
        have hmade := Heap.lt_of_parent haround
        rcases hcases hmade with hlt | rfl
        · rw [hold hlt] at haround
          obtain ⟨hbefore, hhome⟩ := hw.around s around hs haround
          rw [World.housing_of_lt _ _ hlt, World.housing_of_lt _ _ hbefore]
          exact ⟨hbefore.trans_le hsize, hhome⟩
        · rw [Heap.scopeAt_newScope_self] at haround
          cases haround
          rw [hself, World.housing_of_lt _ _ hparent.made]
          exact ⟨hparent.made.trans_le hsize, hparent.home.imp_left fun e => ⟨e, hroot e⟩⟩
      started := fun s hs hmade hapart => by
        rcases hcases hmade with hlt | rfl
        · rw [World.housing_of_lt _ _ hlt]
          exact hw.started s hs hlt hapart
        · rw [hself]
          exact hparent.started
      closures := fun f literal s hf hcode => by
        obtain ⟨owner, hs, hbody⟩ := hw.closures f literal s hf hcode
        exact ⟨owner, hs.later hsize (fun _ => World.housing_of_lt home h) List.suffix_rfl, hbody⟩ }

/-! ### A new function, and a name -/

/-- A function made of code of a home in a scope that harbours it. -/
lemma Homed.newClosure {home : ScopeRef → Home} {w : World} (hw : Homed G home w) {h : Home}
    {scope : ScopeRef} (hscope : Harbours G home w h scope) (name : String)
    {literal : FunctionLiteral} (hbody : ∀ stmt ∈ literal.body, h.code G.brought (.statement stmt)) :
    Homed G home
      { w with heap := (w.heap.newFunction ⟨name, .script literal scope, []⟩).2 } where
  encloses :=
    have hcell : G.realm.functionCell ⟨name, .script literal scope, []⟩ :=
      ⟨⟨.inl G.catches, hscope.inside⟩, Realm.table_nil⟩
    hw.encloses.withHeap (hw.encloses.heap.newFunction hcell).2
  locate := hw.locate
  globals := hw.globals
  made := hw.made
  outermost := hw.outermost
  names := hw.names
  around := hw.around
  started := hw.started
  closures f other s hf hcode := by
    by_cases hnew : f = (w.heap.newFunction ⟨name, .script literal scope, []⟩).1
    · subst hnew
      rw [Heap.functionAt_newFunction_self] at hcode
      cases hcode
      exact ⟨h, hscope.later le_rfl (fun _ _ => rfl) List.suffix_rfl, hbody⟩
    · rw [Heap.functionAt_newFunction_of_ne _ _ hnew] at hcode
      obtain ⟨owner, hs, hbody⟩ := hw.closures f other s hf hcode
      exact ⟨owner, hs.later le_rfl (fun _ _ => rfl) List.suffix_rfl, hbody⟩

/-- A name bound in a scope that is not the global one. -/
lemma Homed.declare {home : ScopeRef → Home} {w : World} (hw : Homed G home w) {scope : ScopeRef}
    (hscope : scope ≠ G.globals) (name : String) {v : Value} (isMutable : Bool)
    (hv : G.realm.value v) :
    Homed G home { w with heap := w.heap.declare scope name v isMutable } where
  encloses := hw.encloses.withHeap (hw.encloses.heap.declare name isMutable hv)
  locate := hw.locate
  globals := hw.globals
  made := by
    rw [Heap.size_declare]
    exact hw.made
  outermost := (Heap.parent_declare ..).trans hw.outermost
  names other := by
    rw [Heap.ownBinding?_declare_of_ne _ _ _ _ _ (.inl hscope.symm)]
    exact hw.names other
  around s parent hs hparent := by
    rw [Heap.parent_declare] at hparent
    rw [Heap.size_declare]
    exact hw.around s parent hs hparent
  started s hs hmade := by
    rw [Heap.size_declare] at hmade
    exact hw.started s hs hmade
  closures f literal s hf hcode := by
    obtain ⟨owner, hs, hbody⟩ := hw.closures f literal s hf hcode
    exact ⟨owner, hs.later (Heap.size_declare ..).ge (fun _ _ => rfl) List.suffix_rfl, hbody⟩

/-! ## Stages -/

/-- A world with homes. -/
structure Stage (G : Grounds) where
  /-- The homes. -/
  home : ScopeRef → Home
  /-- The world. -/
  world : World
  homed : Homed G home world

namespace Stage

/-- The number of scopes made. -/
def size (τ : Stage G) : Nat := τ.world.heap.scopes.size

/-- A later stage has all scopes of an earlier one, with their homes, and its history. -/
structure Le (τ υ : Stage G) : Prop where
  size : τ.size ≤ υ.size
  home : ∀ s : ScopeRef, s.index < τ.size → υ.home s = τ.home s
  history : τ.world.history <:+ υ.world.history

instance : Preorder (Stage G) where
  le := Le
  le_refl _ := ⟨le_rfl, fun _ _ => rfl, List.suffix_rfl⟩
  le_trans _ _ _ h h' :=
    ⟨h.size.trans h'.size,
      fun s hs => (h'.home s (hs.trans_le h.size)).trans (h.home s hs), h.history.trans h'.history⟩

/-- A scope of a home. -/
structure Sits (τ : Stage G) (h : Home) (scope : ScopeRef) : Prop
    extends Harbours G τ.home τ.world h scope where
  apart : scope ≠ G.globals

variable {τ υ : Stage G} {h : Home} {scope : ScopeRef}

lemma Sits.home_eq (hs : τ.Sits h scope) : τ.home scope = h := hs.home.resolve_left hs.apart

lemma harbours_mono (hs : Harbours G τ.home τ.world h scope) (hle : τ ≤ υ) :
    Harbours G υ.home υ.world h scope :=
  hs.later hle.size hle.home hle.history

lemma Sits.mono (hs : τ.Sits h scope) (hle : τ ≤ υ) : υ.Sits h scope :=
  ⟨harbours_mono hs.toHarbours hle, hs.apart⟩

/-- A new scope in one that harbours a home. -/
lemma sits_newScope (τ : Stage G) {parent : ScopeRef} (hparent : Harbours G τ.home τ.world h parent)
    (hroot : parent = G.globals → h.rooted ⟨τ.size⟩ = h) :
    ∃ υ : Stage G, τ ≤ υ ∧ υ.world = { τ.world with
      heap := (τ.world.heap.newScope (some parent)).2 } ∧ υ.Sits h ⟨τ.size⟩ := by
  refine ⟨⟨_, _, τ.homed.newScope hparent hroot⟩, ⟨?_, fun s hs => World.housing_of_lt _ _ hs,
    List.suffix_rfl⟩, rfl, ⟨?_, ?_, .inr (Function.update_self _ _ _), hparent.started⟩, ?_⟩
  · exact (Heap.size_newScope _ _).ge.trans' (Nat.le_succ _)
  · exact τ.homed.encloses.heap.scopes.fresh _ le_rfl
  · exact (Heap.size_newScope _ _).ge.trans_lt' (Nat.lt_succ_self _)
  · exact fun e => lt_irrefl _ (e ▸ τ.homed.made)

/-- The stage that a run leaves which leaves scopes and code alone. -/
def onward (τ : Stage G) {w : World} (h : τ.world.Alike w) (hencloses : G.realm.Encloses w) :
    Stage G :=
  ⟨τ.home, w, τ.homed.alike h hencloses⟩

lemma le_onward {w : World} (h : τ.world.Alike w) (hencloses : G.realm.Encloses w) :
    τ ≤ τ.onward h hencloses :=
  ⟨h.heap.size.ge, fun _ _ => rfl, h.history⟩

end Stage

/-! ## Moments -/

/-- A moment at which the global scope binds what was granted, a phrase is at home in its scope, and
every name leads to a scope of the same home or to the global one. -/
structure Moment.Private (G : Grounds) (home : ScopeRef → Home) (μ : Moment) : Prop where
  names : ∀ name, (μ.world.heap.ownBinding? G.globals name).isSome ↔ G.granted name
  made : μ.scope.index < μ.world.heap.scopes.size
  apart : μ.scope ≠ G.globals
  started : (home μ.scope).Started G.locate μ.world.history
  code : (home μ.scope).code G.brought μ.phrase
  holders : ∀ name holder, μ.world.heap.holder? μ.scope name = some holder →
    holder = G.globals ∨ home holder = home μ.scope

namespace Stage

variable {τ υ : Stage G} {h : Home} {scope : ScopeRef}

/-- A phrase in a scope of its home. -/
lemma Sits.private (hs : τ.Sits h scope) {phrase : Phrase} (hcode : h.code G.brought phrase) :
    Moment.Private G τ.home ⟨τ.world, scope, phrase⟩ where
  names := τ.homed.names
  made := hs.made
  apart := hs.apart
  started := hs.home_eq.symm ▸ hs.started
  code := hs.home_eq.symm ▸ hcode
  holders name holder hfound := by
    -- outward of a scope, homes stay the same up to the global scope, and nothing is around that
    refine (Heap.holder?_induction
      (P := fun s => G.realm.scope s.index ∧ (s = G.globals ∨ τ.home s = τ.home scope))
      (fun s parent hs hparent => ?_) ⟨hs.inside, .inr rfl⟩ hfound).1.2
    have hinside := (τ.homed.encloses.heap.scopes.cell s.index hs.1).2 parent hparent
    rcases hs.2 with rfl | hhome
    · rw [τ.homed.outermost] at hparent
      cases hparent
    · exact ⟨hinside, (τ.homed.around s parent hs.1 hparent).2.imp And.left fun e => e.trans hhome⟩

/-- A moment of an earlier world is private by later homes as well. -/
lemma private_mono (hle : τ ≤ υ) {μ : Moment} (hmade : μ.world.heap.scopes.size ≤ τ.size)
    (hμ : μ.Private G τ.home) : μ.Private G υ.home := by
  have hscope : υ.home μ.scope = τ.home μ.scope := hle.home _ (hμ.made.trans_le hmade)
  refine ⟨hμ.names, hμ.made, hμ.apart, hscope ▸ hμ.started, hscope ▸ hμ.code,
    fun name holder hfound => ?_⟩
  have hholder := (Heap.holder?_induction (P := fun _ => True) (fun _ _ _ _ => trivial) trivial
    hfound).2
  rw [hscope, hle.home holder ((Heap.lt_of_ownBinding? hholder).trans_le hmade)]
  exact hμ.holders name holder hfound

/-- A detour that leaves alone all private moments of worlds up to a stage. -/
def Spares (υ : Stage G) (detour : Detour) : Prop :=
  ∀ μ : Moment, μ.world.heap.scopes.size ≤ υ.size → μ.Private G υ.home → detour μ = .none

lemma Spares.before {detour : Detour} (h : υ.Spares detour) (hle : τ ≤ υ) : τ.Spares detour :=
  fun μ hmade hμ => h μ (hmade.trans hle.size) (private_mono hle hmade hμ)

end Stage

end ModuleRunner.Evaluation
