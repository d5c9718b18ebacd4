import ModuleRunner.Proofs.Parsing.Course
import ModuleRunner.Proofs.Script.Places

/-!
# The grammar goes forwards

Each rule of the grammar goes in step over texts that agree, and answers the same tree but for places.
A rule that reads a phrase takes a token of it, so the lists of phrases go forwards in each round.  Some
rules take the token ahead without looking, since they are called where it is known; these need a token
ahead that a phrase may have.

* `tierChain_inStep`, `tiered_inStep` — operators between two operands.
* `Paced` — what is asked of the rules that smaller phrases are read with.
* `Paced.links_inStep`, …, `Paced.statement_inStep` — one lemma for each rule over them.
* `level_paced`, `program_inStep` — the rules of every level, and whole texts.
-/

namespace ModuleRunner.Script

namespace Parser

/-! ## Trees that are the same but for places -/

section Trees

variable {e limit n : Nat}

/-- Whether a target is checked with success has nothing to do with places. -/
lemma checked_inStep {x x' : Expression} (hx : x.unplaced = x'.unplaced)
    {failing failing' rest rest' : Parser Expression} {Q : Nat → Expression → Expression → Prop}
    (hfailing : InStep e limit failing failing' n Q) (hrest : InStep e limit rest rest' n Q) :
    InStep e limit (if !x.isAssignable then failing else rest)
      (if !x'.isAssignable then failing' else rest') n Q := by
  have hsame : x.isAssignable = x'.isAssignable := by
    rw [← Expression.isAssignable_unplaced, hx, Expression.isAssignable_unplaced]
  rw [hsame]
  exact .ite (fun _ => hfailing) fun _ => hrest

/-- What an operator joins. -/
lemma join_unplaced {t : Tier} (ht : t ∈ tiers) {kind : Kind}
    {join : Expression → Expression → Expression} (hjoin : t.ofKind? kind = some join)
    (left right : Expression) : (join left right).unplaced = join left.unplaced right.unplaced := by
  obtain ⟨m, rfl⟩ : ∃ m, kind = .mark m := by
    cases kind <;> first | exact ⟨_, rfl⟩ | cases hjoin
  simp only [tiers, List.mem_cons, List.not_mem_nil, or_false] at ht
  rcases ht with rfl | rfl | rfl | rfl | rfl | rfl
  all_goals
    simp only [Tier.ofKind?] at hjoin
    split at hjoin <;> cases hjoin <;> rfl

/-- An operator is a token that a phrase may have. -/
lemma stops_of_ofKind? {t : Tier} {kind : Kind} {join : Expression → Expression → Expression}
    (hjoin : t.ofKind? kind = some join) : kind.stops = false := by
  cases kind <;> first | rfl | cases hjoin

lemma stops_of_updateOp? {kind : Kind} {op : UpdateOp} (h : updateOp? kind = some op) :
    kind.stops = false := by
  cases kind <;> first | rfl | cases h

lemma stops_of_unaryOp? {kind : Kind} {op : UnaryOp} (h : unaryOp? kind = some op) :
    kind.stops = false := by
  cases kind <;> first | rfl | cases h

lemma stops_of_assignOp? {kind : Kind} {op : AssignOp} (h : assignOp? kind = some op) :
    kind.stops = false := by
  cases kind <;> first | rfl | cases h

lemma stops_of_variableKind? {kind : Kind} {declared : VariableKind}
    (h : variableKind? kind = some declared) : kind.stops = false := by
  cases kind <;> first | rfl | cases h

/-- Each round of a chain takes an operator. -/
lemma tierChain_inStep {t : Tier} (ht : t ∈ tiers) {stronger : Parser Expression}
    (hstronger : ∀ n, InStep e (e + 1) stronger stronger n fun m x x' =>
      n < m ∧ x.unplaced = x'.unplaced) :
    ∀ bound n {left left' : Expression}, left.unplaced = left'.unplaced →
      InStep e (n + bound) (tierChain t stronger left bound) (tierChain t stronger left' bound) n
        fun _ x x' => x.unplaced = x'.unplaced
  | 0, _, _, _, _ => fail_inStep fun _ => le_rfl
  | bound + 1, n, left, left', hleft => by
      refine currentKind_inStep.bind fun _ k _ _ ⟨hm, hkind, hgoes⟩ => ?_
      subst hm hkind
      cases hjoin : t.ofKind? k with
      | none => exact .pure hleft
      | some join =>
          have hnext (m : Nat) (hm : n ≤ m) (hroom : n < m) : InStep e (n + (bound + 1))
              (do tierChain t stronger (join left (← stronger)) bound)
              (do tierChain t stronger (join left' (← stronger)) bound) m
              fun _ x x' => x.unplaced = x'.unplaced := by
            refine ((hstronger m).relax (.inr e.lt_succ_self)).bind
              fun m' right right' _ ⟨_, hright⟩ => ?_
            refine (tierChain_inStep ht hstronger bound m' ?_).relax (.inl (by omega))
            rw [join_unplaced ht hjoin, join_unplaced ht hjoin, hleft, hright]
          have htake := hgoes (stops_of_ofKind? hjoin)
          dsimp only
          refine .ite (fun _ => ?_) fun _ => ?_
          · refine (take_inStep htake).bind fun _ _ _ _ htaken => ?_
            refine descend_inStep.bind fun _ _ _ _ hm => ?_
            subst hm
            exact hnext _ (by omega) htaken
          · refine descend_inStep.bind fun _ _ _ _ hm => ?_
            subst hm
            exact (take_inStep htake).bind fun m _ _ _ htaken => hnext m (by omega) htaken

lemma tiered_inStep {operand : Parser Expression}
    (hoperand : ∀ n, InStep e (e + 1) operand operand n fun m x x' =>
      n < m ∧ x.unplaced = x'.unplaced) :
    ∀ {ts : List Tier} n, (∀ t ∈ ts, t ∈ tiers) →
      InStep e (e + 1) (tiered operand ts) (tiered operand ts) n fun m x x' =>
        n < m ∧ x.unplaced = x'.unplaced
  | [], n, _ => hoperand n
  | t :: ts, n, hts => by
      obtain ⟨ht, hts⟩ := List.forall_mem_cons.mp hts
      refine depth_inStep.bind fun _ d _ _ ⟨hm, hd⟩ => ?_
      subst hm hd
      refine (tiered_inStep hoperand _ hts).bind fun m first first' _ ⟨htaken, hfirst⟩ => ?_
      refine .bounded (fun bound => tierChain_inStep ht
        (fun n => tiered_inStep hoperand n hts) bound m hfirst) fun _ x x' _ hx => ?_
      refine (restoreDepth_inStep _).bind fun _ _ _ _ hm => ?_
      subst hm
      exact .pure ⟨by omega, hx⟩

lemma single_inStep (s : Statement) (hn : n < e) :
    InStep e (e + 1) (single s) (single s) n fun m s s' => n < m ∧ s.unplaced = s'.unplaced :=
  (take_inStep hn).bind fun _ _ _ _ htaken => endStatement_inStep.bind fun _ _ _ _ _ =>
    .pure ⟨by omega, rfl⟩

end Trees

/-- The rules that smaller phrases are read with go in step, take a token at least, and answer the same
trees but for places. -/
structure Paced (e : Nat) (deeper : Level) : Prop where
  statement : ∀ n, InStep e (e + 1) deeper.statement deeper.statement n fun m s s' =>
    n < m ∧ s.unplaced = s'.unplaced
  expression : ∀ n, InStep e (e + 1) deeper.expression deeper.expression n fun m x x' =>
    n < m ∧ x.unplaced = x'.unplaced
  operand : ∀ n, InStep e (e + 1) deeper.operand deeper.operand n fun m x x' =>
    n < m ∧ x.unplaced = x'.unplaced
  construction : ∀ n, n < e → InStep e (e + 1) deeper.construction deeper.construction n
    fun m x x' => n < m ∧ x.unplaced = x'.unplaced

namespace Paced

variable {e n : Nat} {deeper : Level} (h : Paced e deeper)

include h

/-! ## Expressions -/

lemma arguments_inStep : InStep e (e + 1) (arguments deeper) (arguments deeper) n
    fun m items items' => n < m ∧ unplacedAll items = unplacedAll items' := by
  refine (expect_inStep _).bind fun m _ _ _ hopen => ?_
  refine .bounded (fun bound => commaList_inStep h.expression _ bound m)
    fun _ items items' _ hitems => ?_
  refine (expect_inStep _).bind fun _ _ _ _ _ => .pure ⟨by omega, ?_⟩
  rwa [unplacedAll_eq, unplacedAll_eq]

lemma block_inStep : InStep e (e + 1) (block deeper) (block deeper) n
    fun m body body' => n < m ∧ unplacedBody body = unplacedBody body' := by
  refine (expect_inStep _).bind fun m _ _ _ hopen => ?_
  refine .bounded (fun bound => sequence_inStep h.statement _ bound m) fun _ body body' _ hbody => ?_
  refine (expect_inStep _).bind fun _ _ _ _ _ => .pure ⟨by omega, ?_⟩
  rwa [unplacedBody_eq, unplacedBody_eq]

lemma functionRest_inStep (name : Option String) :
    InStep e (e + 1) (functionRest deeper name) (functionRest deeper name) n
      fun m literal literal' => n < m ∧ literal.unplaced = literal'.unplaced := by
  have hrest (m : Nat) (hm : n < m) (parameters : List String) : InStep e (e + 1) (do
        expect .rightParen
        return (⟨name, parameters, ← block deeper⟩ : FunctionLiteral))
      (do
        expect .rightParen
        return (⟨name, parameters, ← block deeper⟩ : FunctionLiteral)) m
      fun m literal literal' => n < m ∧ literal.unplaced = literal'.unplaced := by
    refine (expect_inStep _).bind fun _ _ _ _ _ => ?_
    refine h.block_inStep.bind fun _ body body' _ ⟨_, hbody⟩ => .pure ⟨by omega, ?_⟩
    rw [FunctionLiteral.unplaced, FunctionLiteral.unplaced, hbody]
  refine (expect_inStep _).bind fun _ _ _ _ hopen => ?_
  refine (sees_inStep _).bind fun _ b _ _ ⟨hm, hb, _⟩ => ?_
  subst hm hb
  refine .ite (fun _ => hrest _ hopen []) fun _ => ?_
  refine .bounded (fun bound => commaChain_inStep (g := id) (fun _ => expectName_inStep) bound _)
    fun m' parameters parameters' _ hsame => ?_
  rw [List.map_id, List.map_id] at hsame
  subst hsame
  exact hrest m' (by omega) parameters

lemma arrayLiteral_inStep (hn : n < e) :
    InStep e (e + 1) (arrayLiteral deeper) (arrayLiteral deeper) n
      fun m x x' => n < m ∧ x.unplaced = x'.unplaced := by
  refine (take_inStep hn).bind fun m _ _ _ htaken => ?_
  refine .bounded (fun bound => commaList_inStep h.expression _ bound m)
    fun _ items items' _ hitems => ?_
  refine (expect_inStep _).bind fun _ _ _ _ _ => .pure ⟨by omega, ?_⟩
  rw [Expression.unplaced, Expression.unplaced, unplacedAll_eq, unplacedAll_eq, hitems]

lemma property_inStep : InStep e (e + 1) (property deeper) (property deeper) n
    fun m p p' => n < m ∧ unplacedProperty p = unplacedProperty p' := by
  refine expectProperty_inStep.bind fun _ key _ _ hkey => ?_
  obtain ⟨htaken, rfl⟩ := hkey
  refine (accept_inStep _).bind fun _ b _ _ hb => ?_
  obtain ⟨rfl, -⟩ := hb
  refine .ite (fun _ => ?_) fun _ => ?_
  · refine (h.expression _).bind fun _ x x' _ hx => .pure ⟨by omega, ?_⟩
    rw [unplacedProperty, unplacedProperty, hx.2]
  refine (sees_inStep _).bind fun _ b _ _ hb => ?_
  obtain ⟨rfl, rfl, -⟩ := hb
  refine .ite (fun _ => ?_) fun _ => .pure ⟨by omega, rfl⟩
  refine (h.functionRest_inStep _).bind fun _ literal literal' _ hliteral => .pure ⟨by omega, ?_⟩
  simp only [unplacedProperty, Expression.unplaced, hliteral.2]

lemma objectLiteral_inStep (hn : n < e) :
    InStep e (e + 1) (objectLiteral deeper) (objectLiteral deeper) n
      fun m x x' => n < m ∧ x.unplaced = x'.unplaced := by
  refine (take_inStep hn).bind fun m _ _ _ htaken => ?_
  refine .bounded (fun bound => commaList_inStep (fun _ => h.property_inStep) _ bound m)
    fun _ properties properties' _ hproperties => ?_
  refine (expect_inStep _).bind fun _ _ _ _ _ => .pure ⟨by omega, ?_⟩
  rw [Expression.unplaced, Expression.unplaced, unplacedProperties_eq, unplacedProperties_eq,
    hproperties]

lemma primary_inStep : InStep e (e + 1) (primary deeper) (primary deeper) n
    fun m x x' => n < m ∧ x.unplaced = x'.unplaced := by
  refine currentKind_inStep.bind fun _ k _ _ ⟨hm, hkind, hgoes⟩ => ?_
  subst hm hkind
  split
  case h_8 =>
    refine (take_inStep (hgoes rfl)).bind fun _ _ _ _ _ => ?_
    refine (h.expression _).bind fun _ x x' _ ⟨_, hx⟩ => ?_
    exact (expect_inStep _).bind fun _ _ _ _ _ => .pure ⟨by omega, hx⟩
  case h_9 => exact h.arrayLiteral_inStep (hgoes rfl)
  case h_10 => exact h.objectLiteral_inStep (hgoes rfl)
  case h_11 =>
    have hrest (m : Nat) (hm : n < m) (name : Option String) : InStep e (e + 1)
        (do return Expression.function (← functionRest deeper name))
        (do return Expression.function (← functionRest deeper name)) m
        fun m x x' => n < m ∧ x.unplaced = x'.unplaced := by
      refine (h.functionRest_inStep _).bind fun _ literal literal' _ ⟨_, hliteral⟩ =>
        .pure ⟨by omega, ?_⟩
      rw [Expression.unplaced, Expression.unplaced, hliteral]
    refine (take_inStep (hgoes rfl)).bind fun _ _ _ _ htaken => ?_
    refine currentKind_inStep.bind fun _ k _ _ ⟨hm, hkind, hgoes⟩ => ?_
    subst hm hkind
    split
    · exact (take_inStep (hgoes rfl)).bind fun m _ _ _ _ => hrest m (by omega) _
    · exact hrest _ htaken _
  case h_12 => exact fail_inStep nofun
  case h_13 => exact fail_inStep nofun
  all_goals
    exact (take_inStep (hgoes rfl)).bind fun _ _ _ _ htaken => .pure ⟨htaken, rfl⟩

lemma access_inStep {object object' : Expression} (hobject : object.unplaced = object'.unplaced) :
    InStep e (e + 1) (access deeper object) (access deeper object') n
      fun m x x' => n < m ∧ x.unplaced = x'.unplaced := by
  refine (accept_inStep _).bind fun _ b _ _ ⟨hb, _⟩ => ?_
  subst hb
  refine .ite (fun _ => ?_) fun _ => ?_
  · refine expectProperty_inStep.bind fun _ name _ _ ⟨_, hname⟩ => .pure ⟨by omega, ?_⟩
    rw [Expression.unplaced, Expression.unplaced, hobject, hname]
  · refine (expect_inStep _).bind fun _ _ _ _ _ => ?_
    refine (h.expression _).bind fun _ key key' _ ⟨_, hkey⟩ => ?_
    refine (expect_inStep _).bind fun _ _ _ _ _ => .pure ⟨by omega, ?_⟩
    rw [Expression.unplaced, Expression.unplaced, hobject, hkey]

/-- Each round takes an access. -/
lemma accesses_inStep : ∀ bound n {object object' : Expression},
    object.unplaced = object'.unplaced →
      InStep e (n + bound) (accesses deeper object bound) (accesses deeper object' bound) n
        fun _ x x' => x.unplaced = x'.unplaced
  | 0, _, _, _, _ => fail_inStep fun _ => le_rfl
  | bound + 1, n, object, object', hobject => by
      have hround : InStep e (n + (bound + 1))
          (do descend; accesses deeper (← access deeper object) bound)
          (do descend; accesses deeper (← access deeper object') bound) n
          fun _ x x' => x.unplaced = x'.unplaced := by
        refine descend_inStep.bind fun _ _ _ _ hm => ?_
        subst hm
        refine ((h.access_inStep hobject).relax (.inr e.lt_succ_self)).bind
          fun m x x' _ ⟨_, hx⟩ => ?_
        exact (accesses_inStep bound m hx).relax (.inl (by omega))
      refine currentKind_inStep.bind fun _ k _ _ ⟨hm, hkind, _⟩ => ?_
      subst hm hkind
      split
      · exact hround
      · exact hround
      · exact .pure hobject

lemma construction_inStep (hn : n < e) :
    InStep e (e + 1) (Script.construction deeper) (Script.construction deeper) n
      fun m x x' => n < m ∧ x.unplaced = x'.unplaced := by
  have hrest (m mark : Nat) (hm : n < m) {first first' : Expression}
      (hfirst : first.unplaced = first'.unplaced) : InStep e (e + 1) (do
        let callee ← accesses deeper first ((← remaining) + 1)
        restoreDepth mark
        if ← sees .leftParen then return Expression.construct callee (← arguments deeper)
        return Expression.construct callee [])
      (do
        let callee ← accesses deeper first' ((← remaining) + 1)
        restoreDepth mark
        if ← sees .leftParen then return Expression.construct callee (← arguments deeper)
        return Expression.construct callee []) m
      fun m x x' => n < m ∧ x.unplaced = x'.unplaced := by
    refine .bounded (fun bound => h.accesses_inStep bound m hfirst)
      fun _ callee callee' _ hcallee => ?_
    refine (restoreDepth_inStep _).bind fun _ _ _ _ hm => ?_
    subst hm
    refine (sees_inStep _).bind fun _ b _ _ ⟨hm, hb, _⟩ => ?_
    subst hm hb
    refine .ite (fun _ => ?_) fun _ => .pure ⟨by omega, ?_⟩
    · refine h.arguments_inStep.bind fun _ items items' _ ⟨_, hitems⟩ => .pure ⟨by omega, ?_⟩
      rw [Expression.unplaced, Expression.unplaced, hcallee, hitems]
    · rw [Expression.unplaced, Expression.unplaced, hcallee]
  refine (take_inStep hn).bind fun _ _ _ _ htaken => ?_
  refine depth_inStep.bind fun _ d _ _ ⟨hm, hd⟩ => ?_
  subst hm hd
  refine currentKind_inStep.bind fun _ k _ _ ⟨hm, hkind, hgoes⟩ => ?_
  subst hm hkind
  refine .ite (fun hword => ?_) fun _ => ?_
  · exact (h.construction _ (hgoes (by rw [hword]; rfl))).bind
      fun m x x' _ ⟨_, hx⟩ => hrest m d (by omega) hx
  · exact h.primary_inStep.bind fun m x x' _ ⟨_, hx⟩ => hrest m d (by omega) hx

/-- Each round takes an access or the arguments of a call. -/
lemma links_inStep : ∀ bound n {object object' : Expression},
    object.unplaced = object'.unplaced →
      InStep e (n + bound) (links deeper object bound) (links deeper object' bound) n
        fun _ x x' => x.unplaced = x'.unplaced
  | 0, _, _, _, _ => fail_inStep fun _ => le_rfl
  | bound + 1, n, object, object', hobject => by
      have hround : InStep e (n + (bound + 1))
          (do descend; links deeper (← access deeper object) bound)
          (do descend; links deeper (← access deeper object') bound) n
          fun _ x x' => x.unplaced = x'.unplaced := by
        refine descend_inStep.bind fun _ _ _ _ hm => ?_
        subst hm
        refine ((h.access_inStep hobject).relax (.inr e.lt_succ_self)).bind
          fun m x x' _ ⟨_, hx⟩ => ?_
        exact (links_inStep bound m hx).relax (.inl (by omega))
      refine currentKind_inStep.bind fun _ k _ _ ⟨hm, hkind, _⟩ => ?_
      subst hm hkind
      split
      · exact hround
      · exact hround
      · refine descend_inStep.bind fun _ _ _ _ hm => ?_
        subst hm
        refine current_inStep.bind fun _ t t' _ ⟨hm, _⟩ => ?_
        subst hm
        refine (h.arguments_inStep.relax (.inr e.lt_succ_self)).bind
          fun m items items' _ ⟨_, hitems⟩ => ?_
        refine (links_inStep bound m ?_).relax (.inl (by omega))
        rw [Expression.unplaced, Expression.unplaced, hobject, hitems]
      · exact .pure hobject

lemma linked_inStep : InStep e (e + 1) (linked deeper) (linked deeper) n
    fun m x x' => n < m ∧ x.unplaced = x'.unplaced := by
  have hrest (m mark : Nat) (hm : n < m) {first first' : Expression}
      (hfirst : first.unplaced = first'.unplaced) : InStep e (e + 1) (do
        let answer ← links deeper first ((← remaining) + 1)
        restoreDepth mark
        return answer)
      (do
        let answer ← links deeper first' ((← remaining) + 1)
        restoreDepth mark
        return answer) m
      fun m x x' => n < m ∧ x.unplaced = x'.unplaced := by
    refine .bounded (fun bound => h.links_inStep bound m hfirst) fun _ x x' _ hx => ?_
    refine (restoreDepth_inStep _).bind fun _ _ _ _ hm => ?_
    subst hm
    exact .pure ⟨by omega, hx⟩
  refine depth_inStep.bind fun _ d _ _ ⟨hm, hd⟩ => ?_
  subst hm hd
  refine currentKind_inStep.bind fun _ k _ _ ⟨hm, hkind, hgoes⟩ => ?_
  subst hm hkind
  refine .ite (fun hword => ?_) fun _ => ?_
  · exact (h.construction_inStep (hgoes (by rw [hword]; rfl))).bind
      fun m x x' _ ⟨htaken, hx⟩ => hrest m d htaken hx
  · exact h.primary_inStep.bind fun m x x' _ ⟨htaken, hx⟩ => hrest m d htaken hx

lemma updated_inStep : InStep e (e + 1) (updated deeper) (updated deeper) n
    fun m x x' => n < m ∧ x.unplaced = x'.unplaced := by
  refine h.linked_inStep.bind fun _ x x' _ ⟨htaken, hx⟩ => ?_
  refine current_inStep.bind fun _ t t' _ ⟨hm, hkind, hnewline, hgoes⟩ => ?_
  subst hm
  rw [← hkind, ← hnewline]
  cases hop : updateOp? t.kind with
  | none => exact .pure ⟨htaken, hx⟩
  | some op =>
      refine .ite (fun _ => .pure ⟨htaken, hx⟩) fun _ => checked_inStep hx ?_ ?_
      · exact .never (fail_inStep nofun)
      · refine (take_inStep (hgoes (stops_of_updateOp? hop))).bind fun _ _ _ _ _ =>
          .pure ⟨by omega, ?_⟩
        rw [Expression.unplaced, Expression.unplaced, hx]

/-- A wrong target behind an operator is behind the operator at least. -/
lemma operand_inStep : InStep e (e + 1) (Script.operand deeper) (Script.operand deeper) n
    fun m x x' => n < m ∧ x.unplaced = x'.unplaced := by
  refine currentKind_inStep.bind fun _ k _ _ ⟨hm, hkind, hgoes⟩ => ?_
  subst hm hkind
  cases hupdate : updateOp? k with
  | some op =>
      refine (take_inStep (hgoes (stops_of_updateOp? hupdate))).bind fun _ _ _ _ _ => ?_
      refine (h.operand _).bind fun _ x x' _ ⟨_, hx⟩ => checked_inStep hx ?_ ?_
      · exact .never (failBehind_inStep nofun (by omega))
      · refine .pure ⟨by omega, ?_⟩
        rw [Expression.unplaced, Expression.unplaced, hx]
  | none =>
      cases hunary : unaryOp? k with
      | some op =>
          refine (take_inStep (hgoes (stops_of_unaryOp? hunary))).bind fun _ _ _ _ _ => ?_
          refine (h.operand _).bind fun _ x x' _ ⟨_, hx⟩ => .pure ⟨by omega, ?_⟩
          rw [Expression.unplaced, Expression.unplaced, hx]
      | none => simpa only [hunary] using h.updated_inStep

lemma conditional_inStep : InStep e (e + 1) (conditional deeper) (conditional deeper) n
    fun m x x' => n < m ∧ x.unplaced = x'.unplaced := by
  refine (tiered_inStep (fun _ => h.operand_inStep) n fun _ ht => ht).bind
    fun _ test test' _ ⟨_, htest⟩ => ?_
  refine (accept_inStep _).bind fun _ b _ _ ⟨hb, _⟩ => ?_
  subst hb
  refine .ite (fun _ => ?_) fun _ => .pure ⟨by omega, htest⟩
  refine (h.expression _).bind fun _ yes yes' _ ⟨_, hyes⟩ => ?_
  refine (expect_inStep _).bind fun _ _ _ _ _ => ?_
  refine (h.expression _).bind fun _ no no' _ ⟨_, hno⟩ => .pure ⟨by omega, ?_⟩
  rw [Expression.unplaced, Expression.unplaced, htest, hyes, hno]

lemma assignment_inStep : InStep e (e + 1) (assignment deeper) (assignment deeper) n
    fun m x x' => n < m ∧ x.unplaced = x'.unplaced := by
  refine h.conditional_inStep.bind fun _ target target' _ ⟨_, htarget⟩ => ?_
  refine currentKind_inStep.bind fun _ k _ _ ⟨hm, hkind, hgoes⟩ => ?_
  subst hm hkind
  cases hop : assignOp? k with
  | none => exact .pure ⟨by omega, htarget⟩
  | some op =>
      refine checked_inStep htarget ?_ ?_
      · exact .never (fail_inStep nofun)
      · refine (take_inStep (hgoes (stops_of_assignOp? hop))).bind fun _ _ _ _ _ => ?_
        refine (h.expression _).bind fun _ x x' _ ⟨_, hx⟩ => .pure ⟨by omega, ?_⟩
        rw [Expression.unplaced, Expression.unplaced, htarget, hx]

/-! ## Statements -/

lemma declarator_inStep (kind : VariableKind) :
    InStep e (e + 1) (declarator deeper kind) (declarator deeper kind) n
      fun m d d' => n < m ∧ d.unplaced = d'.unplaced := by
  refine expectName_inStep.bind fun _ name _ _ hname => ?_
  obtain ⟨htaken, rfl⟩ := hname
  refine (accept_inStep _).bind fun _ b _ _ hb => ?_
  obtain ⟨rfl, -⟩ := hb
  refine .ite (fun _ => ?_) fun _ => .ite (fun _ => ?_) fun _ => .pure ⟨by omega, rfl⟩
  · refine (h.expression _).bind fun _ x x' _ hx => .pure ⟨by omega, ?_⟩
    simp only [Declarator.unplaced, unplacedOption, hx.2]
  · exact .never (fail_inStep fun hcause => by cases hcause)

lemma declaration_inStep (kind : VariableKind) (hn : n < e) :
    InStep e (e + 1) (declaration deeper kind) (declaration deeper kind) n
      fun m s s' => n < m ∧ s.unplaced = s'.unplaced := by
  refine (take_inStep hn).bind fun m _ _ _ htaken => ?_
  refine .bounded (fun bound => commaChain_inStep (fun _ => h.declarator_inStep kind) bound m)
    fun _ items items' _ hitems => .pure ⟨by omega, ?_⟩
  rw [Statement.unplaced, Statement.unplaced, unplacedDeclarators_eq, unplacedDeclarators_eq, hitems]

lemma condition_inStep : InStep e (e + 1) (condition deeper) (condition deeper) n
    fun m x x' => n < m ∧ x.unplaced = x'.unplaced := by
  refine (expect_inStep _).bind fun _ _ _ _ _ => ?_
  refine (h.expression _).bind fun _ x x' _ ⟨_, hx⟩ => ?_
  exact (expect_inStep _).bind fun _ _ _ _ _ => .pure ⟨by omega, hx⟩

lemma optionalUpTo_inStep (close : Mark) :
    InStep e (e + 1) (optionalUpTo deeper close) (optionalUpTo deeper close) n
      fun m x x' => n < m ∧ unplacedOption x = unplacedOption x' := by
  have hclose (m : Nat) (hm : n ≤ m) {x x' : Option Expression}
      (hx : unplacedOption x = unplacedOption x') :
      InStep e (e + 1) (do expect close; return x) (do expect close; return x') m
        fun m x x' => n < m ∧ unplacedOption x = unplacedOption x' :=
    (expect_inStep _).bind fun _ _ _ _ _ => .pure ⟨by omega, hx⟩
  refine (sees_inStep _).bind fun _ b _ _ ⟨hm, hb, _⟩ => ?_
  subst hm hb
  refine .ite (fun _ => hclose _ le_rfl rfl) fun _ => ?_
  refine (h.expression _).map_bind fun m x x' _ ⟨_, hx⟩ => hclose m (by omega) ?_
  rw [unplacedOption, unplacedOption, hx]

lemma loopStart_inStep : InStep e (e + 1) (loopStart deeper) (loopStart deeper) n
    fun _ s s' => unplacedStatement s = unplacedStatement s' := by
  refine currentKind_inStep.bind fun _ k _ _ ⟨hm, hkind, hgoes⟩ => ?_
  subst hm hkind
  refine .ite (fun _ => .pure rfl) fun _ => ?_
  cases hkind : variableKind? k with
  | some kind =>
      refine ((h.declaration_inStep kind (hgoes (stops_of_variableKind? hkind))).imp ?_).map
      rintro m s s' - ⟨-, hs⟩
      rw [unplacedStatement, unplacedStatement, hs]
  | none =>
      refine (h.expression _).bind fun _ x x' _ ⟨_, hx⟩ => .pure ?_
      simp only [unplacedStatement, Statement.unplaced, hx]

lemma forLoop_inStep (hn : n < e) : InStep e (e + 1) (forLoop deeper) (forLoop deeper) n
    fun m s s' => n < m ∧ s.unplaced = s'.unplaced := by
  refine (take_inStep hn).bind fun _ _ _ _ _ => ?_
  refine (expect_inStep _).bind fun _ _ _ _ _ => ?_
  refine h.loopStart_inStep.bind fun _ start start' _ hstart => ?_
  refine (expect_inStep _).bind fun _ _ _ _ _ => ?_
  refine (h.optionalUpTo_inStep _).bind fun _ test test' _ ⟨_, htest⟩ => ?_
  refine (h.optionalUpTo_inStep _).bind fun _ update update' _ ⟨_, hupdate⟩ => ?_
  refine (h.statement _).bind fun _ body body' _ ⟨_, hbody⟩ => .pure ⟨by omega, ?_⟩
  rw [Statement.unplaced, Statement.unplaced, hstart, htest, hupdate, hbody]

lemma choice_inStep (hn : n < e) : InStep e (e + 1) (choice deeper) (choice deeper) n
    fun m s s' => n < m ∧ s.unplaced = s'.unplaced := by
  refine (take_inStep hn).bind fun _ _ _ _ _ => ?_
  refine h.condition_inStep.bind fun _ test test' _ ⟨_, htest⟩ => ?_
  refine (h.statement _).bind fun _ yes yes' _ ⟨_, hyes⟩ => ?_
  refine (acceptWord_inStep _).bind fun _ b _ _ hb => ?_
  subst hb
  refine .ite (fun _ => ?_) fun _ => .pure ⟨by omega, ?_⟩
  · refine (h.statement _).bind fun _ no no' _ ⟨_, hno⟩ => .pure ⟨by omega, ?_⟩
    simp only [Statement.unplaced, unplacedStatement, htest, hyes, hno]
  · rw [Statement.unplaced, Statement.unplaced, htest, hyes]

lemma handler_inStep : InStep e (e + 1) (handler deeper) (handler deeper) n
    fun _ x x' => unplacedHandler x = unplacedHandler x' := by
  have hrest (m : Nat) (parameter : Option String) : InStep e (e + 1)
      (do return some (⟨parameter, ← block deeper⟩ : CatchClause))
      (do return some (⟨parameter, ← block deeper⟩ : CatchClause)) m
      fun _ x x' => unplacedHandler x = unplacedHandler x' := by
    refine h.block_inStep.bind fun _ body body' _ ⟨_, hbody⟩ => .pure ?_
    simp only [unplacedHandler, hbody]
  refine (acceptWord_inStep _).bind fun _ b _ _ hb => ?_
  subst hb
  refine .ite (fun _ => ?_) fun _ => .pure rfl
  refine (accept_inStep _).bind fun _ b _ _ ⟨hb, _⟩ => ?_
  subst hb
  refine .ite (fun _ => ?_) fun _ => hrest _ none
  refine expectName_inStep.bind fun _ name _ _ ⟨_, hname⟩ => ?_
  subst hname
  exact (expect_inStep _).bind fun m _ _ _ _ => hrest m (some name)

lemma attempt_inStep (hn : n < e) : InStep e (e + 1) (attempt deeper) (attempt deeper) n
    fun m s s' => n < m ∧ s.unplaced = s'.unplaced := by
  have hrest (m : Nat) (hm : n < m) {body body' : List Statement} {caught caught' : Option CatchClause}
      {finalizer finalizer' : Option (List Statement)} (hbody : unplacedBody body = unplacedBody body')
      (hcaught : unplacedHandler caught = unplacedHandler caught')
      (hfinalizer : unplacedFinalizer finalizer = unplacedFinalizer finalizer') :
      InStep e (e + 1) (do
          if caught.isNone && finalizer.isNone then fail .attemptWithoutHandler
          return Statement.attempt body caught finalizer)
        (do
          if caught'.isNone && finalizer'.isNone then fail .attemptWithoutHandler
          return Statement.attempt body' caught' finalizer') m
        fun m s s' => n < m ∧ s.unplaced = s'.unplaced := by
    have hnone : caught.isNone = caught'.isNone := by
      simpa using congrArg Option.isNone hcaught
    have hnone' : finalizer.isNone = finalizer'.isNone := by
      simpa using congrArg Option.isNone hfinalizer
    rw [hnone, hnone']
    refine .ite (fun _ => .never (fail_inStep nofun)) fun _ => .pure ⟨hm, ?_⟩
    rw [Statement.unplaced, Statement.unplaced, hbody, hcaught, hfinalizer]
  refine (take_inStep hn).bind fun _ _ _ _ _ => ?_
  refine h.block_inStep.bind fun _ body body' _ ⟨_, hbody⟩ => ?_
  refine h.handler_inStep.bind fun _ caught caught' _ hcaught => ?_
  refine (acceptWord_inStep _).bind fun m b _ _ hb => ?_
  subst hb
  refine .ite (fun _ => ?_) fun _ => hrest m (by omega) hbody hcaught rfl
  refine h.block_inStep.map_bind fun m final final' _ ⟨_, hfinal⟩ => ?_
  refine hrest m (by omega) hbody hcaught ?_
  rw [unplacedFinalizer, unplacedFinalizer, hfinal]

lemma statement_inStep : InStep e (e + 1) (Script.statement deeper) (Script.statement deeper) n
    fun m s s' => n < m ∧ s.unplaced = s'.unplaced := by
  have hended (m : Nat) (hm : n < m) {s s' : Statement} (hs : s.unplaced = s'.unplaced) :
      InStep e (e + 1) (do endStatement; return s) (do endStatement; return s') m
        fun m s s' => n < m ∧ s.unplaced = s'.unplaced :=
    endStatement_inStep.bind fun _ _ _ _ _ => .pure ⟨by omega, hs⟩
  refine currentKind_inStep.bind fun _ k _ _ ⟨hm, hkind, hgoes⟩ => ?_
  subst hm hkind
  cases hdeclared : variableKind? k with
  | some kind =>
      refine (h.declaration_inStep kind (hgoes (stops_of_variableKind? hdeclared))).bind ?_
      rintro m s s' - ⟨htaken, hs⟩
      exact hended m htaken hs
  | none =>
      dsimp only
      split
      case h_1 =>
        refine (take_inStep (hgoes rfl)).bind fun _ _ _ _ _ => ?_
        refine expectName_inStep.bind fun _ name _ _ ⟨_, hname⟩ => ?_
        subst hname
        refine (h.functionRest_inStep _).bind fun _ literal literal' _ ⟨_, hliteral⟩ =>
          .pure ⟨by omega, ?_⟩
        rw [Statement.unplaced, Statement.unplaced, hliteral]
      case h_2 => exact h.choice_inStep (hgoes rfl)
      case h_3 =>
        refine (take_inStep (hgoes rfl)).bind fun _ _ _ _ _ => ?_
        refine h.condition_inStep.bind fun _ test test' _ ⟨_, htest⟩ => ?_
        refine (h.statement _).bind fun _ body body' _ ⟨_, hbody⟩ => .pure ⟨by omega, ?_⟩
        rw [Statement.unplaced, Statement.unplaced, htest, hbody]
      case h_4 => exact h.forLoop_inStep (hgoes rfl)
      case h_5 =>
        refine (take_inStep (hgoes rfl)).bind fun _ _ _ _ _ => ?_
        refine atStatementEnd_inStep.bind fun m b _ _ hb => ?_
        subst hb
        refine .ite (fun _ => hended m (by omega) rfl) fun _ => ?_
        refine (h.expression _).map_bind fun m x x' _ ⟨_, hx⟩ => hended m (by omega) ?_
        simp only [Statement.unplaced, unplacedOption, hx]
      case h_6 => exact single_inStep _ (hgoes rfl)
      case h_7 => exact single_inStep _ (hgoes rfl)
      case h_8 =>
        refine (take_inStep (hgoes rfl)).bind fun _ _ _ _ _ => ?_
        refine current_inStep.bind fun _ t t' _ ⟨_, _, hnewline, _⟩ => ?_
        rw [hnewline]
        refine .ite (fun _ => .never (fail_inStep nofun)) fun _ => ?_
        refine (h.expression _).bind fun m x x' _ ⟨_, hx⟩ => hended m (by omega) ?_
        rw [Statement.unplaced, Statement.unplaced, hx]
      case h_9 => exact h.attempt_inStep (hgoes rfl)
      case h_10 =>
        refine h.block_inStep.bind fun _ body body' _ ⟨_, hbody⟩ => .pure ⟨by omega, ?_⟩
        rw [Statement.unplaced, Statement.unplaced, hbody]
      case h_11 => exact (take_inStep (hgoes rfl)).bind fun _ _ _ _ htaken => .pure ⟨htaken, rfl⟩
      case h_12 =>
        refine (h.expression _).bind fun m x x' _ ⟨_, hx⟩ => hended m (by omega) ?_
        rw [Statement.unplaced, Statement.unplaced, hx]

end Paced

/-! ## Levels -/

/-- The rules of every level go in step, by induction on the level. -/
lemma level_paced {e : Nat} : ∀ n, Paced e (level n)
  | 0 => ⟨fun _ => fail_inStep nofun, fun _ => fail_inStep nofun, fun _ => fail_inStep nofun,
      fun _ _ => fail_inStep nofun⟩
  | n + 1 =>
    have h := level_paced n
    { statement := fun _ => nested_inStep h.statement_inStep
      expression := fun _ => nested_inStep h.assignment_inStep
      operand := fun _ => nested_inStep h.operand_inStep
      construction := fun _ hn => nested_inStep (h.construction_inStep hn) }

lemma program_inStep {e : Nat} : InStep e (e + 1) program program 0 fun _ body body' =>
    body.map Statement.unplaced = body'.map Statement.unplaced := by
  refine remaining_inStep.bind fun _ r _ _ ⟨hm, hr, hroom⟩ => ?_
  subst hm hr
  exact (sequence_inStep (level_paced _).statement false _ 0).relax (.inr hroom)

end Parser

end ModuleRunner.Script
