import Mathlib.Tactic
import ModuleRunner.Proofs.Parsing.Rule
import ModuleRunner.Proofs.Script.Form

/-!
# The form of what the parser builds

Every tree that a rule of the grammar answers is built of phrases that are well formed, with names
that are tokens.  The nesting does not matter here, only what comes of a rule: so a rule is followed
from whatever cursor it starts at, and rules that answer no tree are passed over.

The checks are spread over the grammar: a target is checked behind the operator that updates or assigns
it, a constant where its name is declared, a `try` behind all that may follow it.

* `Parser.Builds` — what a rule answers, wherever it starts.
* `Parser.Sound` — the rules that smaller phrases are read with build what they should.
* `statement_builds`, `assignment_builds` — statements and expressions.
* `parse_built` — programs.
-/

namespace ModuleRunner.Script

namespace Parser

open Phrase

/-! ## Rules one after another -/

section Rules

variable {α β : Type} {tokens : Array Token} {x : Parser α} {f : α → Parser β} {P : α → Prop}
  {S : β → Prop}

/-- What a rule answers. -/
def Builds (tokens : Array Token) (rule : Parser α) (P : α → Prop) : Prop :=
  ∀ c a c', rule tokens c = .ok (a, c') → P a

namespace Builds

lemma bind (hx : Builds tokens x P) (hf : ∀ a, P a → Builds tokens (f a) S) :
    Builds tokens (x >>= f) S := by
  intro c b c'' hrun
  obtain ⟨a, c', hfirst, hrest⟩ := bind_eq_ok.mp hrun
  exact hf a (hx c a c' hfirst) c' b c'' hrest

/-- Whatever a first rule answers, the rest is the same. -/
lemma pass (hf : ∀ a, Builds tokens (f a) S) : Builds tokens (x >>= f) S :=
  bind (P := fun _ => True) (fun _ _ _ _ => trivial) fun a _ => hf a

lemma pure {a : α} (h : P a) : Builds tokens (pure a : Parser α) P := by
  rintro c _ _ ⟨⟩
  exact h

lemma map {g : α → β} (h : Builds tokens x fun a => S (g a)) : Builds tokens (g <$> x) S := by
  rw [map_eq_pure_bind]
  exact h.bind fun a ha => pure ha

lemma ite {c : Prop} [Decidable c] {y : Parser α} (hx : c → Builds tokens x P)
    (hy : ¬ c → Builds tokens y P) : Builds tokens (if c then x else y) P := by
  split
  · next h => exact hx h
  · next h => exact hy h

lemma fail (cause : Cause) : Builds tokens (Script.fail cause) P := by
  rintro c a c' ⟨⟩

lemma failBehind (cause : Cause) : Builds tokens (Script.failBehind cause) P := by
  rintro c a c' ⟨⟩

lemma fail_bind (cause : Cause) : Builds tokens (Script.fail cause >>= f) S :=
  (fail (P := fun _ => False) cause).bind fun _ h => h.elim

lemma failBehind_bind (cause : Cause) : Builds tokens (Script.failBehind cause >>= f) S :=
  (failBehind (P := fun _ => False) cause).bind fun _ h => h.elim

/-- A part that may be missing. -/
lemma option {next : Option α → Parser β} {c : Prop} [Decidable c] (hx : Builds tokens x P)
    (hnext : ∀ answer, (∀ a ∈ answer, P a) → Builds tokens (next answer) S) :
    Builds tokens (if c then Pure.pure none >>= next else (some <$> x) >>= next) S := by
  refine .ite (fun _ => ?_) fun _ => ?_
  · exact bind (pure (P := (· = none)) rfl) fun answer hnone => hnext answer (by simp [hnone])
  · exact bind (map (S := fun answer => ∀ a ∈ answer, P a)
      fun c a c' hrun _ hmem => Option.mem_some.mp hmem ▸ hx c a c' hrun) hnext

/-- A rule builds one level deeper what it builds. -/
lemma nested (hx : Builds tokens x P) : Builds tokens (Script.nested x) P :=
  .pass fun _ => .pass fun _ => hx.bind fun _ ha => .pass fun _ => .pure ha

end Builds

/-! ## Single tokens -/

lemma currentKind_builds : Builds tokens currentKind fun kind =>
    kind ≠ .endOfInput → ∃ t ∈ tokens, t.kind = kind := by
  rintro c _ _ ⟨⟩ hkind
  by_cases htaken : c.taken < tokens.size
  · rw [Array.getD_eq_getD_getElem?, Array.getElem?_eq_getElem htaken]
    exact ⟨tokens[c.taken], Array.getElem_mem htaken, rfl⟩
  · refine absurd ?_ hkind
    rw [Array.getD_eq_getD_getElem?, Array.getElem?_eq_none (Nat.not_lt.mp htaken)]
    rfl

lemma expectProperty_builds : Builds tokens expectProperty fun key =>
    ∃ t ∈ tokens, t.kind.propertyName? = some key := by
  refine currentKind_builds.bind fun kind hkind => ?_
  split
  · next key hkey =>
      refine .pass fun _ => .pure ?_
      obtain ⟨t, ht, rfl⟩ := hkind (by rintro rfl; cases hkey)
      exact ⟨t, ht, hkey⟩
  · exact .fail _

/-! ## Lists -/

lemma commaList_builds (hx : Builds tokens x P) (close : Mark) :
    ∀ bound, Builds tokens (commaList close x bound) fun items => ∀ a ∈ items, P a
  | 0 => .fail _
  | bound + 1 => by
      refine .pass fun _ => .ite (fun _ => .pure (by rintro a ⟨⟩)) fun _ => ?_
      refine hx.bind fun first hfirst => .pass fun _ => .ite (fun _ => ?_) fun _ => .pure ?_
      · refine (commaList_builds hx close bound).bind fun items hitems => .pure ?_
        exact List.forall_mem_cons.mpr ⟨hfirst, hitems⟩
      · exact List.forall_mem_singleton.mpr hfirst

lemma commaChain_builds (hx : Builds tokens x P) :
    ∀ bound, Builds tokens (commaChain x bound) fun items => ∀ a ∈ items, P a
  | 0 => .fail _
  | bound + 1 => by
      refine hx.bind fun first hfirst => .pass fun _ => .ite (fun _ => ?_) fun _ => .pure ?_
      · refine (commaChain_builds hx bound).bind fun items hitems => .pure ?_
        exact List.forall_mem_cons.mpr ⟨hfirst, hitems⟩
      · exact List.forall_mem_singleton.mpr hfirst

lemma sequence_builds (hx : Builds tokens x P) (braced : Bool) :
    ∀ bound, Builds tokens (sequence braced x bound) fun items => ∀ a ∈ items, P a
  | 0 => .fail _
  | bound + 1 => by
      refine .pass fun _ => .ite (fun _ => .pure (by rintro a ⟨⟩)) fun _ => ?_
      refine hx.bind fun first hfirst => (sequence_builds hx braced bound).bind
        fun items hitems => .pure ?_
      exact List.forall_mem_cons.mpr ⟨hfirst, hitems⟩

/-! ## Operators -/

/-- What is behind the check of a target. -/
lemma checked {e : Expression} {cause : Cause} {rest : Parser Expression} {P : Expression → Prop}
    {failing : Cause → Parser Unit}
    (hfailing : Builds tokens (failing cause >>= fun _ => rest) P)
    (hrest : e.IsTarget → Builds tokens rest P) :
    Builds tokens (if !e.isAssignable then failing cause >>= fun _ => rest else rest) P :=
  .ite (fun _ => hfailing) fun hassignable =>
    hrest (Expression.isTarget_of_isAssignable (by simpa using hassignable))

lemma join_built {t : Tier} (ht : t ∈ tiers) {kind : Kind}
    {join : Expression → Expression → Expression} (hjoin : t.ofKind? kind = some join)
    {left right : Expression} (hleft : Built tokens (.expression left))
    (hright : Built tokens (.expression right)) : Built tokens (.expression (join left right)) := by
  obtain ⟨m, rfl⟩ : ∃ m, kind = .mark m := by
    cases kind <;> first | exact ⟨_, rfl⟩ | cases hjoin
  simp only [tiers, List.mem_cons, List.not_mem_nil, or_false] at ht
  rcases ht with rfl | rfl | rfl | rfl | rfl | rfl
  all_goals
    simp only [Tier.ofKind?] at hjoin
    split at hjoin <;> cases hjoin <;>
      exact .node nofun trivial (List.forall_mem_singleton.mpr hleft)
        (List.forall_mem_singleton.mpr hright)

lemma tierChain_builds {t : Tier} (ht : t ∈ tiers) {stronger : Parser Expression}
    (hstronger : Builds tokens stronger fun e => Built tokens (.expression e)) :
    ∀ bound {left : Expression}, Built tokens (.expression left) →
      Builds tokens (tierChain t stronger left bound) fun e => Built tokens (.expression e)
  | 0, _, _ => .fail _
  | bound + 1, left, hleft => by
      refine .pass fun kind => ?_
      split
      · exact .pure hleft
      · next join hjoin =>
        have hnext : Builds tokens (do tierChain t stronger (join left (← stronger)) bound)
            fun e => Built tokens (.expression e) :=
          hstronger.bind fun right hright =>
            tierChain_builds ht hstronger bound (join_built ht hjoin hleft hright)
        split
        · exact .pass fun _ => .pass fun _ => hnext
        · exact .pass fun _ => .pass fun _ => hnext

lemma tiered_builds {operand : Parser Expression}
    (hoperand : Builds tokens operand fun e => Built tokens (.expression e)) :
    ∀ {ts : List Tier}, (∀ t ∈ ts, t ∈ tiers) →
      Builds tokens (tiered operand ts) fun e => Built tokens (.expression e)
  | [], _ => hoperand
  | t :: ts, hts => by
      obtain ⟨ht, hts⟩ := List.forall_mem_cons.mp hts
      have hstronger := tiered_builds hoperand hts
      refine .pass fun _ => hstronger.bind fun first hfirst => .pass fun _ => ?_
      exact (tierChain_builds ht hstronger _ hfirst).bind fun _ hanswer => .pass fun _ => .pure hanswer

/-! ## Single words -/

lemma single_builds {s : Statement} (hs : Built tokens (.statement s)) :
    Builds tokens (single s) fun s => Built tokens (.statement s) :=
  .pass fun _ => .pass fun _ => .pure hs

end Rules

/-- The rules that smaller phrases are read with build phrases as they should be. -/
structure Sound (tokens : Array Token) (deeper : Level) : Prop where
  statement : Builds tokens deeper.statement fun s => Built tokens (.statement s)
  expression : Builds tokens deeper.expression fun e => Built tokens (.expression e)
  operand : Builds tokens deeper.operand fun e => Built tokens (.expression e)
  construction : Builds tokens deeper.construction fun e => Built tokens (.expression e)

namespace Sound

variable {tokens : Array Token} {deeper : Level} (h : Sound tokens deeper)

include h

/-! ## Expressions -/

lemma arguments_builds :
    Builds tokens (arguments deeper) fun items => ∀ e ∈ items, Built tokens (.expression e) :=
  .pass fun _ => .pass fun _ => (commaList_builds h.expression _ _).bind fun _ hitems =>
    .pass fun _ => .pure hitems

lemma block_builds :
    Builds tokens (block deeper) fun body => ∀ s ∈ body, Built tokens (.statement s) :=
  .pass fun _ => .pass fun _ => (sequence_builds h.statement _ _).bind fun _ hbody =>
    .pass fun _ => .pure hbody

lemma functionRest_builds (name : Option String) :
    Builds tokens (functionRest deeper name) fun literal =>
      ∀ s ∈ literal.body, Built tokens (.statement s) := by
  have hrest (parameters : List String) : Builds tokens (do
      expect .rightParen
      return (⟨name, parameters, ← block deeper⟩ : FunctionLiteral)) fun literal =>
        ∀ s ∈ literal.body, Built tokens (.statement s) :=
    .pass fun _ => h.block_builds.bind fun _ hbody => .pure hbody
  exact .pass fun _ => .pass fun _ => .ite (fun _ => .pass hrest) fun _ => .pass fun _ => .pass hrest

lemma arrayLiteral_builds :
    Builds tokens (arrayLiteral deeper) fun e => Built tokens (.expression e) := by
  refine .pass fun _ => .pass fun _ => (commaList_builds h.expression _ _).bind fun items hitems =>
    .pass fun _ => .pure ?_
  exact .node nofun trivial nofun (List.forall_mem_map.mpr hitems)

/-- The value of a property is built, or is the name that the property has. -/
inductive Entered (tokens : Array Token) : String × Expression → Prop
  | value {key : String} {e : Expression} (h : Built tokens (.expression e)) :
      Entered tokens (key, e)
  | shorthand {key : String} (h : ∃ t ∈ tokens, t.kind.propertyName? = some key) :
      Entered tokens (key, .name key)

lemma property_builds : Builds tokens (property deeper) (Entered tokens) := by
  refine expectProperty_builds.bind fun key hkey => .pass fun _ => .ite (fun _ => ?_) fun _ => ?_
  · exact h.expression.bind fun _ he => .pure (.value he)
  · refine .pass fun _ => .ite (fun _ => ?_) fun _ => .pure (.shorthand hkey)
    refine (h.functionRest_builds _).bind fun literal hbody => .pure (.value ?_)
    exact .node nofun trivial nofun (List.forall_mem_map.mpr hbody)

lemma objectLiteral_builds :
    Builds tokens (objectLiteral deeper) fun e => Built tokens (.expression e) := by
  refine .pass fun _ => .pass fun _ => (commaList_builds h.property_builds _ _).bind
    fun properties hproperties => .pass fun _ => .pure ?_
  refine .intro trivial (by rintro n ⟨⟩) (by rintro q ⟨⟩) fun q hq hshort => ?_
  obtain ⟨⟨key, e⟩, hmem, rfl⟩ := List.mem_map.mp hq
  cases hproperties _ hmem with
  | value he => exact he
  | shorthand hkey => exact absurd ⟨properties, key, rfl, rfl, hmem, hkey⟩ hshort

lemma primary_builds : Builds tokens (primary deeper) fun e => Built tokens (.expression e) := by
  refine currentKind_builds.bind fun kind hkind => ?_
  split
  case h_7 n =>
    refine .pass fun _ => .pure ?_
    split
    · exact .leaf nofun trivial rfl rfl
    · next hn =>
      refine .intro trivial ?_ (by rintro q ⟨⟩) (by rintro q ⟨⟩)
      rintro _ ⟨⟩
      exact ⟨hn, hkind (by rintro ⟨⟩)⟩
  case h_8 => exact .pass fun _ => h.expression.bind fun _ he => .pass fun _ => .pure he
  case h_9 => exact h.arrayLiteral_builds
  case h_10 => exact h.objectLiteral_builds
  case h_11 =>
    refine .pass fun _ => .pass fun kind => ?_
    split
    · refine .pass fun _ => (h.functionRest_builds _).bind fun literal hbody => .pure ?_
      exact .node nofun trivial nofun (List.forall_mem_map.mpr hbody)
    · refine (h.functionRest_builds _).bind fun literal hbody => .pure ?_
      exact .node nofun trivial nofun (List.forall_mem_map.mpr hbody)
  case h_12 | h_13 => exact .fail _
  all_goals exact .pass fun _ => .pure (.leaf nofun trivial rfl rfl)

lemma access_builds {object : Expression} (hobject : Built tokens (.expression object)) :
    Builds tokens (access deeper object) fun e => Built tokens (.expression e) := by
  refine .pass fun _ => .ite (fun _ => .pass fun n => .pure ?_) fun _ => .pass fun _ => ?_
  · exact .node nofun trivial (List.forall_mem_singleton.mpr hobject) nofun
  · refine h.expression.bind fun key hkey => .pass fun _ => .pure ?_
    exact .node nofun trivial (List.forall_mem_singleton.mpr hobject)
      (List.forall_mem_singleton.mpr hkey)

lemma accesses_builds : ∀ bound {object : Expression}, Built tokens (.expression object) →
    Builds tokens (accesses deeper object bound) fun e => Built tokens (.expression e)
  | 0, _, _ => .fail _
  | bound + 1, object, hobject => by
      refine .pass fun kind => ?_
      split
      case h_3 => exact .pure hobject
      all_goals exact .pass fun _ => (h.access_builds hobject).bind fun _ => accesses_builds bound

lemma construction_builds :
    Builds tokens (Script.construction deeper) fun e => Built tokens (.expression e) := by
  have hrest (mark : Nat) (first : Expression) (hfirst : Built tokens (.expression first)) :
      Builds tokens (do
        let callee ← accesses deeper first ((← remaining) + 1)
        restoreDepth mark
        if ← sees .leftParen then return .construct callee (← arguments deeper)
        return .construct callee []) fun e => Built tokens (.expression e) := by
    refine .pass fun _ => (h.accesses_builds _ hfirst).bind fun callee hcallee => .pass fun _ => ?_
    refine .pass fun _ => .ite (fun _ => ?_) fun _ => .pure ?_
    · refine h.arguments_builds.bind fun items hitems => .pure (.node nofun trivial nofun ?_)
      exact List.forall_mem_cons.mpr ⟨hcallee, List.forall_mem_map.mpr hitems⟩
    · exact .node nofun trivial nofun (List.forall_mem_singleton.mpr hcallee)
  refine .pass fun _ => .pass fun mark => .pass fun _ => .ite (fun _ => ?_) fun _ => ?_
  · exact h.construction.bind (hrest mark)
  · exact h.primary_builds.bind (hrest mark)

lemma links_builds : ∀ bound {object : Expression}, Built tokens (.expression object) →
    Builds tokens (links deeper object bound) fun e => Built tokens (.expression e)
  | 0, _, _ => .fail _
  | bound + 1, object, hobject => by
      refine .pass fun kind => ?_
      split
      case h_4 => exact .pure hobject
      case h_3 =>
        refine .pass fun _ => .pass fun t => h.arguments_builds.bind fun items hitems => ?_
        exact links_builds bound (.node nofun trivial (List.forall_mem_singleton.mpr hobject)
          (List.forall_mem_map.mpr hitems))
      all_goals exact .pass fun _ => (h.access_builds hobject).bind fun _ => links_builds bound

lemma linked_builds : Builds tokens (linked deeper) fun e => Built tokens (.expression e) := by
  have hrest (mark : Nat) (first : Expression) (hfirst : Built tokens (.expression first)) :
      Builds tokens (do
        let answer ← links deeper first ((← remaining) + 1)
        restoreDepth mark
        return answer) fun e => Built tokens (.expression e) :=
    .pass fun _ => (h.links_builds _ hfirst).bind fun _ hanswer => .pass fun _ => .pure hanswer
  refine .pass fun mark => .pass fun _ => .ite (fun _ => ?_) fun _ => ?_
  · exact h.construction_builds.bind (hrest mark)
  · exact h.primary_builds.bind (hrest mark)

lemma updated_builds : Builds tokens (updated deeper) fun e => Built tokens (.expression e) := by
  refine h.linked_builds.bind fun target htarget => .pass fun t => ?_
  split
  · refine .ite (fun _ => .pure htarget) fun _ => checked (.fail_bind _) fun hassignable => ?_
    exact .pass fun _ => .pure (.node nofun hassignable nofun (List.forall_mem_singleton.mpr htarget))
  · exact .pure htarget

lemma operand_builds :
    Builds tokens (Script.operand deeper) fun e => Built tokens (.expression e) := by
  refine .pass fun kind => ?_
  split
  · refine .pass fun _ => h.operand.bind fun target htarget =>
      checked (.failBehind_bind _) fun hassignable => .pure ?_
    exact .node nofun hassignable nofun (List.forall_mem_singleton.mpr htarget)
  · split
    · refine .pass fun _ => h.operand.bind fun operand hoperand => .pure ?_
      exact .node nofun trivial nofun (List.forall_mem_singleton.mpr hoperand)
    · exact h.updated_builds

lemma conditional_builds :
    Builds tokens (conditional deeper) fun e => Built tokens (.expression e) := by
  refine (tiered_builds h.operand_builds fun _ ht => ht).bind fun test htest => .pass fun _ => .ite (fun _ => ?_)
    fun _ => .pure htest
  refine h.expression.bind fun yes hyes => .pass fun _ => h.expression.bind fun no hno => .pure ?_
  refine .node nofun trivial nofun ?_
  refine List.forall_mem_cons.mpr ⟨htest, List.forall_mem_cons.mpr ⟨hyes, ?_⟩⟩
  exact List.forall_mem_singleton.mpr hno

lemma assignment_builds :
    Builds tokens (assignment deeper) fun e => Built tokens (.expression e) := by
  refine h.conditional_builds.bind fun target htarget => .pass fun _ => ?_
  split
  · exact .pure htarget
  · refine checked (.fail_bind _) fun hassignable => .pass fun _ => ?_
    refine h.expression.bind fun value hvalue => .pure (.node nofun hassignable nofun ?_)
    exact List.forall_mem_cons.mpr ⟨htarget, List.forall_mem_singleton.mpr hvalue⟩

/-! ## Statements -/

/-- The value of a declarator is built, and a constant has one. -/
structure Declared (tokens : Array Token) (kind : VariableKind) (d : Declarator) : Prop where
  value : ∀ e ∈ d.value, Built tokens (.expression e)
  present : kind = .constant → d.value ≠ none

lemma declarator_builds (kind : VariableKind) :
    Builds tokens (declarator deeper kind) (Declared tokens kind) := by
  refine .pass fun name => .pass fun _ => .ite (fun _ => ?_) fun _ => ?_
  · refine h.expression.bind fun e he => .pure ⟨?_, fun _ => nofun⟩
    rintro _ ⟨⟩
    exact he
  · refine .ite (fun _ => .fail_bind _) fun hkind => .pure ⟨by rintro e ⟨⟩, fun hconstant => ?_⟩
    exact absurd hconstant hkind

lemma declaration_builds (kind : VariableKind) :
    Builds tokens (declaration deeper kind) fun s => Built tokens (.statement s) := by
  refine .pass fun _ => .pass fun _ => (commaChain_builds (h.declarator_builds kind) _).bind
    fun declarators hdeclarators => .pure (.statement ?_ fun q hq => ?_)
  · cases kind with
    | constant => exact fun d hd => (hdeclarators d hd).present rfl
    | var | letMutable => trivial
  · obtain ⟨declarator, hmem, hq⟩ := List.mem_flatMap.mp hq
    obtain ⟨e, he, rfl⟩ := List.mem_map.mp hq
    exact (hdeclarators declarator hmem).value e (Option.mem_toList.mp he)

lemma condition_builds :
    Builds tokens (condition deeper) fun e => Built tokens (.expression e) :=
  .pass fun _ => h.expression.bind fun _ htest => .pass fun _ => .pure htest

lemma optionalUpTo_builds (close : Mark) : Builds tokens (optionalUpTo deeper close) fun answer =>
    ∀ e ∈ answer, Built tokens (.expression e) :=
  .pass fun _ => .option h.expression fun _ hanswer => .pass fun _ => .pure hanswer

lemma loopStart_builds : Builds tokens (loopStart deeper) fun start =>
    ∀ s ∈ start, Built tokens (.statement s) := by
  refine .pass fun kind => .ite (fun _ => .pure (by rintro s ⟨⟩)) fun _ => ?_
  split
  · refine .map fun c s c' hrun => ?_
    rintro _ ⟨⟩
    exact h.declaration_builds _ c s c' hrun
  · refine h.expression.bind fun e he => .pure ?_
    rintro _ ⟨⟩
    exact .statement trivial (List.forall_mem_singleton.mpr he)

lemma forLoop_builds : Builds tokens (forLoop deeper) fun s => Built tokens (.statement s) := by
  refine .pass fun _ => .pass fun _ => h.loopStart_builds.bind fun start hstart => .pass fun _ => ?_
  refine (h.optionalUpTo_builds _).bind fun test htest => ?_
  refine (h.optionalUpTo_builds _).bind fun update hupdate => ?_
  refine h.statement.bind fun body hbody => .pure (.statement trivial ?_)
  simp only [others, othersOfStatement, List.forall_mem_append, List.forall_mem_map,
    Option.mem_toList, List.forall_mem_singleton]
  exact ⟨⟨⟨hstart, htest⟩, hupdate⟩, hbody⟩

lemma choice_builds : Builds tokens (choice deeper) fun s => Built tokens (.statement s) := by
  refine .pass fun _ => h.condition_builds.bind fun test htest => ?_
  refine h.statement.bind fun yes hyes => .pass fun _ => .ite
    (fun _ => h.statement.bind fun no hno => .pure (.statement trivial ?_))
    fun _ => .pure (.statement trivial ?_)
  · refine List.forall_mem_cons.mpr ⟨htest, List.forall_mem_cons.mpr ⟨hyes, ?_⟩⟩
    exact List.forall_mem_singleton.mpr hno
  · exact List.forall_mem_cons.mpr ⟨htest, List.forall_mem_singleton.mpr hyes⟩

lemma handler_builds : Builds tokens (handler deeper) fun clause =>
    ∀ c ∈ clause, ∀ s ∈ c.body, Built tokens (.statement s) := by
  have hrest (parameter : Option String) :
      Builds tokens (do return some (⟨parameter, ← block deeper⟩ : CatchClause)) fun clause =>
        ∀ c ∈ clause, ∀ s ∈ c.body, Built tokens (.statement s) := by
    refine h.block_builds.bind fun body hbody => .pure ?_
    rintro _ ⟨⟩
    exact hbody
  refine .pass fun _ => .ite (fun _ => .pass fun _ => .ite (fun _ => ?_) fun _ => .pass hrest)
    fun _ => .pure (by rintro c ⟨⟩)
  exact .pass fun _ => .pass fun _ => .pass hrest

/-- What is tried has something behind it. -/
lemma attempt_builds : Builds tokens (attempt deeper) fun s => Built tokens (.statement s) := by
  refine .pass fun _ => h.block_builds.bind fun body hbody => h.handler_builds.bind
    fun caught hcaught => .pass fun found => ?_
  have hrest (finalizer : Option (List Statement))
      (hfinalizer : ∀ body ∈ finalizer, ∀ s ∈ body, Built tokens (.statement s)) :
      Builds tokens (do
        if caught.isNone && finalizer.isNone then fail .attemptWithoutHandler
        return .attempt body caught finalizer) fun s => Built tokens (.statement s) := by
    refine .ite (fun _ => .fail_bind _) fun hpresent => .pure (.statement ?_ ?_)
    · simpa [Phrase.WellFormed, imp_iff_not_or] using hpresent
    · simp only [others, othersOfStatement, List.forall_mem_append, List.forall_mem_flatMap,
        List.forall_mem_map, Option.mem_toList]
      exact ⟨⟨hbody, hcaught⟩, hfinalizer⟩
  refine .ite (fun _ => ?_) fun _ => ?_
  · refine (Builds.map (S := fun finalizer => ∀ body ∈ finalizer, ∀ s ∈ body,
      Built tokens (.statement s)) ?_).bind hrest
    rintro c body c' hrun _ ⟨⟩
    exact h.block_builds c body c' hrun
  · exact (Builds.pure (P := (· = none)) rfl).bind fun finalizer hnone => hrest _ (by simp [hnone])

lemma statement_builds :
    Builds tokens (Script.statement deeper) fun s => Built tokens (.statement s) := by
  have hexpression : Builds tokens (do
      let e ← deeper.expression
      endStatement
      return .expression e) fun s => Built tokens (.statement s) :=
    h.expression.bind fun e he => .pass fun _ =>
      .pure (.statement trivial (List.forall_mem_singleton.mpr he))
  refine .pass fun kind => ?_
  split
  · exact (h.declaration_builds _).bind fun s hs => .pass fun _ => .pure hs
  split
  case h_1 =>
    refine .pass fun _ => .pass fun name => (h.functionRest_builds _).bind
      fun literal hbody => .pure ?_
    exact .statement trivial (List.forall_mem_map.mpr hbody)
  case h_2 => exact h.choice_builds
  case h_3 =>
    refine .pass fun _ => h.condition_builds.bind fun test htest => ?_
    refine h.statement.bind fun body hbody => .pure (.statement trivial ?_)
    exact List.forall_mem_cons.mpr ⟨htest, List.forall_mem_singleton.mpr hbody⟩
  case h_4 => exact h.forLoop_builds
  case h_5 =>
    refine .pass fun _ => .pass fun _ => .option h.expression fun value hvalue => .pass fun _ => .pure ?_
    refine .statement trivial fun q hq => ?_
    obtain ⟨e, he, rfl⟩ := List.mem_map.mp hq
    exact hvalue e (Option.mem_toList.mp he)
  case h_6 | h_7 => exact single_builds (.leaf nofun trivial rfl rfl)
  case h_8 =>
    refine .pass fun _ => .pass fun t => .ite (fun _ => .fail_bind _) fun _ => ?_
    exact h.expression.bind fun e he => .pass fun _ =>
      .pure (.statement trivial (List.forall_mem_singleton.mpr he))
  case h_9 => exact h.attempt_builds
  case h_10 =>
    refine h.block_builds.bind fun body hbody => .pure ?_
    exact .statement trivial (List.forall_mem_map.mpr hbody)
  case h_11 => exact .pass fun _ => .pure (.leaf nofun trivial rfl rfl)
  case h_12 => exact hexpression

end Sound

/-! ## Programs -/

lemma level_sound (tokens : Array Token) : ∀ n, Sound tokens (level n)
  | 0 => ⟨.fail _, .fail _, .fail _, .fail _⟩
  | n + 1 =>
    have h : Sound tokens (level n) := level_sound tokens n
    ⟨.nested h.statement_builds, .nested h.assignment_builds, .nested h.operand_builds,
      .nested h.construction_builds⟩

end Parser

/-- What the parser answers is built from the tokens of its text. -/
theorem parse_built {source : String} {body : List Statement} (h : parse source = .ok body) :
    ∀ s ∈ body, Phrase.Built (tokens source.toList).toArray (.statement s) := by
  unfold parse parseTokens at h
  cases hrun : program (tokens source.toList).toArray ⟨0, 0⟩ with
  | error e => simp [hrun] at h
  | ok answer =>
      obtain ⟨body', c'⟩ := answer
      obtain rfl : body' = body := by simpa [hrun] using h
      have hprogram : Parser.Builds (tokens source.toList).toArray program fun body =>
          ∀ s ∈ body, Phrase.Built (tokens source.toList).toArray (.statement s) :=
        .pass fun _ => Parser.sequence_builds (Parser.level_sound _ _).statement _ _
      exact hprogram _ _ _ hrun

end ModuleRunner.Script
