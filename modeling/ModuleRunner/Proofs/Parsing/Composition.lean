import ModuleRunner.Proofs.Parsing.Reading
import ModuleRunner.Proofs.Parsing.Termination

/-!
# What rules are composed of

A rule looks at the token ahead, takes it, counts the tokens that are left, refuses, enters a level of
nesting, and calls for other rules.  It never asks where in the text it is or how deep, and the nesting
that it notes it only returns to.  That is said once here, rule by rule; whatever holds of the steps, is
handed on from one to the next, and survives a return to the nesting before, then holds of every rule.

* `Composed` — rules that are composed of such steps, and whether they may leave nesting entered.
* `Tidy` — the rules that smaller phrases are read with are composed and leave none.
* `Tidy.primary_composed`, …, `Tidy.statement_composed` — one lemma for each rule over them.
* `level_tidy`, `program_composed` — the rules of every level, and whole texts.
* `Tidy.rule_composed`, `Tidy.loop_composed` — every rule, and every list and chain in one.
-/

namespace ModuleRunner.Script

namespace Parser

/-- A rule is composed of steps over the tokens ahead.  If it does not climb, whatever nesting it enters it
leaves again before it answers. -/
inductive Composed : {α : Type} → (climbs : Bool) → Parser α → Prop
  /-- An answer. -/
  | pure {α : Type} (a : α) : Composed false (pure a : Parser α)
  /-- A look at the token ahead. -/
  | current : Composed false current
  /-- The token ahead is taken. -/
  | take : Composed false take
  /-- The tokens ahead are counted. -/
  | remaining : Composed false remaining
  /-- A token is refused. -/
  | failAt {α : Type} (token : Token) (cause : Cause) : Composed false (failAt token cause : Parser α)
  /-- The token taken last is refused. -/
  | failBehind {α : Type} (cause : Cause) : Composed false (failBehind cause : Parser α)
  /-- One more level of nesting. -/
  | descend : Composed true descend
  /-- A rule that does not climb is one that may. -/
  | climb {α : Type} {rule : Parser α} : Composed false rule → Composed true rule
  /-- One rule behind another. -/
  | bind {α β : Type} {climbs : Bool} {rule : Parser α} {next : α → Parser β} : Composed climbs rule →
      (∀ a, Composed climbs (next a)) → Composed climbs (rule >>= next)
  /-- A rule, and a return to the nesting before it. -/
  | restoring {α : Type} {rule : Parser α} : Composed true rule → Composed false (restoring rule)

namespace Composed

variable {α β : Type} {climbs : Bool} {x y : Parser α}

lemma ite {c : Prop} [Decidable c] (hx : Composed climbs x) (hy : Composed climbs y) :
    Composed climbs (if c then x else y) := by
  split
  · exact hx
  · exact hy

lemma map {f : α → β} (hx : Composed false x) : Composed false (f <$> x) := by
  rw [map_eq_pure_bind]
  exact hx.bind fun a => .pure (f a)

/-- An answer made of that of a rule. -/
lemma answer {f : α → β} (hx : Composed false x) : Composed false (do return f (← x)) :=
  hx.bind fun a => .pure (f a)

lemma fail (cause : Cause) : Composed false (fail cause : Parser α) :=
  current.bind fun _ => .failAt _ _

/-- A check, and then the rest. -/
lemma checked {c : Prop} [Decidable c] {cause : Cause} {rest : Unit → Parser α}
    (h : Composed false (rest ())) :
    Composed false (if c then (Script.fail cause : Parser Unit) >>= rest else rest ()) :=
  .ite ((fail cause).bind fun _ => h) h

end Composed

/-! ## Single tokens -/

lemma currentKind_composed : Composed false currentKind := .answer .current

lemma sees_composed (m : Mark) : Composed false (sees m) := .answer currentKind_composed

lemma accept_composed (m : Mark) : Composed false (accept m) :=
  (sees_composed m).bind fun _ => .ite (Composed.take.bind fun _ => .pure _) (.pure _)

lemma acceptWord_composed (k : Keyword) : Composed false (acceptWord k) :=
  currentKind_composed.bind fun _ => .ite (Composed.take.bind fun _ => .pure _) (.pure _)

lemma expect_composed (m : Mark) : Composed false (expect m) :=
  (sees_composed m).bind fun _ => .ite .take (currentKind_composed.bind fun _ => .fail _)

lemma expectName_composed : Composed false expectName := by
  refine currentKind_composed.bind fun kind => ?_
  split
  · exact Composed.take.bind fun _ => .pure _
  · exact .fail _

lemma expectProperty_composed : Composed false expectProperty := by
  refine currentKind_composed.bind fun kind => ?_
  split
  · exact Composed.take.bind fun _ => .pure _
  · exact .fail _

lemma atStatementEnd_composed : Composed false atStatementEnd := .answer .current

lemma endStatement_composed : Composed false endStatement :=
  (accept_composed _).bind fun _ => .ite (.pure _) <|
    atStatementEnd_composed.bind fun _ => .ite (.pure _) <|
      currentKind_composed.bind fun _ => .fail _

/-! ## Lists -/

section Lists

variable {α : Type} {item : Parser α} (hitem : Composed false item)

include hitem

lemma commaList_composed (close : Mark) : ∀ bound, Composed false (commaList close item bound)
  | 0 => .fail _
  | bound + 1 => by
      refine (sees_composed close).bind fun _ => .ite (.pure _) (hitem.bind fun first => ?_)
      exact (accept_composed _).bind fun _ => .ite (.answer (commaList_composed close bound)) (.pure _)

lemma commaChain_composed : ∀ bound, Composed false (commaChain item bound)
  | 0 => .fail _
  | bound + 1 => by
      refine hitem.bind fun first => (accept_composed _).bind fun _ => ?_
      exact .ite (.answer (commaChain_composed bound)) (.pure _)

lemma sequence_composed (braced : Bool) : ∀ bound, Composed false (sequence braced item bound)
  | 0 => .fail _
  | bound + 1 => by
      refine currentKind_composed.bind fun kind => .ite (.pure _) (hitem.bind fun first => ?_)
      exact .answer (sequence_composed braced bound)

end Lists

/-! ## Nesting -/

/-- A rule one level deeper leaves that level. -/
lemma nested_composed {α : Type} {rule : Parser α} (h : Composed false rule) :
    Composed false (nested rule) := by
  have hrule : Composed true (descend >>= fun _ => rule) := .bind .descend fun _ => .climb h
  have hnested : nested rule = restoring (descend >>= fun _ => rule) := by
    simp only [nested, restoring, bind_assoc]
  rw [hnested]
  exact .restoring hrule

/-! ## Rules over other rules -/

lemma tierChain_composed {t : Tier} {stronger : Parser Expression} (hstronger : Composed false stronger) :
    ∀ (left : Expression) (bound : Nat), Composed true (tierChain t stronger left bound)
  | _, 0 => .climb (.fail _)
  | left, bound + 1 => by
      have hnext (join : Expression → Expression → Expression) :
          Composed true (do tierChain t stronger (join left (← stronger)) bound) :=
        .bind (.climb hstronger) fun right => tierChain_composed hstronger _ bound
      refine .bind (.climb currentKind_composed) fun kind => ?_
      split
      · exact .climb (.pure _)
      · next join _ =>
          refine .ite ?_ ?_
          · exact .bind (.climb .take) fun _ => .bind .descend fun _ => hnext join
          · exact .bind .descend fun _ => .bind (.climb .take) fun _ => hnext join

/-- Whatever nesting a chain of operators has entered is left behind the last of them. -/
lemma tiered_composed {operand : Parser Expression} (hoperand : Composed false operand) :
    ∀ ts : List Tier, Composed false (tiered operand ts)
  | [] => hoperand
  | t :: ts => by
      rw [tiered_cons]
      have hstronger := tiered_composed hoperand ts
      exact .restoring (.bind (.climb hstronger) fun first => .bind (.climb .remaining) fun _ =>
        tierChain_composed hstronger first _)

lemma single_composed (s : Statement) : Composed false (single s) :=
  Composed.take.bind fun _ => endStatement_composed.bind fun _ => .pure _

/-- The rules that smaller phrases are read with are composed, and leave no nesting entered. -/
structure Tidy (deeper : Level) : Prop where
  statement : Composed false deeper.statement
  expression : Composed false deeper.expression
  operand : Composed false deeper.operand
  construction : Composed false deeper.construction

namespace Tidy

variable {deeper : Level} (h : Tidy deeper)

include h

/-! ## Expressions -/

lemma arguments_composed : Composed false (arguments deeper) :=
  (expect_composed _).bind fun _ => Composed.remaining.bind fun _ =>
    (commaList_composed h.expression _ _).bind fun _ => (expect_composed _).bind fun _ => .pure _

lemma block_composed : Composed false (block deeper) :=
  (expect_composed _).bind fun _ => Composed.remaining.bind fun _ =>
    (sequence_composed h.statement _ _).bind fun _ => (expect_composed _).bind fun _ => .pure _

lemma functionRest_composed (name : Option String) : Composed false (functionRest deeper name) := by
  have hrest (parameters : List String) : Composed false (do
      expect .rightParen
      return (⟨name, parameters, ← block deeper⟩ : FunctionLiteral)) :=
    (expect_composed _).bind fun _ => .answer h.block_composed
  refine (expect_composed _).bind fun _ => (sees_composed _).bind fun _ => .ite ?_ ?_
  · exact (Composed.pure _).bind hrest
  · exact Composed.remaining.bind fun _ => (commaChain_composed expectName_composed _).bind hrest

lemma arrayLiteral_composed : Composed false (arrayLiteral deeper) :=
  Composed.take.bind fun _ => Composed.remaining.bind fun _ =>
    (commaList_composed h.expression _ _).bind fun _ => (expect_composed _).bind fun _ => .pure _

lemma property_composed : Composed false (property deeper) := by
  refine expectProperty_composed.bind fun key => (accept_composed _).bind fun _ => .ite ?_ ?_
  · exact .answer h.expression
  · exact (sees_composed _).bind fun _ => .ite (.answer (h.functionRest_composed _)) (.pure _)

lemma objectLiteral_composed : Composed false (objectLiteral deeper) :=
  Composed.take.bind fun _ => Composed.remaining.bind fun _ =>
    (commaList_composed h.property_composed _ _).bind fun _ => (expect_composed _).bind fun _ => .pure _

lemma primary_composed : Composed false (primary deeper) := by
  refine currentKind_composed.bind fun kind => ?_
  split
  case h_8 =>
    exact Composed.take.bind fun _ => h.expression.bind fun _ => (expect_composed _).bind fun _ => .pure _
  case h_9 => exact h.arrayLiteral_composed
  case h_10 => exact h.objectLiteral_composed
  case h_11 =>
    refine Composed.take.bind fun _ => currentKind_composed.bind fun kind => ?_
    split
    · exact Composed.take.bind fun _ => .answer (h.functionRest_composed _)
    · exact .answer (h.functionRest_composed _)
  case h_12 | h_13 => exact .fail _
  all_goals exact Composed.take.bind fun _ => .pure _

lemma access_composed (object : Expression) : Composed false (access deeper object) := by
  refine (accept_composed _).bind fun _ => .ite (.answer expectProperty_composed) ?_
  exact (expect_composed _).bind fun _ => h.expression.bind fun _ => (expect_composed _).bind
    fun _ => .pure _

/-- Each access is one level deeper than the one before. -/
lemma accesses_composed : ∀ (object : Expression) (bound : Nat),
    Composed true (accesses deeper object bound)
  | _, 0 => .climb (.fail _)
  | object, bound + 1 => by
      have hround : Composed true (do descend; accesses deeper (← access deeper object) bound) :=
        .bind .descend fun _ => .bind (.climb (h.access_composed object)) fun next =>
          accesses_composed next bound
      refine .bind (.climb currentKind_composed) fun kind => ?_
      split
      · exact hround
      · exact hround
      · exact .climb (.pure _)

/-- Each access or call is one level deeper than the one before. -/
lemma links_composed : ∀ (object : Expression) (bound : Nat), Composed true (links deeper object bound)
  | _, 0 => .climb (.fail _)
  | object, bound + 1 => by
      have hround : Composed true (do descend; links deeper (← access deeper object) bound) :=
        .bind .descend fun _ => .bind (.climb (h.access_composed object)) fun next =>
          links_composed next bound
      refine .bind (.climb currentKind_composed) fun kind => ?_
      split
      · exact hround
      · exact hround
      · exact .bind .descend fun _ => .bind (.climb .current) fun token =>
          .bind (.climb h.arguments_composed) fun _ => links_composed _ bound
      · exact .climb (.pure _)

omit h in
/-- The constructor of a construction, with the accesses behind it. -/
lemma construction_eq : Script.construction deeper = (do
    take
    let callee ← restoring ((currentKind >>= fun kind =>
      if kind = .keyword .newWord then deeper.construction else primary deeper) >>= fun first =>
        remaining >>= fun bound => accesses deeper first (bound + 1))
    if ← sees .leftParen then return .construct callee (← arguments deeper)
    return .construct callee []) := by
  unfold Script.construction
  simp only [restoring, bind_assoc, pure_bind]
  refine bind_congr fun _ => bind_congr fun mark => bind_congr fun kind => ?_
  split <;> rfl

lemma construction_composed : Composed false (Script.construction deeper) := by
  rw [construction_eq]
  refine Composed.take.bind fun _ => .bind (.restoring ?_) fun callee => ?_
  · refine .bind (.climb (currentKind_composed.bind fun _ => ?_)) fun first =>
      .bind (.climb .remaining) fun _ => h.accesses_composed first _
    exact .ite h.construction h.primary_composed
  · exact (sees_composed _).bind fun _ => .ite (.answer h.arguments_composed) (.pure _)

lemma linked_composed : Composed false (linked deeper) := by
  rw [linked_eq]
  refine .restoring (.bind (.climb ?_) fun first => .bind (.climb .remaining) fun _ =>
    h.links_composed first _)
  exact currentKind_composed.bind fun _ => .ite h.construction_composed h.primary_composed

lemma updated_composed : Composed false (updated deeper) := by
  refine h.linked_composed.bind fun target => Composed.current.bind fun token => ?_
  split
  · exact .ite (.pure _) (.checked (Composed.take.bind fun _ => .pure _))
  · exact .pure _

lemma operand_composed : Composed false (Script.operand deeper) := by
  refine currentKind_composed.bind fun kind => ?_
  split
  · refine Composed.take.bind fun _ => h.operand.bind fun target => .ite ?_ (.pure _)
    exact (Composed.failBehind _).bind fun _ => .pure _
  · split
    · exact Composed.take.bind fun _ => .answer h.operand
    · exact h.updated_composed

lemma conditional_composed : Composed false (conditional deeper) := by
  refine (tiered_composed h.operand_composed _).bind fun test => (accept_composed _).bind fun _ => ?_
  refine .ite (h.expression.bind fun yes => ?_) (.pure _)
  exact (expect_composed _).bind fun _ => .answer h.expression

lemma assignment_composed : Composed false (assignment deeper) := by
  refine h.conditional_composed.bind fun target => currentKind_composed.bind fun kind => ?_
  split
  · exact .pure _
  · exact .checked (Composed.take.bind fun _ => .answer h.expression)

/-! ## Statements -/

lemma declarator_composed (kind : VariableKind) : Composed false (declarator deeper kind) := by
  refine expectName_composed.bind fun name => (accept_composed _).bind fun _ => ?_
  exact .ite (.answer h.expression) (.checked (.pure _))

lemma declaration_composed (kind : VariableKind) : Composed false (declaration deeper kind) :=
  Composed.take.bind fun _ => Composed.remaining.bind fun _ =>
    .answer (commaChain_composed (h.declarator_composed kind) _)

lemma condition_composed : Composed false (condition deeper) :=
  (expect_composed _).bind fun _ => h.expression.bind fun _ => (expect_composed _).bind fun _ => .pure _

lemma optionalUpTo_composed (close : Mark) : Composed false (optionalUpTo deeper close) := by
  have hclose (answer : Option Expression) : Composed false (do expect close; return answer) :=
    (expect_composed _).bind fun _ => .pure _
  refine (sees_composed _).bind fun _ => .ite ((Composed.pure _).bind hclose) ?_
  exact h.expression.map.bind hclose

lemma loopStart_composed : Composed false (loopStart deeper) := by
  refine currentKind_composed.bind fun kind => .ite (.pure _) ?_
  split
  · exact (h.declaration_composed _).map
  · exact .answer h.expression

lemma forLoop_composed : Composed false (forLoop deeper) :=
  Composed.take.bind fun _ => (expect_composed _).bind fun _ => h.loopStart_composed.bind fun _ =>
    (expect_composed _).bind fun _ => (h.optionalUpTo_composed _).bind fun _ =>
      (h.optionalUpTo_composed _).bind fun _ => .answer h.statement

lemma choice_composed : Composed false (choice deeper) := by
  refine Composed.take.bind fun _ => h.condition_composed.bind fun test => h.statement.bind fun yes => ?_
  exact (acceptWord_composed _).bind fun _ => .ite (.answer h.statement) (.pure _)

lemma handler_composed : Composed false (handler deeper) := by
  have hrest (parameter : Option String) : Composed false (do
      return some (⟨parameter, ← block deeper⟩ : CatchClause)) := .answer h.block_composed
  refine (acceptWord_composed _).bind fun _ => .ite ((accept_composed _).bind fun _ => ?_) (.pure _)
  refine .ite (expectName_composed.bind fun name => (expect_composed _).bind fun _ => ?_) ?_
  · exact (Composed.pure _).bind hrest
  · exact (Composed.pure _).bind hrest

lemma attempt_composed : Composed false (attempt deeper) := by
  refine Composed.take.bind fun _ => h.block_composed.bind fun body => ?_
  refine h.handler_composed.bind fun caught => (acceptWord_composed _).bind fun _ => ?_
  have hrest (finalizer : Option (List Statement)) : Composed false (do
      if caught.isNone && finalizer.isNone then fail .attemptWithoutHandler
      return Statement.attempt body caught finalizer) :=
    .checked (.pure _)
  exact .ite (h.block_composed.map.bind hrest) ((Composed.pure _).bind hrest)

lemma statement_composed : Composed false (Script.statement deeper) := by
  refine currentKind_composed.bind fun kind => ?_
  split
  · exact (h.declaration_composed _).bind fun _ => endStatement_composed.bind fun _ => .pure _
  split
  case h_1 =>
    exact Composed.take.bind fun _ => expectName_composed.bind fun _ => .answer (h.functionRest_composed _)
  case h_2 => exact h.choice_composed
  case h_3 => exact Composed.take.bind fun _ => h.condition_composed.bind fun _ => .answer h.statement
  case h_4 => exact h.forLoop_composed
  case h_5 =>
    have hrest (value : Option Expression) :
        Composed false (do endStatement; return Statement.returnValue value) :=
      endStatement_composed.bind fun _ => .pure _
    refine Composed.take.bind fun _ => atStatementEnd_composed.bind fun _ => ?_
    exact .ite ((Composed.pure _).bind hrest) (h.expression.map.bind hrest)
  case h_6 | h_7 => exact single_composed _
  case h_8 =>
    refine Composed.take.bind fun _ => Composed.current.bind fun _ => .checked ?_
    exact h.expression.bind fun _ => endStatement_composed.bind fun _ => .pure _
  case h_9 => exact h.attempt_composed
  case h_10 => exact .answer h.block_composed
  case h_11 => exact Composed.take.bind fun _ => .pure _
  case h_12 => exact h.expression.bind fun _ => endStatement_composed.bind fun _ => .pure _

end Tidy

/-! ## Levels -/

/-- At the lowest level everything is refused; at every other one the rules are one level deeper. -/
lemma level_tidy : ∀ n, Tidy (level n)
  | 0 => ⟨.fail _, .fail _, .fail _, .fail _⟩
  | n + 1 =>
    have h := level_tidy n
    ⟨nested_composed h.statement_composed, nested_composed h.assignment_composed,
      nested_composed h.operand_composed, nested_composed h.construction_composed⟩

lemma program_composed : Composed false program :=
  Composed.remaining.bind fun _ => sequence_composed (level_tidy _).statement _ _

/-! ## Rules and lists -/

section Rules

variable {α : Type} {deeper : Level}

/-- The rule is the step into a level of nesting, which is there to leave it entered. -/
def IsDescent (rule : Parser α) : Prop := ∃ h : α = Unit, h ▸ rule = descend

variable (h : Tidy deeper)

include h

/-- Every rule but the step into a level leaves what it enters. -/
lemma Tidy.rule_composed {seen : Bool} {rule : Parser α} (hrule : IsRule deeper seen rule)
    (hdescent : ¬ IsDescent rule) : Composed false rule := by
  cases hrule with
  | descend => exact absurd ⟨rfl, rfl⟩ hdescent
  | statement => exact h.statement
  | expression => exact h.expression
  | operand => exact h.operand
  | construction => exact h.construction
  | take => exact .take
  | accept m => exact accept_composed m
  | acceptWord k => exact acceptWord_composed k
  | expect m => exact expect_composed m
  | expectName => exact expectName_composed
  | expectProperty => exact expectProperty_composed
  | atStatementEnd => exact atStatementEnd_composed
  | endStatement => exact endStatement_composed
  | arguments => exact h.arguments_composed
  | block => exact h.block_composed
  | functionRest name => exact h.functionRest_composed name
  | arrayLiteral => exact h.arrayLiteral_composed
  | property => exact h.property_composed
  | objectLiteral => exact h.objectLiteral_composed
  | primary => exact h.primary_composed
  | access object => exact h.access_composed object
  | constructed => exact h.construction_composed
  | linked => exact h.linked_composed
  | updated => exact h.updated_composed
  | prefixed => exact h.operand_composed
  | tiered _ => exact tiered_composed h.operand_composed _
  | conditional => exact h.conditional_composed
  | assignment => exact h.assignment_composed
  | declarator kind => exact h.declarator_composed kind
  | declaration kind => exact h.declaration_composed kind
  | condition => exact h.condition_composed
  | optionalUpTo close => exact h.optionalUpTo_composed close
  | loopStart => exact h.loopStart_composed
  | forLoop => exact h.forLoop_composed
  | choice => exact h.choice_composed
  | handler => exact h.handler_composed
  | attempt => exact h.attempt_composed
  | single s => exact single_composed s
  | anyStatement => exact h.statement_composed

lemma Tidy.rule_climbs {seen : Bool} {rule : Parser α} (hrule : IsRule deeper seen rule) :
    Composed true rule := by
  by_cases hdescent : IsDescent rule
  · obtain ⟨rfl, rfl⟩ := hdescent
    exact .descend
  · exact .climb (h.rule_composed hrule hdescent)

/-- Chains of accesses, calls or operators may leave nesting entered; other lists do not. -/
lemma Tidy.loop_composed {loop : Nat → Parser α} (hloop : IsLoop deeper loop) (bound : Nat) :
    Composed true (loop bound) := by
  cases hloop with
  | arguments | elements => exact .climb (commaList_composed h.expression _ bound)
  | properties => exact .climb (commaList_composed h.property_composed _ bound)
  | parameters => exact .climb (commaChain_composed expectName_composed bound)
  | declarators kind => exact .climb (commaChain_composed (h.declarator_composed kind) bound)
  | statements braced => exact .climb (sequence_composed h.statement braced bound)
  | accesses object => exact h.accesses_composed object bound
  | links object => exact h.links_composed object bound
  | operators left _ =>
      exact tierChain_composed (tiered_composed h.operand_composed _) left bound

end Rules

end Parser

end ModuleRunner.Script
