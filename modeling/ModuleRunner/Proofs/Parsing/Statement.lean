import Mathlib.Tactic
import ModuleRunner.Proofs.Parsing.Rule
import ModuleRunner.Proofs.Script.Phrase

/-!
# How heavy statements are

A statement is as heavy as what its rule reads one level deeper, and a little more.  No statement has
a leading part, so that nothing here depends on what is left of the limit of nesting: whatever bounds
the parts bounds the statement around them, at the price of one phrase, or of two for a loop whose
start is a phrase of its own.

* `Parts` — a bound on what is read one level deeper.
* `arguments_yields`, `block_yields`, `functionRest_yields` — lists of parts, and functions.
* `statement_yields` — statements.
-/

namespace ModuleRunner.Script

namespace Parser

open Phrase

variable {tokens : Array Token} {l o : Nat}

/-- The expressions whose chains weigh at most so much. -/
abbrev Light (l o w : Nat) (e : Expression) : Prop := Within l o w (.expression e)

/-- What the rules one level deeper yield at a nesting: statements and expressions that weigh at most
so much. -/
structure Parts (tokens : Array Token) (l o w d : Nat) (deeper : Level) : Prop where
  statement : Yields tokens deeper.statement d fun s => Within l o w (.statement s)
  expression : Yields tokens deeper.expression d (Light l o w)

/-- A function, as an expression. -/
lemma light_function {literal : FunctionLiteral} {w : Nat}
    (hbody : ∀ s ∈ literal.body, Within l o w (.statement s)) : Light l o (w + o) (.function literal) :=
  .of_others rfl (List.forall_mem_map.mpr hbody) le_rfl

/-- A phrase around an operand. -/
lemma light_around {e : Expression} {answer : Phrase} {w w' : Nat} (hleading : answer.leading = [])
    (hothers : answer.others = [.expression e]) (he : Light l o w e) (hw : w + o ≤ w') :
    Within l o w' answer :=
  .of_others hleading (hothers ▸ List.forall_mem_singleton.mpr he) hw

section Parts

variable {deeper : Level} {w d : Nat} (h : Parts tokens l o w d deeper)

include h

lemma arguments_yields :
    Yields tokens (arguments deeper) d fun items => ∀ e ∈ items, Light l o w e :=
  (expect_yields _).bind fun _ _ => remaining_yields.bind fun _ _ =>
    (commaList_yields h.expression _ _).bind fun _ hitems => (expect_yields _).bind fun _ _ =>
      .pure hitems

lemma block_yields :
    Yields tokens (block deeper) d fun body => ∀ s ∈ body, Within l o w (.statement s) :=
  (expect_yields _).bind fun _ _ => remaining_yields.bind fun _ _ =>
    (sequence_yields h.statement _ _).bind fun _ hbody => (expect_yields _).bind fun _ _ =>
      .pure hbody

lemma functionRest_yields (name : Option String) :
    Yields tokens (functionRest deeper name) d fun literal =>
      ∀ s ∈ literal.body, Within l o w (.statement s) := by
  have hrest (parameters : List String) : Yields tokens (do
      expect .rightParen
      return (⟨name, parameters, ← block deeper⟩ : FunctionLiteral)) d fun literal =>
        ∀ s ∈ literal.body, Within l o w (.statement s) := by
    refine (expect_yields _).bind fun _ _ => (block_yields h).bind fun body hbody => .pure ?_
    exact hbody
  refine (expect_yields _).bind fun _ _ => (sees_yields _).bind fun _ _ => .ite (fun _ => ?_)
    fun _ => remaining_yields.bind fun _ _ => ?_
  · exact Yields.bind (P := fun _ => True) (.pure trivial) fun parameters _ => hrest parameters
  · exact (commaChain_yields expectName_yields _).bind fun parameters _ => hrest parameters

lemma declarator_yields (kind : VariableKind) :
    Yields tokens (declarator deeper kind) d fun declarator =>
      ∀ e ∈ declarator.value, Light l o w e := by
  refine expectName_yields.bind fun name _ => (accept_yields _).bind fun _ _ => .ite (fun _ => ?_)
    fun _ => .ite (fun _ => fail_bind_answers _) fun _ => .pure (by rintro e ⟨⟩)
  refine h.expression.bind fun e he => .pure ?_
  rintro _ ⟨⟩
  exact he

lemma declaration_yields (kind : VariableKind) :
    Yields tokens (declaration deeper kind) d fun s => Within l o (w + o) (.statement s) := by
  refine take_yields.bind fun _ _ => remaining_yields.bind fun _ _ => ?_
  refine (commaChain_yields (declarator_yields h kind) _).bind fun declarators hvalues => .pure ?_
  refine .of_others rfl (fun q hq => ?_) le_rfl
  obtain ⟨declarator, hmem, hq⟩ := List.mem_flatMap.mp hq
  obtain ⟨e, he, rfl⟩ := List.mem_map.mp hq
  exact hvalues declarator hmem e (Option.mem_toList.mp he)

lemma condition_yields : Yields tokens (condition deeper) d (Light l o w) :=
  (expect_yields _).bind fun _ _ => h.expression.bind fun _ htest => (expect_yields _).bind
    fun _ _ => .pure htest

lemma optionalUpTo_yields (close : Mark) :
    Yields tokens (optionalUpTo deeper close) d fun answer => ∀ e ∈ answer, Light l o w e := by
  have hrest (answer : Option Expression) (hanswer : ∀ e ∈ answer, Light l o w e) :
      Yields tokens (do expect close; return answer) d fun answer => ∀ e ∈ answer, Light l o w e :=
    (expect_yields _).bind fun _ _ => .pure hanswer
  exact (sees_yields _).bind fun _ _ => .ite (fun _ => .none_bind hrest)
    fun _ => .some_bind h.expression hrest

lemma loopStart_yields :
    Yields tokens (loopStart deeper) d fun start =>
      ∀ s ∈ start, Within l o (w + o) (.statement s) := by
  refine currentKind_yields.bind fun kind _ => .ite (fun _ => .pure (by rintro s ⟨⟩)) fun _ => ?_
  split
  · refine .map ((declaration_yields h _).imp fun s hs => ?_)
    rintro _ ⟨⟩
    exact hs
  · refine h.expression.bind fun e he => .pure ?_
    rintro _ ⟨⟩
    exact .of_others rfl (List.forall_mem_singleton.mpr he) le_rfl

lemma forLoop_yields :
    Yields tokens (forLoop deeper) d fun s => Within l o (w + 2 * o) (.statement s) := by
  refine take_yields.bind fun _ _ => (expect_yields _).bind fun _ _ => ?_
  refine (loopStart_yields h).bind fun start hstart => (expect_yields _).bind fun _ _ => ?_
  refine (optionalUpTo_yields h _).bind fun test htest => ?_
  refine (optionalUpTo_yields h _).bind fun update hupdate => ?_
  refine h.statement.bind fun body hbody => .pure ?_
  refine .of_others (r := w + o) rfl ?_ (by omega)
  simp only [others, othersOfStatement, List.forall_mem_append, List.forall_mem_map,
    Option.mem_toList, List.forall_mem_singleton]
  exact ⟨⟨⟨hstart, fun e he => (htest e he).mono (Nat.le_add_right _ _)⟩,
    fun e he => (hupdate e he).mono (Nat.le_add_right _ _)⟩, hbody.mono (Nat.le_add_right _ _)⟩

lemma choice_yields :
    Yields tokens (choice deeper) d fun s => Within l o (w + o) (.statement s) := by
  refine take_yields.bind fun _ _ => (condition_yields h).bind fun test htest => ?_
  refine h.statement.bind fun yes hyes => (acceptWord_yields _).bind fun _ _ => .ite
    (fun _ => h.statement.bind fun no hno => .pure ?_) fun _ => .pure ?_
  · refine .of_others rfl (List.forall_mem_cons.mpr ⟨htest, ?_⟩) le_rfl
    exact List.forall_mem_cons.mpr ⟨hyes, List.forall_mem_singleton.mpr hno⟩
  · refine .of_others rfl (List.forall_mem_cons.mpr ⟨htest, ?_⟩) le_rfl
    exact List.forall_mem_singleton.mpr hyes

lemma handler_yields :
    Yields tokens (handler deeper) d fun clause =>
      ∀ c ∈ clause, ∀ s ∈ c.body, Within l o w (.statement s) := by
  have hrest (parameter : Option String) :
      Yields tokens (do return some (⟨parameter, ← block deeper⟩ : CatchClause)) d fun clause =>
        ∀ c ∈ clause, ∀ s ∈ c.body, Within l o w (.statement s) := by
    refine (block_yields h).bind fun body hbody => .pure ?_
    rintro _ ⟨⟩
    exact hbody
  refine (acceptWord_yields _).bind fun _ _ => .ite (fun _ => ?_) fun _ => .pure (by rintro c ⟨⟩)
  refine (accept_yields _).bind fun _ _ => .ite (fun _ => ?_) fun _ => ?_
  · refine expectName_yields.bind fun name _ => (expect_yields _).bind fun _ _ => ?_
    exact Yields.bind (P := fun _ => True) (.pure trivial) fun parameter _ => hrest parameter
  · exact Yields.bind (P := fun _ => True) (.pure trivial) fun parameter _ => hrest parameter

lemma attempt_yields :
    Yields tokens (attempt deeper) d fun s => Within l o (w + o) (.statement s) := by
  refine take_yields.bind fun _ _ => (block_yields h).bind fun body hbody => ?_
  refine (handler_yields h).bind fun caught hcaught => (acceptWord_yields _).bind fun _ _ => ?_
  have hrest (finalizer : Option (List Statement)) (hfinalizer : ∀ body ∈ finalizer, ∀ s ∈ body,
      Within l o w (.statement s)) :
      Yields tokens (do
        if caught.isNone && finalizer.isNone then fail .attemptWithoutHandler
        return .attempt body caught finalizer) d fun s => Within l o (w + o) (.statement s) := by
    refine .ite (fun _ => fail_bind_answers _) fun _ => .pure (.of_others rfl ?_ le_rfl)
    simp only [others, othersOfStatement, List.forall_mem_append, List.forall_mem_flatMap,
      List.forall_mem_map, Option.mem_toList]
    exact ⟨⟨hbody, hcaught⟩, hfinalizer⟩
  exact .ite (fun _ => .some_bind (block_yields h) hrest) fun _ => .none_bind hrest

omit h in
lemma single_yields {w : Nat} {s : Statement} (hs : Within l o w (.statement s)) :
    Yields tokens (single s) d fun s => Within l o w (.statement s) :=
  take_yields.bind fun _ _ => endStatement_yields.bind fun _ _ => .pure hs

lemma statement_yields :
    Yields tokens (statement deeper) d fun s => Within l o (w + 2 * o) (.statement s) := by
  refine currentKind_yields.bind fun kind _ => ?_
  split
  · refine (declaration_yields h _).bind fun s hs => endStatement_yields.bind fun _ _ => .pure ?_
    exact hs.mono (by omega)
  split
  case h_1 =>
    refine take_yields.bind fun _ _ => expectName_yields.bind fun name _ => ?_
    refine (functionRest_yields h _).bind fun literal hbody => .pure ?_
    exact .of_others rfl (List.forall_mem_map.mpr hbody) (by omega)
  case h_2 => exact (choice_yields h).imp fun s hs => hs.mono (by omega)
  case h_3 =>
    refine take_yields.bind fun _ _ => (condition_yields h).bind fun test htest => ?_
    refine h.statement.bind fun body hbody => .pure ?_
    refine .of_others (r := w) rfl ?_ (by omega)
    exact List.forall_mem_cons.mpr ⟨htest, List.forall_mem_singleton.mpr hbody⟩
  case h_4 => exact forLoop_yields h
  case h_5 =>
    have hrest (value : Option Expression) (hvalue : ∀ e ∈ value, Light l o w e) :
        Yields tokens (do endStatement; return .returnValue value) d fun s =>
          Within l o (w + 2 * o) (.statement s) := by
      refine endStatement_yields.bind fun _ _ => .pure ?_
      refine .of_others (r := w) rfl (fun q hq => ?_) (by omega)
      obtain ⟨e, he, rfl⟩ := List.mem_map.mp hq
      exact hvalue e (Option.mem_toList.mp he)
    refine take_yields.bind fun _ _ => atStatementEnd_yields.bind fun _ _ => ?_
    exact .ite (fun _ => .none_bind hrest) fun _ => .some_bind h.expression hrest
  case h_6 | h_7 => exact single_yields (.of_leaf rfl rfl (by omega))
  case h_8 =>
    refine take_yields.bind fun _ _ => current_yields.bind fun t _ => ?_
    refine .ite (fun _ => fail_bind_answers _) fun _ => ?_
    exact h.expression.bind fun e he => endStatement_yields.bind fun _ _ =>
      .pure (light_around rfl rfl he (by omega))
  case h_9 => exact (attempt_yields h).imp fun s hs => hs.mono (by omega)
  case h_10 =>
    refine (block_yields h).bind fun body hbody => .pure ?_
    exact .of_others rfl (List.forall_mem_map.mpr hbody) (by omega)
  case h_11 => exact take_yields.bind fun _ _ => .pure (.of_leaf rfl rfl (by omega))
  case h_12 =>
    exact h.expression.bind fun e he => endStatement_yields.bind fun _ _ =>
      .pure (light_around rfl rfl he (by omega))

end Parts

end Parser

end ModuleRunner.Script
