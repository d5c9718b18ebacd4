import ModuleRunner.Proofs.Lexing.Layout
import ModuleRunner.Proofs.Parsing.Progress

/-!
# The parser comes to an end

A reader hands out tokens one by one, and the parser asks it for another one whenever it takes the one
ahead.  It never asks for a token behind the end of input, so over a text it asks for as many as the text
has at most, whether the text is a program or not.

No list says by itself that it has to stop at the end of the text.  What makes it stop is that each round
takes a token: a list that goes on for as many rounds as it is allowed is as many tokens further on, and
no list is allowed fewer rounds than there are tokens.

* `IsRule`, `IsLoop` — the rules of the grammar, and the lists and chains in them.
* `Inside`, `Forwards` — runs that go on and not beyond the end of input.
* `rule_forwards`, `loop_forwards`, `program_forwards` — the rules of every level, the lists in them, and
  whole texts go forwards.
* `asked` — how many tokens parsing a text asks for.
* `parse_terminates` — the rules and the lists of every level go forwards, and no list is cut off.
-/

namespace ModuleRunner.Script

namespace Parser

variable {α : Type}

/-! ## Rules and lists -/

/-- The rules of the grammar, over those that smaller phrases are read with.  A rule that is `seen` to
apply is called only where the token ahead has been looked at, and takes it without looking again. -/
inductive IsRule (deeper : Level) : {α : Type} → (seen : Bool) → Parser α → Prop
  | statement : IsRule deeper false deeper.statement
  | expression : IsRule deeper false deeper.expression
  | operand : IsRule deeper false deeper.operand
  | construction : IsRule deeper true deeper.construction
  | take : IsRule deeper true take
  | descend : IsRule deeper false descend
  | accept (m : Mark) : IsRule deeper false (accept m)
  | acceptWord (k : Keyword) : IsRule deeper false (acceptWord k)
  | expect (m : Mark) : IsRule deeper false (expect m)
  | expectName : IsRule deeper false expectName
  | expectProperty : IsRule deeper false expectProperty
  | atStatementEnd : IsRule deeper false atStatementEnd
  | endStatement : IsRule deeper false endStatement
  | arguments : IsRule deeper false (arguments deeper)
  | block : IsRule deeper false (block deeper)
  | functionRest (name : Option String) : IsRule deeper false (functionRest deeper name)
  | arrayLiteral : IsRule deeper true (arrayLiteral deeper)
  | property : IsRule deeper false (property deeper)
  | objectLiteral : IsRule deeper true (objectLiteral deeper)
  | primary : IsRule deeper false (primary deeper)
  | access (object : Expression) : IsRule deeper false (access deeper object)
  | constructed : IsRule deeper true (Script.construction deeper)
  | linked : IsRule deeper false (linked deeper)
  | updated : IsRule deeper false (updated deeper)
  | prefixed : IsRule deeper false (Script.operand deeper)
  | tiered {ts : List Tier} : ts <:+ tiers →
      IsRule deeper false (tiered (Script.operand deeper) ts)
  | conditional : IsRule deeper false (conditional deeper)
  | assignment : IsRule deeper false (assignment deeper)
  | declarator (kind : VariableKind) : IsRule deeper false (declarator deeper kind)
  | declaration (kind : VariableKind) : IsRule deeper true (declaration deeper kind)
  | condition : IsRule deeper false (condition deeper)
  | optionalUpTo (close : Mark) : IsRule deeper false (optionalUpTo deeper close)
  | loopStart : IsRule deeper false (loopStart deeper)
  | forLoop : IsRule deeper true (forLoop deeper)
  | choice : IsRule deeper true (choice deeper)
  | handler : IsRule deeper false (handler deeper)
  | attempt : IsRule deeper true (attempt deeper)
  | single (s : Statement) : IsRule deeper true (single s)
  | anyStatement : IsRule deeper false (Script.statement deeper)

/-- The lists and chains in the rules, by the rounds that they are allowed. -/
inductive IsLoop (deeper : Level) : {α : Type} → (Nat → Parser α) → Prop
  | arguments : IsLoop deeper (commaList .rightParen deeper.expression)
  | elements : IsLoop deeper (commaList .rightBracket deeper.expression)
  | properties : IsLoop deeper (commaList .rightBrace (property deeper))
  | parameters : IsLoop deeper (commaChain expectName)
  | declarators (kind : VariableKind) : IsLoop deeper (commaChain (declarator deeper kind))
  | statements (braced : Bool) : IsLoop deeper (sequence braced deeper.statement)
  | accesses (object : Expression) : IsLoop deeper (accesses deeper object)
  | links (object : Expression) : IsLoop deeper (links deeper object)
  | operators {t : Tier} {ts : List Tier} (left : Expression) : t :: ts <:+ tiers →
      IsLoop deeper (tierChain t (tiered (Script.operand deeper) ts) left)

namespace Paced

variable {e : Nat} {deeper : Level} (h : Paced e deeper)

include h

lemma rule_inStep {seen : Bool} {rule : Parser α} (hrule : IsRule deeper seen rule) {n : Nat}
    (hn : seen = true → n < e) : ∃ Q, InStep e (e + 1) rule rule n Q := by
  cases hrule with
  | statement => exact ⟨_, h.statement n⟩
  | expression => exact ⟨_, h.expression n⟩
  | operand => exact ⟨_, h.operand n⟩
  | construction => exact ⟨_, h.construction n (hn rfl)⟩
  | take => exact ⟨_, take_inStep (hn rfl)⟩
  | descend => exact ⟨_, descend_inStep⟩
  | accept m => exact ⟨_, accept_inStep m⟩
  | acceptWord k => exact ⟨_, acceptWord_inStep k⟩
  | expect m => exact ⟨_, expect_inStep m⟩
  | expectName => exact ⟨_, expectName_inStep⟩
  | expectProperty => exact ⟨_, expectProperty_inStep⟩
  | atStatementEnd => exact ⟨_, atStatementEnd_inStep⟩
  | endStatement => exact ⟨_, endStatement_inStep⟩
  | arguments => exact ⟨_, h.arguments_inStep⟩
  | block => exact ⟨_, h.block_inStep⟩
  | functionRest name => exact ⟨_, h.functionRest_inStep name⟩
  | arrayLiteral => exact ⟨_, h.arrayLiteral_inStep (hn rfl)⟩
  | property => exact ⟨_, h.property_inStep⟩
  | objectLiteral => exact ⟨_, h.objectLiteral_inStep (hn rfl)⟩
  | primary => exact ⟨_, h.primary_inStep⟩
  | access object => exact ⟨_, h.access_inStep rfl⟩
  | constructed => exact ⟨_, h.construction_inStep (hn rfl)⟩
  | linked => exact ⟨_, h.linked_inStep⟩
  | updated => exact ⟨_, h.updated_inStep⟩
  | prefixed => exact ⟨_, h.operand_inStep⟩
  | tiered hts => exact ⟨_, tiered_inStep (fun _ => h.operand_inStep) n fun _ ht => hts.mem ht⟩
  | conditional => exact ⟨_, h.conditional_inStep⟩
  | assignment => exact ⟨_, h.assignment_inStep⟩
  | declarator kind => exact ⟨_, h.declarator_inStep kind⟩
  | declaration kind => exact ⟨_, h.declaration_inStep kind (hn rfl)⟩
  | condition => exact ⟨_, h.condition_inStep⟩
  | optionalUpTo close => exact ⟨_, h.optionalUpTo_inStep close⟩
  | loopStart => exact ⟨_, h.loopStart_inStep⟩
  | forLoop => exact ⟨_, h.forLoop_inStep (hn rfl)⟩
  | choice => exact ⟨_, h.choice_inStep (hn rfl)⟩
  | handler => exact ⟨_, h.handler_inStep⟩
  | attempt => exact ⟨_, h.attempt_inStep (hn rfl)⟩
  | single s => exact ⟨_, single_inStep s (hn rfl)⟩
  | anyStatement => exact ⟨_, h.statement_inStep⟩

lemma loop_inStep {loop : Nat → Parser α} (hloop : IsLoop deeper loop) (bound n : Nat) :
    ∃ Q, InStep e (n + bound) (loop bound) (loop bound) n Q := by
  cases hloop with
  | arguments => exact ⟨_, commaList_inStep h.expression _ bound n⟩
  | elements => exact ⟨_, commaList_inStep h.expression _ bound n⟩
  | properties => exact ⟨_, commaList_inStep (fun _ => h.property_inStep) _ bound n⟩
  | parameters => exact ⟨_, commaChain_inStep (g := id) (fun _ => expectName_inStep) bound n⟩
  | declarators kind => exact ⟨_, commaChain_inStep (fun _ => h.declarator_inStep kind) bound n⟩
  | statements braced => exact ⟨_, sequence_inStep h.statement braced bound n⟩
  | accesses object => exact ⟨_, h.accesses_inStep bound n rfl⟩
  | links object => exact ⟨_, h.links_inStep bound n rfl⟩
  | operators left hts =>
      obtain ⟨ht, hts⟩ := List.forall_mem_cons.mp fun _ => hts.mem
      exact ⟨_, tierChain_inStep ht (fun n => tiered_inStep (fun _ => h.operand_inStep) n hts)
        bound n rfl⟩

end Paced

/-! ## Runs over one text -/

/-- Where a run ends, with an answer or a refusal. -/
def halt : Except Refusal (α × Cursor) → Cursor
  | .ok (_, c) => c
  | .error refusal => refusal.cursor

/-- A cursor is not behind the end of input: every token before the one ahead is another one. -/
def Inside (text : Array Token) (c : Cursor) : Prop :=
  ∀ i, (text.getD i nowhere).kind = .endOfInput → c.taken ≤ i

/-- A run goes forwards from a cursor and not beyond the end of input. -/
structure Forwards (text : Array Token) (c : Cursor) (o : Except Refusal (α × Cursor)) : Prop where
  /-- No token is given back. -/
  onwards : c.taken ≤ (halt o).taken
  /-- No token behind the end of input is asked for. -/
  inside : Inside text (halt o)

section Runs

variable {text : Array Token} {e : Nat} {c : Cursor} {rule : Parser α} {Q : Nat → α → α → Prop}
  (htext : Parallel text text e) (hend : ∀ i, (text.getD i nowhere).kind = .endOfInput → e ≤ i)
  (hc : c.taken ≤ e)

include htext hend hc

/-- What goes in step with itself goes forwards, and is cut off late. -/
lemma InStep.forwards {limit : Nat} (h : InStep e limit rule rule c.taken Q) :
    Forwards text c (rule text c) ∧ (halt (rule text c)).taken ≤ e ∧
      ∀ refusal, rule text c = .error refusal → refusal.fault.cause = .stalled →
        limit ≤ refusal.cursor.taken := by
  have hrun := h text text c htext rfl hc
  generalize rule text c = o at hrun
  cases hrun with
  | answered hforwards hinside _ =>
      refine ⟨⟨hforwards, fun i hi => hinside.trans (hend i hi)⟩, hinside, ?_⟩
      rintro _ ⟨⟩
  | refused hforwards hinside _ hstalled =>
      refine ⟨⟨hforwards, fun i hi => hinside.trans (hend i hi)⟩, hinside, ?_⟩
      rintro _ ⟨⟩ hcause
      exact hstalled hcause

/-- What would be cut off behind the end of input only is never cut off. -/
lemma InStep.unstalled (h : InStep e (e + 1) rule rule c.taken Q) :
    ∀ refusal, rule text c = .error refusal → refusal.fault.cause ≠ .stalled := by
  intro refusal hrun hcause
  obtain ⟨-, hinside, hlate⟩ := h.forwards htext hend hc
  have hlimit := hlate refusal hrun hcause
  rw [hrun] at hinside
  exact absurd (hlimit.trans hinside) (Nat.not_succ_le_self e)

end Runs

/-- The end of input is the last token of a text and no other. -/
lemma exists_last (source : List Char) : ∃ e, (tokens source).length = e + 1 ∧
    ((tokens source).toArray.getD e nowhere).kind = .endOfInput ∧
    ∀ i, ((tokens source).toArray.getD i nowhere).kind = .endOfInput → e ≤ i := by
  obtain ⟨-, ⟨found, last, htokens, hlast, hfound, -⟩, -⟩ := tokens_laidOut source
  rw [htokens]
  refine ⟨found.length, by simp, by simpa using hlast, fun i hi => ?_⟩
  by_contra hless
  have hlength : i < found.length := by omega
  refine hfound found[i] (List.getElem_mem hlength) ?_
  simpa [hlength, Nat.lt_succ_of_lt hlength] using hi

/-- A text agrees with itself up to its last token. -/
lemma parallel_self {source : List Char} {e : Nat} (hlength : (tokens source).length = e + 1)
    (hlast : ((tokens source).toArray.getD e nowhere).kind = .endOfInput) :
    Parallel (tokens source).toArray (tokens source).toArray e :=
  ⟨rfl, by simp [hlength], fun _ _ => rfl, fun _ _ => rfl, by rw [hlast]; rfl⟩

section Texts

variable (source : List Char) {c : Cursor}

/-- A rule goes forwards and is not cut off. -/
lemma rule_forwards (n : Nat) {seen : Bool} {rule : Parser α} (hrule : IsRule (level n) seen rule)
    (hc : Inside (tokens source).toArray c)
    (hseen : seen = true → ((tokens source).toArray.getD c.taken nowhere).kind ≠ .endOfInput) :
    Forwards (tokens source).toArray c (rule (tokens source).toArray c) ∧
      ∀ refusal, rule (tokens source).toArray c = .error refusal → refusal.fault.cause ≠ .stalled := by
  obtain ⟨e, hlength, hlast, hend⟩ := exists_last source
  have htext := parallel_self hlength hlast
  have hahead : seen = true → c.taken < e := fun hs =>
    lt_of_le_of_ne (hc e hlast) fun heq => hseen hs (heq ▸ hlast)
  obtain ⟨_, hstep⟩ := (level_paced n).rule_inStep hrule hahead
  exact ⟨(hstep.forwards htext hend (hc e hlast)).1, hstep.unstalled htext hend (hc e hlast)⟩

/-- A list goes forwards, and has taken a token for each round that it was allowed if it is cut off. -/
lemma loop_forwards (n : Nat) {loop : Nat → Parser α} (hloop : IsLoop (level n) loop) (bound : Nat)
    (hc : Inside (tokens source).toArray c) :
    Forwards (tokens source).toArray c (loop bound (tokens source).toArray c) ∧
      ∀ refusal, loop bound (tokens source).toArray c = .error refusal →
        refusal.fault.cause = .stalled → c.taken + bound ≤ refusal.cursor.taken := by
  obtain ⟨e, hlength, hlast, hend⟩ := exists_last source
  obtain ⟨_, hstep⟩ := (level_paced n).loop_inStep hloop bound c.taken
  obtain ⟨hforwards, -, hlate⟩ := hstep.forwards (parallel_self hlength hlast) hend (hc e hlast)
  exact ⟨hforwards, hlate⟩

/-- A whole text is read forwards and not cut off. -/
lemma program_forwards :
    Forwards (tokens source).toArray ⟨0, 0⟩ (program (tokens source).toArray ⟨0, 0⟩) ∧
      ∀ refusal, program (tokens source).toArray ⟨0, 0⟩ = .error refusal →
        refusal.fault.cause ≠ .stalled := by
  obtain ⟨e, hlength, hlast, hend⟩ := exists_last source
  have htext := parallel_self hlength hlast
  have hstep := program_inStep (e := e)
  exact ⟨(hstep.forwards htext hend (Nat.zero_le e)).1, hstep.unstalled htext hend (Nat.zero_le e)⟩

end Texts

/-- The number of tokens that parsing a text asks a reader for: the one ahead at the start, and one more
for each that is taken. -/
def asked (source : String) : Nat :=
  (halt (program (tokens source.toList).toArray ⟨0, 0⟩)).taken + 1

/-- Parsing comes to an end on every text, program or not.  No list is cut off for having gone on for too
long.  No more tokens are asked for than the text has, and none behind the first end of input.  At every
level, a rule that starts inside the text never goes back, does not leave it, and is not cut off, and a
list takes a token in each round: if it goes on for all the rounds that it is allowed, it has taken as many
tokens. -/
theorem parse_terminates (source : String) :
    let text := (tokens source.toList).toArray
    (∀ fault, parse source = .error fault → fault.cause ≠ .stalled) ∧
    asked source ≤ (tokens source.toList).length ∧
    (∀ i, (text.getD i nowhere).kind = .endOfInput → asked source ≤ i + 1) ∧
    (∀ n {α : Type} (seen : Bool) (rule : Parser α) (c : Cursor), IsRule (level n) seen rule →
      Inside text c → (seen = true → (text.getD c.taken nowhere).kind ≠ .endOfInput) →
      Forwards text c (rule text c) ∧
        ∀ refusal, rule text c = .error refusal → refusal.fault.cause ≠ .stalled) ∧
    ∀ n {α : Type} (loop : Nat → Parser α) (bound : Nat) (c : Cursor), IsLoop (level n) loop →
      Inside text c → Forwards text c (loop bound text c) ∧
        ∀ refusal, loop bound text c = .error refusal → refusal.fault.cause = .stalled →
          c.taken + bound ≤ refusal.cursor.taken := by
  intro text
  obtain ⟨hforwards, hunstalled⟩ := program_forwards source.toList
  have hasked : ∀ i, (text.getD i nowhere).kind = .endOfInput → asked source ≤ i + 1 :=
    fun i hi => Nat.succ_le_succ (hforwards.inside i hi)
  obtain ⟨e, hlength, hlast, -⟩ := exists_last source.toList
  refine ⟨fun fault hfault => ?_, hlength ▸ hasked e hlast, hasked,
    fun n _ _ _ _ hrule hc hseen => rule_forwards source.toList n hrule hc hseen,
    fun n _ _ bound _ hloop hc => loop_forwards source.toList n hloop bound hc⟩
  rw [parse, parseTokens] at hfault
  split at hfault
  · cases hfault
  · next refusal hrun =>
      cases hfault
      exact hunstalled refusal hrun

/-- A list in a text that ends too early goes on for the one round that it is allowed, and has then taken
an item and a comma. -/
theorem parse_terminates_unclosed :
    asked "f(a, [" ≤ 6 ∧ ∃ refusal, commaList .rightParen (level 3).expression 1
        (tokens "f(a, [".toList).toArray ⟨2, 0⟩ = .error refusal ∧
      refusal.fault.cause = .stalled ∧ 2 + 1 ≤ refusal.cursor.taken := by
  obtain ⟨-, hasked, -, -, hloops⟩ := parse_terminates "f(a, ["
  have hlength : (tokens "f(a, [".toList).length = 6 := by decide +kernel
  refine ⟨hlength ▸ hasked, ?_⟩
  have hinside : Inside (tokens "f(a, [".toList).toArray ⟨2, 0⟩ := by
    intro i hi
    by_contra hless
    interval_cases i <;> revert hi <;> decide +kernel
  have hcut : (match commaList .rightParen (level 3).expression 1
      (tokens "f(a, [".toList).toArray ⟨2, 0⟩ with
    | .ok _ => false
    | .error refusal => refusal.fault.cause = .stalled) = true := by decide +kernel
  split at hcut
  · cases hcut
  · next refusal hrun =>
      have hcause := of_decide_eq_true hcut
      exact ⟨refusal, hrun, hcause, (hloops 3 _ 1 _ .arguments hinside).2 refusal hrun hcause⟩

end Parser

end ModuleRunner.Script
