import ModuleRunner.Proofs.Evaluation.Contract

/-!
# Contracts of evaluation

Each step of evaluation hands a contract on from the machine it is given.  The steps are taken in the
order in which evaluation is defined, one lemma for each function and one equation for each form of
its argument; the level of the machine is the only thing left to induct on.

* `Contract.evaluateStep`, `Contract.executeStep`, `Contract.callStep` — the three steps.
* `Contract.runBody` — the body of a module.
* `Contract.machine` — all levels, for a contract that loading hands on as well.
-/

namespace ModuleRunner.Evaluation

open Script

namespace Contract

variable {R : Realm} {P : (α : Type) → (α → Prop) → Run α → Prop} (h : Contract R P) {m : Machine}

include h

/-! ## Properties and targets -/

/-- A built-in method is made where there is no property of the name. -/
lemma member {object : Value} (hobject : R.value object) (key : String) :
    P Value R.value (member object key) := by
  unfold Evaluation.member
  dsimp only
  refine guarded ?_ fun found => h.bind (h.text _) fun _ _ =>
    h.bind (Q := fun _ => True) (h.fail trivial) fun _ _ => found
  refine h.bind (h.readHeap fun _ hheap => hheap.get key hobject) fun v hv => ?_
  split
  · split
    · next method hmethod => exact h.newFunction _ (native_builtinMethod hmethod)
    · exact h.pure hv
  · exact h.pure hv

lemma readTarget {scope : ScopeRef} (hscope : R.scope scope.index) :
    ∀ {target : Target}, R.target target → P Value R.value (target.read scope)
  | .name n, _ => h.lookup hscope n
  | .property _ key, hobject => h.member hobject key

lemma writeTarget (scope : ScopeRef) {v : Value} (hv : R.value v) :
    ∀ target : Target, P Unit (fun _ => True) (target.write scope v)
  | .name n => h.assign scope n hv
  | .property object key => by
      unfold Target.write
      dsimp only
      refine guarded ?_ fun written => h.bind (h.text _) fun _ _ =>
        h.bind (Q := fun _ => True) (h.fail trivial) fun _ _ => written
      exact h.bind (h.write _ _ hv) fun _ _ => h.pure trivial

lemma makeClosure {scope : ScopeRef} (hscope : R.scope scope.index) {literal : FunctionLiteral}
    (hliteral : R.allows literal.isTryless) : P Value R.value (makeClosure scope literal) := by
  unfold Evaluation.makeClosure
  split
  · exact h.newFunction _ ⟨hliteral, hscope⟩
  · exact h.bind (h.newScope hscope) fun own hown =>
      h.bind (h.newFunction _ ⟨hliteral, hown⟩) fun function hfunction =>
        h.bind (h.declare _ _ _ hfunction) fun _ _ => h.pure hfunction

/-! ## Expressions -/

section Expressions

variable (hm : m.Honours R P) (i : InterpreterRef) {scope : ScopeRef}
  (hscope : R.scope scope.index)

include hm hscope

lemma evaluateAll : ∀ {es : List Expression}, R.allows (allTryless es) →
    P (List Value) (fun values => ∀ v ∈ values, R.value v) (evaluateAll m i scope es)
  | [], _ => h.pure (by rintro v ⟨⟩)
  | e :: rest, hes => by
      rw [allTryless, Realm.allows_and] at hes
      refine h.bind (hm.evaluate i hscope hes.1) fun first hfirst =>
        h.bind (evaluateAll hes.2) fun values hvalues => h.pure fun v hmem => ?_
      rcases List.mem_cons.mp hmem with rfl | hmem
      · exact hfirst
      · exact hvalues v hmem

lemma evaluateProperties : ∀ {done : Table Value} {properties : List (String × Expression)},
    R.table done → R.allows (propertiesTryless properties) →
      P (Table Value) R.table (evaluateProperties m i scope done properties)
  | _, [], hdone, _ => h.pure hdone
  | _, (key, _) :: _, hdone, hproperties => by
      rw [propertiesTryless, Realm.allows_and] at hproperties
      exact h.bind (hm.evaluate i hscope hproperties.1) fun v hv =>
        evaluateProperties (Realm.table_put hdone key hv) hproperties.2

lemma evaluateKey {key : Expression} (hkey : R.allows key.isTryless) :
    P String (fun _ => True) (evaluateKey m i scope key) :=
  h.bind (hm.evaluate i hscope hkey) fun _ _ => h.text _

lemma evaluateTarget {e : Expression} (he : R.allows e.isTryless) :
    P Target R.target (evaluateTarget m i scope e) := by
  cases e
  case name n => exact h.pure trivial
  case member object key =>
      rw [Expression.isTryless] at he
      exact h.bind (hm.evaluate i hscope he) fun _ hv => h.pure hv
  case index object key =>
      rw [Expression.isTryless, Realm.allows_and] at he
      exact h.bind (hm.evaluate i hscope he.1) fun _ hv =>
        h.bind (h.evaluateKey hm i hscope he.2) fun _ _ => h.pure hv
  all_goals exact h.fail trivial

lemma evaluateUnary (op : UnaryOp) {operand : Expression} (hoperand : R.allows operand.isTryless) :
    P Value R.value (evaluateUnary m i scope op operand) := by
  unfold Evaluation.evaluateUnary
  split
  · exact h.bind (h.readAny _) fun _ _ => h.pure trivial
  · refine h.bind (hm.evaluate i hscope hoperand) fun v _ => ?_
    split
    · exact h.pure trivial
    · exact h.bind (h.number _) fun _ _ => h.pure trivial
    · exact h.bind (h.number _) fun _ _ => h.pure trivial
    · exact h.pure trivial

lemma evaluateUpdate (op : UpdateOp) (before : Bool) {target : Expression}
    (htarget : R.allows target.isTryless) :
    P Value R.value (evaluateUpdate m i scope op before target) :=
  h.bind (h.evaluateTarget hm i hscope htarget) fun _ hplace =>
    h.bind (h.readTarget hscope hplace) fun _ _ => h.bind (h.number _) fun _ _ =>
      h.bind (h.writeTarget scope (v := .number _) trivial _) fun _ _ => h.pure trivial

lemma evaluateAssign (op : AssignOp) {target value : Expression}
    (htarget : R.allows target.isTryless) (hvalue : R.allows value.isTryless) :
    P Value R.value (evaluateAssign m i scope op target value) := by
  refine h.bind (h.evaluateTarget hm i hscope htarget) fun place hplace => ?_
  have written {result : Value} (hresult : R.value result) :
      P Value R.value (do place.write scope result; return result) :=
    h.bind (h.writeTarget scope hresult _) fun _ _ => h.pure hresult
  dsimp only
  split
  · exact h.bind (hm.evaluate i hscope hvalue) fun _ => written
  · exact h.bind (h.readTarget hscope hplace) fun _ _ =>
      h.bind (hm.evaluate i hscope hvalue) fun _ _ => h.bind (h.binary _ _ _) fun _ => written

lemma evaluateCallee {callee : Expression} (hcallee : R.allows callee.isTryless) :
    P (Value × Value) (fun pair => R.value pair.1 ∧ R.value pair.2)
      (evaluateCallee m i scope callee) := by
  unfold Evaluation.evaluateCallee
  split
  · rw [Expression.isTryless] at hcallee
    exact h.bind (hm.evaluate i hscope hcallee) fun receiver hreceiver =>
      h.bind (h.member hreceiver _) fun _ hfunction => h.pure ⟨hfunction, hreceiver⟩
  · rw [Expression.isTryless, Realm.allows_and] at hcallee
    exact h.bind (hm.evaluate i hscope hcallee.1) fun receiver hreceiver =>
      h.bind (h.evaluateKey hm i hscope hcallee.2) fun _ _ =>
        h.bind (h.member hreceiver _) fun _ hfunction => h.pure ⟨hfunction, hreceiver⟩
  · exact h.bind (hm.evaluate i hscope hcallee) fun _ hfunction => h.pure ⟨hfunction, trivial⟩

lemma evaluateCall {callee : Expression} {arguments : List Expression}
    (hcallee : R.allows callee.isTryless) (harguments : R.allows (allTryless arguments)) :
    P Value R.value (evaluateCall m i scope callee arguments) := by
  refine h.bind (h.evaluateCallee hm i hscope hcallee) fun (function, receiver) hpair => ?_
  refine h.bind (h.evaluateAll hm i hscope harguments) fun values hvalues => ?_
  have called := hm.call i hpair.1 hpair.2 hvalues
  dsimp only
  split
  · exact h.bind (Q := fun _ => True) (h.fail trivial) fun _ _ => called
  · exact called

omit hscope in
lemma construct {function : Value} {arguments : List Value} (hfunction : R.value function)
    (harguments : ∀ v ∈ arguments, R.value v) : P Value R.value (construct m i function arguments) := by
  unfold Evaluation.construct
  split
  · refine h.bind (h.readAny _) fun cell _ => ?_
    split
    · exact hm.call i hfunction trivial harguments
    · refine h.bind (h.newObject Realm.table_nil) fun made hmade =>
        h.bind (hm.call i hfunction hmade harguments) fun result hresult => h.pure ?_
      split
      · exact hresult
      · exact hmade
  · exact h.fail trivial

lemma evaluateConstruct {callee : Expression} {arguments : List Expression}
    (hcallee : R.allows callee.isTryless) (harguments : R.allows (allTryless arguments)) :
    P Value R.value (evaluateConstruct m i scope callee arguments) := by
  refine h.bind (hm.evaluate i hscope hcallee) fun function hfunction => ?_
  refine h.bind (h.evaluateAll hm i hscope harguments) fun values hvalues => ?_
  have constructed := h.construct hm i hfunction hvalues
  dsimp only
  split
  · exact h.bind (Q := fun _ => True) (h.fail trivial) fun _ _ => constructed
  · exact constructed

/-- The step of evaluating an expression. -/
theorem evaluateStep {e : Expression} (he : R.allows e.isTryless) :
    P Value R.value (evaluateStep m i scope e) := by
  cases e with
  | number x => exact h.pure trivial
  | text s => exact h.pure trivial
  | boolean b => exact h.pure trivial
  | null => exact h.pure trivial
  | undefined => exact h.pure trivial
  | name n => exact h.lookup hscope n
  | receiver =>
      refine h.bind (h.readHeap (Q := fun found => ∀ v, found = some v → R.value v)
        fun _ hheap _ hfound => hheap.lookup hscope hfound) fun found hfound => h.pure ?_
      cases found with
      | none => trivial
      | some v => exact hfound v rfl
  | array elements =>
      rw [Expression.isTryless] at he
      exact h.bind (h.evaluateAll hm i hscope he) fun _ hvalues => h.newArray hvalues
  | object properties =>
      rw [Expression.isTryless] at he
      exact h.bind (h.evaluateProperties hm i hscope Realm.table_nil he) fun _ hmade =>
        h.newObject hmade
  | function literal =>
      rw [Expression.isTryless] at he
      exact h.makeClosure hscope he
  | unary op operand =>
      rw [Expression.isTryless] at he
      exact h.evaluateUnary hm i hscope op he
  | update op before target =>
      rw [Expression.isTryless] at he
      exact h.evaluateUpdate hm i hscope op before he
  | binary op left right =>
      rw [Expression.isTryless, Realm.allows_and] at he
      exact h.bind (hm.evaluate i hscope he.1) fun _ _ =>
        h.bind (hm.evaluate i hscope he.2) fun _ _ => h.binary op _ _
  | logical op left right =>
      rw [Expression.isTryless, Realm.allows_and] at he
      refine h.bind (hm.evaluate i hscope he.1) fun v hv => ?_
      have chosen (decided : Bool) :
          P Value R.value (if decided then return v else m.evaluate i scope right) := by
        split
        · exact h.pure hv
        · exact hm.evaluate i hscope he.2
      cases op with
      | and => exact chosen _
      | or => exact chosen _
  | conditional test yes no =>
      rw [Expression.isTryless, Realm.allows_and, Realm.allows_and] at he
      refine h.bind (hm.evaluate i hscope he.1.1) fun v _ => ?_
      split
      · exact hm.evaluate i hscope he.1.2
      · exact hm.evaluate i hscope he.2
  | assign op target value =>
      rw [Expression.isTryless, Realm.allows_and] at he
      exact h.evaluateAssign hm i hscope op he.1 he.2
  | member object key =>
      rw [Expression.isTryless] at he
      exact h.bind (hm.evaluate i hscope he) fun _ hv => h.member hv key
  | index object key =>
      rw [Expression.isTryless, Realm.allows_and] at he
      exact h.bind (hm.evaluate i hscope he.1) fun _ hv =>
        h.bind (h.evaluateKey hm i hscope he.2) fun _ _ => h.member hv _
  | call callee arguments _ =>
      rw [Expression.isTryless, Realm.allows_and] at he
      exact h.evaluateCall hm i hscope he.1 he.2
  | construct callee arguments =>
      rw [Expression.isTryless, Realm.allows_and] at he
      exact h.evaluateConstruct hm i hscope he.1 he.2

end Expressions

/-! ## Statements -/

lemma declareMissing (scope : ScopeRef) :
    ∀ names : List String, P Unit (fun _ => True) (declareMissing scope names)
  | [] => h.pure trivial
  | name :: rest => by
      have ih := declareMissing scope rest
      refine h.bind (h.readAny _) fun _ _ => ?_
      dsimp only
      split
      · exact h.bind (h.declare _ _ (v := .undefined) _ trivial) fun _ _ => ih
      · exact ih

lemma hoistVariables (scope : ScopeRef) (body : List Statement) :
    P Unit (fun _ => True) (hoistVariables scope body) := h.declareMissing scope _

lemma declareFunctions {scope : ScopeRef} (hscope : R.scope scope.index) :
    ∀ {literals : List FunctionLiteral}, (∀ literal ∈ literals, R.allows literal.isTryless) →
      P Unit (fun _ => True) (declareFunctions scope literals)
  | [], _ => h.pure trivial
  | literal :: rest, hliterals => by
      have hfirst := hliterals literal List.mem_cons_self
      refine h.bind (h.newFunction _ ⟨hfirst, hscope⟩) fun _ hfunction =>
        h.bind (h.declare _ _ _ hfunction) fun _ _ => declareFunctions hscope ?_
      exact fun other hmem => hliterals other (List.mem_cons_of_mem _ hmem)

lemma hoistFunctions {scope : ScopeRef} (hscope : R.scope scope.index) {body : List Statement}
    (hbody : R.allows (bodyIsTryless body)) :
    P Unit (fun _ => True) (hoistFunctions scope body) := by
  refine h.declareFunctions hscope fun literal hmem => ?_
  exact hbody.imp_right fun htryless => isTryless_of_mem_declaredFunctions htryless hmem

section Statements

variable (hm : m.Honours R P) (i : InterpreterRef)

include hm

lemma executeAll {scope : ScopeRef} (hscope : R.scope scope.index) :
    ∀ {body : List Statement}, R.allows (bodyIsTryless body) →
      P Completion R.completion (executeAll m i scope body)
  | [], _ => h.pure trivial
  | s :: rest, hbody => by
      rw [bodyIsTryless, Realm.allows_and] at hbody
      refine h.bind (hm.execute i hscope hbody.1) fun completion hcompletion => ?_
      cases completion with
      | normal => exact executeAll hscope hbody.2
      | returned v => exact h.pure hcompletion
      | broken => exact h.pure trivial
      | continued => exact h.pure trivial

lemma executeBlock {scope : ScopeRef} (hscope : R.scope scope.index) {body : List Statement}
    (hbody : R.allows (bodyIsTryless body)) :
    P Completion R.completion (executeBlock m i scope body) :=
  h.bind (h.newScope hscope) fun _ hown => h.bind (h.hoistFunctions hown hbody) fun _ _ =>
    h.executeAll hm i hown hbody

lemma declareAll {scope : ScopeRef} (hscope : R.scope scope.index) (kind : VariableKind) :
    ∀ {declarators : List Declarator}, R.allows (declaratorsTryless declarators) →
      P Unit (fun _ => True) (declareAll m i scope kind declarators)
  | [], _ => h.pure trivial
  | ⟨name, value⟩ :: rest, hdeclarators => by
      rw [declaratorsTryless, Realm.allows_and] at hdeclarators
      have ih := declareAll hscope kind hdeclarators.2
      unfold Evaluation.declareAll
      dsimp only
      split
      · exact h.bind (hm.evaluate i hscope hdeclarators.1) fun _ hv =>
          h.bind (h.assign _ _ hv) fun _ _ => ih
      · exact ih
      · exact h.bind (hm.evaluate i hscope hdeclarators.1) fun _ hv =>
          h.bind (h.declare _ _ _ hv) fun _ _ => ih
      · exact h.bind (h.declare _ _ (v := .undefined) _ trivial) fun _ _ => ih

lemma whileRounds {scope : ScopeRef} (hscope : R.scope scope.index) {test : Expression}
    {body : Statement} (htest : R.allows test.isTryless) (hbody : R.allows body.isTryless) :
    ∀ rounds : Nat, P Completion R.completion (whileRounds m i scope test body rounds)
  | 0 => h.exhausted
  | rounds + 1 => by
      have ih := whileRounds hscope htest hbody rounds
      refine h.bind (hm.evaluate i hscope htest) fun v _ => ?_
      split
      · refine h.bind (hm.execute i hscope hbody) fun completion hcompletion => ?_
        split
        · exact h.pure trivial
        · exact h.pure hcompletion
        · exact ih
      · exact h.pure trivial

lemma evaluateOption {scope : ScopeRef} (hscope : R.scope scope.index) :
    ∀ {e : Option Expression}, R.allows (optionTryless e) →
      P (Option Value) (fun found => R.value (found.getD .undefined)) (evaluateOption m i scope e)
  | none, _ => h.pure trivial
  | some _, he => h.bind (hm.evaluate i hscope he) fun _ hv => h.pure hv

lemma forRounds {scope : ScopeRef} (hscope : R.scope scope.index)
    {test update : Option Expression} {body : Statement} (htest : R.allows (optionTryless test))
    (hupdate : R.allows (optionTryless update)) (hbody : R.allows body.isTryless) :
    ∀ rounds : Nat, P Completion R.completion (forRounds m i scope test update body rounds)
  | 0 => h.exhausted
  | rounds + 1 => by
      have ih := forRounds hscope htest hupdate hbody rounds
      refine h.bind (h.evaluateOption hm i hscope htest) fun v _ => ?_
      split
      · refine h.bind (hm.execute i hscope hbody) fun completion hcompletion => ?_
        split
        · exact h.pure trivial
        · exact h.pure hcompletion
        · exact h.bind (h.evaluateOption hm i hscope hupdate) fun _ _ => ih
      · exact h.pure trivial

section Attempts

variable (hcatches : R.catches)

include hcatches

lemma executeHandler {scope : ScopeRef} (hscope : R.scope scope.index) (handler : CatchClause)
    {failure : Failure} (hfailure : R.failure failure) :
    P Completion R.completion (executeHandler m i scope handler failure) := by
  refine h.bind (h.newScope hscope) fun own hown => ?_
  have block : P Completion R.completion (Evaluation.executeBlock m i own handler.body) :=
    h.executeBlock hm i hown (.inl hcatches)
  dsimp only
  split
  · exact block
  · exact h.bind (h.withHeap fun _ hheap => hheap.caught hfailure) fun _ hv =>
      h.bind (h.declare _ _ _ hv) fun _ _ => block

lemma executeAttempt {scope : ScopeRef} (hscope : R.scope scope.index) (block : List Statement)
    (handler : Option CatchClause) (finalizer : Option (List Statement)) :
    P Completion R.completion (executeAttempt m i scope block handler finalizer) := by
  have run (body : List Statement) :
      P Completion R.completion (Evaluation.executeBlock m i scope body) :=
    h.executeBlock hm i hscope (.inl hcatches)
  refine h.bind (h.capture hcatches (run block)) fun first hfirst => ?_
  dsimp only
  split
  on_goal 1 =>
    refine h.bind (h.capture hcatches (h.executeHandler hm i hcatches hscope _ hfirst)) ?_
  on_goal 2 => refine h.bind (h.pure hfirst) ?_
  -- the final block runs in either case, and what it does counts before the outcome
  all_goals
    intro outcome houtcome
    split
    · exact h.ofExcept _ houtcome
    · refine h.bind (run _) fun completion hcompletion => ?_
      split
      · exact h.ofExcept _ houtcome
      · exact h.pure hcompletion

end Attempts

/-- The step of executing a statement. -/
theorem executeStep {scope : ScopeRef} (hscope : R.scope scope.index) {s : Statement}
    (hs : R.allows s.isTryless) : P Completion R.completion (executeStep m i scope s) := by
  cases s with
  | declaration kind declarators =>
      rw [Statement.isTryless] at hs
      exact h.bind (h.declareAll hm i hscope kind hs) fun _ _ => h.pure trivial
  | function literal => exact h.pure trivial
  | expression e =>
      rw [Statement.isTryless] at hs
      exact h.bind (hm.evaluate i hscope hs) fun _ _ => h.pure trivial
  | block body =>
      rw [Statement.isTryless] at hs
      exact h.executeBlock hm i hscope hs
  | conditional test yes no =>
      rw [Statement.isTryless, Realm.allows_and, Realm.allows_and] at hs
      refine h.bind (hm.evaluate i hscope hs.1.1) fun v _ => ?_
      split
      · exact hm.execute i hscope hs.1.2
      · cases no with
        | none => exact h.pure trivial
        | some s => exact hm.execute i hscope hs.2
  | whileLoop test body =>
      rw [Statement.isTryless, Realm.allows_and] at hs
      exact h.whileRounds hm i hscope hs.1 hs.2 _
  | forLoop start test update body =>
      rw [Statement.isTryless, Realm.allows_and, Realm.allows_and, Realm.allows_and] at hs
      obtain ⟨⟨⟨hstart, htest⟩, hupdate⟩, hbody⟩ := hs
      refine h.bind (h.newScope hscope) fun own hown => ?_
      have rounds := h.forRounds hm i hown htest hupdate hbody m.patience
      cases start with
      | none => exact rounds
      | some s => exact h.bind (hm.execute i hown hstart) fun _ _ => rounds
  | returnValue value =>
      rw [Statement.isTryless] at hs
      exact h.bind (h.evaluateOption hm i hscope hs) fun _ hv => h.pure hv
  | breakLoop => exact h.pure trivial
  | continueLoop => exact h.pure trivial
  | throwValue e =>
      rw [Statement.isTryless] at hs
      exact h.bind (hm.evaluate i hscope hs) fun _ hv => h.fail hv
  | attempt block handler finalizer =>
      rw [Statement.isTryless] at hs
      exact h.executeAttempt hm i (Realm.catches_of_allows hs) hscope block handler finalizer
  | empty => exact h.pure trivial

end Statements

/-! ## Source texts and functions -/

lemma parsed {source : String} (hsource : R.source source) :
    P (List Statement) (fun body => R.allows (bodyIsTryless body)) (parsed source) := by
  unfold Evaluation.parsed
  split
  · next body hbody => exact h.pure (hsource body hbody)
  · exact h.fail trivial

lemma compileFunction (i : InterpreterRef) (name : String) (parameters : List String)
    {source : String} (hsource : R.source source) :
    P Value R.value (compileFunction i name parameters source) :=
  h.bind (h.parsed hsource) fun _ hbody => h.bind (h.interpreter i) fun _ hglobals =>
    h.newFunction _ ⟨hbody, hglobals⟩

lemma requestedId (arguments : List Value) :
    P String (fun _ => True) (requestedId arguments) := by
  unfold Evaluation.requestedId
  split
  · exact h.pure trivial
  · exact h.fail trivial

lemma bindParameters (scope : ScopeRef) :
    ∀ (names : List String) {arguments : List Value}, (∀ v ∈ arguments, R.value v) →
      P Unit (fun _ => True) (bindParameters scope names arguments)
  | [], _, _ => h.pure trivial
  | _ :: rest, _, harguments =>
      h.bind (h.declare _ _ _ (value_argument harguments 0)) fun _ _ =>
        bindParameters scope rest fun v hmem => harguments v (List.mem_of_mem_drop hmem)

/-! ## Calls -/

section Calls

variable (hm : m.Honours R P) (i : InterpreterRef)

include hm

lemma runProgram {scope : ScopeRef} (hscope : R.scope scope.index) :
    ∀ {body : List Statement} {last : Value}, R.allows (bodyIsTryless body) → R.value last →
      P Value R.value (runProgram m i scope last body)
  | [], _, _, hlast => h.pure hlast
  | s :: rest, last, hbody, hlast => by
      rw [bodyIsTryless, Realm.allows_and] at hbody
      have ih {v : Value} (hv : R.value v) :
          P Value R.value (Evaluation.runProgram m i scope v rest) :=
        runProgram hscope hbody.2 hv
      unfold Evaluation.runProgram
      split
      case h_1 => exact h.pure hlast
      case h_2 heq =>
          cases heq
          exact h.bind (hm.evaluate i hscope hbody.1) fun _ hv => ih hv
      case h_3 heq =>
          cases heq
          refine h.bind (hm.execute i hscope hbody.1) fun completion hcompletion => ?_
          cases completion with
          | normal => exact ih hlast
          | returned v => exact h.pure hcompletion
          | broken => exact h.pure hlast
          | continued => exact h.pure hlast

/-- A source text in the global scope. -/
theorem evaluateSource {source : String} (hsource : R.source source) :
    P Value R.value (evaluateSource m i source) :=
  h.bind (h.parsed hsource) fun _ hbody => h.bind (h.interpreter i) fun _ hglobals =>
    h.bind (h.hoistVariables _ _) fun _ _ => h.bind (h.hoistFunctions hglobals hbody) fun _ _ =>
      h.runProgram hm i hglobals hbody trivial

lemma reflect {function : Reflection} (hnative : R.native (.reflection function))
    {receiver : Value} {arguments : List Value} (hreceiver : R.value receiver)
    (harguments : ∀ v ∈ arguments, R.value v) :
    P Value R.value (reflect m i function receiver arguments) := by
  have hargument (n : Nat) := value_argument harguments n
  have hrest (n : Nat) : ∀ v ∈ arguments.drop n, R.value v :=
    fun v hmem => harguments v (List.mem_of_mem_drop hmem)
  cases function with
  | fail => exact h.bind (h.text _) fun _ _ => h.fail trivial
  | apply => exact hm.call i (hargument 0) (hargument 1) (hrest 2)
  | construct => exact h.construct hm i (hargument 0) (hrest 1)
  | depth => exact h.bind (h.interpreter i) fun _ _ => h.pure trivial
  | global =>
      refine h.bind (h.text _) fun _ _ => h.bind (h.interpreter i) fun _ hglobals =>
        h.bind (h.readHeap (Q := fun found => ∀ v, found = some v → R.value v)
          fun _ hheap _ hfound => hheap.lookup hglobals hfound) fun found hfound => h.pure ?_
      cases found with
      | none => trivial
      | some v => exact hfound v rfl
  | evaluate =>
      exact h.bind (h.text _) fun _ _ =>
        h.evaluateSource hm i fun _ _ => .inl (R.evaluate hnative)
  | keys =>
      refine h.bind (h.readAny _) fun names _ => h.newArray fun v hmem => ?_
      obtain ⟨name, -, rfl⟩ := List.mem_map.mp hmem
      trivial
  | receiver => exact h.pure hreceiver

lemma invokeNative {native : Native} (hnative : R.native native) {receiver : Value}
    {arguments : List Value} (hreceiver : R.value receiver)
    (harguments : ∀ v ∈ arguments, R.value v) :
    P Value R.value (invokeNative m i native receiver arguments) := by
  cases native with
  | print level => exact h.print level hnative arguments
  | makeError name => exact h.makeError name arguments
  | arrayMethod method => exact h.arrayMethod method receiver harguments
  | textMethod method => exact h.textMethod method receiver arguments
  | require base => exact h.bind (h.requestedId arguments) fun _ _ => hm.load _ base
  | resolve base => exact h.bind (h.requestedId arguments) fun _ _ => h.pure trivial
  | reflection function => exact h.reflect hm i hnative hreceiver harguments

lemma invokeScript {literal : FunctionLiteral} (hliteral : R.allows literal.isTryless)
    {scope : ScopeRef} (hscope : R.scope scope.index) {receiver : Value} {arguments : List Value}
    (hreceiver : R.value receiver) (harguments : ∀ v ∈ arguments, R.value v) :
    P Value R.value (invokeScript m i literal scope receiver arguments) := by
  rw [FunctionLiteral.isTryless_eq] at hliteral
  refine h.bind (h.newScope hscope) fun frame hframe =>
    h.bind (h.declare _ _ _ hreceiver) fun _ _ =>
      h.bind (h.bindParameters _ _ harguments) fun _ _ => h.bind (h.hoistVariables _ _) fun _ _ =>
        h.bind (h.hoistFunctions hframe hliteral) fun _ _ =>
          h.bind (h.executeAll hm i hframe hliteral) fun completion hcompletion => ?_
  split
  · exact h.pure hcompletion
  · exact h.pure trivial

lemma invoke {function : FunctionRef} (hfunction : R.function function.index) {receiver : Value}
    {arguments : List Value} (hreceiver : R.value receiver)
    (harguments : ∀ v ∈ arguments, R.value v) :
    P Value R.value (invoke m i function receiver arguments) := by
  refine h.bind (h.readHeap (Q := R.functionCell) fun _ hheap =>
    hheap.functions.cell function.index hfunction) fun cell hcell => ?_
  have hcode := hcell.1
  split
  · next native heq =>
      rw [heq] at hcode
      exact h.invokeNative hm i hcode hreceiver harguments
  · next literal scope heq =>
      rw [heq] at hcode
      exact h.invokeScript hm i hcode.1 hcode.2 hreceiver harguments

/-- The step of calling a function. -/
theorem callStep {function receiver : Value} {arguments : List Value}
    (hfunction : R.value function) (hreceiver : R.value receiver)
    (harguments : ∀ v ∈ arguments, R.value v) :
    P Value R.value (callStep m i function receiver arguments) := by
  unfold Evaluation.callStep
  split
  · exact h.nested i (h.invoke hm i hfunction hreceiver harguments)
  · exact h.fail trivial

end Calls

/-! ## Module bodies and providers -/

lemma requireFunction (base : String) : P Value R.value (requireFunction base) :=
  h.bind (h.newFunction _ (R.require base)) fun _ hrequire =>
    h.bind (h.newFunction _ (R.resolve base)) fun _ hresolve =>
      h.bind (h.write _ _ hresolve) fun _ _ => h.pure hrequire

lemma exportsOf {record : Module.Record} (hrecord : R.object record.module.index) :
    P Value R.value (exportsOf record) :=
  h.readHeap fun _ hheap =>
    Realm.table_getD (hheap.objects.cell record.module.index hrecord) "exports"

/-- The body of a module, from its text to its end. -/
theorem runBody (hm : m.Honours R P) {record : Module.Record}
    (hrecord : R.object record.module.index) {resource : Module.Resource}
    (hsource : R.source resource.content) : P Unit (fun _ => True) (runBody m record resource) := by
  refine h.bind h.get fun _ _ => h.bind (h.compileFunction _ _ _ hsource) fun _ hbody =>
    h.bind (h.requireFunction _) fun _ hrequire =>
      h.bind (h.write _ _ (v := .object record.module) hrecord) fun _ _ =>
        h.bind (h.exportsOf hrecord) fun _ hexports =>
          h.bind (hm.call _ hbody hexports ?_) fun _ _ => h.pure trivial
  intro v hmem
  simp only [List.mem_cons, List.not_mem_nil, or_false] at hmem
  rcases hmem with rfl | rfl | rfl
  · exact hrequire
  · exact hrecord
  · exact hexports

section Providers

variable (hcapture : ∀ {α : Type} {Q : α → Prop} {x : Run α}, P α Q x →
  P (Except Failure α) (R.outcome Q) (Run.capture x))

include hcapture

lemma setExtras (value : Value) :
    ∀ extras : List (String × Json), P Unit (fun _ => True) (setExtras value extras)
  | [] => h.pure trivial
  | _ :: rest =>
      h.bind (h.withHeap fun _ hheap => hheap.ofJson _) fun _ hv =>
        h.bind (hcapture (h.write _ _ hv)) fun _ _ => setExtras value rest

omit hcapture in
lemma reported : ∀ {outcome : Except Failure Value}, R.outcome R.value outcome →
    P (Except String Value) (fun answer => ∀ v, answer = .ok v → R.value v) (reported outcome)
  | .ok _, houtcome => h.pure (by rintro _ ⟨⟩; exact houtcome)
  | .error _, _ =>
      h.bind (h.readAny _) fun _ _ => h.bind (h.anyOf _) fun _ _ => h.pure (by rintro _ ⟨⟩)

/-- What a provider does, however many modules it asks for. -/
theorem perform (hm : m.Honours R P) {act : ProviderAct} (hact : act.Within R.value) :
    P (Except String Value) (fun answer => ∀ v, answer = .ok v → R.value v) (perform m act) := by
  induction hact with
  | fail reason => exact h.pure (by rintro _ ⟨⟩)
  | give document extras =>
      refine h.bind (h.withHeap fun _ hheap => hheap.ofJson _) fun _ hv =>
        h.bind (h.setExtras hcapture _ _) fun _ _ => h.pure ?_
      rintro _ ⟨⟩
      exact hv
  | hand hv =>
      refine h.pure ?_
      rintro _ ⟨⟩
      exact hv
  | ask _ ih =>
      exact h.bind (hcapture (hm.load _ _)) fun _ houtcome =>
        h.bind (h.reported houtcome) fun answer hanswer => ih answer hanswer

end Providers

/-! ## Levels -/

/-- Every level of evaluation keeps to a contract that loading hands on as well. -/
theorem machine
    (hload : ∀ n, (Evaluation.machine n).Honours R P →
      ∀ request base, P Value R.value (loadStep (Evaluation.machine n) request base)) :
    ∀ n : Nat, (Evaluation.machine n).Honours R P
  | 0 =>
    { evaluate := fun _ _ _ _ _ => h.exhausted
      execute := fun _ _ _ _ _ => h.exhausted
      call := fun _ _ _ _ _ _ _ => h.exhausted
      load := fun _ _ => h.exhausted }
  | n + 1 =>
    have hm := machine hload n
    { evaluate := fun i _ _ hscope he => h.evaluateStep hm i hscope he
      execute := fun i _ _ hscope hs => h.executeStep hm i hscope hs
      call := fun i _ _ _ hfunction hreceiver harguments =>
        h.callStep hm i hfunction hreceiver harguments
      load := fun request base => hload n hm request base }

end Contract

end ModuleRunner.Evaluation
