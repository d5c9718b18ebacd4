import ModuleRunner.Evaluation.Loading
import ModuleRunner.Proofs.Evaluation.Regime

/-!
# Machines under a regime

Two machines are alike under a regime if they do the same with every phrase that may run, with every call
and with every load.  Each step of evaluation over the one comes to the same as over the other: what a
phrase evaluates are its parts, in its own scope or in one made for them, and what a call executes is the
body of a function in the heap.

* `Relates` — two machines that do the same under a regime.
* `Relates.evaluateStep`, `Relates.executeStep` — phrases.
* `Relates.callStep`, `Relates.loadStep` — calls and loads, if bodies are within the regime.
* `watchedMachines_related` — watched machines do the same, if their detours end the same runs, in time
  before names are bound that are not free.
* `watchedMachine_related` — a watched machine does the same as the one it watches, if no detour leads
  away from where phrases may run.
* `Machine.Same` — all that runs from a world on.
-/

namespace ModuleRunner.Evaluation

open Script ModuleRunner.Module Run

namespace Regime

/-- Two machines do the same under a regime. -/
structure Relates (R : Regime) (m m' : Machine) : Prop where
  patience : m.patience = m'.patience
  evaluate : ∀ {τ : R.Stage} (i : InterpreterRef) {scope : ScopeRef} {e : Expression},
    τ.Has scope → R.Code (.expression e) → Agree τ (m.evaluate i scope e) (m'.evaluate i scope e)
  execute : ∀ {τ : R.Stage} (i : InterpreterRef) {scope : ScopeRef} {s : Statement},
    τ.Has scope → R.Code (.statement s) → τ.Awaits scope s →
      Agree τ (m.execute i scope s) (m'.execute i scope s)
  call : ∀ {τ : R.Stage} (i : InterpreterRef) (function receiver : Value) (arguments : List Value),
    Agree τ (m.call i function receiver arguments) (m'.call i function receiver arguments)
  load : ∀ {τ : R.Stage} (request base : String), Agree τ (m.load request base) (m'.load request base)

namespace Relates

variable {R : Regime} {m m' : Machine} (hm : R.Relates m m') (i : InterpreterRef)

include hm

/-! ## Expressions -/

section Expressions

variable {scope : ScopeRef}

lemma evaluateAll : ∀ {es : List Expression} {τ : R.Stage}, τ.Has scope →
    (∀ e ∈ es, R.Code (.expression e)) →
      Agree τ (evaluateAll m i scope es) (evaluateAll m' i scope es)
  | [], _, _, _ => .done
  | _ :: _, _, hs, hes => by
      obtain ⟨he, hrest⟩ := List.forall_mem_cons.mp hes
      exact (hm.evaluate i hs he).andThen fun _ hle _ =>
        (evaluateAll (hs.mono hle) hrest).andThen fun _ _ _ => .done

lemma evaluateProperties : ∀ (done : Table Value) {properties : List (String × Expression)}
    {τ : R.Stage}, τ.Has scope → (∀ p ∈ properties, R.Code (.expression p.2)) →
      Agree τ (evaluateProperties m i scope done properties)
        (evaluateProperties m' i scope done properties)
  | _, [], _, _, _ => .done
  | _, (_, _) :: _, _, hs, hproperties => by
      obtain ⟨he, hrest⟩ := List.forall_mem_cons.mp hproperties
      exact (hm.evaluate i hs he).andThen fun _ hle _ => evaluateProperties _ (hs.mono hle) hrest

variable {τ : R.Stage} (hs : τ.Has scope)

include hs

lemma evaluateKey {key : Expression} (hkey : R.Code (.expression key)) :
    Agree τ (evaluateKey m i scope key) (evaluateKey m' i scope key) :=
  (hm.evaluate i hs hkey).andThen fun _ _ v => .calm (calm_text v)

lemma evaluateTarget {e : Expression} (he : R.Code (.expression e)) :
    Agree τ (evaluateTarget m i scope e) (evaluateTarget m' i scope e) := by
  cases e
  case name n => exact .done
  case member object key =>
      have hobject := R.leading he _ (List.mem_singleton_self _)
      exact (hm.evaluate i hs hobject).andThen fun _ _ _ => .done
  case index object key =>
      have hobject := R.leading he _ (List.mem_singleton_self _)
      have hkey := R.other he _ (List.mem_singleton_self _)
      exact (hm.evaluate i hs hobject).andThen fun _ hle _ =>
        (hm.evaluateKey i (hs.mono hle) hkey).andThen fun _ _ _ => .done
  all_goals exact .fail

lemma evaluateUnary (op : UnaryOp) {operand : Expression} (hoperand : R.Code (.expression operand)) :
    Agree τ (evaluateUnary m i scope op operand) (evaluateUnary m' i scope op operand) := by
  have hvalue := hm.evaluate i hs hoperand
  cases op with
  | not => exact hvalue.andThen fun _ _ _ => .done
  | minus => exact hvalue.andThen fun _ _ v => (Agrees.calm (calm_number v)).andThen fun _ _ _ => .done
  | plus => exact hvalue.andThen fun _ _ v => (Agrees.calm (calm_number v)).andThen fun _ _ _ => .done
  | typeof =>
      cases operand
      -- a name may be unbound
      case name n => exact .calm ((calm_readHeap _).bind fun _ => calm_pure _)
      all_goals exact hvalue.andThen fun _ _ _ => .done

lemma evaluateUpdate (op : UpdateOp) (before : Bool) {target : Expression}
    (htarget : R.Code (.expression target)) :
    Agree τ (evaluateUpdate m i scope op before target) (evaluateUpdate m' i scope op before target) := by
  refine (hm.evaluateTarget i hs htarget).andThen fun _ _ place => ?_
  refine (Agrees.calm (calm_readTarget scope place)).andThen fun _ _ old => ?_
  refine (Agrees.calm (calm_number old)).andThen fun _ _ x => ?_
  exact (Agrees.calm (calm_writeTarget scope _ place)).andThen fun _ _ _ => .done

lemma evaluateAssign (op : AssignOp) {target value : Expression}
    (htarget : R.Code (.expression target)) (hvalue : R.Code (.expression value)) :
    Agree τ (evaluateAssign m i scope op target value) (evaluateAssign m' i scope op target value) := by
  refine (hm.evaluateTarget i hs htarget).andThen fun υ hle place => ?_
  have written {ω : R.Stage} (result : Value) : Agree ω (do place.write scope result; return result)
      (do place.write scope result; return result) :=
    (Agrees.calm (calm_writeTarget scope result place)).andThen fun _ _ _ => .done
  dsimp only
  generalize op.binary? = operator
  cases operator with
  | none => exact (hm.evaluate i (hs.mono hle) hvalue).andThen fun _ _ => written
  | some operator =>
      refine (Agrees.calm (calm_readTarget scope place)).andThen fun _ hle' old => ?_
      refine (hm.evaluate i (hs.mono (hle.trans hle')) hvalue).andThen fun _ _ v => ?_
      exact (Agrees.calm (calm_binary operator old v)).andThen fun _ _ => written

lemma evaluateCallee {callee : Expression} (hcallee : R.Code (.expression callee)) :
    Agree τ (evaluateCallee m i scope callee) (evaluateCallee m' i scope callee) := by
  cases callee
  case member object key =>
      have hobject := R.leading hcallee _ (List.mem_singleton_self _)
      exact (hm.evaluate i hs hobject).andThen fun _ _ receiver =>
        (Agrees.calm (calm_member receiver key)).andThen fun _ _ _ => .done
  case index object key =>
      have hobject := R.leading hcallee _ (List.mem_singleton_self _)
      have hkey := R.other hcallee _ (List.mem_singleton_self _)
      exact (hm.evaluate i hs hobject).andThen fun _ hle receiver =>
        (hm.evaluateKey i (hs.mono hle) hkey).andThen fun _ _ name =>
          (Agrees.calm (calm_member receiver name)).andThen fun _ _ _ => .done
  all_goals exact (hm.evaluate i hs hcallee).andThen fun _ _ _ => .done

lemma evaluateCall {callee : Expression} {arguments : List Expression}
    (hcallee : R.Code (.expression callee)) (harguments : ∀ e ∈ arguments, R.Code (.expression e)) :
    Agree τ (evaluateCall m i scope callee arguments) (evaluateCall m' i scope callee arguments) :=
  (hm.evaluateCallee i hs hcallee).andThen fun _ hle _ =>
    (hm.evaluateAll i (hs.mono hle) harguments).andThen fun _ _ values => .guarded (hm.call i _ _ values)

omit hs in
lemma construct {τ : R.Stage} (function : Value) (arguments : List Value) :
    Agree τ (construct m i function arguments) (construct m' i function arguments) := by
  cases function
  case function ref =>
      refine (Agrees.calm (calm_readHeap _)).andThen fun _ _ cell => .ite (hm.call i _ _ _) ?_
      refine (Agrees.calm (calm_newObject _)).andThen fun _ _ made => ?_
      exact (hm.call i _ made arguments).andThen fun _ _ _ => .done
  all_goals exact .fail

lemma evaluateConstruct {callee : Expression} {arguments : List Expression}
    (hcallee : R.Code (.expression callee)) (harguments : ∀ e ∈ arguments, R.Code (.expression e)) :
    Agree τ (evaluateConstruct m i scope callee arguments)
      (evaluateConstruct m' i scope callee arguments) :=
  (hm.evaluate i hs hcallee).andThen fun _ hle function =>
    (hm.evaluateAll i (hs.mono hle) harguments).andThen fun _ _ values =>
      .guarded (hm.construct i function values)

/-- The step of evaluating an expression. -/
theorem evaluateStep {e : Expression} (he : R.Code (.expression e)) :
    Agree τ (evaluateStep m i scope e) (evaluateStep m' i scope e) := by
  have hleading := R.leading he
  have hother := R.other he
  cases e with
  | number | text | boolean | null | undefined => exact .done
  | name n => exact .calm (calm_lookup scope n)
  | receiver => exact .calm ((calm_readHeap _).bind fun _ => calm_pure _)
  | array elements =>
      exact (hm.evaluateAll i hs (List.forall_mem_map.mp hother)).andThen fun _ _ _ =>
        .calm (calm_newArray _)
  | object properties =>
      exact (hm.evaluateProperties i [] hs (List.forall_mem_map.mp hother)).andThen fun _ _ _ =>
        .calm (calm_newObject _)
  | function literal => exact (Goes.makeClosure hs (List.forall_mem_map.mp hother)).agrees
  | unary op operand => exact hm.evaluateUnary i hs op (List.forall_mem_singleton.mp hother)
  | update op before target =>
      exact hm.evaluateUpdate i hs op before (List.forall_mem_singleton.mp hother)
  | binary op left right =>
      refine (hm.evaluate i hs (List.forall_mem_singleton.mp hleading)).andThen fun _ hle v => ?_
      exact (hm.evaluate i (hs.mono hle) (List.forall_mem_singleton.mp hother)).andThen fun _ _ u =>
        .calm (calm_binary op v u)
  | logical op left right =>
      refine (hm.evaluate i hs (List.forall_mem_singleton.mp hleading)).andThen fun _ hle v => ?_
      have hright := hm.evaluate i (hs.mono hle) (List.forall_mem_singleton.mp hother)
      cases op with
      | and => exact .ite .done hright
      | or => exact .ite .done hright
  | conditional test yes no =>
      obtain ⟨htest, hbranches⟩ := List.forall_mem_cons.mp hother
      obtain ⟨hyes, hno⟩ := List.forall_mem_cons.mp hbranches
      exact (hm.evaluate i hs htest).andThen fun _ hle _ => .ite (hm.evaluate i (hs.mono hle) hyes)
        (hm.evaluate i (hs.mono hle) (List.forall_mem_singleton.mp hno))
  | assign op target value =>
      obtain ⟨htarget, hvalue⟩ := List.forall_mem_cons.mp hother
      exact hm.evaluateAssign i hs op htarget (List.forall_mem_singleton.mp hvalue)
  | member object key =>
      exact (hm.evaluate i hs (List.forall_mem_singleton.mp hleading)).andThen fun _ _ v =>
        .calm (calm_member v key)
  | index object key =>
      refine (hm.evaluate i hs (List.forall_mem_singleton.mp hleading)).andThen fun _ hle v => ?_
      exact (hm.evaluateKey i (hs.mono hle) (List.forall_mem_singleton.mp hother)).andThen
        fun _ _ name => .calm (calm_member v name)
  | call callee arguments span =>
      exact hm.evaluateCall i hs (List.forall_mem_singleton.mp hleading)
        (List.forall_mem_map.mp hother)
  | construct callee arguments =>
      obtain ⟨hcallee, harguments⟩ := List.forall_mem_cons.mp hother
      exact hm.evaluateConstruct i hs hcallee (List.forall_mem_map.mp harguments)

end Expressions

/-! ## Statements -/

section Statements

variable {scope : ScopeRef}

lemma executeAll : ∀ {body : List Statement} {τ : R.Stage}, τ.Has scope →
    (∀ s ∈ body, R.Code (.statement s)) → (∀ s ∈ body, τ.Awaits scope s) →
      Agree τ (executeAll m i scope body) (executeAll m' i scope body)
  | [], _, _, _, _ => .done
  | _ :: _, _, hs, hbody, hready => by
      obtain ⟨hfirst, hrest⟩ := List.forall_mem_cons.mp hbody
      obtain ⟨hnow, hthen⟩ := List.forall_mem_cons.mp hready
      refine (hm.execute i hs hfirst hnow).andThen fun _ hle completion => ?_
      cases completion with
      | normal => exact executeAll (hs.mono hle) hrest fun s hmem => (hthen s hmem).mono hle
      | returned | broken | continued => exact .done

lemma executeBlock {τ : R.Stage} (hs : τ.Has scope) {body : List Statement}
    (hbody : ∀ s ∈ body, R.Code (.statement s)) :
    Agree τ (executeBlock m i scope body) (executeBlock m' i scope body) :=
  (Goes.newScope hs).agrees.bind fun _ _ _ hown => (Goes.hoistFunctions hown.opens hbody).agrees.bind
    fun _ hle _ hready => hm.executeAll i (hown.mono hle).has hbody hready.2

/-- A `var` binds nothing, and what else a declaration binds is free. -/
lemma declareAll (kind : VariableKind) : ∀ {declarators : List Declarator} {τ : R.Stage},
    τ.Has scope → (∀ d ∈ declarators, ∀ e ∈ d.value, R.Code (.expression e)) →
    (kind = .var ∨ ∀ d ∈ declarators, R.Free scope d.name) →
      Agree τ (declareAll m i scope kind declarators) (declareAll m' i scope kind declarators)
  | [], _, _, _, _ => .done
  | ⟨name, value⟩ :: rest, τ, hs, hdeclarators, hnames => by
      obtain ⟨hfirst, hrest⟩ := List.forall_mem_cons.mp hdeclarators
      have next {υ : R.Stage} (hle : τ ≤ υ) := declareAll kind (hs.mono hle) hrest
        (hnames.imp_right fun h => (List.forall_mem_cons.mp h).2)
      have hfree (hkind : kind ≠ .var) : R.Free scope name :=
        hnames.resolve_left hkind ⟨name, value⟩ List.mem_cons_self
      cases value with
      | none =>
          cases kind with
          | var => exact next le_rfl
          | letMutable | constant =>
              exact (Goes.declare hs (hfree (by decide)) _ _).agrees.bind fun _ hle _ _ => next hle
      | some e =>
          have he := hm.evaluate i hs (hfirst e rfl)
          cases kind with
          | var =>
              exact he.andThen fun _ hle v => (Agrees.calm (calm_assign scope name v)).andThen
                fun _ hle' _ => next (hle.trans hle')
          | letMutable | constant =>
              exact he.andThen fun _ hle v =>
                (Goes.declare (hs.mono hle) (hfree (by decide)) _ _).agrees.bind
                  fun _ hle' _ _ => next (hle.trans hle')

/-- The body of a loop is a statement that is alone. -/
lemma whileRounds {test : Expression} {body : Statement} (htest : R.Code (.expression test))
    (hbody : R.Code (.statement body)) (hready : ∀ heap, R.Ready heap scope body) :
    ∀ rounds {τ : R.Stage}, τ.Has scope → Agree τ (whileRounds m i scope test body rounds)
      (whileRounds m' i scope test body rounds)
  | 0, _, _ => .exhausted
  | rounds + 1, _, hs => by
      refine (hm.evaluate i hs htest).andThen fun _ hle _ => .ite ?_ .done
      refine (hm.execute i (hs.mono hle) hbody (hready _)).andThen fun _ hle' completion => ?_
      have next := whileRounds htest hbody hready rounds (hs.mono (hle.trans hle'))
      cases completion with
      | normal | continued => exact next
      | returned | broken => exact .done

lemma evaluateOption {τ : R.Stage} (hs : τ.Has scope) : ∀ {e : Option Expression},
    (∀ e' ∈ e, R.Code (.expression e')) →
      Agree τ (evaluateOption m i scope e) (evaluateOption m' i scope e)
  | none, _ => .done
  | some e, he => (hm.evaluate i hs (he e rfl)).andThen fun _ _ _ => .done

lemma forRounds {test update : Option Expression} {body : Statement}
    (htest : ∀ e ∈ test, R.Code (.expression e)) (hupdate : ∀ e ∈ update, R.Code (.expression e))
    (hbody : R.Code (.statement body)) (hready : ∀ heap, R.Ready heap scope body) :
    ∀ rounds {τ : R.Stage}, τ.Has scope → Agree τ (forRounds m i scope test update body rounds)
      (forRounds m' i scope test update body rounds)
  | 0, _, _ => .exhausted
  | rounds + 1, τ, hs => by
      refine (hm.evaluateOption i hs htest).andThen fun _ hle _ => .ite ?_ .done
      refine (hm.execute i (hs.mono hle) hbody (hready _)).andThen fun υ hle' completion => ?_
      have hυ := hs.mono (hle.trans hle')
      have next := (hm.evaluateOption i hυ hupdate).andThen fun _ hle'' _ =>
        forRounds htest hupdate hbody hready rounds (hυ.mono hle'')
      cases completion with
      | normal | continued => exact next
      | returned | broken => exact .done

variable {τ : R.Stage} (hs : τ.Has scope)

include hs

lemma executeHandler {handler : CatchClause} (hhandler : ∀ s ∈ handler.body, R.Code (.statement s))
    (failure : Failure) :
    Agree τ (executeHandler m i scope handler failure) (executeHandler m' i scope handler failure) := by
  refine (Goes.newScope hs).agrees.bind fun _ _ own hown => ?_
  dsimp only
  generalize handler.parameter = parameter
  cases parameter with
  | none => exact hm.executeBlock i hown.has hhandler
  | some name =>
      refine (Agrees.calm (calm_withHeap fun _ => .caught _ _)).andThen fun _ hle v => ?_
      refine (Goes.declare (hown.mono hle).has (hown.free name) v true).agrees.bind fun _ hle' _ _ => ?_
      exact hm.executeBlock i (hown.mono (hle.trans hle')).has hhandler

lemma executeFinalizer {finalizer : Option (List Statement)}
    (hfinalizer : ∀ body ∈ finalizer, ∀ s ∈ body, R.Code (.statement s))
    (outcome : Except Failure Completion) :
    Agree τ
      (do
        match finalizer with
        | none => ofExcept outcome
        | some body =>
          match ← Evaluation.executeBlock m i scope body with
          | .normal => ofExcept outcome
          | abrupt => return abrupt)
      (do
        match finalizer with
        | none => ofExcept outcome
        | some body =>
          match ← Evaluation.executeBlock m' i scope body with
          | .normal => ofExcept outcome
          | abrupt => return abrupt) := by
  cases finalizer with
  | none => exact .calm (calm_ofExcept outcome)
  | some body =>
      refine (hm.executeBlock i hs (hfinalizer body rfl)).andThen fun _ _ completion => ?_
      cases completion with
      | normal => exact .calm (calm_ofExcept outcome)
      | returned | broken | continued => exact .done

lemma executeAttempt {block : List Statement} {handler : Option CatchClause}
    {finalizer : Option (List Statement)} (hblock : ∀ s ∈ block, R.Code (.statement s))
    (hhandler : ∀ clause ∈ handler, ∀ s ∈ clause.body, R.Code (.statement s))
    (hfinalizer : ∀ body ∈ finalizer, ∀ s ∈ body, R.Code (.statement s)) :
    Agree τ (executeAttempt m i scope block handler finalizer)
      (executeAttempt m' i scope block handler finalizer) := by
  refine (hm.executeBlock i hs hblock).capture.andThen fun υ hle first => ?_
  have hlast {ω : R.Stage} (hle' : υ ≤ ω) (outcome : Except Failure Completion) :=
    hm.executeFinalizer i (hs.mono (hle.trans hle')) hfinalizer outcome
  cases first with
  | ok completion => exact hlast le_rfl (.ok completion)
  | error failure =>
      cases handler with
      | none => exact hlast le_rfl (.error failure)
      | some clause =>
          exact (hm.executeHandler i (hs.mono hle) (hhandler clause rfl) failure).capture.andThen
            fun _ hle' => hlast hle'

/-- The step of executing a statement, which binds names itself only if they are free. -/
theorem executeStep {s : Statement} (hcode : R.Code (.statement s))
    (hnames : ∀ name ∈ (Phrase.statement s).lexicalNames, R.Free scope name) :
    Agree τ (executeStep m i scope s) (executeStep m' i scope s) := by
  have hother := R.other hcode
  have halone := R.alone hcode
  simp only [Phrase.others] at hother
  cases s with
  | declaration kind declarators =>
      refine (hm.declareAll i kind hs (fun d hd e he => ?_) ?_).andThen fun _ _ _ => .done
      · refine hother _ (List.mem_flatMap.mpr ⟨d, hd, List.mem_map_of_mem ?_⟩)
        exact Option.mem_toList.mpr he
      · cases kind with
        | var => exact .inl rfl
        | letMutable | constant => exact .inr (List.forall_mem_map.mp hnames)
  | function | breakLoop | continueLoop | empty => exact .done
  | expression e =>
      exact (hm.evaluate i hs (List.forall_mem_singleton.mp hother)).andThen fun _ _ _ => .done
  | block body => exact hm.executeBlock i hs (List.forall_mem_map.mp hother)
  | conditional test yes no =>
      obtain ⟨htest, hbranches⟩ := List.forall_mem_cons.mp hother
      obtain ⟨hyes, hno⟩ := List.forall_mem_cons.mp hbranches
      obtain ⟨hyesReady, hnoReady⟩ := List.forall_mem_cons.mp halone
      refine (hm.evaluate i hs htest).andThen fun _ hle _ =>
        .ite (hm.execute i (hs.mono hle) hyes (hyesReady _ _)) ?_
      cases no with
      | none => exact .done
      | some s =>
          exact hm.execute i (hs.mono hle) (List.forall_mem_singleton.mp hno)
            (List.forall_mem_singleton.mp hnoReady _ _)
  | whileLoop test body =>
      obtain ⟨htest, hbody⟩ := List.forall_mem_cons.mp hother
      simp only [Evaluation.executeStep, hm.patience]
      exact hm.whileRounds i htest (List.forall_mem_singleton.mp hbody)
        (fun heap => List.forall_mem_singleton.mp halone heap scope) _ hs
  | forLoop start test update body =>
      simp only [Phrase.othersOfStatement, List.forall_mem_append, List.forall_mem_map,
        List.forall_mem_singleton, Option.mem_toList] at hother
      obtain ⟨⟨⟨hstart, htest⟩, hupdate⟩, hbody⟩ := hother
      simp only [Phrase.alone, List.forall_mem_append, List.forall_mem_singleton,
        Option.mem_toList] at halone
      obtain ⟨hstartReady, hbodyReady⟩ := halone
      simp only [Evaluation.executeStep, hm.patience]
      refine (Goes.newScope hs).agrees.bind fun υ _ own hown => ?_
      have hrounds {ω : R.Stage} (hle : υ ≤ ω) :=
        hm.forRounds i htest hupdate hbody (fun heap => hbodyReady heap own) m'.patience
          (hown.mono hle).has
      cases start with
      | none => exact hrounds le_rfl
      | some s =>
          exact (hm.execute i hown.has (hstart s rfl) (hstartReady s rfl _ _)).andThen fun _ hle _ =>
            hrounds hle
  | returnValue value =>
      refine (hm.evaluateOption i hs fun e he => ?_).andThen fun _ _ _ => .done
      exact hother _ (List.mem_map_of_mem (Option.mem_toList.mpr he))
  | throwValue e =>
      exact (hm.evaluate i hs (List.forall_mem_singleton.mp hother)).andThen fun _ _ _ => .fail
  | attempt block handler finalizer =>
      simp only [Phrase.othersOfStatement, List.forall_mem_append, List.forall_mem_map,
        List.forall_mem_flatMap, Option.mem_toList] at hother
      obtain ⟨⟨hblock, hhandler⟩, hfinalizer⟩ := hother
      exact hm.executeAttempt i hs hblock hhandler hfinalizer

end Statements

/-! ## Bodies -/

section Bodies

variable {scope : ScopeRef}

lemma runProgram : ∀ (last : Value) {body : List Statement} {τ : R.Stage}, τ.Has scope →
    (∀ s ∈ body, R.Code (.statement s)) → (∀ s ∈ body, τ.Awaits scope s) →
      Agree τ (runProgram m i scope last body) (runProgram m' i scope last body)
  | _, [], _, _, _, _ => .done
  | last, s :: rest, _, hs, hbody, hready => by
      obtain ⟨hfirst, hrest⟩ := List.forall_mem_cons.mp hbody
      obtain ⟨hnow, hthen⟩ := List.forall_mem_cons.mp hready
      cases s
      case expression e =>
        have he := R.other hfirst _ (List.mem_singleton_self _)
        exact (hm.evaluate i hs he).andThen fun _ hle v =>
          runProgram v (hs.mono hle) hrest fun s hmem => (hthen s hmem).mono hle
      all_goals
        refine (hm.execute i hs hfirst hnow).andThen fun _ hle completion => ?_
        cases completion with
        | normal => exact runProgram last (hs.mono hle) hrest fun s hmem => (hthen s hmem).mono hle
        | returned | broken | continued => exact .done

end Bodies

/-! ## Calls -/

section Calls

variable (hR : R.Whole) {τ : R.Stage}

include hR

/-- A source text, whatever program it is. -/
theorem evaluateSource (source : String) :
    Agree τ (evaluateSource m i source) (evaluateSource m' i source) :=
  .parsed hR fun _ hbody => .look (fun w => w.interpreter i) <|
    (Goes.enter ⟨hR.globals τ.sound i, .inr (R.global τ.sound i)⟩ hbody).agrees.before fun _ hle _ hready =>
      hm.runProgram i _ (Stage.Has.mono (hR.globals τ.sound i) hle) hbody hready.2

lemma reflect (function : Reflection) (receiver : Value) (arguments : List Value) :
    Agree τ (reflect m i function receiver arguments) (reflect m' i function receiver arguments) := by
  cases function with
  | fail => exact (Agrees.calm (calm_text _)).andThen fun _ _ _ => .fail
  | apply => exact hm.call i _ _ _
  | construct => exact hm.construct i _ _
  | depth => exact .calm ((calm_interpreter i).bind fun _ => calm_pure _)
  | global =>
      exact .calm ((calm_text _).bind fun _ => (calm_interpreter i).bind fun _ =>
        (calm_readHeap _).bind fun _ => calm_pure _)
  | evaluate =>
      exact (Agrees.calm (calm_text _)).andThen fun _ _ source => hm.evaluateSource i hR source
  | keys => exact .calm ((calm_readHeap _).bind fun _ => calm_newArray _)
  | receiver => exact .done

lemma invokeNative (native : Native) (receiver : Value) (arguments : List Value) :
    Agree τ (invokeNative m i native receiver arguments)
      (invokeNative m' i native receiver arguments) := by
  cases native with
  | print level => exact .calm (calm_print level arguments)
  | makeError name => exact .calm (calm_makeError name arguments)
  | arrayMethod method => exact .calm (calm_arrayMethod method receiver arguments)
  | textMethod method => exact .calm (calm_textMethod method receiver arguments)
  | require base =>
      exact (Agrees.calm (calm_requestedId arguments)).andThen fun _ _ id => hm.load id base
  | resolve base => exact .calm ((calm_requestedId arguments).bind fun _ => calm_pure _)
  | reflection function => exact hm.reflect i hR function receiver arguments

lemma invokeScript {literal : FunctionLiteral} {scope : ScopeRef} (hs : τ.Lends scope)
    (hbody : ∀ s ∈ literal.body, R.Code (.statement s)) (receiver : Value) (arguments : List Value) :
    Agree τ (invokeScript m i literal scope receiver arguments)
      (invokeScript m' i literal scope receiver arguments) := by
  refine (Goes.frame hR hs).agrees.bind fun υ _ frame hframe => ?_
  refine (Goes.declare hframe.has (hframe.free _) _ _).agrees.bind fun _ hle _ _ => ?_
  refine (Goes.bindParameters _ _ (hframe.mono hle)).agrees.andThen fun _ hle' _ => ?_
  have hentry := hframe.mono (hle.trans hle')
  refine (Goes.enter hentry.opens hbody).agrees.before fun _ hle'' _ hready => ?_
  refine (hm.executeAll i (hentry.mono hle'').has hbody hready.2).andThen fun _ _ completion => ?_
  cases completion <;> exact .done

/-- What a function of the heap is made of is within the regime. -/
lemma invoke (function : FunctionRef) (receiver : Value) (arguments : List Value) :
    Agree τ (invoke m i function receiver arguments) (invoke m' i function receiver arguments) := by
  refine .look (fun w => w.heap.functionAt function) ?_
  cases hcode : (τ.world.heap.functionAt function).code with
  | native native => exact hm.invokeNative i hR native receiver arguments
  | script literal scope =>
      obtain ⟨hs, hbody⟩ := hR.closures τ.sound hcode
      exact hm.invokeScript i hR hs hbody receiver arguments

/-- The step of calling a function. -/
theorem callStep (function receiver : Value) (arguments : List Value) :
    Agree τ (callStep m i function receiver arguments) (callStep m' i function receiver arguments) := by
  cases function
  case function ref => exact .nested i fun _ _ => hm.invoke i hR ref receiver arguments
  all_goals exact .fail

end Calls

/-! ## Loading -/

section Loading

omit i

lemma perform : ∀ (act : ProviderAct) {τ : R.Stage}, Agree τ (perform m act) (perform m' act)
  | .fail _, _ => .done
  | .give _ extras, _ => (Agrees.calm (calm_withHeap fun _ => .ofJson _ _)).andThen fun _ _ v =>
      (Agrees.calm (calm_setExtras v extras)).andThen fun _ _ _ => .done
  | .hand _, _ => .done
  | .ask id base next, _ => (hm.load id base).capture.andThen fun _ _ outcome =>
      (Agrees.calm (calm_reported outcome)).andThen fun _ _ answer => perform (next answer)

lemma buildNative {τ : R.Stage} (id : String) (ref : ProviderRef) :
    Agree τ (buildNative m id ref) (buildNative m' id ref) := by
  refine (Agrees.calm (calm_note _)).andThen fun _ _ _ => ?_
  have hcalled {υ : R.Stage} : Agree υ (callProvider m ref) (callProvider m' ref) :=
    (Agrees.calm (calm_countCall ref)).andThen fun _ _ counted => hm.perform counted.2
  refine hcalled.andThen fun _ _ answer => ?_
  cases answer with
  | ok value => exact .calm ((calm_note _).bind fun _ => calm_insertNative id value)
  | error reason =>
      exact .calm ((calm_note _).bind fun _ => (calm_modifyRegistry _).bind fun _ => calm_fail _)

variable (hR : R.Whole) {τ : R.Stage}

include hR

omit hm in
lemma compileFunction (i : InterpreterRef) (name : String) (parameters : List String)
    (source : String) : Agree τ (compileFunction i name parameters source)
      (compileFunction i name parameters source) :=
  .parsed hR fun _ hbody => .look (fun w => w.interpreter i) <|
    (Goes.newClosure (Stage.Has.lends (hR.globals τ.sound i)) _ hbody).agrees

lemma runBody (record : Record) (resource : Resource) :
    Agree τ (runBody m record resource) (runBody m' record resource) := by
  refine (Agrees.calm calm_get).andThen fun _ _ w => ?_
  refine (compileFunction hR w.host resource.id moduleParameters resource.content).andThen
    fun _ _ body => ?_
  refine (Agrees.calm (calm_requireFunction _)).andThen fun _ _ require => ?_
  refine (Agrees.calm (calm_write _ _ _)).andThen fun _ _ _ => ?_
  refine (Agrees.calm (calm_exportsOf record)).andThen fun _ _ exports => ?_
  exact (hm.call _ _ _ _).andThen fun _ _ _ => .done

lemma loadResource (key : String) (resource : Resource) :
    Agree τ (loadResource m key resource) (loadResource m' key resource) := by
  refine (Agrees.calm (calm_createRecord key resource)).andThen fun _ _ record => ?_
  refine (Agrees.calm (calm_note _)).andThen fun _ _ _ => ?_
  refine (hm.runBody hR record resource).capture.andThen fun _ _ outcome => ?_
  cases outcome with
  | ok => exact .calm ((calm_note _).bind fun _ => calm_pure _)
  | error failure =>
      exact .calm ((calm_note _).bind fun _ => (calm_modifyRegistry _).bind fun _ => calm_fail _)

lemma recordFor (request base : String) :
    Agree τ (recordFor m request base) (recordFor m' request base) := by
  refine (Agrees.calm (calm_findRecord request)).andThen fun _ _ found => ?_
  cases found with
  | some record => exact .done
  | none =>
  refine (Agrees.calm (calm_takeProvider request)).andThen fun _ _ provider => ?_
  cases provider with
  | some ref => exact hm.buildNative request ref
  | none =>
  refine (Agrees.calm (calm_locateResource _)).andThen fun _ _ found => ?_
  cases found with
  | none => exact .fail
  | some resource => exact hm.loadResource hR request resource

/-- The step of loading a module. -/
theorem loadStep (request base : String) :
    Agree τ (loadStep m request base) (loadStep m' request base) :=
  (Agrees.calm calm_get).andThen fun _ _ _ => .guarded <|
    (Agrees.calm (calm_note _)).andThen fun _ _ _ => (hm.recordFor hR request base).capture.andThen
      fun _ _ outcome => .calm (calm_conclude request base outcome)

end Loading

end Relates

/-! ## Levels -/

/-- Two watched machines do the same at all levels, if both detours end the same runs, and no run goes on
with a declaration that binds a name which is not free. -/
theorem watchedMachines_related {R : Regime} (hR : R.Whole) {detour cut : Detour}
    (hcuts : R.Cuts detour cut) : ∀ n : Nat, R.Relates (watchedMachine detour n) (watchedMachine cut n)
  | 0 =>
    { patience := rfl
      evaluate := fun _ _ _ _ _ => .exhausted
      execute := fun _ _ _ _ _ _ => .exhausted
      call := fun _ _ _ _ => .exhausted
      load := fun _ _ => .exhausted }
  | n + 1 =>
    have hm := watchedMachines_related hR hcuts n
    { patience := rfl
      evaluate := fun i _ _ hs he =>
        hcuts.watch hs he (by rintro _ ⟨⟩) fun _ => hm.evaluateStep i hs he
      execute := fun i _ _ hs hcode hready =>
        hcuts.watch hs hcode (by rintro _ ⟨⟩; exact hready) fun hnames =>
          hm.executeStep i hs hcode hnames
      call := fun i function receiver arguments => hm.callStep i hR function receiver arguments
      load := fun request base => hm.loadStep hR request base }

/-- Watching changes nothing at any level, if no detour leads away from where phrases may run. -/
theorem watchedMachine_related {R : Regime} (hR : R.Whole) (hfree : R.Lenient) {detour : Detour}
    (hspares : R.Spares detour) (n : Nat) : R.Relates (watchedMachine detour n) (machine n) := by
  rw [← watchedMachine_none n]
  exact watchedMachines_related hR (hspares.cuts hfree) n

end Regime

/-! ## All that runs from a world on -/

/-- From a world on, two machines do the same in some scopes and in all calls and loads, and leave worlds
of some kind. -/
structure Machine.Same (m m' : Machine) (w : World) (there : ScopeRef → Prop) (kept : World → Prop) :
    Prop where
  evaluate : ∀ i scope e, there scope →
    m.evaluate i scope e w = m'.evaluate i scope e w ∧ kept ((m'.evaluate i scope e).after w)
  execute : ∀ i scope s, there scope →
    m.execute i scope s w = m'.execute i scope s w ∧ kept ((m'.execute i scope s).after w)
  call : ∀ i function receiver arguments,
    m.call i function receiver arguments w = m'.call i function receiver arguments w ∧
      kept ((m'.call i function receiver arguments).after w)
  load : ∀ request base,
    m.load request base w = m'.load request base w ∧ kept ((m'.load request base).after w)

/-- Machines that are related do the same from a sound world on, if all code may run. -/
lemma Regime.Relates.same {R : Regime} {m m' : Machine} (hm : R.Relates m m') (hcode : ∀ p, R.Code p)
    (hready : ∀ heap scope s, R.Ready heap scope s) {w : World} (hw : R.Sound w) :
    m.Same m' w (R.Place w.heap) R.Sound where
  evaluate i _ _ hs := (hm.evaluate (τ := ⟨w, hw⟩) i hs (hcode _)).same
  execute i _ _ hs := (hm.execute (τ := ⟨w, hw⟩) i hs (hcode _) (hready _ _ _)).same
  call i function receiver arguments := (hm.call (τ := ⟨w, hw⟩) i function receiver arguments).same
  load request base := (hm.load (τ := ⟨w, hw⟩) request base).same

lemma Machine.Same.imp {m m' : Machine} {w : World} {there there' : ScopeRef → Prop}
    {kept kept' : World → Prop} (h : m.Same m' w there kept) (hthere : ∀ s, there' s → there s)
    (hkept : ∀ w, kept w → kept' w) : m.Same m' w there' kept' where
  evaluate i scope e hs := (h.evaluate i scope e (hthere scope hs)).imp_right (hkept _)
  execute i scope s hs := (h.execute i scope s (hthere scope hs)).imp_right (hkept _)
  call i function receiver arguments := (h.call i function receiver arguments).imp_right (hkept _)
  load request base := (h.load request base).imp_right (hkept _)

end ModuleRunner.Evaluation
