import ModuleRunner.Proofs.Evaluation.Settling

/-!
# Evaluation keeps to homes

A phrase in a scope of its home settles, and so does every call: the function closes over a scope that
harbours its code, so what it runs in is a scope of that code's home.  Who calls, and with what, does
not matter.

The steps are taken in the order in which evaluation is defined, from a machine all of whose entry
points settle, whatever it is watched with.  A source text that is evaluated would run in the global
scope, which is nobody's home; no function inside the realm does that.

* `Settled` — a watched machine all of whose entry points settle.
* `Settled.evaluateStep`, `Settled.executeStep`, `Settled.callStep` — the three steps.
-/

namespace ModuleRunner.Evaluation

open Script Run

variable {G : Grounds}

/-- What stays inside the realm of a session. -/
lemma Grounds.contract (G : Grounds) : Contract G.realm (Confined G.realm) := confined G.realm

/-- A machine, by the detour that it is watched with, all of whose entry points settle. -/
structure Settled (G : Grounds) (M : Detour → Machine) : Prop where
  patience : ∃ rounds, ∀ detour, (M detour).patience = rounds
  evaluate : ∀ {τ : Stage G} {h : Home} (i) {scope e}, τ.Sits h scope →
    h.code G.brought (.expression e) →
      Settles τ (fun _ => G.realm.value) fun detour => (M detour).evaluate i scope e
  execute : ∀ {τ : Stage G} {h : Home} (i) {scope s}, τ.Sits h scope →
    h.code G.brought (.statement s) →
      Settles τ (fun _ => G.realm.completion) fun detour => (M detour).execute i scope s
  call : ∀ {τ : Stage G} (i) {function receiver arguments}, G.realm.value function →
    G.realm.value receiver → (∀ v ∈ arguments, G.realm.value v) →
      Settles τ (fun _ => G.realm.value) fun detour => (M detour).call i function receiver arguments
  load : ∀ {τ : Stage G} (request base),
    Settles τ (fun _ => G.realm.value) fun detour => (M detour).load request base

/-! ## Names and properties -/

section Calm

variable {τ : Stage G}

/-- What a name stands for, if for anything. -/
lemma Settles.readName {scope : ScopeRef} (hscope : G.realm.scope scope.index) (name : String) :
    Settles τ (fun _ found => ∀ v, found = some v → G.realm.value v) fun _ =>
      Run.readHeap (·.lookup scope name) :=
  .calm (G.contract.readHeap (Q := fun found => ∀ v, found = some v → G.realm.value v)
    fun _ hheap _ hfound => hheap.lookup hscope hfound) (calm_readHeap _)

lemma Settles.member {object : Value} (hobject : G.realm.value object) (key : String) :
    Settles τ (fun _ => G.realm.value) fun _ => Evaluation.member object key :=
  .calm (G.contract.member hobject key) (calm_member object key)

lemma Settles.text (v : Value) : Settles τ (fun _ _ => True) fun _ => Run.text v :=
  .calm (G.contract.text v) (calm_text v)

lemma Settles.number (v : Value) : Settles τ (fun _ _ => True) fun _ => Run.number v :=
  .calm (G.contract.number v) (calm_number v)

lemma Settles.readTarget {scope : ScopeRef} (hscope : G.realm.scope scope.index) {target : Target}
    (htarget : G.realm.target target) :
    Settles τ (fun _ => G.realm.value) fun _ => target.read scope :=
  .calm (G.contract.readTarget hscope htarget) (calm_readTarget scope target)

lemma Settles.writeTarget (scope : ScopeRef) {v : Value} (hv : G.realm.value v) (target : Target) :
    Settles τ (fun _ _ => True) fun _ => target.write scope v :=
  .calm (G.contract.writeTarget scope hv target) (calm_writeTarget scope v target)

end Calm

variable {h : Home} {scope : ScopeRef}

/-- A function with a name of its own closes over a new scope of the same home. -/
lemma Settles.makeClosure {τ : Stage G} (hs : τ.Sits h scope) {literal : FunctionLiteral}
    (hbody : ∀ s ∈ literal.body, h.code G.brought (.statement s)) :
    Settles τ (fun _ => G.realm.value) fun _ => Evaluation.makeClosure scope literal := by
  unfold Evaluation.makeClosure
  cases literal.name with
  | none => exact newClosure hs.toHarbours "" hbody
  | some name =>
      refine (newScope hs).bind fun υ _ own hown =>
        (newClosure hown.toHarbours name hbody).bind fun ω _ function hfunction => ?_
      exact (declare hown.apart name false hfunction).bind fun _ _ _ _ => .pure hfunction

namespace Settled

variable {M : Detour → Machine} (hm : Settled G M) (i : InterpreterRef)

include hm

/-! ## Expressions -/

lemma evaluateAll : ∀ {τ : Stage G} {es : List Expression}, τ.Sits h scope →
    (∀ e ∈ es, h.code G.brought (.expression e)) →
      Settles τ (fun _ values => ∀ v ∈ values, G.realm.value v) fun detour =>
        evaluateAll (M detour) i scope es
  | _, [], _, _ => .pure (by rintro v ⟨⟩)
  | _, e :: rest, hs, hes => by
      obtain ⟨he, hrest⟩ := List.forall_mem_cons.mp hes
      refine (hm.evaluate i hs he).bind fun υ hle first hfirst => ?_
      refine (evaluateAll (hs.mono hle) hrest).bind fun _ _ values hvalues => .pure ?_
      exact List.forall_mem_cons.mpr ⟨hfirst, hvalues⟩

lemma evaluateProperties : ∀ {τ : Stage G} {done : Table Value}
    {properties : List (String × Expression)}, τ.Sits h scope → G.realm.table done →
      (∀ p ∈ properties, h.code G.brought (.expression p.2)) →
        Settles τ (fun _ => G.realm.table) fun detour =>
          evaluateProperties (M detour) i scope done properties
  | _, _, [], _, hdone, _ => .pure hdone
  | _, _, (key, e) :: rest, hs, hdone, hproperties => by
      obtain ⟨he, hrest⟩ := List.forall_mem_cons.mp hproperties
      refine (hm.evaluate i hs he).bind fun υ hle v hv => ?_
      exact evaluateProperties (hs.mono hle) (Realm.table_put hdone key hv) hrest

variable {τ : Stage G}

lemma evaluateKey (hs : τ.Sits h scope) {key : Expression}
    (hkey : h.code G.brought (.expression key)) :
    Settles τ (fun _ _ => True) fun detour => evaluateKey (M detour) i scope key :=
  (hm.evaluate i hs hkey).bind fun _ _ v _ => .text v

lemma evaluateTarget (hs : τ.Sits h scope) {e : Expression} (he : h.code G.brought (.expression e)) :
    Settles τ (fun _ => G.realm.target) fun detour => evaluateTarget (M detour) i scope e := by
  cases e
  case name n => exact .pure trivial
  case member object key =>
      have hobject := Home.code_leading he _ (List.mem_singleton_self _)
      exact (hm.evaluate i hs hobject).bind fun _ _ v hv => .pure hv
  case index object key =>
      have hobject := Home.code_leading he _ (List.mem_singleton_self _)
      have hkey := Home.code_other he _ (List.mem_singleton_self _)
      exact (hm.evaluate i hs hobject).bind fun _ hle v hv =>
        (hm.evaluateKey i (hs.mono hle) hkey).bind fun _ _ _ _ => .pure hv
  all_goals exact .fail trivial

lemma evaluateUnary (hs : τ.Sits h scope) (op : UnaryOp) {operand : Expression}
    (hoperand : h.code G.brought (.expression operand)) :
    Settles τ (fun _ => G.realm.value) fun detour => evaluateUnary (M detour) i scope op operand := by
  have hvalue := hm.evaluate i hs hoperand
  cases op with
  | not => exact hvalue.bind fun _ _ _ _ => .pure trivial
  | minus => exact hvalue.bind fun _ _ v _ => (Settles.number v).bind fun _ _ _ _ => .pure trivial
  | plus => exact hvalue.bind fun _ _ v _ => (Settles.number v).bind fun _ _ _ _ => .pure trivial
  | typeof =>
      cases operand
      -- a name may be unbound
      case name n => exact (Settles.readName hs.inside n).bind fun _ _ _ _ => .pure trivial
      all_goals exact hvalue.bind fun _ _ _ _ => .pure trivial

lemma evaluateUpdate (hs : τ.Sits h scope) (op : UpdateOp) (before : Bool) {target : Expression}
    (htarget : h.code G.brought (.expression target)) :
    Settles τ (fun _ => G.realm.value) fun detour =>
      evaluateUpdate (M detour) i scope op before target := by
  refine (hm.evaluateTarget i hs htarget).bind fun _ _ place hplace => ?_
  refine (Settles.readTarget hs.inside hplace).bind fun _ _ old _ => ?_
  refine (Settles.number old).bind fun _ _ x _ => ?_
  exact (Settles.writeTarget scope (v := .number _) trivial place).bind fun _ _ _ _ => .pure trivial

lemma evaluateAssign (hs : τ.Sits h scope) (op : AssignOp) {target value : Expression}
    (htarget : h.code G.brought (.expression target))
    (hvalue : h.code G.brought (.expression value)) :
    Settles τ (fun _ => G.realm.value) fun detour =>
      evaluateAssign (M detour) i scope op target value := by
  refine (hm.evaluateTarget i hs htarget).bind fun υ hυ place hplace => ?_
  have written (σ : Stage G) {result : Value} (hresult : G.realm.value result) :
      Settles σ (fun _ => G.realm.value) fun _ => do place.write scope result; return result :=
    (Settles.writeTarget scope hresult place).bind fun _ _ _ _ => .pure hresult
  dsimp only
  generalize op.binary? = operator
  cases operator with
  | none => exact (hm.evaluate i (hs.mono hυ) hvalue).bind fun σ _ _ => written σ
  | some operator =>
      refine (Settles.readTarget hs.inside hplace).bind fun ω hω old _ => ?_
      refine (hm.evaluate i (hs.mono (hυ.trans hω)) hvalue).bind fun _ _ v _ => ?_
      exact (Settles.calm (G.contract.binary operator old v) (calm_binary operator old v)).bind fun σ _ _ =>
        written σ

lemma evaluateCallee (hs : τ.Sits h scope) {callee : Expression}
    (hcallee : h.code G.brought (.expression callee)) :
    Settles τ (fun _ pair => G.realm.value pair.1 ∧ G.realm.value pair.2) fun detour =>
      evaluateCallee (M detour) i scope callee := by
  cases callee
  case member object key =>
      have hobject := Home.code_leading hcallee _ (List.mem_singleton_self _)
      exact (hm.evaluate i hs hobject).bind fun _ _ _ hreceiver =>
        (Settles.member hreceiver key).bind fun _ _ _ hfunction => .pure ⟨hfunction, hreceiver⟩
  case index object key =>
      have hobject := Home.code_leading hcallee _ (List.mem_singleton_self _)
      have hkey := Home.code_other hcallee _ (List.mem_singleton_self _)
      exact (hm.evaluate i hs hobject).bind fun _ hle _ hreceiver =>
        (hm.evaluateKey i (hs.mono hle) hkey).bind fun _ _ _ _ =>
          (Settles.member hreceiver _).bind fun _ _ _ hfunction => .pure ⟨hfunction, hreceiver⟩
  all_goals
    exact (hm.evaluate i hs hcallee).bind fun _ _ _ hfunction => .pure ⟨hfunction, trivial⟩

lemma evaluateCall (hs : τ.Sits h scope) {callee : Expression} {arguments : List Expression}
    (hcallee : h.code G.brought (.expression callee))
    (harguments : ∀ e ∈ arguments, h.code G.brought (.expression e)) :
    Settles τ (fun _ => G.realm.value) fun detour =>
      evaluateCall (M detour) i scope callee arguments := by
  refine (hm.evaluateCallee i hs hcallee).bind fun υ hle (function, receiver) hpair => ?_
  refine (hm.evaluateAll i (hs.mono hle) harguments).bind fun _ _ values hvalues => ?_
  dsimp only
  exact .guarded trivial (hm.call i hpair.1 hpair.2 hvalues)

lemma construct {function : Value} {arguments : List Value} (hfunction : G.realm.value function)
    (harguments : ∀ v ∈ arguments, G.realm.value v) :
    Settles τ (fun _ => G.realm.value) fun detour =>
      construct (M detour) i function arguments := by
  cases function
  case function ref =>
      refine (Settles.calm (G.contract.readAny fun heap => heap.functionAt ref)
        (calm_readHeap _)).bind fun _ _ cell _ => .ite (fun _ => ?_) fun _ => ?_
      · exact hm.call i hfunction trivial harguments
      · have hcell : G.realm.objectCell ⟨false, []⟩ := Realm.table_nil
        refine (Settles.calm (G.contract.newObject hcell) (calm_newObject _)).bind
          fun _ _ made hmade => ?_
        refine (hm.call i hfunction hmade harguments).bind fun _ _ result hresult => .pure ?_
        split
        · exact hresult
        · exact hmade
  all_goals exact .fail trivial

lemma evaluateConstruct (hs : τ.Sits h scope) {callee : Expression} {arguments : List Expression}
    (hcallee : h.code G.brought (.expression callee))
    (harguments : ∀ e ∈ arguments, h.code G.brought (.expression e)) :
    Settles τ (fun _ => G.realm.value) fun detour =>
      evaluateConstruct (M detour) i scope callee arguments := by
  refine (hm.evaluate i hs hcallee).bind fun υ hle function hfunction => ?_
  refine (hm.evaluateAll i (hs.mono hle) harguments).bind fun _ _ values hvalues => ?_
  dsimp only
  exact .guarded trivial (hm.construct i hfunction hvalues)

/-- The step of evaluating an expression. -/
theorem evaluateStep (hs : τ.Sits h scope) {e : Expression} (he : h.code G.brought (.expression e)) :
    Settles τ (fun _ => G.realm.value) fun detour => evaluateStep (M detour) i scope e := by
  have hleading := Home.code_leading he
  have hother := Home.code_other he
  cases e with
  | number x => exact .pure trivial
  | text s => exact .pure trivial
  | boolean b => exact .pure trivial
  | null => exact .pure trivial
  | undefined => exact .pure trivial
  | name n => exact .calm (G.contract.lookup hs.inside n) (calm_lookup scope n)
  | receiver =>
      refine (Settles.readName hs.inside receiverName).bind fun _ _ found hfound => .pure ?_
      cases found with
      | none => trivial
      | some v => exact hfound v rfl
  | array elements =>
      have helements := List.forall_mem_map.mp hother
      exact (hm.evaluateAll i hs helements).bind fun _ _ _ hvalues =>
        .calm (G.contract.newArray hvalues) (calm_newArray _)
  | object properties =>
      have hproperties := List.forall_mem_map.mp hother
      refine (hm.evaluateProperties i hs Realm.table_nil hproperties).bind fun _ _ made hmade => ?_
      have hcell : G.realm.objectCell ⟨false, made⟩ := hmade
      exact .calm (G.contract.newObject hcell) (calm_newObject _)
  | function literal => exact .makeClosure hs (List.forall_mem_map.mp hother)
  | unary op operand =>
      exact hm.evaluateUnary i hs op (List.forall_mem_singleton.mp hother)
  | update op before target =>
      exact hm.evaluateUpdate i hs op before (List.forall_mem_singleton.mp hother)
  | binary op left right =>
      refine (hm.evaluate i hs (List.forall_mem_singleton.mp hleading)).bind fun _ hle v _ => ?_
      refine (hm.evaluate i (hs.mono hle) (List.forall_mem_singleton.mp hother)).bind fun _ _ u _ => ?_
      exact .calm (G.contract.binary op v u) (calm_binary op v u)
  | logical op left right =>
      have hright := List.forall_mem_singleton.mp hother
      refine (hm.evaluate i hs (List.forall_mem_singleton.mp hleading)).bind fun _ hle v hv => ?_
      cases op with
      | and => exact .ite (fun _ => .pure hv) fun _ => hm.evaluate i (hs.mono hle) hright
      | or => exact .ite (fun _ => .pure hv) fun _ => hm.evaluate i (hs.mono hle) hright
  | conditional test yes no =>
      obtain ⟨htest, hbranches⟩ := List.forall_mem_cons.mp hother
      obtain ⟨hyes, hno⟩ := List.forall_mem_cons.mp hbranches
      refine (hm.evaluate i hs htest).bind fun _ hle _ _ => .ite (fun _ => ?_) fun _ => ?_
      · exact hm.evaluate i (hs.mono hle) hyes
      · exact hm.evaluate i (hs.mono hle) (List.forall_mem_singleton.mp hno)
  | assign op target value =>
      obtain ⟨htarget, hvalue⟩ := List.forall_mem_cons.mp hother
      exact hm.evaluateAssign i hs op htarget (List.forall_mem_singleton.mp hvalue)
  | member object key =>
      exact (hm.evaluate i hs (List.forall_mem_singleton.mp hleading)).bind fun _ _ _ hv =>
        .member hv key
  | index object key =>
      refine (hm.evaluate i hs (List.forall_mem_singleton.mp hleading)).bind fun _ hle _ hv => ?_
      exact (hm.evaluateKey i (hs.mono hle) (List.forall_mem_singleton.mp hother)).bind fun _ _ _ _ =>
        .member hv _
  | call callee arguments span =>
      exact hm.evaluateCall i hs (List.forall_mem_singleton.mp hleading) (List.forall_mem_map.mp hother)
  | construct callee arguments =>
      obtain ⟨hcallee, harguments⟩ := List.forall_mem_cons.mp hother
      exact hm.evaluateConstruct i hs hcallee (List.forall_mem_map.mp harguments)

end Settled

/-! ## Names declared ahead -/

namespace Settles

lemma declareMissing : ∀ {τ : Stage G} {scope : ScopeRef}, scope ≠ G.globals →
    ∀ names : List String, Settles τ (fun _ _ => True) fun _ => declareMissing scope names
  | _, _, _, [] => .pure trivial
  | _, scope, hscope, name :: rest => by
      refine (calm (G.contract.readAny fun heap => heap.ownBinding? scope name)
        (calm_readHeap _)).bind fun _ _ found _ => ?_
      dsimp only
      refine ite (fun _ => ?_) fun _ => declareMissing hscope rest
      exact (declare hscope name (v := .undefined) true trivial).bind fun _ _ _ _ =>
        declareMissing hscope rest

lemma hoistVariables {τ : Stage G} {scope : ScopeRef} (hscope : scope ≠ G.globals)
    (body : List Statement) : Settles τ (fun _ _ => True) fun _ => hoistVariables scope body :=
  declareMissing hscope _

lemma bindParameters : ∀ {τ : Stage G} {scope : ScopeRef}, scope ≠ G.globals →
    ∀ (names : List String) {arguments : List Value}, (∀ v ∈ arguments, G.realm.value v) →
      Settles τ (fun _ _ => True) fun _ => bindParameters scope names arguments
  | _, _, _, [], _, _ => .pure trivial
  | _, _, hscope, name :: rest, _, harguments =>
      (declare hscope name true (Contract.value_argument harguments 0)).bind fun _ _ _ _ =>
        bindParameters hscope rest fun v hmem => harguments v (List.mem_of_mem_drop hmem)

lemma declareFunctions : ∀ {τ : Stage G} {literals : List FunctionLiteral}, τ.Sits h scope →
    (∀ literal ∈ literals, ∀ s ∈ literal.body, h.code G.brought (.statement s)) →
      Settles τ (fun _ _ => True) fun _ => declareFunctions scope literals
  | _, [], _, _ => .pure trivial
  | _, literal :: rest, hs, hliterals => by
      obtain ⟨hfirst, hrest⟩ := List.forall_mem_cons.mp hliterals
      refine (newClosure hs.toHarbours (literal.name.getD "") hfirst).bind
        fun υ hυ function hfunction => ?_
      refine (declare hs.apart _ true hfunction).bind fun ω hω _ _ => ?_
      exact declareFunctions (hs.mono (hυ.trans hω)) hrest

/-- What a body declares ahead is part of it. -/
lemma hoistFunctions {τ : Stage G} (hs : τ.Sits h scope) {body : List Statement}
    (hbody : ∀ s ∈ body, h.code G.brought (.statement s)) :
    Settles τ (fun _ _ => True) fun _ => hoistFunctions scope body := by
  refine declareFunctions hs fun literal hmem => ?_
  obtain ⟨s, hs, hliteral⟩ := List.mem_filterMap.mp hmem
  have hcode := Home.code_other (hbody s hs)
  split at hliteral
  · cases hliteral
    exact List.forall_mem_map.mp hcode
  · cases hliteral

end Settles

namespace Settled

variable {M : Detour → Machine} (hm : Settled G M) (i : InterpreterRef)

include hm

/-! ## Statements -/

lemma executeAll : ∀ {τ : Stage G} {body : List Statement}, τ.Sits h scope →
    (∀ s ∈ body, h.code G.brought (.statement s)) →
      Settles τ (fun _ => G.realm.completion) fun detour => executeAll (M detour) i scope body
  | _, [], _, _ => .pure trivial
  | _, s :: rest, hs, hbody => by
      obtain ⟨hfirst, hrest⟩ := List.forall_mem_cons.mp hbody
      refine (hm.execute i hs hfirst).bind fun _ hle completion hcompletion => ?_
      cases completion with
      | normal => exact executeAll (hs.mono hle) hrest
      | returned v => exact .pure hcompletion
      | broken => exact .pure trivial
      | continued => exact .pure trivial

lemma executeBlock {τ : Stage G} (hs : τ.Sits h scope) {body : List Statement}
    (hbody : ∀ s ∈ body, h.code G.brought (.statement s)) :
    Settles τ (fun _ => G.realm.completion) fun detour => executeBlock (M detour) i scope body :=
  (Settles.newScope hs).bind fun _ _ _ hown => (Settles.hoistFunctions hown hbody).bind
    fun _ hle _ _ => hm.executeAll i (hown.mono hle) hbody

lemma declareAll (kind : VariableKind) : ∀ {τ : Stage G} {declarators : List Declarator},
    τ.Sits h scope →
    (∀ d ∈ declarators, ∀ e, d.value = some e → h.code G.brought (.expression e)) →
      Settles τ (fun _ _ => True) fun detour => declareAll (M detour) i scope kind declarators
  | _, [], _, _ => .pure trivial
  | τ, ⟨name, value⟩ :: rest, hs, hdeclarators => by
      obtain ⟨hfirst, hrest⟩ := List.forall_mem_cons.mp hdeclarators
      have ih {υ : Stage G} (hle : τ ≤ υ) := declareAll kind (hs.mono hle) hrest
      have bound (isMutable : Bool) {e : Expression} (he : h.code G.brought (.expression e)) :
          Settles τ (fun _ _ => True) fun detour => (do
            declare scope name (← (M detour).evaluate i scope e) isMutable
            Evaluation.declareAll (M detour) i scope kind rest) :=
        (hm.evaluate i hs he).bind fun υ hυ _ hv =>
          (Settles.declare hs.apart name isMutable hv).bind fun ω hω _ _ => ih (hυ.trans hω)
      have unset (isMutable : Bool) :
          Settles τ (fun _ _ => True) fun detour => (do
            declare scope name .undefined isMutable
            Evaluation.declareAll (M detour) i scope kind rest) :=
        (Settles.declare hs.apart name (v := .undefined) isMutable trivial).bind fun _ hle _ _ => ih hle
      cases value with
      | none =>
          cases kind with
          | var => exact ih le_rfl
          | letMutable => exact unset true
          | constant => exact unset false
      | some e =>
          have he := hfirst e rfl
          cases kind with
          | letMutable => exact bound true he
          | constant => exact bound false he
          | var =>
              refine (hm.evaluate i hs he).bind fun υ hυ v hv => ?_
              exact (Settles.calm (G.contract.assign scope name hv) (calm_assign scope name v)).bind
                fun ω hω _ _ => ih (hυ.trans hω)

lemma whileRounds {test : Expression} {body : Statement}
    (htest : h.code G.brought (.expression test)) (hbody : h.code G.brought (.statement body)) :
    ∀ {τ : Stage G} (rounds : Nat), τ.Sits h scope →
      Settles τ (fun _ => G.realm.completion) fun detour =>
        whileRounds (M detour) i scope test body rounds
  | _, 0, _ => .exhausted
  | _, rounds + 1, hs => by
      refine (hm.evaluate i hs htest).bind fun υ hυ v _ => .ite (fun _ => ?_) fun _ => .pure trivial
      refine (hm.execute i (hs.mono hυ) hbody).bind fun ω hω completion hcompletion => ?_
      have next := whileRounds htest hbody rounds (hs.mono (hυ.trans hω))
      cases completion with
      | normal => exact next
      | returned v => exact .pure hcompletion
      | broken => exact .pure trivial
      | continued => exact next

lemma evaluateOption {τ : Stage G} (hs : τ.Sits h scope) : ∀ {e : Option Expression},
    (∀ e' ∈ e, h.code G.brought (.expression e')) →
      Settles τ (fun _ found => G.realm.value (found.getD .undefined)) fun detour =>
        evaluateOption (M detour) i scope e
  | none, _ => .pure trivial
  | some e, he => (hm.evaluate i hs (he e rfl)).bind fun _ _ _ hv => .pure hv

lemma forRounds {test update : Option Expression} {body : Statement}
    (htest : ∀ e ∈ test, h.code G.brought (.expression e))
    (hupdate : ∀ e ∈ update, h.code G.brought (.expression e))
    (hbody : h.code G.brought (.statement body)) :
    ∀ {τ : Stage G} (rounds : Nat), τ.Sits h scope →
      Settles τ (fun _ => G.realm.completion) fun detour =>
        forRounds (M detour) i scope test update body rounds
  | _, 0, _ => .exhausted
  | τ, rounds + 1, hs => by
      refine (hm.evaluateOption i hs htest).bind fun υ hυ v _ =>
        .ite (fun _ => ?_) fun _ => .pure trivial
      refine (hm.execute i (hs.mono hυ) hbody).bind fun ω hω completion hcompletion => ?_
      have hle := hυ.trans hω
      have next := (hm.evaluateOption i (hs.mono hle) hupdate).bind fun _ hlater _ _ =>
        forRounds htest hupdate hbody rounds (hs.mono (hle.trans hlater))
      cases completion with
      | normal => exact next
      | returned v => exact .pure hcompletion
      | broken => exact .pure trivial
      | continued => exact next

lemma executeHandler {τ : Stage G} (hs : τ.Sits h scope) {handler : CatchClause}
    (hhandler : ∀ s ∈ handler.body, h.code G.brought (.statement s)) {failure : Failure}
    (hfailure : G.realm.failure failure) :
    Settles τ (fun _ => G.realm.completion) fun detour =>
      executeHandler (M detour) i scope handler failure := by
  refine (Settles.newScope hs).bind fun υ _ own hown => ?_
  dsimp only
  generalize handler.parameter = parameter
  cases parameter with
  | none => exact hm.executeBlock i hown hhandler
  | some name =>
      refine (Settles.calm (G.contract.withHeap fun _ hheap => hheap.caught hfailure)
        (calm_withHeap fun _ => .caught _ _)).bind fun ω hω v hv => ?_
      refine (Settles.declare hown.apart name true hv).bind fun _ hle _ _ => ?_
      exact hm.executeBlock i (hown.mono (hω.trans hle)) hhandler

lemma executeFinalizer {τ : Stage G} (hs : τ.Sits h scope) {finalizer : Option (List Statement)}
    (hfinalizer : ∀ body ∈ finalizer, ∀ s ∈ body, h.code G.brought (.statement s))
    {outcome : Except Failure Completion} (houtcome : G.realm.outcome G.realm.completion outcome) :
    Settles τ (fun _ => G.realm.completion) fun detour => do
      match finalizer with
      | none => ofExcept outcome
      | some body =>
        match ← Evaluation.executeBlock (M detour) i scope body with
        | .normal => ofExcept outcome
        | abrupt => return abrupt := by
  have concluded {υ : Stage G} :
      Settles υ (fun _ => G.realm.completion) fun _ => ofExcept outcome :=
    .calm (G.contract.ofExcept outcome houtcome) (calm_ofExcept outcome)
  cases finalizer with
  | none => exact concluded
  | some body =>
      refine (hm.executeBlock i hs (hfinalizer body rfl)).bind fun _ _ completion hcompletion => ?_
      cases completion with
      | normal => exact concluded
      | returned v => exact .pure hcompletion
      | broken => exact .pure trivial
      | continued => exact .pure trivial

lemma executeAttempt {τ : Stage G} (hs : τ.Sits h scope) {block : List Statement}
    {handler : Option CatchClause} {finalizer : Option (List Statement)}
    (hblock : ∀ s ∈ block, h.code G.brought (.statement s))
    (hhandler : ∀ clause ∈ handler, ∀ s ∈ clause.body, h.code G.brought (.statement s))
    (hfinalizer : ∀ body ∈ finalizer, ∀ s ∈ body, h.code G.brought (.statement s)) :
    Settles τ (fun _ => G.realm.completion) fun detour =>
      executeAttempt (M detour) i scope block handler finalizer := by
  refine (hm.executeBlock i hs hblock).capture.bind fun υ hυ first hfirst => ?_
  cases first with
  | ok completion => exact hm.executeFinalizer i (hs.mono hυ) hfinalizer hfirst
  | error failure =>
      cases handler with
      | none => exact hm.executeFinalizer i (hs.mono hυ) hfinalizer hfirst
      | some clause =>
          refine (hm.executeHandler i (hs.mono hυ) (hhandler clause rfl) hfirst).capture.bind
            fun ω hω outcome houtcome => ?_
          exact hm.executeFinalizer i (hs.mono (hυ.trans hω)) hfinalizer houtcome

/-- The step of executing a statement. -/
theorem executeStep {τ : Stage G} (hs : τ.Sits h scope) {s : Statement}
    (hcode : h.code G.brought (.statement s)) :
    Settles τ (fun _ => G.realm.completion) fun detour => executeStep (M detour) i scope s := by
  obtain ⟨rounds, hrounds⟩ := hm.patience
  have hother := Home.code_other hcode
  simp only [Phrase.others] at hother
  cases s with
  | declaration kind declarators =>
      refine (hm.declareAll i kind hs fun d hd e he => ?_).bind fun _ _ _ _ => .pure trivial
      refine hother _ (List.mem_flatMap.mpr ⟨d, hd, List.mem_map_of_mem ?_⟩)
      exact Option.mem_toList.mpr he
  | function literal => exact .pure trivial
  | expression e =>
      exact (hm.evaluate i hs (List.forall_mem_singleton.mp hother)).bind fun _ _ _ _ => .pure trivial
  | block body => exact hm.executeBlock i hs (List.forall_mem_map.mp hother)
  | conditional test yes no =>
      obtain ⟨htest, hbranches⟩ := List.forall_mem_cons.mp hother
      obtain ⟨hyes, hno⟩ := List.forall_mem_cons.mp hbranches
      refine (hm.evaluate i hs htest).bind fun _ hle _ _ => .ite (fun _ => ?_) fun _ => ?_
      · exact hm.execute i (hs.mono hle) hyes
      · cases no with
        | none => exact .pure trivial
        | some s => exact hm.execute i (hs.mono hle) (List.forall_mem_singleton.mp hno)
  | whileLoop test body =>
      obtain ⟨htest, hbody⟩ := List.forall_mem_cons.mp hother
      have hloop := hm.whileRounds i htest (List.forall_mem_singleton.mp hbody) rounds hs
      simpa only [Evaluation.executeStep, hrounds] using hloop
  | forLoop start test update body =>
      simp only [Phrase.othersOfStatement, List.forall_mem_append, List.forall_mem_map,
        List.forall_mem_singleton, Option.mem_toList] at hother
      obtain ⟨⟨⟨hstart, htest⟩, hupdate⟩, hbody⟩ := hother
      simp only [Evaluation.executeStep, hrounds]
      refine (Settles.newScope hs).bind fun υ _ own hown => ?_
      cases start with
      | none => exact hm.forRounds i htest hupdate hbody rounds hown
      | some s =>
          exact (hm.execute i hown (hstart s rfl)).bind fun _ hle _ _ =>
            hm.forRounds i htest hupdate hbody rounds (hown.mono hle)
  | returnValue value =>
      refine (hm.evaluateOption i hs fun e he => ?_).bind fun _ _ _ hv => .pure hv
      exact hother _ (List.mem_map_of_mem (Option.mem_toList.mpr he))
  | breakLoop => exact .pure trivial
  | continueLoop => exact .pure trivial
  | throwValue e =>
      exact (hm.evaluate i hs (List.forall_mem_singleton.mp hother)).bind fun _ _ _ hv => .fail hv
  | attempt block handler finalizer =>
      simp only [Phrase.othersOfStatement, List.forall_mem_append, List.forall_mem_map,
        List.forall_mem_flatMap, Option.mem_toList] at hother
      obtain ⟨⟨hblock, hhandler⟩, hfinalizer⟩ := hother
      exact hm.executeAttempt i hs hblock hhandler hfinalizer
  | empty => exact .pure trivial

/-! ## Calls -/

lemma reflect {τ : Stage G} {function : Reflection} (hnative : G.realm.native (.reflection function))
    {receiver : Value} {arguments : List Value} (hreceiver : G.realm.value receiver)
    (harguments : ∀ v ∈ arguments, G.realm.value v) :
    Settles τ (fun _ => G.realm.value) fun detour =>
      reflect (M detour) i function receiver arguments := by
  have hargument (n : Nat) := Contract.value_argument harguments n
  have hrest (n : Nat) : ∀ v ∈ arguments.drop n, G.realm.value v :=
    fun v hmem => harguments v (List.mem_of_mem_drop hmem)
  cases function with
  | fail => exact (Settles.text _).bind fun _ _ _ _ => .fail trivial
  | apply => exact hm.call i (hargument 0) (hargument 1) (hrest 2)
  | construct => exact hm.construct i (hargument 0) (hrest 1)
  | depth =>
      exact (Settles.calm (G.contract.interpreter i) (calm_interpreter i)).bind fun _ _ _ _ =>
        .pure trivial
  | global =>
      refine (Settles.text _).bind fun _ _ name _ => ?_
      refine (Settles.calm (G.contract.interpreter i) (calm_interpreter i)).bind fun _ _ _ hglobals => ?_
      refine (Settles.readName hglobals name).bind fun _ _ found hfound => .pure ?_
      cases found with
      | none => trivial
      | some v => exact hfound v rfl
  | evaluate => exact (G.sourceless hnative).elim
  | keys =>
      refine (Settles.calm (G.contract.readAny fun heap => heap.keys (argument arguments 0))
        (calm_readHeap _)).bind fun _ _ names _ => ?_
      refine .calm (G.contract.newArray fun v hmem => ?_) (calm_newArray _)
      obtain ⟨name, -, rfl⟩ := List.mem_map.mp hmem
      trivial
  | receiver => exact .pure hreceiver

lemma invokeNative {τ : Stage G} {native : Native} (hnative : G.realm.native native)
    {receiver : Value} {arguments : List Value} (hreceiver : G.realm.value receiver)
    (harguments : ∀ v ∈ arguments, G.realm.value v) :
    Settles τ (fun _ => G.realm.value) fun detour =>
      invokeNative (M detour) i native receiver arguments := by
  have hid {υ : Stage G} : Settles υ (fun _ _ => True) fun _ => requestedId arguments :=
    .calm (G.contract.requestedId arguments) (calm_requestedId arguments)
  cases native with
  | print level => exact .calm (G.contract.print level hnative arguments) (calm_print level arguments)
  | makeError name => exact .calm (G.contract.makeError name arguments) (calm_makeError name arguments)
  | arrayMethod method =>
      exact .calm (G.contract.arrayMethod method receiver harguments)
        (calm_arrayMethod method receiver arguments)
  | textMethod method =>
      exact .calm (G.contract.textMethod method receiver arguments)
        (calm_textMethod method receiver arguments)
  | require base => exact hid.bind fun _ _ id _ => hm.load id base
  | resolve base => exact hid.bind fun _ _ _ _ => .pure trivial
  | reflection function => exact hm.reflect i hnative hreceiver harguments

/-- The body of a function runs in a new scope, inside the one that the function closes over and of a
home with the function's code. -/
lemma invokeScript {τ : Stage G} (hscope : Harbours G τ.home τ.world h scope)
    {literal : FunctionLiteral} (hbody : ∀ s ∈ literal.body, h.code G.brought (.statement s))
    {receiver : Value} {arguments : List Value} (hreceiver : G.realm.value receiver)
    (harguments : ∀ v ∈ arguments, G.realm.value v) :
    Settles τ (fun _ => G.realm.value) fun detour =>
      invokeScript (M detour) i literal scope receiver arguments := by
  refine (Settles.newFrame hscope).bind fun υ _ frame hframe => ?_
  obtain ⟨own, hown, hs⟩ := hframe
  rw [← hown] at hbody
  refine (Settles.declare hs.apart receiverName false hreceiver).bind fun _ h₁ _ _ => ?_
  refine (Settles.bindParameters hs.apart literal.parameters harguments).bind fun _ h₂ _ _ => ?_
  refine (Settles.hoistVariables hs.apart literal.body).bind fun _ h₃ _ _ => ?_
  have hle := h₁.trans (h₂.trans h₃)
  refine (Settles.hoistFunctions (hs.mono hle) hbody).bind fun _ h₄ _ _ => ?_
  refine (hm.executeAll i (hs.mono (hle.trans h₄)) hbody).bind fun _ _ completion hcompletion => ?_
  cases completion with
  | returned v => exact .pure hcompletion
  | normal => exact .pure trivial
  | broken => exact .pure trivial
  | continued => exact .pure trivial

lemma invoke {τ : Stage G} {function : FunctionRef} (hfunction : G.realm.function function.index)
    {receiver : Value} {arguments : List Value} (hreceiver : G.realm.value receiver)
    (harguments : ∀ v ∈ arguments, G.realm.value v) :
    Settles τ (fun _ => G.realm.value) fun detour =>
      invoke (M detour) i function receiver arguments := by
  refine (Settles.read fun w => w.heap.functionAt function).bind fun υ _ cell hcell => ?_
  obtain ⟨rfl, rfl⟩ := hcell
  have hinside := (υ.homed.encloses.heap.functions.cell function.index hfunction).1
  cases hcode : (υ.world.heap.functionAt function).code with
  | native native =>
      have hnative : G.realm.native native := (congrArg G.realm.code hcode).mp hinside
      exact hm.invokeNative i hnative hreceiver harguments
  | script literal scope =>
      obtain ⟨owner, hscope, hbody⟩ := υ.homed.closures function literal scope hfunction hcode
      exact hm.invokeScript i hscope hbody hreceiver harguments

/-- The step of calling a function. -/
theorem callStep {τ : Stage G} {function receiver : Value} {arguments : List Value}
    (hfunction : G.realm.value function) (hreceiver : G.realm.value receiver)
    (harguments : ∀ v ∈ arguments, G.realm.value v) :
    Settles τ (fun _ => G.realm.value) fun detour =>
      callStep (M detour) i function receiver arguments := by
  cases function
  case function ref => exact .nested i fun _ _ => hm.invoke i hfunction hreceiver harguments
  all_goals exact .fail trivial

end Settled

end ModuleRunner.Evaluation
