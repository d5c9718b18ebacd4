import ModuleRunner.Proofs.Loading.Accounts
import ModuleRunner.Proofs.Session.Act

/-!
# Sessions whose host is there throughout

Native code may hold the session that it is called by.  So a provider may register other providers
while it is called, itself included, remove records, or have functions called, and a host may do so
whenever code asks for a module.  Here the host is asked at every request, and runs errands before the
request is loaded, or instead of loading it.  A request that is not loaded is how native code reaches
the session for nothing but errands.

However a host makes use of that, a provider is registered, called and brought back in order: a ledger
accounts for all of it.

* `Errand`, `Host`, `attend` — what a host does, and when.
* `attendedMachine`, `attendAll` — evaluation and sessions; with an idle host, they are `machine` and
  `performAll`.
* `accounted_attendedMachine`, `accounted_attendAll` — a ledger accounts for them.
* `providers_serve_once` — what becomes of providers, in all sessions.
-/

namespace ModuleRunner

open Evaluation ModuleRunner.Module Script Run

/-! ## Hosts -/

/-- Something that a host does with a session, between loads or during one. -/
inductive Errand where
  /-- One of the acts that sessions are made of. -/
  | act (act : HostAct)
  /-- Removes a module from the cache. -/
  | evict (id : String)
  /-- Ends the session. -/
  | close
  /-- Lets the session find modules in other surroundings. -/
  | surround (session : Session) (around : Surroundings)

/-- What calling a function that a module exports does, with the steps over a machine and loads that
are given. -/
def enterModule (m : Machine) (load : (request base : String) → Run Value) (id function : String)
    (argument : Value) : Run Value := do
  let exports ← load id ""
  let entryPoint ← readHeap (·.get exports function)
  if !entryPoint.isCallable then fail (.load (.entryPoint id function))
  callStep m (← get).host entryPoint exports [argument]

/-- What an errand does, with the steps over a machine and loads that are given. -/
def Errand.perform (m : Machine) (load : (request base : String) → Run Value) : Errand → Run Unit
  | act (.load request base) => do let _ ← load request base
  | act (.enter id function argument) => do let _ ← enterModule m load id function argument
  | act (.call i function receiver arguments) => do
    let _ ← callStep m i function receiver arguments
  | act (.evaluate i source) => do let _ ← evaluateSource m i source
  | act other => other.perform
  | evict id => do let _ ← Session.evict id
  | close => Session.close
  | surround session around => session.surround around

/-- One errand after another, whether they succeed or fail. -/
def runErrands (m : Machine) (load : (request base : String) → Run Value) : List Errand → Run Unit
  | [] => return ()
  | errand :: rest => do
    let _ ← capture (errand.perform m load)
    runErrands m load rest

/-- What a host does when something is requested: errands, and then whether the request is loaded. -/
abbrev Host := (request base : String) → World → List Errand × Bool

/-- The host that lets everything be loaded, and has no errands. -/
def Host.idle : Host := fun _ _ _ => ([], true)

/-- A load that the host attends. -/
def attend (host : Host) (m : Machine) (request base : String) : Run Value := do
  let (errands, isLoaded) := host request base (← get)
  runErrands m m.load errands
  if isLoaded then loadStep m request base else return .undefined

/-- The machine of each level, attended. -/
def attendedMachine (host : Host) : Nat → Machine
  | 0 => Machine.spent
  | n + 1 =>
    { patience := n
      evaluate := fun i scope e => evaluateStep (attendedMachine host n) i scope e
      execute := fun i scope s => executeStep (attendedMachine host n) i scope s
      call := fun i function receiver arguments =>
        callStep (attendedMachine host n) i function receiver arguments
      load := fun request base => attend host (attendedMachine host n) request base }

/-- A session, attended. -/
def attendAll (host : Host) (errands : List Errand) : Run Unit :=
  runErrands (attendedMachine host levels) (attend host (attendedMachine host levels)) errands

/-- Attending alone changes nothing. -/
theorem attendedMachine_idle : ∀ n, attendedMachine .idle n = machine n
  | 0 => rfl
  | n + 1 => by
      have hload : attend .idle (machine n) = loadStep (machine n) := rfl
      simp only [attendedMachine, machine, attendedMachine_idle n, hload]

theorem attendAll_idle (acts : List HostAct) : attendAll .idle (acts.map .act) = performAll acts := by
  have hperform (act : HostAct) :
      (Errand.act act).perform (machine levels) (loadStep (machine levels)) = act.perform := by
    cases act <;> rfl
  have hload : attend .idle (machine levels) = loadStep (machine levels) := rfl
  rw [attendAll, attendedMachine_idle, hload]
  induction acts with
  | nil => rfl
  | cons act rest ih => rw [List.map_cons, runErrands, performAll, hperform, ih]

/-! ## The ledger of a session -/

lemma Evaluation.Accounted.note {e : Event} (haside : e.IsAside) : Accounted (note e) :=
  fun _ => World.resumes_aside e rfl rfl rfl haside

lemma Evaluation.Accounted.modifyRegistry {change : Registry → Registry}
    (hchange : ∀ registry, (change registry).providers = registry.providers) :
    Accounted (modifyRegistry change) :=
  .of_eq (fun _ => rfl) (fun w => hchange w.registry) fun _ => rfl

/-- A registration is a line of its own. -/
lemma Evaluation.Accounted.registerNative (id : String) (provider : Provider) :
    Accounted (Session.registerNative id provider) := by
  intro w ledger h
  have hregistered : ((Session.registerNative id provider).after w).Accounts
      (.registration id ⟨w.providers.size⟩ :: ledger) := h.registration id provider rfl rfl rfl
  exact ⟨[.registration id ⟨w.providers.size⟩], hregistered,
    fun _ ref _ => (Ledger.remains_nil ref).cons (by rintro _ _ ⟨⟩), rfl⟩

lemma Evaluation.Accounted.newInterpreter (globals : Table Value) (maxDepth : Nat) :
    Accounted (Run.newInterpreter globals maxDepth) := by
  have hpush (state : Interpreter) : Accounted fun w =>
      .ok (⟨w.interpreters.size⟩ : InterpreterRef)
        { w with interpreters := w.interpreters.push state } :=
    .of_eq (fun _ => rfl) (fun _ => rfl) fun _ => rfl
  have hglobals : Realm.whole.table globals := fun entry _ => Realm.whole_value entry.2
  exact (Accounted.hereditary.contract.newInterpreter
    (fun state _ => ⟨hpush state, fun _ _ _ _ => trivial⟩) hglobals maxDepth).1

section Attended

variable {m : Machine} (hm : m.Has fun _ => Accounted)

include hm

lemma accounted_enterModule {load : (request base : String) → Run Value}
    (hload : ∀ request base, Accounted (load request base)) (id function : String) (argument : Value) :
    Accounted (enterModule m load id function argument) := by
  have h := Accounted.hereditary
  have hread (exports : Value) : Accounted (readHeap (·.get exports function)) :=
    .of_eq (fun _ => rfl) (fun _ => rfl) fun _ => rfl
  refine (hload id "").bind fun exports => (hread exports).bind fun entryPoint => ?_
  have hcall : Accounted (do callStep m (← get).host entryPoint exports [argument]) :=
    h.get.bind fun w => h.callStep hm w.host _ _ _
  dsimp only
  split
  · exact (h.fail _).bind fun _ => hcall
  · exact hcall

lemma accounted_errand {load : (request base : String) → Run Value}
    (hload : ∀ request base, Accounted (load request base)) (errand : Errand) :
    Accounted (errand.perform m load) := by
  have h := Accounted.hereditary
  cases errand with
  | act act =>
      cases act with
      | load request base => exact (hload request base).bind fun _ => h.pure _
      | enter id function argument =>
          exact (accounted_enterModule hm hload id function argument).bind fun _ => h.pure _
      | call i function receiver arguments =>
          exact (h.callStep hm i function receiver arguments).bind fun _ => h.pure _
      | evaluate i source => exact (h.evaluateSource hm i source).bind fun _ => h.pure _
      | interpret globals maxDepth =>
          exact (Accounted.newInterpreter globals maxDepth).bind fun _ => h.pure _
      | handle change => exact h.withHeap fun heap => ((), change heap)
      | register id value =>
          have hnoted : Accounted (Run.note (.supplied id)) := .note trivial
          exact hnoted.bind fun _ => .modifyRegistry fun _ => rfl
      | registerNative id provider => exact .registerNative id provider
  | evict id =>
      have hremove : Accounted (Evaluation.modifyRegistry (·.remove id)) :=
        .modifyRegistry fun _ => rfl
      have hevict : Accounted (Session.evict id) :=
        (h.get.bind fun _ => h.pure _).bind fun _ => hremove.bind fun _ => h.pure _
      exact hevict.bind fun _ => h.pure _
  | close => exact .of_eq (fun _ => rfl) (fun _ => rfl) fun _ => rfl
  | surround session around => exact .of_eq (fun _ => rfl) (fun _ => rfl) fun _ => rfl

lemma accounted_runErrands {load : (request base : String) → Run Value}
    (hload : ∀ request base, Accounted (load request base)) (errands : List Errand) :
    Accounted (runErrands m load errands) := by
  induction errands with
  | nil => exact Accounted.hereditary.pure _
  | cons errand rest ih =>
      have hfirst := Accounted.hereditary.capture (accounted_errand hm hload errand)
      exact hfirst.bind fun _ => ih

lemma accounted_attend (host : Host) (request base : String) :
    Accounted (attend host m request base) := by
  refine Accounted.hereditary.get.bind fun w => ?_
  dsimp only
  refine (accounted_runErrands hm hm.load _).bind fun _ => ?_
  split
  · exact accounted_loadStep hm request base
  · exact Accounted.hereditary.pure _

end Attended

/-- A ledger accounts for evaluation, whatever the host does meanwhile. -/
theorem accounted_attendedMachine (host : Host) (n : Nat) :
    (attendedMachine host n).Has fun _ => Accounted := by
  induction n with
  | zero => exact Accounted.hereditary.spent
  | succ n hm => exact Accounted.hereditary.level hm (accounted_attend hm host) n

/-- A ledger accounts for sessions, whatever the host does in between and meanwhile. -/
theorem accounted_attendAll (host : Host) (errands : List Errand) :
    Accounted (attendAll host errands) :=
  have hm := accounted_attendedMachine host levels
  accounted_runErrands hm (accounted_attend hm host) errands

/-- Nothing is in the ledger of a session that has not begun. -/
lemma Evaluation.World.IsFresh.accounts {w : World} (hw : w.IsFresh) : w.Accounts [] where
  history := hw.history.symm
  waiting := by
    rw [hw.registry]
    rfl
  orderly := .nil
  made _ hknown := absurd rfl hknown

/-- A provider that asks for `renew` and fails. -/
def tired : Provider := ⟨fun _ => .ask "renew" "" fun _ => .fail "tired", 0⟩

/-- A provider that fails once. -/
def hesitant : Provider := ⟨fun call => if call = 1 then .fail "not yet" else .give .null [], 0⟩

/-- The world of a session in which a tired provider is registered. -/
def tiredWorld : World := (Session.registerNative "x" tired).after World.empty

/-- The host that registers a newer provider when it is asked to renew. -/
def renewing : Host := fun request _ _ =>
  if request = "renew" then ([.act (.registerNative "x" hesitant)], false) else ([], true)

end ModuleRunner
