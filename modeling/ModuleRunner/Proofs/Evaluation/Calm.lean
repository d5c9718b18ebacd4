import ModuleRunner.Evaluation.Interpreter
import ModuleRunner.Proofs.Evaluation.Frame
import ModuleRunner.Proofs.Script.Scope

/-!
# Runs that leave scopes and code alone

Most of what evaluation does on its own, without evaluating or executing anything, makes no scope,
binds no name that was not bound, and makes no function of a script.  Such a run is calm.  What is
left to look at, where scopes matter, are the few runs that are not: making a scope, binding a name
and making a function of a script.

* `World.Alike`, `World.Calm` — what a calm run does to a world, and that it leaves constants.
* `calm_text`, `calm_write`, `calm_binary`, … — the calm runs, in the order of their definitions.
-/

namespace ModuleRunner.Evaluation

open Script ModuleRunner.Module Run

/-- Scopes and code are left alone, up to the values of names. -/
structure World.Alike (w w' : World) : Prop where
  heap : w.heap.Alike w'.heap
  globals : ∀ i, (w'.interpreter i).globals = (w.interpreter i).globals
  host : w'.host = w.host
  locate : w'.locate = w.locate
  history : w.history <:+ w'.history

/-- What a calm run does to a world. -/
structure World.Calm (w w' : World) : Prop where
  heap : w.heap.Steady w'.heap
  globals : ∀ i, (w'.interpreter i).globals = (w.interpreter i).globals
  host : w'.host = w.host
  locate : w'.locate = w.locate
  history : w.history <:+ w'.history

namespace World.Calm

lemma alike {w w' : World} (h : w.Calm w') : w.Alike w' :=
  ⟨h.heap.toAlike, h.globals, h.host, h.locate, h.history⟩

lemma refl (w : World) : w.Calm w :=
  ⟨.refl _, fun _ => rfl, rfl, rfl, List.suffix_rfl⟩

lemma trans {w w' w'' : World} (h : w.Calm w') (h' : w'.Calm w'') : w.Calm w'' :=
  ⟨h.heap.trans h'.heap, fun i => (h'.globals i).trans (h.globals i), h'.host.trans h.host,
    h'.locate.trans h.locate, h.history.trans h'.history⟩

/-- Nothing but the heap changes, and that calmly. -/
lemma withHeap (w : World) {heap : Heap} (h : w.heap.Steady heap) : w.Calm { w with heap } :=
  ⟨h, fun _ => rfl, rfl, rfl, List.suffix_rfl⟩

/-- A count that is set. -/
lemma counting (w : World) (i : InterpreterRef) (depth : Nat) : w.Calm (w.counting i depth) := by
  refine ⟨.refl _, fun j => ?_, rfl, rfl, List.suffix_rfl⟩
  show (Array.getD (w.interpreters.modify i.index _) j.index default).globals = _
  rw [Array.getD_eq_getD_getElem?, Array.getElem?_modify, World.interpreter,
    Array.getD_eq_getD_getElem?]
  split
  · cases w.interpreters[j.index]? <;> rfl
  · rfl

end World.Calm

variable {α β : Type}

/-- A calm run. -/
abbrev Run.Calm (x : Run α) : Prop := x.Keeps World.Calm

/-! ## The ways of putting runs together -/

lemma calm_pure (a : α) : Run.Calm (pure a : Run α) := fun w => .refl w

lemma calm_fail (failure : Failure) : Run.Calm (fail failure : Run α) := fun w => .refl w

lemma calm_exhausted : Run.Calm (exhausted : Run α) := fun w => .refl w

lemma Run.Calm.bind {x : Run α} {f : α → Run β} (hx : x.Calm) (hf : ∀ a, (f a).Calm) :
    (x >>= f).Calm :=
  Keeps.bind (R := World.Calm) World.Calm.trans hx hf

lemma Run.Calm.capture {x : Run α} (hx : x.Calm) : (capture x).Calm := fun w => by
  rw [after_capture]
  exact hx w

/-- A check before something else. -/
lemma calm_guarded {c : Prop} [Decidable c] {failure : Failure} {rest : Run α} (hrest : rest.Calm) :
    Run.Calm (if c then (fail failure : Run PUnit) >>= fun _ => rest else rest) := by
  split
  · exact (calm_fail failure).bind fun _ => hrest
  · exact hrest

/-! ## Reading and stopping -/

lemma calm_get : Run.Calm (get : Run World) := fun w => .refl w

lemma calm_readHeap (f : Heap → α) : (readHeap f).Calm := fun w => .refl w

lemma calm_ofOption : ∀ a : Option α, (ofOption a).Calm
  | some a => calm_pure a
  | none => calm_exhausted

lemma calm_ofExcept : ∀ outcome : Except Failure α, (ofExcept outcome).Calm
  | .ok a => calm_pure a
  | .error failure => calm_fail failure

lemma calm_interpreter (i : InterpreterRef) : (interpreter i).Calm := fun w => .refl w

lemma calm_note (event : Event) : (note event).Calm := fun _ =>
  ⟨.refl _, fun _ => rfl, rfl, rfl, List.suffix_cons _ _⟩

lemma calm_text (v : Value) : (text v).Calm := (calm_readHeap _).bind fun _ => calm_ofOption _

lemma calm_number (v : Value) : (number v).Calm := (calm_readHeap _).bind fun _ => calm_ofOption _

/-! ## The heap -/

lemma calm_withHeap {f : Heap → α × Heap} (hf : ∀ heap : Heap, heap.Steady (f heap).2) :
    (withHeap f).Calm :=
  fun w => .withHeap w (hf w.heap)

lemma calm_newObject (cell : ObjectCell) : (newObject cell).Calm :=
  calm_withHeap fun _ => .of_eq rfl rfl

lemma calm_newArray (items : List Value) : (newArray items).Calm :=
  calm_withHeap fun _ => .of_eq rfl rfl

lemma calm_newNative (name : String) (native : Native) : (newFunction name (.native native)).Calm :=
  calm_withHeap fun _ => .newNative _ _ _

lemma calm_lookup (scope : ScopeRef) (name : String) : (lookup scope name).Calm :=
  (calm_readHeap _).bind fun
    | some v => calm_pure v
    | none => calm_fail _

lemma calm_assign (scope : ScopeRef) (name : String) (v : Value) : (assign scope name v).Calm :=
  (calm_withHeap fun _ => .assign _ _ _ _).bind fun
    | .done => calm_pure _
    | .constant => calm_fail _
    | .unbound => calm_fail _

lemma calm_write (target : Value) (key : String) (v : Value) : (write target key v).Calm :=
  (calm_withHeap fun _ => .write _ _ _ _).bind fun
    | none => calm_exhausted
    | some .stored => calm_pure _
    | some .dropped => calm_pure _
    | some .invalidLength => calm_fail _

/-! ## Operators and built-in functions -/

lemma calm_arithmetic (op : Float → Float → Float) (left right : Value) :
    (arithmetic op left right).Calm :=
  (calm_number left).bind fun _ => (calm_number right).bind fun _ => calm_pure _

lemma calm_ordered (test : Ordering → Bool) (left right : Value) : (ordered test left right).Calm :=
  (calm_readHeap _).bind fun _ => (calm_ofOption _).bind fun _ => calm_pure _

lemma calm_looseEquals (left right : Value) : (looseEquals left right).Calm :=
  (calm_readHeap _).bind fun _ => calm_ofOption _

lemma calm_binary (op : BinaryOp) (left right : Value) : (binary op left right).Calm := by
  cases op with
  | add =>
      rw [binary]
      split
      · exact (calm_text left).bind fun _ => (calm_text right).bind fun _ => calm_pure _
      · exact calm_arithmetic _ left right
  | sub => exact calm_arithmetic _ left right
  | mul => exact calm_arithmetic _ left right
  | div => exact calm_arithmetic _ left right
  | mod => exact calm_arithmetic _ left right
  | equal => exact (calm_looseEquals left right).bind fun _ => calm_pure _
  | notEqual => exact (calm_looseEquals left right).bind fun _ => calm_pure _
  | strictEqual => exact calm_pure _
  | strictNotEqual => exact calm_pure _
  | less => exact calm_ordered _ left right
  | lessEqual => exact calm_ordered _ left right
  | greater => exact calm_ordered _ left right
  | greaterEqual => exact calm_ordered _ left right

lemma calm_sliceIndex (length default : Nat) (v : Value) : (sliceIndex length default v).Calm := by
  unfold sliceIndex
  split
  · exact calm_pure _
  · exact (calm_number _).bind fun _ => calm_pure _

lemma calm_textMethod (method : TextMethod) (receiver : Value) (arguments : List Value) :
    (textMethod method receiver arguments).Calm := by
  unfold textMethod
  split
  case h_2 => exact calm_fail _
  case h_1 s =>
  cases method with
  | toUpperCase => exact calm_pure _
  | toLowerCase => exact calm_pure _
  | indexOf =>
      cases arguments with
      | nil =>
          refine (calm_pure _).bind fun needle => ?_
          dsimp only
          split <;> exact calm_pure _
      | cons v rest =>
          refine (calm_text v).bind fun needle => ?_
          dsimp only
          split <;> exact calm_pure _
  | slice =>
      exact (calm_sliceIndex _ _ _).bind fun _ => (calm_sliceIndex _ _ _).bind fun _ => calm_pure _

lemma calm_push (ref : ArrayRef) (values : List Value) : (push ref values).Calm :=
  (calm_readHeap _).bind fun _ =>
    calm_guarded ((calm_withHeap fun _ => .of_eq rfl rfl).bind fun _ => calm_pure _)

lemma calm_arrayMethod (method : ArrayMethod) (receiver : Value) (arguments : List Value) :
    (arrayMethod method receiver arguments).Calm := by
  unfold arrayMethod
  split
  case h_2 => exact calm_fail _
  case h_1 ref =>
  cases method with
  | push => exact calm_push ref arguments
  | join =>
      have joined (separator : String) : Run.Calm (do
          return Value.text (← ofOption (← readHeap fun heap =>
            heap.joined? separator (heap.arrayAt ref).toList))) :=
        (calm_readHeap _).bind fun _ => (calm_ofOption _).bind fun _ => calm_pure _
      dsimp only
      split
      · exact (calm_pure _).bind fun _ => joined _
      · exact (calm_text _).bind fun _ => joined _
  | indexOf =>
      refine (calm_readHeap _).bind fun items => ?_
      split <;> exact calm_pure _

lemma calm_makeError (name : String) (arguments : List Value) : (makeError name arguments).Calm := by
  unfold makeError
  dsimp only
  split
  · exact (calm_pure _).bind fun _ => calm_newObject _
  · exact (calm_text _).bind fun _ => calm_newObject _

lemma calm_texts : ∀ values : List Value, (texts values).Calm
  | [] => calm_pure _
  | v :: rest => (calm_text v).bind fun _ => (calm_texts rest).bind fun _ => calm_pure _

lemma calm_print (level : ConsoleLevel) (arguments : List Value) : (print level arguments).Calm := by
  refine (calm_texts arguments).bind fun lines => Calm.bind (fun w => ?_) fun _ => calm_pure _
  cases level <;> exact ⟨.refl _, fun _ => rfl, rfl, rfl, List.suffix_rfl⟩

/-! ## Properties and targets -/

/-- A built-in method that is made is a native function. -/
lemma calm_property (object : Value) (key : String) : Run.Calm (do
    let value ← readHeap (·.get object key)
    if value = .undefined then
      match builtinMethod? object key with
      | some method => newFunction key (.native method)
      | none => return value
    else return value) := by
  refine (calm_readHeap _).bind fun v => ?_
  split
  · split
    · exact calm_newNative _ _
    · exact calm_pure _
  · exact calm_pure _

lemma calm_member (object : Value) (key : String) : (member object key).Calm := by
  unfold member
  dsimp only
  split
  · exact (calm_text _).bind fun _ => (calm_fail _).bind fun _ => calm_property object key
  · exact calm_property object key

lemma calm_readTarget (scope : ScopeRef) : ∀ target : Target, (target.read scope).Calm
  | .name n => calm_lookup scope n
  | .property object key => calm_member object key

lemma calm_writeTarget (scope : ScopeRef) (v : Value) : ∀ target : Target, (target.write scope v).Calm
  | .name n => calm_assign scope n v
  | .property object key => by
      have written : Run.Calm (do let _ ← write object key v) :=
        (calm_write _ _ _).bind fun _ => calm_pure _
      unfold Target.write
      dsimp only
      split
      · exact (calm_text _).bind fun _ => (calm_fail _).bind fun _ => written
      · exact written

/-! ## Modules -/

lemma calm_requestedId (arguments : List Value) : (requestedId arguments).Calm := by
  unfold requestedId
  split
  · exact calm_pure _
  · exact calm_fail _

lemma calm_requireFunction (base : String) : (requireFunction base).Calm :=
  (calm_newNative _ _).bind fun _ => (calm_newNative _ _).bind fun _ =>
    (calm_write _ _ _).bind fun _ => calm_pure _

lemma calm_exportsOf (record : Record) : (exportsOf record).Calm := calm_readHeap _

/-- The session's books, kept with no more than a module object made. -/
lemma calm_books (w : World) {registry : Registry} {heap : Heap} (h : w.heap.Steady heap) :
    w.Calm { w with registry, heap } :=
  ⟨h, fun _ => rfl, rfl, rfl, List.suffix_rfl⟩

lemma calm_modifyRegistry (change : Registry → Registry) : (modifyRegistry change).Calm :=
  fun w => calm_books w (.refl _)

lemma calm_findRecord (id : String) : (findRecord id).Calm := fun w => by
  refine calm_books w ?_
  split
  · exact .refl _
  · split
    · exact .refl _
    · exact .of_eq rfl rfl

lemma calm_createRecord (key : String) (resource : Resource) : (createRecord key resource).Calm :=
  fun w => calm_books w (.of_eq rfl rfl)

lemma calm_insertNative (id : String) (value : Value) : (insertNative id value).Calm :=
  fun w => calm_books w (.of_eq rfl rfl)

lemma calm_takeProvider (id : String) : (takeProvider id).Calm := fun w => calm_books w (.refl _)

lemma calm_countCall (ref : ProviderRef) : (countCall ref).Calm := fun _ =>
  ⟨.refl _, fun _ => rfl, rfl, rfl, List.suffix_rfl⟩

lemma calm_newProvider (provider : Provider) : (newProvider provider).Calm := fun _ =>
  ⟨.refl _, fun _ => rfl, rfl, rfl, List.suffix_rfl⟩

lemma calm_setExtras (value : Value) :
    ∀ extras : List (String × Json), (setExtras value extras).Calm
  | [] => calm_pure _
  | _ :: rest =>
      (calm_withHeap fun _ => .ofJson _ _).bind fun _ =>
        (calm_write _ _ _).capture.bind fun _ => calm_setExtras value rest

lemma calm_reported : ∀ outcome : Except Failure Value, (reported outcome).Calm
  | .ok _ => calm_pure _
  | .error _ => (calm_readHeap _).bind fun _ => (calm_ofOption _).bind fun _ => calm_pure _

lemma calm_locateResource (id : String) : (locateResource id).Calm := by
  refine (calm_note _).bind fun _ => calm_get.bind fun w => ?_
  split
  · exact calm_pure _
  · exact calm_fail _

lemma calm_conclude (request base : String) : ∀ outcome : Except Failure Record,
    (conclude request base outcome).Calm
  | .ok record => (calm_note _).bind fun _ => calm_exportsOf record
  | .error failure => (calm_note _).bind fun _ => calm_fail failure

end ModuleRunner.Evaluation
