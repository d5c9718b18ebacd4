import ModuleRunner.Evaluation.Interpreter
import ModuleRunner.Proofs.Evaluation.Run
import ModuleRunner.Proofs.Parsing.Document

/-!
# Documents as programs

A document in parentheses is a program, and running it makes the value that the document is: the same
containers around the same parts, key by key.  Two ways lead there that share no code.  Both make the
parts of a container before the container, each in its own heap, and neither touches a cell that is
there already; so the parts of the two values stay alike while the rest is made, and two new
containers around them are alike in turn.

Running the program reads numbers off their digits, and a minus sign is an operator; so a number may
come out as another one that is equal to it, which is what happens to a negative zero.

* `Resembles` — values of two heaps that look the same.
* `Twins` — what was made in two heaps, with laws for arrays and objects.
* `evaluate_document` — the expression of a document against the value of the document.
* `documents_evaluate` — the program against the value.
-/

namespace ModuleRunner

/-- A key that is not there goes to the end. -/
lemma Table.put_of_forall_ne {α : Type} {key : String} {value : α} {table : Table α}
    (h : ∀ entry ∈ table, entry.1 ≠ key) : table.put key value = table ++ [(key, value)] := by
  induction table with
  | nil => rfl
  | cons entry rest ih =>
      obtain ⟨hfirst, hrest⟩ := List.forall_mem_cons.mp h
      rw [Table.put, if_neg hfirst, ih hrest, List.cons_append]

namespace Script

/-! ## Values that look the same -/

/-- Values of two heaps that look the same: equal primitives, and containers of the same kind around
values that look the same, the keys of objects in the same order. -/
inductive Resembles (heap heap' : Heap) : Value → Value → Prop where
  | null : Resembles heap heap' .null .null
  | boolean (b : Bool) : Resembles heap heap' (.boolean b) (.boolean b)
  | number {x y : Float} (h : (x == y) = true) : Resembles heap heap' (.number x) (.number y)
  | text (s : String) : Resembles heap heap' (.text s) (.text s)
  | array {ref ref' : ArrayRef}
      (h : List.Forall₂ (Resembles heap heap') (heap.arrayAt ref).toList
        (heap'.arrayAt ref').toList) :
      Resembles heap heap' (.array ref) (.array ref')
  | object {ref ref' : ObjectRef}
      (herror : (heap.objectAt ref).isError = (heap'.objectAt ref').isError)
      (hkeys : (heap.objectAt ref).properties.keys = (heap'.objectAt ref').properties.keys)
      (h : List.Forall₂ (Resembles heap heap') ((heap.objectAt ref).properties.map Prod.snd)
        ((heap'.objectAt ref').properties.map Prod.snd)) :
      Resembles heap heap' (.object ref) (.object ref')

/-- Properties that look the same: the same keys in the same order, with values that do. -/
structure ResemblingProperties (heap heap' : Heap) (properties properties' : Table Value) :
    Prop where
  keys : properties.keys = properties'.keys
  values : List.Forall₂ (Resembles heap heap') (properties.map Prod.snd) (properties'.map Prod.snd)

/-- New cells in two heaps: in each those that were there stay, and something holds in all later
heaps. -/
structure Twins (old new old' new' : Heap) (Q : Heap → Heap → Prop) : Prop where
  keeps : old.Keeps new
  keeps' : old'.Keeps new'
  holds : ∀ {later later' : Heap}, new.Keeps later → new'.Keeps later' → Q later later'

namespace Twins

variable {old middle new old' middle' new' : Heap} {Q S : Heap → Heap → Prop}

lemma none (h : ∀ later later', Q later later') : Twins old old old' old' Q :=
  ⟨.refl old, .refl old', fun _ _ => h _ _⟩

lemma imp (h : Twins old new old' new' Q) (himp : ∀ later later', Q later later' → S later later') :
    Twins old new old' new' S :=
  ⟨h.keeps, h.keeps', fun hlater hlater' => himp _ _ (h.holds hlater hlater')⟩

/-- Some new cells and then others. -/
lemma trans (h : Twins old middle old' middle' Q) (hnext : Twins middle new middle' new' S) :
    Twins old new old' new' fun later later' => Q later later' ∧ S later later' where
  keeps := h.keeps.trans hnext.keeps
  keeps' := h.keeps'.trans hnext.keeps'
  holds hlater hlater' :=
    ⟨h.holds (hnext.keeps.trans hlater) (hnext.keeps'.trans hlater'), hnext.holds hlater hlater'⟩

/-- New arrays around elements that look the same. -/
lemma newArray {values values' : List Value}
    (h : Twins old middle old' middle' fun later later' =>
      List.Forall₂ (Resembles later later') values values') :
    Twins old (middle.newArray values.toArray).2 old' (middle'.newArray values'.toArray).2
      fun later later' => Resembles later later' (.array (middle.newArray values.toArray).1)
        (.array (middle'.newArray values'.toArray).1) where
  keeps := h.keeps.trans (.newArray middle _)
  keeps' := h.keeps'.trans (.newArray middle' _)
  holds hlater hlater' := by
    refine .array ?_
    rw [hlater.arrayAt_newArray, hlater'.arrayAt_newArray]
    exact h.holds ((Heap.Keeps.newArray middle _).trans hlater)
      ((Heap.Keeps.newArray middle' _).trans hlater')

/-- New objects around properties that look the same. -/
lemma newObject {properties properties' : Table Value}
    (h : Twins old middle old' middle' fun later later' =>
      ResemblingProperties later later' properties properties') :
    Twins old (middle.newObject ⟨false, properties⟩).2 old'
      (middle'.newObject ⟨false, properties'⟩).2 fun later later' =>
        Resembles later later' (.object (middle.newObject ⟨false, properties⟩).1)
          (.object (middle'.newObject ⟨false, properties'⟩).1) where
  keeps := h.keeps.trans (.newObject middle _)
  keeps' := h.keeps'.trans (.newObject middle' _)
  holds hlater hlater' := by
    have hproperties := h.holds ((Heap.Keeps.newObject middle _).trans hlater)
      ((Heap.Keeps.newObject middle' _).trans hlater')
    refine .object ?_ ?_ ?_ <;> rw [hlater.objectAt_newObject, hlater'.objectAt_newObject]
    · exact hproperties.keys
    · exact hproperties.values

end Twins

end Script

namespace Evaluation

open Script Run

/-! ## Running the expression of a document -/

/-- A run makes a value in its world, changing nothing else there, as the value is made in another
heap. -/
def Mirrors {α β : Type} (run : Run α) (w : World) (old' : Heap) (made : β × Heap)
    (Q : Heap → Heap → α → β → Prop) : Prop :=
  ∃ a new, run w = .ok a { w with heap := new } ∧
    Twins w.heap new old' made.2 fun later later' => Q later later' a made.1

section Containers

variable {m : Machine} {i : InterpreterRef} {scope : ScopeRef}

/-- The elements of an array, each of which is made. -/
lemma evaluateAll_mirrors {items : List Json}
    (h : ∀ item ∈ items, ∀ w old',
      Mirrors (m.evaluate i scope item.expression) w old' (old'.ofJson item) Resembles)
    (w : World) (old' : Heap) :
    Mirrors (evaluateAll m i scope (Json.itemExpressions items)) w old' (old'.ofJsonItems items)
      fun later later' => List.Forall₂ (Resembles later later') := by
  induction items generalizing w old' with
  | nil => exact ⟨[], w.heap, rfl, .none fun _ _ => .nil⟩
  | cons item rest ih =>
      obtain ⟨v, middle, hrun, hmade⟩ := h item List.mem_cons_self w old'
      obtain ⟨vs, new, hruns, hmades⟩ :=
        ih (fun other hmem => h other (List.mem_cons_of_mem _ hmem)) { w with heap := middle }
          (old'.ofJson item).2
      refine ⟨v :: vs, new, ?_, (hmade.trans hmades).imp fun _ _ hboth => .cons hboth.1 hboth.2⟩
      rw [Json.itemExpressions, evaluateAll, bind_of_ok hrun, bind_of_ok hruns]
      rfl

/-- The properties of an object, each of which is made.  Their keys are new, so each property goes
behind those made before. -/
lemma evaluateProperties_mirrors {entries : List (String × Json)} (hsorted : Json.Sorted entries)
    (h : ∀ entry ∈ entries, ∀ w old',
      Mirrors (m.evaluate i scope entry.2.expression) w old' (old'.ofJson entry.2) Resembles)
    (done : Table Value) (hdone : ∀ property ∈ done, ∀ entry ∈ entries, property.1 < entry.1)
    (w : World) (old' : Heap) :
    Mirrors (evaluateProperties m i scope done (Json.entryExpressions entries)) w old'
      (old'.ofJsonEntries entries) fun later later' all properties' =>
        ∃ properties, all = done ++ properties ∧
          ResemblingProperties later later' properties properties' := by
  induction entries generalizing done w old' with
  | nil =>
      exact ⟨done, w.heap, rfl, .none fun _ _ => ⟨[], (List.append_nil done).symm, rfl, .nil⟩⟩
  | cons entry rest ih =>
      obtain ⟨hfirst, hrest⟩ := List.pairwise_cons.mp hsorted
      obtain ⟨v, middle, hrun, hmade⟩ := h entry List.mem_cons_self w old'
      have hput : done.put entry.1 v = done ++ [(entry.1, v)] :=
        Table.put_of_forall_ne fun property hmem =>
          (hdone property hmem entry List.mem_cons_self).ne
      have hdone' : ∀ property ∈ done ++ [(entry.1, v)], ∀ other ∈ rest, property.1 < other.1 := by
        intro property hmem other hother
        rcases List.mem_append.mp hmem with hmem | hmem
        · exact hdone property hmem other (List.mem_cons_of_mem _ hother)
        · rw [List.mem_singleton.mp hmem]
          exact hfirst other hother
      obtain ⟨all, new, hruns, hmades⟩ :=
        ih hrest (fun other hmem => h other (List.mem_cons_of_mem _ hmem)) _ hdone'
          { w with heap := middle } (old'.ofJson entry.2).2
      refine ⟨all, new, ?_, (hmade.trans hmades).imp ?_⟩
      · rw [Json.entryExpressions, evaluateProperties, bind_of_ok hrun, hput]
        exact hruns
      · rintro later later' ⟨hv, properties, hall, hproperties⟩
        refine ⟨(entry.1, v) :: properties, ?_, ?_, .cons hv hproperties.values⟩
        · rw [hall, List.append_assoc, List.singleton_append]
        · exact congrArg (entry.1 :: ·) hproperties.keys

end Containers

/-- A numeral is read as its digits are, and a sign before it is an operator. -/
lemma evaluate_number (x : Float) (n : Nat) (i : InterpreterRef) (scope : ScopeRef) (w : World) :
    (machine (n + 2)).evaluate i scope (Json.number x).expression w =
      .ok (.number (Decimal.reread x)) w := by
  rw [Json.expression, Decimal.reread]
  split <;> rfl

/-- The expression of a document makes the value of the document. -/
theorem evaluate_document {document : Json} (h : document.Whole) {n : Nat}
    (hn : document.nesting + 2 ≤ n) (i : InterpreterRef) (scope : ScopeRef) (w : World)
    (old' : Heap) :
    Mirrors ((machine n).evaluate i scope document.expression) w old' (old'.ofJson document)
      Resembles := by
  induction h generalizing n w old' with
  | null =>
      obtain ⟨m, rfl⟩ := Nat.exists_eq_add_of_le' hn
      exact ⟨.null, w.heap, rfl, .none fun _ _ => .null⟩
  | boolean b =>
      obtain ⟨m, rfl⟩ := Nat.exists_eq_add_of_le' hn
      exact ⟨.boolean b, w.heap, rfl, .none fun _ _ => .boolean b⟩
  | @number x hwhole hsmall =>
      obtain ⟨m, rfl⟩ := Nat.exists_eq_add_of_le' hn
      exact ⟨.number (Decimal.reread x), w.heap, evaluate_number x m i scope w,
        .none fun _ _ => .number (Decimal.reread_beq hwhole hsmall)⟩
  | text s =>
      obtain ⟨m, rfl⟩ := Nat.exists_eq_add_of_le' hn
      exact ⟨.text s, w.heap, rfl, .none fun _ _ => .text s⟩
  | @array items _ ih =>
      obtain ⟨m, rfl⟩ := Nat.exists_eq_succ_of_ne_zero (by omega : n ≠ 0)
      rw [Json.nesting] at hn
      have hitems : ∀ item ∈ items, ∀ w old', Mirrors ((machine m).evaluate i scope item.expression)
          w old' (old'.ofJson item) Resembles := by
        intro item hmem
        have hdeep := Json.nesting_le_itemNesting hmem
        exact ih item hmem (by omega)
      obtain ⟨vs, middle, hrun, hmade⟩ := evaluateAll_mirrors hitems w old'
      refine ⟨_, _, ?_, hmade.newArray⟩
      rw [Json.expression]
      exact bind_of_ok hrun
  | @object entries hsorted _ ih =>
      obtain ⟨m, rfl⟩ := Nat.exists_eq_succ_of_ne_zero (by omega : n ≠ 0)
      rw [Json.nesting] at hn
      have hentries : ∀ entry ∈ entries, ∀ w old',
          Mirrors ((machine m).evaluate i scope entry.2.expression) w old'
            (old'.ofJson entry.2) Resembles := by
        intro entry hmem
        have hdeep := Json.nesting_le_entryNesting hmem
        exact ih entry hmem (by omega)
      obtain ⟨properties, middle, hrun, hmade⟩ :=
        evaluateProperties_mirrors hsorted hentries [] (List.forall_mem_nil _) w old'
      have hresembling : Twins w.heap middle old' (old'.ofJsonEntries entries).2 fun later later' =>
          ResemblingProperties later later' properties (old'.ofJsonEntries entries).1 := by
        refine hmade.imp ?_
        rintro later later' ⟨_, rfl, hproperties⟩
        exact hproperties
      refine ⟨_, _, ?_, hresembling.newObject⟩
      rw [Json.expression]
      exact bind_of_ok hrun

/-! ## Running the program -/

/-- A program of one expression has the value of the expression: it declares nothing ahead. -/
lemma evaluateSource_of_parse {m : Machine} {source : String} {e : Expression}
    (hparse : parse source = .ok [.expression e]) (i : InterpreterRef) (w : World) :
    evaluateSource m i source w = m.evaluate i (w.interpreter i).globals e w := by
  have hparsed : parsed source w = .ok [.expression e] w := by
    rw [parsed, hparse]
    rfl
  have hprogram : runProgram m i (w.interpreter i).globals .undefined [.expression e] w =
      m.evaluate i (w.interpreter i).globals e w := congrFun (bind_pure _) w
  rw [evaluateSource, bind_of_ok hparsed]
  exact hprogram

/-- **Documents are programs.**  The compact text of a document in parentheses runs to a value that
looks the same as the value of the document, whatever the world is like that it runs in and wherever
the other value is made; and of that world nothing changes but the heap. -/
theorem documents_evaluate {document : Json} (h : document.Whole) (hnesting : document.nesting ≤ 100)
    (i : InterpreterRef) (w : World) (other : Heap) :
    ∃ v heap, Interpreter.eval i ("(" ++ document.compact ++ ")") w = .ok v { w with heap := heap } ∧
      Resembles heap (other.ofJson document).2 v (other.ofJson document).1 := by
  have hroom : document.nesting + 4 ≤ Script.maxNesting :=
    (Nat.add_le_add_right hnesting 4).trans (by decide)
  have hmachine : document.nesting + 2 ≤ levels :=
    (Nat.add_le_add_right hnesting 2).trans (by decide)
  obtain ⟨v, heap, hrun, hmade⟩ :=
    evaluate_document h hmachine i (w.interpreter i).globals w other
  refine ⟨v, heap, ?_, hmade.holds (.refl heap) (.refl _)⟩
  rw [Interpreter.eval, evaluateSource_of_parse (Parser.parse_compact h hroom), hrun]

/-- A document with a negative number, a negative zero and a key that needs an escape. -/
theorem documents_evaluate_nested :
    let document : Json := .object
      [("list", .array [.number (-3), .null]), ("say \"zero\"", .object [("", .number (-0.0))])]
    document.Whole ∧ document.nesting ≤ 100 ∧
    ∃ v heap, Interpreter.eval ⟨0⟩
        "(\x7b\"list\":[-3,null],\"say \\\"zero\\\"\":\x7b\"\":0\x7d\x7d)" .empty =
        .ok v { World.empty with heap := heap } ∧
      Resembles heap (Heap.empty.ofJson document).2 v (Heap.empty.ofJson document).1 := by
  intro document
  have hlist : (Json.array [.number (-3), .null]).Whole := by
    refine .array fun item hmem => ?_
    simp only [List.mem_cons, List.not_mem_nil, or_false] at hmem
    rcases hmem with rfl | rfl
    · exact .number (by decide) (by decide)
    · exact .null
  have hzero : (Json.object [("", .number (-0.0))]).Whole := by
    refine .object (List.pairwise_singleton _ _) fun entry hmem => ?_
    rw [List.mem_singleton.mp hmem]
    exact .number (by decide +kernel) (by decide +kernel)
  have hwhole : document.Whole := by
    refine .object (by unfold Json.Sorted; decide) fun entry hmem => ?_
    simp only [List.mem_cons, List.not_mem_nil, or_false] at hmem
    rcases hmem with rfl | rfl
    · exact hlist
    · exact hzero
  have hnesting : document.nesting ≤ 100 := by decide
  have hsource : "(" ++ document.compact ++ ")" =
      "(\x7b\"list\":[-3,null],\"say \\\"zero\\\"\":\x7b\"\":0\x7d\x7d)" := by decide +kernel
  rw [← hsource]
  exact ⟨hwhole, hnesting, documents_evaluate hwhole hnesting ⟨0⟩ .empty .empty⟩

end Evaluation

end ModuleRunner
