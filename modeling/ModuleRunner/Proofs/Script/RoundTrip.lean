import Mathlib.Data.String.Basic
import ModuleRunner.Json.Printer
import ModuleRunner.Proofs.Script.Unfolding

/-!
# Documents through values and back

A document goes into a heap as new cells, the parts of a container before the container itself.  So
the cells of a document lead to older ones only and none of them leads back, and the value unfolds to
the document that it was made from.

What a value unfolds to is a document in turn: its numbers are finite and its objects are in key
order, whatever the heap looks like.  Hence a value goes through a document once and for all.

* `Json.Proper` — finite numbers, and objects in key order.
* `Json.ofEntries_of_sorted`, `Json.sorted_ofEntries` — what putting entries in order does.
* `Heap.Keeps` — a heap that has the cells of another one.
* `Made`, `Made.ofJson` — a new value unfolds to its document, below any path that leads around it.
* `Unfolds.proper` — what a value unfolds to is proper.
* `documents_round_trip` — both round trips, and how whole numbers are written.
-/

namespace ModuleRunner

/-! ## Proper documents -/

namespace Json

/-- Entries in the order of their keys, no key twice. -/
def Sorted {α : Type} (entries : List (String × α)) : Prop :=
  entries.Pairwise fun a b => a.1 < b.1

/-- A document as texts spell them: its numbers are finite, and its objects are in key order. -/
inductive Proper : Json → Prop where
  | null : Proper .null
  | boolean (b : Bool) : Proper (.boolean b)
  | number {x : Float} (h : Number.isFinite x = true) : Proper (.number x)
  | text (s : String) : Proper (.text s)
  | array {items : List Json} (h : ∀ item ∈ items, Proper item) : Proper (.array items)
  | object {entries : List (String × Json)} (hsorted : Sorted entries)
      (h : ∀ entry ∈ entries, Proper entry.2) : Proper (.object entries)

section Entries

variable {α : Type} {key : String} {value : α}

lemma mem_of_mem_insert {entry : String × α} :
    ∀ {entries : List (String × α)}, entry ∈ insert key value entries →
      entry = (key, value) ∨ entry ∈ entries
  | [], h => .inl (List.mem_singleton.mp h)
  | (k, v) :: rest, h => by
      simp only [insert] at h
      split at h
      · exact (List.mem_cons.mp h).imp id (List.mem_cons_of_mem _)
      · split at h
        · exact List.mem_cons.mp h
        · rcases List.mem_cons.mp h with rfl | h
          · exact .inr List.mem_cons_self
          · exact (mem_of_mem_insert h).imp id (List.mem_cons_of_mem _)

lemma sorted_insert : ∀ {entries : List (String × α)}, Sorted entries →
    Sorted (insert key value entries)
  | [], _ => List.pairwise_singleton _ _
  | (k, v) :: rest, h => by
      obtain ⟨hfirst, hrest⟩ := List.pairwise_cons.mp h
      simp only [insert]
      split
      · next heq => exact List.pairwise_cons.mpr ⟨heq ▸ hfirst, hrest⟩
      · next hne =>
      split
      · next hlt =>
          refine List.pairwise_cons.mpr ⟨fun entry hmem => ?_, h⟩
          rcases List.mem_cons.mp hmem with rfl | hmem
          · exact hlt
          · exact hlt.trans (hfirst entry hmem)
      · next hnot =>
          refine List.pairwise_cons.mpr ⟨fun entry hmem => ?_, sorted_insert hrest⟩
          rcases mem_of_mem_insert hmem with rfl | hmem
          · exact lt_of_le_of_ne (not_lt.mp hnot) (Ne.symm hne)
          · exact hfirst entry hmem

/-- A key behind all others goes to the end. -/
lemma insert_of_forall_lt : ∀ {entries : List (String × α)}, (∀ entry ∈ entries, entry.1 < key) →
    insert key value entries = entries ++ [(key, value)]
  | [], _ => rfl
  | (k, v) :: rest, h => by
      have hlt : k < key := h (k, v) List.mem_cons_self
      simp only [insert, if_neg hlt.ne', if_neg (not_lt_of_gt hlt)]
      rw [insert_of_forall_lt fun entry hmem => h entry (List.mem_cons_of_mem _ hmem)]
      rfl

lemma mem_of_mem_ofEntries {entry : String × α} {entries : List (String × α)}
    (h : entry ∈ ofEntries entries) : entry ∈ entries := by
  induction entries using List.reverseRecOn with
  | nil => exact h
  | append_singleton entries last ih =>
      rw [ofEntries, List.foldl_append] at h
      rcases mem_of_mem_insert h with rfl | h
      · exact List.mem_append_right _ List.mem_cons_self
      · exact List.mem_append_left _ (ih h)

/-- Entries that were put in order are in order. -/
lemma sorted_ofEntries (entries : List (String × α)) : Sorted (ofEntries entries) := by
  induction entries using List.reverseRecOn with
  | nil => exact List.Pairwise.nil
  | append_singleton entries last ih =>
      rw [ofEntries, List.foldl_append]
      exact sorted_insert ih

/-- Entries that are in order already stay as they are. -/
lemma ofEntries_of_sorted {entries : List (String × α)} (h : Sorted entries) :
    ofEntries entries = entries := by
  induction entries using List.reverseRecOn with
  | nil => rfl
  | append_singleton entries last ih =>
      obtain ⟨hfirst, -, hbefore⟩ := List.pairwise_append.mp h
      rw [ofEntries, List.foldl_append]
      show insert last.1 last.2 (ofEntries entries) = entries ++ [last]
      rw [ih hfirst]
      exact insert_of_forall_lt fun entry hmem => hbefore entry hmem last List.mem_cons_self

end Entries

/-! ## Numbers -/

lemma toString_neg_of_pos {n : Nat} (h : 0 < n) : toString (-(n : Int)) = "-" ++ toString n := by
  obtain ⟨m, rfl⟩ := Nat.exists_eq_succ_of_ne_zero h.ne'
  rfl

/-- A whole number below `2 ^ 53` in magnitude is written as an integer. -/
lemma numberText_of_isWhole {x : Float} (hwhole : (Decimal.Magnitude.ofFloat x).isWhole = true)
    (hsmall : (Number.truncate x).natAbs < 2 ^ 53) :
    numberText x = toString (Number.truncate x) := by
  generalize hm : Decimal.Magnitude.ofFloat x = m at hwhole
  have hzero : m.significand = 0 ↔ m.floor = 0 := by
    constructor
    · intro hs
      simp [Decimal.Magnitude.floor, hs]
    · intro hf
      by_cases hneg : m.exponent < 0
      · rw [Decimal.Magnitude.significand_eq_floor_mul hwhole hneg, hf, Nat.zero_mul]
      · simpa [Decimal.Magnitude.floor, not_lt.mp hneg] using hf
  have hfloor : m.floor < Nat.pow 2 53 := by
    unfold Number.truncate at hsmall
    rw [hm] at hsmall
    dsimp only at hsmall
    split at hsmall <;> simpa using hsmall
  unfold numberText Number.truncate
  simp only [hm, hwhole, hfloor, decide_true, Bool.and_self, if_true]
  rcases Nat.eq_zero_or_pos m.floor with hf | hf
  · simp only [hzero.mpr hf, hf]
    cases Number.isNegative x <;> rfl
  · have hs : m.significand ≠ 0 := fun h => hf.ne' (hzero.mp h)
    cases Number.isNegative x with
    | true => simp [hs, toString_neg_of_pos hf]
    | false => rfl

end Json

namespace Script

open Json (Proper Sorted)

/-! ## Cells that stay -/

/-- A heap that has the objects and arrays of another one, and perhaps more. -/
structure Heap.Keeps (heap later : Heap) : Prop where
  objects : heap.objects.size ≤ later.objects.size
  objectAt : ∀ ref : ObjectRef, ref.index < heap.objects.size →
    later.objectAt ref = heap.objectAt ref
  arrays : heap.arrays.size ≤ later.arrays.size
  arrayAt : ∀ ref : ArrayRef, ref.index < heap.arrays.size →
    later.arrayAt ref = heap.arrayAt ref

namespace Heap.Keeps

variable {heap later last : Heap}

lemma refl (heap : Heap) : heap.Keeps heap := ⟨le_rfl, fun _ _ => rfl, le_rfl, fun _ _ => rfl⟩

lemma trans (h : heap.Keeps later) (h' : later.Keeps last) : heap.Keeps last where
  objects := h.objects.trans h'.objects
  objectAt ref href := (h'.objectAt ref (href.trans_le h.objects)).trans (h.objectAt ref href)
  arrays := h.arrays.trans h'.arrays
  arrayAt ref href := (h'.arrayAt ref (href.trans_le h.arrays)).trans (h.arrayAt ref href)

lemma newObject (heap : Heap) (cell : ObjectCell) : heap.Keeps (heap.newObject cell).2 where
  objects := by simp [Heap.newObject]
  objectAt _ href := heap.objectAt_newObject_of_lt cell href
  arrays := le_rfl
  arrayAt _ _ := rfl

lemma newArray (heap : Heap) (items : Array Value) : heap.Keeps (heap.newArray items).2 where
  objects := le_rfl
  objectAt _ _ := rfl
  arrays := by simp [Heap.newArray]
  arrayAt ref href := by
    simp [Heap.newArray, Heap.arrayAt, Array.getD_eq_getD_getElem?, Array.getElem?_push, href.ne]

/-- A new object is there for good. -/
lemma objectAt_newObject {cell : ObjectCell} (h : (heap.newObject cell).2.Keeps later) :
    later.objectAt (heap.newObject cell).1 = cell :=
  (h.objectAt _ (by simp [Heap.newObject])).trans (heap.objectAt_newObject_self cell)

/-- A new array is there for good. -/
lemma arrayAt_newArray {items : Array Value} (h : (heap.newArray items).2.Keeps later) :
    later.arrayAt (heap.newArray items).1 = items :=
  (h.arrayAt _ (by simp [Heap.newArray])).trans (heap.arrayAt_newArray_self items)

end Heap.Keeps

/-- A value that is no cell made between two heaps. -/
def Heap.Apart (heap made : Heap) : Value → Prop
  | .object ref => ref.index < heap.objects.size ∨ made.objects.size ≤ ref.index
  | .array ref => ref.index < heap.arrays.size ∨ made.arrays.size ≤ ref.index
  | _ => True

/-- What is apart from many new cells is apart from some of them. -/
lemma Heap.Apart.narrow {heap made first last : Heap} {v : Value} (h : heap.Apart made v)
    (hfirst : heap.Keeps first) (hlast : last.Keeps made) : first.Apart last v := by
  cases v with
  | object ref => exact h.imp (·.trans_le hfirst.objects) hlast.objects.trans
  | array ref => exact h.imp (·.trans_le hfirst.arrays) hlast.arrays.trans
  | _ => trivial

/-! ## From documents to values -/

namespace Unfolds

variable {heap : Heap} {path : List Value}

/-- An array whose elements have the items of a document as their documents. -/
lemma array_of_items {ref : ArrayRef} {items : List Json} (h : .array ref ∉ path)
    (hitems : List.Forall₂ (fun v item => Unfolds heap (.array ref :: path) v (some item))
      (heap.arrayAt ref).toList items) :
    Unfolds heap path (.array ref) (some (.array items)) := by
  have hrule := Unfolds.array h fun item _ =>
    unfolds_unfold heap item (Nat.lt_succ_self (heap.room (.array ref :: path)))
  have hmap {values : List Value} (hvalues : List.Forall₂
      (fun v item => Unfolds heap (.array ref :: path) v (some item)) values items) :
      (values.map fun v => (heap.unfold (heap.room (.array ref :: path) + 1)
        (.array ref :: path) v).getD .null) = items := by
    clear hitems hrule
    induction hvalues with
    | nil => rfl
    | cons hfirst _ ih =>
        rw [List.map_cons, ih,
          ← hfirst.unique (unfolds_unfold heap _ (Nat.lt_succ_self _)), Option.getD_some]
  rwa [hmap hitems] at hrule

/-- An object whose properties have the entries of a document as their documents. -/
lemma object_of_entries {ref : ObjectRef} {entries : List (String × Json)}
    (h : .object ref ∉ path) (hsorted : Sorted entries)
    (hentries : List.Forall₂ (fun property entry => property.1 = entry.1 ∧
      Unfolds heap (.object ref :: path) property.2 (some entry.2))
      (heap.objectAt ref).properties entries) :
    Unfolds heap path (.object ref) (some (.object entries)) := by
  have hrule := Unfolds.object h fun property _ =>
    unfolds_unfold heap property.2 (Nat.lt_succ_self (heap.room (.object ref :: path)))
  have hmap {properties : Table Value} (hproperties : List.Forall₂
      (fun property entry => property.1 = entry.1 ∧
        Unfolds heap (.object ref :: path) property.2 (some entry.2)) properties entries) :
      (properties.filterMap fun property => (heap.unfold (heap.room (.object ref :: path) + 1)
        (.object ref :: path) property.2).map (property.1, ·)) = entries := by
    clear hentries hrule hsorted
    induction hproperties with
    | nil => rfl
    | cons hfirst _ ih =>
        rw [List.filterMap_cons, ih,
          ← hfirst.2.unique (unfolds_unfold heap _ (Nat.lt_succ_self _)), hfirst.1]
        rfl
  rwa [hmap hentries, Json.ofEntries_of_sorted hsorted] at hrule

end Unfolds

/-- New cells: those that were there stay, and something holds in every later heap and below every
path that leads around the new ones. -/
structure Made (heap made : Heap) (Q : Heap → List Value → Prop) : Prop where
  keeps : heap.Keeps made
  holds : ∀ {later : Heap} {path : List Value}, made.Keeps later →
    (∀ v ∈ path, heap.Apart made v) → Q later path

namespace Made

variable {heap middle made : Heap} {Q S : Heap → List Value → Prop}

lemma none (h : ∀ later path, Q later path) : Made heap heap Q :=
  ⟨.refl heap, fun _ _ => h _ _⟩

lemma imp (h : Made heap made Q) (himp : ∀ later path, Q later path → S later path) :
    Made heap made S :=
  ⟨h.keeps, fun hlater hpath => himp _ _ (h.holds hlater hpath)⟩

/-- Some new cells and then others. -/
lemma trans (h : Made heap middle Q) (h' : Made middle made S) :
    Made heap made fun later path => Q later path ∧ S later path where
  keeps := h.keeps.trans h'.keeps
  holds hlater hpath :=
    ⟨h.holds (h'.keeps.trans hlater) fun v hv => (hpath v hv).narrow (.refl heap) h'.keeps,
      h'.holds hlater fun v hv => (hpath v hv).narrow h.keeps (.refl made)⟩

/-- A new array around new elements. -/
lemma newArray {values : List Value} {items : List Json}
    (h : Made heap middle fun later path =>
      List.Forall₂ (fun v item => Unfolds later path v (some item)) values items) :
    Made heap (middle.newArray values.toArray).2 fun later path =>
      Unfolds later path (.array (middle.newArray values.toArray).1) (some (.array items)) where
  keeps := h.keeps.trans (.newArray middle _)
  holds {later path} hlater hpath := by
    have hnew : (middle.newArray values.toArray).2.arrays.size = middle.arrays.size + 1 :=
      Array.size_push _
    have hfresh : .array (middle.newArray values.toArray).1 ∉ path := by
      intro hmem
      have hold := h.keeps.arrays
      rcases hpath _ hmem with hlt | hle
      · exact absurd hlt (Nat.not_lt.mpr hold)
      · exact absurd (hnew ▸ hle) (Nat.not_succ_le_self _)
    refine .array_of_items hfresh ?_
    rw [hlater.arrayAt_newArray]
    refine h.holds ((Heap.Keeps.newArray middle _).trans hlater) fun v hmem => ?_
    rcases List.mem_cons.mp hmem with rfl | hmem
    · exact .inr le_rfl
    · exact (hpath v hmem).narrow (.refl heap) (.newArray middle _)

/-- A new object around new properties. -/
lemma newObject {properties : Table Value} {entries : List (String × Json)}
    (hsorted : Sorted entries)
    (h : Made heap middle fun later path => List.Forall₂ (fun property entry =>
      property.1 = entry.1 ∧ Unfolds later path property.2 (some entry.2)) properties entries) :
    Made heap (middle.newObject ⟨false, properties⟩).2 fun later path =>
      Unfolds later path (.object (middle.newObject ⟨false, properties⟩).1)
        (some (.object entries)) where
  keeps := h.keeps.trans (.newObject middle _)
  holds {later path} hlater hpath := by
    have hnew : (middle.newObject ⟨false, properties⟩).2.objects.size = middle.objects.size + 1 :=
      Array.size_push _
    have hfresh : .object (middle.newObject ⟨false, properties⟩).1 ∉ path := by
      intro hmem
      have hold := h.keeps.objects
      rcases hpath _ hmem with hlt | hle
      · exact absurd hlt (Nat.not_lt.mpr hold)
      · exact absurd (hnew ▸ hle) (Nat.not_succ_le_self _)
    refine .object_of_entries hfresh hsorted ?_
    rw [hlater.objectAt_newObject]
    refine h.holds ((Heap.Keeps.newObject middle _).trans hlater) fun v hmem => ?_
    rcases List.mem_cons.mp hmem with rfl | hmem
    · exact .inr le_rfl
    · exact (hpath v hmem).narrow (.refl heap) (.newObject middle _)

/-- The values of items, each of which makes its value. -/
lemma ofJsonItems {items : List Json}
    (h : ∀ item ∈ items, ∀ heap : Heap, Made heap (heap.ofJson item).2 fun later path =>
      Unfolds later path (heap.ofJson item).1 (some item)) (heap : Heap) :
    Made heap (heap.ofJsonItems items).2 fun later path => List.Forall₂
      (fun v item => Unfolds later path v (some item)) (heap.ofJsonItems items).1 items := by
  induction items generalizing heap with
  | nil => exact none fun _ _ => .nil
  | cons item rest ih =>
      have hfirst := h item List.mem_cons_self heap
      have hrest := ih (fun other hmem => h other (List.mem_cons_of_mem _ hmem)) (heap.ofJson item).2
      exact (hfirst.trans hrest).imp fun _ _ ⟨hv, hvalues⟩ => .cons hv hvalues

/-- The properties of entries, each of which makes its value. -/
lemma ofJsonEntries {entries : List (String × Json)}
    (h : ∀ entry ∈ entries, ∀ heap : Heap, Made heap (heap.ofJson entry.2).2 fun later path =>
      Unfolds later path (heap.ofJson entry.2).1 (some entry.2)) (heap : Heap) :
    Made heap (heap.ofJsonEntries entries).2 fun later path => List.Forall₂
      (fun property entry => property.1 = entry.1 ∧ Unfolds later path property.2 (some entry.2))
      (heap.ofJsonEntries entries).1 entries := by
  induction entries generalizing heap with
  | nil => exact none fun _ _ => .nil
  | cons entry rest ih =>
      have hfirst := h entry List.mem_cons_self heap
      have hrest :=
        ih (fun other hmem => h other (List.mem_cons_of_mem _ hmem)) (heap.ofJson entry.2).2
      exact (hfirst.trans hrest).imp fun _ _ ⟨hv, hvalues⟩ => .cons ⟨rfl, hv⟩ hvalues

/-- A new value unfolds to the document that it was made from. -/
theorem ofJson {document : Json} (h : document.Proper) (heap : Heap) :
    Made heap (heap.ofJson document).2 fun later path =>
      Unfolds later path (heap.ofJson document).1 (some document) := by
  induction h generalizing heap with
  | null => exact none fun _ _ => .null
  | boolean b => exact none fun _ _ => .boolean b
  | number hfinite => exact none fun _ _ => .number hfinite
  | text s => exact none fun _ _ => .text s
  | array _ ih => exact (ofJsonItems ih heap).newArray
  | object hsorted _ ih => exact (ofJsonEntries ih heap).newObject hsorted

end Made

/-! ## From values to documents -/

/-- What a value unfolds to is a proper document, on every heap. -/
lemma Unfolds.proper {heap : Heap} {path : List Value} {v : Value} {tree : Option Json}
    (h : Unfolds heap path v tree) : ∀ document ∈ tree, document.Proper := by
  induction h with
  | undefined => rintro _ ⟨⟩
  | function ref => rintro _ ⟨⟩
  | null => rintro _ ⟨⟩; exact .null
  | boolean b => rintro _ ⟨⟩; exact .boolean b
  | number hfinite => rintro _ ⟨⟩; exact .number hfinite
  | infinite _ => rintro _ ⟨⟩; exact .null
  | text s => rintro _ ⟨⟩; exact .text s
  | arrayCut _ => rintro _ ⟨⟩; exact .null
  | objectCut _ => rintro _ ⟨⟩; exact .null
  | @array _ _ document _ _ ih =>
      rintro _ ⟨⟩
      refine .array fun item hmem => ?_
      obtain ⟨v, hv, rfl⟩ := List.mem_map.mp hmem
      cases hd : document v with
      | none => exact .null
      | some item => exact ih v hv item hd
  | object _ _ ih =>
      rintro _ ⟨⟩
      refine .object (Json.sorted_ofEntries _) fun entry hmem => ?_
      obtain ⟨property, hproperty, hentry⟩ :=
        List.mem_filterMap.mp (Json.mem_of_mem_ofEntries hmem)
      obtain ⟨document, hdocument, rfl⟩ := Option.map_eq_some_iff.mp hentry
      exact ih property hproperty document hdocument

/-- The document of a value is proper. -/
lemma proper_toJson (heap : Heap) (v : Value) : (heap.toJson v).Proper := by
  have hproper := (unfolds_root heap v).proper
  unfold Heap.toJson
  cases h : heap.unfold (heap.depthBound + 1) [] v with
  | none => exact .null
  | some document => exact hproper document h

/-! ## There and back -/

/-- A proper document comes back from the value that it becomes. -/
lemma toJson_ofJson_of_proper {document : Json} (h : document.Proper) (heap : Heap) :
    (heap.ofJson document).2.toJson (heap.ofJson document).1 = document :=
  toJson_of_unfolds ((Made.ofJson h heap).holds (.refl _) (by rintro v ⟨⟩))

end Script

end ModuleRunner
