import ModuleRunner.Evaluation.Expression
import ModuleRunner.Evaluation.Method
import ModuleRunner.Proofs.Decimal.Nearest
import ModuleRunner.Proofs.Evaluation.Run
import ModuleRunner.Proofs.Script.Key

/-!
# Excerpts of texts

A place that `indexOf` answers is for `slice` to cut at, and both count characters, as keys do.  But
`length` counts UTF-16 units.  So what is cut out from where a text was found to as much behind it as
its length says is that text only where the two counts agree, or where the other text ends; and a
text with a character beyond the first plane has fewer elements than its length says.

* `Text.Narrow` — all characters are in the first plane.
* `Text.length_le_units16` — there are no fewer units than characters, and as many exactly on such texts.
* `Text.find?_eq_some_iff` — the first place at which a text occurs.
* `clampIndex_ofNat` — a count as an argument of `slice`.
* `indexOf_slice` — what `slice` makes of what `indexOf` answers.
-/

namespace ModuleRunner

/-! ## Characters and units -/

namespace Text

/-- All characters are in the first plane. -/
def Narrow (cs : List Char) : Prop := ∀ c ∈ cs, unitsOf c = 1

lemma units16_cons (c : Char) (cs : List Char) : units16 (c :: cs) = unitsOf c + units16 cs := by
  have hshift (n : Nat) (cs : List Char) :
      cs.foldl (fun n c => n + unitsOf c) n = n + units16 cs := by
    induction cs generalizing n with
    | nil => rfl
    | cons d ds ih =>
      rw [units16, List.foldl_cons, List.foldl_cons, ih, ih]
      omega
  rw [units16, List.foldl_cons, hshift]
  omega

lemma units16_append (cs ds : List Char) : units16 (cs ++ ds) = units16 cs + units16 ds := by
  induction cs with
  | nil => simp [units16]
  | cons c cs ih =>
    rw [List.cons_append, units16_cons, units16_cons, ih, Nat.add_assoc]

lemma unitsOf_pos (c : Char) : 1 ≤ unitsOf c := by
  unfold unitsOf
  split <;> decide

/-- No text has fewer units than characters, and those of the first plane have as many. -/
lemma length_le_units16 (cs : List Char) :
    cs.length ≤ units16 cs ∧ (units16 cs = cs.length ↔ Narrow cs) := by
  induction cs with
  | nil => simp [units16, Narrow]
  | cons c cs ih =>
    obtain ⟨hle, hiff⟩ := ih
    have hpos := unitsOf_pos c
    have hcons : Narrow (c :: cs) ↔ unitsOf c = 1 ∧ Narrow cs := List.forall_mem_cons
    rw [units16_cons, List.length_cons, hcons, ← hiff]
    omega

/-! ## Occurrences -/

/-- The needle occurs at a place. -/
def OccursAt (needle cs : List Char) (k : Nat) : Prop := k ≤ cs.length ∧ needle <+: cs.drop k

lemma occursAt_cons_succ {needle cs : List Char} {c : Char} {k : Nat} :
    OccursAt needle (c :: cs) (k + 1) ↔ OccursAt needle cs k := by
  simp [OccursAt]

/-- Behind the place of an occurrence there are no fewer units than the needle has. -/
lemma OccursAt.units16_le {needle cs : List Char} {k : Nat} (h : OccursAt needle cs k) :
    k + units16 needle ≤ units16 cs := by
  obtain ⟨hk, after, hafter⟩ := h
  have hsplit : units16 cs = units16 (cs.take k) + (units16 needle + units16 after) := by
    rw [← units16_append, hafter, ← units16_append, List.take_append_drop]
  have hbefore := (length_le_units16 (cs.take k)).1
  rw [List.length_take, Nat.min_eq_left hk] at hbefore
  omega

/-- The search finds the first place at which the needle occurs. -/
lemma find?_eq_some_iff {needle cs : List Char} {k : Nat} :
    find? needle cs = some k ↔ OccursAt needle cs k ∧ ∀ j < k, ¬ OccursAt needle cs j := by
  induction cs generalizing k with
  | nil =>
    cases needle with
    | nil =>
      have hzero : 0 = k ↔ k = 0 ∧ ∀ j < k, ¬ j = 0 :=
        ⟨by rintro rfl; simp, fun h => h.1.symm⟩
      simpa [find?, OccursAt] using hzero
    | cons d ds => simp [find?, OccursAt]
  | cons c cs ih =>
    by_cases hprefix : needle <+: c :: cs
    · have hzero : OccursAt needle (c :: cs) 0 := ⟨Nat.zero_le _, hprefix⟩
      rw [find?, if_pos (List.isPrefixOf_iff_prefix.mpr hprefix)]
      constructor
      · rintro ⟨⟩
        exact ⟨hzero, fun j hj => absurd hj (Nat.not_lt_zero j)⟩
      · rintro ⟨-, hfirst⟩
        rcases Nat.eq_zero_or_pos k with rfl | hk
        · rfl
        · exact absurd hzero (hfirst 0 hk)
    · have hnot : ¬ OccursAt needle (c :: cs) 0 := fun h => hprefix h.2
      rw [find?, if_neg (by rwa [List.isPrefixOf_iff_prefix])]
      cases k with
      | zero => simp [hnot]
      | succ k =>
        rw [Option.map_eq_some_iff, occursAt_cons_succ, Nat.forall_lt_succ_left]
        simp [ih, hnot, occursAt_cons_succ]

/-- The search finds nothing where the needle occurs nowhere. -/
lemma find?_eq_none_iff {needle cs : List Char} :
    find? needle cs = none ↔ ∀ k, ¬ OccursAt needle cs k := by
  constructor
  · intro hnone k hk
    classical
    have hfirst := find?_eq_some_iff.mpr
      ⟨Nat.find_spec ⟨k, hk⟩, fun j hj => Nat.find_min ⟨k, hk⟩ hj⟩
    rw [hnone] at hfirst
    cases hfirst
  · intro hnone
    cases hfind : find? needle cs with
    | none => rfl
    | some k => exact absurd (find?_eq_some_iff.mp hfind).1 (hnone k)

end Text

namespace Evaluation

open Script Run Text

/-! ## Places as numbers -/

/-- A count as an argument of `slice` is a place, or the end of the text. -/
lemma clampIndex_ofNat {n : Nat} (hsmall : n < 2 ^ 53) (length : Nat) :
    clampIndex length (Number.ofNat n) = min n length := by
  simp [clampIndex, Number.isNaN_ofNat hsmall, Number.isFinite_ofNat hsmall,
    Number.truncate_ofNat hsmall]

lemma slice_min {cs : List Char} {k : Nat} (hk : k ≤ cs.length) (n : Nat) :
    slice cs (min k cs.length) (min (k + n) cs.length) = (cs.drop k).take n := by
  have hlength : (cs.drop k).length = cs.length - k := List.length_drop
  rw [slice, Nat.min_eq_left hk, List.take_eq_take_iff, hlength]
  omega

/-! ## The methods -/

lemma textMethod_indexOf (s t : String) (w : World) :
    textMethod .indexOf (.text s) [.text t] w =
      .ok (.number ((find? t.toList s.toList).elim (-1) Number.ofNat)) w := by
  have hneedle : Run.text (.text t) w = .ok t w := rfl
  simp only [textMethod]
  rw [bind_of_ok hneedle]
  cases find? t.toList s.toList with
  | none => rfl
  | some k => rfl

lemma textMethod_slice {s : String} {a b : Nat} (ha : a < 2 ^ 53) (hb : b < 2 ^ 53) (w : World) :
    textMethod .slice (.text s) [.number (Number.ofNat a), .number (Number.ofNat b)] w =
      .ok (.text (String.ofList
        (slice s.toList (min a s.toList.length) (min b s.toList.length)))) w := by
  have hindex {n : Nat} (hn : n < 2 ^ 53) (default : Nat) :
      sliceIndex s.toList.length default (.number (Number.ofNat n)) w =
        .ok (min n s.toList.length) w := by
    rw [← clampIndex_ofNat hn]
    rfl
  exact (bind_of_ok (hindex ha _)).trans (bind_of_ok (hindex hb _))

/-! ## Excerpts -/

/-- `s.slice(k, k + length) === t`, where `k` is `s.indexOf(t)`. -/
def CutsOut (w : World) (s t : String) (length : Value) : Prop :=
  ∃ k stop excerpt, textMethod .indexOf (.text s) [.text t] w = .ok k w ∧
    binary .add k length w = .ok stop w ∧
    textMethod .slice (.text s) [k, stop] w = .ok excerpt w ∧
    excerpt.strictEquals (.text t) = true

/-- What is cut out are as many characters as the length says. -/
lemma cutsOut_iff {s t : String} {k n : Nat} (hfind : find? t.toList s.toList = some k)
    (hk : k ≤ s.toList.length) (hsmall : k + n < 2 ^ 53) (w : World) :
    CutsOut w s t (.number (Number.ofNat n)) ↔ (s.toList.drop k).take n = t.toList := by
  have hindex : textMethod .indexOf (.text s) [.text t] w = .ok (.number (Number.ofNat k)) w := by
    rw [textMethod_indexOf, hfind]
    rfl
  have hsum : binary .add (.number (Number.ofNat k)) (.number (Number.ofNat n)) w =
      .ok (.number (Number.ofNat (k + n))) w := by
    rw [← Number.ofNat_add_ofNat hsmall]
    rfl
  have hslice : textMethod .slice (.text s)
      [.number (Number.ofNat k), .number (Number.ofNat (k + n))] w =
      .ok (.text (String.ofList ((s.toList.drop k).take n))) w := by
    rw [textMethod_slice (by omega) hsmall, slice_min hk]
  have hequal : (Value.text (String.ofList ((s.toList.drop k).take n))).strictEquals (.text t) =
      true ↔ (s.toList.drop k).take n = t.toList := by
    simp only [Value.strictEquals, beq_iff_eq]
    rw [← String.toList_inj, String.toList_ofList]
  constructor
  · rintro ⟨_, _, _, hk', hstop, hcut, hsame⟩
    cases hindex.symm.trans hk'
    cases hsum.symm.trans hstop
    cases hslice.symm.trans hcut
    exact hequal.mp hsame
  · exact fun hcut => ⟨_, _, _, hindex, hsum, hslice, hequal.mpr hcut⟩

/-- Where a text was found, as much of it as there are characters in the other one is that one; as
much as its length says is that one if no character counts twice, or if nothing follows. -/
lemma take_drop_iff {needle cs : List Char} {k : Nat} (h : OccursAt needle cs k) :
    (cs.drop k).take needle.length = needle ∧
      ((cs.drop k).take (units16 needle) = needle ↔ Narrow needle ∨ cs.drop k = needle) := by
  obtain ⟨-, after, hafter⟩ := h
  obtain ⟨hle, hnarrow⟩ := length_le_units16 needle
  rw [← hafter]
  refine ⟨List.take_left, ?_⟩
  have hcut : (needle ++ after).take (units16 needle) =
      needle ++ after.take (units16 needle - needle.length) := by
    rw [List.take_append, List.take_of_length_le hle]
  rw [hcut, List.append_right_eq_self, List.append_right_eq_self, List.take_eq_nil_iff, ← hnarrow]
  exact or_congr (by omega) Iff.rfl

/-! ## Elements -/

/-- The elements of a text are its characters. -/
lemma get_element_iff {s : String} (hs : units16 s.toList < 2 ^ 53) (heap : Heap) (i : Nat) :
    heap.get (.text s) (toString i) ≠ .undefined ↔ i < s.toList.length := by
  have hle := (length_le_units16 s.toList).1
  have hkey : toString i ≠ "length" := toString_ne (by rfl) i
  have helement : ((arrayIndex? (toString i)).bind fun i => s.toList[i]?) = s.toList[i]? := by
    rw [arrayIndex?_toString]
    split
    · rfl
    · next hbig =>
      rw [Nat.pow_eq] at hbig
      exact (List.getElem?_eq_none (by omega)).symm
  have hget : heap.get (.text s) (toString i) =
      ((s.toList[i]?).map fun c => .text c.toString).getD .undefined := by
    simp only [Heap.get, Heap.textProperty, if_neg hkey, helement]
    cases s.toList[i]? <;> rfl
  rw [hget]
  rcases Nat.lt_or_ge i s.toList.length with hi | hi
  · simp [hi]
  · rw [List.getElem?_eq_none hi]
    simp [Nat.not_lt.mpr hi]

/-- No method is named by digits. -/
lemma builtinMethod?_toString (object : Value) (n : Nat) : builtinMethod? object (toString n) = none := by
  cases object with
  | array | text =>
    simp only [builtinMethod?, Option.map_eq_none_iff, List.find?_eq_none, decide_eq_true_eq]
    exact fun m _ => (toString_ne (by cases m <;> rfl) n).symm
  | _ => rfl

/-- So reading under digits reads a property. -/
lemma member_toString {object : Value} (h : object.isNullish = false) (n : Nat) (w : World) :
    member object (toString n) w = .ok (w.heap.get object (toString n)) w := by
  simp only [member, h, Bool.false_eq_true, if_false]
  rw [bind_readHeap]
  split
  · next hvalue =>
    rw [builtinMethod?_toString, hvalue]
    rfl
  · rfl

/-- Reading an element with a number reads the property under the digits of the number. -/
lemma member_element {i : Nat} (hi : i < 2 ^ 53) (s : String) (w : World) :
    member (.text s) (Number.text (Number.ofNat i)) w =
      .ok (w.heap.get (.text s) (toString i)) w := by
  rw [Number.text_ofNat hi]
  exact member_toString rfl i w

/-- **Places and lengths.**  Let a text be short enough for its length to be exact.  `indexOf` answers
`-1` where the other text does not occur, and else the first place at which it does; and from there
on `slice` cuts it out by the number of its characters.  By its length it is cut out exactly if all
of its characters are in the first plane or nothing follows it.  An element is there exactly if its
place is below the number of characters; that is the length exactly if all of the text's characters
are in the first plane. -/
theorem indexOf_slice {s : String} (hs : units16 s.toList < 2 ^ 53) (t : String) (w : World) :
    (∃ x, textMethod .indexOf (.text s) [.text t] w = .ok (.number x) w ∧
      ((x = -1 ∧ ∀ k, ¬ OccursAt t.toList s.toList k) ∨
        ∃ k, x = Number.ofNat k ∧ x ≠ -1 ∧
          OccursAt t.toList s.toList k ∧ (∀ j < k, ¬ OccursAt t.toList s.toList j) ∧
          CutsOut w s t (.number (Number.ofNat t.toList.length)) ∧
          (CutsOut w s t (w.heap.get (.text t) "length") ↔
            Narrow t.toList ∨ s.toList.drop k = t.toList))) ∧
    (∀ i, (w.heap.get (.text s) (toString i) ≠ .undefined ↔ i < s.toList.length) ∧
      (i < 2 ^ 53 → member (.text s) (Number.text (Number.ofNat i)) w =
        .ok (w.heap.get (.text s) (toString i)) w)) ∧
    ((∀ i, w.heap.get (.text s) (toString i) ≠ .undefined ↔ i < units16 s.toList) ↔
      Narrow s.toList) := by
  obtain ⟨hle, hnarrow⟩ := length_le_units16 s.toList
  refine ⟨⟨_, textMethod_indexOf s t w, ?_⟩,
    fun i => ⟨get_element_iff hs w.heap i, fun hi => member_element hi s w⟩, ?_⟩
  · cases hfind : find? t.toList s.toList with
    | none => exact .inl ⟨rfl, find?_eq_none_iff.mp hfind⟩
    | some k =>
      obtain ⟨hoccurs, hfirst⟩ := find?_eq_some_iff.mp hfind
      obtain ⟨hchars, hunits⟩ := take_drop_iff hoccurs
      have hend := hoccurs.units16_le
      have hshort := (length_le_units16 t.toList).1
      exact .inr ⟨k, rfl, Number.ofNat_ne_neg_one k, hoccurs, hfirst,
        (cutsOut_iff hfind hoccurs.1 (by omega) w).mpr hchars,
        (cutsOut_iff hfind hoccurs.1 (by omega) w).trans hunits⟩
  · rw [← hnarrow]
    constructor
    · intro h
      by_contra hne
      exact absurd ((get_element_iff hs w.heap _).mp ((h s.toList.length).mpr (by omega)))
        (lt_irrefl _)
    · intro h i
      rw [get_element_iff hs, h]

/-- A character beyond the first plane in front: by its length more than it is cut out, and at the last
place below the length of the whole text there is no element. -/
theorem indexOf_slice_wide :
    units16 "😀ab".toList < 2 ^ 53 ∧
      CutsOut .empty "😀ab" "😀" (.number (Number.ofNat 1)) ∧
      ¬ CutsOut .empty "😀ab" "😀" (Heap.empty.get (.text "😀") "length") ∧
      Heap.empty.get (.text "😀ab") (toString 3) = .undefined ∧ 3 < units16 "😀ab".toList := by
  have hs : units16 "😀ab".toList < 2 ^ 53 := by decide
  have hfront : OccursAt "😀".toList "😀ab".toList 0 := by
    refine ⟨Nat.zero_le _, List.isPrefixOf_iff_prefix.mp ?_⟩
    rfl
  obtain ⟨⟨x, -, hfound⟩, helements, -⟩ := indexOf_slice hs "😀" .empty
  rcases hfound with ⟨-, hnone⟩ | ⟨k, -, -, -, hfirst, hchars, hunits⟩
  · exact absurd hfront (hnone 0)
  obtain rfl : k = 0 := by
    by_contra hk
    exact hfirst 0 (Nat.pos_of_ne_zero hk) hfront
  have hwide : ¬ Narrow "😀".toList := by
    rw [← (length_le_units16 _).2]
    decide
  have hthird : ¬ 3 < "😀ab".toList.length := by decide
  exact ⟨hs, hchars, fun h => (hunits.mp h).elim hwide (by decide),
    not_not.mp fun h => hthird ((helements 3).1.mp h), by decide⟩

end Evaluation

end ModuleRunner
