import ModuleRunner.Evaluation.Method
import ModuleRunner.Proofs.Evaluation.Run
import ModuleRunner.Proofs.Script.Writing

/-!
# The growth of arrays

An array becomes longer in three ways: an element is written behind its end, its length is written, and
elements are pushed.  Each way has its own check of the limit, and makes it before it touches the
array.  So a script sees an array either with all of the change or as it was.

* `Rewritten` — an array with values written at some places, within the limit.
* `AllOrNothing` — a run that changes one array and nothing else, or refuses and changes nothing.
* `askedSize` — the size that a write asks for.
* `growth_all_or_nothing` — writes and pushes.
-/

namespace ModuleRunner.Evaluation

open Script

/-! ## Changes of one array -/

/-- An array with values written at some places: there are no more elements than there may be, those
at other places are the ones that were there, and gaps are `undefined`. -/
structure Rewritten (old : Array Value) (written : Nat → Option Value) (new : Array Value) :
    Prop where
  size_le : new.size ≤ maxArrayLength
  placed : ∀ i v, written i = some v → new[i]? = some v
  kept : ∀ i, written i = none → i < old.size → i < new.size → new[i]? = old[i]?
  gap : ∀ i, written i = none → old.size ≤ i → i < new.size → new[i]? = some .undefined

/-- A run gives an array the size asked for, with values written at some places, and changes nothing
else; or no array has the size, and the run fails with a `RangeError` and changes nothing. -/
def AllOrNothing {α : Type} (run : Run α) (w : World) (ref : ArrayRef) (size : Option Nat)
    (written : Nat → Option Value) (answer : Nat → α) : Prop :=
  (∃ change, let later := w.heap.modifyArray ref change
    run w = .ok (answer (later.arrayAt ref).size) { w with heap := later } ∧
      size = some (later.arrayAt ref).size ∧
      Rewritten (w.heap.arrayAt ref) written (later.arrayAt ref)) ∨
  ((∀ n, size = some n → maxArrayLength < n) ∧
    run w = .error (.failed (.range "Invalid array length")) w)

/-- The size of an array that a write asks for: the number of the value under `length`, if it is a
natural number; enough for the element that the key names, and otherwise the size that it has. -/
def askedSize (heap : Heap) (ref : ArrayRef) (key : String) (x : Value) : Option Nat :=
  if key = "length" then (heap.number? x).bind Number.toNat?
  else some ((arrayIndex? key).elim (heap.arrayAt ref).size fun i =>
    max (heap.arrayAt ref).size (i + 1))

/-- The value that a write puts at a place of an array. -/
def writtenAt (key : String) (x : Value) (i : Nat) : Option Value :=
  if arrayIndex? key = some i then some x else none

/-- The values that a push puts behind the end of an array. -/
def pushedAt (size : Nat) (values : List Value) (i : Nat) : Option Value :=
  if size ≤ i then values[i - size]? else none

/-! ## What is written -/

lemma rewritten_self {items : Array Value} {written : Nat → Option Value}
    (hsize : items.size ≤ maxArrayLength) (hnone : ∀ i, written i = none) :
    Rewritten items written items where
  size_le := hsize
  placed i v h := by simp [hnone i] at h
  kept _ _ _ _ := rfl
  gap i _ h h' := absurd h' (Nat.not_lt.mpr h)

lemma rewritten_resize {items : Array Value} {written : Nat → Option Value} {n : Nat}
    (hle : n ≤ maxArrayLength) (hnone : ∀ i, written i = none) :
    Rewritten items written (Heap.resize items n) where
  size_le := by simpa using hle
  placed i v h := by simp [hnone i] at h
  kept i _ hold hnew := by
    rw [Heap.getElem?_resize (by simpa using hnew)]
    simp [hold]
  gap i _ hold hnew := by
    rw [Heap.getElem?_resize (by simpa using hnew)]
    simp [hold]

lemma rewritten_storeAt {items : Array Value} {key : String} {x : Value} {i : Nat}
    (hi : arrayIndex? key = some i) (hsize : items.size ≤ maxArrayLength)
    (hfits : i < maxArrayLength ∨ i < items.size) :
    Rewritten items (writtenAt key x) (Heap.storeAt items i x) where
  size_le := by
    rw [Heap.size_storeAt]
    omega
  placed j v h := by
    obtain ⟨hj, rfl⟩ : arrayIndex? key = some j ∧ x = v := by simpa [writtenAt] using h
    obtain rfl : i = j := Option.some.inj (hi.symm.trans hj)
    exact Heap.getElem?_storeAt_self
  kept j h hold hnew := by
    have hne : j ≠ i := fun hj => by simp [writtenAt, hi, hj] at h
    rw [Heap.getElem?_storeAt_of_ne hne (by rwa [Heap.size_storeAt] at hnew)]
    simp [hold]
  gap j h hold hnew := by
    have hne : j ≠ i := fun hj => by simp [writtenAt, hi, hj] at h
    rw [Heap.getElem?_storeAt_of_ne hne (by rwa [Heap.size_storeAt] at hnew)]
    simp [hold]

lemma rewritten_push {items : Array Value} {values : List Value}
    (hle : items.size + values.length ≤ maxArrayLength) :
    Rewritten items (pushedAt items.size values) (items ++ values.toArray) where
  size_le := by simpa using hle
  placed i v h := by
    obtain ⟨hi, hv⟩ : items.size ≤ i ∧ values[i - items.size]? = some v := by
      simpa [pushedAt] using h
    simpa [Array.getElem?_append, Nat.not_lt.mpr hi] using hv
  kept i _ hold _ := by simp [Array.getElem?_append, hold]
  gap i h hold hnew := by
    have hlength : i - items.size < values.length := by
      simp only [Array.size_append, List.size_toArray] at hnew
      omega
    simp [pushedAt, hold, hlength] at h

/-! ## The runs -/

lemma AllOrNothing.of_change {α : Type} {run : Run α} {w : World} {ref : ArrayRef}
    {size : Option Nat} {written : Nat → Option Value} {answer : Nat → α}
    (href : w.heap.Holds (.array ref)) (change : Array Value → Array Value)
    (hsize : size = some (change (w.heap.arrayAt ref)).size)
    (hnew : Rewritten (w.heap.arrayAt ref) written (change (w.heap.arrayAt ref)))
    (hrun : run w = .ok (answer (change (w.heap.arrayAt ref)).size)
      { w with heap := w.heap.modifyArray ref change }) :
    AllOrNothing run w ref size written answer :=
  .inl ⟨change, by simp only [Heap.arrayAt_modifyArray_self href]; exact ⟨hrun, hsize, hnew⟩⟩

lemma run_write_stored {w : World} {target x : Value} {key : String} {later : Heap}
    (h : w.heap.write target key x = (some .stored, later)) :
    Run.write target key x w = .ok true { w with heap := later } := by
  simp only [Run.write, bind, EStateM.bind, Run.withHeap, h]
  rfl

lemma run_write_refused {w : World} {target x : Value} {key : String}
    (h : w.heap.write target key x = (some .invalidLength, w.heap)) :
    Run.write target key x w = .error (.failed (.range "Invalid array length")) w := by
  simp only [Run.write, bind, EStateM.bind, Run.withHeap, h]
  rfl

lemma modifyArray_id (heap : Heap) (ref : ArrayRef) : heap.modifyArray ref id = heap := by
  unfold Heap.modifyArray
  congr 1
  exact Array.ext (by simp) fun i h h' => by simp [Array.getElem_modify]

lemma arrayIndex?_length : arrayIndex? "length" = none := by rfl

variable {w : World} {ref : ArrayRef}

lemma writeLength_all_or_nothing (href : w.heap.Holds (.array ref)) {x : Value}
    (hx : w.heap.Loopless x) :
    AllOrNothing (Run.write (.array ref) "length" x) w ref (askedSize w.heap ref "length" x)
      (writtenAt "length" x) fun _ => true := by
  obtain ⟨y, hy⟩ := Option.isSome_iff_exists.mp (Heap.isSome_number? hx)
  have hasked : askedSize w.heap ref "length" x = Number.toNat? y := by simp [askedSize, hy]
  have hnone : ∀ i, writtenAt "length" x i = none := by simp [writtenAt, arrayIndex?_length]
  rcases Heap.writeLength_cases ref hy with ⟨n, hn, hwrite⟩ | ⟨hn, hwrite⟩
  · obtain ⟨hnumber, hle⟩ := Heap.lengthOf?_eq_some hn
    exact .of_change href (Heap.resize · n) (by rw [hasked, hnumber, Heap.size_resize])
      (rewritten_resize hle hnone) (run_write_stored hwrite)
  · refine .inr ⟨fun n hsize => ?_, run_write_refused hwrite⟩
    rw [hasked] at hsize
    simpa [Heap.lengthOf?, hsize] using hn

lemma writeElement_all_or_nothing (href : w.heap.Holds (.array ref))
    (hsize : (w.heap.arrayAt ref).size ≤ maxArrayLength) {key : String} (hkey : key ≠ "length")
    (x : Value) :
    AllOrNothing (Run.write (.array ref) key x) w ref (askedSize w.heap ref key x)
      (writtenAt key x) fun _ => true := by
  have hwritten := Heap.write_array_of_ne w.heap ref x hkey
  rcases Heap.writeElement_cases w.heap ref key x with
    ⟨hnone, hwrite⟩ | ⟨i, hi, hfits, hwrite⟩ | ⟨i, hi, hlimit, hbehind, hwrite⟩
  · have hasked : askedSize w.heap ref key x = some (w.heap.arrayAt ref).size := by
      simp [askedSize, hkey, hnone]
    refine .of_change href id hasked (rewritten_self hsize (by simp [writtenAt, hnone])) ?_
    rw [modifyArray_id]
    exact run_write_stored (by rw [hwritten, hwrite])
  · have hasked : askedSize w.heap ref key x = some (max (w.heap.arrayAt ref).size (i + 1)) := by
      simp [askedSize, hkey, hi]
    exact .of_change href (Heap.storeAt · i x) (by rw [hasked, Heap.size_storeAt])
      (rewritten_storeAt hi hsize hfits) (run_write_stored (by rw [hwritten, hwrite]))
  · refine .inr ⟨fun n hn => ?_, run_write_refused (by rw [hwritten, hwrite])⟩
    have hasked : max (w.heap.arrayAt ref).size (i + 1) = n := by
      simpa [askedSize, hkey, hi] using hn
    omega

lemma push_all_or_nothing (href : w.heap.Holds (.array ref)) (values : List Value) :
    AllOrNothing (Run.push ref values) w ref (some ((w.heap.arrayAt ref).size + values.length))
      (pushedAt (w.heap.arrayAt ref).size values) fun n => .number (Number.ofNat n) := by
  by_cases hlimit : maxArrayLength < (w.heap.arrayAt ref).size + values.length
  · refine .inr ⟨fun n hn => Option.some.inj hn ▸ hlimit, ?_⟩
    simp only [Run.push, bind, EStateM.bind, Run.readHeap, if_pos hlimit]
    rfl
  · refine .of_change href (· ++ values.toArray) (by simp)
      (rewritten_push (Nat.not_lt.mp hlimit)) ?_
    simp only [Run.push, bind, EStateM.bind, Run.readHeap, if_neg hlimit, Array.size_append,
      List.size_toArray]
    rfl

/-- **Growth is all or nothing.**  Let an array be there, with no more elements than there may be.  Every
write to it, under any key, and every push of any arguments, the array itself among them, either
gives it the size that is asked for, which is within the limit, with what is written in place,
everything else at its place and gaps `undefined`, and changes nothing else in the world; or the size
asked for is no length, the run fails with a `RangeError`, and nothing in the world has changed.
Where the length is written, the value has no loops below it, so that it has a number. -/
theorem growth_all_or_nothing (href : w.heap.Holds (.array ref))
    (hsize : (w.heap.arrayAt ref).size ≤ maxArrayLength) :
    (∀ key x, (key = "length" → w.heap.Loopless x) →
      AllOrNothing (Run.write (.array ref) key x) w ref (askedSize w.heap ref key x)
        (writtenAt key x) fun _ => true) ∧
    ∀ arguments, AllOrNothing (Run.arrayMethod .push (.array ref) arguments) w ref
      (some ((w.heap.arrayAt ref).size + arguments.length))
      (pushedAt (w.heap.arrayAt ref).size arguments) fun n => .number (Number.ofNat n) := by
  refine ⟨fun key x hx => ?_, fun arguments => push_all_or_nothing href arguments⟩
  by_cases hkey : key = "length"
  · subst hkey
    exact writeLength_all_or_nothing href (hx rfl)
  · exact writeElement_all_or_nothing href hsize hkey x

/-- An array is pushed to itself, and is refused behind the last place. -/
theorem growth_all_or_nothing_itself :
    let w := { World.empty with heap := { Heap.empty with arrays := #[#[.text "a"]] } }
    (w.heap.Holds (.array ⟨0⟩) ∧ (w.heap.arrayAt ⟨0⟩).size ≤ maxArrayLength) ∧
      (∃ w', Run.arrayMethod .push (.array ⟨0⟩) [.array ⟨0⟩, .null] w =
          .ok (.number (Number.ofNat 3)) w' ∧
        (w'.heap.arrayAt ⟨0⟩)[0]? = some (.text "a") ∧
        (w'.heap.arrayAt ⟨0⟩)[1]? = some (.array ⟨0⟩)) ∧
      Run.write (.array ⟨0⟩) "16777216" (.array ⟨0⟩) w =
        .error (.failed (.range "Invalid array length")) w := by
  intro w
  have href : w.heap.Holds (.array ⟨0⟩) := Nat.one_pos
  have hsize : (w.heap.arrayAt ⟨0⟩).size ≤ maxArrayLength := by decide
  obtain ⟨hwrite, hpush⟩ := growth_all_or_nothing href hsize
  refine ⟨⟨href, hsize⟩, ?_, ?_⟩
  · rcases hpush [.array ⟨0⟩, .null] with ⟨change, hrun, hthree, hnew⟩ | ⟨hlimit, -⟩
    · rw [← Option.some.inj hthree] at hrun
      exact ⟨_, hrun, hnew.kept 0 rfl Nat.one_pos (by rw [← Option.some.inj hthree]; decide),
        hnew.placed 1 _ rfl⟩
    · exact absurd (hlimit _ rfl) (by decide)
  · have hasked : askedSize w.heap ⟨0⟩ "16777216" (.array ⟨0⟩) = some 16777217 := by rfl
    rcases hwrite "16777216" (.array ⟨0⟩) (fun h => absurd h (by decide)) with
      ⟨change, -, hsize, hnew⟩ | ⟨-, hrun⟩
    · have := hnew.size_le
      rw [← Option.some.inj (hasked.symm.trans hsize)] at this
      exact absurd this (by decide)
    · exact hrun

end ModuleRunner.Evaluation
