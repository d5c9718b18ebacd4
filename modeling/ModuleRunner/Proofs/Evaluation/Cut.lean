import ModuleRunner.Proofs.Decimal.Printing
import ModuleRunner.Proofs.Evaluation.Excerpt
import ModuleRunner.Proofs.Script.Writing

/-!
# Cutting texts

The arguments of `slice` can be anything.  Each stands for a place in the text: a number loses what
is behind the point, counts from the end if it is negative, and stays within the text; an argument
that is missing stands for one of the two ends.  The answer is the text between the two places, in
characters, and nothing if the first is not before the second.

* `Number.truncate_eq` — the integer part of a number, in terms of its value.
* `PlaceOf`, `ArgumentAt` — the place that a number stands for, and an argument.
* `Between` — what is between two places of a text.
* `slice_indexOf` — `slice` on all arguments, and `indexOf` on all texts.
-/

namespace ModuleRunner.Decimal

/-- The integer part of a magnitude is that of its value. -/
lemma Magnitude.floor_value (m : Magnitude) : ⌊m.value⌋ = (m.floor : ℤ) := by
  rw [Int.floor_eq_iff]
  by_cases hexponent : 0 ≤ m.exponent
  · have hwhole : m.isWhole = true := by simp [isWhole, hexponent]
    rw [← value_floor hwhole]
    exact ⟨by simp, by simp⟩
  · obtain ⟨k, hk⟩ : ∃ k : ℕ, m.exponent = -k := ⟨(-m.exponent).toNat, by omega⟩
    have hvalue : m.value = m.significand / (2 ^ k : ℕ) := by
      rw [value, hk, zpow_neg, zpow_natCast, div_eq_mul_inv]
      push_cast
      rfl
    have hfloor : m.floor = m.significand / 2 ^ k := by
      rw [floor, if_neg hexponent, hk, neg_neg, Int.toNat_natCast]
      rfl
    have hunit : (0 : ℚ) < (2 ^ k : ℕ) := by positivity
    rw [hvalue, hfloor, le_div_iff₀ hunit, div_lt_iff₀ hunit]
    constructor
    · exact_mod_cast Nat.div_mul_le_self m.significand (2 ^ k)
    · have := Nat.lt_div_mul_add (a := m.significand) (b := 2 ^ k) (by positivity)
      rw [add_mul, one_mul]
      exact_mod_cast this

end ModuleRunner.Decimal

namespace ModuleRunner.Number

open Decimal

/-- The value of a finite number. -/
def value (x : Float) : ℚ :=
  if isNegative x then -(Magnitude.ofFloat x).value else (Magnitude.ofFloat x).value

/-- What is left of a value without the places behind the point. -/
def towardsZero (q : ℚ) : ℤ := if 0 ≤ q then ⌊q⌋ else ⌈q⌉

/-- The integer part of a number. -/
lemma truncate_eq (x : Float) : truncate x = towardsZero (value x) := by
  have hpos : 0 ≤ (Magnitude.ofFloat x).value := by
    unfold Magnitude.value
    positivity
  have hfloor := (Magnitude.ofFloat x).floor_value
  unfold truncate towardsZero value
  dsimp only
  rw [← hfloor]
  by_cases hsign : isNegative x = true
  · rw [if_pos hsign, if_pos hsign]
    split
    · next hzero =>
      have : (Magnitude.ofFloat x).value = 0 := by linarith
      simp [this]
    · rw [Int.ceil_neg]
  · rw [if_neg hsign, if_neg hsign, if_pos hpos]

end ModuleRunner.Number

namespace ModuleRunner.Evaluation

open Script Run Text

/-! ## Places -/

/-- The place in a text of `length` characters that a number stands for: its integer part, counted
from the end if it is negative, and never outside of the text.  `NaN` is the front, and an infinity
one of the two ends. -/
inductive PlaceOf (length : ℕ) (x : Float) : ℕ → Prop where
  | nan (h : Number.isNaN x = true) : PlaceOf length x 0
  | front (hnan : Number.isNaN x = false) (hinfinite : Number.isFinite x = false)
      (hsign : Number.isNegative x = true) : PlaceOf length x 0
  | behind (hnan : Number.isNaN x = false) (hinfinite : Number.isFinite x = false)
      (hsign : Number.isNegative x = false) : PlaceOf length x length
  | fromFront {n : ℕ} (hfinite : Number.isFinite x = true)
      (h : Number.towardsZero (Number.value x) = n) : PlaceOf length x (min n length)
  | fromEnd {n : ℕ} (hfinite : Number.isFinite x = true) (hpos : 0 < n)
      (h : Number.towardsZero (Number.value x) = -n) : PlaceOf length x (length - n)

lemma PlaceOf.le {length k : ℕ} {x : Float} (h : PlaceOf length x k) : k ≤ length := by
  cases h <;> omega

/-- The place that a number is clamped to. -/
lemma placeOf_clampIndex (length : ℕ) (x : Float) : PlaceOf length x (clampIndex length x) := by
  unfold clampIndex
  by_cases hnan : Number.isNaN x = true
  · rw [if_pos hnan]
    exact .nan hnan
  rw [if_neg hnan]
  rw [Bool.not_eq_true] at hnan
  by_cases hfinite : Number.isFinite x = true
  · have hwhole := Number.truncate_eq x
    dsimp only
    rw [if_neg (by simp [hfinite])]
    split
    · next hsign =>
      obtain ⟨n, hn⟩ : ∃ n : ℕ, Number.truncate x = -n := ⟨(-Number.truncate x).toNat, by omega⟩
      have hplace : ((length : ℤ) + Number.truncate x).toNat = length - n := by omega
      rw [hplace]
      exact .fromEnd hfinite (by omega) (hwhole.symm.trans hn)
    · obtain ⟨n, hn⟩ : ∃ n : ℕ, Number.truncate x = n := ⟨(Number.truncate x).toNat, by omega⟩
      rw [hn, Int.toNat_natCast]
      exact .fromFront hfinite (hwhole.symm.trans hn)
  · rw [Bool.not_eq_true] at hfinite
    rw [if_pos (by simp [hfinite])]
    split
    · next hsign => exact .front hnan hfinite hsign
    · next hsign => exact .behind hnan hfinite (Bool.eq_false_of_not_eq_true hsign)

/-- A fraction, and places before the front and behind the end. -/
example : (clampIndex 4 (-1.5), clampIndex 4 3.9, clampIndex 4 (-9), clampIndex 4 1e300) =
    (3, 3, 0, 4) := by
  decide +kernel

/-- The place that an argument of `slice` stands for.  A missing argument is `undefined`. -/
inductive ArgumentAt (heap : Heap) (length default : ℕ) : Value → ℕ → Prop where
  | missing : ArgumentAt heap length default .undefined default
  | given {v : Value} {x : Float} {k : ℕ} (hgiven : v ≠ .undefined)
      (hnumber : heap.number? v = some x) (hplace : PlaceOf length x k) :
      ArgumentAt heap length default v k

lemma ArgumentAt.le {heap : Heap} {length default k : ℕ} {v : Value}
    (h : ArgumentAt heap length default v k) (hdefault : default ≤ length) : k ≤ length := by
  cases h with
  | missing => exact hdefault
  | given _ _ hplace => exact hplace.le

/-- An argument stands for a place, or the search for its number does not end. -/
lemma sliceIndex_cases (length default : ℕ) (v : Value) (w : World) :
    (∃ k, sliceIndex length default v w = .ok k w ∧ ArgumentAt w.heap length default v k) ∨
      sliceIndex length default v w = .error .exhausted w ∧ ¬ w.heap.Loopless v := by
  by_cases hgiven : v = .undefined
  · subst hgiven
    exact .inl ⟨default, rfl, .missing⟩
  have hindex : sliceIndex length default v w =
      (number v >>= fun x => pure (clampIndex length x)) w := by
    cases v <;> first | rfl | exact absurd rfl hgiven
  rw [hindex]
  cases hx : w.heap.number? v with
  | none =>
    have hnumber : number v w = .error .exhausted w := by
      rw [number, bind_readHeap, hx]
      rfl
    refine .inr ⟨bind_of_error hnumber, fun hloopless => ?_⟩
    have := Heap.isSome_number? hloopless
    rw [hx] at this
    cases this
  | some x =>
    have hnumber : number v w = .ok x w := by
      rw [number, bind_readHeap, hx]
      rfl
    exact .inl ⟨_, bind_of_ok hnumber, .given hgiven hx (placeOf_clampIndex length x)⟩

/-! ## Cuts -/

/-- The characters of a text from one place up to another; none if that is not behind the first. -/
structure Between (cs ds : List Char) (start stop : ℕ) : Prop where
  length_eq : ds.length = stop - start
  char_eq : ∀ i < stop - start, ∃ c, cs[start + i]? = some c ∧ ds[i]? = some c

lemma between_slice {cs : List Char} {start stop : ℕ} (hstop : stop ≤ cs.length) :
    Between cs (slice cs start stop) start stop where
  length_eq := by
    rw [slice, List.length_take, List.length_drop]
    omega
  char_eq i hi := by
    have hlt : start + i < cs.length := by omega
    refine ⟨cs[start + i], List.getElem?_eq_getElem hlt, ?_⟩
    rw [slice, List.getElem?_take_of_lt hi, List.getElem?_drop, List.getElem?_eq_getElem hlt]

/-- **Cutting texts.**  Each argument of `slice`, missing or of any kind, stands for a place in the
text, and the answer is what is between the two places; there is no answer only if an argument leads
to an array that contains itself, for want of a number.  And `indexOf` answers the first place at
which the other text occurs, or `-1` where it does not occur. -/
theorem slice_indexOf (s : String) (w : World) :
    (∀ arguments,
      (∃ start stop t, ArgumentAt w.heap s.toList.length 0 (argument arguments 0) start ∧
        ArgumentAt w.heap s.toList.length s.toList.length (argument arguments 1) stop ∧
        start ≤ s.toList.length ∧ stop ≤ s.toList.length ∧
        textMethod .slice (.text s) arguments w = .ok (.text t) w ∧
        Between s.toList t.toList start stop) ∨
      textMethod .slice (.text s) arguments w = .error .exhausted w ∧
        ∃ n < 2, ¬ w.heap.Loopless (argument arguments n)) ∧
    ∀ t, ∃ x, textMethod .indexOf (.text s) [.text t] w = .ok (.number x) w ∧
      ((x = -1 ∧ ∀ k, ¬ OccursAt t.toList s.toList k) ∨
        ∃ k, x = Number.ofNat k ∧ x ≠ -1 ∧
          OccursAt t.toList s.toList k ∧ ∀ j < k, ¬ OccursAt t.toList s.toList j) := by
  refine ⟨fun arguments => ?_, fun t => ⟨_, textMethod_indexOf s t w, ?_⟩⟩
  · rcases sliceIndex_cases s.toList.length 0 (argument arguments 0) w with
      ⟨start, hstart, hplace⟩ | ⟨hstart, hloop⟩
    · rcases sliceIndex_cases s.toList.length s.toList.length (argument arguments 1) w with
        ⟨stop, hstop, hplace'⟩ | ⟨hstop, hloop⟩
      · have hle := hplace'.le le_rfl
        refine .inl ⟨start, stop, _, hplace, hplace', hplace.le (Nat.zero_le _), hle,
          (bind_of_ok hstart).trans (bind_of_ok hstop), ?_⟩
        rw [String.toList_ofList]
        exact between_slice hle
      · exact .inr ⟨(bind_of_ok hstart).trans (bind_of_error hstop), 1, by omega, hloop⟩
    · exact .inr ⟨bind_of_error hstart, 0, by omega, hloop⟩
  · cases hfind : find? t.toList s.toList with
    | none => exact .inl ⟨rfl, find?_eq_none_iff.mp hfind⟩
    | some k =>
      obtain ⟨hoccurs, hfirst⟩ := find?_eq_some_iff.mp hfind
      exact .inr ⟨k, rfl, Number.ofNat_ne_neg_one k, hoccurs, hfirst⟩

end ModuleRunner.Evaluation
