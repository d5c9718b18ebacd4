/-!
# Splitting texts

A text falls into the stretches between separators.  There is always at least one, and a stretch may
be empty.

* `splitAt` — the stretches.
* `splitAt_append_cons` — splitting falls apart at a separator.
* `intercalate_splitAt`, `splitAt_intercalate` — a separator between every two of them gives the text
  back, and splitting it gives them.
-/

namespace ModuleRunner.Text

/-- The stretches between separators. -/
def splitAt (isSeparator : Char → Bool) : List Char → List (List Char)
  | [] => [[]]
  | c :: rest =>
    if isSeparator c then [] :: splitAt isSeparator rest
    else
      match splitAt isSeparator rest with
      | [] => [[c]]
      | s :: ss => (c :: s) :: ss

/-- A text has a stretch. -/
theorem splitAt_ne_nil (isSeparator : Char → Bool) (cs : List Char) :
    splitAt isSeparator cs ≠ [] := by
  cases cs with
  | nil => simp [splitAt]
  | cons c rest =>
    simp only [splitAt]
    split
    · simp
    · split <;> simp

/-- A text without a separator is one stretch. -/
theorem splitAt_of_forall_not {isSeparator : Char → Bool} :
    ∀ {cs : List Char}, (∀ c ∈ cs, isSeparator c = false) → splitAt isSeparator cs = [cs]
  | [], _ => rfl
  | c :: rest, h => by
    have ih := splitAt_of_forall_not fun d hd => h d (List.mem_cons_of_mem c hd)
    simp [splitAt, h c List.mem_cons_self, ih]

/-- Splitting falls apart at a separator. -/
theorem splitAt_append_cons {isSeparator : Char → Bool} {mark : Char}
    (hmark : isSeparator mark = true) (right : List Char) :
    ∀ left : List Char, splitAt isSeparator (left ++ mark :: right)
      = splitAt isSeparator left ++ splitAt isSeparator right
  | [] => by simp [splitAt, hmark]
  | c :: left => by
    have ih := splitAt_append_cons hmark right left
    have hne := splitAt_ne_nil isSeparator left
    simp only [List.cons_append, splitAt, ih]
    split
    · rfl
    · cases hs : splitAt isSeparator left with
      | nil => exact absurd hs hne
      | cons s ss => rfl

/-- No stretch has a separator in it. -/
theorem eq_false_of_mem_splitAt {isSeparator : Char → Bool} :
    ∀ {cs s : List Char}, s ∈ splitAt isSeparator cs → ∀ c ∈ s, isSeparator c = false
  | [], s, hs, c, hc => by
    simp only [splitAt, List.mem_singleton] at hs
    simp [hs] at hc
  | d :: rest, s, hs, c, hc => by
    simp only [splitAt] at hs
    split at hs
    · rcases List.mem_cons.mp hs with rfl | hs
      · cases hc
      · exact eq_false_of_mem_splitAt hs c hc
    · rename_i hd
      split at hs
      · rename_i hnil
        exact absurd hnil (splitAt_ne_nil isSeparator rest)
      · rename_i t ts hsplit
        have ih (u : List Char) (hu : u ∈ t :: ts) : ∀ c ∈ u, isSeparator c = false := by
          rw [← hsplit] at hu
          exact eq_false_of_mem_splitAt hu
        rcases List.mem_cons.mp hs with rfl | hs
        · rcases List.mem_cons.mp hc with rfl | hc
          · simpa using hd
          · exact ih t List.mem_cons_self c hc
        · exact ih s (List.mem_cons_of_mem t hs) c hc

/-- A separator between every two stretches gives the text back. -/
theorem intercalate_splitAt (mark : Char) (cs : List Char) :
    List.intercalate [mark] (splitAt (· = mark) cs) = cs := by
  induction cs with
  | nil => simp [splitAt, List.intercalate]
  | cons c rest ih =>
    have hne := splitAt_ne_nil (· = mark) rest
    simp only [splitAt, decide_eq_true_eq]
    cases hs : splitAt (· = mark) rest with
    | nil => exact absurd hs hne
    | cons s ss =>
      rw [hs] at ih
      split
      · rename_i h
        subst h
        simp only [List.intercalate, List.intersperse, List.flatten] at ih ⊢
        simpa [List.intersperse] using ih
      · cases ss with
        | nil =>
          simp only [List.intercalate, List.intersperse, List.flatten] at ih ⊢
          simpa using ih
        | cons t ts =>
          simp only [List.intercalate, List.intersperse, List.flatten] at ih ⊢
          simpa using ih

/-- Stretches without a separator are what splitting finds between the separators. -/
theorem splitAt_intercalate (mark : Char) :
    ∀ {stretches : List (List Char)}, stretches ≠ [] →
      (∀ s ∈ stretches, ∀ c ∈ s, decide (c = mark) = false) →
      splitAt (· = mark) (List.intercalate [mark] stretches) = stretches
  | [], hne, _ => absurd rfl hne
  | [s], _, h => by
    simpa [List.intercalate] using splitAt_of_forall_not (h s List.mem_cons_self)
  | s :: t :: rest, _, h => by
    have ih := splitAt_intercalate mark (List.cons_ne_nil t rest)
      fun u hu => h u (List.mem_cons_of_mem s hu)
    have hfirst := splitAt_of_forall_not (h s List.mem_cons_self)
    have hjoin : List.intercalate [mark] (s :: t :: rest)
        = s ++ mark :: List.intercalate [mark] (t :: rest) := by
      simp [List.intercalate]
    rw [hjoin, splitAt_append_cons (by simp), hfirst, ih]
    rfl

end ModuleRunner.Text
