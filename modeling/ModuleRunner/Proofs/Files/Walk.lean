import Mathlib.Tactic
import ModuleRunner.Files.Tree

/-!
# Walks that stay below their start

Two dots lead out of the directory that a walk started in exactly when, up to there, they have
outnumbered the names.  Names of which no first part does so lead to the same thing wherever the
directory they start in is: nothing around it can be seen from inside.

* `StaysWithin`, `StaysBelow` — names that never climb above where they start.
* `foldlM_step_inside` — a walk that stays below does not look at the directories around its start.
* `Storage.place`, `Storage.find_eq` — the walk over a path.
-/

namespace ModuleRunner.Files

/-! ## Names that stay below -/

/-- Whether a name leads into a directory. -/
def isDescent (name : String) : Bool := name ≠ ".." && name ≠ "." && name ≠ ""

/-- Names that never climb further up than `depth` directories above where they start. -/
def StaysWithin (depth : Nat) (names : List String) : Prop :=
  ∀ first, first <+: names → first.count ".." ≤ depth + first.countP isDescent

/-- Names that never climb above where they start: in no first part of them do the two dots outnumber
the names. -/
def StaysBelow (names : List String) : Prop := StaysWithin 0 names

instance (depth : Nat) (names : List String) : Decidable (StaysWithin depth names) :=
  decidable_of_iff (∀ first ∈ names.inits, first.count ".." ≤ depth + first.countP isDescent) <| by
    simp only [List.mem_inits, StaysWithin]

instance (names : List String) : Decidable (StaysBelow names) :=
  inferInstanceAs (Decidable (StaysWithin 0 names))

@[simp] lemma isDescent_dots : isDescent ".." = false := by decide

@[simp] lemma isDescent_dot : isDescent "." = false := by decide

@[simp] lemma isDescent_empty : isDescent "" = false := by decide

/-- A part of names that stay below stays below. -/
lemma StaysWithin.of_first {depth : Nat} {first names : List String} (h : StaysWithin depth names)
    (hfirst : first <+: names) : StaysWithin depth first :=
  fun part hpart => h part (hpart.trans hfirst)

/-- What follows a name that leads nowhere. -/
lemma StaysWithin.of_idle {depth : Nat} {name : String} {rest : List String}
    (h : StaysWithin depth (name :: rest)) (hname : isDescent name = false) (hup : name ≠ "..") :
    StaysWithin depth rest := by
  intro first hfirst
  have hle := h (name :: first) (List.cons_prefix_cons.mpr ⟨rfl, hfirst⟩)
  rw [List.count_cons_of_ne hup, List.countP_cons_of_neg (by simp [hname])] at hle
  exact hle

/-- What follows two dots is one directory further up. -/
lemma StaysWithin.of_up {depth : Nat} {rest : List String}
    (h : StaysWithin depth (".." :: rest)) : 0 < depth ∧ StaysWithin (depth - 1) rest := by
  have hdepth : 0 < depth := by
    have hle := h [".."] (by simp)
    simp at hle
    omega
  refine ⟨hdepth, ?_⟩
  intro first hfirst
  have hle := h (".." :: first) (List.cons_prefix_cons.mpr ⟨rfl, hfirst⟩)
  rw [List.count_cons_self, List.countP_cons_of_neg (by simp)] at hle
  omega

/-- What follows a name is one directory further down. -/
lemma StaysWithin.of_descent {depth : Nat} {name : String} {rest : List String}
    (h : StaysWithin depth (name :: rest)) (hname : isDescent name = true) :
    StaysWithin (depth + 1) rest := by
  intro first hfirst
  have hup : name ≠ ".." := by
    rintro rfl
    simp at hname
  have hle := h (name :: first) (List.cons_prefix_cons.mpr ⟨rfl, hfirst⟩)
  rw [List.count_cons_of_ne hup, List.countP_cons_of_pos hname] at hle
  omega

/-- A name at the end climbs nowhere. -/
lemma staysBelow_append_singleton {names : List String} {last : String} (hup : last ≠ "..") :
    StaysBelow (names ++ [last]) ↔ StaysBelow names := by
  constructor
  · intro h
    exact h.of_first (List.prefix_append names [last])
  · intro h first hfirst
    rcases List.prefix_concat_iff.mp hfirst with rfl | hfirst
    · have hle := h names (List.prefix_refl names)
      rw [List.count_append, List.countP_append, List.count_singleton]
      have hne : (last == "..") = false := by simpa using hup
      rw [hne]
      simp only [Bool.false_eq_true, if_false]
      omega
    · exact h first hfirst

/-! ## Walks -/

/-- A place seen from further out. -/
def Place.inside (outer : List Directory) (place : Place) : Place :=
  ⟨place.around ++ outer, place.node⟩

/-- A step that does not leave the outermost directory is the same inside other directories, and what
is left of the names stays as far down as the step has led. -/
lemma step_inside (outer : List Directory) {place : Place} {name : String} {rest : List String}
    (h : StaysWithin place.around.length (name :: rest)) :
    (place.inside outer).step name = (place.step name).map (Place.inside outer) ∧
    ∀ next, place.step name = .ok next → StaysWithin next.around.length rest := by
  obtain ⟨around, node⟩ := place
  cases node with
  | file octets => exact ⟨rfl, fun next hnext => by cases hnext⟩
  | directory entries =>
  simp only [Place.inside, Place.step]
  by_cases hidle : name = "" ∨ name = "."
  · have hdescent : isDescent name = false := by
      rcases hidle with rfl | rfl <;> simp
    have hup : name ≠ ".." := by
      rcases hidle with rfl | rfl <;> simp
    simp only [hidle, Bool.or_eq_true, decide_eq_true_eq, if_true]
    refine ⟨rfl, fun next hnext => ?_⟩
    cases hnext
    exact h.of_idle hdescent hup
  · simp only [hidle, Bool.or_eq_true, decide_eq_true_eq, if_false]
    by_cases hup : name = ".."
    · subst hup
      obtain ⟨hdepth, hrest⟩ := h.of_up
      cases around with
      | nil => simp at hdepth
      | cons parent around =>
          refine ⟨rfl, fun next hnext => ?_⟩
          cases hnext
          exact hrest
    · simp only [hup, if_false]
      split
      · exact ⟨rfl, fun next hnext => by cases hnext⟩
      · cases hlookup : entries.lookup name with
        | none => exact ⟨rfl, fun next hnext => by cases hnext⟩
        | some node =>
            refine ⟨rfl, fun next hnext => ?_⟩
            cases hnext
            have hdescent : isDescent name = true := by
              rw [not_or] at hidle
              simp [isDescent, hup, hidle.1, hidle.2]
            exact h.of_descent hdescent

/-- **Walks that stay below.**  Names that stay below lead to the same thing whatever is around the
directory they start in. -/
theorem foldlM_step_inside (outer : List Directory) :
    ∀ (names : List String) (place : Place), StaysWithin place.around.length names →
      names.foldlM Place.step (place.inside outer)
        = (names.foldlM Place.step place).map (Place.inside outer) := by
  intro names
  induction names with
  | nil =>
      intro place _
      rfl
  | cons name rest ih =>
      intro place h
      obtain ⟨hstep, hrest⟩ := step_inside outer h
      rw [List.foldlM_cons, List.foldlM_cons, hstep]
      cases hnext : place.step name with
      | error fault => rfl
      | ok next => exact ih next (hrest next hnext)

/-- An empty name leads nowhere, but only in a directory. -/
lemma step_empty_bind (place : Place) (name : String) :
    (place.step "" >>= fun next => next.step name) = place.step name := by
  obtain ⟨around, node⟩ := place
  cases node with
  | file octets => rfl
  | directory entries => rfl

/-! ## Paths -/

/-- Where the walk over a path starts. -/
def Storage.start (storage : Storage) (path : String) : Except Fault Place :=
  if path.startsWith "/" then .ok ⟨[], .directory storage.root⟩
  else storage.current.foldlM Place.step ⟨[], .directory storage.root⟩

/-- The place that a path leads to, however long the path is. -/
def Storage.place (storage : Storage) (path : String) : Except Fault Place :=
  storage.start path >>= fun start => (namesOf path).foldlM Place.step start

/-- A path that is not refused for its text leads to what is at its place. -/
lemma Storage.find_eq (storage : Storage) (path : String) :
    storage.find path =
      if path.isEmpty then .error .absent
      else if path.contains '\x00' then .error .hasNull
      else if maxPath < path.utf8ByteSize then .error .tooLong
      else (storage.place path).map Place.node := by
  unfold Storage.find Storage.place Storage.start
  split
  · rfl
  · split
    · rfl
    · split
      · rfl
      · split
        · rfl
        · show (storage.current.foldlM Place.step ⟨[], .directory storage.root⟩ >>= fun start =>
            (namesOf path).foldlM Place.step start >>= fun place => pure place.node) = _
          cases storage.current.foldlM Place.step ⟨[], .directory storage.root⟩ with
          | error fault => rfl
          | ok start => rfl

/-- Only what is at the place of a path matters. -/
lemma Storage.file?_eq_of_place {storage storage' : Storage} {path : String}
    (h : (storage.place path).map Place.node = (storage'.place path).map Place.node) :
    storage.file? path = storage'.file? path := by
  unfold Storage.file?
  rw [Storage.find_eq, Storage.find_eq, h]

end ModuleRunner.Files
