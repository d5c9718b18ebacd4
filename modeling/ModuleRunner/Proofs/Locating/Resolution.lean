import Mathlib.Tactic
import ModuleRunner.Module.Identifier

/-!
# Where relative requests lead

The walk of a relative request stands on the last segment that it has reached or right behind it.  So
a dot drops the last segment, two dots drop the last two while the walk stands on the requester's own
segment and one from then on, and a name goes to the end, since the only segment without characters
that the walk can stand on is the one behind a slash at the end of the base.

* `Walk.step_dot`, `Walk.step_dots`, `Walk.step_name` — the steps of a walk that stands at the end.
* `Walk.step_back`, `Walk.step_on` — the two kinds of steps: segments that lead back, and all others.
* `Walk.foldl_climbing`, `Walk.foldl_names` — the way up, and the names behind it.
* `resolve_climbing` — a request that leads some directories up, and then to names.
-/

namespace ModuleRunner.Module

/-! ## Segments of texts -/

/-- A segment that names something: it has characters, none of them a slash, and is neither a dot nor two
dots. -/
structure IsPlain (segment : List Char) : Prop where
  ne_nil : segment ≠ []
  slashless : '/' ∉ segment
  ne_dot : segment ≠ ['.']
  ne_dots : segment ≠ ['.', '.']

lemma slashless_iff (segment : List Char) :
    '/' ∉ segment ↔ ∀ c ∈ segment, decide (c = '/') = false := by
  constructor
  · intro h c hc
    rw [decide_eq_false_iff_not]
    rintro rfl
    exact h hc
  · intro h hmem
    simpa using h '/' hmem

/-- Joined segments fall apart again. -/
lemma segmentsOf_joinSegments {segments : List (List Char)} (hne : segments ≠ [])
    (hslash : ∀ segment ∈ segments, '/' ∉ segment) :
    segmentsOf (joinSegments segments) = segments :=
  Text.splitAt_intercalate '/' hne fun segment hmem =>
    (slashless_iff segment).mp (hslash segment hmem)

/-- A slash at the end is an empty segment more. -/
lemma segmentsOf_joinSegments_slash {segments : List (List Char)} (hne : segments ≠ [])
    (hslash : ∀ segment ∈ segments, '/' ∉ segment) :
    segmentsOf (joinSegments segments ++ ['/']) = segments ++ [[]] := by
  have hjoin := segmentsOf_joinSegments hne hslash
  rw [segmentsOf] at hjoin ⊢
  rw [Text.splitAt_append_cons (by simp), hjoin]
  rfl

lemma joinSegments_cons {segment : List Char} {segments : List (List Char)} (hne : segments ≠ []) :
    joinSegments (segment :: segments) = segment ++ '/' :: joinSegments segments := by
  obtain ⟨next, rest, rfl⟩ := List.exists_cons_of_ne_nil hne
  simp [joinSegments, List.intercalate]

/-! ## Steps at the end -/

namespace Walk

variable {segments : List (List Char)} {cursor : Nat}

/-- A dot drops the last segment, or none. -/
lemma step_dot (h : segments.length ≤ cursor + 1) :
    step ⟨segments, cursor⟩ ['.'] = ⟨segments.take cursor, cursor - 1⟩ := by
  have hdrop : segments.eraseIdx cursor = segments.take cursor := by
    rw [List.eraseIdx_eq_take_drop_succ, List.drop_of_length_le h, List.append_nil]
  unfold step
  rw [if_pos rfl, hdrop]

/-- Two dots drop the last segment and the one before. -/
lemma step_dots (h : segments.length ≤ cursor + 1) :
    step ⟨segments, cursor⟩ ['.', '.'] = ⟨segments.take (cursor - 1), cursor - 1⟩ := by
  have hdrop : (segments.eraseIdx (cursor - 1)).eraseIdx (cursor - 1)
      = segments.take (cursor - 1) := by
    apply List.ext_getElem?
    intro j
    rw [List.getElem?_eraseIdx, List.getElem?_take]
    split
    · rename_i hj
      rw [List.getElem?_eraseIdx, if_pos hj]
    · rw [List.getElem?_eraseIdx, if_neg (by omega)]
      exact List.getElem?_eq_none (by omega)
  unfold step
  rw [if_neg (by decide), if_pos rfl]
  dsimp only
  rw [hdrop]

/-- A name goes behind the segments, if it does not fill an empty one. -/
lemma step_name {segment : List Char} (h : IsPlain segment) (hhole : segments[cursor]? ≠ some []) :
    step ⟨segments, cursor⟩ segment = ⟨segments ++ [segment], segments.length⟩ := by
  unfold step
  rw [if_neg h.ne_dot, if_neg h.ne_dots, if_neg hhole]

/-- Whether a segment of a request leads back. -/
def isDots (segment : List Char) : Bool := segment = ['.'] || segment = ['.', '.']

lemma isDots_of_isPlain {segment : List Char} (h : IsPlain segment) : isDots segment = false := by
  simp [isDots, h.ne_dot, h.ne_dots]

/-- One dot or two drop segments at the end, and move back. -/
lemma step_back {segment : List Char} (h : segments.length ≤ cursor + 1)
    (hdots : isDots segment = true) : ∃ kept, cursor - 1 ≤ kept ∧ kept ≤ cursor ∧
      step ⟨segments, cursor⟩ segment = ⟨segments.take kept, cursor - 1⟩ := by
  have hdots' : segment = ['.'] ∨ segment = ['.', '.'] := by simpa [isDots] using hdots
  rcases hdots' with rfl | rfl
  · exact ⟨cursor, Nat.sub_le cursor 1, le_rfl, step_dot h⟩
  · exact ⟨cursor - 1, le_rfl, Nat.sub_le cursor 1, step_dots h⟩

/-- Any other segment becomes the last one, and the walk stands on it.  It goes behind the segments, or
takes the place of an empty one that the walk stands on. -/
lemma step_on {segment : List Char} (h : segments.length ≤ cursor + 1)
    (hdots : isDots segment = false) : ∃ kept ≤ segments.length,
      step ⟨segments, cursor⟩ segment = ⟨segments.take kept ++ [segment], kept⟩ ∧
      (segments[cursor]? = some [] ∧ kept = cursor ∨
        segments[cursor]? ≠ some [] ∧ kept = segments.length) := by
  have hdots' : segment ≠ ['.'] ∧ segment ≠ ['.', '.'] := by simpa [isDots] using hdots
  unfold step
  rw [if_neg hdots'.1, if_neg hdots'.2]
  split
  · rename_i hhole
    have hlast : cursor < segments.length := (List.getElem?_eq_some_iff.mp hhole).1
    refine ⟨cursor, hlast.le, ?_, .inl ⟨hhole, rfl⟩⟩
    rw [List.set_eq_take_append_cons_drop, if_pos hlast, List.drop_of_length_le h]
  · rename_i hhole
    exact ⟨segments.length, le_rfl, by rw [List.take_length], .inr ⟨hhole, rfl⟩⟩

/-! ## The way of a request -/

/-- The segments that lead up: a dot for the directory of the requester itself, or else two dots for
each directory up from there. -/
def climbing (k : Nat) : List (List Char) :=
  if k = 0 then [['.']] else List.replicate k ['.', '.']

/-- Behind the last segment, two dots drop one segment each time. -/
lemma foldl_dots (k n : Nat) (hn : n ≤ segments.length) :
    (List.replicate k ['.', '.']).foldl step ⟨segments.take n, n⟩
      = ⟨segments.take (n - k), n - k⟩ := by
  induction k generalizing n with
  | zero => rfl
  | succ k ih =>
      have hlength : (segments.take n).length ≤ n + 1 := by
        rw [List.length_take]
        omega
      rw [List.replicate_succ, List.foldl_cons, step_dots hlength, List.take_take,
        min_eq_left (Nat.sub_le n 1), ih (n - 1) (by omega), Nat.sub_sub, Nat.add_comm 1 k]

/-- The way up drops the requester's own segment and one more for each directory. -/
lemma foldl_climbing (k : Nat) (segments : List (List Char)) : ∃ cursor,
    (climbing k).foldl step ⟨segments, segments.length - 1⟩
      = ⟨segments.take (segments.length - 1 - k), cursor⟩ := by
  have hend : segments.length ≤ segments.length - 1 + 1 := by omega
  cases k with
  | zero => exact ⟨_, step_dot hend⟩
  | succ k =>
      -- only the first two dots find the walk on a segment, from then on it stands behind the last one
      refine ⟨segments.length - 1 - 1 - k, ?_⟩
      rw [climbing, if_neg (Nat.succ_ne_zero k), List.replicate_succ, List.foldl_cons,
        step_dots hend, foldl_dots k _ (by omega)]
      congr 2
      omega

/-- Names go behind the segments one by one. -/
lemma foldl_names {names : List (List Char)} (hnames : ∀ name ∈ names, IsPlain name)
    (hhole : segments[cursor]? ≠ some []) :
    (names.foldl step ⟨segments, cursor⟩).segments = segments ++ names := by
  induction names generalizing segments cursor with
  | nil => simp
  | cons name rest ih =>
      obtain ⟨hname, hrest⟩ := List.forall_mem_cons.mp hnames
      rw [List.foldl_cons, step_name hname hhole, ih hrest, List.append_assoc, List.singleton_append]
      rw [List.getElem?_append_right le_rfl, Nat.sub_self]
      exact fun hempty => hname.ne_nil (Option.some.inj hempty)

end Walk

open Walk (climbing)

lemma slashless_of_mem_climbing {k : Nat} {segment : List Char} (h : segment ∈ climbing k) :
    '/' ∉ segment := by
  unfold climbing at h
  split at h
  · rw [List.mem_singleton.mp h]
    decide
  · rw [List.eq_of_mem_replicate h]
    decide

/-- A way up and names behind it are a relative request. -/
lemma isRelative_climbing (k : Nat) {names : List (List Char)} (hnames : names ≠ []) :
    isRelative (String.ofList (joinSegments (climbing k ++ names))) = true := by
  rw [isRelative, Bool.or_eq_true, String.startsWith_string_iff, String.startsWith_string_iff]
  cases k with
  | zero =>
      left
      rw [climbing, if_pos rfl, List.singleton_append, joinSegments_cons hnames]
      exact ⟨joinSegments names, by simp⟩
  | succ k =>
      right
      have hrest : List.replicate k ['.', '.'] ++ names ≠ [] := by simp [hnames]
      rw [climbing, if_neg (Nat.succ_ne_zero k), List.replicate_succ, List.cons_append,
        joinSegments_cons hrest]
      exact ⟨joinSegments (List.replicate k ['.', '.'] ++ names), by simp⟩

/-- A way up and names behind it lead from the segments of a base to those that the way leaves, and to
the names from there.  No segment but the last one of the base may be empty. -/
lemma resolve_of_segmentsOf (k : Nat) {segments names : List (List Char)} {base : String}
    (hbase : segmentsOf base.toList = segments)
    (hfull : ∀ segment ∈ segments.take (segments.length - 1), segment ≠ [])
    (hnames : names ≠ []) (hplain : ∀ name ∈ names, IsPlain name) :
    resolve (String.ofList (joinSegments (climbing k ++ names))) base
      = String.ofList (joinSegments (segments.take (segments.length - 1 - k) ++ names)) := by
  have hrequest : segmentsOf (joinSegments (climbing k ++ names)) = climbing k ++ names := by
    refine segmentsOf_joinSegments (by simp [hnames]) fun segment hmem => ?_
    rcases List.mem_append.mp hmem with hmem | hmem
    · exact slashless_of_mem_climbing hmem
    · exact (hplain segment hmem).slashless
  obtain ⟨cursor, hclimb⟩ := Walk.foldl_climbing k segments
  have hhole : (segments.take (segments.length - 1 - k))[cursor]? ≠ some [] := by
    intro hempty
    have hmem : [] ∈ segments.take (segments.length - 1 - k) := List.mem_of_getElem? hempty
    exact hfull [] (List.take_subset_take_left segments (Nat.sub_le _ k) hmem) rfl
  rw [resolve, if_pos (isRelative_climbing k hnames), resolveRelative, String.toList_ofList,
    hrequest, Walk.ofBase, hbase, List.foldl_append, hclimb, Walk.foldl_names hplain hhole]

/-- **Where relative requests lead.**  A request that leads `k` directories up and then to names stands
for the names behind what is left of the base: the segment of the requester itself goes away, and one
more for each directory, as far as there are any.  A base that ends with a slash is a directory
itself, and keeps one segment more. -/
theorem resolve_climbing (k : Nat) {base names : List (List Char)} (hbase : base ≠ [])
    (hnames : names ≠ []) (hplain : ∀ segment ∈ base ++ names, IsPlain segment) :
    resolve (String.ofList (joinSegments (climbing k ++ names))) (String.ofList (joinSegments base))
        = String.ofList (joinSegments (base.take (base.length - 1 - k) ++ names)) ∧
      resolve (String.ofList (joinSegments (climbing k ++ names)))
          (String.ofList (joinSegments base ++ ['/']))
        = String.ofList (joinSegments (base.take (base.length - k) ++ names)) := by
  obtain ⟨hbasePlain, hnamesPlain⟩ := List.forall_mem_append.mp hplain
  have hslash : ∀ segment ∈ base, '/' ∉ segment := fun segment hmem =>
    (hbasePlain segment hmem).slashless
  have hfull : ∀ segment ∈ base, segment ≠ [] := fun segment hmem =>
    (hbasePlain segment hmem).ne_nil
  constructor
  · refine resolve_of_segmentsOf k ?_ (fun segment hmem => ?_) hnames hnamesPlain
    · rw [String.toList_ofList, segmentsOf_joinSegments hbase hslash]
    · exact hfull segment (List.mem_of_mem_take hmem)
  · have hdirectory : segmentsOf (String.ofList (joinSegments base ++ ['/'])).toList
        = base ++ [[]] := by
      rw [String.toList_ofList, segmentsOf_joinSegments_slash hbase hslash]
    have hlength : (base ++ [[]]).length - 1 = base.length := by simp
    have hkept : ∀ segment ∈ (base ++ [[]]).take ((base ++ [[]]).length - 1), segment ≠ [] := by
      rw [hlength, List.take_left]
      exact hfull
    have hresolve := resolve_of_segmentsOf k hdirectory hkept hnames hnamesPlain
    rwa [hlength, List.take_append_of_le_length (Nat.sub_le _ k)] at hresolve

/-- Three directories up from a file in two of them, and from such a directory. -/
theorem resolve_climbing_beyond :
    (∀ segment ∈ ["lib".toList, "app".toList, "main".toList] ++ ["x".toList, "y".toList],
      IsPlain segment) ∧
      resolve "../../../x/y" "lib/app/main" = "x/y" ∧
      resolve "../../../x/y" "lib/app/main/" = "x/y" := by
  have hplain : ∀ segment ∈ ["lib".toList, "app".toList, "main".toList] ++ ["x".toList, "y".toList],
      IsPlain segment := by
    intro segment hmem
    simp only [List.cons_append, List.nil_append, List.mem_cons, List.not_mem_nil, or_false] at hmem
    rcases hmem with rfl | rfl | rfl | rfl | rfl <;> exact ⟨by decide, by decide, by decide, by decide⟩
  have hrequest : String.ofList (joinSegments (climbing 3 ++ ["x".toList, "y".toList]))
      = "../../../x/y" := by decide +kernel
  have hbase : String.ofList (joinSegments ["lib".toList, "app".toList, "main".toList])
      = "lib/app/main" := by decide +kernel
  have hdirectory : String.ofList (joinSegments ["lib".toList, "app".toList, "main".toList] ++ ['/'])
      = "lib/app/main/" := by decide +kernel
  have hresolve := resolve_climbing 3 (by decide) (by decide) hplain
  rw [hrequest, hbase, hdirectory] at hresolve
  exact ⟨hplain, hresolve⟩

end ModuleRunner.Module
