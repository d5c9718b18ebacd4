import ModuleRunner.Proofs.Locating.Resolution

/-!
# What a dot in front of a relative request does

A dot drops the segment of the requester and moves back, so the walk stands on the directory around
the requester in the way that it first stood on the requester itself: whatever follows takes that
directory for a file.  So a request with a dot in front means what it means without one in the module
that has the name of the directory, and not what it means in the requester.

Where there is nothing around the requester, or only the root, there is nothing to drop any more, and
the dot makes no difference.

* `directoryOf` — the directory around what an id names.
* `resolve_dot` — a dot in front asks from the directory.
* `resolve_eq_resolve_empty`, `exists_resolve_ne` — where that is the same, and where it is not.
-/

namespace ModuleRunner.Module

/-- What an id has before its last slash; nothing if it has none. -/
def directoryOf (id : String) : String := String.ofList (joinSegments (segmentsOf id.toList).dropLast)

/-! ## Segments of relative requests -/

/-- Segments fall apart at a slash. -/
lemma segmentsOf_append_slash (left right : List Char) :
    segmentsOf (left ++ '/' :: right) = segmentsOf left ++ segmentsOf right :=
  Text.splitAt_append_cons (by simp) right left

lemma slashless_of_mem_segmentsOf {cs segment : List Char} (h : segment ∈ segmentsOf cs) :
    '/' ∉ segment :=
  (slashless_iff segment).mpr (Text.eq_false_of_mem_splitAt h)

/-- The segments of a directory are those in front of the last one. -/
lemma segmentsOf_directoryOf {base : String} (h : (segmentsOf base.toList).dropLast ≠ []) :
    segmentsOf (directoryOf base).toList = (segmentsOf base.toList).dropLast := by
  have hslash : ∀ segment ∈ (segmentsOf base.toList).dropLast, '/' ∉ segment := fun _ hmem =>
    slashless_of_mem_segmentsOf (List.dropLast_subset _ hmem)
  rw [directoryOf, String.toList_ofList, segmentsOf_joinSegments h hslash]

lemma isRelative_iff (request : String) : isRelative request = true ↔
    ['.', '/'] <+: request.toList ∨ ['.', '.', '/'] <+: request.toList := by
  rw [isRelative, Bool.or_eq_true, String.startsWith_string_iff, String.startsWith_string_iff]
  rfl

/-- A relative request is one dot or two, and more behind a slash. -/
lemma segmentsOf_of_isRelative {request : String} (h : isRelative request = true) :
    ∃ first rest, Walk.isDots first = true ∧
      segmentsOf request.toList = first :: segmentsOf rest := by
  rcases (isRelative_iff request).mp h with ⟨rest, hrest⟩ | ⟨rest, hrest⟩
  · refine ⟨['.'], rest, by decide, ?_⟩
    rw [← hrest]
    exact segmentsOf_append_slash ['.'] rest
  · refine ⟨['.', '.'], rest, by decide, ?_⟩
    rw [← hrest]
    exact segmentsOf_append_slash ['.', '.'] rest

/-- A request with a dot in front is relative, and the dot is its first segment. -/
lemma segmentsOf_dot (request : String) :
    isRelative ("./" ++ request) = true ∧
      segmentsOf ("./" ++ request).toList = ['.'] :: segmentsOf request.toList := by
  have htext : ("./" ++ request).toList = ['.'] ++ '/' :: request.toList := by simp
  constructor
  · exact (isRelative_iff _).mpr (.inl ⟨request.toList, htext.symm⟩)
  · rw [htext, segmentsOf_append_slash]
    rfl

/-- Only the empty segment alone is joined to nothing. -/
lemma eq_of_joinSegments_eq_nil {segments : List (List Char)} (h : joinSegments segments = []) :
    segments = [] ∨ segments = [[]] := by
  cases segments with
  | nil => exact .inl rfl
  | cons segment rest =>
      cases rest with
      | nil => exact .inr (by simpa [joinSegments] using h)
      | cons next rest =>
          rw [joinSegments_cons (List.cons_ne_nil next rest)] at h
          simp at h

/-! ## Walks from the directory -/

namespace Walk

/-- It makes no difference whether there is no segment or the walk stands on a single empty one. -/
lemma step_blank (segment : List Char) : step ⟨[[]], 0⟩ segment = step ⟨[], 0⟩ segment := by
  unfold step
  split
  · rfl
  · split
    · rfl
    · simp

lemma foldl_blank {segments : List (List Char)} (h : segments ≠ []) :
    segments.foldl step ⟨[[]], 0⟩ = segments.foldl step ⟨[], 0⟩ := by
  obtain ⟨segment, rest, rfl⟩ := List.exists_cons_of_ne_nil h
  rw [List.foldl_cons, List.foldl_cons, step_blank]

/-- A dot leaves all segments but the last one, and stands on the one before. -/
lemma step_ofBase_dot (base : List Char) : step (ofBase base) ['.']
    = ⟨(segmentsOf base).dropLast, (segmentsOf base).dropLast.length - 1⟩ := by
  have hend : (segmentsOf base).length ≤ (segmentsOf base).length - 1 + 1 := by omega
  rw [ofBase, step_dot hend, List.dropLast_eq_take, List.length_take]
  congr 1
  omega

/-- Behind a dot, the walk goes on as from the directory. -/
lemma step_dot_ofBase (base : String) (segment : List Char) :
    step (step (ofBase base.toList) ['.']) segment
      = step (ofBase (directoryOf base).toList) segment := by
  rw [step_ofBase_dot]
  by_cases hnil : (segmentsOf base.toList).dropLast = []
  · have hdirectory : directoryOf base = "" := by simp [directoryOf, hnil, joinSegments]
    rw [hnil, hdirectory]
    exact (step_blank segment).symm
  · rw [ofBase, segmentsOf_directoryOf hnil]

/-- Behind the first segment of a relative request, nothing is left of a base without a directory. -/
lemma step_of_directoryOf_eq_empty {base : String} (hbase : directoryOf base = "")
    {first : List Char} (hfirst : isDots first = true) :
    step (ofBase base.toList) first = ⟨[], 0⟩ ∨ step (ofBase base.toList) first = ⟨[[]], 0⟩ := by
  have hjoin : joinSegments (segmentsOf base.toList).dropLast = [] :=
    String.ofList_eq_empty_iff.mp hbase
  have hend : (segmentsOf base.toList).length ≤ (segmentsOf base.toList).length - 1 + 1 := by omega
  obtain ⟨kept, -, hkept, hstep⟩ := step_back hend hfirst
  have htake : (segmentsOf base.toList).take kept
      = (segmentsOf base.toList).dropLast.take kept := by
    rw [List.dropLast_eq_take, List.take_take, min_eq_left hkept]
  have hlength : (segmentsOf base.toList).length - 1 = (segmentsOf base.toList).dropLast.length :=
    List.length_dropLast.symm
  rw [ofBase, hstep, htake, hlength]
  rcases eq_of_joinSegments_eq_nil hjoin with hnone | hblank
  · rw [hnone]
    exact .inl (by simp)
  · rw [hblank]
    cases kept with
    | zero => exact .inl rfl
    | succ kept => exact .inr (by simp)

end Walk

/-! ## Dots in front -/

lemma resolve_of_isRelative {request : String} (h : isRelative request = true) (base : String) :
    resolve request base = String.ofList
      (joinSegments ((segmentsOf request.toList).foldl Walk.step (.ofBase base.toList)).segments) := by
  rw [resolve, if_pos h, resolveRelative]

/-- A dot in front asks from the directory of the requester. -/
lemma resolve_dot {request : String} (h : isRelative request = true) (base : String) :
    resolve ("./" ++ request) base = resolve request (directoryOf base) := by
  obtain ⟨hdot, hsegments⟩ := segmentsOf_dot request
  obtain ⟨first, rest, -, hrequest⟩ := segmentsOf_of_isRelative h
  rw [resolve_of_isRelative hdot, resolve_of_isRelative h, hsegments, hrequest, List.foldl_cons,
    List.foldl_cons, List.foldl_cons, Walk.step_dot_ofBase]

/-- Where a base has no directory, relative requests mean what they mean at the top. -/
lemma resolve_eq_resolve_empty {request base : String} (h : isRelative request = true)
    (hbase : directoryOf base = "") : resolve request base = resolve request "" := by
  obtain ⟨first, rest, hfirst, hrequest⟩ := segmentsOf_of_isRelative h
  have hblank (other : String) (hother : directoryOf other = "") :
      (segmentsOf request.toList).foldl Walk.step (.ofBase other.toList)
        = (segmentsOf rest).foldl Walk.step ⟨[], 0⟩ := by
    rw [hrequest, List.foldl_cons]
    rcases Walk.step_of_directoryOf_eq_empty hother hfirst with hstep | hstep
    · rw [hstep]
    · rw [hstep, Walk.foldl_blank (segmentsOf_ne_nil rest)]
  rw [resolve_of_isRelative h, resolve_of_isRelative h, hblank base hbase, hblank "" rfl]

/-- Texts of segments are the same only if the segments are. -/
lemma ofList_joinSegments_inj {left right : List (List Char)} (hleft : left ≠ []) (hright : right ≠ [])
    (hslashLeft : ∀ segment ∈ left, '/' ∉ segment) (hslashRight : ∀ segment ∈ right, '/' ∉ segment)
    (h : String.ofList (joinSegments left) = String.ofList (joinSegments right)) : left = right := by
  rw [← segmentsOf_joinSegments hleft hslashLeft, String.ofList_injective h,
    segmentsOf_joinSegments hright hslashRight]

lemma isPlain_y : IsPlain ['y'] := ⟨by decide, by decide, by decide, by decide⟩

/-- A request for a name in the directory above. -/
lemma resolve_up (base : String) : resolve "../y" base = String.ofList (joinSegments
    ((segmentsOf base.toList).take ((segmentsOf base.toList).length - 2) ++ [['y']])) := by
  have hrelative : isRelative "../y" = true := (isRelative_iff _).mpr (.inr ⟨['y'], rfl⟩)
  have hrequest : segmentsOf "../y".toList = [['.', '.'], ['y']] := by decide
  have hend : (segmentsOf base.toList).length ≤ (segmentsOf base.toList).length - 1 + 1 := by omega
  have hhole (n : Nat) : ((segmentsOf base.toList).take n)[n]? ≠ some [] := by
    rw [List.getElem?_take_eq_none le_rfl]
    exact Option.some_ne_none [] |>.symm
  rw [resolve_of_isRelative hrelative, hrequest, List.foldl_cons, List.foldl_cons, List.foldl_nil,
    Walk.ofBase, Walk.step_dots hend, Walk.step_name isPlain_y (hhole _), Nat.sub_sub]

/-- A request for a name in the directory itself, where that has only one segment. -/
lemma resolve_here {base : String} {segment last : List Char}
    (hbase : segmentsOf base.toList = [segment, last]) (hne : segment ≠ []) :
    resolve "./y" base = String.ofList (joinSegments [segment, ['y']]) := by
  have hrelative : isRelative "./y" = true := (isRelative_iff _).mpr (.inl ⟨['y'], rfl⟩)
  have hrequest : segmentsOf "./y".toList = [['.'], ['y']] := by decide
  have hhole : ([segment] : List (List Char))[0]? ≠ some [] := by simpa using hne
  rw [resolve_of_isRelative hrelative, hrequest, List.foldl_cons, List.foldl_cons, List.foldl_nil,
    Walk.ofBase, hbase, Walk.step_dot (by simp)]
  exact congrArg (fun walk : Walk => String.ofList (joinSegments walk.segments))
    (Walk.step_name isPlain_y hhole)

/-- From a directory of one segment, a request for a name beside it is one for a name at the top. -/
lemma resolve_here_ne {base : String} {segment last : List Char}
    (hsegments : segmentsOf base.toList = [segment, last]) (hbase : directoryOf base ≠ "") :
    resolve "./y" (directoryOf base) ≠ resolve "./y" base := by
  have hnames : segmentsOf (directoryOf base).toList = [segment] := by
    rw [segmentsOf_directoryOf (by rw [hsegments]; exact List.cons_ne_nil _ _), hsegments]
    rfl
  have hslash : '/' ∉ segment := slashless_of_mem_segmentsOf (by rw [hnames]; exact List.mem_cons_self)
  have hne : segment ≠ [] := by
    rintro rfl
    exact hbase (by rw [directoryOf, hsegments]; rfl)
  have htop : directoryOf (directoryOf base) = "" := by
    rw [directoryOf, hnames]
    rfl
  have hy : resolve "./y" "" = String.ofList (joinSegments [['y']]) := by decide +kernel
  rw [resolve_here hsegments hne, resolve_eq_resolve_empty (by decide +kernel) htop, hy]
  intro hsame
  have hlists := ofList_joinSegments_inj (List.cons_ne_nil _ _) (List.cons_ne_nil _ _)
    (by simp) (by simpa using hslash) hsame
  simp at hlists

/-- From a directory of more segments, a request for a name above leads one segment further up. -/
lemma resolve_up_ne {base : String} (hmany : 2 < (segmentsOf base.toList).length) :
    resolve "../y" (directoryOf base) ≠ resolve "../y" base := by
  have hslashless (id : String) (n : Nat) :
      ∀ segment ∈ (segmentsOf id.toList).take n ++ [['y']], '/' ∉ segment := by
    intro segment hmem
    rcases List.mem_append.mp hmem with hmem | hmem
    · exact slashless_of_mem_segmentsOf (List.mem_of_mem_take hmem)
    · rw [List.mem_singleton.mp hmem]
      decide
  have hnames : segmentsOf (directoryOf base).toList = (segmentsOf base.toList).dropLast :=
    segmentsOf_directoryOf (List.ne_nil_of_length_pos (by rw [List.length_dropLast]; omega))
  rw [resolve_up, resolve_up]
  intro hsame
  have hlists := ofList_joinSegments_inj (by simp) (by simp) (hslashless _ _) (hslashless _ _) hsame
  have hlengths := congrArg List.length hlists
  rw [hnames] at hlengths
  simp only [List.length_append, List.length_take, List.length_dropLast, List.length_cons,
    List.length_nil] at hlengths
  omega

/-- Where a base has a directory, some request means another thing there.  If the directory is one name,
a request for a name beside the requester tells them apart; if there are more, one for a name above. -/
lemma exists_resolve_ne {base : String} (hbase : directoryOf base ≠ "") :
    ∃ request, isRelative request = true ∧
      resolve request (directoryOf base) ≠ resolve request base := by
  match hsegments : segmentsOf base.toList with
  | [] => exact absurd hsegments (segmentsOf_ne_nil _)
  | [last] => exact absurd (by rw [directoryOf, hsegments]; rfl) hbase
  | [segment, last] => exact ⟨"./y", by decide +kernel, resolve_here_ne hsegments hbase⟩
  | _ :: _ :: _ :: _ => exact ⟨"../y", by decide +kernel, resolve_up_ne (by rw [hsegments]; simp)⟩

/-- **A dot in front.**  It makes a relative request one of the directory of the requester: what it then
means is what the request without it means in a module that has the directory for an id.  For all
requests that is the same thing exactly in those modules that have no directory, or only the root. -/
theorem resolve_leading_dot (base : String) :
    (∀ request, isRelative request = true →
      resolve ("./" ++ request) base = resolve request (directoryOf base)) ∧
    ((∀ request, isRelative request = true →
      resolve ("./" ++ request) base = resolve request base) ↔ directoryOf base = "") := by
  refine ⟨fun request h => resolve_dot h base, fun hneutral => ?_, fun hbase request h => ?_⟩
  · by_contra hbase
    obtain ⟨request, h, hne⟩ := exists_resolve_ne hbase
    exact hne ((resolve_dot h base).symm.trans (hneutral request h))
  · calc resolve ("./" ++ request) base = resolve request (directoryOf base) := resolve_dot h base
      _ = resolve request "" := by rw [hbase]
      _ = resolve request base := (resolve_eq_resolve_empty h hbase).symm

/-- A second dot leads out of the directory that the first one has led to. -/
theorem resolve_leading_dot_twice :
    isRelative "./x" = true ∧ directoryOf "lib/a/b" = "lib/a" ∧
      resolve "././x" "lib/a/b" = resolve "./x" "lib/a" ∧ resolve "./x" "lib/a" = "lib/x" := by
  have hrelative : isRelative "./x" = true := by decide +kernel
  have hdirectory : directoryOf "lib/a/b" = "lib/a" := by decide +kernel
  have hdot := (resolve_leading_dot "lib/a/b").1 "./x" hrelative
  rw [hdirectory] at hdot
  exact ⟨hrelative, hdirectory, hdot, by decide +kernel⟩

/-- A dot in front of a relative request does make a difference. -/
theorem leading_dot_not_neutral : ¬ ∀ base request, isRelative request = true →
    resolve ("./" ++ request) base = resolve request base := by
  intro hneutral
  have hsame := hneutral "lib/a/b" "./x" (by decide +kernel)
  have hdifferent : resolve ("./" ++ "./x") "lib/a/b" ≠ resolve "./x" "lib/a/b" := by decide +kernel
  exact hdifferent hsame

end ModuleRunner.Module
