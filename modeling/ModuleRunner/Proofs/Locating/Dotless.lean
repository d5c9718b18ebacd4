import ModuleRunner.Proofs.Locating.Absolute

/-!
# Ids without dots

The segments of a relative request that lead back take segments away, and only names come in.  So what
a request stands for has no segment of one dot or two if the id of the requester has none, and neither
has anything that is reached from there by further relative requests.

The walk may stand behind the last segment, and then there is less to take away than the request
says.  What it does there shows in the changes that it makes one after another: each of them can be
made only at a place that the segments have at that moment, and all of them can be made.

* `Change`, `Change.make?` — a change of the segments, which not all segments have a place for.
* `Walk.changes`, `Walk.changesAlong` — what a segment of a request changes, and what a request does.
* `Walk.make_changesAlong` — every change has its place.
* `IsDotless`, `isDotless_resolve` — ids without dots, and requests from them.
* `requests_stay_dotless` — requests from there, one after another.
-/

namespace ModuleRunner.Module

/-! ## Changes at places -/

/-- A change of a list of segments. -/
inductive Change where
  /-- The segment at a place goes away. -/
  | remove (place : Nat)
  /-- A name takes the place of the segment there. -/
  | overwrite (place : Nat) (name : List Char)
  /-- A name goes to the end. -/
  | append (name : List Char)
deriving DecidableEq

/-- Makes a change.  A segment can be removed or overwritten only at a place that there is. -/
def Change.make? (segments : List (List Char)) : Change → Option (List (List Char))
  | remove place => if place < segments.length then some (segments.eraseIdx place) else none
  | overwrite place name => if place < segments.length then some (segments.set place name) else none
  | append name => some (segments ++ [name])

/-- Up to `n` removals at one place, as long as there is a segment. -/
def removals (segments : List (List Char)) (place n : Nat) : List Change :=
  List.replicate (min n (segments.length - place)) (.remove place)

/-- The removals that have a place do all that as many without one would. -/
lemma make_removals (place n : Nat) (segments : List (List Char)) :
    (removals segments place n).foldlM Change.make? segments
      = some ((fun rest => rest.eraseIdx place)^[n] segments) := by
  induction n generalizing segments with
  | zero => simp [removals]
  | succ n ih =>
      rw [Function.iterate_succ_apply, ← ih]
      by_cases hplace : place < segments.length
      · have hcount : min (n + 1) (segments.length - place)
            = min n ((segments.eraseIdx place).length - place) + 1 := by
          rw [List.length_eraseIdx_of_lt hplace]
          omega
        rw [removals, hcount, List.replicate_succ, List.foldlM_cons, Change.make?, if_pos hplace]
        rfl
      · have hsame : segments.eraseIdx place = segments :=
          List.eraseIdx_of_length_le (Nat.not_lt.mp hplace)
        have hnone : segments.length - place = 0 := by omega
        rw [hsame, removals, removals, hnone, Nat.min_zero, Nat.min_zero]

namespace Walk

/-- The changes that one segment of a request makes. -/
def changes (walk : Walk) (segment : List Char) : List Change :=
  if segment = ['.'] then removals walk.segments walk.cursor 1
  else if segment = ['.', '.'] then removals walk.segments (walk.cursor - 1) 2
  else if walk.segments[walk.cursor]? = some [] then [.overwrite walk.cursor segment]
  else [.append segment]

/-- The changes that the segments of a request make, one after another. -/
def changesAlong (walk : Walk) : List (List Char) → List Change
  | [] => []
  | segment :: rest => walk.changes segment ++ (walk.step segment).changesAlong rest

/-- A step makes its changes, and each has its place, wherever the walk stands. -/
lemma make_changes (walk : Walk) (segment : List Char) :
    (walk.changes segment).foldlM Change.make? walk.segments = some (walk.step segment).segments := by
  unfold changes step
  split
  · exact make_removals walk.cursor 1 walk.segments
  · split
    · exact make_removals (walk.cursor - 1) 2 walk.segments
    · split
      · next hhole =>
        have hplace : walk.cursor < walk.segments.length := (List.getElem?_eq_some_iff.mp hhole).1
        rw [List.foldlM_cons, Change.make?, if_pos hplace]
        rfl
      · rfl

/-- By induction on the request: the next segment finds what the changes before it have left. -/
lemma make_changesAlong (request : List (List Char)) (walk : Walk) :
    (walk.changesAlong request).foldlM Change.make? walk.segments
      = some (request.foldl step walk).segments := by
  induction request generalizing walk with
  | nil => rfl
  | cons segment rest ih =>
      rw [changesAlong, List.foldlM_append, make_changes, Option.bind_eq_bind, Option.bind_some, ih,
        List.foldl_cons]

end Walk

/-! ## Ids without dots -/

/-- No segment of an id is one dot or two. -/
def IsDotless (id : String) : Prop := ∀ segment ∈ segmentsOf id.toList, Walk.isDots segment = false

/-- Segments without dots are still without when they are joined. -/
lemma isDotless_joinSegments {segments : List (List Char)}
    (hslash : ∀ segment ∈ segments, '/' ∉ segment)
    (hdots : ∀ segment ∈ segments, Walk.isDots segment = false) :
    IsDotless (String.ofList (joinSegments segments)) := by
  unfold IsDotless
  rw [String.toList_ofList]
  by_cases hne : segments = []
  · subst hne
    decide
  · rwa [segmentsOf_joinSegments hne hslash]

/-- What a relative request stands for has no dots if the requester has none. -/
lemma isDotless_resolve {request base : String} (hrelative : isRelative request = true)
    (hbase : IsDotless base) : IsDotless (resolve request base) := by
  rw [resolve_of_isRelative hrelative]
  refine isDotless_joinSegments ?_ (Walk.forall_mem_foldl (fun _ _ hname => hname) hbase)
  exact Walk.slashless_foldl (fun _ => slashless_of_mem_segmentsOf) fun _ => slashless_of_mem_segmentsOf

/-- **Ids without dots.**  From an id without segments of one dot or two, a relative request leads to
another one; every segment that it removes or overwrites on the way is one that there is at that
moment; and so relative requests one after another, each from where the one before has led, never lead
to a segment of dots. -/
theorem requests_stay_dotless {base : String} (hbase : IsDotless base) :
    (∀ request, isRelative request = true → IsDotless (resolve request base)) ∧
    (∀ request, isRelative request = true → ∃ segments,
      ((Walk.ofBase base.toList).changesAlong (segmentsOf request.toList)).foldlM Change.make?
        (segmentsOf base.toList) = some segments ∧
      resolve request base = String.ofList (joinSegments segments)) ∧
    ∀ requests : List String, (∀ request ∈ requests, isRelative request = true) →
      IsDotless (requests.foldl (fun id request => resolve request id) base) := by
  refine ⟨fun request hrelative => isDotless_resolve hrelative hbase,
    fun request hrelative => ⟨_, Walk.make_changesAlong _ (Walk.ofBase base.toList), ?_⟩,
    fun requests hrelative => ?_⟩
  · exact resolve_of_isRelative hrelative base
  · induction requests generalizing base with
    | nil => exact hbase
    | cons request rest ih =>
        obtain ⟨hfirst, hrest⟩ := List.forall_mem_cons.mp hrelative
        exact ih (isDotless_resolve hfirst hbase) hrest

/-- A request that leads further up than there is anything: of its four segments that lead back only the
first one has something to remove.  The next request is made in a directory, whose empty segment it
removes. -/
theorem requests_stay_dotless_beyond : IsDotless "lib/main" ∧
    (Walk.ofBase "lib/main".toList).changesAlong (segmentsOf "../../.././x/".toList)
      = [.remove 0, .remove 0, .append ['x'], .append []] ∧
    (∃ segments, [Change.remove 0, .remove 0, .append ['x'], .append []].foldlM Change.make?
        (segmentsOf "lib/main".toList) = some segments ∧
      resolve "../../.././x/" "lib/main" = String.ofList (joinSegments segments)) ∧
    ["../../.././x/", "./y/../z"].foldl (fun id request => resolve request id) "lib/main" = "z" ∧
    IsDotless "z" := by
  have hbase : IsDotless "lib/main" := by
    unfold IsDotless
    decide
  have hchanges : (Walk.ofBase "lib/main".toList).changesAlong (segmentsOf "../../.././x/".toList)
      = [.remove 0, .remove 0, .append ['x'], .append []] := by decide +kernel
  obtain ⟨-, hplaces, hstays⟩ := requests_stay_dotless hbase
  have hfirst := hplaces "../../.././x/" (by decide +kernel)
  rw [hchanges] at hfirst
  have hend : ["../../.././x/", "./y/../z"].foldl (fun id request => resolve request id) "lib/main"
      = "z" := by decide +kernel
  refine ⟨hbase, hchanges, hfirst, hend, hend ▸ hstays _ fun request hmem => ?_⟩
  fin_cases hmem <;> decide +kernel

end ModuleRunner.Module
