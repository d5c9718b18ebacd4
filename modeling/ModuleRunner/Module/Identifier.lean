import ModuleRunner.Text.Split

/-!
# Module identifiers

An id is names with slashes between them.  A request that starts with `./` or `../` is relative to
the id of the module that makes it; any other request is an id already.

Resolution walks over the segments of the request with a cursor into the segments of the base.  The
cursor stands on the segment that the next step acts on: at first the last one, which names the
requesting module itself.

* `isRelative` — whether a request is relative.
* `Walk`, `Walk.step` — the segments with the cursor, and what one segment of a request does.
* `resolve` — the id that a request stands for.
-/

namespace ModuleRunner.Module

/-- Whether a request is relative to the module that makes it. -/
def isRelative (request : String) : Bool :=
  request.startsWith "./" || request.startsWith "../"

/-- The stretches between slashes. -/
def segmentsOf (cs : List Char) : List (List Char) := Text.splitAt (· = '/') cs

/-- Segments with slashes between them. -/
def joinSegments (segments : List (List Char)) : List Char := List.intercalate ['/'] segments

/-- The segments reached so far, and the one that the next step acts on. -/
structure Walk where
  /-- The segments. -/
  segments : List (List Char)
  /-- The place of the segment to act on; it may lie behind the last one. -/
  cursor : Nat
deriving DecidableEq, Repr

/-- What one segment of a request does.  A dot drops the segment at the cursor and moves back; two
dots move back and drop two; a name takes the place of an empty segment at the cursor, or else goes
to the end. -/
def Walk.step (walk : Walk) (segment : List Char) : Walk :=
  if segment = ['.'] then ⟨walk.segments.eraseIdx walk.cursor, walk.cursor - 1⟩
  else if segment = ['.', '.'] then
    let cursor := walk.cursor - 1
    ⟨(walk.segments.eraseIdx cursor).eraseIdx cursor, cursor⟩
  else if walk.segments[walk.cursor]? = some [] then
    ⟨walk.segments.set walk.cursor segment, walk.cursor⟩
  else ⟨walk.segments ++ [segment], walk.segments.length⟩

/-- The walk that stands on the last segment of a base. -/
def Walk.ofBase (base : List Char) : Walk :=
  let segments := segmentsOf base
  ⟨segments, segments.length - 1⟩

/-- The id that a relative request stands for. -/
def resolveRelative (request base : List Char) : List Char :=
  joinSegments ((segmentsOf request).foldl Walk.step (.ofBase base)).segments

/-- The id that a request stands for in a module with the id `base`. -/
def resolve (request base : String) : String :=
  if isRelative request then String.ofList (resolveRelative request.toList base.toList)
  else request

/-- A request that is not relative is an id already. -/
theorem resolve_of_not_isRelative {request : String} (h : isRelative request = false)
    (base : String) : resolve request base = request := by
  simp [resolve, h]

/-- A text has a segment. -/
theorem segmentsOf_ne_nil (cs : List Char) : segmentsOf cs ≠ [] := Text.splitAt_ne_nil _ cs

/-- Joining the segments of a text gives it back. -/
theorem joinSegments_segmentsOf (cs : List Char) : joinSegments (segmentsOf cs) = cs :=
  Text.intercalate_splitAt '/' cs

end ModuleRunner.Module
