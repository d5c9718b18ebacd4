import ModuleRunner.Text.Split
import ModuleRunner.Url.Percent

/-!
# Paths of addresses

A path is written segment by segment, behind what stands there already.  A segment of one dot stands
for nothing, and one of two dots takes the segment before it away, a drive's name excepted.

The path of a file may start with the name of a drive, a letter and a colon or a bar, and the bar is
written as a colon.  The name ends where it is written, so a break in the text behind it ends it,
too: what follows is another segment.

* `Draft` — a path being written.
* `Draft.close` — the end of a segment.
* `walk` — the path that a text leads to.
-/

namespace ModuleRunner.Url

/-! ## Characters and segments -/

/-- Whether a character breaks a line or goes to the next column; in addresses these do not count. -/
def isBreak (c : Char) : Bool := c = '\t' || c = '\n' || c = '\r'

/-- Whether a character separates segments. -/
def isSlash (special : Bool) (c : Char) : Bool := c = '/' || (special && c = '\\')

/-- The letter of a drive, if a segment is its name. -/
def drive? : List Char → Option Char
  | [letter, mark] => if letter.isAlpha && (mark = ':' || mark = '|') then some letter else none
  | _ => none

/-- Whether a segment is the name of a drive as it is written, with a colon. -/
def isWrittenDrive (segment : List Char) : Bool :=
  (drive? segment).isSome && segment.getLast? = some ':'

/-- Whether a text starts with the name of a drive and nothing else before a slash. -/
def startsWithDrive (cs : List Char) : Bool :=
  (drive? (cs.take 2)).isSome && (cs.drop 2).head?.all (isSlash true)

/-- Whether a segment stands for one dot. -/
def isDot (segment : List Char) : Bool :=
  [".", "%2e"].contains (String.ofList (segment.map Char.toLower))

/-- Whether a segment stands for two dots. -/
def isDoubleDot (segment : List Char) : Bool :=
  ["..", ".%2e", "%2e.", "%2e%2e"].contains (String.ofList (segment.map Char.toLower))

/-! ## Written paths -/

/-- The last segment of a path. -/
def lastSegment (path : List Char) : List Char := (path.reverse.takeWhile (· ≠ '/')).reverse

/-- A path that ends in a slash. -/
def slashed (path : List Char) : List Char :=
  if path.getLast? = some '/' then path else path ++ ['/']

/-- The path without its last segment, which stays if it is the drive of a file. -/
def pop (isFile : Bool) (path : List Char) : List Char :=
  let last := lastSegment path
  if isFile && isWrittenDrive last then path else path.take (path.length - last.length)

/-- The path without the slash at its end, which stays if the path is nothing else or if it is the
one behind a drive. -/
def withoutSlash (path : List Char) : List Char :=
  let before := path.dropLast
  if path.getLast? = some '/' && before.contains '/' && !startsWithDrive (lastSegment before ++ ['/'])
  then before
  else path

/-! ## Drafts -/

/-- A path being written. -/
structure Draft where
  /-- What is written. -/
  written : List Char
  /-- Where the segment that is read starts. -/
  start : Nat
  /-- What is read and not yet written, last character first. -/
  pending : List Char
  /-- Whether a drive was written at the start. -/
  hasDrive : Bool

namespace Draft

/-- The draft of a path that goes on behind what is written. -/
def behind (written : List Char) : Draft := ⟨written, written.length, [], false⟩

/-- Writes what is read. -/
def flush (d : Draft) : Draft :=
  { d with
    written := d.written ++ d.pending.reverse.flatMap (Percent.encodeChar Percent.inPath)
    pending := [] }

/-- Reads a character of a segment.  If nothing but the drive of a file is written, a slash goes
before the character. -/
def read (isFile : Bool) (c : Char) (d : Draft) : Draft :=
  if isFile && isWrittenDrive (d.written.drop 1) then
    let d := d.flush
    { d with written := d.written ++ ['/'], start := d.start + 1, pending := [c] }
  else { d with pending := c :: d.pending }

/-- The draft that goes on behind another path. -/
def goOn (d : Draft) (written : List Char) : Draft :=
  { d with written, start := written.length }

/-- Ends a segment, at a slash or at the end of the text. -/
def close (isFile atSlash : Bool) (d : Draft) : Draft :=
  let d := d.flush
  let segment := d.written.drop d.start
  let before := d.written.take d.start
  let ending := if atSlash then ['/'] else []
  if isDoubleDot segment then
    let path := pop isFile (withoutSlash before)
    d.goOn (if atSlash then slashed path else path)
  else if isDot segment then d.goOn (slashed before)
  else if isFile && d.start = 1 && (drive? segment).isSome then
    { d.goOn (before ++ segment.take 1 ++ [':'] ++ ending) with hasDrive := true }
  else d.goOn (d.written ++ ending)

/-- Reads a text to its end. -/
def readAll (special isFile : Bool) (d : Draft) : List Char → Draft
  | [] => d.close isFile false
  | c :: rest =>
    if isBreak c then d.flush.readAll special isFile rest
    else if isSlash special c then (d.close isFile true).readAll special isFile rest
    else (d.read isFile c).readAll special isFile rest

/-- The end of a segment leaves nothing unwritten. -/
theorem close_pending (isFile atSlash : Bool) (d : Draft) : (d.close isFile atSlash).pending = [] := by
  unfold close
  dsimp only
  split
  · rfl
  · split
    · rfl
    · split <;> rfl

/-- The end of a text leaves nothing unwritten. -/
theorem readAll_pending (special isFile : Bool) (d : Draft) (cs : List Char) :
    (d.readAll special isFile cs).pending = [] := by
  induction cs generalizing d with
  | nil => exact close_pending ..
  | cons c rest ih =>
    unfold readAll
    split
    · exact ih _
    · split <;> exact ih _

end Draft

/-- The path that a text leads to from a path, and whether it starts with a drive that the text
names.  The path of a file starts with one slash only. -/
def walk (special isFile : Bool) (path cs : List Char) : List Char × Bool :=
  let d := (Draft.behind path).readAll special isFile cs
  (if isFile then '/' :: d.written.dropWhile (· = '/') else d.written, d.hasDrive)

/-- The segments of a path, each of which has a slash before it. -/
def segmentsOf : List Char → List String
  | [] => []
  | _ :: path => (Text.splitAt (· = '/') path).map String.ofList

example : walk true false "/a/b".toList "/../c".toList = ("/a/c".toList, false) := by decide +kernel
example : walk true true ['/'] "c|/..".toList = ("/c:/".toList, true) := by decide +kernel

end ModuleRunner.Url
