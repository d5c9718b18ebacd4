import ModuleRunner.Text.Split
import ModuleRunner.Text.Utf8

/-!
# Trees of files

A tree holds files, which are octets, and directories, which are trees by name.  A path is walked
name by name: every name but the last has to be a directory's, two dots lead to the directory around
it, and at the root they lead nowhere.

* `Node`, `Directory` — the trees.
* `Directory.write`, `Directory.remove` — changes at a path of names.
* `Storage`, `Storage.find` — a tree with a directory to start from, and what a path leads to.
-/

namespace ModuleRunner.Files

/-- A file or a directory. -/
inductive Node where
  /-- A file with its octets. -/
  | file (octets : List UInt8)
  /-- A directory with what is in it. -/
  | directory (entries : List (String × Node))
deriving Inhabited

/-- What is in a directory, by name. -/
abbrev Directory := List (String × Node)

namespace Directory

/-- Puts something under a name, in place of what was there. -/
def put (name : String) (node : Node) : Directory → Directory
  | [] => [(name, node)]
  | (n, old) :: rest => if n = name then (name, node) :: rest else (n, old) :: put name node rest

/-- Removes what is under a name. -/
def erase (directory : Directory) (name : String) : Directory :=
  directory.filter fun e => e.1 ≠ name

/-- The directory under a name; an empty one if there is none. -/
def inner (directory : Directory) (name : String) : Directory :=
  match directory.lookup name with
  | some (.directory entries) => entries
  | _ => []

/-- Changes the directory at a path of names; directories on the way are made. -/
def within (change : Directory → Directory) : List String → Directory → Directory
  | [], directory => change directory
  | name :: path, directory =>
    put name (.directory (within change path (directory.inner name))) directory

/-- Puts something at a path of names. -/
def write (directory : Directory) (path : List String) (node : Node) : Directory :=
  match path.getLast? with
  | none => directory
  | some name => within (put name node) path.dropLast directory

/-- Removes what is at a path of names. -/
def remove (directory : Directory) (path : List String) : Directory :=
  match path.getLast? with
  | none => directory
  | some name => within (·.erase name) path.dropLast directory

end Directory

/-- A tree of files and the directory that relative paths start from. -/
structure Storage where
  /-- What is in the root. -/
  root : Directory
  /-- The names that lead to the directory that relative paths start from. -/
  current : List String

/-- The most octets that a name may have. -/
def maxName : Nat := 255

/-- The most octets that a path may have. -/
def maxPath : Nat := 4095

/-- Why a path leads nowhere. -/
inductive Fault where
  /-- Nothing has the name. -/
  | absent
  /-- A name before the last is not a directory's. -/
  | noDirectory
  /-- The path or a name in it is too long. -/
  | tooLong
  /-- The path has a null in it. -/
  | hasNull
deriving DecidableEq, Repr

/-- The text of a fault. -/
def Fault.message : Fault → String
  | absent => "No such file or directory (os error 2)"
  | noDirectory => "Not a directory (os error 20)"
  | tooLong => "File name too long (os error 36)"
  | hasNull => "file name contained an unexpected NUL byte"

/-- Where a walk stands: at a node, inside directories, the innermost first. -/
structure Place where
  around : List Directory
  node : Node

/-- One step of a walk. -/
def Place.step (place : Place) (name : String) : Except Fault Place :=
  match place.node with
  | .file _ => .error .noDirectory
  | .directory entries =>
    if name = "" || name = "." then .ok place
    else if name = ".." then
      match place.around with
      | [] => .ok place
      | parent :: around => .ok ⟨around, .directory parent⟩
    else if maxName < name.utf8ByteSize then .error .tooLong
    else
      match entries.lookup name with
      | some node => .ok ⟨entries :: place.around, node⟩
      | none => .error .absent

/-- The names of a path, empty ones included. -/
def namesOf (path : String) : List String :=
  (Text.splitAt (· = '/') path.toList).map String.ofList

namespace Storage

/-- What a path leads to, or why it leads nowhere. -/
def find (storage : Storage) (path : String) : Except Fault Node := do
  if path.isEmpty then throw .absent
  if path.contains '\x00' then throw .hasNull
  if maxPath < path.utf8ByteSize then throw .tooLong
  let root : Place := ⟨[], .directory storage.root⟩
  let start ← if path.startsWith "/" then pure root else storage.current.foldlM Place.step root
  return (← (namesOf path).foldlM Place.step start).node

/-- The octets of the file that a path leads to. -/
def file? (storage : Storage) (path : String) : Option (List UInt8) :=
  match storage.find path with
  | .ok (.file octets) => some octets
  | _ => none

/-- Whether a path leads to a directory. -/
def isDirectory (storage : Storage) (path : String) : Bool :=
  match storage.find path with
  | .ok (.directory _) => true
  | _ => false

/-- The text of the file that a path leads to, or why there is none. -/
def text (storage : Storage) (path : String) : Except String String :=
  match storage.find path with
  | .error fault => .error fault.message
  | .ok (.directory _) => .error "Is a directory (os error 21)"
  | .ok (.file octets) =>
    match Text.Utf8.decode octets with
    | .ok s => .ok s
    | .error _ => .error "stream did not contain valid UTF-8"

end Storage

end ModuleRunner.Files
