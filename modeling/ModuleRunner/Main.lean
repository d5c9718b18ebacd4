import ModuleRunner.Command.Run

/-!
# The command

The outer layer: it hands the words of the command line, the variables of the environment and files
to `Command.run`, and writes what comes back.

A run says which paths it looked at.  The files there are read and the run is made again, until it
looks at no path that was not read.  What a run does depends on nothing else, so the last one is the
run over all files.
-/

namespace ModuleRunner.Main

open Command

/-! ## Files -/

/-- What a path leads to; of a directory, that it is one. -/
def readNode (path : String) : IO (Option Files.Node) := do
  let place := (← IO.currentDir) / path
  if ← place.isDir then return some (.directory [])
  try return some (.file (← IO.FS.readBinFile place).toList)
  catch _ => return none

/-- The names that a path leads to from a directory. -/
def namesFrom (current : List String) (path : String) : List String :=
  let start := if path.startsWith "/" then [] else current
  (Files.namesOf path).foldl
    (fun names name =>
      if name = "" || name = "." then names
      else if name = ".." then names.dropLast
      else names ++ [name])
    start

/-- The path of a file and those of the directories on the way. -/
def stations (path : String) : List String :=
  let names := Files.namesOf path
  (List.range names.length).map fun n => String.intercalate "/" (names.take (n + 1))

/-- Reads what is at a path into a tree, unless the tree has it. -/
def learn (storage : Files.Storage) (path : String) : IO Files.Storage := do
  if path.isEmpty then return storage
  match storage.find path with
  | .ok _ => return storage
  | .error _ =>
    match ← readNode path with
    | none => return storage
    | some node =>
      return { storage with root := storage.root.write (namesFrom storage.current path) node }

/-- The working directory, in a tree with nothing else in it. -/
def workingDirectory : IO Files.Storage := do
  let names := namesFrom [] (← IO.currentDir).toString
  return ⟨Files.Directory.write [] names (.directory []), names⟩

/-! ## The environment -/

/-- A variable and its value. -/
def binding? (text : String) : Option (String × String) :=
  match cutAtEquals text.toList with
  | (name, some value) => some (String.ofList name, String.ofList value)
  | (_, none) => none

/-- The variables of the environment. -/
def environment : IO (List (String × String)) := do
  try
    let text ← IO.FS.readFile "/proc/self/environ"
    return (text.splitOn "\x00").filterMap binding?
  catch _ => return []

/-! ## Runs -/

/-- Runs until no path is looked at that was not read. -/
partial def settle (options : Options) (bindings : List (String × String))
    (storage : Files.Storage) (known : List String) : IO Report := do
  let report := run options bindings ⟨storage, Module.Network.unreachable⟩
  let fresh := (report.paths.flatMap stations).filter (!known.contains ·)
  if fresh.isEmpty then return report
  let mut storage := storage
  for path in fresh do
    storage ← learn storage path
  settle options bindings storage (known ++ fresh)

/-- What is printed when a command line makes no sense. -/
def usageText : String :=
  "Usage: modrun [-b BASE] [-c CONFIG] [-f FUNCTION] [-a JSON] [-D ID=JSON]... [--no-console] [-v]"
    ++ " MODULE\n"

end ModuleRunner.Main

open ModuleRunner ModuleRunner.Main in
/-- Runs the command. -/
def main (words : List String) : IO UInt32 := do
  let bindings ← environment
  match Command.Options.parse words bindings with
  | .error .usage =>
    IO.eprint usageText
    return 2
  | .error .help =>
    IO.print usageText
    return 0
  | .error .version =>
    IO.print Command.versionText
    return 0
  | .ok options =>
    let report ← settle options bindings (← workingDirectory) []
    IO.print report.out
    IO.eprint report.err
    return report.status.toUInt32
