import ModuleRunner.Files.Tree
import ModuleRunner.Module.Identifier
import ModuleRunner.Module.Network
import ModuleRunner.Module.Registry

/-!
# Locators

Where a session's modules are.  Below a directory an id is looked for at two places: as a file with
the ending `.js`, and as the file `main.js` in a directory of its name, whose own id then ends in
`main`.  Below an address an id is looked for at one: the address that the id with the ending `.js`
makes there.

That nothing is found is no error.  Every other failure is one.

* `Locator`, `Locator.ofBase` — the two kinds, and which one a base asks for.
* `places?` — where an id is looked for below a directory.
* `moduleUrl` — the address of an id.
* `Locator.locate` — what an id is found at.
-/

namespace ModuleRunner.Module

open Files (Storage)

/-! ## Directories -/

/-- A path with a name behind it. -/
def joinPath (path name : String) : String :=
  if path.isEmpty then name
  else if path.endsWith "/" then path ++ name
  else path ++ "/" ++ name

/-- A path with names behind it. -/
def pathBelow (root : String) (names : List String) : String := names.foldl joinPath root

/-- The names between the slashes of an id. -/
def namesOf (id : String) : List String :=
  ((segmentsOf id.toList).filter (· ≠ [])).map String.ofList

/-- The two places of an id below a directory, each as names: the file, and the main file of the
directory.  An id without a name has none. -/
def places? (id : String) : Option (List String × List String) :=
  let names := namesOf id
  names.getLast?.map fun last =>
    (names.dropLast ++ [last ++ ".js"], names ++ ["main.js"])

/-- The id of a directory's main file. -/
def mainId (id : String) : String :=
  String.ofList (id.toList.reverse.dropWhile (· = '/')).reverse ++ "/main"

/-- The text of a file, which has to be text. -/
def textOf (id : String) (octets : List UInt8) : Except LoadError String :=
  match Text.Utf8.decode octets with
  | .ok content => .ok content
  | .error fault => .error (.undecodable id fault)

/-- What an id is found at below a directory. -/
def locateFile (storage : Storage) (root id : String) : Except LoadError (Option Resource) := do
  match places? id with
  | none => return none
  | some (file, main) =>
    let file := pathBelow root file
    match storage.file? file with
    | some octets => return some ⟨id, file, ← textOf id octets⟩
    | none =>
      let main := pathBelow root main
      match storage.file? main with
      | some octets => return some ⟨mainId id, main, ← textOf id octets⟩
      | none => return none

/-! ## Addresses -/

/-- The address of an id: that of a file with the ending `.js`, relative to the base. -/
def moduleUrl (base : Url) (id : String) : Except LoadError Url :=
  match Url.parse (some base) (id ++ ".js") with
  | .ok url => .ok url
  | .error fault => .error (.malformedId id fault.message)

/-- What an id is found at below an address. -/
def locateRemote (network : Network) (base : Url) (userAgent : String) (timeout : Nat)
    (id : String) : Except LoadError (Option Resource) := do
  let url ← moduleUrl base id
  match fetch network ⟨url, userAgent, timeout⟩ with
  | .error reason => throw (.fetch id url.text reason)
  | .ok response =>
    if response.status = 404 || response.status = 410 then return none
    else if response.status < 200 || 300 ≤ response.status then
      throw (.fetch id url.text (statusText response.status))
    else return some ⟨id, url.text, ← textOf id response.octets⟩

/-! ## Locators -/

/-- Where modules are. -/
inductive Locator where
  /-- Below a directory. -/
  | directory (root : String)
  /-- Below an address. -/
  | remote (base : Url) (userAgent : String) (timeout : Nat)

namespace Locator

/-- What an id is found at. -/
def locate (locator : Locator) (storage : Storage) (network : Network) (id : String) :
    Except LoadError (Option Resource) :=
  match locator with
  | directory root => locateFile storage root id
  | remote base userAgent timeout => locateRemote network base userAgent timeout id

/-- Whether a text may be sent as the name of who asks. -/
def isSendable (userAgent : String) : Bool :=
  userAgent.toList.all fun c => c = '\t' || (0x20 ≤ c.toNat && c.toNat != 0x7F)

/-- The locator of an address. -/
def ofUrl (base : Url) (userAgent : String) (timeout : Nat) : Except LoadError Locator :=
  if isSendable userAgent then .ok (.remote base userAgent timeout)
  else .error (.invalidBase "HTTP client: builder error: failed to parse header value")

/-- The locator that a base names.  A base that is no address, or whose scheme is one letter, is the
path of a directory. -/
def ofText (userAgent : String) (timeout : Nat) (base : String) : Except LoadError Locator :=
  match Url.parse none base with
  | .error _ => .ok (.directory base)
  | .ok url =>
    if ["http", "https"].contains url.scheme then ofUrl url userAgent timeout
    else if url.scheme = "file" then
      match url.filePath? with
      | some path => .ok (.directory path)
      | none => .error (.invalidBase (base ++ " is not a local path"))
    else if 1 < url.scheme.length then
      .error (.invalidBase ("unsupported scheme '" ++ url.scheme ++ "' in " ++ base))
    else .ok (.directory base)

/-- A locator whose directory, if it has one, is there. -/
def check (storage : Storage) : Locator → Except LoadError Locator
  | directory root =>
    if storage.isDirectory root then .ok (.directory root)
    else .error (.invalidBase (root ++ " is not a directory"))
  | locator => .ok locator

/-- The locator that a base asks for; its directory has to be there. -/
def ofBase (storage : Storage) (userAgent : String) (timeout : Nat) (base : String) :
    Except LoadError Locator :=
  ofText userAgent timeout base >>= check storage

/-- The paths that a locator looks at for some ids: its directory and the places in it. -/
def paths (ids : List String) : Locator → List String
  | directory root =>
    root :: ids.flatMap fun id =>
      match places? id with
      | some (file, main) => [pathBelow root file, pathBelow root main]
      | none => []
  | remote .. => []

end Locator

end ModuleRunner.Module
