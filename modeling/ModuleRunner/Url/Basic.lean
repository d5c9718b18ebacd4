import ModuleRunner.Url.Host

/-!
# Addresses

An address has a scheme, perhaps an authority, a path, and perhaps a query and a fragment.  All its
texts are in their written form.

* `Url`, `Url.text` — the data and how it is written.
* `isSpecial`, `defaultPort?` — what schemes are known for.
* `Url.withoutUser` — an address as it may be shown.
* `Url.filePath?` — the path in the file system that an address names.
-/

namespace ModuleRunner

namespace Url

/-- The path of an address. -/
inductive Path where
  /-- A text that nothing is relative to. -/
  | text (text : String)
  /-- Segments, each with a slash before it. -/
  | segments (segments : List String)
deriving DecidableEq, Repr

end Url

/-- An address. -/
structure Url where
  scheme : String
  userName : String
  password : String
  /-- The host; no host is another thing than one without a name. -/
  host : Option Url.Host
  port : Option Nat
  path : Url.Path
  query : Option String
  fragment : Option String
deriving DecidableEq, Repr

namespace Url

/-! ## Schemes -/

/-- The schemes whose paths are made of segments and whose hosts are names of domains. -/
def isSpecial (scheme : String) : Bool :=
  ["http", "https", "ws", "wss", "ftp", "file"].contains scheme

/-- The port that is not written. -/
def defaultPort? (scheme : String) : Option Nat :=
  match scheme with
  | "http" | "ws" => some 80
  | "https" | "wss" => some 443
  | "ftp" => some 21
  | _ => none

/-! ## Texts -/

/-- The text of a path. -/
def Path.toText : Path → String
  | .text s => s
  | .segments ss => String.join (ss.map ("/" ++ ·))

/-- The user name and the password, with an at sign if there is one of them. -/
def userInfo (url : Url) : String :=
  if url.userName.isEmpty && url.password.isEmpty then ""
  else url.userName ++ (if url.password.isEmpty then "" else ":" ++ url.password) ++ "@"

/-- What stands between the scheme and the path.  Without a host, a path that starts with an empty
segment gets a dot before it, so that its slashes do not read as a host's. -/
def authority (url : Url) : String :=
  match url.host with
  | some host =>
    "//" ++ url.userInfo ++ host.text ++ (url.port.map (":" ++ toString ·)).getD ""
  | none =>
    match url.path with
    | .segments ("" :: _ :: _) => "/."
    | _ => ""

/-- The text of an address without its fragment. -/
def textBeforeFragment (url : Url) : String :=
  url.scheme ++ ":" ++ url.authority ++ url.path.toText ++ (url.query.map ("?" ++ ·)).getD ""

/-- The text of an address. -/
def text (url : Url) : String :=
  url.textBeforeFragment ++ (url.fragment.map ("#" ++ ·)).getD ""

/-- The address without its user name and its password.  A user name that is no text stays, and so
does a password that is none and has no user name. -/
def withoutUser (url : Url) : Url :=
  let isText (s : String) : Bool := (Text.Utf8.decode (Percent.decode s.toList)).toOption.isSome
  if isText url.userName && (!url.userName.isEmpty || isText url.password) then
    { url with userName := "", password := "" }
  else url

/-! ## Files -/

/-- Whether a text ends like the name of a drive: a letter and a colon or a bar. -/
def endsInDrive (cs : List Char) : Bool :=
  match cs.reverse with
  | mark :: letter :: _ :: _ => (mark = ':' || mark = '|') && letter.isAlpha
  | _ => false

/-- The path in the file system that an address names, if its host is this one. -/
def filePath? (url : Url) : Option String :=
  match url.path, url.host with
  | .segments segments, none | .segments segments, some (.name "")
  | .segments segments, some (.name "localhost") =>
    let decode (s : String) : String := Text.Utf8.decodeLossy (Percent.decode s.toList)
    let path := String.join (segments.map fun s => "/" ++ decode s)
    some (if endsInDrive path.toList then path ++ "/" else path)
  | _, _ => none

end Url

end ModuleRunner
