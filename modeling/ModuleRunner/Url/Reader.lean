import ModuleRunner.Url.Basic
import ModuleRunner.Url.Path

/-!
# Reading addresses

A text is an address of its own, or is taken relative to another one.  Blanks around it and breaks
in it do not count, the path of a file excepted.  What is behind the first number sign is the
fragment, what is between the first question mark and that is the query, and the rest has a scheme,
an authority and a path, any of which may be missing.

* `Reference` — a text in its parts.
* `withAuthority`, `relative`, `file`, `plain` — addresses by what they start with.
* `Url.parse` — the address that a text stands for.
-/

namespace ModuleRunner.Url

open Text (splitAt)

/-! ## The parts of a text -/

/-- What is left of a text without blanks and controls around it. -/
def trimmed (s : String) : List Char :=
  let isEdge (c : Char) : Bool := c.toNat ≤ 0x20
  ((s.toList.dropWhile isEdge).reverse.dropWhile isEdge).reverse

/-- What is left of a text without breaks. -/
def unbroken (cs : List Char) : List Char := cs.filter (!isBreak ·)

/-- The stretch before a character, and the one behind it if it is there. -/
def cut (mark : Char) (cs : List Char) : List Char × Option (List Char) :=
  let before := cs.takeWhile (· ≠ mark)
  match cs.drop before.length with
  | [] => (before, none)
  | _ :: behind => (before, some behind)

/-- A text in its parts. -/
structure Reference where
  /-- The scheme, in small letters. -/
  scheme : Option String
  /-- The authority and the path, with the breaks in them. -/
  body : List Char
  query : Option (List Char)
  fragment : Option (List Char)

/-- Whether a character may stand in a scheme behind its first letter. -/
def inScheme (c : Char) : Bool := c.isAlphanum || c = '+' || c = '-' || c = '.'

/-- The scheme of a text, if it has one, and what is behind. -/
def cutScheme (cs : List Char) : Option String × List Char :=
  let (before, behind) := cut ':' cs
  match unbroken before, behind with
  | c :: rest, some behind =>
    if c.isAlpha && rest.all inScheme then
      (some (String.ofList ((c :: rest).map Char.toLower)), behind)
    else (none, cs)
  | _, _ => (none, cs)

/-- The parts of a text. -/
def Reference.ofText (s : String) : Reference :=
  let (cs, fragment) := cut '#' (trimmed s)
  let (cs, query) := cut '?' cs
  let (scheme, body) := cutScheme cs
  ⟨scheme, body, query.map unbroken, fragment.map unbroken⟩

/-- The parts of a text without the breaks in its path. -/
def Reference.withoutBreaks (r : Reference) : Reference := { r with body := unbroken r.body }

/-! ## Paths -/

/-- The path that a text leads to from another one. -/
def pathFrom (scheme : String) (path cs : List Char) : Path :=
  .segments (segmentsOf (walk (isSpecial scheme) (scheme = "file") path cs).1)

/-- The path behind an authority: nothing, or segments.  A slash stands before them, whether the text
has it or not. -/
def pathBehind (scheme : String) (cs : List Char) : Path :=
  match cs with
  | [] => if isSpecial scheme then .segments [""] else .segments []
  | c :: rest =>
    pathFrom scheme ['/'] (if isSlash (isSpecial scheme) c then rest else c :: rest)

/-! ## Authorities -/

/-- The host and the port of a text: what is before the first colon outside brackets, and what is
behind it. -/
def cutPort (isInside : Bool) : List Char → List Char × Option (List Char)
  | [] => ([], none)
  | c :: rest =>
    if c = ':' && !isInside then ([], some rest)
    else
      let (host, port) := cutPort (if c = '[' then true else if c = ']' then false else isInside) rest
      (c :: host, port)

/-- The number of a port; none if nothing is there or it is the one that is not written. -/
def portOf (scheme : String) (digits : List Char) : Except Fault (Option Nat) :=
  let n := Decimal.valueOf digits
  if Nat.pow 2 16 ≤ n then .error .badPort
  else .ok (if digits.isEmpty || defaultPort? scheme = some n then none else some n)

/-- The host and the port of an authority, and what is behind them: a backslash ends a port, though
not a host. -/
def hostAndPort (scheme : String) (cs : List Char) :
    Except Fault (Host × Option Nat × List Char) := do
  let (host, port) := cutPort false cs
  if host.isEmpty && (isSpecial scheme || port.isSome) then throw .emptyHost
  let host ← if isSpecial scheme then Host.parse host else Host.parseOpaque host
  let port := port.getD []
  let digits := port.takeWhile Decimal.isDigit
  let behind := port.drop digits.length
  let number ← portOf scheme digits
  if behind.head?.all (· = '\\') then return (host, number, behind) else throw .badPort

/-- What stands before the last at sign, if there is one, and behind it. -/
def cutUser (cs : List Char) : Option (List Char) × List Char :=
  let behind := (cs.reverse.takeWhile (· ≠ '@')).reverse
  if behind.length = cs.length then (none, cs)
  else (some (cs.take (cs.length - behind.length - 1)), behind)

/-- An address with an authority, which starts the text. -/
def withAuthority (scheme : String) (cs : List Char) (query fragment : Option String) :
    Except Fault Url := do
  let authority := cs.takeWhile fun c => !isSlash (isSpecial scheme) c
  let rest := cs.drop authority.length
  let (user, place) := cutUser authority
  let more := !rest.isEmpty || query.isSome || fragment.isSome
  if user = some [] && place.isEmpty && more then throw .emptyHost
  let (userName, password) := cut ':' (user.getD [])
  let userName := Percent.encode Percent.inUserInfo userName
  let password := Percent.encode Percent.inUserInfo (password.getD [])
  let (host, port, behind) ← hostAndPort scheme place
  if host = .name "" && !(userName.isEmpty && password.isEmpty) then throw .emptyHost
  return ⟨scheme, userName, password, some host, port, pathBehind scheme (behind ++ rest), query,
    fragment⟩

/-! ## Addresses -/

/-- The query of a text, in its written form. -/
def queryText (scheme : String) (query : Option (List Char)) : Option String :=
  query.map (Percent.encode (if isSpecial scheme then Percent.inSpecialQuery else Percent.inQuery))

/-- The fragment of a text, in its written form. -/
def fragmentText (fragment : Option (List Char)) : Option String :=
  fragment.map (Percent.encode Percent.inFragment)

/-- A text without a scheme and an authority of its own, relative to an address. -/
def relative (base : Url) (r : Reference) : Url :=
  let query := queryText base.scheme r.query
  let fragment := fragmentText r.fragment
  match r.body with
  | [] =>
    if r.query.isSome then { base with query, fragment } else { base with fragment }
  | c :: rest =>
    if isSlash true c then { base with path := pathFrom base.scheme ['/'] rest, query, fragment }
    else
      let before := pop (base.scheme = "file") base.path.toText.toList
      let before := if before.isEmpty then ['/'] else before
      { base with path := pathFrom base.scheme before r.body, query, fragment }

/-- A text relative to an address, perhaps with an authority of its own behind two slashes. -/
def relativeOrAuthority (base : Url) (r : Reference) : Except Fault Url :=
  let slashes := r.body.takeWhile (isSlash true)
  if 2 ≤ slashes.length then
    let rest := match r.body with
      | '/' :: '/' :: rest => rest
      | cs => cs.drop slashes.length
    withAuthority base.scheme rest (queryText base.scheme r.query) (fragmentText r.fragment)
  else .ok (relative base r)

/-! ## Addresses of files -/

/-- The address of a file. -/
def fileAt (host : Host) (path : List Char) (r : Reference) : Url :=
  ⟨"file", "", "", some host, none, .segments (segmentsOf path), queryText "file" r.query,
    fragmentText r.fragment⟩

/-- The address of a file on this host, whose path is behind what is written already. -/
def fileHere (written cs : List Char) (r : Reference) : Url :=
  fileAt (.name "") (walk true true written cs).1 r

/-- The address of a file behind two slashes.  A drive is no host, and takes the host away that
stands before it; this host has no name. -/
def fileWithHost (cs : List Char) (r : Reference) : Except Fault Url := do
  let before := cs.takeWhile fun c => !isSlash true c
  let rest := cs.drop before.length
  let name := unbroken before
  if (drive? name).isSome then return fileHere ['/'] cs r
  else if name.isEmpty then return fileHere ['/'] rest r
  else
    let host ← Host.parse name
    if host = .name "localhost" then return fileHere ['/'] rest r
    else
      let (path, hasDrive) := walk true true ['/'] (rest.drop 1)
      return fileAt (if hasDrive then .name "" else host) path r

/-- The address of a file behind one slash.  The drive of the address that it is relative to stays,
and else its host, but not for a text with a drive of its own. -/
def fileFromRoot (base : Option Url) (r : Reference) : Url :=
  match if startsWithDrive ((unbroken r.body).drop 1) then none else base with
  | none => fileHere [] r.body r
  | some base =>
    let first := (base.path.toText.toList.drop 1).takeWhile (· ≠ '/')
    if isWrittenDrive first then fileHere ('/' :: first) r.body r
    else fileAt (base.host.getD (.name "")) (walk true true [] r.body).1 r

/-- The address of a file, perhaps relative to another one. -/
def file (base : Option Url) (r : Reference) : Except Fault Url :=
  match unbroken r.body, base with
  | [], none => .ok (fileHere ['/'] [] r)
  | [], some base => .ok (relative base r.withoutBreaks)
  | c :: rest, _ =>
    if isSlash true c then
      if rest.head?.any (isSlash true) then
        fileWithHost (((r.body.dropWhile isBreak).drop 1).dropWhile isBreak |>.drop 1) r
      else .ok (fileFromRoot base r)
    else
      match base.filter fun _ => !startsWithDrive (c :: rest) with
      | some base => .ok (relative base { r with body := r.body.dropWhile isBreak })
      | none => .ok (fileHere ['/'] r.body r)

/-! ## Addresses of other schemes -/

/-- An address of a scheme that is not special. -/
def plain (scheme : String) (r : Reference) : Except Fault Url :=
  let query := queryText scheme r.query
  let fragment := fragmentText r.fragment
  match r.body with
  | '/' :: '/' :: rest => withAuthority scheme rest query fragment
  | '/' :: rest => .ok ⟨scheme, "", "", none, none, pathFrom scheme ['/'] rest, query, fragment⟩
  | cs =>
    .ok ⟨scheme, "", "", none, none, .text (Percent.encode Percent.isControl cs), query, fragment⟩

/-- Whether nothing is relative to an address but its fragments. -/
def isOpaque (url : Url) : Bool :=
  match url.path with
  | .text _ => true
  | .segments _ => false

/-- The address that a text without a scheme stands for. -/
def withoutScheme (base : Option Url) (r : Reference) : Except Fault Url :=
  match base with
  | none => .error .noBase
  | some base =>
    let bare := r.withoutBreaks
    if bare.body.isEmpty && r.query.isNone && r.fragment.isSome then .ok (relative base bare)
    else if base.isOpaque then .error .opaqueBase
    else if base.scheme = "file" then file (some base) r
    else relativeOrAuthority base bare

/-- The address that a text stands for, perhaps relative to another one. -/
def parse (base : Option Url) (s : String) : Except Fault Url :=
  let r := Reference.ofText s
  match r.scheme with
  | none => withoutScheme base r
  | some "file" => file (base.filter (·.scheme = "file")) r
  | some scheme =>
    let r := r.withoutBreaks
    if isSpecial scheme then
      let slashes := r.body.takeWhile (isSlash true)
      match base.filter fun base => base.scheme = scheme && slashes.length < 2 with
      | some base => .ok (relative base r)
      | none =>
        withAuthority scheme (r.body.drop slashes.length) (queryText scheme r.query)
          (fragmentText r.fragment)
    else plain scheme r

end ModuleRunner.Url
