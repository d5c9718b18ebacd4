import ModuleRunner.Url.Name

/-!
# Hosts of addresses

A host is a name or a number of four or of sixteen octets.  The name of a special scheme is decoded
and taken in its written form; if its last label is a number the whole is an address of four octets.
A host in brackets is an address of sixteen octets, eight pieces of which the longest run of zeros is
left out when it is written.

* `Fault` — why an address is none.
* `Host`, `Host.text` — the data.
* `Host.parse`, `Host.parseOpaque` — hosts of special and of other schemes.
-/

namespace ModuleRunner.Url

open Text (splitAt)

/-- Why a text is no address. -/
inductive Fault where
  /-- The host is missing. -/
  | emptyHost
  /-- The host is no name. -/
  | badName
  /-- The port is no number of sixteen bits. -/
  | badPort
  /-- The host ends in a number but is no address of four octets. -/
  | badFour
  /-- The host in brackets is no address of sixteen octets. -/
  | badSixteen
  /-- The host has a character that none may have. -/
  | badCharacter
  /-- The text is relative, and nothing is there that it could be relative to. -/
  | noBase
  /-- The text is relative to an address without a path of segments. -/
  | opaqueBase
deriving DecidableEq, Repr

/-- The text of a fault. -/
def Fault.message : Fault → String
  | emptyHost => "empty host"
  | badName => "invalid international domain name"
  | badPort => "invalid port number"
  | badFour => "invalid IPv4 address"
  | badSixteen => "invalid IPv6 address"
  | badCharacter => "invalid domain character"
  | noBase => "relative URL without a base"
  | opaqueBase => "relative URL with a cannot-be-a-base base"

/-- A host. -/
inductive Host where
  /-- A name, perhaps empty. -/
  | name (name : String)
  /-- An address of four octets, as one number. -/
  | four (address : Nat)
  /-- An address of eight pieces of two octets. -/
  | sixteen (pieces : List Nat)
deriving DecidableEq, Repr

namespace Host

/-! ## Addresses of four octets -/

/-- A part that should be a number: not one at all, or one that may be too large. -/
inductive Part where
  | other
  | tooLarge
  | number (value : Nat)

/-- A part of an address of four octets: decimal, octal behind a zero, hexadecimal behind `0x`. -/
def part (cs : List Char) : Part :=
  let (base, digits) : Nat × List Char := match cs with
    | '0' :: 'x' :: rest | '0' :: 'X' :: rest => (16, rest)
    | '0' :: c :: rest => (8, c :: rest)
    | cs => (10, cs)
  if cs.isEmpty then .other
  else if digits.all fun c => (Decimal.hexValue? c).any (· < base) then
    let n := digits.foldl (fun n c => base * n + (Decimal.hexValue? c).getD 0) 0
    if n < Nat.pow 2 32 then .number n else .tooLarge
  else .other

/-- The parts of a name, without an empty last one. -/
def partsOf (cs : List Char) : List (List Char) :=
  let parts := splitAt (· = '.') cs
  if parts.getLast? = some [] then parts.dropLast else parts

/-- Whether the last part of a name is a number. -/
def endsInNumber (cs : List Char) : Bool :=
  match (partsOf cs).getLast? with
  | none => false
  | some [] => false
  | some last =>
    last.all Decimal.isDigit ||
      match part last with
      | .other => false
      | _ => true

/-- The number of a part. -/
def number? (cs : List Char) : Option Nat :=
  match part cs with
  | .number n => some n
  | _ => none

/-- The number of a name that ends in a number: each part but the last is one octet, and the last
one is as many as are missing. -/
def four? (cs : List Char) : Option Nat := do
  let parts := partsOf cs
  let numbers ← parts.mapM number?
  let last ← numbers.getLast?
  let octets := numbers.dropLast
  if 4 < parts.length || octets.any (255 < ·) || Nat.pow 256 (4 - octets.length) ≤ last then none
  else return octets.foldl (fun n o => 256 * n + o) 0 * Nat.pow 256 (4 - octets.length) + last

/-! ## Addresses of sixteen octets -/

/-- Pieces of hexadecimal digits. -/
def piece? (cs : List Char) : Option Nat :=
  if cs.isEmpty || 4 < cs.length then none else Decimal.hexValueOf? cs

/-- An octet in decimal digits, without a zero in front. -/
def octet? (cs : List Char) : Option Nat :=
  if cs.isEmpty || !cs.all Decimal.isDigit || (cs.head? = some '0' && 1 < cs.length) then none
  else
    let n := Decimal.valueOf cs
    if n ≤ 255 then some n else none

/-- The two pieces that four octets with dots between them are. -/
def dotted? (cs : List Char) : Option (List Nat) :=
  match splitAt (· = '.') cs with
  | [a, b, c, d] => do
    let a ← octet? a
    let b ← octet? b
    let c ← octet? c
    let d ← octet? d
    return [256 * a + b, 256 * c + d]
  | _ => none

/-- The pieces between colons; the last one may have four octets instead. -/
def pieces? : List (List Char) → Option (List Nat)
  | [] => some []
  | [last] => if last.contains '.' then dotted? last else (piece? last).map ([·])
  | cs :: rest => do return (← piece? cs) :: (← pieces? rest)

/-- The pieces of a stretch, which may be empty. -/
def stretch? (cs : List Char) : Option (List Nat) :=
  if cs.isEmpty then some [] else pieces? (splitAt (· = ':') cs)

/-- What stands before the first two colons, and behind them. -/
def splitGap? : List Char → Option (List Char × List Char)
  | ':' :: ':' :: rest => some ([], rest)
  | c :: rest => (splitGap? rest).map fun (before, behind) => (c :: before, behind)
  | [] => none

/-- The pieces of an address of sixteen octets; two colons stand for a run of zeros. -/
def sixteen? (cs : List Char) : Option (List Nat) :=
  match splitGap? cs with
  | none => do
    let pieces ← stretch? cs
    if pieces.length = 8 then return pieces else none
  | some (before, behind) => do
    let high ← stretch? before
    let low ← stretch? behind
    if before.contains '.' || 7 < high.length + low.length then none
    else return high ++ List.replicate (8 - high.length - low.length) 0 ++ low

/-- The length of the run of zeros at the start. -/
def zeroRun (pieces : List Nat) : Nat := (pieces.takeWhile (· = 0)).length

/-- The first of the longest runs of zeros: where it starts and how long it is. -/
def longestRun (pieces : List Nat) : Nat × Nat :=
  (List.range pieces.length).foldl (fun best i =>
    let run := zeroRun (pieces.drop i)
    if best.2 < run then (i, run) else best) (0, 0)

/-- A piece in hexadecimal. -/
def pieceText (n : Nat) : String := String.ofList (Nat.toDigits 16 n)

/-- Pieces with colons between them. -/
def piecesText (pieces : List Nat) : String := String.intercalate ":" (pieces.map pieceText)

/-- The text of an address of sixteen octets. -/
def sixteenText (pieces : List Nat) : String :=
  let (index, length) := longestRun pieces
  if length < 2 then piecesText pieces
  else piecesText (pieces.take index) ++ "::" ++ piecesText (pieces.drop (index + length))

/-- The text of an address of four octets. -/
def fourText (n : Nat) : String :=
  String.intercalate "."
    ([n / Nat.pow 256 3, n / Nat.pow 256 2 % 256, n / 256 % 256, n % 256].map toString)

/-! ## Hosts -/

/-- The text of a host. -/
def text : Host → String
  | name s => s
  | four n => fourText n
  | sixteen pieces => "[" ++ sixteenText pieces ++ "]"

/-- The host in brackets, the opening one already read. -/
def bracketed (cs : List Char) : Except Fault Host :=
  if cs.getLast? = some ']' then
    match sixteen? cs.dropLast with
    | some pieces => .ok (.sixteen pieces)
    | none => .error .badSixteen
  else .error .badSixteen

/-- The host of a special scheme. -/
def parse (cs : List Char) : Except Fault Host :=
  match cs with
  | '[' :: rest => bracketed rest
  | _ =>
    match Name.written? (Percent.decode cs) with
    | none => .error .badName
    | some [] => .error .emptyHost
    | some (c :: rest) =>
      if endsInNumber (c :: rest) then
        match four? (c :: rest) with
        | some n => .ok (.four n)
        | none => .error .badFour
      else .ok (.name (String.ofList (c :: rest)))

/-- Whether no host may have a character. -/
def isBarred (c : Char) : Bool := c = '\x00' || Percent.isOneOf "\t\n\r #/:<>?@[\\]^|" c

/-- The host of another scheme. -/
def parseOpaque (cs : List Char) : Except Fault Host :=
  match cs with
  | '[' :: rest => bracketed rest
  | _ =>
    if cs.any isBarred then .error .badCharacter
    else .ok (.name (Percent.encode Percent.isControl cs))

example : (sixteen? "::1".toList).map sixteenText = some "::1" := by decide +kernel
example : (sixteen? "1:0:0:2::3".toList).map sixteenText = some "1:0:0:2::3" := by decide +kernel
example : (sixteen? "1:2".toList).isNone := by decide +kernel
example : (four? "127.1".toList).map fourText = some "127.0.0.1" := by decide +kernel

end Host

end ModuleRunner.Url
