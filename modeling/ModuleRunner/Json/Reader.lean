import ModuleRunner.Json.Basic
import ModuleRunner.Decimal.Numeral

/-!
# Reading JSON

A strict reader: nothing but the grammar of JSON, no number beyond the range of doubles, no half of
a surrogate pair, and containers nested at most `maxNesting` deep.

A number is read in two roundings.  Its first digits, as many as 64 bits hold, make a double; that
double is then scaled by a power of ten.  For numbers of up to fifteen digits and moderate exponents
both steps are exact or the only rounding, so the result is the nearest double.

* `Json.parse?` — the document that a text spells.
-/

namespace ModuleRunner.Json

/-- How deeply arrays and objects may nest. -/
def maxNesting : Nat := 127

/-- A reader answers what it read and what is left. -/
abbrev Reader (α : Type) := List Char → Option (α × List Char)

/-- Whether a character may stand between the tokens of a document. -/
def isSpace (c : Char) : Bool := c = ' ' || c = '\t' || c = '\n' || c = '\r'

/-- What is left behind blanks. -/
def skipSpace (cs : List Char) : List Char := cs.dropWhile isSpace

/-! ## Numbers -/

/-- The digits that 64 bits hold, read on from a whole number: the number they make, and the number
of digits that are left out. -/
def gather (significand : Nat) : List Char → Nat × Nat
  | [] => (significand, 0)
  | d :: ds =>
    let next := 10 * significand + Decimal.digitValue d
    if next < Nat.pow 2 64 then gather next ds else (significand, (d :: ds).length)

/-- A whole number times a power of ten, rounded at each step.  Powers below the least one that is a
double are reached in several divisions. -/
def scaled? (significand : Nat) (exponent : Int) : Option Float :=
  let start := Number.ofNat significand
  let power (n : Nat) : Float := Decimal.nearest 1 n
  if 0 ≤ exponent then
    if significand = 0 then some start
    else if exponent ≤ 308 then
      let x := start * power exponent.toNat
      if Number.isFinite x then some x else none
    else none
  else
    let down := exponent.natAbs
    if significand = 0 then some start
    else if down ≤ 308 then some (start / power down)
    else if down ≤ 616 then some (start / power 308 / power (down - 308))
    else some (start / power 308 / power 308)

/-- The digits after an exponent mark, with their sign. -/
def exponentPart? : Reader Int := fun cs =>
  let (negative, cs) := match cs with
    | '-' :: r => (true, r)
    | '+' :: r => (false, r)
    | r => (false, r)
  let digits := Decimal.digitRun cs
  if digits.isEmpty then none
  else
    let n : Int := Decimal.valueOf digits
    some (if negative then -n else n, cs.drop digits.length)

/-- A number without its sign.  No zero stands before another digit, and digits stand on both sides
of a point. -/
def unsignedNumber? : Reader Float := fun cs =>
  let whole := Decimal.digitRun cs
  if whole.isEmpty || (whole.head? = some '0' && whole.length > 1) then none
  else
    let (significand, dropped) := gather 0 whole
    let rest := cs.drop whole.length
    let fraction? : Option (List Char × List Char) := match rest with
      | '.' :: r =>
        let run := Decimal.digitRun r
        if run.isEmpty then none else some (run, r.drop run.length)
      | r => some ([], r)
    fraction?.bind fun (fraction, rest) =>
      let (significand, left) := gather significand fraction
      let shift : Int := (dropped : Int) - ((fraction.length - left : Nat) : Int)
      let exponent? : Option (Int × List Char) := match rest with
        | 'e' :: r | 'E' :: r => exponentPart? r
        | r => some (0, r)
      exponent?.bind fun (e, rest) => (scaled? significand (shift + e)).map (·, rest)

/-- A number. -/
def number? : Reader Float
  | '-' :: cs => (unsignedNumber? cs).map fun (x, rest) => (-x, rest)
  | cs => unsignedNumber? cs

/-! ## Texts -/

/-- Four hexadecimal digits. -/
def codeUnit? : Reader Nat
  | a :: b :: c :: d :: rest => (Decimal.hexValueOf? [a, b, c, d]).map (·, rest)
  | _ => none

/-- The character of a `\u` escape; a first half of a surrogate pair needs its second half. -/
def unicodeEscape? : Reader Char := fun cs =>
  (codeUnit? cs).bind fun (unit, rest) =>
    if 0xD800 ≤ unit && unit < 0xDC00 then
      match rest with
      | '\\' :: 'u' :: more =>
        (codeUnit? more).bind fun (second, rest) =>
          if 0xDC00 ≤ second && second < 0xE000 then
            some (Char.ofNat (0x10000 + (unit - 0xD800) * 0x400 + (second - 0xDC00)), rest)
          else none
      | _ => none
    else if 0xDC00 ≤ unit && unit < 0xE000 then none
    else some (Char.ofNat unit, rest)

/-- The character that a backslash and a letter stand for. -/
def shortEscape? : Char → Option Char
  | '"' => some '"'
  | '\\' => some '\\'
  | '/' => some '/'
  | 'b' => some '\x08'
  | 'f' => some '\x0c'
  | 'n' => some '\n'
  | 'r' => some '\r'
  | 't' => some '\t'
  | _ => none

/-- A text up to its closing quote; `done` holds its characters so far, last one first.  The first
argument bounds the number of characters. -/
def textFrom : Nat → List Char → Reader String
  | 0, _, _ => none
  | bound + 1, done, cs =>
    match cs with
    | '"' :: rest => some (String.ofList done.reverse, rest)
    | '\\' :: 'u' :: rest =>
      (unicodeEscape? rest).bind fun (c, rest) => textFrom bound (c :: done) rest
    | '\\' :: e :: rest => (shortEscape? e).bind fun c => textFrom bound (c :: done) rest
    | c :: rest => if c.toNat < 0x20 || c = '\\' then none else textFrom bound (c :: done) rest
    | [] => none

/-- A text with its quotes. -/
def text? : Reader String
  | '"' :: rest => textFrom (rest.length + 1) [] rest
  | _ => none

/-! ## Documents -/

/-- Items up to a closing bracket, a comma between two of them.  The first argument bounds their
number. -/
def itemsFrom {α : Type} (item : Reader α) (close : Char) : Nat → Reader (List α)
  | 0, _ => none
  | bound + 1, cs =>
    (item (skipSpace cs)).bind fun (x, rest) =>
      match skipSpace rest with
      | ',' :: rest => (itemsFrom item close bound rest).map fun (xs, rest) => (x :: xs, rest)
      | c :: rest => if c = close then some ([x], rest) else none
      | [] => none

/-- Items between brackets, the opening one already read. -/
def items {α : Type} (item : Reader α) (close : Char) : Reader (List α) := fun cs =>
  match skipSpace cs with
  | c :: rest => if c = close then some ([], rest) else itemsFrom item close cs.length (c :: rest)
  | [] => none

/-- A property: a key, a colon and a value. -/
def entry (value : Reader Json) : Reader (String × Json) := fun cs =>
  (text? cs).bind fun (key, rest) =>
    match skipSpace rest with
    | ':' :: rest => (value (skipSpace rest)).map fun (v, rest) => ((key, v), rest)
    | _ => none

/-- A document that is no container. -/
def scalar : Reader Json := fun cs =>
  match cs with
  | '"' :: _ => (text? cs).map fun (s, rest) => (.text s, rest)
  | 't' :: 'r' :: 'u' :: 'e' :: rest => some (.boolean true, rest)
  | 'f' :: 'a' :: 'l' :: 's' :: 'e' :: rest => some (.boolean false, rest)
  | 'n' :: 'u' :: 'l' :: 'l' :: rest => some (.null, rest)
  | _ => (number? cs).map fun (x, rest) => (.number x, rest)

/-- A document whose containers nest at most as deep as the first argument says. -/
def value : Nat → Reader Json
  | 0, cs => scalar cs
  | nesting + 1, cs =>
    match cs with
    | '[' :: rest => (items (value nesting) ']' rest).map fun (xs, rest) => (.array xs, rest)
    | '\x7b' :: rest =>
      (items (entry (value nesting)) '\x7d' rest).map fun (es, rest) =>
        (.object (ofEntries es), rest)
    | _ => scalar cs

/-- The document that a text spells, blanks around it allowed. -/
def parse? (source : String) : Option Json :=
  (value maxNesting (skipSpace source.toList)).bind fun (json, rest) =>
    if (skipSpace rest).isEmpty then some json else none

end ModuleRunner.Json
