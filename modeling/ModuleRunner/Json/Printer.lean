import ModuleRunner.Json.Basic

/-!
# Printing JSON

Two layouts of a document: in one line without blanks, and over several lines with two blanks for
each level.  Both escape as little as JSON allows and write numbers alike.

* `Json.escape` — the characters of a text between its quotes.
* `Json.numberText` — a number: whole ones below `2 ^ 53` as integers, others with the fewest digits.
* `Json.compact`, `Json.pretty` — the layouts.
-/

namespace ModuleRunner.Json

open Decimal (Magnitude)

/-! ## Texts -/

/-- A hexadecimal digit. -/
def hexDigit (n : Nat) : Char := Char.ofNat (if n < 10 then 48 + n else 87 + n)

/-- A character as it stands between quotes. -/
def escapeChar (c : Char) : List Char :=
  match c with
  | '"' => ['\\', '"']
  | '\\' => ['\\', '\\']
  | '\x08' => ['\\', 'b']
  | '\t' => ['\\', 't']
  | '\n' => ['\\', 'n']
  | '\x0c' => ['\\', 'f']
  | '\r' => ['\\', 'r']
  | c =>
    if c.toNat < 0x20 then
      ['\\', 'u', '0', '0', hexDigit (c.toNat / 16), hexDigit (c.toNat % 16)]
    else [c]

/-- The characters of a text as they stand between quotes. -/
def escape (cs : List Char) : List Char := cs.flatMap escapeChar

/-- A text with its quotes. -/
def quote (s : String) : String := "\"" ++ String.ofList (escape s.toList) ++ "\""

/-! ## Numbers -/

/-- A decimal with one digit before the point and a signed exponent: `1e+21`, `1.5e-7`. -/
def scientific (d : Decimal.Digits) : String :=
  let text := toString d.digits
  let exponent := d.exponent + (text.length : Int) - 1
  let mantissa := match text.toList with
    | first :: [] => first.toString
    | first :: rest => first.toString ++ "." ++ String.ofList rest
    | [] => ""
  mantissa ++ "e" ++ (if exponent < 0 then "-" else "+") ++ toString exponent.natAbs

/-- A finite number.  Whole numbers below `2 ^ 53` are integers.  Others show the shortest digits, an
exact tie rounded to an even digit: with a point if the first digit stands between the fifth place
behind and the sixteenth before the point, else with an exponent. -/
def numberText (x : Float) : String :=
  let m := Magnitude.ofFloat x
  let sign := if Number.isNegative x && m.significand ≠ 0 then "-" else ""
  if m.isWhole && m.floor < Nat.pow 2 53 then sign ++ toString m.floor
  else
    let d := Decimal.shortest .even m
    let leading := d.exponent + (Decimal.places d.digits : Int) - 1
    if -5 ≤ leading && leading < 16 then
      sign ++ Decimal.plain d ++ if 0 ≤ d.exponent then ".0" else ""
    else sign ++ scientific d

/-! ## Layouts -/

mutual

/-- A document in one line. -/
def compact : Json → String
  | .null => "null"
  | .boolean true => "true"
  | .boolean false => "false"
  | .number x => numberText x
  | .text s => quote s
  | .array items => "[" ++ compactItems items ++ "]"
  | .object entries => "\x7b" ++ compactEntries entries ++ "\x7d"

/-- Items in one line, commas between them. -/
def compactItems : List Json → String
  | [] => ""
  | [x] => compact x
  | x :: rest => compact x ++ "," ++ compactItems rest

/-- Properties in one line, commas between them. -/
def compactEntries : List (String × Json) → String
  | [] => ""
  | [(k, v)] => quote k ++ ":" ++ compact v
  | (k, v) :: rest => quote k ++ ":" ++ compact v ++ "," ++ compactEntries rest

end

/-- A line break with the blanks of a level. -/
def newline (level : Nat) : String := "\n" ++ String.ofList (List.replicate (2 * level) ' ')

mutual

/-- A document over several lines, its inner lines one level deeper than `level`. -/
def prettyAt (level : Nat) : Json → String
  | .array [] => "[]"
  | .array items => "[" ++ prettyItems (level + 1) items ++ newline level ++ "]"
  | .object [] => "\x7b\x7d"
  | .object entries => "\x7b" ++ prettyEntries (level + 1) entries ++ newline level ++ "\x7d"
  | .null => "null"
  | .boolean true => "true"
  | .boolean false => "false"
  | .number x => numberText x
  | .text s => quote s

/-- Items, each on a line of its own. -/
def prettyItems (level : Nat) : List Json → String
  | [] => ""
  | [x] => newline level ++ prettyAt level x
  | x :: rest => newline level ++ prettyAt level x ++ "," ++ prettyItems level rest

/-- Properties, each on a line of its own. -/
def prettyEntries (level : Nat) : List (String × Json) → String
  | [] => ""
  | [(k, v)] => newline level ++ quote k ++ ": " ++ prettyAt level v
  | (k, v) :: rest =>
    newline level ++ quote k ++ ": " ++ prettyAt level v ++ "," ++ prettyEntries level rest

end

/-- A document over several lines. -/
def pretty (json : Json) : String := prettyAt 0 json

end ModuleRunner.Json
