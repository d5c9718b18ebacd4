import ModuleRunner.Toml.Section

/-!
# Reading TOML

A document is lines: entries, headers of tables, headers of arrays of tables, comments and blanks.
Values nest less than `maxNesting` deep, and so many parts are too many for a key.

* `value` — a value.
* `Line`, `line?` — what a line says.
* `Toml.parse?` — the entries of a whole document.
-/

namespace ModuleRunner.Toml

/-- The nesting of values, and the number of parts of a key, that are too much. -/
def maxNesting : Nat := 80

/-! ## Blanks and comments -/

/-- Whether a character is a blank inside a line. -/
def isBlank (c : Char) : Bool := c = ' ' || c = '\t'

/-- What is left behind blanks. -/
def skipBlanks (cs : List Char) : List Char := cs.dropWhile isBlank

/-- Whether a character may stand in a comment or a literal text: no control but the tab. -/
def isVisible (c : Char) : Bool := c = '\t' || (0x20 ≤ c.toNat && c.toNat != 0x7F)

/-- What is left behind a comment, which is there or not. -/
def skipComment : List Char → List Char
  | '#' :: rest => rest.dropWhile isVisible
  | cs => cs

/-- What is left behind a line break. -/
def newline? : List Char → Option (List Char)
  | '\n' :: rest => some rest
  | '\r' :: '\n' :: rest => some rest
  | _ => none

/-- What is left behind the end of a line: blanks, perhaps a comment, and a break or the end. -/
def lineEnd? (cs : List Char) : Option (List Char) :=
  match skipComment (skipBlanks cs) with
  | [] => some []
  | rest => newline? rest

/-- What is left behind blanks, comments and line breaks.  The first argument bounds their
number. -/
def skipLinesFrom : Nat → List Char → List Char
  | 0, cs => cs
  | bound + 1, cs =>
    let cs := skipComment (skipBlanks cs)
    match newline? cs with
    | some rest => skipLinesFrom bound rest
    | none => cs

/-- What is left behind blanks, comments and line breaks. -/
def skipLines (cs : List Char) : List Char := skipLinesFrom (cs.length + 1) cs

/-! ## Texts -/

/-- The character of a code point that so many digits give. -/
def codePoint? (width : Nat) : Reader Char := fun cs => do
  let digits := cs.take width
  let n ← Decimal.hexValueOf? digits
  if digits.length = width && n.isValidChar then return (Char.ofNat n, cs.drop width) else none

/-- The character that follows from a backslash and what is behind it. -/
def escape? : Reader Char
  | 'b' :: rest => some ('\x08', rest)
  | 't' :: rest => some ('\t', rest)
  | 'n' :: rest => some ('\n', rest)
  | 'f' :: rest => some ('\x0c', rest)
  | 'r' :: rest => some ('\r', rest)
  | '"' :: rest => some ('"', rest)
  | '\\' :: rest => some ('\\', rest)
  | 'u' :: rest => codePoint? 4 rest
  | 'U' :: rest => codePoint? 8 rest
  | _ => none

/-- What is left behind blanks and line breaks.  The first argument bounds the number of breaks. -/
def skipBreaksFrom : Nat → List Char → List Char
  | 0, cs => cs
  | bound + 1, cs =>
    let cs := skipBlanks cs
    match newline? cs with
    | some rest => skipBreaksFrom bound rest
    | none => cs

/-- The blanks and line breaks that a backslash at the end of a line swallows. -/
def lineJoin? (cs : List Char) : Option (List Char) :=
  (newline? (skipBlanks cs)).map fun rest => skipBreaksFrom (rest.length + 1) rest

/-- A text with escapes on one line, up to its closing quote. -/
def basicFrom : Nat → List Char → Reader String
  | 0, _, _ => none
  | bound + 1, done, cs =>
    match cs with
    | '"' :: rest => some (String.ofList done.reverse, rest)
    | '\\' :: rest => (escape? rest).bind fun (c, rest) => basicFrom bound (c :: done) rest
    | c :: rest => if isVisible c then basicFrom bound (c :: done) rest else none
    | [] => none

/-- A text without escapes on one line, up to its closing quote. -/
def literal? : Reader String := fun cs =>
  let body := cs.takeWhile fun c => isVisible c && c != '\''
  match cs.drop body.length with
  | '\'' :: rest => some (String.ofList body, rest)
  | _ => none

/-- The end of a text over several lines: three quotes, before which one or two may belong to the
text.  The quotes that do, and what is left. -/
def closing? (quote : Char) (cs : List Char) : Option (List Char × List Char) :=
  let run := cs.takeWhile (· = quote)
  if run.length < 3 then none
  else
    let kept := min (run.length - 3) 2
    some (List.replicate kept quote, cs.drop (kept + 3))

/-- A text over several lines, up to its closing quotes.  `isEscaped` tells whether backslashes
count. -/
def multilineFrom (quote : Char) (isEscaped : Bool) : Nat → List Char → Reader String
  | 0, _, _ => none
  | bound + 1, done, cs =>
    match closing? quote cs with
    | some (quotes, rest) => some (String.ofList (quotes ++ done).reverse, rest)
    | none =>
      match newline? cs with
      | some rest => multilineFrom quote isEscaped bound ('\n' :: done) rest
      | none =>
        match cs with
        | [] => none
        | c :: rest =>
          if isEscaped && c = '\\' then
            match lineJoin? rest with
            | some rest => multilineFrom quote isEscaped bound done rest
            | none =>
              (escape? rest).bind fun (c, rest) =>
                multilineFrom quote isEscaped bound (c :: done) rest
          else if isVisible c then multilineFrom quote isEscaped bound (c :: done) rest
          else none

/-- A text over several lines, behind its opening quotes; a line break right there does not
count. -/
def multiline? (quote : Char) (isEscaped : Bool) : Reader String := fun cs =>
  let body := (newline? cs).getD cs
  multilineFrom quote isEscaped (body.length + 1) [] body

/-- A text of any kind. -/
def text? : Reader String
  | '"' :: '"' :: '"' :: rest => multiline? '"' true rest
  | '\'' :: '\'' :: '\'' :: rest => multiline? '\'' false rest
  | '"' :: rest => basicFrom (rest.length + 1) [] rest
  | '\'' :: rest => literal? rest
  | _ => none

/-! ## Keys -/

/-- Whether a character may stand in a key without quotes. -/
def isBare (c : Char) : Bool := c.isAlphanum || c = '_' || c = '-'

/-- A part of a key. -/
def keyPart? : Reader String
  | '"' :: rest => basicFrom (rest.length + 1) [] rest
  | '\'' :: rest => literal? rest
  | cs =>
    let run := cs.takeWhile isBare
    if run.isEmpty then none else some (String.ofList run, cs.drop run.length)

/-- The parts of a key, dots between them and blanks around them.  The first argument bounds their
number. -/
def keyParts? : Nat → Reader (List String)
  | 0, _ => none
  | bound + 1, cs =>
    (keyPart? (skipBlanks cs)).bind fun (part, rest) =>
      match skipBlanks rest with
      | '.' :: rest => (keyParts? bound rest).map fun (parts, rest) => (part :: parts, rest)
      | rest => some ([part], rest)

/-- A key, with blanks around it. -/
def key? : Reader (List String) := keyParts? (maxNesting - 1)

/-! ## Numbers -/

/-- A sign, and what is left. -/
def sign : List Char → Bool × List Char
  | '-' :: rest => (true, rest)
  | '+' :: rest => (false, rest)
  | cs => (false, cs)

/-- More digits behind one: each follows another digit or one underscore. -/
def digitsFrom (isDigit : Char → Bool) : List Char → Option (List Char × List Char)
  | [] => some ([], [])
  | '_' :: d :: rest =>
    if isDigit d then (digitsFrom isDigit rest).map fun (ds, rest) => (d :: ds, rest) else none
  | d :: rest =>
    if isDigit d then (digitsFrom isDigit rest).map fun (ds, rest) => (d :: ds, rest)
    else if d = '_' then none
    else some ([], d :: rest)

/-- Digits with single underscores between them. -/
def digits? (isDigit : Char → Bool) : Reader (List Char)
  | d :: rest =>
    if isDigit d then (digitsFrom isDigit rest).map fun (ds, rest) => (d :: ds, rest) else none
  | [] => none

/-- The digits before a point: no zero stands before another digit. -/
def whole? : Reader (List Char)
  | '0' :: rest => some (['0'], rest)
  | cs => digits? Decimal.isDigit cs

/-- A whole number, if it fits into 64 bits. -/
def fitted? (n : Int) : Option Toml :=
  if -(Nat.pow 2 63 : Int) ≤ n && n < Nat.pow 2 63 then some (.integer n) else none

/-- The value of digits to a base. -/
def valueInBase (base : Nat) (digits : List Char) : Nat :=
  digits.foldl (fun n c => base * n + (Decimal.hexValue? c).getD 0) 0

/-- A whole number to a base other than ten, behind its mark. -/
def based? (base : Nat) : Reader Toml := fun cs => do
  let isDigit (c : Char) : Bool := (Decimal.hexValue? c).any (· < base)
  let (digits, rest) ← digits? isDigit cs
  let n ← fitted? (valueInBase base digits)
  return (n, rest)

/-- What a word behind a sign stands for. -/
def named? : Reader Float
  | 'i' :: 'n' :: 'f' :: rest => some (Number.infinity, rest)
  | 'n' :: 'a' :: 'n' :: rest => some (Number.nan, rest)
  | _ => none

/-- The digits behind a point, if there is one. -/
def fractionPart? : Reader (List Char)
  | '.' :: rest => digits? Decimal.isDigit rest
  | cs => some ([], cs)

/-- The number behind an exponent mark, if there is one. -/
def exponentPart? : Reader (Option Int)
  | 'e' :: rest | 'E' :: rest => do
    let (isNegative, rest) := sign rest
    let (digits, rest) ← digits? Decimal.isDigit rest
    let n : Int := Decimal.valueOf digits
    return (some (if isNegative then -n else n), rest)
  | cs => some (none, cs)

/-- A number with an optional sign.  With a point or an exponent it is a double, which may not be
infinite above; else it is a whole number of at most 64 bits. -/
def decimal? : Reader Toml := fun cs => do
  let (isNegative, cs) := sign cs
  match named? cs with
  | some (x, rest) => return (.float (if isNegative then -x else x), rest)
  | none =>
    let (whole, rest) ← whole? cs
    let (fraction, rest') ← fractionPart? rest
    let (exponent, rest') ← exponentPart? rest'
    if fraction.isEmpty && exponent.isNone then
      let n : Int := Decimal.valueOf whole
      let n ← fitted? (if isNegative then -n else n)
      return (n, rest)
    else
      let x := Decimal.nearest (Decimal.valueOf (whole ++ fraction))
        (exponent.getD 0 - fraction.length)
      let x := if isNegative then -x else x
      if x == Number.infinity then none else return (.float x, rest')

/-- A number. -/
def number? : Reader Toml
  | '0' :: 'x' :: rest => based? 16 rest
  | '0' :: 'o' :: rest => based? 8 rest
  | '0' :: 'b' :: rest => based? 2 rest
  | cs => decimal? cs

/-! ## Values -/

/-- A value that holds no others. -/
def scalar? : Reader Toml := fun cs =>
  match cs with
  | 't' :: 'r' :: 'u' :: 'e' :: rest => some (.boolean true, rest)
  | 'f' :: 'a' :: 'l' :: 's' :: 'e' :: rest => some (.boolean false, rest)
  | '"' :: _ | '\'' :: _ => (text? cs).map fun (s, rest) => (.text s, rest)
  | _ =>
    match moment? cs with
    | some (m, rest) => some (.moment m, rest)
    | none => number? cs

/-- Items up to the closing bracket of an array; a comma may stand behind the last.  The first
argument bounds their number. -/
def itemsFrom (item : Reader Toml) : Nat → Reader (List Toml)
  | 0, _ => none
  | bound + 1, cs =>
    match skipLines cs with
    | ']' :: rest => some ([], rest)
    | cs =>
      (item cs).bind fun (x, rest) =>
        match skipLines rest with
        | ',' :: rest => (itemsFrom item bound rest).map fun (xs, rest) => (x :: xs, rest)
        | ']' :: rest => some ([x], rest)
        | _ => none

/-- The items of an array, behind its opening bracket. -/
def items? (item : Reader Toml) : Reader (List Toml) := fun cs =>
  itemsFrom item (cs.length + 1) cs

/-- A key, an equals sign and a value. -/
def keyed? (item : Reader Toml) : Reader (List String × Toml) := fun cs =>
  (key? cs).bind fun (key, rest) =>
    match rest with
    | '=' :: rest => (item (skipBlanks rest)).map fun (value, rest) => ((key, value), rest)
    | _ => none

/-- Adds the value of an entry to a table. -/
def addKeyed? (entries : Section) (entry : List String × Toml) : Option Section :=
  match entry.1.getLast? with
  | some key => entries.insert? entry.1.dropLast key entry.2
  | none => none

/-- Entries up to the closing brace of an inline table.  The first argument bounds their number. -/
def inlineFrom (item : Reader Toml) : Nat → Section → Reader Section
  | 0, _, _ => none
  | bound + 1, done, cs =>
    (keyed? item cs).bind fun (entry, rest) =>
      (addKeyed? done entry).bind fun done =>
        match skipBlanks rest with
        | ',' :: rest => inlineFrom item bound done rest
        | '\x7d' :: rest => some (done, rest)
        | _ => none

/-- The entries of an inline table, behind its opening brace. -/
def inline? (item : Reader Toml) : Reader (List (String × Toml)) := fun cs =>
  match skipBlanks cs with
  | '\x7d' :: rest => some ([], rest)
  | cs => (inlineFrom item (cs.length + 1) [] cs).map fun (done, rest) => (done.toToml, rest)

/-- A value that nests at most as deep as the first argument says. -/
def value : Nat → Reader Toml
  | 0, cs => scalar? cs
  | nesting + 1, cs =>
    match cs with
    | '[' :: rest => (items? (value nesting) rest).map fun (xs, rest) => (.array xs, rest)
    | '\x7b' :: rest => (inline? (value nesting) rest).map fun (es, rest) => (.table es, rest)
    | _ => scalar? cs

/-! ## Documents -/

/-- What a line says. -/
inductive Line where
  /-- The lines that follow belong to a table. -/
  | table (path : List String)
  /-- The lines that follow belong to a new element of an array of tables. -/
  | element (path : List String)
  /-- A key has a value. -/
  | entry (key : List String) (value : Toml)

/-- A line that says something, with its end. -/
def line? : Reader Line := fun cs =>
  match cs with
  | '[' :: '[' :: rest =>
    (key? rest).bind fun (path, rest) =>
      match rest with
      | ']' :: ']' :: rest => (lineEnd? rest).map (.element path, ·)
      | _ => none
  | '[' :: rest =>
    (key? rest).bind fun (path, rest) =>
      match rest with
      | ']' :: rest => (lineEnd? rest).map (.table path, ·)
      | _ => none
  | _ =>
    (keyed? (value (maxNesting - 1)) cs).bind fun (entry, rest) =>
      (lineEnd? rest).map (.entry entry.1 entry.2, ·)

/-- The lines of a document that say something.  The first argument bounds their number. -/
def lines? : Nat → List Char → Option (List Line)
  | 0, _ => none
  | bound + 1, cs =>
    match skipLines cs with
    | [] => some []
    | cs => (line? cs).bind fun (line, rest) => (lines? bound rest).map (line :: ·)

/-- An unfinished document, and the path of the table that entries go to. -/
structure Draft where
  /-- The outermost table. -/
  entries : Section
  /-- The path of the table that is open. -/
  path : List String

/-- What a line does to a document. -/
def Draft.add? (draft : Draft) : Line → Option Draft
  | .table path =>
    path.getLast?.bind fun key =>
      (draft.entries.within? (·.openTable? key) path.dropLast).map (⟨·, path⟩)
  | .element path =>
    path.getLast?.bind fun key =>
      (draft.entries.within? (·.openElement? key) path.dropLast).map (⟨·, path⟩)
  | .entry key value =>
    (draft.entries.within? (addKeyed? · (key, value)) draft.path).map (⟨·, draft.path⟩)

/-- The entries of a document; a mark of the octet order at its start does not count. -/
def parse? (source : String) : Option (List (String × Toml)) := do
  let cs := match source.toList with
    | '\uFEFF' :: rest => rest
    | cs => cs
  let lines ← lines? (cs.length + 1) cs
  let draft ← lines.foldlM Draft.add? ⟨[], []⟩
  return draft.entries.toToml

end ModuleRunner.Toml
