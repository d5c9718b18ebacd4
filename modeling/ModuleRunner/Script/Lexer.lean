import ModuleRunner.Script.Token
import ModuleRunner.Text.Alphabetic

/-!
# From text to tokens

A text is a sequence of gaps and lexemes.  A gap is blanks and comments; a lexeme is the longest
text that its first characters allow.  Both are found by functions on the characters still ahead,
and both answer with a number of characters, so that the text of a token is a `take` and what
follows it a `drop`.

* `gapSize` — how many characters of blanks and comments stand ahead.
* `Lexeme`, `lexeme` — the kind and the size of what starts with a character.
* `tokens` — all tokens of a text, the end of input last.
-/

namespace ModuleRunner.Script

/-! ## Gaps -/

/-- The blanks between tokens: space, tab, carriage return, line feed and the byte order mark. -/
def isGapBlank (c : Char) : Bool :=
  c = ' ' || c = '\t' || c = '\r' || c = '\n' || c = '\ufeff'

/-- Where in a gap a reader stands. -/
inductive GapState where
  /-- Outside comments. -/
  | blank
  /-- In a comment that ends with its line. -/
  | lineComment
  /-- In a comment that ends with `*/`; `star` tells whether the last character was a star. -/
  | blockComment (star : Bool)
deriving DecidableEq, Repr

/-- The number of characters that belong to the gap.  A block comment that is never closed reaches
to the end. -/
def gapFrom : GapState → List Char → Nat
  | _, [] => 0
  | .blank, '/' :: '/' :: rest => 2 + gapFrom .lineComment rest
  | .blank, '/' :: '*' :: rest => 2 + gapFrom (.blockComment false) rest
  | .blank, c :: rest => if isGapBlank c then 1 + gapFrom .blank rest else 0
  | .lineComment, c :: rest => 1 + gapFrom (if c = '\n' then .blank else .lineComment) rest
  | .blockComment star, c :: rest =>
    1 + gapFrom (if star && c = '/' then .blank else .blockComment (c == '*')) rest

/-- The number of characters of blanks and comments that a text starts with. -/
def gapSize (cs : List Char) : Nat := gapFrom .blank cs

/-! ## Names -/

/-- Whether a name may start with the character. -/
def isNameStart (c : Char) : Bool := c = '_' || c = '$' || Text.isAlphabetic c

/-- Whether a name may go on with the character. -/
def isNamePart (c : Char) : Bool := isNameStart c || Decimal.isDigit c

/-- What is at the head of a text: its kind and the number of characters it covers. -/
structure Lexeme where
  /-- What it is. -/
  kind : Kind
  /-- How many characters it covers. -/
  size : Nat
deriving DecidableEq

/-- The keyword or the name that a word spells. -/
def wordKind (word : String) : Kind :=
  match Keyword.ofSpelling? word with
  | some k => .keyword k
  | none => .name word

/-- A word: the longest run of name characters. -/
def wordLexeme (cs : List Char) : Lexeme :=
  let word := cs.takeWhile isNamePart
  ⟨wordKind (String.ofList word), word.length⟩

/-! ## Numbers -/

/-- The point and the digits behind it, if a point is ahead. -/
def fractionRun : List Char → List Char
  | '.' :: rest => '.' :: Decimal.digitRun rest
  | _ => []

/-- An exponent mark with what belongs to it, if a digit or a sign follows the mark. -/
def exponentRun : List Char → List Char
  | e :: s :: rest =>
    if e = 'e' || e = 'E' then
      if s = '+' || s = '-' then e :: s :: Decimal.digitRun rest
      else if Decimal.isDigit s then e :: Decimal.digitRun (s :: rest)
      else []
    else []
  | _ => []

/-- The longest text of the shape of a decimal numeral. -/
def numeralRun (cs : List Char) : List Char :=
  let whole := Decimal.digitRun cs
  let rest := cs.drop whole.length
  let fraction := fractionRun rest
  whole ++ fraction ++ exponentRun (rest.drop fraction.length)

/-- A decimal numeral.  An exponent mark with a sign and no digits makes it a stray character that
covers the whole attempt. -/
def decimalLexeme (first : Char) (cs : List Char) : Lexeme :=
  let run := numeralRun cs
  match Decimal.unsigned? run with
  | some x => ⟨.number x, run.length⟩
  | none => ⟨.stray first, run.length⟩

/-- A hexadecimal numeral, its mark `0x` already seen.  It holds at most 64 bits. -/
def hexLexeme (cs : List Char) : Lexeme :=
  let digits := cs.takeWhile Decimal.isHexDigit
  match Number.ofHex? digits with
  | some x => ⟨.number x, 2 + digits.length⟩
  | none => ⟨.stray 'x', 2 + digits.length⟩

/-- A numeral of either base. -/
def numberLexeme : List Char → Lexeme
  | '0' :: 'x' :: digits | '0' :: 'X' :: digits => hexLexeme digits
  | c :: rest => decimalLexeme c (c :: rest)
  | [] => ⟨.endOfInput, 0⟩

/-! ## Text literals -/

/-- Where in a text literal a reader stands. -/
inductive TextState where
  /-- Between characters. -/
  | plain
  /-- Behind a backslash. -/
  | escape
  /-- In a `\u` escape, with `left` digits to come and the value of those seen. -/
  | unicode (left code : Nat)
deriving DecidableEq, Repr

/-- The character that an escape stands for. -/
def escaped (c : Char) : Char :=
  match c with
  | 'n' => '\n'
  | 't' => '\t'
  | 'r' => '\r'
  | '0' => '\x00'
  | 'b' => '\x08'
  | 'f' => '\x0c'
  | 'v' => '\x0b'
  | other => other

/-- The character with a code point, unless the code point is half of a surrogate pair. -/
def scalar? (code : Nat) : Option Char :=
  if code.isValidChar then some (Char.ofNat code) else none

/-- Reads a literal up to its closing quote.  `done` holds the characters of its value so far, last
one first, and `size` the characters passed.  A backslash before a line feed continues the literal
on the next line; an escape that is no character makes the literal a stray backslash. -/
def literalFrom (quote : Char) : TextState → List Char → Nat → List Char → Lexeme
  | .unicode .., _, size, [] => ⟨.stray '\\', size⟩
  | _, _, size, [] => ⟨.unterminated, size⟩
  | .plain, done, size, c :: rest =>
    if c = quote then ⟨.text (String.ofList done.reverse), size + 1⟩
    else if c = '\n' then ⟨.unterminated, size + 1⟩
    else if c = '\\' then literalFrom quote .escape done (size + 1) rest
    else literalFrom quote .plain (c :: done) (size + 1) rest
  | .escape, done, size, c :: rest =>
    if c = 'u' then literalFrom quote (.unicode 4 0) done (size + 1) rest
    else if c = '\n' then literalFrom quote .plain done (size + 1) rest
    else literalFrom quote .plain (escaped c :: done) (size + 1) rest
  | .unicode left code, done, size, c :: rest =>
    match Decimal.hexValue? c with
    | none => ⟨.stray '\\', size + 1⟩
    | some v =>
      if 1 < left then literalFrom quote (.unicode (left - 1) (16 * code + v)) done (size + 1) rest
      else
        match scalar? (16 * code + v) with
        | none => ⟨.stray '\\', size + 1⟩
        | some u => literalFrom quote .plain (u :: done) (size + 1) rest

/-! ## Marks -/

/-- The longest mark that a text starts with, and its size. -/
def mark? : List Char → Option (Mark × Nat)
  | '=' :: '=' :: '=' :: _ => some (.strictEqual, 3)
  | '!' :: '=' :: '=' :: _ => some (.strictNotEqual, 3)
  | '=' :: '=' :: _ => some (.equalEqual, 2)
  | '!' :: '=' :: _ => some (.notEqual, 2)
  | '+' :: '+' :: _ => some (.plusPlus, 2)
  | '+' :: '=' :: _ => some (.plusEqual, 2)
  | '-' :: '-' :: _ => some (.minusMinus, 2)
  | '-' :: '=' :: _ => some (.minusEqual, 2)
  | '*' :: '=' :: _ => some (.starEqual, 2)
  | '/' :: '=' :: _ => some (.slashEqual, 2)
  | '<' :: '=' :: _ => some (.lessThanEqual, 2)
  | '>' :: '=' :: _ => some (.greaterThanEqual, 2)
  | '&' :: '&' :: _ => some (.ampersandAmpersand, 2)
  | '|' :: '|' :: _ => some (.pipePipe, 2)
  | '{' :: _ => some (.leftBrace, 1)
  | '}' :: _ => some (.rightBrace, 1)
  | '(' :: _ => some (.leftParen, 1)
  | ')' :: _ => some (.rightParen, 1)
  | '[' :: _ => some (.leftBracket, 1)
  | ']' :: _ => some (.rightBracket, 1)
  | ';' :: _ => some (.semicolon, 1)
  | ',' :: _ => some (.comma, 1)
  | ':' :: _ => some (.colon, 1)
  | '?' :: _ => some (.question, 1)
  | '.' :: _ => some (.dot, 1)
  | '+' :: _ => some (.plus, 1)
  | '-' :: _ => some (.minus, 1)
  | '*' :: _ => some (.star, 1)
  | '/' :: _ => some (.slash, 1)
  | '%' :: _ => some (.percent, 1)
  | '<' :: _ => some (.lessThan, 1)
  | '>' :: _ => some (.greaterThan, 1)
  | '=' :: _ => some (.equal, 1)
  | '!' :: _ => some (.bang, 1)
  | _ => none

/-! ## Lexemes -/

/-- Whether a numeral starts here: a digit, or a point with a digit behind it. -/
def startsNumber : List Char → Bool
  | '.' :: d :: _ => Decimal.isDigit d
  | c :: _ => Decimal.isDigit c
  | [] => false

/-- The lexeme at the head of a text that is not empty. -/
def lexeme (first : Char) (rest : List Char) : Lexeme :=
  if startsNumber (first :: rest) then numberLexeme (first :: rest)
  else if first = '"' || first = '\'' then literalFrom first .plain [] 1 rest
  else
    match mark? (first :: rest) with
    | some (m, size) => ⟨.mark m, size⟩
    | none => if isNameStart first then wordLexeme (first :: rest) else ⟨.stray first, 1⟩

/-- The tokens of a text that starts at a given place.  The first argument bounds their number,
the end of input not counted. -/
def tokensFrom : Nat → Position → List Char → List Token
  | bound, here, cs =>
    let gap := cs.take (gapSize cs)
    let start := here.after gap
    let newline := gap.contains '\n'
    match cs.drop (gapSize cs) with
    | [] => [⟨.endOfInput, .between start start, newline⟩]
    | c :: rest =>
      let l := lexeme c rest
      let stop := start.after ((c :: rest).take l.size)
      ⟨l.kind, .between start stop, newline⟩ ::
        match bound with
        | 0 => []
        | bound + 1 => tokensFrom bound stop ((c :: rest).drop l.size)

/-- The tokens of a text, the end of input last.  Every token covers a character, so there are no
more of them than the text has characters. -/
def tokens (source : List Char) : List Token := tokensFrom source.length .start source

end ModuleRunner.Script
