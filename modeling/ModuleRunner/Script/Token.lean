import ModuleRunner.Number.Basic

/-!
# Tokens of the script language

A token is a kind and the place where its text stands.  Kinds come in three groups: words and
literals, the marks of punctuation, and the three kinds that end or spoil a text.

* `Keyword`, `Mark`, `Kind` — the kinds, each with its spelling or its label.
* `Kind.propertyName?` — the property that a token names after a point or in an object literal.
* `Kind.describe` — how a token is named in an error.
* `Span`, `Token` — a kind at its place.
-/

namespace ModuleRunner.Script

/-! ## Keywords -/

/-- The reserved words. -/
inductive Keyword where
  | breakWord | catchWord | constWord | continueWord | elseWord | falseWord | finallyWord | forWord
  | functionWord | ifWord | letWord | newWord | nullWord | returnWord | thisWord | throwWord
  | trueWord | tryWord | typeofWord | varWord | whileWord
deriving DecidableEq, Repr

/-- The text of a reserved word. -/
def Keyword.spelling : Keyword → String
  | breakWord => "break"
  | catchWord => "catch"
  | constWord => "const"
  | continueWord => "continue"
  | elseWord => "else"
  | falseWord => "false"
  | finallyWord => "finally"
  | forWord => "for"
  | functionWord => "function"
  | ifWord => "if"
  | letWord => "let"
  | newWord => "new"
  | nullWord => "null"
  | returnWord => "return"
  | thisWord => "this"
  | throwWord => "throw"
  | trueWord => "true"
  | tryWord => "try"
  | typeofWord => "typeof"
  | varWord => "var"
  | whileWord => "while"

/-- Every reserved word. -/
def Keyword.all : List Keyword :=
  [breakWord, catchWord, constWord, continueWord, elseWord, falseWord, finallyWord, forWord,
    functionWord, ifWord, letWord, newWord, nullWord, returnWord, thisWord, throwWord, trueWord,
    tryWord, typeofWord, varWord, whileWord]

/-- The reserved word with a given spelling. -/
def Keyword.ofSpelling? (s : String) : Option Keyword :=
  Keyword.all.find? fun k => k.spelling = s

/-- No reserved word is missing from the list. -/
theorem Keyword.mem_all (k : Keyword) : k ∈ Keyword.all := by cases k <;> decide

/-- A reserved word is found by its own spelling. -/
theorem Keyword.ofSpelling?_spelling (k : Keyword) : ofSpelling? k.spelling = some k := by
  cases k <;> decide

/-! ## Marks -/

/-- Punctuation and operators. -/
inductive Mark where
  | leftBrace | rightBrace | leftParen | rightParen | leftBracket | rightBracket
  | dot | semicolon | comma | colon | question
  | lessThan | greaterThan | lessThanEqual | greaterThanEqual
  | equalEqual | notEqual | strictEqual | strictNotEqual
  | plus | minus | star | slash | percent | plusPlus | minusMinus | bang
  | ampersandAmpersand | pipePipe
  | equal | plusEqual | minusEqual | starEqual | slashEqual
deriving DecidableEq, Repr

/-- The name of a mark, as errors give it. -/
def Mark.label : Mark → String
  | leftBrace => "LeftBrace"
  | rightBrace => "RightBrace"
  | leftParen => "LeftParen"
  | rightParen => "RightParen"
  | leftBracket => "LeftBracket"
  | rightBracket => "RightBracket"
  | dot => "Dot"
  | semicolon => "Semicolon"
  | comma => "Comma"
  | colon => "Colon"
  | question => "Question"
  | lessThan => "LessThan"
  | greaterThan => "GreaterThan"
  | lessThanEqual => "LessThanEqual"
  | greaterThanEqual => "GreaterThanEqual"
  | equalEqual => "EqualEqual"
  | notEqual => "NotEqual"
  | strictEqual => "StrictEqual"
  | strictNotEqual => "StrictNotEqual"
  | plus => "Plus"
  | minus => "Minus"
  | star => "Star"
  | slash => "Slash"
  | percent => "Percent"
  | plusPlus => "PlusPlus"
  | minusMinus => "MinusMinus"
  | bang => "Bang"
  | ampersandAmpersand => "AmpersandAmpersand"
  | pipePipe => "PipePipe"
  | equal => "Equal"
  | plusEqual => "PlusEqual"
  | minusEqual => "MinusEqual"
  | starEqual => "StarEqual"
  | slashEqual => "SlashEqual"

/-! ## Kinds -/

/-- What a token is. -/
inductive Kind where
  /-- A numeric literal. -/
  | number (value : Float)
  /-- A text literal, its escapes resolved. -/
  | text (value : String)
  /-- A name that is no reserved word. -/
  | name (value : String)
  /-- A reserved word. -/
  | keyword (word : Keyword)
  /-- A mark of punctuation or an operator. -/
  | mark (mark : Mark)
  /-- The end of the text. -/
  | endOfInput
  /-- A text literal that does not end on its line. -/
  | unterminated
  /-- A character with no meaning where it stands. -/
  | stray (char : Char)
deriving DecidableEq

/-- The property that a token names after a point or before a colon.  Reserved words name
properties as any other word does. -/
def Kind.propertyName? : Kind → Option String
  | number x => some (Number.text x)
  | text s => some s
  | name s => some s
  | keyword k => some k.spelling
  | mark _ | endOfInput | unterminated | stray _ => none

/-- How a token is named in an error. -/
def Kind.describe : Kind → String
  | number x => "number " ++ Number.text x
  | text s => "string '" ++ s ++ "'"
  | name s => "identifier '" ++ s ++ "'"
  | keyword k => "'" ++ k.spelling ++ "'"
  | mark m => m.label
  | endOfInput => "end of input"
  | unterminated => "unterminated string"
  | stray c => "character '" ++ c.toString ++ "'"

/-! ## Places -/

/-- A place between two characters of a text. -/
structure Position where
  /-- Octets before the place, in UTF-8. -/
  offset : Nat
  /-- One more than the number of line feeds before the place. -/
  line : Nat
  /-- One more than the number of characters since the last line feed. -/
  column : Nat
deriving DecidableEq, Repr

/-- The place where every text starts. -/
def Position.start : Position := ⟨0, 1, 1⟩

/-- The place behind one character. -/
def Position.next (p : Position) (c : Char) : Position :=
  if c = '\n' then ⟨p.offset + c.utf8Size, p.line + 1, 1⟩
  else ⟨p.offset + c.utf8Size, p.line, p.column + 1⟩

/-- The place behind several characters. -/
def Position.after (p : Position) (cs : List Char) : Position := cs.foldl next p

/-- Passing over two texts is passing over the first and then the second. -/
theorem Position.after_append (p : Position) (xs ys : List Char) :
    p.after (xs ++ ys) = (p.after xs).after ys := by
  simp [after]

/-- The stretch of text that a token covers. -/
structure Span where
  /-- Offset of the first octet. -/
  start : Nat
  /-- Offset behind the last octet. -/
  stop : Nat
  /-- Line of the first character. -/
  line : Nat
  /-- Column of the first character. -/
  column : Nat
deriving DecidableEq, Repr

/-- The stretch between two places. -/
def Span.between (p q : Position) : Span := ⟨p.offset, q.offset, p.line, p.column⟩

/-- The length of a stretch in octets. -/
def Span.size (s : Span) : Nat := s.stop - s.start

/-- A kind at its place. -/
structure Token where
  /-- What the token is. -/
  kind : Kind
  /-- Where its text stands. -/
  span : Span
  /-- Whether a line feed stands between the token before it and this one. -/
  newlineBefore : Bool
deriving DecidableEq

end ModuleRunner.Script
