import ModuleRunner.Text.Printable

/-!
# Quoted texts for inspection

A text between double quotes in which every character can be seen: quotes and backslashes are
escaped, the common controls have a letter, and what would not show is given by its code point.

* `seen` — a character as it stands between the quotes.
* `quoted`, `quotedList` — a quoted text, and several in brackets.
-/

namespace ModuleRunner.Text

/-- A code point in hexadecimal. -/
def codePoint (c : Char) : String := String.ofList (Nat.toDigits 16 c.toNat)

/-- A character as it stands between the quotes. -/
def seen (c : Char) : String :=
  match c with
  | '"' => "\\\""
  | '\\' => "\\\\"
  | '\n' => "\\n"
  | '\r' => "\\r"
  | '\t' => "\\t"
  | '\x00' => "\\0"
  | c => if isPrintable c then c.toString else "\\u\x7b" ++ codePoint c ++ "\x7d"

/-- A text between double quotes. -/
def quoted (s : String) : String := "\"" ++ String.join (s.toList.map seen) ++ "\""

/-- Quoted texts in brackets, commas between them. -/
def quotedList (items : List String) : String :=
  "[" ++ String.intercalate ", " (items.map quoted) ++ "]"

example : quoted "a\"\n\x7f" = "\"a\\\"\\n\\u\x7b7f\x7d\"" := by decide +kernel

end ModuleRunner.Text
