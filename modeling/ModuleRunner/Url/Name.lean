import ModuleRunner.Text.Direction
import ModuleRunner.Text.Joining
import ModuleRunner.Text.Split
import ModuleRunner.Text.Utf8
import ModuleRunner.Url.Folding
import ModuleRunner.Url.Percent
import ModuleRunner.Url.Punycode

/-!
# Names of domains

A name is a row of labels with dots between them.  A label may have characters beyond the basic
ones; it is then written with a mark in front, and with basic characters only.  What a label stands
for has to keep some rules, whichever way the label came: it does not start with a mark of another
character, joiners stand where letters can join, and if any label is written from right to left,
no label mixes the two ways.

* `Label`, `label?` — a label, written and in full.
* `startsProperly`, `joinersFit`, `keepsDirection` — the rules.
* `written?` — the written form of a name.
-/

namespace ModuleRunner.Url.Name

open Text (Direction direction splitAt)

/-! ## Labels -/

/-- A label. -/
structure Label where
  /-- The label with basic characters only. -/
  written : List Char
  /-- What it stands for. -/
  full : List Char

/-- How the written form of a label with other characters starts. -/
def mark : List Char := "xn--".toList

/-- The number of characters behind the mark that are read. -/
def decodedAtMost : Nat := 2000

/-- The number of characters of a label, some of them not basic, that are written. -/
def encodedAtMost : Nat := 1000

/-- What a label that starts with the mark stands for: its written form may not end in a dash, and
it has to stand for something that stands for itself. -/
def unmarked? (cs : List Char) : Option (List Char) := do
  let digits := cs.drop mark.length
  if !cs.all isBasic || cs.getLast? = some '-' || decodedAtMost < digits.length then none
  else
    let full ← Punycode.decode? digits
    if folded? full = some full then return full else none

/-- The label that folded characters are. -/
def label? (cs : List Char) : Option Label :=
  if cs.take mark.length = mark then (unmarked? cs).map fun full => ⟨cs, full⟩
  else if cs.all isBasic then some ⟨cs, cs⟩
  else some ⟨mark ++ Punycode.encode cs, cs⟩

/-! ## Rules -/

/-- Whether a label does not start with a mark of the character before it. -/
def startsProperly (cs : List Char) : Bool := !cs.head?.any Text.isMark

/-- The combining class of the sign that joins consonants. -/
def viramaClass : Nat := 9

/-- Whether a joiner fits between characters, those before it nearest first.  Either one fits behind
a sign that joins consonants; the one that keeps letters apart also fits where letters would join. -/
def joinerFits (before : List Char) (c : Char) (after : List Char) : Bool :=
  before.head?.any (Text.combiningClass · = viramaClass) ||
    (c = '\u200C' && Text.meets Text.joinsOnward before && Text.meets Text.joinsBack after)

/-- Whether all joiners of a label fit; `before` holds the characters already passed, nearest
first. -/
def joinersFit (before : List Char) : List Char → Bool
  | [] => true
  | c :: rest => (!isJoiner c || joinerFits before c rest) && joinersFit (c :: before) rest

/-- Whether a label is not too long to be written. -/
def isShort (cs : List Char) : Bool := cs.all isBasic || cs.length ≤ encodedAtMost

/-- Whether a label has a character that is written from right to left, or a digit that is written
among such. -/
def runsRightToLeft (cs : List Char) : Bool :=
  cs.any fun c => direction c = .rightToLeft || direction c = .arabicDigit

/-- The directions of a label, without those that depend on the one before them at its end. -/
def directions (cs : List Char) : List Direction :=
  ((cs.map direction).reverse.dropWhile (· = .dependent)).reverse

/-- Whether what is behind the first character of a label keeps the direction from left to right: it
ends in a letter or a digit. -/
def keepsLeftToRight (rest : List Direction) : Bool :=
  rest.all (fun d => d != .rightToLeft && d != .arabicDigit) &&
    rest.getLast?.all fun d => d = .leftToRight || d = .europeanDigit

/-- Whether what is behind the first character of a label keeps the direction from right to left: it
ends in a letter or a digit, and its digits are of one kind. -/
def keepsRightToLeft (rest : List Direction) : Bool :=
  rest.all (· != .leftToRight) &&
    rest.getLast?.all (fun d => d != .neutral) &&
    !(rest.contains .europeanDigit && rest.contains .arabicDigit)

/-- Whether a label keeps one direction, which its first character tells. -/
def keepsDirection (cs : List Char) : Bool :=
  match cs with
  | [] => true
  | c :: rest =>
    match direction c with
    | .leftToRight => keepsLeftToRight (directions rest)
    | .rightToLeft => keepsRightToLeft (directions rest)
    | _ => false

/-- Whether labels keep the rules; directions matter if one of them is written from right to left. -/
def areProper (labels : List (List Char)) : Bool :=
  labels.all (fun cs => startsProperly cs && joinersFit [] cs && isShort cs) &&
    (!labels.any runsRightToLeft || labels.all keepsDirection)

/-! ## Names -/

/-- Whether a name may not have a character. -/
def isForbidden (c : Char) : Bool :=
  c.toNat ≤ 0x20 || c.toNat = 0x7F || Percent.isOneOf "%#/:<>?@[\\]^|" c

/-- The labels with dots between them. -/
def joinLabels (labels : List (List Char)) : List Char := List.intercalate ['.'] labels

/-- The labels of the name that characters are. -/
def labels? (cs : List Char) : Option (List Label) := do
  let name ← folded? cs
  if name.any isForbidden then none
  else
    let labels ← (splitAt (· = '.') name).mapM label?
    if areProper (labels.map (·.full)) then return labels else none

/-- The written form of the name that octets are. -/
def written? (octets : List UInt8) : Option (List Char) := do
  let decoded ← (Text.Utf8.decode octets).toOption
  let labels ← labels? decoded.toList
  return joinLabels (labels.map (·.written))

end ModuleRunner.Url.Name
