/-!
# Punycode

A label with characters beyond the basic ones is written with basic ones only: first the basic
characters it has, then a dash, then numbers that tell which character goes where.  A number is
written with letters and digits to the base 36, least first, and a digit below a threshold ends it;
the threshold follows the numbers written before.

* `encode` — the written form of a label.
* `decode?` — the label of a written form.
-/

namespace ModuleRunner.Url.Punycode

/-- The number of digits. -/
def base : Nat := 36

/-- The code point that insertion starts from. -/
def start : Nat := 0x80

/-- A digit, small. -/
def digit (n : Nat) : Char :=
  if n < 26 then Char.ofNat ('a'.toNat + n) else Char.ofNat ('0'.toNat + n - 26)

/-- The value of a digit. -/
def digitValue? (c : Char) : Option Nat :=
  if 'a' ≤ c && c ≤ 'z' then some (c.toNat - 'a'.toNat)
  else if 'A' ≤ c && c ≤ 'Z' then some (c.toNat - 'A'.toNat)
  else if '0' ≤ c && c ≤ '9' then some (c.toNat - '0'.toNat + 26)
  else none

/-- Halvings of a difference until it is small, with the shift they are worth. -/
def settle : Nat → Nat → Nat → Nat
  | 0, delta, shift => shift + base * delta / (delta + 38)
  | bound + 1, delta, shift =>
    if delta ≤ 455 then shift + base * delta / (delta + 38)
    else settle bound (delta / 35) (shift + base)

/-- The bias after a number, for so many characters. -/
def adapt (delta count : Nat) (isFirst : Bool) : Nat :=
  let delta := if isFirst then delta / 700 else delta / 2
  settle 16 (delta + delta / count) 0

/-- The threshold of the digit at a place, counted in bases. -/
def threshold (bias place : Nat) : Nat := min 26 (max 1 (place - bias))

/-- The digits of a number.  The first argument bounds their number. -/
def numberDigits (bias : Nat) : Nat → Nat → Nat → List Char
  | 0, _, _ => []
  | bound + 1, place, n =>
    let t := threshold bias place
    if n < t then [digit n]
    else
      digit (t + (n - t) % (base - t)) ::
        numberDigits bias bound (place + base) ((n - t) / (base - t))

/-- What insertion has come to: the next code point, the difference to write, the bias, and the
number of characters handled. -/
structure Progress where
  point : Nat
  delta : Nat
  bias : Nat
  handled : Nat
  /-- What is written, in order. -/
  written : List Char

/-- One pass over a label, which writes where the characters of the least code point not yet handled
go. -/
def pass (basics point : Nat) : List Char → Progress → Progress
  | [], p => p
  | c :: rest, p =>
    if c.toNat < point then pass basics point rest { p with delta := p.delta + 1 }
    else if c.toNat = point then
      pass basics point rest
        { p with
          written := p.written ++ numberDigits p.bias 32 base p.delta
          bias := adapt p.delta (p.handled + 1) (p.handled = basics)
          delta := 0
          handled := p.handled + 1 }
    else pass basics point rest p

/-- The least code point of a label that is at least a given one. -/
def leastFrom? (point : Nat) (label : List Char) : Option Nat :=
  ((label.map Char.toNat).filter (point ≤ ·)).min?

/-- Passes until all characters are handled.  The first argument bounds their number. -/
def passes (label : List Char) (basics : Nat) : Nat → Progress → Progress
  | 0, p => p
  | bound + 1, p =>
    match leastFrom? p.point label with
    | none => p
    | some m =>
      let p := { p with delta := p.delta + (m - p.point) * (p.handled + 1) }
      let p := pass basics m label p
      passes label basics bound { p with point := m + 1, delta := p.delta + 1 }

/-- The written form of a label. -/
def encode (label : List Char) : List Char :=
  let basics := label.filter (·.toNat < start)
  let head := if basics.isEmpty then [] else basics ++ ['-']
  (passes label basics.length label.length ⟨start, 0, 72, basics.length, head⟩).written

/-- Reads the number at the start of digits, with what is left.  Numbers and the weights of their
digits have thirty-two bits. -/
def number? (bias : Nat) : List Char → (place weight total : Nat) → Option (Nat × List Char)
  | [], _, _, _ => none
  | c :: rest, place, weight, total => do
    let d ← digitValue? c
    let total := total + d * weight
    let t := threshold bias place
    if Nat.pow 2 32 ≤ total then none
    else if d < t then return (total, rest)
    else if Nat.pow 2 32 ≤ weight * (base - t) then none
    else number? bias rest (place + base) (weight * (base - t)) total

/-- Inserts the characters that numbers tell.  The first argument bounds the count of numbers. -/
def insertions? : Nat → List Char → (point place bias : Nat) → List Char → Option (List Char)
  | 0, _, _, _, _, _ => none
  | _ + 1, [], _, _, _, label => some label
  | bound + 1, cs, point, place, bias, label => do
    let (n, rest) ← number? bias cs base 1 0
    let size := label.length + 1
    let total := place + n
    let point := point + total / size
    let index := total % size
    if point.isValidChar then
      insertions? bound rest point (index + 1) (adapt n size (place = 0))
        (label.take index ++ Char.ofNat point :: label.drop index)
    else none

/-- The basic characters of a written form, and its numbers: what stands before the last dash and
behind it. -/
def parts (cs : List Char) : List Char × List Char :=
  let numbers := (cs.reverse.takeWhile (· ≠ '-')).reverse
  (cs.take (cs.length - numbers.length - 1), numbers)

/-- The label of a written form.  A dash has basic characters before it. -/
def decode? (cs : List Char) : Option (List Char) :=
  let (basics, numbers) := parts cs
  if basics.isEmpty && numbers.length < cs.length then none
  else insertions? (numbers.length + 1) numbers start 0 72 basics

example : encode "bücher".toList = "bcher-kva".toList := by decide +kernel
example : decode? "bcher-kva".toList = some "bücher".toList := by decide +kernel

end ModuleRunner.Url.Punycode
