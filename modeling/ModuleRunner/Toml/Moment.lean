import ModuleRunner.Decimal.Numeral

/-!
# Dates and times in TOML

A moment is a date, a time of day, or a date with a time and perhaps an offset from universal time.
A date exists in the calendar; a time may have the sixtieth second, and nine digits of a fraction
count.

* `Moment` — the data.
* `Moment.text` — how a moment is written: a `T` before the time, no zeros at the end of a fraction.
* `moment?` — reads one.
-/

namespace ModuleRunner.Toml

/-- A reader answers what it read and what is left. -/
abbrev Reader (α : Type) := List Char → Option (α × List Char)

/-- A day of the calendar. -/
structure Date where
  year : Nat
  month : Nat
  day : Nat
deriving DecidableEq, Repr

/-- A time of day. -/
structure Time where
  hour : Nat
  minute : Nat
  second : Nat
  /-- The billionth parts of the second. -/
  fraction : Nat
deriving DecidableEq, Repr

/-- How far a clock is from universal time. -/
inductive Offset where
  /-- It shows universal time. -/
  | zulu
  /-- It is so many minutes ahead. -/
  | minutes (ahead : Int)
deriving DecidableEq, Repr

/-- A date, a time, or both. -/
inductive Moment where
  | date (date : Date)
  | time (time : Time)
  | both (date : Date) (time : Time) (offset : Option Offset)
deriving DecidableEq, Repr

/-! ## Writing -/

/-- A number with zeros before it, up to a width. -/
def padded (width n : Nat) : String :=
  let digits := toString n
  Decimal.zeros (width - digits.length) ++ digits

/-- The text of a date. -/
def Date.text (d : Date) : String :=
  padded 4 d.year ++ "-" ++ padded 2 d.month ++ "-" ++ padded 2 d.day

/-- The text of a fraction, with its point; nothing if it is zero. -/
def fractionText (billionths : Nat) : String :=
  if billionths = 0 then ""
  else
    let digits := (padded 9 billionths).toList.reverse.dropWhile (· = '0')
    "." ++ String.ofList digits.reverse

/-- The text of a time. -/
def Time.text (t : Time) : String :=
  padded 2 t.hour ++ ":" ++ padded 2 t.minute ++ ":" ++ padded 2 t.second
    ++ fractionText t.fraction

/-- The text of an offset. -/
def Offset.text : Offset → String
  | zulu => "Z"
  | minutes ahead =>
    (if ahead < 0 then "-" else "+") ++ padded 2 (ahead.natAbs / 60) ++ ":"
      ++ padded 2 (ahead.natAbs % 60)

/-- The text of a moment. -/
def Moment.text : Moment → String
  | date d => d.text
  | time t => t.text
  | both d t offset => d.text ++ "T" ++ t.text ++ (offset.map Offset.text).getD ""

/-! ## Reading -/

/-- A number of exactly so many digits, between two bounds. -/
def field? (width low high : Nat) : Reader Nat := fun cs =>
  let digits := cs.take width
  let n := Decimal.valueOf digits
  if digits.length = width && digits.all Decimal.isDigit && low ≤ n && n ≤ high then
    some (n, cs.drop width)
  else none

/-- How many days a month has. -/
def daysIn (year month : Nat) : Nat :=
  if month = 2 then
    if year % 4 = 0 && (year % 100 != 0 || year % 400 = 0) then 29 else 28
  else if month = 4 || month = 6 || month = 9 || month = 11 then 30
  else 31

/-- A separator. -/
def expect (mark : Char) : Reader Unit
  | c :: rest => if c = mark then some ((), rest) else none
  | [] => none

/-- A date. -/
def date? : Reader Date := fun cs => do
  let (year, cs) ← field? 4 0 9999 cs
  let (_, cs) ← expect '-' cs
  let (month, cs) ← field? 2 1 12 cs
  let (_, cs) ← expect '-' cs
  let (day, cs) ← field? 2 1 (daysIn year month) cs
  return (⟨year, month, day⟩, cs)

/-- The fraction of a second, of which nine digits count. -/
def fraction? : Reader Nat
  | '.' :: cs =>
    let digits := Decimal.digitRun cs
    if digits.isEmpty then none
    else
      let counted := digits.take 9
      some (Decimal.valueOf counted * Nat.pow 10 (9 - counted.length), cs.drop digits.length)
  | cs => some (0, cs)

/-- A time of day. -/
def time? : Reader Time := fun cs => do
  let (hour, cs) ← field? 2 0 23 cs
  let (_, cs) ← expect ':' cs
  let (minute, cs) ← field? 2 0 59 cs
  let (_, cs) ← expect ':' cs
  let (second, cs) ← field? 2 0 60 cs
  let (fraction, cs) ← fraction? cs
  return (⟨hour, minute, second, fraction⟩, cs)

/-- An offset of hours and minutes, behind its sign. -/
def offsetPart? (negative : Bool) : Reader Offset := fun cs => do
  let (hour, cs) ← field? 2 0 23 cs
  let (_, cs) ← expect ':' cs
  let (minute, cs) ← field? 2 0 59 cs
  let ahead : Int := hour * 60 + minute
  return (.minutes (if negative then -ahead else ahead), cs)

/-- An offset, or nothing. -/
def offset? : Reader (Option Offset)
  | 'Z' :: cs | 'z' :: cs => some (some .zulu, cs)
  | '+' :: cs => (offsetPart? false cs).map fun (o, cs) => (some o, cs)
  | '-' :: cs => (offsetPart? true cs).map fun (o, cs) => (some o, cs)
  | cs => some (none, cs)

/-- A date, and behind a `T` or a blank perhaps a time. -/
def dated? : Reader Moment := fun cs => do
  let (date, cs) ← date? cs
  match cs with
  | c :: rest =>
    if c = 'T' || c = 't' || c = ' ' then
      match time? rest with
      | some (time, rest) => (offset? rest).map fun (o, rest) => (.both date time o, rest)
      | none => return (.date date, cs)
    else return (.date date, cs)
  | [] => return (.date date, cs)

/-- A moment. -/
def moment? : Reader Moment := fun cs =>
  dated? cs <|> (time? cs).map fun (t, rest) => (.time t, rest)

example : (moment? "1979-05-27 07:32:00.5-07:00".toList).map (·.1.text) =
    some "1979-05-27T07:32:00.5-07:00" := by decide +kernel
example : (moment? "2023-02-29".toList).isNone := by decide +kernel

end ModuleRunner.Toml
