/-!
# Decoding UTF-8

Octets become characters, or a fault that says where the first sequence starts that is none.  A
sequence is its first octet, which tells how many follow and between which bounds the second one
lies, and then octets from `0x80` to `0xBF`.

A fault is invalid if some octet rules the sequence out; the fault then counts the octets before it.
It is incomplete if the octets end while the sequence still could.

* `Utf8.Fault` — the two faults.
* `Utf8.decode` — all characters, or the first fault.
* `Utf8.decodeLossy` — all characters, with another one in place of each fault.
-/

namespace ModuleRunner.Text.Utf8

/-- Why octets are no text. -/
inductive Fault where
  /-- At `index` stand `length` octets that start no character. -/
  | invalid (length index : Nat)
  /-- The octets end inside the sequence that starts at `index`. -/
  | incomplete (index : Nat)
deriving DecidableEq, Repr

/-- The text of a fault. -/
def Fault.message : Fault → String
  | invalid length index =>
    "invalid utf-8 sequence of " ++ toString length ++ " bytes from index " ++ toString index
  | incomplete index => "incomplete utf-8 byte sequence from index " ++ toString index

/-- What a first octet tells of its sequence: the bits it holds, the bounds of the second octet, and
the number of octets behind the second. -/
structure Lead where
  /-- The bits of the code point that the first octet holds. -/
  bits : Nat
  /-- The least second octet. -/
  low : Nat
  /-- The greatest second octet. -/
  high : Nat
  /-- How many octets stand behind the second. -/
  more : Nat

/-- What a first octet beyond the basic ones tells, if a sequence may start with it. -/
def lead? (a : Nat) : Option Lead :=
  if 0xC2 ≤ a ∧ a ≤ 0xDF then some ⟨a - 0xC0, 0x80, 0xBF, 0⟩
  else if a = 0xE0 then some ⟨0, 0xA0, 0xBF, 1⟩
  else if a = 0xED then some ⟨0xD, 0x80, 0x9F, 1⟩
  else if 0xE1 ≤ a ∧ a ≤ 0xEF then some ⟨a - 0xE0, 0x80, 0xBF, 1⟩
  else if a = 0xF0 then some ⟨0, 0x90, 0xBF, 2⟩
  else if 0xF1 ≤ a ∧ a ≤ 0xF3 then some ⟨a - 0xF0, 0x80, 0xBF, 2⟩
  else if a = 0xF4 then some ⟨4, 0x80, 0x8F, 2⟩
  else none

/-- Where in a sequence a reader stands. -/
inductive State where
  /-- Between characters. -/
  | between
  /-- `seen` octets of a sequence are read and hold `bits`; the next lies between `low` and `high`,
  and `more` follow it. -/
  | inside (seen bits low high more : Nat)

/-- Decodes octets from a state on.  `index` is where the sequence in progress starts, or the next
one if there is none; `done` holds the characters so far, last one first. -/
def decodeFrom : State → Nat → List Char → List UInt8 → Except Fault (List Char)
  | .between, _, done, [] => .ok done.reverse
  | .inside .., index, _, [] => .error (.incomplete index)
  | .between, index, done, octet :: rest =>
    let a := octet.toNat
    if a < 0x80 then decodeFrom .between (index + 1) (Char.ofNat a :: done) rest
    else
      match lead? a with
      | none => .error (.invalid 1 index)
      | some l => decodeFrom (.inside 1 l.bits l.low l.high l.more) index done rest
  | .inside seen bits low high more, index, done, octet :: rest =>
    let b := octet.toNat
    if low ≤ b ∧ b ≤ high then
      let bits := bits * 64 + (b - 0x80)
      match more with
      | 0 => decodeFrom .between (index + seen + 1) (Char.ofNat bits :: done) rest
      | more + 1 => decodeFrom (.inside (seen + 1) bits 0x80 0xBF more) index done rest
    else .error (.invalid seen index)

/-- The text that octets spell, or the first fault. -/
def decode (octets : List UInt8) : Except Fault String :=
  String.ofList <$> decodeFrom .between 0 [] octets

/-- How many octets at the start are whole characters, and how many behind them are none. -/
def Fault.extent (count : Nat) : Fault → Nat × Nat
  | invalid length index => (index, length)
  | incomplete index => (index, count - index)

/-- The text that octets spell, with the replacement character for each stretch that spells none.
The first argument bounds the number of stretches. -/
def decodeLossyFrom : Nat → List UInt8 → String
  | 0, _ => ""
  | bound + 1, octets =>
    match decode octets with
    | .ok s => s
    | .error fault =>
      let (start, length) := fault.extent octets.length
      ((decode (octets.take start)).toOption.getD "").push '\uFFFD'
        ++ decodeLossyFrom bound (octets.drop (start + length))

/-- The text that octets spell, with the replacement character for each stretch that spells
none. -/
def decodeLossy (octets : List UInt8) : String := decodeLossyFrom (octets.length + 1) octets

/-- Basic characters are their own octets. -/
theorem decodeFrom_basic {c : Char} (h : c.toNat < 0x80) (index : Nat) (done : List Char)
    (rest : List UInt8) :
    decodeFrom .between index done (UInt8.ofNat c.toNat :: rest) =
      decodeFrom .between (index + 1) (c :: done) rest := by
  have hb : (UInt8.ofNat c.toNat).toNat = c.toNat := by
    rw [UInt8.toNat_ofNat']
    omega
  have hc : Char.ofNat c.toNat = c := Char.ofNat_toNat c
  simp only [decodeFrom, hb, h, if_true, hc]

example : decode "aé😀".toUTF8.toList = .ok "aé😀" := by cbv
example : decode [0x61, 0xE2, 0x82] = .error (.incomplete 1) := by rfl
example : decode [0xED, 0xA0, 0x80] = .error (.invalid 1 0) := by rfl
example : decode [0xF0, 0x9F, 0x98, 0x41] = .error (.invalid 3 0) := by rfl

end ModuleRunner.Text.Utf8
