import ModuleRunner.Decimal.Numeral

/-!
# Percent encoding

In an address an octet may be written as a percent sign and two hexadecimal digits.  Each part of an
address has its own set of characters that must be written so; characters beyond the basic ones
always are, octet by octet.

* `encode` — a text with the characters of a set encoded.
* `decode` — the octets of a text; a percent sign that no digits follow stands for itself.
* `inPath`, `inQuery`, `inFragment`, `inUserInfo` — the sets.
-/

namespace ModuleRunner.Url.Percent

/-! ## Sets -/

/-- Whether a character is one of several. -/
def isOneOf (chars : String) (c : Char) : Bool := chars.toList.contains c

/-- The controls. -/
def isControl (c : Char) : Bool := c.toNat < 0x20 || c.toNat = 0x7F

/-- What is encoded in a fragment. -/
def inFragment (c : Char) : Bool := isControl c || isOneOf " \"<>`" c

/-- What is encoded in a path. -/
def inPath (c : Char) : Bool := inFragment c || isOneOf "#?\x7b\x7d" c

/-- What is encoded in a user name or a password. -/
def inUserInfo (c : Char) : Bool := inPath c || isOneOf "/:;=@[\\]^|" c

/-- What is encoded in a query. -/
def inQuery (c : Char) : Bool := isControl c || isOneOf " \"#<>" c

/-- What is encoded in the query of a special scheme. -/
def inSpecialQuery (c : Char) : Bool := inQuery c || c = '\''

/-! ## Encoding and decoding -/

/-- A hexadecimal digit, capital. -/
def hexDigit (n : Nat) : Char :=
  if n < 10 then Char.ofNat ('0'.toNat + n) else Char.ofNat ('A'.toNat + n - 10)

/-- An octet as a percent sign and two digits. -/
def octetText (octet : UInt8) : List Char :=
  ['%', hexDigit (octet.toNat / 16), hexDigit (octet.toNat % 16)]

/-- A character, encoded if it has to be. -/
def encodeChar (set : Char → Bool) (c : Char) : List Char :=
  if 0x80 ≤ c.toNat || set c then (String.utf8EncodeChar c).flatMap octetText else [c]

/-- A text with the characters of a set encoded. -/
def encode (set : Char → Bool) (cs : List Char) : String :=
  String.ofList (cs.flatMap (encodeChar set))

/-- The octets that a text stands for. -/
def decode : List Char → List UInt8
  | [] => []
  | '%' :: a :: b :: rest =>
    match Decimal.hexValue? a, Decimal.hexValue? b with
    | some high, some low => UInt8.ofNat (16 * high + low) :: decode rest
    | _, _ => '%'.toNat.toUInt8 :: decode (a :: b :: rest)
  | c :: rest => String.utf8EncodeChar c ++ decode rest

example : encode inPath "é b".toList = "%C3%A9%20b" := by decide +kernel

end ModuleRunner.Url.Percent
