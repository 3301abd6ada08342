import Courier.Text.Digits
import Courier.Text.Split
import Courier.Text.Utf8

/-! Percent encoding, and queries as pairs of names and values.

Percent encoding writes bytes as a percent sign and two hexadecimal digits. The pairs of a
query stand between ampersands, and an empty one counts for nothing. A name ends with the
first equals sign. A plus sign is a space, and percent signs are decoded. -/

namespace Courier.Url

namespace Percent

/-- The digit of a value below sixteen, in upper case. -/
def digit (n : Nat) : Char :=
  if n < 10 then Char.ofNat (0x30 + n) else Char.ofNat (0x37 + n)

/-- A byte with its percent sign. -/
def byte (b : UInt8) : List Char :=
  ['%', digit (b.toNat / 16), digit (b.toNat % 16)]

/-- A text with every character encoded that is not to be kept. -/
def encode (keep : Char → Bool) (cs : List Char) : List Char :=
  cs.flatMap fun c => if keep c then [c] else (String.utf8EncodeChar c).flatMap byte

/-- Whether a character is printable ASCII. -/
def isPrintable (c : Char) : Bool :=
  0x20 ≤ c.toNat && c.toNat ≤ 0x7E

/-- The characters that a path keeps. -/
def keptInPath (c : Char) : Bool :=
  isPrintable c && !" \"#<>?\x60\x7b\x7d".toList.contains c

/-- The characters that a component of a query keeps. -/
def keptInComponent (c : Char) : Bool :=
  c.isAlphanum || "-_.!~*'()".toList.contains c

/-- The value of a byte that is a hexadecimal digit. -/
def value? (b : UInt8) : Option Nat :=
  Hex.value? (Char.ofNat b.toNat)

/-- Bytes with every percent sign that two digits follow taken together with them. -/
def decode : List UInt8 → List UInt8
  | 0x25 :: a :: b :: rest =>
    match value? a, value? b with
    | some high, some low => UInt8.ofNat (high * 16 + low) :: decode rest
    | _, _ => 0x25 :: decode (a :: b :: rest)
  | b :: rest => b :: decode rest
  | [] => []

end Percent

namespace Query

/-- The text that a name or a value writes. -/
def decode (cs : List Char) : String :=
  let spaced := cs.map fun c => if c = '+' then ' ' else c
  Utf8.decodeLossy (Percent.decode (Utf8.encode spaced))

/-- The name and the value of a pair. -/
def pair (cs : List Char) : String × String :=
  match Text.cut? '=' cs with
  | some (name, value) => (decode name, decode value)
  | none => (decode cs, "")

/-- The pairs of a query. -/
def pairs (query : List Char) : List (String × String) :=
  ((Text.splitOn '&' query).filter (· ≠ [])).map pair

end Query

end Courier.Url
