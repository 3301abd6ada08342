/-! Bytes written in digits.

In hexadecimal a byte is a pair of digits, written in lower case. In Base64 three bytes are
four of sixty-four digits, and the last group is filled up with `=`. -/

namespace Courier

namespace Hex

/-- The digit of a value below sixteen. -/
def digit (n : Nat) : Char :=
  if n < 10 then Char.ofNat (0x30 + n) else Char.ofNat (0x57 + n)

/-- The value of a digit, in either case. -/
def value? (c : Char) : Option Nat :=
  if c.isDigit then some (c.toNat - 0x30)
  else if 'a' ≤ c ∧ c ≤ 'f' then some (c.toNat - 0x57)
  else if 'A' ≤ c ∧ c ≤ 'F' then some (c.toNat - 0x37)
  else none

/-- The two digits of a byte. -/
def byte (b : UInt8) : List Char :=
  [digit (b.toNat / 16), digit (b.toNat % 16)]

/-- The digits of bytes. -/
def encode (bs : List UInt8) : String :=
  String.ofList (bs.flatMap byte)

/-- The bytes that pairs of digits write. -/
def decodeChars? : List Char → Option (List UInt8)
  | [] => some []
  | [_] => none
  | a :: b :: rest => do
    let high ← value? a
    let low ← value? b
    let bytes ← decodeChars? rest
    return UInt8.ofNat (high * 16 + low) :: bytes

/-- The bytes that a string of digits writes. -/
def decode? (s : String) : Option (List UInt8) :=
  decodeChars? s.toList

end Hex

namespace Base64

/-- The digit of a value below sixty-four. -/
def digit (n : Nat) : Char :=
  if n < 26 then Char.ofNat (0x41 + n)
  else if n < 52 then Char.ofNat (0x61 + (n - 26))
  else if n < 62 then Char.ofNat (0x30 + (n - 52))
  else if n = 62 then '+'
  else '/'

/-- The digits of bytes. -/
def encodeChars : List UInt8 → List Char
  | [] => []
  | [a] =>
    let n := a.toNat * 16
    [digit (n / 64), digit (n % 64), '=', '=']
  | [a, b] =>
    let n := (a.toNat * 256 + b.toNat) * 4
    [digit (n / 4096), digit (n / 64 % 64), digit (n % 64), '=']
  | a :: b :: c :: rest =>
    let n := (a.toNat * 256 + b.toNat) * 256 + c.toNat
    digit (n / 262144) :: digit (n / 4096 % 64) :: digit (n / 64 % 64) :: digit (n % 64)
      :: encodeChars rest

/-- Bytes in Base64. -/
def encode (bs : List UInt8) : String :=
  String.ofList (encodeChars bs)

end Base64

end Courier
