/-! UTF-8: writing characters as bytes, and reading bytes that may not be UTF-8.

One function looks at the head of a byte sequence and says what stands there: a
character, a broken piece, or a character that the end cuts short. The strict reader
stops at the first piece that is no character and says where it stands. The lenient
reader puts one replacement character in the place of every such piece. -/

namespace Courier.Utf8

/-- The bytes of a text. -/
def encode (cs : List Char) : List UInt8 :=
  cs.flatMap String.utf8EncodeChar

/-- The bytes of a string. -/
def bytes (s : String) : List UInt8 :=
  encode s.toList

/-- The number of bytes of a text. -/
def size : List Char → Nat
  | [] => 0
  | c :: cs => c.utf8Size + size cs

@[simp] theorem encode_append (a b : List Char) : encode (a ++ b) = encode a ++ encode b :=
  List.flatMap_append

@[simp] theorem bytes_ofList (cs : List Char) : bytes (String.ofList cs) = encode cs := by
  rw [bytes, String.toList_ofList]

@[simp] theorem size_append (a b : List Char) : size (a ++ b) = size a + size b := by
  induction a with
  | nil => rw [List.nil_append, size, Nat.zero_add]
  | cons c a ih => rw [List.cons_append, size, size, ih, Nat.add_assoc]

@[simp] theorem length_encode (cs : List Char) : (encode cs).length = size cs := by
  induction cs with
  | nil => rfl
  | cons c cs ih =>
    rw [size, ← ih, encode, List.flatMap_cons, List.length_append, String.length_utf8EncodeChar]
    rfl

/-- What stands at the head of a byte sequence that is not empty. -/
inductive Head where
  /-- A character. -/
  | char (c : Char)
  /-- The longest piece of that many bytes that begins like a character and then goes
  wrong; a byte that begins none is such a piece by itself. -/
  | broken (length : Nat)
  /-- A character that the end of the bytes cuts short. -/
  | cutShort
  deriving DecidableEq, Repr

/-- How many bytes follow a first byte, and the range of the first of them. The ranges
leave out overlong forms, surrogates and everything above the last code point. -/
def lead (b : Nat) : Option (Nat × Nat × Nat) :=
  if 0xC2 ≤ b ∧ b ≤ 0xDF then some (1, 0x80, 0xBF)
  else if b = 0xE0 then some (2, 0xA0, 0xBF)
  else if b = 0xED then some (2, 0x80, 0x9F)
  else if 0xE1 ≤ b ∧ b ≤ 0xEF then some (2, 0x80, 0xBF)
  else if b = 0xF0 then some (3, 0x90, 0xBF)
  else if 0xF1 ≤ b ∧ b ≤ 0xF3 then some (3, 0x80, 0xBF)
  else if b = 0xF4 then some (3, 0x80, 0x8F)
  else none

/-- Takes up `owed` more bytes of a character whose bits so far are `bits`, in `taken`
bytes; the next byte must lie between `low` and `high`. -/
def takeUp (owed taken bits low high : Nat) (bs : List UInt8) : Head :=
  match owed, bs with
  | 0, _ => .char (Char.ofNat bits)
  | _ + 1, [] => .cutShort
  | owed + 1, b :: rest =>
    if low ≤ b.toNat ∧ b.toNat ≤ high then
      takeUp owed (taken + 1) (bits * 64 + b.toNat % 64) 0x80 0xBF rest
    else .broken taken

/-- What stands at the head of the bytes `b :: rest`. -/
def head (b : UInt8) (rest : List UInt8) : Head :=
  if b.toNat < 0x80 then .char (Char.ofNat b.toNat)
  else
    match lead b.toNat with
    | none => .broken 1
    | some (owed, low, high) => takeUp owed 1 (b.toNat % Nat.pow 2 (6 - owed)) low high rest

/-- Why bytes are not UTF-8. -/
inductive Error where
  /-- A broken piece of that many bytes at that place. -/
  | broken (length index : Nat)
  /-- At that place a character begins that the end cuts short. -/
  | cutShort (index : Nat)
  deriving DecidableEq, Repr

/-- The wording of an error. -/
def Error.message : Error → String
  | .broken length index => s!"invalid utf-8 sequence of {length} bytes from index {index}"
  | .cutShort index => s!"incomplete utf-8 byte sequence from index {index}"

/-- Reads bytes that stand at `index`; the first piece that is no character refuses all. -/
def decodeFrom (index : Nat) (bs : List UInt8) : Except Error (List Char) :=
  match bs with
  | [] => .ok []
  | b :: rest =>
    match head b rest with
    | .char c => do
      let cs ← decodeFrom (index + c.utf8Size) (rest.drop (c.utf8Size - 1))
      return c :: cs
    | .broken length => .error (.broken length index)
    | .cutShort => .error (.cutShort index)
termination_by bs.length

/-- The text that the bytes write. -/
def decode (bs : List UInt8) : Except Error String :=
  (decodeFrom 0 bs).map String.ofList

/-- The character that stands for a piece which is no character. -/
def replacement : Char := '\ufffd'

/-- Reads bytes with one replacement character for every piece that is no character. -/
def lenient (bs : List UInt8) : List Char :=
  match bs with
  | [] => []
  | b :: rest =>
    match head b rest with
    | .char c => c :: lenient (rest.drop (c.utf8Size - 1))
    | .broken length => replacement :: lenient (rest.drop (length - 1))
    | .cutShort => [replacement]
termination_by bs.length

/-- The text of bytes, whatever they are. -/
def decodeLossy (bs : List UInt8) : String :=
  String.ofList (lenient bs)

end Courier.Utf8
