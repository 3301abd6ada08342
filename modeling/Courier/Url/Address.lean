import Courier.Text.Digits
import Courier.Text.Split

/-! Internet addresses as hosts of URLs.

An address of version four may have one to four numbers, each decimal, octal or
hexadecimal; the last one fills the bytes that the others leave. An address of version six
has eight pieces of sixteen bits, of which one run of zeros may be left out. -/

namespace Courier.Url

namespace V4

/-- A number: its base shows in front of its digits. No digits after a hexadecimal mark
are a zero. -/
def number? (cs : List Char) : Option Nat :=
  let read (base : Nat) (digits : List Char) : Option Nat :=
    digits.foldlM (fun n c => (Hex.value? c).bind fun d =>
      if d < base then some (n * base + d) else none) 0
  match cs with
  | [] => none
  | ['0'] => some 0
  | '0' :: x :: digits =>
    if x = 'x' ∨ x = 'X' then read 16 digits else read 8 (x :: digits)
  | digits => read 10 digits

/-- The numbers of a host, which may end with a dot. -/
def pieces (host : List Char) : List (List Char) :=
  let ps := Text.splitOn '.' host
  if ps.getLast? = some [] then ps.dropLast else ps

/-- Whether a host must be an address: its last label is a number. -/
def endsInNumber (host : List Char) : Bool :=
  match (pieces host).getLast? with
  | none => false
  | some last => (!last.isEmpty && last.all Char.isDigit) || (number? last).isSome

/-- The address that a host writes. -/
def parse? (host : List Char) : Option Nat := do
  let numbers ← (pieces host).mapM number?
  let last ← numbers.getLast?
  let others := numbers.dropLast
  if 4 < numbers.length ∨ others.any (255 < ·) ∨ Nat.pow 256 (4 - others.length) ≤ last then none
  else
    return others.zipIdx.foldl (fun sum (n, i) => sum + n * Nat.pow 256 (3 - i)) last

/-- Four decimal numbers between dots. -/
def render (address : Nat) : List Char :=
  ['.'].intercalate <| [3, 2, 1, 0].map fun i => Nat.toDigits 10 (address / Nat.pow 256 i % 256)

end V4

namespace V6

/-- A piece of one to four hexadecimal digits. -/
def piece? (cs : List Char) : Option Nat :=
  if cs.isEmpty || 4 < cs.length then none
  else cs.foldlM (fun n c => (Hex.value? c).map (n * 16 + ·)) 0

/-- A decimal byte without needless zeros. -/
def byte? (cs : List Char) : Option Nat :=
  if cs.isEmpty || 3 < cs.length || !cs.all Char.isDigit || (cs.head? = some '0' && cs ≠ ['0']) then
    none
  else
    let n := cs.foldl (fun n c => n * 10 + (c.toNat - 0x30)) 0
    if n ≤ 255 then some n else none

/-- The two pieces that four decimal bytes at the end of an address make. -/
def embedded? (cs : List Char) : Option (List Nat) :=
  match (Text.splitOn '.' cs).mapM byte? with
  | some [a, b, c, d] => some [a * 256 + b, c * 256 + d]
  | _ => none

/-- Pieces between colons. Decimal bytes may stand for the last two, if `last` says so. -/
def pieces? (last : Bool) (cs : List Char) : Option (List Nat) :=
  if cs.isEmpty then some []
  else
    let ps := Text.splitOn ':' cs
    match ps.dropLast.mapM piece?, ps.getLast? with
    | some front, some back =>
      if last ∧ back.contains '.' then (embedded? back).map (front ++ ·)
      else (piece? back).map fun n => front ++ [n]
    | _, _ => none

/-- What stands before and after the first two colons in a row. -/
def gap? : List Char → Option (List Char × List Char)
  | [] => none
  | ':' :: ':' :: cs => some ([], cs)
  | c :: cs => (gap? cs).map fun (front, back) => (c :: front, back)

/-- The eight pieces that an address writes. -/
def parse? (cs : List Char) : Option (List Nat) :=
  match gap? cs with
  | none =>
    match pieces? true cs with
    | some ps => if ps.length = 8 then some ps else none
    | none => none
  | some (front, back) =>
    match pieces? false front, pieces? true back with
    | some front, some back =>
      -- The gap stands for one zero at least.
      if front.length + back.length < 8 then
        some (front ++ List.replicate (8 - front.length - back.length) 0 ++ back)
      else none
    | _, _ => none

/-- The number of zeros at the start. -/
def zeros (ps : List Nat) : Nat :=
  (ps.takeWhile (· = 0)).length

/-- Where the first of the longest runs of zeros starts, and its length. -/
def longestZeros (ps : List Nat) : Nat × Nat :=
  (List.range ps.length).foldl (fun (start, length) i =>
    let here := zeros (ps.drop i)
    if length < here then (i, here) else (start, length)) (0, 0)

/-- Hexadecimal pieces between colons. -/
def renderPieces (ps : List Nat) : List Char :=
  [':'].intercalate (ps.map (Nat.toDigits 16))

/-- An address in brackets; the longest run of two zeros or more is left out. -/
def render (ps : List Nat) : List Char :=
  let (start, length) := longestZeros ps
  let inner :=
    if length < 2 then renderPieces ps
    else renderPieces (ps.take start) ++ [':', ':'] ++ renderPieces (ps.drop (start + length))
  '[' :: inner ++ [']']

end V6

end Courier.Url
