import Courier.Text.Blank
import Courier.Text.Split
import Courier.Json.Basic

/-! Paths into JSON values.

A path is a list of segments. Between dots a segment is written as it is; after it, or
instead of it, further segments may follow in brackets, with or without quotes. A segment
is a name in an object and a place in an array. -/

namespace Courier.Json

namespace Path

/-- Takes the quotes off both ends. -/
def unquote (cs : List Char) : List Char :=
  let isQuote (c : Char) : Bool := c = '\'' || c = '"'
  ((cs.dropWhile isQuote).reverse.dropWhile isQuote).reverse

/-- The segments written in brackets. Text after a closing bracket that opens no other is
dropped, and a bracket that nothing closes makes a segment of all that follows it. -/
def bracketed (cs : List Char) : List (List Char) :=
  match cs with
  | '[' :: inner =>
    match h : Text.cut? ']' inner with
    | none => [inner]
    | some (front, back) =>
      have : back.length < inner.length := Text.length_cut? h
      unquote front :: bracketed back
  | _ => []
termination_by cs.length

/-- The segments of a piece between dots. -/
def ofPiece (piece : List Char) : List (List Char) :=
  let piece := Text.trim piece
  let front := piece.takeWhile (· ≠ '[')
  let back := piece.dropWhile (· ≠ '[')
  (if front.isEmpty then [] else [front]) ++ bracketed back

/-- The segments of a path. -/
def segments (path : String) : List String :=
  ((Text.splitOn '.' path.toList).flatMap ofPiece).map String.ofList

/-- The place that a segment means in an array: digits, perhaps after a plus sign, as long
as sixty-four bits hold the number. -/
def index? (segment : String) : Option Nat :=
  let digits := match segment.toList with
    | '+' :: cs => cs
    | cs => cs
  if digits.isEmpty || !digits.all Char.isDigit then none
  else
    let n := digits.foldl (fun n c => n * 10 + (c.toNat - 0x30)) 0
    if n < UInt64.size then some n else none

/-- One step into a value. -/
def step? (segment : String) : Json → Option Json
  | .object members => (Json.object members).member? segment
  | .array items => (index? segment).bind (Json.array items).item?
  | _ => none

/-- The value that segments lead to. -/
def follow? : List String → Json → Option Json
  | [], j => some j
  | segment :: rest, j => (step? segment j).bind (follow? rest)

end Path

/-- The value at a path; a path without segments leads nowhere. -/
def get? (j : Json) (path : String) : Option Json :=
  match Path.segments path with
  | [] => none
  | segments => Path.follow? segments j

end Courier.Json
