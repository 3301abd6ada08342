import Courier.Text.Digits
import Courier.Json.Number

/-! The compact text of a JSON value.

There are no blanks, members come in the order of their names, and a string escapes
only quotes, backslashes and the control characters below the space. -/

namespace Courier.Json

/-- A control character below the space as an escape. -/
def escapeControl (c : Char) : List Char :=
  match c with
  | '\x08' => ['\\', 'b']
  | '\x0c' => ['\\', 'f']
  | '\n' => ['\\', 'n']
  | '\x0d' => ['\\', 'r']
  | '\t' => ['\\', 't']
  | c => ['\\', 'u', '0', '0', Hex.digit (c.toNat / 16), Hex.digit (c.toNat % 16)]

/-- A character inside a string. -/
def escapeChar (c : Char) : List Char :=
  if c = '"' then ['\\', '"']
  else if c = '\\' then ['\\', '\\']
  else if c.toNat < 0x20 then escapeControl c
  else [c]

/-- A string in quotes. -/
def renderString (s : String) : List Char :=
  '"' :: s.toList.flatMap escapeChar ++ ['"']

mutual
/-- The characters of a value's text. -/
def renderChars : Json → List Char
  | .null => "null".toList
  | .bool b => if b then "true".toList else "false".toList
  | .number n => n.render
  | .string s => renderString s
  | .array items => '[' :: renderItems items ++ [']']
  | .object members => '{' :: renderMembers members ++ ['}']

/-- Items with commas between them. -/
def renderItems : List Json → List Char
  | [] => []
  | [item] => renderChars item
  | item :: items => renderChars item ++ ',' :: renderItems items

/-- Members with commas between them. -/
def renderMembers : List (String × Json) → List Char
  | [] => []
  | [(name, value)] => renderString name ++ ':' :: renderChars value
  | (name, value) :: members =>
    renderString name ++ ':' :: renderChars value ++ ',' :: renderMembers members
end

/-- The text of a value. -/
def render (j : Json) : String :=
  String.ofList j.renderChars

end Courier.Json
