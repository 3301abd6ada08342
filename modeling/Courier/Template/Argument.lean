import Courier.Text.Blank
import Courier.Text.Split

/-! The argument of a template call: the text between its parentheses, cut at commas. -/

namespace Courier.Template

inductive Argument where
  /-- The text had no comma. -/
  | single (text : String)
  /-- The items between the commas. -/
  | list (items : List String)
  deriving DecidableEq, Repr, Inhabited

namespace Argument

/-- The text between two quotes, if it has one at each end. -/
def unquote? (quote : Char) (cs : List Char) : Option (List Char) :=
  if 2 ≤ cs.length ∧ cs.head? = some quote ∧ cs.getLast? = some quote then
    some (cs.drop 1).dropLast
  else none

/-- An item without its blank ends and without one layer of quotes. -/
def item (cs : List Char) : List Char :=
  let cs := Text.trim cs
  ((unquote? '\'' cs).or (unquote? '"' cs)).getD cs

/-- The argument that a text writes. -/
def ofChars (cs : List Char) : Argument :=
  match (Text.splitOn ',' cs).map (String.ofList ∘ item) with
  | [text] => .single text
  | items => .list items

/-- The argument that a string writes. -/
def parse (raw : String) : Argument :=
  ofChars raw.toList

end Argument

end Courier.Template
