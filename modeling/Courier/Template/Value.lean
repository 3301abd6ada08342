import Courier.Text.Utf8
import Courier.Json.Printer
import Courier.Template.Argument

/-! The values that the functions of a call pass on.

A value has three views: as a text, as bytes and as a list. Each function takes the one
it needs. -/

namespace Courier.Template

inductive Value where
  | text (s : String)
  | list (items : List String)
  | bytes (bs : List UInt8)
  | json (j : Json)
  | null
  deriving Repr, Inhabited

namespace Value

/-- The value of an argument. -/
def ofArgument : Argument → Value
  | .single s => .text s
  | .list items => .list items

/-- The value as a text. A JSON string loses its quotes, and a null has no text. -/
def toText : Value → String
  | .text s => s
  | .list items => ",".intercalate items
  | .bytes bs => Utf8.decodeLossy bs
  | .json (.string s) => s
  | .json .null => ""
  | .json j => j.render
  | .null => ""

/-- The value as bytes. -/
def toBytes : Value → List UInt8
  | .bytes bs => bs
  | v => Utf8.bytes v.toText

/-- The value as a list. -/
def toList : Value → List String
  | .list items => items
  | v => [v.toText]

end Value

end Courier.Template
