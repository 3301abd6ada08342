import Courier.Json.Token

/-! JSON text as a tree, before it becomes a value.

A document keeps the members of its objects as they are written, repeated names included,
and it has a place for strings and numbers without a value. It is put together from tokens
by a machine that keeps the open arrays and objects on a stack, so there is no limit to
its depth. A value has one: `toJson?` gives up below `depthLimit` levels. -/

namespace Courier.Json

inductive Document where
  | null
  | bool (b : Bool)
  | number (n : Option Number)
  | string (s : Option String)
  | array (items : List Document)
  | object (members : List (Option String × Document))
  deriving Repr, Inhabited

namespace Document

/-- An open array or object, with what it holds so far, the latest first. -/
inductive Frame where
  | array (items : List Document)
  /-- An object, with the name of the member whose value is still to come. -/
  | object (members : List (Option String × Document)) (name : Option String)

/-- What the next token may be. -/
inductive Expected where
  | value
  /-- A value, or the end of the array just opened. -/
  | valueOrEnd
  /-- A name for this object. -/
  | name (members : List (Option String × Document))
  /-- A name, or the end of the object just opened. -/
  | nameOrEnd
  /-- The colon after a name. -/
  | colon (members : List (Option String × Document)) (name : Option String)
  /-- A comma or the end, after an item of the array. -/
  | afterItem (items : List Document)
  /-- A comma or the end, after a member of the object. -/
  | afterMember (members : List (Option String × Document))
  /-- Nothing: the document is complete. -/
  | nothing (document : Document)

/-- The machine's state: the open arrays and objects around the place it has reached. -/
structure Builder where
  frames : List Frame
  expected : Expected

/-- The state before the first token. -/
def Builder.start : Builder :=
  ⟨[], .value⟩

/-- A finished value goes to what is open around it. -/
def Builder.deliver (value : Document) : List Frame → Builder
  | [] => ⟨[], .nothing value⟩
  | .array items :: frames => ⟨frames, .afterItem (value :: items)⟩
  | .object members name :: frames => ⟨frames, .afterMember ((name, value) :: members)⟩

/-- A token where a value may begin. -/
def Builder.beginValue (frames : List Frame) : Token → Option Builder
  | .null => some (deliver .null frames)
  | .bool b => some (deliver (.bool b) frames)
  | .number n => some (deliver (.number n) frames)
  | .string s => some (deliver (.string s) frames)
  | .openBracket => some ⟨.array [] :: frames, .valueOrEnd⟩
  | .openBrace => some ⟨frames, .nameOrEnd⟩
  | _ => none

/-- One token. -/
def Builder.step (b : Builder) (token : Token) : Option Builder :=
  match b.expected, token with
  | .value, token => beginValue b.frames token
  | .valueOrEnd, .closeBracket => some (deliver (.array []) (b.frames.drop 1))
  | .valueOrEnd, token => beginValue b.frames token
  | .name members, .string s => some ⟨b.frames, .colon members s⟩
  | .nameOrEnd, .string s => some ⟨b.frames, .colon [] s⟩
  | .nameOrEnd, .closeBrace => some (deliver (.object []) b.frames)
  | .colon members name, .colon => some ⟨.object members name :: b.frames, .value⟩
  | .afterItem items, .comma => some ⟨.array items :: b.frames, .value⟩
  | .afterItem items, .closeBracket => some (deliver (.array items.reverse) b.frames)
  | .afterMember members, .comma => some ⟨b.frames, .name members⟩
  | .afterMember members, .closeBrace => some (deliver (.object members.reverse) b.frames)
  | _, _ => none

/-- The document that tokens write. -/
def ofTokens? (tokens : List Token) : Option Document :=
  match tokens.foldlM Builder.step Builder.start with
  | some ⟨_, .nothing document⟩ => some document
  | _ => none

/-- The document that a text writes. -/
def parse? (text : String) : Option Document :=
  (Token.all? text.toList).bind ofTokens?

/-- The number of levels that arrays and objects may be nested. -/
def depthLimit : Nat := 127

mutual
/-- The value of a document that may have `room` more levels. -/
def value? (room : Nat) : Document → Option Json
  | .null => some .null
  | .bool b => some (.bool b)
  | .number n => n.map .number
  | .string s => s.map .string
  | .array items =>
    match room with
    | 0 => none
    | room + 1 => (itemValues? room items).map .array
  | .object members =>
    match room with
    | 0 => none
    | room + 1 => (memberValues? room members).map ofMembers

/-- The values of items. -/
def itemValues? (room : Nat) : List Document → Option (List Json)
  | [] => some []
  | item :: items => do
    let value ← value? room item
    let values ← itemValues? room items
    return value :: values

/-- The names and values of members. -/
def memberValues? (room : Nat) : List (Option String × Document) → Option (List (String × Json))
  | [] => some []
  | (name, document) :: members => do
    let name ← name
    let value ← value? room document
    let values ← memberValues? room members
    return (name, value) :: values
end

/-- The value of a document. -/
def toJson? (d : Document) : Option Json :=
  d.value? depthLimit

mutual
/-- A value as a document. -/
def ofJson : Json → Document
  | .null => .null
  | .bool b => .bool b
  | .number n => .number (some n)
  | .string s => .string (some s)
  | .array items => .array (ofItems items)
  | .object members => .object (ofMemberList members)

def ofItems : List Json → List Document
  | [] => []
  | item :: items => ofJson item :: ofItems items

def ofMemberList : List (String × Json) → List (Option String × Document)
  | [] => []
  | (name, value) :: members => (some name, ofJson value) :: ofMemberList members
end

end Document

/-- The value that a text writes. -/
def parse? (text : String) : Option Json :=
  (Document.parse? text).bind Document.toJson?

end Courier.Json
