import Courier.Text.Digits
import Courier.Text.Casing
import Courier.Text.Split
import Courier.Text.Utf8
import Courier.Http.Request

/-! Reading the words of a command: a machine that takes one word after the other.

A flag that has a value says what the next word is for. A URL may stand anywhere, also
between such a flag and its value. Words that no flag waits for are passed over. -/

namespace Courier.Command

/-- What the next word is for. -/
inductive Pending where
  | none
  | header
  | userAgent
  | data
  | user
  | method
  | cookie
  deriving DecidableEq, Repr, Inhabited

/-- The request that the words so far describe. -/
structure Draft where
  url : Option String := none
  method : String := "GET"
  headers : List (String × String) := []
  body : String := ""
  deriving DecidableEq, Repr, Inhabited

/-- Puts the value of a header in the place of the one it has, or at the end. -/
def setField (name value : String) : List (String × String) → List (String × String)
  | [] => [(name, value)]
  | (other, v) :: rest =>
    if other = name then (name, value) :: rest else (other, v) :: setField name value rest

namespace Draft

/-- Whether there is a header of exactly this name. -/
def has (d : Draft) (name : String) : Bool :=
  d.headers.any (·.1 = name)

def set (d : Draft) (name value : String) : Draft :=
  { d with headers := setField name value d.headers }

def hasContentType (d : Draft) : Bool :=
  d.headers.any fun (name, _) => Http.isContentType name

/-- More data for the body. It makes a request that had none a form. -/
def addData (d : Draft) (data : String) : Draft :=
  let d := if d.method = "GET" ∨ d.method = "HEAD" then { d with method := "POST" } else d
  let d := if d.hasContentType then d else d.set "Content-Type" Http.formType
  { d with body := if d.body = "" then data else s!"{d.body}&{data}" }

end Draft

/-- The name and the value in a header line: the colon between them takes one space with
it, and without a colon there is no value. -/
def readField (line : String) : String × String :=
  match Text.cut? ':' line.toList with
  | none => (line, "")
  | some (name, ' ' :: value) => (String.ofList name, String.ofList value)
  | some (name, value) => (String.ofList name, String.ofList value)

/-- Credentials in the form of a header. -/
def basic (user : String) : String :=
  s!"Basic {Base64.encode (Utf8.bytes user)}"

/-- What a word means to a draft that waits for it. -/
def Draft.takeValue (d : Draft) (pending : Pending) (word : String) : Draft :=
  match pending with
  | .none => d
  | .header =>
    let (name, value) := readField word
    d.set name value
  | .userAgent => d.set "User-Agent" word
  | .data => d.addData word
  | .user => d.set "Authorization" (basic word)
  | .method => { d with method := word }
  | .cookie => d.set "Set-Cookie" word

/-- Whether a word is a URL: it starts with one of the two schemes, in any letter case. The
long s is an `s` too. -/
def isUrl (word : String) : Bool :=
  let lower := word.toList.map fun c => if c = 'ſ' then 's' else c.toLower
  "http://".toList.isPrefixOf lower || "https://".toList.isPrefixOf lower

/-- The flags that have a value, and what it is for. -/
def pendingOf? : String → Option Pending
  | "-A" | "--user-agent" => some .userAgent
  | "-H" | "--header" => some .header
  | "-d" | "--data" | "--data-ascii" | "--data-raw" | "--data-binary" => some .data
  | "-u" | "--user" => some .user
  | "-X" | "--request" => some .method
  | "-b" | "--cookie" => some .cookie
  | _ => none

/-- The encodings that a compressed answer may have. -/
def encodings : String := "deflate, gzip"

/-- One word. -/
def step (pending : Pending) (d : Draft) (word : String) : Pending × Draft :=
  if isUrl word then (pending, { d with url := some word })
  else
    match pendingOf? word with
    | some next => (next, d)
    | none =>
      if word = "-I" ∨ word = "--head" then (pending, { d with method := "HEAD" })
      else if word = "--compressed" then
        (pending, if d.has "Accept-Encoding" then d else d.set "Accept-Encoding" encodings)
      else if word = "" then (pending, d)
      else (.none, d.takeValue pending word)

/-- All words, one after the other. -/
def run (pending : Pending) (d : Draft) (words : List String) : Pending × Draft :=
  words.foldl (fun (pending, d) word => step pending d word) (pending, d)

/-- A method that is glued to its flag is a word of its own; a flag alone gets an empty
one. -/
def unglue (words : List String) : List String :=
  words.flatMap fun word =>
    match word.toList with
    | '-' :: 'X' :: method => ["-X", String.ofList method]
    | _ => [word]

end Courier.Command
