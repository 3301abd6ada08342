import Courier.Text.Blank
import Courier.Text.Split
import Courier.Text.Utf8
import Courier.Http.Request

/-! Responses, and what their bodies say. -/

namespace Courier.Http

structure Response where
  /-- The id of the request that it answers. -/
  api : String
  status : Nat
  /-- Each header once, with its values in order. -/
  headers : List (String × List String)
  body : List UInt8
  /-- How long the answer took. -/
  latency : Nat
  deriving DecidableEq, Repr

/-- A body that has been read. -/
structure Response.Content where
  /-- The JSON value of the body, if it is JSON. -/
  json : Option Json
  text : String
  /-- The number of bytes. -/
  size : Nat

namespace Response

/-- Puts a value behind the others of its header. -/
def addHeader (r : Response) (name value : String) : Response :=
  let rec go : List (String × List String) → List (String × List String)
    | [] => [(name, [value])]
    | (other, values) :: rest =>
      if other = name then (other, values ++ [value]) :: rest else (other, values) :: go rest
  { r with headers := go r.headers }

/-- The content type, as the first header of that name in any letter case gives it. -/
def contentType? (r : Response) : Option String :=
  (r.headers.find? fun (name, _) => isContentType name).bind fun (_, values) => values.head?

/-- Whether the content type says that the body is JSON. -/
def declaresJson (r : Response) : Bool :=
  match r.contentType? with
  | none => false
  | some type => Text.occursIn "json".toList (type.toList.map Char.toLower)

/-- The body as text and, if it is declared as JSON or looks like it, as a JSON value. -/
def content (r : Response) : Content :=
  let text := Utf8.decodeLossy r.body
  let trimmed := Text.strip text
  let json := if r.declaresJson || looksLikeJson trimmed.toList then Json.parse? trimmed else none
  ⟨json, text, r.body.length⟩

/-! ### Reading and writing -/

open Json.Document

def ofDocument? (d : Json.Document) : Option Response := do
  let [api, status, headers, body, latency] ←
    fields? ["api", "status", "headers", "body", "latency"] d | none
  let bytes ← required (list? (nat? UInt8.size)) body
  return {
    api := ← required string? api
    status := ← required (nat? UInt16.size) status
    headers := ← required (map? (list? string?)) headers
    body := bytes.map UInt8.ofNat
    latency := ← required (nat? UInt64.size) latency }

def toJson (r : Response) : Json :=
  let strings (items : List String) : Json := .array (items.map .string)
  .ofMembers [
    ("api", .string r.api),
    ("status", .number (.whole r.status)),
    ("headers", .ofMembers (r.headers.map fun (name, values) => (name, strings values))),
    ("body", .array (r.body.map fun b => .number (.whole b.toNat))),
    ("latency", .number (.whole r.latency))]

end Response

end Courier.Http
