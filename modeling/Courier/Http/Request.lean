import Courier.Text.Casing
import Courier.Json.Record
import Courier.Http.Method

/-! Requests and cookies, and how they are written as JSON. -/

namespace Courier.Http

/-- The content type of JSON bodies. -/
def jsonType : String := "application/json"

/-- The content type of form bodies. -/
def formType : String := "application/x-www-form-urlencoded"

/-- Whether a header has the name of the content type. -/
def isContentType (name : String) : Bool :=
  Text.sameIgnoringCase name "content-type"

/-- Whether a text looks like a JSON object or array: by its first and last character. -/
def looksLikeJson (cs : List Char) : Bool :=
  2 ≤ cs.length &&
    ((cs.head? = some '{' && cs.getLast? = some '}')
      || (cs.head? = some '[' && cs.getLast? = some ']'))

/-- A header, a pair of the query, or a part of the credentials. -/
structure Parameter where
  key : String
  value : String
  /-- Whether it takes part in the request. -/
  enabled : Bool := true
  deriving DecidableEq, Repr, Inhabited

structure Cookie where
  name : String
  value : String
  domain : String
  deriving DecidableEq, Repr

structure Request where
  method : Method
  uri : String
  body : String := ""
  contentType : String := ""
  headers : List Parameter := []
  query : List Parameter := []
  auth : List Parameter := []
  deriving DecidableEq, Repr

namespace Request

def hasBody (r : Request) : Bool :=
  r.body ≠ ""

/-- The value of the first enabled header of a name, in any letter case. -/
def header? (r : Request) (name : String) : Option String :=
  (r.headers.find? fun h => h.enabled && Text.sameIgnoringCase h.key name).map (·.value)

def addHeader (r : Request) (key value : String) : Request :=
  { r with headers := r.headers ++ [{ key, value }] }

def addQuery (r : Request) (key value : String) : Request :=
  { r with query := r.query ++ [{ key, value }] }

end Request

/-! ### Reading and writing -/

open Json.Document

def Parameter.ofDocument? (d : Json.Document) : Option Parameter := do
  let [key, value, enabled] ← fields? ["key", "value", "enabled"] d | none
  return {
    key := ← required string? key
    value := ← required string? value
    enabled := ← optional bool? true enabled }

def Parameter.toJson (p : Parameter) : Json :=
  .ofMembers [("key", .string p.key), ("value", .string p.value), ("enabled", .bool p.enabled)]

def Cookie.ofDocument? (d : Json.Document) : Option Cookie := do
  let [name, value, domain] ← fields? ["name", "value", "domain"] d | none
  return {
    name := ← required string? name
    value := ← required string? value
    domain := ← required string? domain }

def Cookie.toJson (c : Cookie) : Json :=
  .ofMembers [("name", .string c.name), ("value", .string c.value), ("domain", .string c.domain)]

def Request.ofDocument? (d : Json.Document) : Option Request := do
  let [method, uri, body, contentType, headers, query, auth] ←
    fields? ["method", "uri", "body", "contentType", "headers", "query", "auth"] d | none
  let parameters := optional (list? Parameter.ofDocument?) []
  return {
    method := ← required (word? Method.ofName?) method
    uri := ← required string? uri
    body := ← optional string? "" body
    contentType := ← optional string? "" contentType
    headers := ← parameters headers
    query := ← parameters query
    auth := ← parameters auth }

def Request.toJson (r : Request) : Json :=
  let parameters (ps : List Parameter) : Json := .array (ps.map Parameter.toJson)
  .ofMembers [
    ("method", .string r.method.name),
    ("uri", .string r.uri),
    ("body", .string r.body),
    ("contentType", .string r.contentType),
    ("headers", parameters r.headers),
    ("query", parameters r.query),
    ("auth", parameters r.auth)]

end Courier.Http
