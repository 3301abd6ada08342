import Courier.Json.Record

/-! Environments and variables, and how they are written as JSON.

A collection has environments, of which one may be active, and variables. A variable
belongs to a category, and it may be bound to one environment of its collection. -/

namespace Courier.Workspace

structure Environment where
  id : String
  collection : String
  name : String := ""
  enabled : Bool := false
  deriving DecidableEq, Repr

/-- What a variable is for. -/
inductive Category where
  | environment
  | customize
  | globalReqHeaders
  deriving DecidableEq, Repr

namespace Category

def name : Category → String
  | .environment => "env"
  | .customize => "customize"
  | .globalReqHeaders => "globalReqHeaders"

def all : List Category :=
  [.environment, .customize, .globalReqHeaders]

def ofName? (s : String) : Option Category :=
  all.find? (·.name = s)

end Category

structure Variable where
  id : String
  category : Category
  collection : String
  /-- The id of the environment that it is bound to. -/
  environment : Option String := none
  name : String
  value : String := ""
  enabled : Bool := true
  deriving DecidableEq, Repr

/-! ### Reading and writing

Whether an entry is enabled is written as `"1"` or `"0"` and read from a Boolean too. No
environment is written as the empty id. -/

open Json.Document

/-- A status: a Boolean, or a string that is true if it is `"1"`. -/
def status? : Json.Document → Option Bool
  | .bool b => some b
  | .string s => s.map (· = "1")
  | _ => none

def statusJson (enabled : Bool) : Json :=
  .string (if enabled then "1" else "0")

/-- The id of an environment, if it is neither null nor empty. -/
def optionalId? : Json.Document → Option (Option String)
  | .null => some none
  | .string s => s.map fun id => if id = "" then none else some id
  | _ => none

def Environment.ofDocument? (d : Json.Document) : Option Environment := do
  let [id, collection, name, enabled] ← fields? ["id", "collection", "name", "enabled"] d | none
  return {
    id := ← required string? id
    collection := ← required string? collection
    name := ← optional string? "" name
    enabled := ← optional status? false enabled }

def Environment.toJson (e : Environment) : Json :=
  .ofMembers [
    ("id", .string e.id),
    ("collection", .string e.collection),
    ("name", .string e.name),
    ("enabled", statusJson e.enabled)]

def Variable.ofDocument? (d : Json.Document) : Option Variable := do
  let [id, category, collection, environment, name, value, enabled] ←
    fields? ["id", "category", "collection", "environment", "name", "value", "enabled"] d | none
  return {
    id := ← required string? id
    category := ← (required string? category).bind Category.ofName?
    collection := ← required string? collection
    environment := ← optional optionalId? none environment
    name := ← required string? name
    value := ← optional string? "" value
    enabled := ← optional status? true enabled }

def Variable.toJson (v : Variable) : Json :=
  .ofMembers [
    ("id", .string v.id),
    ("category", .string v.category.name),
    ("collection", .string v.collection),
    ("environment", .string (v.environment.getD "")),
    ("name", .string v.name),
    ("value", .string v.value),
    ("enabled", statusJson v.enabled)]

end Courier.Workspace
