import Courier.Json.Document

/-! Reading typed records from documents.

A record is written as an object or as an array. In an object the fields stand under their
names in any order; other names are passed over, whatever stands under them, but no field
may stand there twice. In an array the fields stand in the order of their declaration, and
the last ones may be missing. What a missing field means is for the record to say; a null
is never a missing field. -/

namespace Courier.Json.Document

def string? : Document → Option String
  | .string s => s
  | _ => none

def bool? : Document → Option Bool
  | .bool b => some b
  | _ => none

/-- A natural number below a bound. -/
def nat? (bound : Nat) : Document → Option Nat
  | .number (some (.whole n)) => if 0 ≤ n ∧ n < bound then some n.toNat else none
  | _ => none

def list? {α : Type} (read? : Document → Option α) : Document → Option (List α)
  | .array items => items.mapM read?
  | _ => none

/-- The members of an object that is a map. -/
def map? {α : Type} (read? : Document → Option α) : Document → Option (List (String × α))
  | .object members =>
    members.mapM fun (name, document) => do
      let name ← name
      let value ← read? document
      return (name, value)
  | _ => none

/-- One of several words: a string, or an object with that one name and a null. -/
def word? {α : Type} (ofName? : String → Option α) : Document → Option α
  | .string (some s) => ofName? s
  | .object [(some name, .null)] => ofName? name
  | _ => none

/-- The fields of these names, each with its document if it has one. -/
def fields? (names : List String) : Document → Option (List (Option Document))
  | .array items =>
    if items.length ≤ names.length then
      some (items.map some ++ List.replicate (names.length - items.length) none)
    else none
  | .object members =>
    if members.any (·.1.isNone) then none
    else
      names.mapM fun name =>
        match members.filter (·.1 = some name) with
        | [] => some none
        | [(_, document)] => some (some document)
        | _ => none
  | _ => none

/-- A field that must be there. -/
def required {α : Type} (read? : Document → Option α) (field : Option Document) : Option α :=
  field.bind read?

/-- A field that has a value even where it is missing. -/
def optional {α : Type} (read? : Document → Option α) (default : α) :
    Option Document → Option α
  | none => some default
  | some document => read? document

end Courier.Json.Document
