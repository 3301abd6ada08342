import Courier.Decimal.Binary64

/-! JSON documents as values.

Objects are maps from names to values: a list of members in ascending order of their
names, each name once. `insert` keeps that form, and the last of several members of one
name is the one that stays. -/

namespace Courier

/-- A number is whole and exact where it can be, and a floating-point number elsewhere. -/
inductive Json.Number where
  /-- A whole number of sixty-four bits, with or without a sign. -/
  | whole (n : Int)
  | real (x : Binary64)
  deriving DecidableEq, Repr, Inhabited

inductive Json where
  | null
  | bool (b : Bool)
  | number (n : Json.Number)
  | string (s : String)
  | array (items : List Json)
  | object (members : List (String × Json))
  deriving Repr, Inhabited

namespace Json

/-- Puts a member into a list of members in ascending order of names. -/
def insert {α : Type} (name : String) (value : α) : List (String × α) → List (String × α)
  | [] => [(name, value)]
  | (other, v) :: rest =>
    if name < other then (name, value) :: (other, v) :: rest
    else if name = other then (name, value) :: rest
    else (other, v) :: insert name value rest

/-- The map that a list of members makes, read from its start. -/
def collect {α : Type} (members : List (String × α)) : List (String × α) :=
  members.foldl (fun sorted (name, value) => insert name value sorted) []

/-- The object with these members. -/
def ofMembers (members : List (String × Json)) : Json :=
  .object (collect members)

/-- The member of that name. -/
def member? (name : String) : Json → Option Json
  | .object members => (members.find? (·.1 = name)).map (·.2)
  | _ => none

/-- The item at that place. -/
def item? (i : Nat) : Json → Option Json
  | .array items => items[i]?
  | _ => none

end Json

end Courier
