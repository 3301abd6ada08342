import Courier.Workspace.Store

/-! Looking up variables.

Lookup needs two listings of a collection, which a store gives at once and another source
of variables may fail to give. A variable bound to the active environment comes before an
unbound one, and without an active environment only unbound ones count. -/

namespace Courier.Workspace

/-- A source of environments and variables. -/
structure Listing where
  environmentsOf : String → Except StoreError (List Environment)
  variablesOf : String → Category → Except StoreError (List Variable)

/-- The listings of a store. -/
def Store.listing (s : Store) : Listing where
  environmentsOf := fun collection => .ok (s.environmentsOf collection)
  variablesOf := fun collection category => .ok (s.variablesOf collection category)

/-- The id of the first enabled environment. -/
def activeOf (environments : List Environment) : Option String :=
  (environments.find? (·.enabled)).map (·.id)

/-- The first enabled variable of a name that is bound to `environment`, or unbound. -/
def boundTo? (name : String) (environment : Option String) (vars : List Variable) :
    Option Variable :=
  vars.find? fun v => v.enabled && v.name = name && v.environment = environment

/-- The variable of a name for an active environment, or for none. -/
def choose? (name : String) (active : Option String) (vars : List Variable) :
    Option Variable :=
  match boundTo? name active vars with
  | some v => some v
  | none => if active.isSome then boundTo? name none vars else none

namespace Listing

/-- The id of the active environment of a collection. -/
def active? (l : Listing) (collection : String) : Except StoreError (Option String) :=
  (l.environmentsOf collection).map activeOf

/-- The variable of a name in a collection. -/
def find? (l : Listing) (collection name : String) : Except StoreError (Option Variable) := do
  let active ← l.active? collection
  let bound ← l.variablesOf collection .environment
  let custom ← l.variablesOf collection .customize
  return choose? name active (bound ++ custom)

end Listing

end Courier.Workspace
