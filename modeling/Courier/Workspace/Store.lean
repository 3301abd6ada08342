import Courier.Files.Tree
import Courier.Workspace.Environment

/-! The store of environments and variables, and loading one from text or from a file. -/

namespace Courier.Workspace

/-- Environments and variables, each in the order of their addition. -/
structure Store where
  environments : List Environment
  vars : List Variable
  deriving DecidableEq, Repr

namespace Store

def empty : Store :=
  ⟨[], []⟩

def addEnvironment (s : Store) (e : Environment) : Store :=
  { s with environments := s.environments ++ [e] }

def addVariable (s : Store) (v : Variable) : Store :=
  { s with vars := s.vars ++ [v] }

/-- The environments of a collection. -/
def environmentsOf (s : Store) (collection : String) : List Environment :=
  s.environments.filter (·.collection = collection)

/-- The variables of a category in a collection. -/
def variablesOf (s : Store) (collection : String) (category : Category) : List Variable :=
  s.vars.filter fun v => v.collection = collection ∧ v.category = category

/-- Makes the environment of an id the only enabled one of its collection. There is no
store if no environment has the id; of several the first tells the collection. -/
def setActive? (s : Store) (id : String) : Option Store :=
  (s.environments.find? (·.id = id)).map fun found =>
    { s with
      environments := s.environments.map fun e =>
        if e.collection = found.collection then { e with enabled := e.id = id } else e }

end Store

/-! ### Reading and writing -/

open Json.Document

namespace Store

/-- The store of a document with a list of environments and a list of variables. -/
def ofDocument? (d : Json.Document) : Option Store := do
  let [environments, vars] ← fields? ["environments", "variables"] d | none
  let environments ← optional (list? Environment.ofDocument?) [] environments
  let vars ← optional (list? Variable.ofDocument?) [] vars
  let s := environments.foldl addEnvironment empty
  return vars.foldl addVariable s

/-- The document of these environments and variables. -/
def documentJson (environments : List Environment) (vars : List Variable) : Json :=
  .ofMembers [
    ("environments", .array (environments.map Environment.toJson)),
    ("variables", .array (vars.map Variable.toJson))]

end Store

/-! ### Loading -/

/-- Why a store cannot be read. -/
inductive StoreError where
  | notFound (what : String)
  | parse (reason : String)
  | io (reason : String)
  deriving DecidableEq, Repr

/-- The wording of an error. -/
def StoreError.message : StoreError → String
  | .notFound what => s!"Not found: {what}"
  | .parse reason => s!"Failed to parse store data: {reason}"
  | .io reason => s!"IO error: {reason}"

namespace Store

/-- The store that a text writes. What is wrong with a text that writes none is not
told. -/
def parse (text : String) : Except StoreError Store :=
  match (Json.Document.parse? text).bind ofDocument? with
  | some s => .ok s
  | none => .error (.parse "...")

/-- A file that is not there is told apart from one that cannot be read. -/
def fileError : Files.Error → StoreError
  | .notFound => .notFound Files.Error.notFound.message
  | .notText _ => .io "stream did not contain valid UTF-8"
  | e => .io e.message

/-- The store in a file of a tree. -/
def load (files : Files.Tree) (path : String) : Except StoreError Store := do
  let text ← (files.reader.readText path .download).mapError fileError
  parse text

end Store

end Courier.Workspace
