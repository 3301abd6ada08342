import Courier.Digest.Md5
import Courier.Digest.Sha256
import Courier.Text.Digits
import Courier.Json.Path
import Courier.Files.Tree
import Courier.Http.Response
import Courier.Random.Generate
import Courier.Workspace.Lookup
import Courier.Settings
import Courier.Template.Function
import Courier.Template.Value

/-! The values of calls.

The chain `a.b.c` of a call is the composition of its functions: `c` takes the argument
of the call, and each function takes the value of the one behind it. A name that no
function has passes its value on. All that functions read stands in a context, which
evaluation leaves alone; the one thing that it moves on is the source of random words. -/

namespace Courier.Template

/-- What functions read. -/
structure Context where
  listing : Workspace.Listing
  /-- The latest response for a request. -/
  latest : String → Option Http.Response
  files : Files.Reader
  /-- The file that the user picks when asked, if any. -/
  picked : Option String
  /-- The time, in seconds since 1970. -/
  seconds : Int
  settings : Settings

/-- Why a call has no value. -/
inductive Error where
  /-- The parameter of a look into a response is not an id and a path. -/
  | invalidGet (parameter : String)
  | file (reason : Files.Error)
  | store (reason : Workspace.StoreError)
  deriving DecidableEq, Repr

/-- The wording of an error. -/
def Error.message : Error → String
  | .invalidGet parameter => s!"params of get from response is invalid: {parameter}"
  | .file reason => s!"IO error: {reason.message}"
  | .store reason => s!"Store error: {reason.message}"

/-- A run that may draw random words: it gives back the source as it leaves it, whether
or not it has a result. -/
abbrev Run (ε α : Type) := Random.Source → Except ε α × Random.Source

/-- The path and the base directory that a value names. A list names a path and then a
base directory, which may be blank; any other value is a path. -/
def fileTarget (settings : Settings) : Value → String × Files.BaseDirectory
  | .list items =>
    let base := match (items[1]?.map Text.strip).filter (· ≠ "") with
      | some name => Files.BaseDirectory.ofName name
      | none => settings.defaultBase
    (items[0]?.getD "", base)
  | v => (v.toText, settings.defaultBase)

/-- The id and the path in the parameter of a look into a response. -/
def getParameters? (parameter : String) : Option (String × String) :=
  match (Text.split ',' parameter).map Text.strip with
  | [id, path] => some (id, path)
  | _ => none

/-- What stands at a path in the body of the latest response for a request. Without a
response the value stays as it is. -/
def lookInto (c : Context) (v : Value) : Except Error Value :=
  match getParameters? v.toText with
  | none => .error (.invalidGet v.toText)
  | some (id, path) =>
    match c.latest id with
    | none => .ok v
    | some response =>
      match response.content.json.bind (·.get? path) with
      | none => .ok .null
      | some found => .ok (.json found)

/-- The value of the variable that a value names; without one the value stays as it is. -/
def lookUp (c : Context) (collection : String) (v : Value) : Except Error Value :=
  match c.listing.find? collection v.toText with
  | .error e => .error (.store e)
  | .ok none => .ok v
  | .ok (some found) => .ok (.text found.value)

/-- What made-up values take from a context. -/
def Context.randomOptions (c : Context) : Random.Options where
  seconds := c.seconds
  stringLength := c.settings.randomStringLength
  localPartLength := c.settings.randomLocalPartLength
  domain := c.settings.defaultEmailDomain

/-- A function on a value. -/
def Function.apply (c : Context) (collection : String) (f : Function) (v : Value) :
    Run Error Value := fun s =>
  match f with
  | .readTextFile =>
    let (path, base) := fileTarget c.settings v
    (((c.files.readText path base).map .text).mapError .file, s)
  | .readFile =>
    let (path, base) := fileTarget c.settings v
    (((c.files path base).map .bytes).mapError .file, s)
  | .base64 => (.ok (.text (Base64.encode v.toBytes)), s)
  | .openFile => (.ok ((c.picked.map .text).getD v), s)
  | .timestamp => (.ok (.text (toString c.seconds)), s)
  | .md5 => (.ok (.text (Hex.encode (Digest.Md5.hash v.toBytes))), s)
  | .sha256 => (.ok (.text (Hex.encode (Digest.Sha256.hash v.toBytes))), s)
  | .get => (lookInto c v, s)
  | .env => (lookUp c collection v, s)
  | .random =>
    let (made, s) := Random.generate v.toList c.randomOptions s
    (.ok (.text made), s)

/-- The function of a name on a value, if there is such a function. -/
def applyName (c : Context) (collection name : String) (v : Value) : Run Error Value := fun s =>
  match Function.ofName? name with
  | none => (.ok v, s)
  | some f => f.apply c collection v s

/-- A chain on a value. -/
def evaluateChain (c : Context) (collection : String) :
    List String → Value → Run Error Value
  | [], v, s => (.ok v, s)
  | name :: names, v, s =>
    match evaluateChain c collection names v s with
    | (.ok v, s) => applyName c collection name v s
    | (.error e, s) => (.error e, s)

/-- The value of a call. -/
def Call.evaluate (c : Context) (call : Call) : Run Error Value :=
  evaluateChain c call.collection call.chain (.ofArgument call.argument)

end Courier.Template
