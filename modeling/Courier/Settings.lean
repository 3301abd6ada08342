import Courier.Files.Path
import Courier.Json.Record
import Courier.Template.Scan

/-! The settings of a workspace: defaults, validity, the ones in force, and JSON. -/

namespace Courier

structure Settings where
  /-- Where files are looked for if a call does not say it. -/
  defaultBase : Files.BaseDirectory
  randomStringLength : Nat
  randomLocalPartLength : Nat
  defaultEmailDomain : String
  scanMode : Template.Mode
  /-- Whether a failed substitution gives nothing instead of a partial text. -/
  rollbackOnError : Bool
  /-- Whether lines of comments are taken out of JSON bodies. -/
  stripJsonComments : Bool
  /-- How many latest responses are kept. -/
  latestResponseLimit : Nat
  deriving DecidableEq, Repr

namespace Settings

def default : Settings where
  defaultBase := .download
  randomStringLength := 10
  randomLocalPartLength := 8
  defaultEmailDomain := "example.com"
  scanMode := .stop
  rollbackOnError := false
  stripJsonComments := true
  latestResponseLimit := 100

instance : Inhabited Settings :=
  ⟨default⟩

/-- What settings can be wrong about. -/
inductive Violation where
  | randomStringLength
  | randomLocalPartLength
  | defaultEmailDomain
  | latestResponseLimit
  deriving DecidableEq, Repr

/-- The wording of a violation. -/
def Violation.message : Violation → String
  | .randomStringLength => "randomStringLength must be greater than 0"
  | .randomLocalPartLength => "randomLocalPartLength must be greater than 0"
  | .defaultEmailDomain => "defaultEmailDomain must not be empty"
  | .latestResponseLimit => "latestResponseLimit must be greater than 0"

/-- The first violation of settings, if there is one. -/
def violation? (s : Settings) : Option Violation :=
  if s.randomStringLength = 0 then some .randomStringLength
  else if s.randomLocalPartLength = 0 then some .randomLocalPartLength
  else if Text.trim s.defaultEmailDomain.toList = [] then some .defaultEmailDomain
  else if s.latestResponseLimit = 0 then some .latestResponseLimit
  else none

/-- Settings laid over others: every one of them counts. -/
def merge (_base upper : Settings) : Settings :=
  upper

/-! ### The settings in force

Loading, changing and resetting give the settings in force afterwards. Invalid settings
never come into force. -/

/-- Settings read from a settings file come into force if they are valid. If the file has
none, or none that can be read, they are the defaults. -/
def load (given : Option Settings) : Except Violation Settings :=
  let settings := (given.map (merge default)).getD default
  match settings.violation? with
  | some violation => .error violation
  | none => .ok settings

/-- The wording of a violation that keeps settings from being loaded. -/
def loadMessage (violation : Violation) : String :=
  s!"Invalid configuration: {violation.message}"

/-- The settings in force after loading, which changes nothing if it fails. -/
def afterLoad (inForce : Settings) (given : Option Settings) : Settings :=
  match load given with
  | .ok settings => settings
  | .error _ => inForce

/-- The settings in force after a change; an invalid outcome gives the defaults. -/
def update (inForce : Settings) (change : Settings → Settings) : Settings :=
  let changed := change inForce
  if changed.violation?.isSome then default else changed

/-! ### Reading and writing -/

open Json.Document

/-- The name of a search mode. -/
def modeName : Template.Mode → String
  | .stop => "stop"
  | .skip => "skip"

def modeOfName? (s : String) : Option Template.Mode :=
  [Template.Mode.stop, .skip].find? (modeName · = s)

/-- The base directory of exactly this name. -/
def baseOfName? (s : String) : Option Files.BaseDirectory :=
  [Files.BaseDirectory.document, .desktop, .download].find? (·.name = s)

/-- Every field may be missing, and then has its default. -/
def ofDocument? (d : Json.Document) : Option Settings := do
  let [base, stringLength, localPart, domain, mode, rollback, strip, limit] ← fields?
    ["defaultBaseDir", "randomStringLength", "randomLocalPartLength", "defaultEmailDomain",
      "scanMode", "rollbackOnError", "stripJsonComments", "latestResponseLimit"] d | none
  let number := nat? UInt64.size
  return {
    defaultBase := ← optional (word? baseOfName?) default.defaultBase base
    randomStringLength := ← optional number default.randomStringLength stringLength
    randomLocalPartLength := ← optional number default.randomLocalPartLength localPart
    defaultEmailDomain := ← optional string? default.defaultEmailDomain domain
    scanMode := ← optional (word? modeOfName?) default.scanMode mode
    rollbackOnError := ← optional bool? default.rollbackOnError rollback
    stripJsonComments := ← optional bool? default.stripJsonComments strip
    latestResponseLimit := ← optional number default.latestResponseLimit limit }

def toJson (s : Settings) : Json :=
  let number (n : Nat) : Json := .number (.whole n)
  .ofMembers [
    ("defaultBaseDir", .string s.defaultBase.name),
    ("randomStringLength", number s.randomStringLength),
    ("randomLocalPartLength", number s.randomLocalPartLength),
    ("defaultEmailDomain", .string s.defaultEmailDomain),
    ("scanMode", .string (modeName s.scanMode)),
    ("rollbackOnError", .bool s.rollbackOnError),
    ("stripJsonComments", .bool s.stripJsonComments),
    ("latestResponseLimit", number s.latestResponseLimit)]

/-- The name under which a settings file holds the settings. -/
def settingsKey : String := "cyberapi"

/-- The settings in a settings file, if it has some that can be read. -/
def ofFile? (file : Json) : Option Settings :=
  (file.member? settingsKey).bind fun found => ofDocument? (.ofJson found)

end Settings

end Courier
