/-! The functions that a call may name. Most have a short name too. -/

namespace Courier.Template

inductive Function where
  | readTextFile
  | readFile
  | base64
  | openFile
  | timestamp
  | md5
  | sha256
  | get
  | env
  | random
  deriving DecidableEq, Repr

namespace Function

/-- The function of a name, long or short. -/
def ofName? : String → Option Function
  | "readTextFile" | "rtf" => some .readTextFile
  | "readFile" | "rf" => some .readFile
  | "base64" | "b64" => some .base64
  | "openFile" | "of" => some .openFile
  | "timestamp" | "ts" => some .timestamp
  | "md5" => some .md5
  | "sha256" => some .sha256
  | "get" | "g" => some .get
  | "env" => some .env
  | "random" => some .random
  | _ => none

/-- The long name of a function. -/
def name : Function → String
  | .readTextFile => "readTextFile"
  | .readFile => "readFile"
  | .base64 => "base64"
  | .openFile => "openFile"
  | .timestamp => "timestamp"
  | .md5 => "md5"
  | .sha256 => "sha256"
  | .get => "get"
  | .env => "env"
  | .random => "random"

end Function

end Courier.Template
