import Courier.Text.Blank
import Courier.Text.Casing

/-! Where the files of a request are looked for.

A file is named by a path and a base directory. An absolute path stands for itself. A
relative one is looked up in a root, if there is one. -/

namespace Courier.Files

/-- The directories that relative paths may start from. -/
inductive BaseDirectory where
  | document
  | desktop
  | download
  deriving DecidableEq, Repr, Inhabited

namespace BaseDirectory

/-- The directory of a name, in any letter case and between blanks; the download directory
for every other name. -/
def ofName (name : String) : BaseDirectory :=
  let name := Text.lower (Text.strip name)
  if name = "document" then .document
  else if name = "desktop" then .desktop
  else .download

def name : BaseDirectory → String
  | .document => "document"
  | .desktop => "desktop"
  | .download => "download"

end BaseDirectory

/-- The separator of directories in a path. -/
def separator : Char := '/'

/-- Whether a path starts at the top of all directories. -/
def isAbsolute (path : String) : Bool :=
  path.toList.head? = some separator

/-- A path below a directory. -/
def join (directory path : String) : String :=
  if directory = "" ∨ directory.toList.getLast? = some separator then directory ++ path
  else directory ++ String.singleton separator ++ path

/-- The full path of a file, if a root or the path itself says where to start. -/
def resolve? (root : Option String) (path : String) : Option String :=
  if isAbsolute path then some path else root.map (join · path)

end Courier.Files
